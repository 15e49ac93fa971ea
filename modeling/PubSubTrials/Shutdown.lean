/-!
# Requests to stop

Between two cases a run asks whether it should stop. The answer comes from outside; here it is
a value that every question turns into the next one.
-/

namespace PubSubTrials

/-- When to stop. -/
inductive Shutdown where
  | never
  | always
  /-- After `checks` more questions answered with no. -/
  | after (checks : Nat)
  /-- Once the flag is set. -/
  | flag (isSet : Bool)
  deriving DecidableEq, Repr, Inhabited

namespace Shutdown

/-- Ask whether to stop. -/
def check : Shutdown → Bool × Shutdown
  | never => (false, never)
  | always => (true, always)
  | after 0 => (true, after 0)
  | after (n + 1) => (false, after n)
  | flag isSet => (isSet, flag isSet)

/-- Set the flag, if there is one. -/
def trigger : Shutdown → Shutdown
  | flag _ => flag true
  | other => other

end Shutdown

end PubSubTrials
