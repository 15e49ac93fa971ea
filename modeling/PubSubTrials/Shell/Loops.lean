import PubSubTrials.Shell.Builtins.Input
import PubSubTrials.Shell.Conditions
import PubSubTrials.Shell.Menu

/-!
# Loops

Loops go on while a command succeeds or fails, over words, with a counter, or as long as somebody
chooses from a menu. A turn may have the rest of it passed over, the rest of the loop, and the
rest of loops around it.
-/

namespace PubSubTrials.Shell.Loops

/-! ## Passing over -/

/-- What a turn of a loop ends with: whether the rest of it was passed over, and whether the loop
ends. -/
def endTurn : Scripting (Bool × Bool) := do
  let session ← get
  match session.skip with
  | .nothing => return (false, false)
  | .function => return (true, true)
  | .loops count goesOn =>
    if count ≤ 1 then
      set { session with skip := .nothing }
      return (true, !goesOn)
    else
      set { session with skip := .loops (count - 1) goesOn }
      return (true, true)

/-- Carry out the turns of a loop. -/
def within (steps : Scripting Nat) : Scripting Nat := do
  modify (fun session => { session with loops := session.loops + 1 })
  Scripting.ensuring steps
    (modify (fun session => { session with loops := session.loops - 1 }))

/-- The stance of commands in a loop. -/
def stanceIn (stance : Stance) : Stance := ⟨stance.isTested, false⟩

/-! ## Tests -/

/-- A loop from its next turn on. -/
def again (perform : Performer) (stance : Stance) (endsOnSuccess : Bool) (test body : Command)
    (status : Nat) : Scripting Nat := do
  let tested ← perform (.command .tested test)
  let leaves := (← get).skip = .function
  let (skips, ends) ← endTurn
  if skips then
    let status := if leaves then tested else status
    if ends then return status else perform (.again stance endsOnSuccess test body status)
  else if (tested = 0) = endsOnSuccess then return status
  else
    let status ← perform (.command stance body)
    let (_, ends) ← endTurn
    if ends then return status else perform (.again stance endsOnSuccess test body status)

/-! ## Words -/

/-- The words of a loop about as they were written, if it has any. -/
def source (values : Option (List Word)) : Octets :=
  match values with
  | some words => " in ".toList ++ Octets.joined [' '] (words.map Word.source)
  | none => []

/-- The values of a loop over words. -/
def valuesOf (perform : Performer) (values : Option (List Word)) : Scripting (List Octets) := do
  match values with
  | some words => Expansion.allFields perform words
  | none => return (← get).arguments

/-- Carry out a loop unless the name of its variable is none. -/
def demandingName (name : Octets) (loop : Scripting Nat) : Scripting Nat := do
  if isName name then loop
  else
    Scripting.warn (['\x60'] ++ name ++ "': not a valid identifier".toList)
    return 1

/-- A loop over values. -/
def overValues (perform : Performer) (stance : Stance) (name : Octets) (trace : Octets)
    (body : Command) : List Octets → Nat → Scripting Nat
  | [], status => return status
  | value :: rest, _ => do
    Simple.trace perform trace
    Subshell.seize perform Subshell.beforeCommand
    Scripting.assign name value
    let status ← perform (.command stance body)
    let (_, ends) ← endTurn
    if ends then return status else overValues perform stance name trace body rest status

/-- A loop over words, or over the arguments. -/
def each (perform : Performer) (stance : Stance) (name : Octets) (values : Option (List Word))
    (body : Command) : Scripting Nat :=
  demandingName name (do
    let trace := "for ".toList ++ name ++ source values
    let values ← valuesOf perform values
    within (overValues perform (stanceIn stance) name trace body values 0))

/-! ## Counters -/

/-- The value of an expression; a missing one is true. There is none if something is wrong with
it. -/
def valueOf? (perform : Performer) (expression : Word) : Scripting (Option Int) := do
  let text ← Expansion.single perform expression
  let text := if text.all Octets.isSpace then ['1'] else text
  Simple.trace perform ("(( ".toList ++ text ++ " ))".toList)
  Conditions.calculated? "((" text

/-- A loop with a counter from its next turn on. -/
def counting (perform : Performer) (stance : Stance) (test next : Word) (body : Command)
    (status : Nat) : Scripting Nat := do
  match ← valueOf? perform test with
  | none => return 1
  | some 0 => return status
  | some _ =>
    let status ← perform (.command stance body)
    let (_, ends) ← endTurn
    if ends then return status
    else
      match ← valueOf? perform next with
      | none => return 1
      | some _ => perform (.counting stance test next body status)

/-- A loop with a counter. -/
def count (perform : Performer) (stance : Stance) (start test next : Word) (body : Command) :
    Scripting Nat := do
  match ← valueOf? perform start with
  | none => return 1
  | some _ => within (perform (.counting (stanceIn stance) test next body 0))

/-! ## Choices by somebody -/

/-- Ask for one of several items until there is an answer; there is none at the end of the input.
The menu is shown first if `shows` says so, and after every empty answer; `fuel` bounds their
number. -/
def ask (items : List Octets) : Nat → Bool → Scripting (Option Octets)
  | 0, _ => return none
  | fuel + 1, shows => do
    let session ← get
    let room := ((session.lookup? "COLUMNS").bind Arguments.number?).getD 80
    if shows then
      (Menu.lines room items).forM (fun line => Scripting.emit 2 (line ++ [Octets.lineEnd]))
    Scripting.emit 2 ((session.lookup? "PS3").getD "#? ".toList)
    if (← Builtins.read []) ≠ 0 then
      Scripting.sayLine []
      return none
    else
      let answer := ((← get).lookup? "REPLY").getD []
      if answer.isEmpty then ask items fuel true else return some answer

/-- A loop over chosen items; `fuel` bounds the number of turns. -/
def overChosen (perform : Performer) (stance : Stance) (name : Octets) (items : List Octets)
    (body : Command) : Nat → Bool → Scripting Nat
  | 0, _ => return 1
  | fuel + 1, shows => do
    match ← ask items Reading.manyTimes shows with
    | none => return 1
    | some answer =>
      Scripting.assign name (Menu.chosen items answer)
      let status ← perform (.command stance body)
      let (_, ends) ← endTurn
      let shows := ((← get).lookup? "REPLY").getD [] = []
      if ends then return status else overChosen perform stance name items body fuel shows

/-- A loop over items that somebody chooses. -/
def menu (perform : Performer) (stance : Stance) (name : Octets) (values : Option (List Word))
    (body : Command) : Scripting Nat :=
  demandingName name (do
    Simple.trace perform ("select ".toList ++ name ++ source values)
    let items ← valuesOf perform values
    if items.isEmpty then return 0
    else within (overChosen perform (stanceIn stance) name items body Reading.manyTimes true))

end PubSubTrials.Shell.Loops
