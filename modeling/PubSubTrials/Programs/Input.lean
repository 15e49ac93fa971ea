import PubSubTrials.Programs.Options

/-!
# Inputs of programs

A program reads the files that its operands name one after the other, a dash standing for its
input, and so does the lack of operands. Lines are taken as they come, so that a program can
answer a line before the next one is written.
-/

namespace PubSubTrials.Programs

open Host (Course Taking)

/-- An input that is read. -/
structure Source where
  descriptor : Nat
  /-- What was read and not used yet. -/
  pending : Octets
  ended : Bool
  /-- Whether no more is read than is used. -/
  frugal : Bool
  deriving Repr

namespace Source

/-- An input of which nothing was read. -/
def ofDescriptor (descriptor : Nat) : Source := ⟨descriptor, [], false, false⟩

/-- Read more; what cannot be read counts as ended. -/
def more (source : Source) : Running (Source × Option SystemError) := do
  let taking : Taking := if source.frugal then .line else .atMost Course.readAtOnce
  match ← Running.ask (Course.read taking source.descriptor) with
  | .ok [] => return ({ source with ended := true }, none)
  | .ok text => return ({ source with pending := source.pending ++ text }, none)
  | .error error => return ({ source with ended := true }, some error)

end Source

/-- A line without its end. -/
structure Line where
  text : Octets
  /-- Whether it was ended. -/
  isEnded : Bool
  deriving DecidableEq, Repr

namespace Line

/-- The line as it stands in its input. -/
def source (line : Line) (separator : Char) : Octets :=
  if line.isEnded then line.text ++ [separator] else line.text

end Line

/-- How a program goes on after a line. -/
inductive Onward (σ : Type) where
  | next (state : σ)
  /-- Read no more of this input. -/
  | enough (state : σ)

/-- Do something for every line of an input; `fuel` bounds the number of steps. -/
def foldLinesFrom {σ : Type} (separator : Char) (trouble : SystemError → Running Unit)
    (f : σ → Line → Running (Onward σ)) : Nat → Source → σ → Running (σ × Source)
  | 0, source, state => return (state, source)
  | fuel + 1, source, state => do
    match Octets.cutAt (· = separator) source.pending with
    | (text, _ :: rest) =>
      let source := { source with pending := rest }
      match ← f state ⟨text, true⟩ with
      | .next state => foldLinesFrom separator trouble f fuel source state
      | .enough state => return (state, source)
    | (text, []) =>
      if source.ended then
        if text.isEmpty then return (state, source)
        else
          let source := { source with pending := [] }
          match ← f state ⟨text, false⟩ with
          | .next state => return (state, source)
          | .enough state => return (state, source)
      else
        let (source, error?) ← source.more
        match error? with
        | some error => trouble error
        | none => pure ()
        foldLinesFrom separator trouble f fuel source state

/-- Do something for every line of an input. -/
def foldLines {σ : Type} (separator : Char) (trouble : SystemError → Running Unit)
    (source : Source) (state : σ) (f : σ → Line → Running (Onward σ)) : Running (σ × Source) :=
  foldLinesFrom separator trouble f Course.manyTimes source state

/-- Do something with an open input, and close it if it was opened for that. -/
def withSource {α : Type} (name : Octets) (refused : SystemError → Running α)
    (use : Source → Running α) : Running α := do
  if name = ['-'] then use (.ofDescriptor 0)
  else
    match ← Running.ask (Course.openFile ⟨Octets.toText name⟩ .read) with
    | .error error => refused error
    | .ok handle =>
      let descriptor ← Running.ask (Course.keep handle)
      let result ← use (.ofDescriptor descriptor)
      Running.ask (Course.redirect descriptor none)
      return result

/-- The inputs that operands name. -/
def inputsOf (operands : List Octets) : List Octets :=
  if operands.isEmpty then [['-']] else operands

/-- Complain about an input. -/
def complainInput (name : Octets) (error : SystemError) : Running Unit :=
  Running.complain (name ++ [':', ' '] ++ error.reason.toList) 1

/-- Do something for every line of all inputs. -/
def foldInputs {σ : Type} (separator : Char) (refused : Octets → SystemError → Running Unit)
    (f : σ → Line → Running (Onward σ)) : List Octets → σ → Running σ
  | [], state => return state
  | name :: rest, state => do
    let state ← withSource name
      (fun error => do
        refused name error
        return state)
      (fun source => return (← foldLines separator (refused name) source state f).1)
    foldInputs separator refused f rest state

/-- All that an input holds. -/
def textOf (name : Octets) (refused : Octets → SystemError → Running Unit) : Running Octets :=
  withSource name
    (fun error => do
      refused name error
      return [])
    (fun source => do
      match ← Running.ask (Course.readAll source.descriptor) with
      | .ok text => return text
      | .error error =>
        refused name error
        return [])

/-- Lines of a text. -/
def linesOf (separator : Char) (text : Octets) : List Line :=
  let parts := Octets.splitOn separator text
  match parts.getLast? with
  | some [] => parts.dropLast.map (⟨·, true⟩)
  | some last => parts.dropLast.map (⟨·, true⟩) ++ [⟨last, false⟩]
  | none => []

/-! ## Numbers of operands -/

/-- The factor of a unit that follows a count. -/
def factor? (unit : Octets) : Option Nat :=
  let letters : List (Char × Nat) :=
    [('K', 1), ('M', 2), ('G', 3), ('T', 4), ('P', 5), ('E', 6)]
  match unit with
  | [] => some 1
  | ['b'] => some 512
  | ['k'] => some 1024
  | [c] => (letters.lookup c).map (fun n => Nat.pow 1024 n)
  | [c, 'B'] => (letters.lookup c.toUpper).map (fun n => Nat.pow 1000 n)
  | [c, 'i', 'B'] => (letters.lookup c).map (fun n => Nat.pow 1024 n)
  | _ => none

/-- The count that a text stands for: digits with a unit. -/
def count? (text : Octets) : Option Nat :=
  let digits := text.takeWhile Char.isDigit
  if digits.isEmpty then none
  else
    (factor? (text.drop digits.length)).map (fun n =>
      ((String.ofList digits).toNat?.getD 0) * n)

end PubSubTrials.Programs
