import PubSubTrials.Files.Path
import PubSubTrials.Text.Quoted

/-!
# Implementations

An implementation is an application with a name. Where several take part, each is given as its
name, an equals sign and the path of its executable; names differ, and the first equals sign
ends the name.
-/

namespace PubSubTrials

/-- A named application. -/
structure Implementation where
  name : String
  path : Path
  deriving DecidableEq, Repr, Inhabited

/-- Why arguments are refused. -/
inductive ArgumentError where
  | timeoutTooShort (seconds : Nat)
  | malformedImplementation (text : String)
  | repeatedImplementation (name : String)
  deriving DecidableEq, Repr

/-- How the refusal of arguments reads. -/
def ArgumentError.message : ArgumentError → String
  | timeoutTooShort seconds => "timeout-sec must be at least 1, got " ++ toString seconds
  | malformedImplementation text => "--exe must look like NAME=PATH, got " ++ Text.quote text
  | repeatedImplementation name => "implementation " ++ name ++ " is given twice"

namespace Implementation

/-- An application named after its executable: the file's name without its extension, or the
whole path when that names no file. -/
def ofPath (path : Path) : Implementation :=
  ⟨path.fileStem?.getD path.text, path⟩

/-- The parts of a text before and after the first equals sign. -/
def split? : List Char → Option (List Char × List Char)
  | [] => none
  | c :: rest =>
    if c = '=' then some ([], rest)
    else (split? rest).map (fun (name, path) => (c :: name, path))

/-- The first equals sign of a text is the one behind a part that has none. -/
theorem split?_eq_some_iff {text name path : List Char} :
    split? text = some (name, path) ↔ text = name ++ '=' :: path ∧ '=' ∉ name := by
  induction text generalizing name with
  | nil => simp [split?]
  | cons c rest ih =>
    unfold split?
    by_cases hc : c = '='
    · subst hc
      cases name with
      | nil => simp [eq_comm]
      | cons d name => simp +contextual [eq_comm]
    · rw [if_neg hc]
      cases name with
      | nil => simp [hc]
      | cons d name =>
        constructor
        · intro h
          obtain ⟨⟨name', path'⟩, hsplit, heq⟩ := Option.map_eq_some_iff.mp h
          obtain ⟨⟨rfl, rfl⟩, rfl⟩ := by simpa using heq
          obtain ⟨rfl, hname⟩ := ih.mp hsplit
          exact ⟨rfl, by simp [hname, Ne.symm hc]⟩
        · rintro ⟨heq, hname⟩
          obtain ⟨rfl, rfl⟩ := List.cons.inj heq
          rw [ih.mpr ⟨rfl, fun hmem => hname (List.mem_cons_of_mem _ hmem)⟩]
          rfl

/-- The implementation that a text gives by name and path. -/
def parse (text : String) : Except ArgumentError Implementation :=
  match split? text.toList with
  | some (name@(_ :: _), path@(_ :: _)) => .ok ⟨String.ofList name, ⟨String.ofList path⟩⟩
  | _ => .error (.malformedImplementation text)

/-- The implementations that texts give, none under one of the names in `taken`. -/
def parseAllFrom (taken : List String) : List String → Except ArgumentError (List Implementation)
  | [] => .ok []
  | text :: rest =>
    match parse text with
    | .error error => .error error
    | .ok implementation =>
      if taken.contains implementation.name then
        .error (.repeatedImplementation implementation.name)
      else
        (parseAllFrom (implementation.name :: taken) rest).map (implementation :: ·)

/-- The implementations that texts give; the first text that is malformed or repeats a name is
refused. -/
def parseAll (texts : List String) : Except ArgumentError (List Implementation) :=
  parseAllFrom [] texts

end Implementation

end PubSubTrials
