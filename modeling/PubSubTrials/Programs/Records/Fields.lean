import PubSubTrials.Programs.Records.Value
import PubSubTrials.Text.Regex

/-!
# Fields of records

A record is cut into fields at its separators, and a script may replace what matches a pattern.
-/

namespace PubSubTrials.Records

/-- What separates fields. -/
inductive Separator where
  /-- Blanks, also at both ends. -/
  | blanks
  /-- Nothing: every character is a field. -/
  | nothing
  | char (c : Char)
  | pattern (pattern : Regex.Pattern)

namespace Separator

/-- The pattern that a text stands for; one that cannot be read matches only itself. -/
def patternOf (source : Octets) : Regex.Pattern :=
  match Regex.parse .record false source with
  | .ok known => known
  | .error _ => ⟨source.foldr (fun c rest => .both (.one c) rest) .empty, 0, false⟩

/-- The separator that a text stands for. -/
def ofText : Octets → Separator
  | [' '] => blanks
  | [] => nothing
  | [c] => char c
  | source => pattern (patternOf source)

end Separator

/-- Words between blanks. -/
def wordsFrom : Nat → Octets → List Octets
  | 0, _ => []
  | fuel + 1, text =>
    let rest := text.dropWhile Octets.isBlankOrEnd
    if rest.isEmpty then []
    else
      let word := rest.takeWhile (fun c => !Octets.isBlankOrEnd c)
      word :: wordsFrom fuel (rest.drop word.length)

/-- Parts between matches that are not empty. -/
def partsFrom (pattern : Regex.Pattern) (text : Array Char) :
    Nat → Nat → Nat → List Octets
  | 0, start, _ => [(text.extract start text.size).toList]
  | fuel + 1, start, place =>
    match pattern.find? text true place with
    | none => [(text.extract start text.size).toList]
    | some found =>
      if found.start = found.stop then
        if text.size ≤ found.stop then [(text.extract start text.size).toList]
        else partsFrom pattern text fuel start (found.stop + 1)
      else
        (text.extract start found.start).toList ::
          partsFrom pattern text fuel found.stop found.stop

/-- The fields of a text; `takesLines` tells whether a line end separates them, too. -/
def fieldsOf (separator : Separator) (takesLines : Bool) (text : Octets) : List Octets :=
  if text.isEmpty then []
  else
    match separator with
    | .blanks => wordsFrom (text.length + 1) text
    | .nothing => text.map (fun c => [c])
    | .char c =>
      if takesLines then
        (Octets.splitOn '\n' text).flatMap (fun line => Octets.splitOn c line)
      else Octets.splitOn c text
    | .pattern pattern =>
      let parts (text : Octets) : List Octets :=
        partsFrom pattern text.toArray (text.length + 1) 0 0
      if takesLines then (Octets.splitOn '\n' text).flatMap parts else parts text

/-! ## Replacing -/

/-- What a match is replaced by: an ampersand stands for the match. -/
def replacement (found : Octets) : Octets → Octets
  | '\\' :: '&' :: rest => '&' :: replacement found rest
  | '\\' :: '\\' :: rest => '\\' :: replacement found rest
  | '&' :: rest => found ++ replacement found rest
  | c :: rest => c :: replacement found rest
  | [] => []

/-- A text with matches replaced from a place on, and their number; `before` is the end of the
match before. -/
def substituteFrom (pattern : Regex.Pattern) (source : Octets) (all : Bool) (text : Array Char) :
    Nat → Nat → Option Nat → Octets × Nat
  | 0, place, _ => ((text.extract place text.size).toList, 0)
  | fuel + 1, place, before =>
    if text.size < place then ([], 0)
    else
      match pattern.find? text true place with
      | none => ((text.extract place text.size).toList, 0)
      | some found =>
        let lead := (text.extract place found.start).toList
        let isEmpty := found.start = found.stop
        let passed : Octets :=
          if isEmpty then (text.extract found.stop (found.stop + 1)).toList else []
        let next := if isEmpty then found.stop + 1 else found.stop
        if isEmpty ∧ before = some found.start then
          let (rest, count) := substituteFrom pattern source all text fuel next none
          (lead ++ passed ++ rest, count)
        else
          let put := lead ++ replacement (found.text text 0) source ++ passed
          if all then
            let (rest, count) :=
              substituteFrom pattern source all text fuel next (some found.stop)
            (put ++ rest, count + 1)
          else (put ++ (text.extract next text.size).toList, 1)

/-- A text with matches replaced, and their number. -/
def substitute (pattern : Regex.Pattern) (source : Octets) (all : Bool) (text : Octets) :
    Octets × Nat :=
  substituteFrom pattern source all text.toArray (text.length + 2) 0 none

/-- A part of a text by the place of its first character and perhaps its length. -/
def partOf (text : Octets) (place : Int) (length : Option Int) : Octets :=
  let start := (max place 1).toNat - 1
  match length with
  | none => text.drop start
  | some length => (text.drop start).take (if place < 0 then length - place else length).toNat

end PubSubTrials.Records
