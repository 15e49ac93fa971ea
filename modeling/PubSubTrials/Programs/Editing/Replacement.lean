import PubSubTrials.Programs.Editing.Script

/-!
# Replacements in lines

Matches of a pattern are replaced from left to right. An empty match right after another match does
not count. The letters of a replacement may be changed on the way.
-/

namespace PubSubTrials.Editing

/-- How the letters that come next are changed. -/
structure Casing where
  /-- For all letters to come. -/
  lasting : Option Recasing
  /-- For the next letter. -/
  once : Option Recasing

/-- A text with its letters changed, and how later ones are. -/
def recased (casing : Casing) (text : Octets) : Octets × Casing :=
  let all : Octets :=
    match casing.lasting with
    | some .upper => text.map Char.toUpper
    | some .lower => text.map Char.toLower
    | _ => text
  match all, casing.once with
  | first :: rest, some .nextUpper => (first.toUpper :: rest, { casing with once := none })
  | first :: rest, some .nextLower => (first.toLower :: rest, { casing with once := none })
  | all, _ => (all, casing)

/-- What a match is replaced by. -/
def replacementOf (text : Array Char) (found : Regex.Match) (pieces : List Piece) : Octets :=
  (pieces.foldl (fun (taken, casing) piece =>
    match piece with
    | .text part =>
      let (part, casing) := recased casing part
      (taken ++ part, casing)
    | .group number =>
      let (part, casing) := recased casing (found.text text number)
      (taken ++ part, casing)
    | .recase .upper => (taken, ⟨some .upper, none⟩)
    | .recase .lower => (taken, ⟨some .lower, none⟩)
    | .recase .stop => (taken, ⟨none, none⟩)
    | .recase next => (taken, { casing with once := some next }))
    (([], ⟨none, none⟩) : Octets × Casing)).1

/-- A text with matches replaced, and whether there were any. From `place` on, `count` matches
were passed, the last of which ended at `before`. -/
def replaceFrom (pattern : Regex.Pattern) (what : Substitution) (text : Array Char) :
    Nat → Nat → Option Nat → Nat → Octets × Bool
  | 0, place, _, _ => ((text.extract place text.size).toList, false)
  | fuel + 1, place, before, count =>
    match pattern.find? text true place with
    | none => ((text.extract place text.size).toList, false)
    | some found =>
      let lead := (text.extract place found.start).toList
      let isEmpty := found.start = found.stop
      let passed : Octets :=
        if isEmpty then (text.extract found.stop (found.stop + 1)).toList else []
      let next := if isEmpty then found.stop + 1 else found.stop
      if isEmpty ∧ before = some found.start then
        let (rest, any) := goOn fuel next none count
        (lead ++ passed ++ rest, any)
      else if count + 1 < what.number then
        let (rest, any) := goOn fuel next (some found.stop) (count + 1)
        (lead ++ (text.extract found.start found.stop).toList ++ passed ++ rest, any)
      else
        let replaced := lead ++ replacementOf text found what.replacement ++ passed
        if what.all then (replaced ++ (goOn fuel next (some found.stop) (count + 1)).1, true)
        else (replaced ++ (text.extract next text.size).toList, true)
where
  /-- Go on unless the end of the text was passed. -/
  goOn (fuel place : Nat) (before : Option Nat) (count : Nat) : Octets × Bool :=
    if text.size < place then ([], false)
    else replaceFrom pattern what text fuel place before count

/-- A text with matches replaced, and whether there were any. -/
def replace (pattern : Regex.Pattern) (what : Substitution) (text : Octets) : Octets × Bool :=
  replaceFrom pattern what text.toArray (text.length + 2) 0 none 0

/-! ## Showing all characters -/

/-- A text with all characters shown that cannot be printed. -/
def shown (c : Char) : Octets :=
  let controls : List (Char × Char) :=
    [('\\', '\\'), ('\x07', 'a'), ('\x08', 'b'), ('\x0c', 'f'), ('\n', 'n'), ('\r', 'r'),
      ('\t', 't'), ('\x0b', 'v')]
  match controls.lookup c with
  | some letter => ['\\', letter]
  | none =>
    if 32 ≤ c.toNat ∧ c.toNat < 127 then [c]
    else
      let digits := Nat.toDigits 8 c.toNat
      '\\' :: List.replicate (3 - digits.length) '0' ++ digits

/-- The pattern space in short lines that show everything, a dollar sign at its end. -/
def listed (text : Octets) : Octets :=
  let widest : Nat := 69
  let (taken, _) := text.foldl (fun (taken, width) c =>
    let part := shown c
    if widest < width + part.length then (taken ++ ['\\', '\n'] ++ part, part.length)
    else (taken ++ part, width + part.length)) (([], 0) : Octets × Nat)
  taken ++ ['$', '\n']

end PubSubTrials.Editing
