import PubSubTrials.Files.Tree
import PubSubTrials.Text.Classes
import PubSubTrials.Text.Octets

/-!
# Patterns of scripts

A pattern is compared with a whole text, byte by byte: a question mark stands for one byte, a
star for any number of them, and brackets for one of those in them. Where groups are known, a sign
in front of patterns in parentheses tells how often one of these may match. Names of files are
found by patterns step by step along their paths.
-/

namespace PubSubTrials.Shell

/-- A character of a pattern; one that was quoted stands for itself. -/
structure PatternChar where
  isActive : Bool
  char : Char
  deriving DecidableEq, Repr

namespace Pattern

/-- What may stand in brackets. -/
inductive Item where
  | one (c : Char)
  | range (first last : Char)
  | group (name : String)
  deriving DecidableEq, Repr

/-- How often a pattern of a group may match. -/
inductive Times where
  | once
  | atMostOnce
  | anyNumber
  | atLeastOnce
  /-- What is there matches no pattern of the group. -/
  | never
  deriving DecidableEq, Repr

/-- The sign in front of a group. -/
def Times.ofSign? : Char → Option Times
  | '@' => some once
  | '?' => some atMostOnce
  | '*' => some anyNumber
  | '+' => some atLeastOnce
  | '!' => some never
  | _ => none

/-- A piece of a pattern. -/
inductive Element where
  | one (c : Char)
  | any
  | many
  | oneOf (negated : Bool) (items : List Item)
  | group (times : Times) (patterns : List (List Element))
  deriving Repr

/-- Whether a character is what an item stands for. -/
def Item.accepts (c : Char) : Item → Bool
  | one d => c = d
  | range first last => first ≤ c && c ≤ last
  | group name => CharClass.holds name c

/-- The name of a group at the start of a text, and what comes after it. -/
def group? (text : List PatternChar) : Option (String × List PatternChar) :=
  match text with
  | ⟨_, '['⟩ :: ⟨_, ':'⟩ :: rest =>
    let name := rest.takeWhile (fun c => c.char.isAlpha)
    match rest.drop name.length with
    | ⟨_, ':'⟩ :: ⟨_, ']'⟩ :: after =>
      let name := String.ofList (name.map PatternChar.char)
      if CharClass.names.contains name then some (name, after) else none
    | _ => none
  | _ => none

/-- A character without a backslash before it. -/
def unescape : List PatternChar → List PatternChar
  | ⟨true, '\\'⟩ :: ⟨_, c⟩ :: rest => ⟨false, c⟩ :: rest
  | text => text

/-- The items in brackets and what comes after these, if they are closed; a closing bracket that
comes first is an item. -/
def items? : Nat → Bool → List Item → List PatternChar → Option (List Item × List PatternChar)
  | 0, _, _, _ => none
  | fuel + 1, isFirst, taken, text =>
    match group? text with
    | some (name, rest) => items? fuel false (.group name :: taken) rest
    | none =>
      match unescape text with
      | [] => none
      | ⟨isActive, c⟩ :: rest =>
        if c = ']' ∧ isActive ∧ !isFirst then some (taken.reverse, rest)
        else
          match rest with
          | ⟨true, '-'⟩ :: ⟨lastActive, last⟩ :: after =>
            if last = ']' ∧ lastActive then items? fuel false (.one c :: taken) rest
            else
              match unescape (⟨lastActive, last⟩ :: after) with
              | ⟨_, last⟩ :: after => items? fuel false (.range c last :: taken) after
              | [] => none
          | _ => items? fuel false (.one c :: taken) rest

/-- The patterns of a group up to the parenthesis that closes it, and what comes after that. -/
def members? : Nat → List PatternChar → List (List PatternChar) → List PatternChar →
    Option (List (List PatternChar) × List PatternChar)
  | _, _, _, [] => none
  | depth, taken, done, ⟨false, c⟩ :: rest => members? depth (⟨false, c⟩ :: taken) done rest
  | depth, taken, done, ⟨true, c⟩ :: rest =>
    let more := ⟨true, c⟩ :: taken
    match c, depth with
    | ')', 0 => some ((taken.reverse :: done).reverse, rest)
    | '|', 0 => members? 0 [] (taken.reverse :: done) rest
    | '(', depth => members? (depth + 1) more done rest
    | ')', depth + 1 => members? depth more done rest
    | _, depth => members? depth more done rest

/-- What starts a group, if one starts here. -/
def groupStart? (text : List PatternChar) :
    Option (Times × List (List PatternChar) × List PatternChar) :=
  match text with
  | ⟨true, sign⟩ :: ⟨true, '('⟩ :: rest =>
    match Times.ofSign? sign, members? 0 [] [] rest with
    | some times, some (members, after) => some (times, members, after)
    | _, _ => none
  | _ => none

/-- Which patterns are known. -/
structure Known where
  /-- Signs after an opening bracket that mean that no item may match. -/
  negations : List Char
  hasGroups : Bool
  deriving Repr

/-- The pieces of a pattern. -/
def parse (known : Known) : Nat → List PatternChar → List Element
  | 0, _ => []
  | fuel + 1, text =>
    match if known.hasGroups then groupStart? text else none with
    | some (times, members, after) =>
      .group times (members.map (parse known fuel)) :: parse known fuel after
    | none =>
      match text with
      | [] => []
      | ⟨false, c⟩ :: rest => .one c :: parse known fuel rest
      | ⟨true, '\\'⟩ :: ⟨_, c⟩ :: rest => .one c :: parse known fuel rest
      | ⟨true, '?'⟩ :: rest => .any :: parse known fuel rest
      | ⟨true, '*'⟩ :: rest => .many :: parse known fuel rest
      | ⟨true, '['⟩ :: rest =>
        let (negated, inside) := match rest with
          | ⟨true, c⟩ :: more =>
            if known.negations.contains c then (true, more) else (false, rest)
          | rest => (false, rest)
        match items? (inside.length + 1) true [] inside with
        | some (items, after) => .oneOf negated items :: parse known fuel after
        | none => .one '[' :: parse known fuel rest
      | ⟨true, c⟩ :: rest => .one c :: parse known fuel rest

/-- The pieces of a pattern in a script. -/
def ofChars (known : Known) (text : List PatternChar) : List Element :=
  parse known (text.length + 1) text

/-- Whether a piece that stands for one character stands for a given one. -/
def Element.accepts (c : Char) : Element → Bool
  | one d => c = d
  | any => true
  | oneOf negated items => items.any (·.accepts c) != negated
  | many | group _ _ => false

/-- The places of two ascending lists, in ascending order. -/
def union (a b : List Nat) : List Nat := (a.merge b (· ≤ ·)).eraseReps

/-- The places that are reached by steps again and again, those at the start included; `fuel` bounds
the number of steps. -/
def closure (step : List Nat → List Nat) : Nat → List Nat → List Nat
  | 0, places => places
  | fuel + 1, places =>
    let more := union places (step places)
    if more.length = places.length then places else closure step fuel more

/-- The places of a text that a pattern reaches from given ones, all in ascending order; `fuel`
bounds the depth of groups within groups. -/
def reachedWithin (text : Array Char) : Nat → List Element → List Nat → List Nat
  | 0, _, _ => []
  | fuel + 1, pattern, places =>
    let from' (place : Nat) : List Nat := List.range' place (text.size + 1 - place)
    pattern.foldl (fun places element =>
      match element with
      | .many => (places.head?.map from').getD []
      | .group times patterns =>
        let once (places : List Nat) : List Nat :=
          patterns.foldl (fun found p => union found (reachedWithin text fuel p places)) []
        match times with
        | .once => once places
        | .atMostOnce => union places (once places)
        | .anyNumber => closure once (text.size + 1) places
        | .atLeastOnce => closure once (text.size + 1) (once places)
        | .never =>
          places.foldl (fun found place =>
            let refused := once [place]
            union found ((from' place).filter (fun n => !refused.contains n))) []
      | element =>
        places.filterMap (fun place =>
          if text[place]?.any (fun c => element.accepts c) then some (place + 1) else none))
      places

/-- Bound on the depth of groups within groups. -/
def maxDepth : Nat := 1000000

/-- The places of a text up to which a pattern matches from a place on, in ascending order. -/
def reached (text : Array Char) (pattern : List Element) (place : Nat) : List Nat :=
  reachedWithin text maxDepth pattern [place]

/-- Whether a pattern matches a text from a place on to its end. -/
def matchesFrom (text : Array Char) (pattern : List Element) (place : Nat) : Bool :=
  (reached text pattern place).getLast? = some text.size

/-- Whether a pattern matches a whole text. -/
def matchesAll (pattern : List Element) (text : Octets) : Bool :=
  matchesFrom text.toArray pattern 0

/-- The numbers of characters that may be cut off at the start, the shortest first. -/
def startLengths (pattern : List Element) (text : Octets) : List Nat :=
  reached text.toArray pattern 0

/-- The numbers of characters that may be left before what is cut off at the end, the most
first. -/
def endStarts (pattern : List Element) (text : Octets) : List Nat :=
  let chars := text.toArray
  (List.range (chars.size + 1)).reverse.filter (matchesFrom chars pattern)

/-- A text without what a pattern matches at its start or end. -/
def cut (atEnd longest : Bool) (pattern : List Element) (text : Octets) : Octets :=
  let choose (candidates : List Nat) : Option Nat :=
    if longest then candidates.getLast? else candidates.head?
  if atEnd then
    match choose (endStarts pattern text) with
    | some n => text.take n
    | none => text
  else
    match choose (startLengths pattern text) with
    | some n => text.drop n
    | none => text

/-- Whether a group starts somewhere in a text. -/
def holdsGroup : List PatternChar → Bool
  | [] => false
  | c :: rest => (groupStart? (c :: rest)).isSome || holdsGroup rest

/-- Whether a text holds something that makes it a pattern. -/
def isActive (known : Known) (text : List PatternChar) : Bool :=
  text.any (fun c => c.isActive && ['*', '?', '['].contains c.char) ||
    (known.hasGroups && holdsGroup text)

/-! ## Names of files -/

/-- A step of a path as a pattern, with the slashes after it. -/
structure Stage where
  name : List PatternChar
  slashes : Octets
  deriving Repr

/-- The steps of a path that is a pattern. -/
def stages : Nat → List PatternChar → List Stage
  | 0, _ => []
  | fuel + 1, text =>
    if text.isEmpty then []
    else
      let name := text.takeWhile (fun c => c.char ≠ '/')
      let rest := text.drop name.length
      let slashes := rest.takeWhile (fun c => c.char = '/')
      ⟨name, slashes.map PatternChar.char⟩ :: stages fuel (rest.drop slashes.length)

/-- The text of a step without backslashes that take away a meaning. -/
def literal : List PatternChar → Octets
  | ⟨true, '\\'⟩ :: ⟨_, c⟩ :: rest => c :: literal rest
  | ⟨_, c⟩ :: rest => c :: literal rest
  | [] => []

/-- How names of files are found. -/
structure Search where
  known : Known
  /-- Whether a directory and the one above it have names in it. -/
  hasDots : Bool
  /-- Whether patterns that do not start with a dot match names that do. -/
  matchesHidden : Bool
  deriving Repr

/-- The names in a directory, those of itself and of the one above it included. -/
def namesIn (files : FileTree) (directory : Octets) : List Octets :=
  match files.resolve ⟨if directory.isEmpty then "." else Octets.toText directory⟩ with
  | .ok (names, .directory) =>
    ['.'] :: ['.', '.'] ::
      files.entries.filterMap (fun (path, _) =>
        if path.length = names.length + 1 ∧ names.isPrefixOf path then
          path.getLast?.map Octets.ofString
        else none)
  | _ => []

/-- The paths that a pattern stands for after a first part. -/
def findFrom (search : Search) (files : FileTree) (start : Octets) : List Stage → List Octets
  | [] => [start]
  | ⟨name, slashes⟩ :: rest =>
    let here : List Octets :=
      if isActive search.known name then
        let pattern := ofChars search.known name
        let dots := name.head?.any (fun c => c.char = '.')
        (namesIn files start).filter (fun candidate =>
          let isDots := candidate = ['.'] || candidate = ['.', '.']
          matchesAll pattern candidate && (search.hasDots || !isDots) &&
            (dots || candidate.head? ≠ some '.' || (search.matchesHidden && !isDots)))
      else [literal name]
    (here.filter (fun candidate =>
      (rest.isEmpty && slashes.isEmpty && isActive search.known name) ||
        (files.resolve ⟨Octets.toText (start ++ candidate ++ slashes)⟩).toOption.isSome)).flatMap
      (fun candidate => findFrom search files (start ++ candidate ++ slashes) rest)

/-- Whether a text comes before another one, byte by byte. -/
def precedes : Octets → Octets → Bool
  | [], [] => true
  | [], _ :: _ => true
  | _ :: _, [] => false
  | a :: as, b :: bs => if a = b then precedes as bs else a < b

/-- The paths that a pattern stands for, in order. -/
def find (search : Search) (files : FileTree) (text : List PatternChar) : List Octets :=
  (findFrom search files [] (stages (text.length + 1) text)).mergeSort precedes

end Pattern

end PubSubTrials.Shell
