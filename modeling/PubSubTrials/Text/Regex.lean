import PubSubTrials.Text.Classes
import PubSubTrials.Text.Octets

/-!
# Regular expressions

A regular expression matches parts of a text; of all matches the first one counts, and of those
that start at the same place the longest one. Groups remember what they matched last. There are
several ways to write them, which differ in the characters that are special.
-/

namespace PubSubTrials.Regex

/-! ## Expressions -/

/-- What may stand in brackets. -/
inductive Item where
  | one (c : Char)
  | range (first last : Char)
  | group (name : String)
  deriving DecidableEq, Repr

/-- Whether a character is what an item stands for. -/
def Item.accepts (c : Char) : Item → Bool
  | one d => c = d
  | range first last => first ≤ c && c ≤ last
  | group name => CharClass.holds name c

/-- Places that an expression can ask for. -/
inductive Boundary where
  | start
  | stop
  | wordStart
  | wordEnd
  | word (negated : Bool)
  deriving DecidableEq, Repr

/-- An expression. -/
inductive Expr where
  | empty
  | one (c : Char)
  | any
  | oneOf (negated : Bool) (items : List Item)
  | boundary (boundary : Boundary)
  | group (number : Nat) (inner : Expr)
  | both (first second : Expr)
  | either (first second : Expr)
  /-- An expression again and again; without `most` there is no bound. -/
  | repeated (inner : Expr) (least : Nat) (most : Option Nat)
  /-- What a group has matched. -/
  | same (number : Nat)
  deriving Repr, Inhabited

/-- A regular expression with the number of its groups. -/
structure Pattern where
  expr : Expr
  groups : Nat
  ignoresCase : Bool
  deriving Repr, Inhabited

/-! ## Matching -/

/-- What groups have matched: from one place to another. -/
abbrev Captures := List (Nat × Nat × Nat)

/-- A place that was reached, with what groups have matched on the way. -/
abbrev Reached := Nat × Captures

/-- Places without those that come up again. -/
def distinct (size : Nat) (places : List Reached) : List Reached :=
  match places with
  | [] | [_] => places
  | places =>
    let marks : Array Bool := Array.replicate (size + 1) false
    ((places.foldl (fun (kept, marks) place =>
      if marks.getD place.1 true then (kept, marks)
      else (place :: kept, marks.setIfInBounds place.1 true))
      (([], marks) : List Reached × Array Bool)).1).reverse

/-- Whether two characters are the same for a pattern. -/
def sameChar (ignoresCase : Bool) (a b : Char) : Bool :=
  a = b || (ignoresCase && a.toLower = b.toLower)

/-- Whether brackets accept a character. -/
def accepts (ignoresCase negated : Bool) (items : List Item) (c : Char) : Bool :=
  let found := items.any (fun item =>
    item.accepts c || (ignoresCase && (item.accepts c.toLower || item.accepts c.toUpper)))
  found != negated

/-- Whether a place is a boundary. -/
def isBoundary (text : Array Char) (startsLine : Bool) (place : Nat) : Boundary → Bool
  | .start => place = 0 && startsLine
  | .stop => place = text.size
  | .wordStart => !before && after
  | .wordEnd => before && !after
  | .word negated => (before != after) != negated
where
  /-- Whether a word character stands before the place. -/
  before : Bool := 0 < place && (text[place - 1]?).any CharClass.inWord
  /-- Whether a word character stands after the place. -/
  after : Bool := (text[place]?).any CharClass.inWord

/-- The places reached by one more step from any of several. -/
def stepAll (size : Nat) (step : Reached → List Reached) (places : List Reached) :
    List Reached :=
  distinct size (places.flatMap step)

/-- The places reached by repetitions, those after more of them first. -/
def repeatFrom (size : Nat) (step : Reached → List Reached) (most : Option Nat) :
    Nat → Nat → List Reached → List Reached → List Reached
  | 0, _, _, found => found
  | fuel + 1, count, places, found =>
    if places.isEmpty ∨ most.any (· ≤ count) then found
    else
      let next := places.flatMap (fun place =>
        (step place).filter (fun reached => place.1 < reached.1))
      let next := distinct size next
      repeatFrom size step most fuel (count + 1) next (next ++ found)

/-- The places that an expression reaches from a place, the preferred ones first. -/
def ends (ignoresCase startsLine : Bool) (text : Array Char) : Expr → Reached → List Reached
  | .empty, reached => [reached]
  | .one c, (place, captures) =>
    match text[place]? with
    | some d => if sameChar ignoresCase c d then [(place + 1, captures)] else []
    | none => []
  | .any, (place, captures) => if place < text.size then [(place + 1, captures)] else []
  | .oneOf negated items, (place, captures) =>
    match text[place]? with
    | some c => if accepts ignoresCase negated items c then [(place + 1, captures)] else []
    | none => []
  | .boundary boundary, (place, captures) =>
    if isBoundary text startsLine place boundary then [(place, captures)] else []
  | .group number inner, (place, captures) =>
    (ends ignoresCase startsLine text inner (place, captures)).map (fun (stop, captures) =>
      (stop, (number, place, stop) :: captures))
  | .both first second, reached =>
    stepAll text.size (ends ignoresCase startsLine text second)
      (ends ignoresCase startsLine text first reached)
  | .either first second, reached =>
    distinct text.size (ends ignoresCase startsLine text first reached ++
      ends ignoresCase startsLine text second reached)
  | .repeated inner least most, reached =>
    let step := ends ignoresCase startsLine text inner
    let start := (List.range least).foldl (fun places _ => stepAll text.size step places) [reached]
    distinct text.size
      (repeatFrom text.size step (most.map (· - least)) (text.size + 1) 0 start start)
  | .same number, (place, captures) =>
    match captures.lookup number with
    | none => []
    | some (start, stop) =>
      let wanted := text.extract start stop
      let found := text.extract place (place + wanted.size)
      if found.size = wanted.size ∧
          (wanted.zip found).all (fun (a, b) => sameChar ignoresCase a b) then
        [(place + wanted.size, captures)]
      else []

/-- A match of a whole pattern. -/
structure Match where
  start : Nat
  stop : Nat
  captures : Captures
  deriving Repr

namespace Match

/-- What a group has matched; the group zero is the whole match. -/
def group? (found : Match) (number : Nat) : Option (Nat × Nat) :=
  if number = 0 then some (found.start, found.stop) else found.captures.lookup number

/-- The text that a group has matched. -/
def text (found : Match) (text : Array Char) (number : Nat) : Octets :=
  match found.group? number with
  | some (start, stop) => (text.extract start stop).toList
  | none => []

end Match

namespace Pattern

/-- The longest match that starts at a place. -/
def matchAt? (pattern : Pattern) (text : Array Char) (startsLine : Bool) (place : Nat) :
    Option Match :=
  let places := ends pattern.ignoresCase startsLine text pattern.expr (place, [])
  (places.foldl (fun best reached =>
    match best with
    | none => some reached
    | some (stop, _) => if stop < reached.1 then some reached else best) none).map
    (fun (stop, captures) => ⟨place, stop, captures⟩)

/-- The first match that starts at a place or after it; `fuel` bounds the number of places. -/
def findFrom? (pattern : Pattern) (text : Array Char) (startsLine : Bool) :
    Nat → Nat → Option Match
  | 0, _ => none
  | fuel + 1, place =>
    match pattern.matchAt? text startsLine place with
    | some found => some found
    | none => findFrom? pattern text startsLine fuel (place + 1)

/-- The first match that starts at a place or after it. -/
def find? (pattern : Pattern) (text : Array Char) (startsLine : Bool) (place : Nat) :
    Option Match :=
  pattern.findFrom? text startsLine (text.size + 1 - place) place

/-- Whether a pattern matches some part of a text. -/
def matches? (pattern : Pattern) (text : Octets) : Bool :=
  (pattern.find? text.toArray true 0).isSome

end Pattern

/-! ## Reading expressions -/

/-- How expressions are written. -/
inductive Flavor where
  /-- Groups, counts and alternatives are written with backslashes. -/
  | basic
  | extended
  /-- As in scripts that process records: backslashes also stand for control characters, and
  braces for themselves. -/
  | record
  deriving DecidableEq, Repr

/-- What is wrong with an expression. -/
inductive Fault where
  | openBracket
  | openGroup
  | closedGroup
  | openCount
  | badCount
  | badRange
  | badClass
  | badReference
  | trailingBackslash
  | nothingToRepeat
  deriving DecidableEq, Repr

/-- How a fault reads. -/
def Fault.message : Fault → String
  | openBracket => "Unmatched [, [^, [:, [., or [="
  | openGroup => "Unmatched ( or \\("
  | closedGroup => "Unmatched ) or \\)"
  | openCount => "Unmatched \\\x7b"
  | badCount => "Invalid content of \\\x7b\\\x7d"
  | badRange => "Invalid range end"
  | badClass => "Invalid character class name"
  | badReference => "Invalid back reference"
  | trailingBackslash => "Trailing backslash"
  | nothingToRepeat => "Invalid preceding regular expression"

/-- Control characters by the letters that stand for them after a backslash. -/
def controls : List (Char × Char) :=
  [('a', '\x07'), ('b', '\x08'), ('f', '\x0c'), ('n', '\n'), ('r', '\r'), ('t', '\t'),
   ('v', '\x0b'), ('/', '/'), ('"', '"')]

/-- A name between two signs at the start of a text, as in `:alpha:]`. -/
def named? (sign : Char) (text : Octets) : Option (Octets × Octets) :=
  let name := text.takeWhile (· ≠ sign)
  match text.drop name.length with
  | _ :: ']' :: rest => some (name, rest)
  | _ => none

/-- Items up to the closing bracket, and what comes after it. -/
def bracketItems (flavor : Flavor) : Nat → Bool → Octets → List Item →
    Except Fault (List Item × Octets)
  | 0, _, _, _ => .error .openBracket
  | fuel + 1, isFirst, text, taken =>
    match text with
    | [] => .error .openBracket
    | '[' :: ':' :: rest =>
      match named? ':' rest with
      | none => .error .openBracket
      | some (name, rest) =>
        let name := String.ofList name
        if CharClass.names.contains name then
          bracketItems flavor fuel false rest (.group name :: taken)
        else .error .badClass
    | '[' :: sign :: rest =>
      if sign = '=' ∨ sign = '.' then
        match named? sign rest with
        | some ([c], rest) => bracketItems flavor fuel false rest (.one c :: taken)
        | _ => .error .openBracket
      else ranged fuel '[' (sign :: rest) taken
    | ']' :: rest =>
      if isFirst then ranged fuel ']' rest taken else .ok (taken.reverse, rest)
    | '\\' :: c :: rest =>
      if flavor = .record then ranged fuel ((controls.lookup c).getD c) rest taken
      else ranged fuel '\\' (c :: rest) taken
    | c :: rest => ranged fuel c rest taken
where
  /-- Go on after a character, which may start a range. -/
  ranged (fuel : Nat) (c : Char) (rest : Octets) (taken : List Item) :
      Except Fault (List Item × Octets) :=
    match rest with
    | '-' :: ']' :: _ => bracketItems flavor fuel false rest (.one c :: taken)
    | '-' :: last :: rest =>
      if last < c then .error .badRange
      else bracketItems flavor fuel false rest (.range c last :: taken)
    | rest => bracketItems flavor fuel false rest (.one c :: taken)

/-- What is left to read, and the number of groups so far. -/
structure Progress where
  rest : Octets
  groups : Nat

/-- Readers of expressions. -/
abbrev Reader := StateT Progress (Except Fault)

/-- A sign of an expression. -/
inductive Sign where
  | openGroup
  | closeGroup
  | alternative
  | star
  | plus
  | question
  | openCount
  | caret
  | dollar
  | dot
  | bracket
  | word (isIn : Bool)
  | blank (isIn : Bool)
  | boundary (boundary : Boundary)
  | reference (number : Nat)
  | literal (c : Char)
  deriving DecidableEq, Repr

/-- What a character after a backslash stands for. -/
def escaped (flavor : Flavor) (c : Char) : Sign :=
  let isBasic := flavor = .basic
  match c with
  | '(' => if isBasic then .openGroup else .literal c
  | ')' => if isBasic then .closeGroup else .literal c
  | '\x7b' => if isBasic then .openCount else .literal c
  | '|' => if isBasic then .alternative else .literal c
  | '+' => if isBasic then .plus else .literal c
  | '?' => if isBasic then .question else .literal c
  | c =>
    if flavor = .record then .literal ((controls.lookup c).getD c)
    else
      match c with
      | 'w' => .word true
      | 'W' => .word false
      | 's' => .blank true
      | 'S' => .blank false
      | 'b' => .boundary (.word false)
      | 'B' => .boundary (.word true)
      | '<' => .boundary .wordStart
      | '>' => .boundary .wordEnd
      | '\x60' => .boundary .start
      | '\'' => .boundary .stop
      | c => if c.isDigit ∧ c ≠ '0' then .reference (c.toNat - '0'.toNat) else .literal c

/-- What a character stands for. -/
def unescaped (flavor : Flavor) (c : Char) : Sign :=
  let isBasic := flavor = .basic
  match c with
  | '*' => .star
  | '.' => .dot
  | '[' => .bracket
  | '^' => .caret
  | '$' => .dollar
  | '(' => if isBasic then .literal c else .openGroup
  | ')' => if isBasic then .literal c else .closeGroup
  | '|' => if isBasic then .literal c else .alternative
  | '+' => if isBasic then .literal c else .plus
  | '?' => if isBasic then .literal c else .question
  | '\x7b' => if flavor = .extended then .openCount else .literal c
  | c => .literal c

/-- The sign at the start of a text, and what comes after it. -/
def sign? (flavor : Flavor) (text : Octets) : Except Fault (Option (Sign × Octets)) :=
  match text with
  | [] => .ok none
  | ['\\'] => if flavor = .record then .ok (some (.literal '\\', [])) else .error .trailingBackslash
  | '\\' :: c :: rest => .ok (some (escaped flavor c, rest))
  | c :: rest => .ok (some (unescaped flavor c, rest))

/-- A count in braces, and what comes after it. -/
def countOf? (flavor : Flavor) (text : Octets) :
    Except Fault (Option ((Nat × Option Nat) × Octets)) :=
  let closing : Octets := if flavor = .basic then ['\\', '\x7d'] else ['\x7d']
  let first := text.takeWhile Char.isDigit
  let number (digits : Octets) : Option Nat := (String.ofList digits).toNat?
  let bad : Except Fault (Option ((Nat × Option Nat) × Octets)) :=
    if flavor = .basic then .error (if text.isEmpty then .openCount else .badCount) else .ok none
  match text.drop first.length with
  | ',' :: more =>
    let last := more.takeWhile Char.isDigit
    match Octets.afterStart? closing (more.drop last.length) with
    | some rest =>
      let least := (number first).getD 0
      let most := number last
      if most.any (· < least) then .error .badCount else .ok (some ((least, most), rest))
    | none => bad
  | more =>
    match Octets.afterStart? closing more, number first with
    | some rest, some n => .ok (some ((n, some n), rest))
    | _, _ => bad

/-- Whether the end of an expression, a group or an alternative comes next. -/
def endsHere (flavor : Flavor) (text : Octets) : Bool :=
  match sign? flavor text with
  | .ok none => true
  | .ok (some (.closeGroup, _)) => true
  | .ok (some (.alternative, _)) => true
  | _ => false

/-- The repetitions that follow an expression. -/
def repetitions (flavor : Flavor) : Nat → Expr → Reader Expr
  | 0, inner => return inner
  | fuel + 1, inner => do
    let progress ← get
    match ← StateT.lift (sign? flavor progress.rest) with
    | some (.star, rest) =>
      set { progress with rest }
      repetitions flavor fuel (.repeated inner 0 none)
    | some (.plus, rest) =>
      set { progress with rest }
      repetitions flavor fuel (.repeated inner 1 none)
    | some (.question, rest) =>
      set { progress with rest }
      repetitions flavor fuel (.repeated inner 0 (some 1))
    | some (.openCount, rest) =>
      match ← StateT.lift (countOf? flavor rest) with
      | some ((least, most), rest) =>
        set { progress with rest }
        repetitions flavor fuel (.repeated inner least most)
      | none => return inner
    | _ => return inner

/-- Items that stand for the characters of words or for blanks. -/
def classItems (isWord : Bool) : List Item :=
  if isWord then [.group "alnum", .one '_'] else [.group "space"]

/-- The expression that a sign starts; `isFirst` says whether nothing comes before it, and `all`
reads the inside of a group. -/
def single (flavor : Flavor) (all : Reader Expr) (isFirst : Bool) (sign : Sign) :
    Reader Expr := do
  match sign with
  | .literal c => return .one c
  | .dot => return .any
  | .word isIn => return .oneOf (!isIn) (classItems true)
  | .blank isIn => return .oneOf (!isIn) (classItems false)
  | .boundary boundary => return .boundary boundary
  | .caret =>
    return if flavor ≠ .basic ∨ isFirst then .boundary .start else .one '^'
  | .dollar =>
    return if flavor ≠ .basic ∨ endsHere flavor (← get).rest then .boundary .stop else .one '$'
  | .bracket =>
    let progress ← get
    let (negated, text) := match progress.rest with
      | '^' :: rest => (true, rest)
      | rest => (false, rest)
    let (items, rest) ← StateT.lift (bracketItems flavor (text.length + 1) true text [])
    set { progress with rest }
    return .oneOf negated items
  | .reference number =>
    if (← get).groups < number then throw .badReference else return .same number
  | .openGroup =>
    let number := (← get).groups + 1
    modify (fun progress => { progress with groups := number })
    let inner ← all
    let progress ← get
    match ← StateT.lift (sign? flavor progress.rest) with
    | some (.closeGroup, rest) =>
      set { progress with rest }
      return .group number inner
    | _ => throw .openGroup
  | .star => return .one '*'
  | .plus => if flavor = .basic then return .one '+' else throw .nothingToRepeat
  | .question => if flavor = .basic then return .one '?' else throw .nothingToRepeat
  | .openCount =>
    if flavor = .basic then throw .nothingToRepeat else return .one '\x7b'
  | .closeGroup => throw .closedGroup
  | .alternative => return .empty

/-- Expressions one after the other. -/
def row (flavor : Flavor) (all : Reader Expr) : Nat → Bool → Expr → Reader Expr
  | 0, _, before => return before
  | fuel + 1, isFirst, before => do
    let progress ← get
    match ← StateT.lift (sign? flavor progress.rest) with
    | none | some (.closeGroup, _) | some (.alternative, _) => return before
    | some (sign, rest) =>
      set { progress with rest }
      let inner ← single flavor all isFirst sign
      let isAnchor := flavor = .basic ∧ isFirst ∧ sign = .caret
      let inner ← if isAnchor then pure inner else repetitions flavor (rest.length + 1) inner
      let joined := match before with
        | .empty => inner
        | before => .both before inner
      row flavor all fuel isAnchor joined

/-- Alternatives; `fuel` bounds the depth of groups. -/
def alternatives (flavor : Flavor) : Nat → Reader Expr
  | 0 => throw .openGroup
  | fuel + 1 => do
    let first ← row flavor (alternatives flavor fuel) ((← get).rest.length + 1) true .empty
    let progress ← get
    match ← StateT.lift (sign? flavor progress.rest) with
    | some (.alternative, rest) =>
      set { progress with rest }
      return .either first (← alternatives flavor fuel)
    | _ => return first

/-- The pattern that a text stands for. -/
def parse (flavor : Flavor) (ignoresCase : Bool) (text : Octets) : Except Fault Pattern := do
  let (expr, progress) ← (alternatives flavor (2 * text.length + 2)).run ⟨text, 0⟩
  match progress.rest with
  | [] => return ⟨expr, progress.groups, ignoresCase⟩
  | _ => throw .closedGroup

end PubSubTrials.Regex
