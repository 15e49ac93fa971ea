import PubSubTrials.Text.Layout
import PubSubTrials.Text.Spelled

/-!
# Formatted output

A format is text with escapes and directives. A directive shows one argument as text or as a
number; the format is used again as long as arguments are left. Those who print by a format agree
on what it shows, but each one has a way to complain about arguments that are no numbers and
about directives that do not exist.
-/

namespace PubSubTrials.Format

open Decimal (Quantity)

/-! ## Escapes -/

/-- The value of octal digits. -/
def octalValue (digits : Octets) : Nat :=
  digits.foldl (fun n c => n * 8 + (c.toNat - '0'.toNat)) 0

/-- Whether a character is an octal digit. -/
def isOctal (c : Char) : Bool := '0' ≤ c && c ≤ '7'

/-- The byte of octal digits, at most `most` of them, and what comes after them. -/
def octal (most : Nat) (text : Octets) : Char × Octets :=
  let digits := (text.take most).takeWhile isOctal
  (Char.ofNat (octalValue digits % 256), text.drop digits.length)

/-- The byte of digits to base sixteen, at most two of them, if there are any. -/
def hex? (text : Octets) : Option (Char × Octets) :=
  let digits := (text.take 2).takeWhile Quantity.isHexDigit
  if digits.isEmpty then none
  else some (Char.ofNat (Quantity.digitsValue 16 digits), text.drop digits.length)

/-- Control characters by the letters that stand for them. -/
def controls : List (Char × Char) :=
  [('a', '\x07'), ('b', '\x08'), ('e', '\x1b'), ('f', '\x0c'), ('n', '\n'), ('r', '\r'),
   ('t', '\t'), ('v', '\x0b'), ('\\', '\\')]

/-- Who prints by a format. -/
inductive Style where
  /-- The plain dialect of scripts. -/
  | plain
  /-- The extended dialect of scripts. -/
  | extended
  /-- A program. -/
  | program
  deriving DecidableEq, Repr

/-- Which escapes stand for something, apart from those for control characters and octal digits. -/
structure Escapes where
  /-- Quotes and other signs that stand for themselves. -/
  signs : List Char
  /-- Whether a byte can be named to base sixteen. -/
  knowsHex : Bool
  /-- Whether a character can be named by its code point. -/
  knowsCodePoints : Bool
  deriving Repr

namespace Style

/-- The escapes of formats. -/
def inFormat : Style → Escapes
  | plain => ⟨[], false, false⟩
  | extended => ⟨['"', '\'', '?'], true, true⟩
  | program => ⟨['"'], true, true⟩

/-- The escapes of arguments. -/
def inArgument : Style → Escapes
  | plain => ⟨[], false, false⟩
  | extended => ⟨[], true, true⟩
  | program => ⟨['"'], true, true⟩

/-- The escapes of texts that are printed without a format. -/
def inEcho : Style → Escapes
  | plain => ⟨[], false, false⟩
  | extended => ⟨[], true, true⟩
  | program => ⟨[], true, false⟩

end Style

/-- A number with at least so many digits to base sixteen. -/
def hexDigits (least n : Nat) : Octets :=
  let digits := (Nat.toDigits 16 n).map Char.toUpper
  List.replicate (least - digits.length) '0' ++ digits

/-- The text of a code point where only those of one byte can be shown: others are named. -/
def codePoint (n : Nat) : Octets :=
  if n < 128 then [Char.ofNat n]
  else if n < 65536 then '\\' :: 'u' :: hexDigits 4 n
  else '\\' :: 'U' :: hexDigits 8 n

/-- The code point of digits to base sixteen, at most `most` of them, if there are any. -/
def codePoint? (most : Nat) (text : Octets) : Option (Octets × Octets) :=
  let digits := (text.take most).takeWhile Quantity.isHexDigit
  if digits.isEmpty then none
  else some (codePoint (Quantity.digitsValue 16 digits), text.drop digits.length)

/-- What an escape stands for, given the text after its backslash. -/
def escape (known : Escapes) (text : Octets) : Octets × Octets :=
  match text with
  | [] => (['\\'], [])
  | c :: rest =>
    match controls.lookup c with
    | some control => ([control], rest)
    | none =>
      if isOctal c then
        let (byte, rest) := octal 3 text
        ([byte], rest)
      else if known.signs.contains c then ([c], rest)
      else
        let named : Option (Octets × Octets) :=
          if c = 'x' ∧ known.knowsHex then (hex? rest).map (fun (byte, rest) => ([byte], rest))
          else if c = 'u' ∧ known.knowsCodePoints then codePoint? 4 rest
          else if c = 'U' ∧ known.knowsCodePoints then codePoint? 8 rest
          else none
        named.getD (['\\'], text)

/-- Text with its escapes replaced; an escape `\c` ends all output, which the flag tells. -/
def unescape (known : Escapes) : Nat → Octets → Octets × Bool
  | 0, _ => ([], false)
  | fuel + 1, text =>
    match text with
    | [] => ([], false)
    | '\\' :: 'c' :: _ => ([], true)
    | '\\' :: '0' :: rest =>
      let (byte, rest) := octal 3 rest
      let (more, ends) := unescape known fuel rest
      (byte :: more, ends)
    | '\\' :: rest =>
      let (shown, rest) := escape known rest
      let (more, ends) := unescape known fuel rest
      (shown ++ more, ends)
    | c :: rest =>
      let (more, ends) := unescape known fuel rest
      (c :: more, ends)

/-! ## Arguments -/

/-- A piece of what printing by a format gives. -/
inductive Piece where
  | shown (text : Octets)
  /-- Something that is wrong. -/
  | complaint (text : Octets)
  deriving Repr

/-- What printing by a format gives. -/
structure Result where
  pieces : List Piece
  status : Nat
  /-- Arguments that the format has no use for. -/
  excess : List Octets
  deriving Repr

namespace Result

/-- All that is shown. -/
def output (result : Result) : Octets :=
  result.pieces.flatMap (fun piece =>
    match piece with
    | .shown text => text
    | .complaint _ => [])

/-- All that is wrong. -/
def complaints (result : Result) : List Octets :=
  result.pieces.filterMap (fun piece =>
    match piece with
    | .shown _ => none
    | .complaint text => some text)

end Result

/-- How far a format has been used. -/
structure Progress where
  style : Style
  arguments : List Octets
  /-- The pieces so far, the last one first. -/
  pieces : List Piece
  status : Nat

/-- Steps of printing; they end early when all output ends. -/
abbrev Printing := ExceptT Unit (StateM Progress)

/-- Print a piece. -/
def put (text : Octets) : Printing Unit :=
  modify (fun progress => { progress with pieces := .shown text :: progress.pieces })

/-- Complain and go on. -/
def complain (text : Octets) (status : Nat) : Printing Unit :=
  modify (fun progress =>
    { progress with pieces := .complaint text :: progress.pieces, status })

/-- End all output. -/
def finish {α : Type} : Printing α := throw ()

/-- The next argument, if there is one. -/
def argument? : Printing (Option Octets) := do
  let progress ← get
  match progress.arguments with
  | [] => return none
  | first :: rest =>
    set { progress with arguments := rest }
    return some first

/-- Complain about an argument that is no number: `isStarted` tells that it starts with one. -/
def complainNumber (argument : Octets) (isStarted : Bool) : Printing Unit := do
  let message := match (← get).style with
    | .plain =>
      argument ++
        (if isStarted then ": not completely converted" else ": expected numeric value").toList
    | .extended =>
      argument ++
        (if "0x".toList.isPrefixOf argument then ": invalid hex number"
         else if argument.head? = some '0' then ": invalid octal number"
         else ": invalid number").toList
    | .program =>
      ['\''] ++ argument ++
        (if isStarted then "': value not completely converted"
         else "': expected a numeric value").toList
  complain message 1

/-- Complain about an argument that is too large. -/
def complainRange (argument : Octets) : Printing Unit := do
  match (← get).style with
  | .plain => complain (argument ++ ": Numerical result out of range".toList) 1
  | .extended =>
    complain ("warning: ".toList ++ argument ++ ": Numerical result out of range".toList) 0
  | .program => complain (['\''] ++ argument ++ "': Numerical result out of range".toList) 1

/-- The largest and smallest numbers with and without a sign. -/
def limits (signed : Bool) : Int × Int :=
  if signed then (-9223372036854775808, 9223372036854775807)
  else (-18446744073709551615, 18446744073709551615)

/-- The whole number at the start of a text, and what comes after it. -/
def whole? (text : Octets) : Option (Int × Octets) :=
  let unsigned (text : Octets) : Option (Nat × Octets) :=
    let taken (base : Nat) (isDigit : Char → Bool) (text : Octets) : Option (Nat × Octets) :=
      let digits := text.takeWhile isDigit
      if digits.isEmpty then none
      else some (Quantity.digitsValue base digits, text.drop digits.length)
    match text with
    | '0' :: x :: rest =>
      if x = 'x' ∨ x = 'X' then
        match taken 16 Quantity.isHexDigit rest with
        | some found => some found
        | none => some (0, x :: rest)
      else taken 8 isOctal text
    | _ => taken 10 Char.isDigit text
  match text.dropWhile Octets.isSpace with
  | '-' :: rest => (unsigned rest).map (fun (n, rest) => (-(n : Int), rest))
  | '+' :: rest => (unsigned rest).map (fun (n, rest) => ((n : Int), rest))
  | rest => (unsigned rest).map (fun (n, rest) => ((n : Int), rest))

/-- The next argument as a whole number. -/
def wholeArgument (signed : Bool) : Printing Int := do
  match ← argument? with
  | none => return 0
  | some ('\'' :: rest) | some ('"' :: rest) => return (rest.head?.map Char.toNat).getD 0
  | some text =>
    match whole? text with
    | none =>
      if !text.isEmpty then complainNumber text false
      return 0
    | some (n, rest) =>
      let (least, most) := limits signed
      if !rest.isEmpty then complainNumber text true
      else if n < least ∨ most < n then complainRange text
      return max least (min most n)

/-- The next argument as a quantity. -/
def quantityArgument : Printing Quantity := do
  match ← argument? with
  | none => return .zero
  | some ('\'' :: rest) | some ('"' :: rest) =>
    return .ofInt ((rest.head?.map Char.toNat).getD 0)
  | some text =>
    match Quantity.ofText? text with
    | none =>
      if !text.isEmpty then complainNumber text false
      return .zero
    | some found =>
      if !found.rest.isEmpty then complainNumber text true
      else if found.isBeyond then complainRange text
      return found.value

/-! ## Directives -/

/-- A count in digits or from the arguments, and what comes after it. -/
def count (text : Octets) : Printing (Option Int × Octets) := do
  match text with
  | '*' :: rest => return (some (← wholeArgument true), rest)
  | text =>
    let digits := text.takeWhile Char.isDigit
    return (if digits.isEmpty then none else some (Quantity.digitsValue 10 digits),
      text.drop digits.length)

/-- Complain about a directive that does not exist, of which `source` is the text. -/
def complainDirective {α : Type} (source : Octets) : Printing α := do
  match (← get).style with
  | .plain => complain (source ++ ": invalid directive".toList) 2
  | .extended =>
    complain (['\x60'] ++ source.reverse.take 1 ++ "': invalid format character".toList) 1
  | .program => complain (source ++ ": invalid conversion specification".toList) 1
  finish

/-- Complain about a format that ends within a directive. -/
def complainOpen {α : Type} (source : Octets) : Printing α := do
  match (← get).style with
  | .plain => complain "missing format character".toList 2
  | .extended =>
    complain (['\x60'] ++ source ++ "': missing format character".toList) 1
  | .program => complain (source ++ ": invalid conversion specification".toList) 1
  finish

/-- What a directive shows. -/
def display (layout : Layout) (letter : Char) (source : Octets) : Printing Octets := do
  let style := (← get).style
  match letter with
  | 's' => return layout.text ((← argument?).getD [])
  | 'c' =>
    let c := ((← argument?).getD []).head?
    if c.isNone ∧ style = .program then return layout.pad [] else return layout.pad [c.getD '\x00']
  | 'b' =>
    let text := (← argument?).getD []
    let (shown, ends) := unescape style.inArgument (text.length + 1) text
    if ends then
      put (layout.text shown)
      finish
    else return layout.text shown
  | 'd' | 'i' => return layout.signed (← wholeArgument true)
  | 'o' | 'u' | 'x' | 'X' =>
    return layout.unsigned letter ((← wholeArgument false) % 18446744073709551616).toNat
  | 'e' | 'E' | 'f' | 'F' | 'g' | 'G' | 'a' | 'A' =>
    return layout.quantity letter (← quantityArgument)
  | 'q' =>
    match style with
    | .plain => complainDirective source
    | .extended => return layout.text (Spelled.word ((← argument?).getD []))
    | .program => return Spelled.operand ((← argument?).getD [])
  | _ => complainDirective source

/-- A directive after its percent sign; the answer is what comes after it. -/
def directive (text : Octets) : Printing Octets := do
  let (layout, rest) := Layout.plain.flags text
  let (width, rest) ← count rest
  let layout := match width with
    | some n => { layout with width := n.natAbs, left := layout.left || n < 0 }
    | none => layout
  let (layout, rest) ← match rest with
    | '.' :: rest => do
      let (precision, rest) ← count rest
      let precision := match precision with
        | some n => if n < 0 then none else some n.toNat
        | none => some 0
      pure ({ layout with precision }, rest)
    | rest => pure (layout, rest)
  let style := (← get).style
  let rest :=
    if style = .plain then rest
    else rest.dropWhile (fun c => ['h', 'l', 'j', 'z', 't', 'L'].contains c)
  let source := '%' :: text.take (text.length - rest.length + 1)
  match rest with
  | [] => complainOpen source
  | letter :: after =>
    put (← display layout letter source)
    return after

/-- Print by a format once. -/
def once : Nat → Octets → Printing Unit
  | 0, _ => return ()
  | fuel + 1, text => do
    match text with
    | [] => return ()
    | '\\' :: 'c' :: rest =>
      if (← get).style = .program then finish
      else
        put ['\\', 'c']
        once fuel rest
    | '\\' :: rest =>
      let (shown, rest) := escape (← get).style.inFormat rest
      put shown
      once fuel rest
    | '%' :: '%' :: rest =>
      put ['%']
      once fuel rest
    | '%' :: rest => once fuel (← directive rest)
    | c :: rest =>
      put [c]
      once fuel rest

/-- Print by a format as often as the arguments ask for. -/
def repeated (format : Octets) : Nat → Printing Unit
  | 0 => return ()
  | fuel + 1 => do
    let before := (← get).arguments.length
    once (format.length + 1) format
    let left := (← get).arguments.length
    if 0 < left ∧ left < before then repeated format fuel

/-- What a format shows with arguments. -/
def render (style : Style) (format : Octets) (arguments : List Octets) : Result :=
  let (_, progress) :=
    ((repeated format (arguments.length + 1)).run.run ⟨style, arguments, [], 0⟩ : Id _)
  ⟨progress.pieces.reverse, progress.status, progress.arguments⟩

end PubSubTrials.Format
