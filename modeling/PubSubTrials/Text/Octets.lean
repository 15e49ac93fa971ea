import PubSubTrials.Text.Utf8

/-!
# Octets

Programs treat text as bytes. A row of bytes is kept as a list of characters, each of them the
character whose number is the byte, so that patterns over characters can be used for it.
-/

namespace PubSubTrials

/-- A row of bytes, each kept as the character of its number. -/
abbrev Octets := List Char

namespace Octets

/-- The octets of bytes. -/
def ofBytes (bytes : List UInt8) : Octets :=
  bytes.map (fun b => Char.ofNat b.toNat)

/-- The bytes of octets. -/
def toBytes (text : Octets) : List UInt8 :=
  text.map (fun c => UInt8.ofNat c.toNat)

/-- The octets of a text. -/
def ofString (text : String) : Octets :=
  ofBytes (Text.encode text.toList)

/-- The text that octets stand for, with replacement characters where they stand for none. -/
def toText (text : Octets) : String :=
  String.ofList (Text.decodeLossy text.toBytes)

/-- The digits of a number. -/
def ofNat (n : Nat) : Octets := Nat.toDigits 10 n

/-- The digits of a number with its sign. -/
def ofInt (n : Int) : Octets :=
  if n < 0 then '-' :: Nat.toDigits 10 n.natAbs else Nat.toDigits 10 n.natAbs

/-- Texts with another one between each two of them. -/
def joined (between : Octets) (texts : List Octets) : Octets :=
  between.intercalate texts

/-- The line end. -/
def lineEnd : Char := '\n'

/-- Whether a character is a blank within a line. -/
def isBlank (c : Char) : Bool := c = ' ' || c = '\t'

/-- Whether a character is a blank or the line end. -/
def isBlankOrEnd (c : Char) : Bool := isBlank c || c = lineEnd

/-- Whether a character is white space of any kind. -/
def isSpace (c : Char) : Bool := c = ' ' || (9 ≤ c.toNat && c.toNat ≤ 13)

/-- The part before the first place where a character satisfies a condition, and the part from
there on. -/
def cutAt (p : Char → Bool) (text : Octets) : Octets × Octets :=
  (text.takeWhile (fun c => !p c), text.dropWhile (fun c => !p c))

/-- The texts between the places of a separator. -/
def splitOn (separator : Char) (text : Octets) : List Octets :=
  text.foldr (fun c parts =>
    match parts with
    | part :: rest => if c = separator then [] :: part :: rest else (c :: part) :: rest
    | [] => [[c]]) [[]]

/-- The lines of a text without their ends, and whether the last one lacks its end. -/
def lines (text : Octets) : List Octets × Bool :=
  let parts := splitOn lineEnd text
  match parts.getLast? with
  | some [] => (parts.dropLast, false)
  | _ => (parts, true)

/-- A text that starts with another one, without it. -/
def afterStart? (start text : Octets) : Option Octets :=
  if start.isPrefixOf text then some (text.drop start.length) else none

end Octets

end PubSubTrials
