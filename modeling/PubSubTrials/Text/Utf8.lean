/-!
# UTF-8

Texts are lists of characters; their sizes, and places in them, are counted in UTF-8 bytes. This
module holds that measure, the encoder, and a decoder that names the first fault of a byte string:
the offset up to which it is valid and how many bytes belong to the fault. `decodeLossy` puts one
replacement character in the place of each fault, so it accepts every byte string.
-/

namespace PubSubTrials.Text

/-- Number of UTF-8 bytes of a text. -/
def byteLength (text : List Char) : Nat :=
  text.foldl (fun n c => n + c.utf8Size) 0

/-- Whether a character begins at an offset in bytes, or the text ends there. -/
def isBoundary : List Char → Nat → Bool
  | _, 0 => true
  | [], _ + 1 => false
  | c :: rest, offset + 1 => c.utf8Size ≤ offset + 1 && isBoundary rest (offset + 1 - c.utf8Size)

/-- The last such place that is not behind an offset. -/
def boundaryUpTo (text : List Char) : Nat → Nat
  | 0 => 0
  | offset + 1 => if isBoundary text (offset + 1) then offset + 1 else boundaryUpTo text offset

/-- The UTF-8 bytes of one character. -/
def encodeChar (c : Char) : List UInt8 :=
  let n := c.toNat
  let tail (unit : Nat) : UInt8 := UInt8.ofNat (0x80 + n / unit % 0x40)
  if n < 0x80 then [UInt8.ofNat n]
  else if n < 0x800 then [UInt8.ofNat (0xC0 + n / 0x40), tail 1]
  else if n < 0x10000 then [UInt8.ofNat (0xE0 + n / 0x1000), tail 0x40, tail 1]
  else [UInt8.ofNat (0xF0 + n / 0x40000), tail 0x1000, tail 0x40, tail 1]

/-- The UTF-8 bytes of a text. -/
def encode (text : List Char) : List UInt8 :=
  text.flatMap encodeChar

/-- A fault in a byte string: the bytes before `validUpTo` decode, the next `length` bytes do
not; `none` when the string ends inside a character. -/
structure Fault where
  validUpTo : Nat
  length : Option Nat
  deriving DecidableEq, Repr

/-- Why `bytes` do not start with a character, in the words of the format. -/
def Fault.message (fault : Fault) : String :=
  match fault.length with
  | some n =>
    "invalid utf-8 sequence of " ++ toString n ++ " bytes from index " ++ toString fault.validUpTo
  | none => "incomplete utf-8 byte sequence from index " ++ toString fault.validUpTo

/-- What a byte string starts with: a character and its width, or a fault that spans some bytes
(`none` when the string ends too early). -/
inductive Lead where
  | char (c : Char) (width : Nat)
  | fault (length : Option Nat)
  deriving DecidableEq

/-- Number of bytes announced by a first byte, and the range allowed for the second; no first
byte announces one byte above 127. -/
def announced (b : Nat) : Option (Nat × Nat × Nat) :=
  if 0xC2 ≤ b ∧ b ≤ 0xDF then some (2, 0x80, 0xBF)
  else if b = 0xE0 then some (3, 0xA0, 0xBF)
  else if 0xE1 ≤ b ∧ b ≤ 0xEC then some (3, 0x80, 0xBF)
  else if b = 0xED then some (3, 0x80, 0x9F)
  else if 0xEE ≤ b ∧ b ≤ 0xEF then some (3, 0x80, 0xBF)
  else if b = 0xF0 then some (4, 0x90, 0xBF)
  else if 0xF1 ≤ b ∧ b ≤ 0xF3 then some (4, 0x80, 0xBF)
  else if b = 0xF4 then some (4, 0x80, 0x8F)
  else none

/-- Read the tail bytes of a character of `width` bytes of which `done` are read; each has to
lie in its range, `[low, high]` for the next one and `[0x80, 0xBF]` for those after it. -/
def leadTail (width done code low high : Nat) : List UInt8 → Lead
  | [] => if done < width then .fault none else .char (Char.ofNat code) width
  | b :: rest =>
    if done < width then
      if low ≤ b.toNat ∧ b.toNat ≤ high then
        leadTail width (done + 1) (code * 64 + b.toNat % 64) 0x80 0xBF rest
      else .fault (some done)
    else .char (Char.ofNat code) width

/-- What a non-empty byte string starts with. -/
def leadOf (b : UInt8) (rest : List UInt8) : Lead :=
  if b.toNat < 0x80 then .char (Char.ofNat b.toNat) 1
  else match announced b.toNat with
    | none => .fault (some 1)
    | some (2, low, high) => leadTail 2 1 (b.toNat % 32) low high rest
    | some (3, low, high) => leadTail 3 1 (b.toNat % 16) low high rest
    | some (width, low, high) => leadTail width 1 (b.toNat % 8) low high rest

/-- The replacement character. -/
def replacement : Char := Char.ofNat 0xFFFD

/-- Decode, collecting characters in reverse; `skip` bytes belong to a character or fault
already dealt with. -/
def decodeLossyFrom (skip : Nat) (decoded : List Char) : List UInt8 → List Char
  | [] => decoded.reverse
  | b :: rest =>
    match skip with
    | n + 1 => decodeLossyFrom n decoded rest
    | 0 =>
      match leadOf b rest with
      | .char c width => decodeLossyFrom (width - 1) (c :: decoded) rest
      | .fault (some n) => decodeLossyFrom (n - 1) (replacement :: decoded) rest
      | .fault none => (replacement :: decoded).reverse

/-- Decode any byte string, each fault becoming one replacement character. -/
def decodeLossy (bytes : List UInt8) : List Char :=
  decodeLossyFrom 0 [] bytes

/-- Decode from offset `offset`, or name the first fault. -/
def decodeFrom (skip offset : Nat) (decoded : List Char) : List UInt8 → Except Fault (List Char)
  | [] => .ok decoded.reverse
  | b :: rest =>
    match skip with
    | n + 1 => decodeFrom n (offset + 1) decoded rest
    | 0 =>
      match leadOf b rest with
      | .char c width => decodeFrom (width - 1) (offset + 1) (c :: decoded) rest
      | .fault length => .error ⟨offset, length⟩

/-- Decode a byte string, or name its first fault. -/
def decode (bytes : List UInt8) : Except Fault (List Char) :=
  decodeFrom 0 0 [] bytes

end PubSubTrials.Text
