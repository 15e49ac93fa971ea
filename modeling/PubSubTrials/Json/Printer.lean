/-!
# Printing JSON

The pieces that JSON texts are put together from. A string is written with the shortest escape
of every character that needs one. Lists and objects are laid out over several lines, two
spaces further in than what encloses them, unless they are empty.
-/

namespace PubSubTrials.Json

/-- One digit in hexadecimal, in lower case. -/
def hexDigit (n : Nat) : Char :=
  Nat.digitChar n

/-- A character inside a string. -/
def escapeChar (c : Char) : List Char :=
  if c = '"' then ['\\', '"']
  else if c = '\\' then ['\\', '\\']
  else if c = '\x08' then ['\\', 'b']
  else if c = '\x0c' then ['\\', 'f']
  else if c = '\n' then ['\\', 'n']
  else if c = '\r' then ['\\', 'r']
  else if c = '\t' then ['\\', 't']
  else if c.toNat < 0x20 then
    ['\\', 'u', '0', '0', hexDigit (c.toNat / 16), hexDigit (c.toNat % 16)]
  else [c]

/-- A string. -/
def printString (text : String) : List Char :=
  '"' :: text.toList.flatMap escapeChar ++ ['"']

/-- A whole number. -/
def printNat (n : Nat) : List Char :=
  Nat.toDigits 10 n

/-- A truth value. -/
def printBool (b : Bool) : List Char :=
  (toString b).toList

/-- The start of a line at a depth. -/
def newline (depth : Nat) : List Char :=
  '\n' :: List.replicate (2 * depth) ' '

/-- Parts on lines of their own, each followed by a comma but the last. -/
def printParts (depth : Nat) : List (List Char) → List Char
  | [] => []
  | [part] => newline depth ++ part
  | part :: rest => newline depth ++ part ++ ',' :: printParts depth rest

/-- Parts between brackets, at a depth. -/
def printBetween (depth : Nat) (opening closing : Char) : List (List Char) → List Char
  | [] => [opening, closing]
  | parts => opening :: printParts (depth + 1) parts ++ newline depth ++ [closing]

/-- A list whose items are printed one level deeper. -/
def printList (depth : Nat) (items : List (List Char)) : List Char :=
  printBetween depth '[' ']' items

/-- An object whose values are printed one level deeper. -/
def printObject (depth : Nat) (fields : List (String × List Char)) : List Char :=
  printBetween depth '\x7b' '\x7d'
    (fields.map (fun (name, value) => printString name ++ ':' :: ' ' :: value))

end PubSubTrials.Json
