import PubSubTrials.Text.Visible

/-!
# Quoted text

How a message shows a text that a user wrote: between double quotes, with the usual escapes for
quotes, backslashes and line ends, and every character that could not be seen on its own
written as its code point in hexadecimal.
-/

namespace PubSubTrials.Text

/-- A number in lower-case hexadecimal. -/
def hex (n : Nat) : List Char :=
  Nat.toDigits 16 n

/-- One character between quotes. -/
def quoteChar (c : Char) : List Char :=
  if c = '\x00' then ['\\', '0']
  else if c = '\t' then ['\\', 't']
  else if c = '\r' then ['\\', 'r']
  else if c = '\n' then ['\\', 'n']
  else if c = '"' then ['\\', '"']
  else if c = '\\' then ['\\', '\\']
  else if isAttaching c || !isVisible c then '\\' :: 'u' :: '\x7b' :: hex c.toNat ++ ['\x7d']
  else [c]

/-- A text between quotes. -/
def quote (text : String) : String :=
  String.ofList ('"' :: text.toList.flatMap quoteChar ++ ['"'])

end PubSubTrials.Text
