import PubSubTrials.Programs.Records.Value

/-!
# Tokens of record scripts

Blanks, comments and line ends after a backslash separate tokens; other line ends are tokens.
-/

namespace PubSubTrials.Records

open Decimal (Quantity)

/-- A token. -/
inductive Token where
  | number (quantity : Quantity)
  | text (octets : Octets)
  | name (name : String)
  /-- A name right before a parenthesis. -/
  | called (name : String)
  | builtIn (name : String)
  | word (word : String)
  | sign (sign : String)
  | lineEnd
  | stop
  | unknown (c : Char)
  deriving Inhabited

namespace Token

/-- Words with a meaning of their own. -/
def words : List String :=
  ["BEGIN", "END", "function", "func", "if", "else", "while", "for", "do", "break", "continue",
    "next", "nextfile", "exit", "return", "delete", "in", "getline", "print", "printf"]

/-- Functions that every script has. -/
def builtIns : List String :=
  ["length", "substr", "index", "split", "sub", "gsub", "match", "sprintf", "sin", "cos", "atan2",
    "exp", "log", "sqrt", "int", "rand", "srand", "tolower", "toupper", "system", "close",
    "fflush"]

/-- Signs, longer ones before those that they start with. -/
def signs : List String :=
  ["&&", "||", "++", "--", "+=", "-=", "*=", "/=", "%=", "^=", "==", "<=", ">=", "!=", "!~", ">>",
    "\x7b", "\x7d", "(", ")", "[", "]", ";", ",", "+", "-", "*", "/", "%", "^", "!", ">", "<",
    "|", "?", ":", "~", "$", "="]

/-- Whether a token is a given sign. -/
def isSign (text : String) : Token → Bool
  | sign given => given = text
  | _ => false

/-- Whether a token is a given word. -/
def isWord (text : String) : Token → Bool
  | word given => given = text
  | _ => false

/-- Whether a character may start a name. -/
def startsName (c : Char) : Bool := c.isAlpha || c = '_'

/-- Whether a character may be part of a name. -/
def inName (c : Char) : Bool := startsName c || c.isDigit

/-- A text up to a quote, and what comes after it. -/
def quoted : Nat → Octets → Octets → Octets × Octets
  | 0, source, taken => (taken.reverse, source)
  | fuel + 1, source, taken =>
    match source with
    | [] => (taken.reverse, [])
    | '"' :: rest => (taken.reverse, rest)
    | '\\' :: '\n' :: rest => quoted fuel rest taken
    | '\\' :: '"' :: rest => quoted fuel rest ('"' :: taken)
    | '\\' :: '\\' :: rest => quoted fuel rest ('\\' :: taken)
    | '\\' :: c :: rest =>
      match [('n', '\n'), ('t', '\t'), ('r', '\r'), ('a', '\x07'), ('b', '\x08'), ('f', '\x0c'),
          ('v', '\x0b')].lookup c with
      | some control => quoted fuel rest (control :: taken)
      | none =>
        if Format.isOctal c then
          let (value, rest) := Format.octal 3 (c :: rest)
          quoted fuel rest (value :: taken)
        else
          match (if c = 'x' then Format.hex? rest else none) with
          | some (value, rest) => quoted fuel rest (value :: taken)
          | none => quoted fuel rest (c :: '\\' :: taken)
    | c :: rest => quoted fuel rest (c :: taken)

/-- Text without escapes, as a text of a script would be read. -/
def unescaped (source : Octets) : Octets :=
  (quoted (2 * source.length + 1) (source.flatMap (fun c => if c = '"' then ['\\', '"'] else [c]))
    []).1

/-- The text after blanks and comments, and the number of lines that were passed. -/
def skipBlanks : Nat → Octets → Nat → Octets × Nat
  | 0, source, lines => (source, lines)
  | fuel + 1, source, lines =>
    match source with
    | '\\' :: '\n' :: rest => skipBlanks fuel rest (lines + 1)
    | '\\' :: '\r' :: '\n' :: rest => skipBlanks fuel rest (lines + 1)
    | '#' :: rest => skipBlanks fuel (rest.dropWhile (· ≠ '\n')) lines
    | c :: rest =>
      if c = ' ' ∨ c = '\t' ∨ c = '\r' then skipBlanks fuel rest lines else (source, lines)
    | [] => ([], lines)

/-- The token at the start of a text without blanks before it, and what comes after it. -/
def first (text : Octets) : Token × Octets :=
  match text with
  | [] => (stop, [])
  | '\n' :: rest => (lineEnd, rest)
  | '"' :: rest =>
    let (inner, rest) := quoted (rest.length + 1) rest []
    (Token.text inner, rest)
  | c :: rest =>
    if c.isDigit ∨ (c = '.' ∧ rest.head?.any Char.isDigit) then
      match Quantity.ofText? text with
      | some found => (number found.value, found.rest)
      | none => (unknown c, rest)
    else if startsName c then
      let name := String.ofList (text.takeWhile inName)
      let rest := text.dropWhile inName
      if words.contains name then (word (if name = "func" then "function" else name), rest)
      else if builtIns.contains name then (builtIn name, rest)
      else if rest.head? = some '(' then (called name, rest)
      else (Token.name name, rest)
    else
      match signs.find? (fun given => given.toList.isPrefixOf text) with
      | some given => (sign given, text.drop given.length)
      | none => (unknown c, rest)

/-- How a token is called in messages. -/
def shown : Token → String
  | number quantity => String.ofList (quantityText "%.6g".toList quantity)
  | text octets => "\"" ++ String.ofList octets ++ "\""
  | name given | called given | builtIn given | word given | sign given => given
  | lineEnd => "end of line"
  | stop => "end of line"
  | unknown c => c.toString

end Token

end PubSubTrials.Records
