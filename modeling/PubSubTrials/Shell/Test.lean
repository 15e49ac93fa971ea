import PubSubTrials.Host.Basic
import PubSubTrials.Shell.Arithmetic

/-!
# Conditions over words

Words can be tested as a condition about texts, numbers and files. What the words mean depends on
their number first and on the operators among them second, so that any text can be compared. The
plain dialect reads the words from left to right; the extended one first goes by their number.
-/

namespace PubSubTrials.Shell.Test

/-- What conditions about files and terminals depend on. -/
structure Facts where
  files : FileTree
  isTerminal : Nat → Bool
  isExecutable : List String → Bool
  /-- Whether a variable or an element has a value. -/
  isSet : Octets → Bool
  /-- Whether an option is on. -/
  isOn : Octets → Bool

/-- What is wrong with a condition. -/
inductive Fault where
  | unexpectedOperator (text : Octets)
  | argumentExpected (operator : Octets)
  | openParenthesis
  | illegalNumber (text : Octets)
  | unaryExpected (text : Octets)
  | binaryExpected (text : Octets)
  | tooMany
  deriving DecidableEq, Repr

namespace Fault

/-- How a fault reads in the plain dialect. -/
def message : Fault → Octets
  | unexpectedOperator text =>
    (if text.isEmpty then [] else text ++ [':', ' ']) ++ "unexpected operator".toList
  | argumentExpected operator => operator ++ ": argument expected".toList
  | openParenthesis => "closing paren expected".toList
  | illegalNumber text => "Illegal number: ".toList ++ text
  | unaryExpected text => text ++ ": unary operator expected".toList
  | binaryExpected text => text ++ ": binary operator expected".toList
  | tooMany => "too many arguments".toList

/-- How a fault reads in the extended dialect. -/
def extendedMessage : Fault → Octets
  | illegalNumber text => text ++ ": integer expression expected".toList
  | argumentExpected _ => "argument expected".toList
  | openParenthesis => "\x60)' expected".toList
  | unexpectedOperator _ => "too many arguments".toList
  | fault => fault.message

end Fault

/-! ## Operators -/

/-- Operators before one word. -/
def unaryOperators : List String :=
  ["-r", "-w", "-x", "-e", "-f", "-d", "-c", "-b", "-p", "-u", "-g", "-k", "-s", "-t", "-z", "-n",
   "-h", "-L", "-S", "-O", "-G"]

/-- Operators before one word that only the extended dialect has. -/
def extendedOperators : List String := ["-a", "-v", "-o", "-N", "-R"]

/-- Operators between two words. -/
def binaryOperators : List String :=
  ["=", "!=", "<", ">", "-eq", "-ne", "-ge", "-gt", "-le", "-lt", "-nt", "-ot", "-ef"]

/-- Whether a text is one of several operators. -/
def isIn (operators : List String) (text : Octets) : Bool :=
  operators.contains (String.ofList text)

/-- The number that a text is. -/
def number (text : Octets) : Except Fault Int :=
  let bare := text.dropWhile Octets.isSpace
  let (negative, digits) := match bare with
    | '-' :: rest => (true, rest)
    | '+' :: rest => (false, rest)
    | rest => (false, rest)
  let taken := digits.takeWhile Char.isDigit
  let n : Int := Arithmetic.digitsValue 10 taken
  let n := if negative then -n else n
  if taken.isEmpty ∨ !((digits.drop taken.length).all Octets.isSpace) ∨
      n < Arithmetic.smallest ∨ Arithmetic.largest < n then
    .error (.illegalNumber text)
  else .ok n

/-- The entry that a path leads to. -/
def entryAt? (facts : Facts) (path : Octets) : Option (List String × TreeNode) :=
  (facts.files.resolve ⟨Octets.toText path⟩).toOption

/-- Whether an entry is a device. -/
def isDevice (names : List String) : Bool :=
  (Host.device? names).isSome

/-- What an operator before one word says of it. -/
def unary (facts : Facts) (operator : Octets) (word : Octets) : Except Fault Bool :=
  let about (p : List String → TreeNode → Bool) : Except Fault Bool :=
    .ok ((entryAt? facts word).any (fun (names, node) => p names node))
  match String.ofList operator with
  | "-z" => .ok word.isEmpty
  | "-n" => .ok !word.isEmpty
  | "-t" => do return facts.isTerminal (← number word).toNat
  | "-v" => .ok (facts.isSet word)
  | "-o" => .ok (facts.isOn word)
  | "-e" | "-a" | "-r" | "-w" | "-O" | "-G" => about (fun _ _ => true)
  | "-f" => about (fun names node => node != .directory && !isDevice names)
  | "-d" => about (fun _ node => node == .directory)
  | "-c" => about (fun names _ => isDevice names)
  | "-s" => about (fun _ node => node != .file [])
  | "-x" => about (fun names node => node == .directory || facts.isExecutable names)
  | "-k" => about (fun names _ => names == ["tmp"])
  | _ => .ok false

/-- Whether a text comes before another one. -/
def before : Octets → Octets → Bool
  | _, [] => false
  | [], _ :: _ => true
  | a :: as, b :: bs => if a = b then before as bs else a < b

/-- What an operator between two words says of them. -/
def binary (facts : Facts) (operator : Octets) (left right : Octets) : Except Fault Bool :=
  let compared (p : Int → Int → Bool) : Except Fault Bool := do
    return p (← number left) (← number right)
  match String.ofList operator with
  | "=" | "==" => .ok (left == right)
  | "!=" => .ok (left != right)
  | "<" => .ok (before left right)
  | ">" => .ok (before right left)
  | "-eq" => compared (· == ·)
  | "-ne" => compared (· != ·)
  | "-lt" => compared (· < ·)
  | "-le" => compared (· ≤ ·)
  | "-gt" => compared (· > ·)
  | "-ge" => compared (· ≥ ·)
  | "-ef" =>
    .ok (match entryAt? facts left, entryAt? facts right with
      | some (a, _), some (b, _) => a == b
      | _, _ => false)
  | "-nt" => .ok ((entryAt? facts left).isSome && (entryAt? facts right).isNone)
  | "-ot" => .ok ((entryAt? facts left).isNone && (entryAt? facts right).isSome)
  | _ => .ok false

/-! ## From left to right -/

/-- What a word is where it stands. -/
inductive Meaning where
  | missing
  | operand
  | unary
  | binary
  | negation
  | both
  | either
  | left
  | right
  deriving DecidableEq, Repr

/-- What a word is taken for by itself. -/
def operator? (text : Octets) : Option Meaning :=
  if isIn unaryOperators text then some .unary
  else if isIn binaryOperators text then some .binary
  else
    match String.ofList text with
    | "!" => some .negation
    | "-a" => some .both
    | "-o" => some .either
    | "(" => some .left
    | ")" => some .right
    | _ => none

/-- What the first of several words is. -/
def meaning (words : List Octets) : Meaning :=
  match words with
  | [] => .missing
  | first :: rest =>
    match operator? first with
    | some .unary =>
      let isOperand : Bool := match rest with
        | [] => true
        | [_] => false
        | next :: _ => operator? next == some .binary
      if isOperand then .operand else .unary
    | some .left => if rest.isEmpty then .operand else .left
    | some found => found
    | none => .operand

/-- Reading of a condition; the state is the words from the current one on. -/
abbrev Reading := StateT (List Octets) (Except Fault)

/-- Go on by a number of words; the answer is what the next one is. -/
def advance (n : Nat) : Reading Meaning := do
  modify (List.drop n)
  return meaning (← get)

/-- What the word after the current one is. -/
def following : Reading Meaning := return meaning ((← get).drop 1)

/-- What is read of a condition. -/
inductive Level where
  | either
  | both
  | negation
  | primary
  deriving DecidableEq, Repr

/-- Readings of conditions by level, where the current word has a meaning. -/
abbrev Reader := Level → Meaning → Reading Bool

/-- A condition without connectives. -/
def primary (facts : Facts) (read : Reader) (found : Meaning) : Reading Bool := do
  match found with
  | .missing => return false
  | .left =>
    let inner ← advance 1
    if inner = .right then return false
    else
      let result ← read .either inner
      if (← advance 1) = .right then return result else throw .openParenthesis
  | .unary =>
    match ← get with
    | operator :: word :: _ =>
      modify (List.drop 1)
      unary facts operator word
    | operator :: [] => throw (.argumentExpected operator)
    | [] => return false
  | _ =>
    if (← following) = .binary then
      match ← get with
      | left :: operator :: right :: _ =>
        modify (List.drop 2)
        binary facts operator left right
      | _ :: operator :: _ => throw (.argumentExpected operator)
      | _ => return false
    else return ((← get).headD []) != []

/-- A level, given readings of the levels within it. -/
def level (facts : Facts) (read : Reader) : Reader := fun level found => do
  match level with
  | .either =>
    let first ← read .both found
    if (← following) = .either then
      let second ← read .either (← advance 2)
      return first || second
    else return first
  | .both =>
    let first ← read .negation found
    if (← following) = .both then
      let second ← read .both (← advance 2)
      return first && second
    else return first
  | .negation =>
    if found ≠ .negation then read .primary found
    else
      let next ← following
      if next ≠ .missing then modify (List.drop 1)
      return !(← read .negation next)
  | .primary => primary facts read found

/-- Readings of conditions; `fuel` bounds the depth of conditions within conditions. -/
def read (facts : Facts) : Nat → Reader
  | 0 => fun _ _ => return false
  | fuel + 1 => level facts (fun inner found => read facts fuel inner found)

/-- A condition in words that are not prepared further. -/
def whole (facts : Facts) (words : List Octets) (found : Meaning) : Except Fault Bool := do
  let (result, rest) ← (read facts (4 * words.length + 8) .either found).run words
  match rest with
  | first :: _ :: _ => throw (.unexpectedOperator first)
  | _ => return result

/-- What words say as a condition of the plain dialect. -/
def evaluate (facts : Facts) : Nat → List Octets → Except Fault Bool
  | 0, _ => .ok false
  | fuel + 1, words =>
    match words with
    | [] => .ok false
    | [a, b, c] =>
      if isIn binaryOperators b then whole facts words .operand
      else if a = ['('] ∧ c = [')'] then whole facts [b] (meaning [b])
      else if a = ['!'] then (evaluate facts fuel [b, c]).map (!·)
      else whole facts words (meaning words)
    | [a, b, c, d] =>
      if a = ['('] ∧ d = [')'] then whole facts [b, c] (meaning [b, c])
      else if a = ['!'] then (evaluate facts fuel [b, c, d]).map (!·)
      else whole facts words (meaning words)
    | words => whole facts words (meaning words)

/-! ## By the number of words -/

/-- Operators between two words in the extended dialect. -/
def isBinary (text : Octets) : Bool := isIn ("==" :: binaryOperators) text

/-- What words say as a condition of the extended dialect. -/
def evaluateExtended (facts : Facts) : Nat → List Octets → Except Fault Bool
  | 0, _ => .ok false
  | fuel + 1, words =>
    match words with
    | [] => .ok false
    | [a] => .ok !a.isEmpty
    | [a, b] =>
      if a = ['!'] then .ok b.isEmpty
      else if isIn (unaryOperators ++ extendedOperators) a then unary facts a b
      else .error (.unaryExpected a)
    | [a, b, c] =>
      if isBinary b then binary facts b a c
      else if b = ['-', 'a'] then .ok (!a.isEmpty && !c.isEmpty)
      else if b = ['-', 'o'] then .ok (!a.isEmpty || !c.isEmpty)
      else if a = ['!'] then (evaluateExtended facts fuel [b, c]).map (!·)
      else if a = ['('] ∧ c = [')'] then .ok !b.isEmpty
      else .error (.binaryExpected b)
    | a :: rest =>
      if rest.length = 3 ∧ a = ['!'] then (evaluateExtended facts fuel rest).map (!·)
      else whole facts words (meaning words)

/-- What words say as a condition. -/
def ofWords (dialect : Dialect) (facts : Facts) (words : List Octets) : Except Fault Bool :=
  match dialect with
  | .plain => evaluate facts (words.length + 1) words
  | .extended => evaluateExtended facts (words.length + 1) words

end PubSubTrials.Shell.Test
