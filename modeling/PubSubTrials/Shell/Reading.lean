import PubSubTrials.Shell.Token

/-!
# Reading scripts

How far a script has been read: what is left of it, the line, a token that was looked at but not
used, and the documents that begin after the line. A backslash before a line end joins two lines.
-/

namespace PubSubTrials.Shell

/-- A document whose text comes after the line. -/
structure Awaited where
  number : Nat
  /-- The line in which it is announced. -/
  line : Nat
  /-- The line that ends it. -/
  mark : Octets
  /-- Whether tabs at the start of its lines are taken away. -/
  strips : Bool
  /-- Whether its text stands for itself. -/
  literal : Bool
  deriving Repr

/-- How far a script has been read. -/
structure Reading where
  dialect : Dialect
  rest : Octets
  line : Nat
  /-- The line of the command that was run last. -/
  executed : Nat
  /-- The last token. -/
  last : Token
  /-- Whether the last token is to be used again. -/
  again : Bool
  awaited : List Awaited
  /-- Whether the text of a document is read. -/
  inDocument : Bool
  documents : Array Word
  /-- Whether words may hold groups of patterns. -/
  knowsGroups : Bool
  /-- Documents that the end of the text has ended, each with the last line. -/
  endless : List (Awaited × Nat)
  deriving Inhabited

/-- Readers of scripts. -/
abbrev Parser := StateT Reading (Except Fault)

namespace Reading

/-- The start of a script. In the extended dialect the last line is always ended. -/
def start (dialect : Dialect) (text : Octets) (line : Nat) : Reading :=
  let ends := text.getLast?.all (fun c => c = '\n' || c = '\\')
  let rest := if dialect = .extended ∧ !ends then text ++ ['\n'] else text
  ⟨dialect, rest, line, line, .newline, false, [], false, #[], false, []⟩

/-- Bound on the number of times that something without another bound is done. -/
def manyTimes : Nat := 1000000000

/-- A complaint about the line that is read. -/
def complain {α : Type} (complaint : Complaint) : Parser α := do
  throw ⟨(← get).line, complaint⟩

/-- Whether the script is of the extended dialect. -/
def isExtended : Parser Bool := return (← get).dialect = .extended

/-- The next character. -/
def peek : Parser (Option Char) := return (← get).rest.head?

/-- Pass the next character. -/
def skip : Parser Unit := modify (fun reading => { reading with rest := reading.rest.tail })

/-- Take the next character. -/
def next : Parser (Option Char) := do
  let c ← peek
  skip
  return c

/-- Count a line. -/
def countLine : Parser Unit := modify (fun reading => { reading with line := reading.line + 1 })

/-- A text after the places at its start where lines are joined, and the number of those. -/
def joined : Octets → Nat → Octets × Nat
  | '\\' :: '\n' :: rest, n => joined rest (n + 1)
  | rest, n => (rest, n)

/-- The next character after places where lines are joined. -/
def peekJoined : Parser (Option Char) := do
  let reading ← get
  match reading.rest with
  | '\\' :: '\n' :: _ =>
    let (rest, n) := joined reading.rest 0
    set { reading with rest, line := reading.line + n }
    return rest.head?
  | rest => return rest.head?

/-- Take the next character after places where lines are joined. -/
def nextJoined : Parser (Option Char) := do
  let c ← peekJoined
  skip
  return c

/-- Pass a character if it is the next one. -/
def skipIf (c : Char) : Parser Bool := do
  if (← peekJoined) = some c then
    skip
    return true
  else return false

/-- Take the characters that satisfy a condition. -/
def takeWhile (p : Char → Bool) : Nat → Octets → Parser Octets
  | 0, taken => return taken.reverse
  | fuel + 1, taken => do
    match ← peekJoined with
    | some c =>
      if p c then
        skip
        takeWhile p fuel (c :: taken)
      else return taken.reverse
    | none => return taken.reverse

/-- Use the last token again. -/
def pushBack : Parser Unit := modify (fun reading => { reading with again := true })

/-- Await a document; the answer is its number. -/
def await (mark : Octets) (strips literal : Bool) : Parser Nat := do
  let reading ← get
  let number := reading.documents.size
  let awaited : Awaited := { number, line := reading.line, mark, strips, literal }
  set { reading with
    documents := reading.documents.push [], awaited := reading.awaited ++ [awaited] }
  return number

/-- Give a document its text. -/
def settle (number : Nat) (text : Word) : Parser Unit :=
  modify (fun reading =>
    { reading with documents := reading.documents.setIfInBounds number text })

end Reading

end PubSubTrials.Shell
