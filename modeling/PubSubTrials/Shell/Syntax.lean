import PubSubTrials.Text.Spelled

/-!
# Shell scripts

Applications may be scripts of a command language: simple commands with assignments and
redirections, combined by pipelines, lists, conditionals, loops, groups and functions. Words are
kept as rows of parts that are expanded when a command is run. There are two dialects: the plain
one, and the extended one, which knows more expansions and commands.
-/

namespace PubSubTrials.Shell

/-- The dialect of a script. -/
inductive Dialect where
  | plain
  | extended
  deriving DecidableEq, Repr, Inhabited

/-- How the letters of a value are changed. -/
inductive LetterCase where
  | upper
  | lower
  deriving DecidableEq, Repr

/-- What comes after the body of an arm. -/
inductive ArmEnd where
  | leave
  /-- The body of the next arm. -/
  | goOn
  /-- The first other arm of which a pattern matches. -/
  | tryOthers
  deriving DecidableEq, Repr

mutual

/-- A part of a word; what is quoted is not split and matches only itself in patterns. -/
inductive Part where
  | text (quoted : Bool) (chars : Octets)
  | parameter (quoted : Bool) (name : Octets) (index : Option (List Part)) (change : Change)
  | sum (quoted : Bool) (expression : List Part)
  /-- The output of a command. -/
  | output (quoted : Bool) (command : Command)
  /-- The path of a file from which the output of a command can be read, or to which its input can
  be written. -/
  | channel (isRead : Bool) (command : Command)

/-- What is done with the value of a parameter. -/
inductive Change where
  | plain
  | length
  /-- Use (`-`), assign (`=`), demand (`?`) or replace by (`+`) another value; `emptyToo` tells
  whether an empty value counts as missing. -/
  | otherwise (kind : Char) (emptyToo : Bool) (word : List Part)
  /-- Cut off what matches a pattern. -/
  | cut (atEnd longest : Bool) (pattern : List Part)
  /-- Put a text in the place of what matches a pattern: of the first such place, of all (`/`),
  or of one at the start (`#`) or the end (`%`). -/
  | replace (place : Option Char) (pattern replacement : List Part)
  /-- A part of the value. -/
  | slice (offset : List Part) (length : Option (List Part))
  /-- Change the first letter or all letters, of those that match a pattern. -/
  | letters (goal : LetterCase) (all : Bool) (pattern : List Part)
  /-- A change of the parameter that the value names. -/
  | through (change : Change)
  /-- The names of the elements. -/
  | indices
  /-- The names of the variables that start with the name. -/
  | names (apart : Bool)
  /-- The value in another form, which a letter stands for. -/
  | form (letter : Char)
  /-- There is no such change. -/
  | bad (source : Octets)

/-- Where an input or output of a command leads. -/
inductive Target where
  | fromFile (path : List Part)
  /-- To a file; `force` overrides the wish not to lose files. -/
  | toFile (force : Bool) (path : List Part)
  | appendTo (path : List Part)
  | withFile (path : List Part)
  /-- Text that stands in the script, by its number. -/
  | document (number : Nat)
  /-- One line of text. -/
  | line (text : List Part)
  /-- Where another input or output leads. -/
  | same (descriptor : List Part)
  /-- Outputs and diagnostics to a file. -/
  | both (append : Bool) (path : List Part)

/-- A redirection. -/
inductive Redirection where
  | mk (descriptor : Nat) (target : Target)
  /-- A redirection of a descriptor that a variable holds, or gets if it has to be a new one. -/
  | held (name : Octets) (descriptor : Nat) (target : Target)

/-- What an assignment gives to a variable. -/
inductive Value where
  | word (parts : List Part)
  /-- Words, each perhaps with the index of the element that it is for. -/
  | list (words : List (Option (List Part) × List Part))

/-- An assignment. -/
inductive Assignment where
  | mk (name : Octets) (index : Option (List Part)) (appends : Bool) (value : Value)

/-- A condition of the extended dialect. -/
inductive Condition where
  | unary (operator : Octets) (word : List Part)
  | binary (operator : Octets) (left right : List Part)
  | negation (condition : Condition)
  | both (first second : Condition)
  | either (first second : Condition)

/-- A command; `line` is the line of the script in which it stands. -/
inductive Command where
  /-- A simple command. What its words declare may be assigned lists, which are `declared`. -/
  | simple (line : Nat) (assignments : List Assignment) (words : List (List Part))
      (redirections : List Redirection) (declared : List Assignment)
  | pipeline (stages : List Command)
  | negation (command : Command)
  | both (first second : Command)
  | either (first second : Command)
  | sequence (commands : List Command)
  | background (line : Nat) (command : Command) (redirections : List Redirection)
  | redirected (line : Nat) (command : Command) (redirections : List Redirection)
  | subshell (line : Nat) (command : Command) (redirections : List Redirection)
  | conditional (test yes no : Command)
  /-- A loop; it ends when its test succeeds, or when it fails. -/
  | loop (endsOnSuccess : Bool) (test body : Command)
  /-- A loop over words, or over the arguments. -/
  | each (line : Nat) (name : Octets) (values : Option (List (List Part))) (body : Command)
  /-- A loop with a counter. -/
  | count (line : Nat) (start test next : List Part) (body : Command)
  /-- A choice between arms, each with patterns, a body and what comes after it. -/
  | choice (line : Nat) (subject : List Part)
      (arms : List (List (List Part) × Command × ArmEnd))
  /-- A loop over words from which somebody chooses, or over the arguments. -/
  | menu (line : Nat) (name : Octets) (values : Option (List (List Part))) (body : Command)
  /-- A command whose time is told. -/
  | timed (inSeconds : Bool) (command : Command)
  | function (line : Nat) (name : Octets) (body : Command)
  | condition (line : Nat) (condition : Condition)
  /-- An expression that succeeds unless it is zero. -/
  | evaluation (line : Nat) (expression : List Part)

end

/-- A word of a command. -/
abbrev Word := List Part

instance : Inhabited Part := ⟨.text false []⟩

instance : Inhabited Command := ⟨.sequence []⟩

/-- The command that does nothing. -/
def Command.nothing : Command := .sequence []

/-- Whether a command does nothing. -/
def Command.isNothing : Command → Bool
  | .sequence [] => true
  | _ => false

/-- The commands of a list of commands. -/
def Command.items : Command → List Command
  | .sequence commands => commands
  | command => [command]

/-- Commands one after the other. -/
def Command.ofItems : List Command → Command
  | [command] => command
  | commands => .sequence commands

/-! ## Names -/

/-- Characters that start a name. -/
def startsName (c : Char) : Bool := c.isAlpha || c = '_'

/-- Characters of a name. -/
def inName (c : Char) : Bool := startsName c || c.isDigit

/-- Whether a text is a name. -/
def isName (text : Octets) : Bool :=
  text.head?.any startsName && text.all inName

/-- Parameters with a name of one special character. -/
def isSpecial (c : Char) : Bool :=
  ['@', '*', '#', '?', '-', '$', '!'].contains c || c.isDigit

/-! ## Words -/

/-- The text of a word without quotes and expansions. -/
def Word.plain? : Word → Option Octets
  | [] => some []
  | .text false chars :: rest => (plain? rest).map (chars ++ ·)
  | _ => none

/-- The text of a word whose quotes are taken away; expansions give nothing. -/
def Word.unquoted : Word → Octets
  | [] => []
  | .text _ chars :: rest => chars ++ unquoted rest
  | _ :: rest => unquoted rest

/-- A word about as it was written. -/
def Word.source : Word → Octets
  | [] => []
  | .text false chars :: rest => chars ++ source rest
  | .text true chars :: rest => Spelled.doubleQuoted chars ++ source rest
  | .parameter _ name _ _ :: rest => '$' :: name ++ source rest
  | _ :: rest => source rest

/-- Whether some of a word is quoted. -/
def Word.hasQuotes (word : Word) : Bool :=
  word.any (fun part =>
    match part with
    | .text quoted _ => quoted
    | _ => false)

/-- Join neighbouring texts. -/
def Word.condense : Word → Word
  | [] => []
  | part :: rest =>
    match part, condense rest with
    | .text a chars, .text b more :: rest =>
      if a = b then .text a (chars ++ more) :: rest else .text a chars :: .text b more :: rest
    | part, rest => part :: rest

/-- A word whose texts count as unquoted. -/
def Word.asUnquoted (word : Word) : Word :=
  word.map (fun part =>
    match part with
    | .text _ chars => .text false chars
    | part => part)

/-- A word that stands for the text as it is. -/
def Word.ofText (text : Octets) : Word := [.text true text]

end PubSubTrials.Shell
