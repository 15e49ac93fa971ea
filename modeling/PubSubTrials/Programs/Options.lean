import PubSubTrials.Programs.Basic

/-!
# Options of programs

An option is a letter after a dash or a word after two dashes, and may have a value. Options may
come after operands, unless a program wants the rest of its words as they are. Words may be cut
short as long as only one option starts like that.
-/

namespace PubSubTrials.Programs

/-- Whether an option has a value. -/
inductive Arity where
  | never
  | always
  /-- Only if the value stands in the same word. -/
  | perhaps
  deriving DecidableEq, Repr

/-- The options that a program knows. -/
structure OptionTable where
  /-- Letters, each followed by a colon if it has a value, and by two if it may have one. -/
  letters : String
  /-- Words with the letters that they stand for. -/
  words : List (String × Arity × Char)
  /-- Whether options may come after operands. -/
  permutes : Bool

/-- Options with their values, and the operands. -/
structure Chosen where
  options : List (Char × Option Octets)
  operands : List Octets

namespace Chosen

/-- Whether an option was given. -/
def has (chosen : Chosen) (letter : Char) : Bool :=
  chosen.options.any (fun entry => entry.1 = letter)

/-- The value of an option that was given last. -/
def value? (chosen : Chosen) (letter : Char) : Option Octets :=
  ((chosen.options.filter (fun entry => entry.1 = letter)).getLast?).bind Prod.snd

end Chosen

namespace OptionTable

/-- Options of letters only, anywhere among the operands. -/
def ofLetters (letters : String) : OptionTable := ⟨letters, [], true⟩

/-- Whether a letter has a value, if it is known. -/
def arity? (letter : Char) : List Char → Option Arity
  | c :: ':' :: ':' :: rest => if c = letter then some .perhaps else arity? letter rest
  | c :: ':' :: rest => if c = letter then some .always else arity? letter rest
  | c :: rest => if c = letter then some .never else arity? letter rest
  | [] => none

/-- The option of a word that may be cut short. -/
def word? (table : OptionTable) (word : Octets) : List (String × Arity × Char) :=
  let text := String.ofList word
  match table.words.find? (fun entry => entry.1 = text) with
  | some entry => [entry]
  | none => table.words.filter (fun entry => entry.1.startsWith text)

/-- The letters of one word with the first of the words after it, as options. -/
def lettersOf (table : OptionTable) (next : List Octets) :
    List Char → Running (List (Char × Option Octets) × List Octets)
  | [] => return ([], next)
  | letter :: rest => do
    match arity? letter table.letters.toList with
    | none => Running.failUsage ("invalid option -- ".toList ++ Running.quoted [letter]) 0
    | some .never =>
      let (options, next) ← lettersOf table next rest
      return ((letter, none) :: options, next)
    | some .perhaps =>
      return ([(letter, if rest.isEmpty then none else some rest)], next)
    | some .always =>
      match rest, next with
      | [], value :: next => return ([(letter, some value)], next)
      | [], [] =>
        Running.failUsage
          ("option requires an argument -- ".toList ++ Running.quoted [letter]) 0
      | value, next => return ([(letter, some value)], next)

/-- An option of a word, with the words after it. -/
def wordOption (table : OptionTable) (word : Octets) (next : List Octets) :
    Running ((Char × Option Octets) × List Octets) := do
  let (name, value?) := match Octets.cutAt (· = '=') word with
    | (name, _ :: value) => (name, some value)
    | (name, []) => (name, none)
  let dashed (name : Octets) : Octets := '-' :: '-' :: name
  match table.word? name with
  | [] => Running.failUsage ("unrecognized option ".toList ++ Running.quoted (dashed word)) 0
  | [(full, arity, letter)] =>
    match arity, value?, next with
    | .never, some _, _ =>
      Running.failUsage ("option ".toList ++ Running.quoted (dashed full.toList) ++
        " doesn't allow an argument".toList) 0
    | .always, none, value :: next => return ((letter, some value), next)
    | .always, none, [] =>
      Running.failUsage ("option ".toList ++ Running.quoted (dashed full.toList) ++
        " requires an argument".toList) 0
    | _, value?, next => return ((letter, value?), next)
  | several =>
    let choices := several.map (fun entry => ' ' :: Running.quoted (dashed entry.1.toList))
    Running.failUsage ("option ".toList ++ Running.quoted (dashed word) ++
      " is ambiguous; possibilities:".toList ++ choices.flatten) 0

/-- Read options; `fuel` bounds the number of words. -/
def readFrom (table : OptionTable) : Nat → List Octets → Running Chosen
  | 0, operands => return ⟨[], operands⟩
  | fuel + 1, words => do
    match words with
    | [] => return ⟨[], []⟩
    | ['-', '-'] :: rest => return ⟨[], rest⟩
    | ('-' :: '-' :: word) :: rest =>
      let (option, rest) ← wordOption table word rest
      let chosen ← readFrom table fuel rest
      return { chosen with options := option :: chosen.options }
    | ('-' :: letter :: letters) :: rest =>
      let (options, rest) ← lettersOf table rest (letter :: letters)
      let chosen ← readFrom table fuel rest
      return { chosen with options := options ++ chosen.options }
    | operand :: rest =>
      if table.permutes then
        let chosen ← readFrom table fuel rest
        return { chosen with operands := operand :: chosen.operands }
      else return ⟨[], words⟩

/-- The options and operands among words; a program that cannot read them ends with a status. -/
def read (table : OptionTable) (words : List Octets) (status : Nat) : Running Chosen := do
  tryCatch (readFrom table (words.length + 1) words) (fun _ => throw status)

end OptionTable

end PubSubTrials.Programs
