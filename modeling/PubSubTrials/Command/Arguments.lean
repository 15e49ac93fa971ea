import PubSubTrials.Command.Request

/-!
# Arguments

How a request is written in words: the name of a command and its options. An option has a name
that is written after two dashes, and some have a letter that is written after one, where
several letters may share a word. A value follows its option as the next word, or in the same
word after an equals sign; after a letter the equals sign may be missing. A word that starts
with a dash is no value, except for options that take any word. An option's value is looked at
when the next option is met or the words end, so an unknown option is reported before it.
-/

namespace PubSubTrials

/-- Why words are no request. -/
inductive UsageError where
  /-- Help is asked for. -/
  | helpWanted
  /-- The version is asked for. -/
  | versionWanted
  /-- There are no words. -/
  | nothingWanted
  | unknownCommand
  | unknownArgument
  /-- An option lacks its value, or a path is empty. -/
  | missingValue
  /-- A value is no number of the right size. -/
  | malformedValue
  /-- A value is given to an option that takes none. -/
  | unexpectedValue
  /-- An option is given twice. -/
  | repeatedOption
  | missingOption
  deriving DecidableEq, Repr

/-- The exit code of the program when words are no request. -/
def UsageError.exitCode : UsageError → Nat
  | helpWanted | versionWanted => 0
  | _ => 2

/-- The options of all commands. -/
inductive Switch where
  | publisher
  | subscriber
  | implementation
  | suite
  | case
  | suiteFile
  | timeout
  | stagger
  | leading
  | pipes
  | output
  | verbose
  | help
  deriving DecidableEq, Repr

namespace Switch

/-- What is written after two dashes. -/
def name : Switch → String
  | publisher => "publisher"
  | subscriber => "subscriber"
  | implementation => "exe"
  | suite => "suite"
  | case => "test"
  | suiteFile => "suite-file"
  | timeout => "timeout-sec"
  | stagger => "stagger-ms"
  | leading => "prefix"
  | pipes => "pipe-output"
  | output => "output"
  | verbose => "verbose"
  | help => "help"

/-- What is written after one dash, if anything. -/
def letter? : Switch → Option Char
  | output => some 'o'
  | verbose => some 'v'
  | help => some 'h'
  | _ => none

/-- Whether an option has a value. -/
def takesValue : Switch → Bool
  | pipes | verbose | help => false
  | _ => true

/-- Whether the next word is an option's value even if it starts with a dash. -/
def takesAnyWord : Switch → Bool
  | leading => true
  | _ => false

/-- Options that choose cases. -/
def forSelection : List Switch := [suite, case, suiteFile]

/-- Options that say how to run cases. -/
def forOptions : List Switch := [timeout, stagger, leading, pipes, output, verbose]

/-- Options of a run. -/
def ofRun : List Switch := [publisher, subscriber] ++ forSelection ++ forOptions ++ [help]

/-- Options of a matrix. -/
def ofMatrix : List Switch := implementation :: forSelection ++ forOptions ++ [help]

/-- Options of a list. -/
def ofList : List Switch := [suite, suiteFile, help]

end Switch

/-- What the options given so far say. -/
structure Given where
  publisher : Option Path
  subscriber : Option Path
  implementations : List String
  suites : List String
  cases : List String
  suiteFiles : List Path
  timeoutSeconds : Option Nat
  staggerMillis : Option Nat
  leading : List String
  throughPipes : Bool
  output : Option Path
  verbosity : Nat
  deriving DecidableEq, Repr, Inhabited

namespace Given

/-- No options. -/
def nothing : Given := ⟨none, none, [], [], [], [], none, none, [], false, none, 0⟩

/-- The most requests for detail that are counted. -/
def maxVerbosity : Nat := 255

/-- One past the largest number that an option takes. -/
def numberBound : Nat := 0x10000000000000000

/-- A number in decimal digits, which may follow a plus sign. -/
def number (text : List Char) : Except UsageError Nat :=
  let digits := if text.head? = some '+' then text.tail else text
  let n := digits.foldl (fun n c => 10 * n + (c.toNat - '0'.toNat)) 0
  if digits.isEmpty ∨ !digits.all Char.isDigit ∨ numberBound ≤ n then .error .malformedValue
  else .ok n

/-- A path that is not empty. -/
def path (text : List Char) : Except UsageError Path :=
  if text.isEmpty then .error .missingValue else .ok ⟨String.ofList text⟩

/-- The value of an option that may be given once. -/
def once {α : Type} (value : Except UsageError α) : Option α → Except UsageError (Option α)
  | some _ => .error .repeatedOption
  | none => value.map some

/-- Add an option with its value. -/
def put (given : Given) (switch : Switch) (value : List Char) : Except UsageError Given :=
  match switch with
  | .publisher =>
    return { given with publisher := ← once (path value) given.publisher }
  | .subscriber =>
    return { given with subscriber := ← once (path value) given.subscriber }
  | .implementation =>
    return { given with implementations := given.implementations ++ [String.ofList value] }
  | .suite => return { given with suites := given.suites ++ [String.ofList value] }
  | .case => return { given with cases := given.cases ++ [String.ofList value] }
  | .suiteFile => return { given with suiteFiles := given.suiteFiles ++ [← path value] }
  | .timeout =>
    return { given with timeoutSeconds := ← once (number value) given.timeoutSeconds }
  | .stagger =>
    return { given with staggerMillis := ← once (number value) given.staggerMillis }
  | .leading => return { given with leading := given.leading ++ [String.ofList value] }
  | .output => return { given with output := ← once (path value) given.output }
  | .pipes | .verbose | .help => .error .unexpectedValue

/-- Add an option without a value. -/
def raise (given : Given) (switch : Switch) : Except UsageError Given :=
  match switch with
  | .pipes =>
    if given.throughPipes then .error .repeatedOption
    else .ok { given with throughPipes := true }
  | .verbose => .ok { given with verbosity := min (given.verbosity + 1) maxVerbosity }
  | .help => .error .helpWanted
  | _ => .error .missingValue

/-- The selection that is given. -/
def selection (given : Given) : Selection :=
  ⟨given.suites, given.cases, given.suiteFiles⟩

/-- The options that are given. -/
def options (given : Given) : RunOptions where
  timeoutSeconds := given.timeoutSeconds.getD RunOptions.standard.timeoutSeconds
  staggerMillis := given.staggerMillis.getD RunOptions.standard.staggerMillis
  leading := given.leading
  throughPipes := given.throughPipes
  output := given.output
  verbosity := given.verbosity

end Given

/-- Where a reader of words is: what was given, and an option that is not dealt with yet, with
its value once that was met. -/
structure Reading where
  given : Given
  pending : Option (Switch × Option (List Char))
  deriving DecidableEq, Repr

namespace Reading

/-- Nothing read. -/
def start : Reading := ⟨.nothing, none⟩

/-- Deal with the pending option. -/
def settle (reading : Reading) : Except UsageError Given :=
  match reading.pending with
  | none => .ok reading.given
  | some (_, none) => .error .missingValue
  | some (switch, some value) => reading.given.put switch value

/-- Meet an option without a value in its word. -/
def meet (reading : Reading) (switch : Switch) : Except UsageError Reading := do
  let given ← reading.settle
  if switch.takesValue then return ⟨given, some (switch, none)⟩
  else return ⟨← given.raise switch, none⟩

/-- Meet an option with a value in its word. -/
def meetWith (reading : Reading) (switch : Switch) (value : List Char) :
    Except UsageError Reading :=
  if switch.takesValue then do return ⟨← (← reading.settle).put switch value, none⟩
  else .error .unexpectedValue

/-- The parts of a word after its two dashes: a name, and a value if there is an equals sign. -/
def nameAndValue (word : List Char) : List Char × Option (List Char) :=
  match Implementation.split? word with
  | some (name, value) => (name, some value)
  | none => (word, none)

/-- Read a word after its two dashes. -/
def readName (known : List Switch) (reading : Reading) (word : List Char) :
    Except UsageError Reading :=
  let (name, value) := nameAndValue word
  match known.find? (fun switch => switch.name.toList = name), value with
  | none, _ => .error .unknownArgument
  | some switch, none => reading.meet switch
  | some switch, some value => reading.meetWith switch value

/-- Read letters after a dash; what follows the letter of an option with a value is that
value. -/
def readLetters (known : List Switch) (reading : Reading) :
    List Char → Except UsageError Reading
  | [] => .ok reading
  | letter :: rest =>
    match known.find? (fun switch => switch.letter? = some letter) with
    | none => .error .unknownArgument
    | some switch =>
      if switch.takesValue then
        match rest with
        | [] => reading.meet switch
        | '=' :: value => reading.meetWith switch value
        | value => reading.meetWith switch value
      else
        match reading.meet switch with
        | .error error => .error error
        | .ok reading => readLetters known reading rest

/-- Read a word that may be the value of an option that was met before. -/
def readPlain (reading : Reading) (word : List Char) : Except UsageError Reading :=
  match reading.pending with
  | some (switch, none) => .ok { reading with pending := some (switch, some word) }
  | _ => .error .unknownArgument

/-- The option that waits for its value and takes any word for it, if there is one. -/
def greedy? (reading : Reading) : Option Switch :=
  match reading.pending with
  | some (switch, none) => if switch.takesAnyWord then some switch else none
  | _ => none

/-- Read one word. -/
def readWord (known : List Switch) (reading : Reading) (word : List Char) :
    Except UsageError Reading :=
  match reading.greedy? with
  | some switch => .ok { reading with pending := some (switch, some word) }
  | none =>
    match word with
    | '-' :: '-' :: rest => reading.readName known rest
    | '-' :: letter :: rest => reading.readLetters known (letter :: rest)
    | word => reading.readPlain word

/-- Read words to their end. A word of two dashes ends the options, and no command takes
anything else. -/
def readWords (known : List Switch) (reading : Reading) : List String → Except UsageError Given
  | [] => reading.settle
  | word :: rest =>
    if word = "--" ∧ reading.greedy? = none then
      if rest.isEmpty then reading.settle else .error .unknownArgument
    else
      match reading.readWord known word.toList with
      | .error error => .error error
      | .ok reading => readWords known reading rest

end Reading

namespace Request

/-- The run that options ask for. -/
def ofRun (given : Given) : Except UsageError Request :=
  match given.publisher, given.subscriber with
  | some publisher, some subscriber =>
    .ok (.run ⟨publisher, subscriber, given.selection, given.options⟩)
  | _, _ => .error .missingOption

/-- The matrix that options ask for. -/
def ofMatrix (given : Given) : Except UsageError Request :=
  if given.implementations.isEmpty then .error .missingOption
  else .ok (.matrix ⟨given.implementations, given.selection, given.options⟩)

/-- The list that options ask for. -/
def ofList (given : Given) : Except UsageError Request :=
  .ok (.list ⟨given.suites, given.suiteFiles⟩)

/-- The names of the commands. -/
def commandNames : List String := ["run", "matrix", "list", "help"]

/-- Read the words after a request for help: nothing, or the name of a command. -/
def readHelp : List String → UsageError
  | [] => .helpWanted
  | [name] => if commandNames.contains name then .helpWanted else .unknownCommand
  | _ => .unknownCommand

/-- Read a first word that names no command, with those after it. -/
def readOther (word : String) (rest : List String) : UsageError :=
  match word.toList, rest with
  | ['-', '-'], [] => .nothingWanted
  | ['-', '-'], name :: _ =>
    if commandNames.contains name then .unknownArgument else .unknownCommand
  | '-' :: '-' :: long, _ =>
    let (name, value) := Reading.nameAndValue long
    if name = "help".toList then if value.isSome then .unexpectedValue else .helpWanted
    else if name = "version".toList then
      if value.isSome then .unexpectedValue else .versionWanted
    else .unknownArgument
  | '-' :: letter :: _, _ =>
    if letter = 'h' then .helpWanted
    else if letter = 'V' then .versionWanted
    else .unknownArgument
  | _, _ => .unknownCommand

/-- The request that words make. -/
def ofWords : List String → Except UsageError Request
  | [] => .error .nothingWanted
  | "run" :: words => do ofRun (← Reading.start.readWords Switch.ofRun words)
  | "matrix" :: words => do ofMatrix (← Reading.start.readWords Switch.ofMatrix words)
  | "list" :: words => do ofList (← Reading.start.readWords Switch.ofList words)
  | "help" :: words => .error (readHelp words)
  | word :: rest => .error (readOther word rest)

end Request

end PubSubTrials
