import PubSubTrials.Shell.Builtins.Declarations
import PubSubTrials.Shell.Glyph

/-!
# Builtin commands that read

Reading variables from a line of input, or from a part of it, and reading lines as the elements of
a variable.
-/

namespace PubSubTrials.Shell.Builtins

open Host (Course)

/-- What is to be read. -/
structure Wanted where
  descriptor : Nat
  /-- Whether backslashes stand for themselves. -/
  isRaw : Bool
  /-- The character that ends what is read. -/
  delimiter : Char
  /-- The number of characters after which reading ends. -/
  most : Option Nat
  /-- Whether only their number and the end of all input end what is read. -/
  isExact : Bool
  /-- The time after which reading ends. -/
  deadline : Option Duration

/-- How reading has ended. -/
inductive Ending where
  | complete
  /-- The input has ended. -/
  | exhausted
  /-- The time has come. -/
  | late
  deriving DecidableEq, Repr

namespace Ending

/-- The status of a command that reads. -/
def status : Ending → Nat
  | complete => 0
  | exhausted => 1
  | late => 142

end Ending

/-- Text without its backslashes, in reverse before what was taken, and whether a backslash stands
at its end. A character after a backslash does not separate. -/
def unescaped : Octets → List Glyph → List Glyph × Bool
  | [], taken => (taken, false)
  | ['\\'], taken => (taken, true)
  | '\\' :: c :: rest, taken => unescaped rest (.char .quoted c :: taken)
  | c :: rest, taken => unescaped rest (.char .expanded c :: taken)

/-- A line of input without its end, where a backslash joins lines unless it stands for itself. -/
def readLine (wanted : Wanted) : Nat → List Glyph → Scripting (List Glyph × Ending)
  | 0, taken => return (taken.reverse, .exhausted)
  | fuel + 1, taken => do
    match ← Scripting.ask (Course.readUntil wanted.deadline .line wanted.descriptor) with
    | none => return (taken.reverse, .late)
    | some (.error _) => return (taken.reverse, .exhausted)
    | some (.ok line) =>
      let ended := line.getLast? = some '\n'
      let text := (if ended then line.dropLast else line).filter (· ≠ '\x00')
      let ending : Ending := if ended then .complete else .exhausted
      if wanted.isRaw then return (taken.reverse ++ Glyph.ofText .expanded text, ending)
      else
        let (glyphs, joins) := unescaped text taken
        if joins ∧ ended then readLine wanted fuel glyphs else return (glyphs.reverse, ending)

/-- Input character by character. -/
def readCharacters (wanted : Wanted) : Nat → Bool → List Glyph →
    Scripting (List Glyph × Ending)
  | 0, _, taken => return (taken.reverse, .exhausted)
  | fuel + 1, escaped, taken => do
    if wanted.most.any (· ≤ taken.length) then return (taken.reverse, .complete)
    else
      match ← Scripting.ask
          (Course.readUntil wanted.deadline (.atMost 1) wanted.descriptor) with
      | none => return (taken.reverse, .late)
      | some (.error _) | some (.ok []) => return (taken.reverse, .exhausted)
      | some (.ok (c :: _)) =>
        if escaped then
          readCharacters wanted fuel false (if c = '\n' then taken else .char .quoted c :: taken)
        else if c = wanted.delimiter ∧ !wanted.isExact then return (taken.reverse, .complete)
        else if c = '\\' ∧ !wanted.isRaw then readCharacters wanted fuel true taken
        else
          readCharacters wanted fuel false
            (if c = '\x00' then taken else .char .expanded c :: taken)

/-- What is wanted of the input. -/
def readWanted (wanted : Wanted) : Scripting (List Glyph × Ending) :=
  if wanted.delimiter = '\n' ∧ wanted.most.isNone then
    readLine wanted Reading.manyTimes []
  else readCharacters wanted Reading.manyTimes false []

/-! ## Fields -/

/-- Complain if a text names no variable and no element. -/
def demandTarget (text : Octets) : Scripting Unit := do
  if !((← get).isExtended ∧ (elementName? text).isSome) then demandName text

/-- Whether a piece of a line is a blank that separates. -/
def isSeparatingBlank (separators : Octets) : Glyph → Bool
  | .char .expanded c => separators.contains c && Octets.isBlankOrEnd c
  | _ => false

/-- Whether a piece of a line separates. -/
def isSeparating (separators : Octets) : Glyph → Bool
  | .char .expanded c => separators.contains c
  | _ => false

/-- The first field of a line and what comes after the separator that ends it. -/
def takeField (separators : Octets) (line : List Glyph) : List Glyph × List Glyph :=
  let line := line.dropWhile (isSeparatingBlank separators)
  let field := line.takeWhile (fun glyph => !isSeparating separators glyph)
  let rest := (line.drop field.length).dropWhile (isSeparatingBlank separators)
  let rest := match rest with
    | glyph :: more =>
      if isSeparating separators glyph then more.dropWhile (isSeparatingBlank separators)
      else rest
    | [] => []
  (field, rest)

/-- What the last variable gets of a line. -/
def lastField (separators : Octets) (line : List Glyph) : Octets :=
  match Glyph.fields separators line with
  | [] => []
  | [field] => Glyph.text field
  | _ =>
    let line := line.dropWhile (isSeparatingBlank separators)
    Glyph.text (line.reverse.dropWhile (isSeparatingBlank separators)).reverse

/-- Give variables the fields of a line. -/
def assignFields (separators : Octets) : List Octets → List Glyph → Scripting Unit
  | [], _ => return ()
  | [last], line => do
    demandTarget last
    Scripting.assignNamed last (lastField separators line)
  | name :: rest, line => do
    let (field, line) := takeField separators line
    demandTarget name
    Scripting.assignNamed name (Glyph.text field)
    assignFields separators rest line

/-! ## Commands -/

/-- The time that a number of seconds with decimals is. -/
def interval? (text : Octets) : Option Duration :=
  let (whole, rest) := Octets.cutAt (· = '.') text
  let decimals := rest.drop 1
  if (whole ++ decimals).isEmpty ∨ !(whole ++ decimals).all Char.isDigit then none
  else
    let places := decimals.take 9 ++ List.replicate (9 - decimals.length) '0'
    some (.add (.ofSeconds (Arithmetic.digitsValue 10 whole))
      ⟨Arithmetic.digitsValue 10 places⟩)

/-- The value of an option as a number. -/
def optionNumber (options : List (Char × Octets)) (letter : Char) (message : String) :
    Scripting (Option Nat) := do
  match options.lookup letter with
  | none => return none
  | some text =>
    match Arguments.number? text with
    | some n => return some n
    | none => Scripting.failAbout text message

/-- The descriptor to read from. -/
def inputOf (options : List (Char × Octets)) : Scripting Nat := do
  match ← optionNumber options 'u' "invalid file descriptor specification" with
  | none => return 0
  | some n =>
    if (← Scripting.ask (Course.handle? n)).isNone then
      Scripting.failAbout (Octets.ofNat n)
        ("invalid file descriptor: " ++ SystemError.badDescriptor.reason)
    else return n

/-- What options say about what is to be read. -/
def wantedOf (options : List (Char × Octets)) : Scripting Wanted := do
  let few ← optionNumber options 'n' "invalid number"
  let exactly ← optionNumber options 'N' "invalid number"
  let deadline ← match options.lookup 't' with
    | none => pure none
    | some text =>
      match interval? text with
      | some time => do pure (some ((← Scripting.ask Course.now).add time))
      | none => Scripting.failAbout text "invalid timeout specification"
  let descriptor ← inputOf options
  return {
    descriptor, isRaw := Arguments.given options 'r'
    delimiter := match options.lookup 'd' with
      | some text => text.headD '\x00'
      | none => '\n'
    most := exactly.or few, isExact := exactly.isSome, deadline }

/-- Read variables from a line of input. -/
def read (arguments : List Octets) : Scripting Nat := do
  let session ← get
  let known := if session.isExtended then "p:rsea:n:N:d:t:u:i:" else "p:r"
  let (options, names) ← Arguments.options known arguments
  match options.lookup 'p' with
  | some text => if ← Scripting.ask (Course.isTerminal 0) then Scripting.emit 2 text
  | none => pure ()
  if names.isEmpty ∧ !session.isExtended then Scripting.failWith "arg count"
  else
    let wanted ← wantedOf options
    let (line, ending) ← readWanted wanted
    match options.lookup 'a', names with
    | some name, _ =>
      let fields := (Glyph.fields session.separators line).map Glyph.text
      Scripting.setContent name (Session.listed fields)
    | none, [] => Scripting.assign "REPLY".toList (Glyph.text line)
    | none, name :: rest =>
      if wanted.isExact then
        demandTarget name
        Scripting.assignNamed name (Glyph.text line)
        rest.forM (fun name => Scripting.assignNamed name [])
      else assignFields session.separators names line
    return ending.status

/-- Lines of input, each with its end if it has one, up to a number of them. -/
def readLines (delimiter : Char) (descriptor : Nat) : Nat → Scripting (List Octets)
  | 0 => return []
  | fuel + 1 => do
    let wanted : Wanted := ⟨descriptor, true, delimiter, none, false, none⟩
    let (line, ending) ← readWanted wanted
    let text := Glyph.text line
    if ending = .complete then
      return (text ++ [delimiter]) :: (← readLines delimiter descriptor fuel)
    else return if text.isEmpty then [] else [text]

/-- Read lines as the elements of a variable. -/
def mapfile (arguments : List Octets) : Scripting Nat := do
  let (options, names) ← Arguments.options "d:n:O:s:tu:C:c:" arguments
  let name := names.headD "MAPFILE".toList
  demandName name
  let most ← optionNumber options 'n' "invalid line count"
  let origin ← optionNumber options 'O' "invalid array origin"
  let passed ← optionNumber options 's' "invalid line count"
  let descriptor ← inputOf options
  let delimiter := match options.lookup 'd' with
    | some text => text.headD '\x00'
    | none => '\n'
  let count := match most.getD 0 with
    | 0 => Reading.manyTimes
    | n => passed.getD 0 + n
  let lines := (← readLines delimiter descriptor count).drop (passed.getD 0)
  let isCut := Arguments.given options 't' || delimiter = '\x00'
  let texts := lines.map (fun line =>
    if isCut ∧ line.getLast? = some delimiter then line.dropLast else line)
  let session ← get
  let before := if origin.isSome then session.contentOf name else .nothing
  let content := (texts.zipIdx (origin.getD 0)).foldl (fun (content : Content) (text, n) =>
    content.withNumbered n text) (if before = .nothing then .list [] else before)
  Scripting.setContent name content
  return 0

/-- Builtin commands that read. -/
def taking (dialect : Dialect) : List Builtin :=
  .plain "read" read ::
    (match dialect with
    | .plain => []
    | .extended => [.plain "mapfile" mapfile, .plain "readarray" mapfile])

end PubSubTrials.Shell.Builtins
