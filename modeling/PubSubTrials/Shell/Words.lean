import PubSubTrials.Shell.Reading
import PubSubTrials.Text.Format

/-!
# Words of scripts

How the text of a word is read in the places where it may stand: as it is, within quotes, within
braces, within a sum or in a document. The places differ in what ends them, in what a backslash
does there, and in whether what is written there counts as quoted.
-/

namespace PubSubTrials.Shell.Words

open Reading

/-- How commands within a word are read. -/
structure Nest where
  /-- Commands up to a closing parenthesis. -/
  enclosed : Parser Command
  /-- Commands up to the end of what is read. -/
  loose : Parser Command

/-- A place where the text of a word may stand. -/
inductive Place where
  | bare
  /-- The mark of a document. -/
  | mark
  | braces
  | quotes
  | quotedBraces
  | document
  /-- An expression, within so many parentheses. -/
  | sum (depth : Nat)
  /-- A pattern for a condition. -/
  | pattern
  /-- The index of an element, within so many brackets. -/
  | index (depth : Nat)
  deriving DecidableEq, Repr

namespace Place

/-- Whether what is written at a place counts as quoted. -/
def isQuoted : Place → Bool
  | bare | mark | braces | pattern | index _ => false
  | quotes | quotedBraces | document | sum _ => true

/-- Whether a place may end with the text. -/
def isOpenEnded : Place → Bool
  | bare | mark | document | pattern => true
  | _ => false

/-- What is wrong if the text ends at a place that is not open-ended. -/
def complaint (inDocument : Bool) : Place → Complaint
  | sum _ => .openSum
  | quotes => if inDocument then .openBrace else .openQuote '"'
  | quotedBraces => if inDocument then .openBrace else .openQuote '"'
  | _ => .openBrace

/-- The place of a word within braces that stand at a place. -/
def inBraces : Place → Place
  | bare | mark | braces | pattern | index _ => braces
  | _ => quotedBraces

/-- Whether a character ends the text of a place and is not part of it. -/
def isEndedBy (c : Char) : Place → Bool
  | bare | mark => ['\n', ' ', '\t', '<', '>', '(', ')', ';', '&', '|'].contains c
  | pattern => ['\n', ' ', '\t', '<', '>', ')', ';', '&'].contains c
  | _ => false

/-- Whether a backslash takes away the meaning of a character. -/
def escapes (c : Char) : Place → Bool
  | quotes | sum _ => ['\\', '\x60', '$', '"'].contains c
  | quotedBraces => ['\\', '\x60', '$', '"', '\x7d'].contains c
  | document => ['\\', '\x60', '$'].contains c
  | _ => true

end Place

/-- Text at a place. -/
def textAt (place : Place) (chars : Octets) : Part := .text place.isQuoted chars

/-- The text up to a quote that stands for itself. -/
def singleQuoted : Nat → Octets → Parser Octets
  | 0, taken => return taken.reverse
  | fuel + 1, taken => do
    match ← next with
    | none => complain (if (← get).inDocument then .openBrace else .openQuote '\'')
    | some '\'' => return taken.reverse
    | some c =>
      if c = '\n' then countLine
      singleQuoted fuel (c :: taken)

/-- The value of digits to a base. -/
def valueOf (base : Nat) (digits : Octets) : Nat :=
  digits.foldl (fun n c =>
    n * base + (if c.isDigit then c.toNat - '0'.toNat else c.toLower.toNat - 'a'.toNat + 10)) 0

/-- Whether a character is a digit to base sixteen. -/
def isHexDigit (c : Char) : Bool :=
  c.isDigit || ('a' ≤ c.toLower && c.toLower ≤ 'f')

/-- Text with named control characters, up to a quote. -/
def controlQuoted : Nat → Octets → Parser Octets
  | 0, taken => return taken.reverse
  | fuel + 1, taken => do
    match ← next with
    | none => complain (.openQuote '\'')
    | some '\'' => return taken.reverse
    | some '\n' =>
      countLine
      controlQuoted fuel ('\n' :: taken)
    | some '\\' =>
      match ← next with
      | none => complain (.openQuote '\'')
      | some c =>
        let named : List (Char × Nat) :=
          [('n', 10), ('t', 9), ('r', 13), ('a', 7), ('b', 8), ('e', 27), ('E', 27), ('f', 12),
           ('v', 11), ('\\', 92), ('\'', 39), ('"', 34), ('?', 63)]
        match named.lookup c with
        | some code => controlQuoted fuel (Char.ofNat code :: taken)
        | none =>
          if c = 'x' then
            let digits := ((← get).rest.take 2).takeWhile isHexDigit
            modify (fun reading => { reading with rest := reading.rest.drop digits.length })
            controlQuoted fuel (Char.ofNat (valueOf 16 digits) :: taken)
          else if '0' ≤ c ∧ c ≤ '7' then
            let more := ((← get).rest.take 2).takeWhile (fun d => '0' ≤ d && d ≤ '7')
            modify (fun reading => { reading with rest := reading.rest.drop more.length })
            controlQuoted fuel (Char.ofNat (valueOf 8 (c :: more) % 256) :: taken)
          else if c = 'u' ∨ c = 'U' then
            let most := if c = 'u' then 4 else 8
            let digits := ((← get).rest.take most).takeWhile isHexDigit
            modify (fun reading => { reading with rest := reading.rest.drop digits.length })
            controlQuoted fuel ((Format.codePoint (valueOf 16 digits)).reverse ++ taken)
          else controlQuoted fuel (c :: '\\' :: taken)
    | some c => controlQuoted fuel (c :: taken)

/-! ## Commands within words -/

/-- Give the documents that are still awaited no text. -/
def settleNothing : Parser Unit := do
  for awaited in (← get).awaited do
    settle awaited.number []

/-- Complain about what is open where the extended dialect finds the end of the text. -/
def enclosing {α : Type} (complaint : Complaint) (parser : Parser α) : Parser α := fun reading =>
  match parser reading with
  | .error ⟨line, .unexpected .finish expected⟩ =>
    if reading.dialect = .extended then .error ⟨line, complaint⟩
    else .error ⟨line, .unexpected .finish expected⟩
  | result => result

/-- Complain about open quotes where they begin in the extended dialect. -/
def quoting {α : Type} (parser : Parser α) : Parser α := fun reading =>
  match parser reading with
  | .error ⟨line, complaint⟩ =>
    let isOpen : Bool := match complaint with
      | .openQuote _ | .openBackquote => true
      | _ => false
    .error ⟨if reading.dialect = .extended ∧ isOpen then reading.line else line, complaint⟩
  | result => result

/-- The commands of a substitution, after its opening parenthesis. -/
def substitution (nest : Nest) : Parser Command := do
  let before ← get
  set { before with awaited := [], inDocument := false, again := false }
  let command ← enclosing .openSum nest.enclosed
  settleNothing
  modify (fun reading =>
    { reading with
      awaited := before.awaited, inDocument := before.inDocument, again := false })
  return command

/-- The text between backquotes, after the first one. -/
def backquotedText (place : Place) : Nat → Octets → Parser Octets
  | 0, taken => return taken.reverse
  | fuel + 1, taken => do
    match ← nextJoined with
    | none => complain .openBackquote
    | some '\x60' => return taken.reverse
    | some '\\' =>
      match ← next with
      | none => complain .openBackquote
      | some c =>
        if c = '\\' ∨ c = '\x60' ∨ c = '$' ∨ (place.isQuoted ∧ c = '"') then
          backquotedText place fuel (c :: taken)
        else backquotedText place fuel (c :: '\\' :: taken)
    | some c =>
      if c = '\n' then countLine
      backquotedText place fuel (c :: taken)

/-- The commands between backquotes, after the first one. -/
def backquoted (nest : Nest) (place : Place) : Parser Command := do
  let text ← quoting (backquotedText place manyTimes [])
  let before ← get
  set { before with
    rest := text, line := before.executed, awaited := [], inDocument := false, again := false }
  let command ← nest.loose
  settleNothing
  modify (fun reading =>
    { reading with
      rest := before.rest, line := before.line, awaited := before.awaited
      inDocument := before.inDocument, again := false })
  return command

/-! ## Parameters -/

/-- Kinds of other values that a parameter may have. -/
def otherwiseKinds : List Char := ['-', '+', '?', '=']

/-- The rest of an expansion that cuts a pattern off, after the sign for it. -/
def cut (inner : Place → Parser Word) (sign : Char) : Parser Change := do
  let longest ← skipIf sign
  let pattern ← inner .braces
  return .cut (sign = '%') longest pattern

/-- Cut a word at the first unquoted slash or colon. -/
def splitWord (separator : Char) : Word → Word × Option Word
  | [] => ([], none)
  | .text false chars :: rest =>
    match Octets.cutAt (· = separator) chars with
    | (before, _ :: after) => ([.text false before], some (.text false after :: rest))
    | (_, []) =>
      let (before, after) := splitWord separator rest
      (.text false chars :: before, after)
  | part :: rest =>
    let (before, after) := splitWord separator rest
    (part :: before, after)

/-- Take the brace that closes an expansion, if it is the next character. -/
def closes : Parser Bool := skipIf '\x7d'

/-- A change that only the extended dialect has, by the sign for it. -/
def extendedChange? (inner : Place → Parser Word) (sign : Char) : Parser (Option Change) := do
  match sign with
  | '/' =>
    let place ←
      match ← peek with
      | some c =>
        if ['/', '#', '%'].contains c then do
          skip
          pure (some c)
        else pure none
      | none => pure none
    let (pattern, replacement) := splitWord '/' (← inner .braces).condense
    return some (.replace place pattern (replacement.getD []))
  | '^' | ',' =>
    let all ← skipIf sign
    let pattern ← inner .braces
    return some (.letters (if sign = '^' then .upper else .lower) all pattern)
  | '@' =>
    match ← peek with
    | some letter =>
      if "QEPAKakuUL".toList.contains letter then
        let before ← get
        skip
        if ← closes then return some (.form letter)
        else
          set before
          return none
      else return none
    | none => return none
  | ':' =>
    let (offset, length) := splitWord ':' (← inner .braces).condense
    return some (.slice offset length)
  | _ => return none

/-- What is done with a parameter, after its name. -/
def change (inner : Place → Parser Word) (place : Place) : Parser Change := do
  let bad : Parser Change := do
    let word ← inner place.inBraces
    return .bad word.unquoted
  match ← peekJoined with
  | none => complain (place.inBraces.complaint (← get).inDocument)
  | some '\x7d' =>
    skip
    return .plain
  | some ':' =>
    skip
    match ← peekJoined with
    | some c =>
      if otherwiseKinds.contains c then
        skip
        return .otherwise c true (← inner place.inBraces)
      else if ← isExtended then
        return (← extendedChange? inner ':').getD .plain
      else
        if c = '\x7d' then skip
        bad
    | none => bad
  | some c =>
    skip
    if otherwiseKinds.contains c then return .otherwise c false (← inner place.inBraces)
    else if c = '%' ∨ c = '#' then cut inner c
    else if ← isExtended then
      match ← extendedChange? inner c with
      | some change => return change
      | none => bad
    else bad

/-- An element's index in brackets, in the extended dialect. -/
def index? (inner : Place → Parser Word) : Parser (Option Word) := do
  if !(← isExtended) ∨ (← peek) ≠ some '[' then return none
  else
    skip
    return some (← inner (.index 0)).condense

/-- A parameter with a name that starts with `c`, or a special one. -/
def nameFrom (c : Char) : Parser Octets := do
  if startsName c then return c :: (← takeWhile inName manyTimes [])
  else if c.isDigit then return c :: (← takeWhile Char.isDigit manyTimes [])
  else return [c]

/-- Whether what follows an exclamation mark makes it name a parameter by another one. -/
def namesAnother (text : Octets) : Bool :=
  match text with
  | '#' :: '\x7d' :: _ => true
  | c :: _ => inName c || c = '@' || c = '*'
  | [] => false

/-- The text that was read since a time. -/
def readSince (before : Octets) : Parser Octets := do
  let after := (← get).rest
  return before.take (before.length - after.length)

/-- What follows `${`. -/
def braced (inner : Place → Parser Word) (place : Place) : Parser Part := do
  let quoted := place.isQuoted
  let start := (← get).rest
  let bad : Parser Part := do
    let word ← inner place.inBraces
    return .parameter quoted [] none (.bad word.unquoted)
  let changed (name : Octets) : Parser Part := do
    let index ← index? inner
    match ← change inner place with
    | .bad source =>
      if ← isExtended then return .parameter quoted [] none (.bad (← readSince start).dropLast)
      else return .parameter quoted name index (.bad source)
    | change => return .parameter quoted name index change
  let throughAnother (name : Octets) : Parser Part := do
    let index ← index? inner
    let (before, next) := (← get, ← peek)
    if index.isNone ∧ (next = some '*' ∨ next = some '@') then
      skip
      if ← closes then return .parameter quoted name none (.names (next = some '@'))
      else set before
    match index with
    | some [.text _ [c]] =>
      if (c = '@' ∨ c = '*') ∧ (← closes) then return .parameter quoted name index .indices
      else return .parameter quoted name index (.through (← change inner place))
    | index => return .parameter quoted name index (.through (← change inner place))
  let counted (name : Octets) : Parser Part := do
    let index ← index? inner
    if (← peekJoined) = some '\x7d' then
      skip
      return .parameter quoted name index .length
    else bad
  match ← peekJoined with
  | none => complain (place.inBraces.complaint (← get).inDocument)
  | some '\x7d' => bad
  | some '#' =>
    skip
    match ← peekJoined with
    | some c =>
      if inName c then
        skip
        counted (← nameFrom c)
      else if c = '\x7d' then changed ['#']
      else
        let (rest, line) := ((← get).rest, (← get).line)
        skip
        if (← peekJoined) = some '\x7d' ∧ isSpecial c then counted [c]
        else
          modify (fun reading => { reading with rest, line })
          changed ['#']
    | none => complain (place.inBraces.complaint (← get).inDocument)
  | some c =>
    if c = '!' ∧ (← isExtended) ∧ namesAnother (← get).rest.tail then
      skip
      match ← peek with
      | some first =>
        skip
        throughAnother (← nameFrom first)
      | none => bad
    else if startsName c ∨ isSpecial c then
      skip
      changed (← nameFrom c)
    else bad

/-- What follows a dollar sign. -/
def dollar (nest : Nest) (inner : Place → Parser Word) (place : Place) : Parser Word := do
  let quoted := place.isQuoted
  match ← peekJoined with
  | some '(' =>
    skip
    if ← skipIf '(' then
      return [.sum quoted (← inner (.sum 0)).condense]
    else
      return [.output quoted (← substitution nest)]
  | some '\x7b' =>
    skip
    return [← braced inner place]
  | some c =>
    if startsName c then
      return [.parameter quoted (← takeWhile inName manyTimes []) none .plain]
    else if isSpecial c then
      skip
      return [.parameter quoted [c] none .plain]
    else if (← isExtended) ∧ !quoted ∧ c = '\'' then
      skip
      return [.text true (← controlQuoted manyTimes [])]
    else if (← isExtended) ∧ !quoted ∧ c = '"' then return []
    else return [textAt place ['$']]
  | none => return [textAt place ['$']]

/-! ## Text -/

/-- A mark by which quotes that hold nothing still make a word. Quotes that hold nothing but all
arguments leave none, since there may be no arguments. -/
def quoteMark : Word → Word
  | [.parameter _ ['@'] none .plain] => []
  | [.parameter _ _ (some [.text _ ['@']]) .plain] => []
  | _ => [.text true []]

/-- The command whose output or input has a path, if one starts here. -/
def channel? (nest : Nest) (place : Place) (c : Char) : Parser (Option Part) := do
  let reading ← get
  if reading.dialect = .extended ∧ place = .bare ∧ (c = '<' ∨ c = '>') ∧
      reading.rest.tail.head? = some '(' then
    skip
    skip
    return some (.channel (c = '<') (← substitution nest))
  else return none

/-- Whether a group of patterns starts here. -/
def startsGroup (place : Place) (c : Char) : Parser Bool := do
  let reading ← get
  return reading.knowsGroups && place = .bare && "?*+@!".toList.contains c &&
    reading.rest.tail.head? = some '('

/-- A group of patterns up to the parenthesis that closes it. -/
def group (inner : Place → Parser Word) : Nat → Nat → Word → Parser Word
  | 0, _, taken => return taken.reverse
  | fuel + 1, depth, taken => do
    match ← peekJoined with
    | none => complain .openSum
    | some ')' =>
      skip
      let taken := textAt .bare [')'] :: taken
      if depth ≤ 1 then return taken.reverse else group inner fuel (depth - 1) taken
    | some '(' =>
      skip
      group inner fuel (depth + 1) (textAt .bare ['('] :: taken)
    | some c =>
      if Place.bare.isEndedBy c then
        skip
        group inner fuel depth (textAt .bare [c] :: taken)
      else group inner fuel depth ((← inner .bare).reverse ++ taken)

/-- What a character at a place gives, and the place after it; nothing if it ends the text. -/
def piece (nest : Nest) (inner : Place → Parser Word) (place : Place) (c : Char) :
    Parser (Option (Word × Place)) := do
  let literal : Option (Word × Place) := some ([textAt place [c]], place)
  match ← channel? nest place c with
  | some part => return some ([part], place)
  | none => pure ()
  if ← startsGroup place c then
    skip
    return some (textAt place [c] :: (← group inner manyTimes 0 []), place)
  else if place.isEndedBy c then return none
  else
    skip
    match c, place with
    | '\n', _ =>
      countLine
      return literal
    | '(', .pattern => return some (textAt place [c] :: (← group inner manyTimes 1 []), place)
    | '\\', _ =>
      match ← peek with
      | none => return some ([.text true ['\\']], place)
      | some d =>
        skip
        if d = '\n' then countLine
        return some ([.text true (if place.escapes d then [d] else ['\\', d])], place)
    | '$', .mark => return literal
    | '$', _ => return some (← dollar nest inner place, place)
    | '\x60', .mark => return literal
    | '\x60', _ => return some ([.output place.isQuoted (← backquoted nest place)], place)
    | '\'', .bare | '\'', .mark | '\'', .braces | '\'', .pattern | '\'', .index _ =>
      return some ([.text true (← quoting (singleQuoted manyTimes []))], place)
    | '"', .bare | '"', .mark | '"', .braces | '"', .pattern | '"', .quotedBraces | '"', .index _ =>
      let quoted ← quoting (inner .quotes)
      return some (quoteMark quoted ++ quoted, place)
    | '[', .index depth => return some ([textAt place [c]], .index (depth + 1))
    | ']', .index 0 => return none
    | ']', .index (depth + 1) => return some ([textAt place [c]], .index depth)
    | '"', .quotes => return none
    | '\x7d', .braces | '\x7d', .quotedBraces => return none
    | '(', .sum depth => return some ([textAt place [c]], .sum (depth + 1))
    | ')', .sum 0 => if ← skipIf ')' then return none else return literal
    | ')', .sum (depth + 1) => return some ([textAt place [c]], .sum depth)
    | _, _ => return literal

/-- The text of a place, with what ends it unless that is no part of it. -/
def text (nest : Nest) : Nat → Place → Word → Parser Word
  | 0, _, taken => return taken.reverse
  | fuel + 1, place, taken => do
    match ← peekJoined with
    | none =>
      if place.isOpenEnded then return taken.reverse
      else complain (place.complaint (← get).inDocument)
    | some c =>
      match ← piece nest (fun place => text nest fuel place []) place c with
      | none => return taken.reverse
      | some (parts, place) => text nest fuel place (parts.reverse ++ taken)

/-- The word at a place. -/
def word (nest : Nest) (place : Place) : Parser Word :=
  return (← text nest manyTimes place []).condense

/-! ## Documents -/

/-- The lines of a document up to its mark, what comes after that, and the number of lines; lines
that are joined to the one before are no mark. -/
def documentLines (awaited : Awaited) : Nat → Bool → Octets → Octets → Nat → Octets × Octets × Nat
  | 0, _, taken, rest, n => (taken.reverse, rest, n)
  | fuel + 1, follows, taken, rest, n =>
    if rest.isEmpty then (taken.reverse, [], n)
    else
      let rest := if awaited.strips then rest.dropWhile (· = '\t') else rest
      let (line, after) := Octets.cutAt (· = Octets.lineEnd) rest
      if !follows ∧ line = awaited.mark then (taken.reverse, after.tail, n + 1)
      else
        let slashes := (line.reverse.takeWhile (· = '\\')).length
        let joins := !awaited.literal && slashes % 2 = 1
        documentLines awaited fuel joins ((after.take 1).reverse ++ line.reverse ++ taken)
          after.tail (n + (after.take 1).length)

/-- Read an awaited document. -/
def readDocument (nest : Nest) (awaited : Awaited) : Parser Unit := do
  let before ← get
  let (body, rest, lines) := documentLines awaited manyTimes false [] before.rest 0
  let bodyLines := (body.filter (· = Octets.lineEnd)).length
  if rest.isEmpty ∧ lines = bodyLines then
    modify (fun reading =>
      { reading with endless := reading.endless ++ [(awaited, before.line + lines - 1)] })
  if awaited.literal then settle awaited.number [.text true body]
  else
    modify (fun reading => { reading with rest := body, inDocument := true, awaited := [] })
    let text ← word nest .document
    settle awaited.number text
  modify (fun reading =>
    { reading with
      rest, line := before.line + lines, awaited := [], inDocument := before.inDocument })

/-- Read all documents that are awaited. -/
def readDocuments (nest : Nest) : Parser Unit := do
  let awaited := (← get).awaited
  modify (fun reading => { reading with awaited := [] })
  for one in awaited do
    readDocument nest one

end PubSubTrials.Shell.Words
