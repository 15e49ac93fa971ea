import PubSubTrials.Shell.Words

/-!
# Grammar of scripts

A script is read line by line, and each line is run before the next one is read. Commands hold
commands, so every function here that needs one asks for it by a goal; at the end the goals are
tied together.
-/

namespace PubSubTrials.Shell.Grammar

open Reading Words

/-- What is to be read. -/
inductive Goal where
  /-- The commands of a line; there is none at the end of the script. -/
  | line
  /-- One command or more, up to a token that ends a list. -/
  | body
  /-- Commands up to a token that ends a list. -/
  | inner
  /-- One command, perhaps after line ends. -/
  | command (newlines : Bool)
  deriving DecidableEq, Repr

/-- A reader for each goal. -/
abbrev Reader := Goal → Parser (Option Command)

/-! ## Tokens -/

/-- Note a token as the last one. -/
def noted (token : Token) : Parser Token := do
  modify (fun reading => { reading with last := token })
  return token

/-- The arrow of a redirection after `>`. -/
def outputArrow : Parser Arrow := do
  if ← skipIf '>' then return .append
  else if ← skipIf '|' then return .force
  else if ← skipIf '&' then return .sameOutput
  else return .toFile

/-- The arrow of a redirection after `<`. -/
def inputArrow : Parser Arrow := do
  if ← skipIf '<' then
    if ← skipIf '-' then return .document true
    else if (← isExtended) ∧ (← peekJoined) = some '<' then
      skip
      return .line
    else return .document false
  else if ← skipIf '&' then return .sameInput
  else if ← skipIf '>' then return .withFile
  else return .fromFile

/-- Whether a word may be the descriptor of a redirection that follows it. -/
def descriptor? (dialect : Dialect) : Word → Option (Option Nat)
  | [] => some none
  | [.text false digits] =>
    if digits.all Char.isDigit ∧ (digits.length = 1 ∨ dialect = .extended) then
      some (some (valueOf 10 digits))
    else none
  | _ => none

/-- The name of the variable that holds the descriptor of a redirection which follows the word. -/
def holder? (dialect : Dialect) : Word → Option Octets
  | [.text false ('\x7b' :: text)] =>
    if dialect = .extended ∧ text.getLast? = some '\x7d' ∧ isName text.dropLast then
      some text.dropLast
    else none
  | _ => none

/-- A word, or a redirection with the descriptor before it. -/
def wordOrRedirection (nest : Nest) (place : Place) : Parser Token := do
  let word ← word nest place
  let dialect := (← get).dialect
  let arrow? : Parser (Option Arrow) := do
    match ← peek with
    | some '>' =>
      skip
      return some (← outputArrow)
    | some '<' =>
      skip
      return some (← inputArrow)
    | _ => return none
  match descriptor? dialect word, holder? dialect word with
  | some descriptor, _ =>
    match ← arrow? with
    | some arrow => return .redirection descriptor arrow
    | none => return .word word
  | none, some name =>
    match ← arrow? with
    | some arrow => return .heldRedirection name arrow
    | none => return .word word
  | none, none => return .word word

/-- The token after two semicolons or one, if it ends an arm. -/
def armEnd? : Parser (Option ArmEnd) := do
  if ← skipIf ';' then
    if (← isExtended) ∧ (← skipIf '&') then return some .tryOthers else return some .leave
  else if (← isExtended) ∧ (← peekJoined) = some '&' then
    skip
    return some .goOn
  else return none

/-- The next token, where words stand at a place. -/
def nextToken (nest : Nest) (place : Place) : Nat → Parser Token
  | 0 => return .finish
  | fuel + 1 => do
    match ← peekJoined with
    | none => return .finish
    | some ' ' | some '\t' =>
      skip
      nextToken nest place fuel
    | some '#' =>
      modify (fun reading => { reading with rest := (Octets.cutAt (· = '\n') reading.rest).2 })
      nextToken nest place fuel
    | some '\n' =>
      skip
      countLine
      return .newline
    | some '&' =>
      skip
      if ← skipIf '&' then return .both
      else if (← isExtended) ∧ (← peekJoined) = some '>' then
        skip
        return .redirection (some 1) (if ← skipIf '>' then .bothAppend else .both)
      else return .ampersand
    | some '|' =>
      if place = .pattern then wordOrRedirection nest place
      else
        skip
        if ← skipIf '|' then return .either
        else if (← isExtended) ∧ (← peekJoined) = some '&' then
          skip
          return .barBoth
        else return .bar
    | some ';' =>
      skip
      match ← armEnd? with
      | some ending => return .endOfArm ending
      | none => return .semicolon
    | some '(' =>
      if place = .pattern then wordOrRedirection nest place
      else
        skip
        return .left
    | some ')' =>
      skip
      return .right
    | some _ => wordOrRedirection nest place

/-- The last token if it is to be used again, or else the next one. -/
def rawToken (nest : Nest) (place : Place) : Parser Token := do
  let reading ← get
  if reading.again then
    set { reading with again := false }
    return reading.last
  else noted (← nextToken nest place manyTimes)

/-- Pass line ends, with the documents that follow them. -/
def passNewlines (nest : Nest) : Nat → Token → Parser Token
  | 0, token => return token
  | fuel + 1, token => do
    match token with
    | .newline =>
      readDocuments nest
      passNewlines nest fuel (← rawToken nest .bare)
    | token => return token

/-- The next token, perhaps after line ends, and as a keyword if it may be one. -/
def token (nest : Nest) (newlines keywords : Bool) : Parser Token := do
  let first ← rawToken nest .bare
  let token ← if newlines then passNewlines nest manyTimes first else pure first
  let dialect := (← get).dialect
  match token with
  | .word word =>
    match if keywords then word.plain?.bind (Keyword.ofText? dialect) else none with
    | some keyword => noted (.keyword keyword)
    | none => return token
  | token => return token

/-- Complain about the last token. -/
def unexpected {α : Type} (expected : Option Token) : Parser α := do
  complain (.unexpected (← get).last expected)

/-- Take a keyword that has to come. -/
def expectKeyword (nest : Nest) (keyword : Keyword) (newlines : Bool) : Parser Unit := do
  if !((← token nest newlines true).isKeyword keyword) then unexpected (some (.keyword keyword))

/-- Take a closing parenthesis, before which there may be keywords. -/
def expectRight (nest : Nest) (keywords : Bool) : Parser Unit := do
  match ← token nest false keywords with
  | .right => return ()
  | _ => unexpected (some .right)

/-- How commands within words are read. -/
def nestOf (read : Reader) : Nest where
  enclosed := do
    let command ← read .inner
    expectRight ⟨pure .nothing, pure .nothing⟩ true
    return command.getD .nothing
  loose := return (← read .inner).getD .nothing

/-- The commands of a body. -/
def bodyOf (read : Reader) : Parser Command := return (← read .body).getD .nothing

/-! ## Redirections -/

/-- The descriptor that an arrow redirects if none is named, and where it leads. -/
def targetOf (arrow : Arrow) (word : Word) : Parser (Nat × Target) := do
  match arrow with
  | .fromFile => return (0, .fromFile word)
  | .toFile => return (1, .toFile false word)
  | .force => return (1, .toFile true word)
  | .append => return (1, .appendTo word)
  | .withFile => return (0, .withFile word)
  | .sameInput => return (0, .same word)
  | .sameOutput => return (1, .same word)
  | .line => return (0, .line word)
  | .both => return (1, .both false word)
  | .bothAppend => return (1, .both true word)
  | .document strips =>
    let number ← await word.unquoted strips word.hasQuotes
    return (0, .document number)

/-- The target of an arrow, whose word follows. -/
def target (nest : Nest) (arrow : Arrow) : Parser (Nat × Target) := do
  let place : Place := match arrow with
    | .document _ => .mark
    | _ => .bare
  match ← rawToken nest place with
  | .word word => targetOf arrow word
  | _ => unexpected none

/-- The redirection that a token starts, if it starts one. -/
def redirection? (nest : Nest) (token : Token) : Parser (Option Redirection) := do
  match token with
  | .redirection descriptor arrow =>
    let (usual, target) ← target nest arrow
    return some (.mk (descriptor.getD usual) target)
  | .heldRedirection name arrow =>
    let (usual, target) ← target nest arrow
    return some (.held name usual target)
  | _ => return none

/-- Redirections as long as there are any. -/
def redirections (nest : Nest) : Nat → List Redirection → Parser (List Redirection)
  | 0, taken => return taken.reverse
  | fuel + 1, taken => do
    match ← redirection? nest (← token nest false true) with
    | some redirection => redirections nest fuel (redirection :: taken)
    | none =>
      pushBack
      return taken.reverse

/-- A compound command with the redirections that follow it. -/
def withRedirections (nest : Nest) (line : Nat) (command : Command) : Parser Command := do
  match ← redirections nest manyTimes [] with
  | [] => return command
  | more =>
    match command with
    | .subshell line command _ => return .subshell line command more
    | command => return .redirected line command more

/-! ## Simple commands -/

/-- A text in front of a word. -/
def lead (text : Octets) (word : Word) : Word :=
  if text.isEmpty then word else .text false text :: word

/-- The assignment that a word is, if it is one. -/
def assignment? (dialect : Dialect) : Word → Option Assignment
  | .text false chars :: rest =>
    let name := chars.takeWhile inName
    if !isName name then none
    else
      match dialect, chars.drop name.length with
      | _, '=' :: value => some (.mk name none false (.word (lead value rest)))
      | .extended, '+' :: '=' :: value => some (.mk name none true (.word (lead value rest)))
      | .extended, '[' :: inside =>
        match splitWord ']' (.text false inside :: rest) with
        | (index, some (.text false ('=' :: value) :: rest)) =>
          some (.mk name (some index) false (.word (lead value rest)))
        | (index, some (.text false ('+' :: '=' :: value) :: rest)) =>
          some (.mk name (some index) true (.word (lead value rest)))
        | _ => none
      | _, _ => none
  | _ => none

/-- An element of a list, perhaps with its index. -/
def element : Word → Option Word × Word
  | .text false ('[' :: inside) :: rest =>
    match splitWord ']' (.text false inside :: rest) with
    | (index, some (.text false ('=' :: value) :: more)) => (some index, lead value more)
    | _ => (none, .text false ('[' :: inside) :: rest)
  | word => (none, word)

/-- The elements of a list in parentheses. -/
def listed (nest : Nest) : Nat → List (Option Word × Word) →
    Parser (List (Option Word × Word))
  | 0, taken => return taken.reverse
  | fuel + 1, taken => do
    match ← token nest true false with
    | .word word => listed nest fuel (element word :: taken)
    | .right => return taken.reverse
    | _ => unexpected none

/-- An assignment, with the list that follows it if it is assigned one. -/
def completed (nest : Nest) : Assignment → Parser Assignment
  | .mk name none appends (.word []) => do
    if (← isExtended) ∧ (← peek) = some '(' then
      skip
      return .mk name none appends (.list (← listed nest manyTimes []))
    else return .mk name none appends (.word [])
  | assignment => return assignment

/-- Commands whose name no function may have. -/
def specialNames : List String :=
  [".", ":", "break", "continue", "eval", "exec", "exit", "export", "readonly", "return", "set",
   "shift", "times", "trap", "unset", "local"]

/-- Whether a function may have a name. -/
def isFunctionName (dialect : Dialect) (name : Octets) : Bool :=
  dialect = .extended || (isName name && !specialNames.contains (String.ofList name))

/-- A function, after its name and the opening parenthesis. -/
def function (read : Reader) (nest : Nest) (word : Word) : Parser Command := do
  expectRight nest false
  match word.plain? with
  | some name =>
    if isFunctionName (← get).dialect name then
      let line := (← get).line
      return .function line name ((← read (.command true)).getD .nothing)
    else complain .badFunctionName
  | none => complain .badFunctionName

/-- What was read of a simple command, all in reverse. -/
structure Draft where
  assignments : List Assignment
  words : List Word
  redirections : List Redirection
  declared : List Assignment

namespace Draft

/-- Nothing was read yet. -/
def empty : Draft := ⟨[], [], [], []⟩

/-- The command that was read. -/
def command (draft : Draft) (line : Nat) : Command :=
  .simple line draft.assignments.reverse draft.words.reverse draft.redirections.reverse
    draft.declared.reverse

/-- Commands of which words may be assigned lists. -/
def declarers : List String := ["declare", "typeset", "local", "export", "readonly"]

/-- Whether words of the command may be assigned lists. -/
def declares (draft : Draft) : Bool :=
  (draft.words.getLast?.bind Word.plain?).any (fun name =>
    declarers.contains (String.ofList name))

end Draft

/-- A draft after another word. -/
def withWord (nest : Nest) (draft : Draft) (word : Word) : Parser Draft := do
  let dialect := (← get).dialect
  match if draft.words.isEmpty ∨ draft.declares then assignment? dialect word else none with
  | none => return { draft with words := word :: draft.words }
  | some assignment =>
    match draft.words.isEmpty, ← completed nest assignment with
    | true, assignment => return { draft with assignments := assignment :: draft.assignments }
    | false, .mk name index appends (.list words) =>
      return { draft with
        words := Word.ofText name :: draft.words
        declared := .mk name index appends (.list words) :: draft.declared }
    | false, _ => return { draft with words := word :: draft.words }

/-- A simple command from what was read of it. -/
def simple (read : Reader) (nest : Nest) (line : Option Nat) : Nat → Draft → Parser Command
  | 0, _ => return .nothing
  | fuel + 1, draft => do
    let token ← token nest false false
    let line := line.getD (← get).line
    match token with
    | .word word => simple read nest line fuel (← withWord nest draft word)
    | .left =>
      match draft with
      | ⟨[], [word], [], []⟩ => function read nest word
      | draft =>
        pushBack
        return draft.command line
    | token =>
      match ← redirection? nest token with
      | some redirection =>
        simple read nest line fuel
          { draft with redirections := redirection :: draft.redirections }
      | none =>
        pushBack
        return draft.command line

/-! ## Compound commands -/

/-- A conditional after its first keyword. -/
def conditional (read : Reader) (nest : Nest) : Nat → Parser Command
  | 0 => return .nothing
  | fuel + 1 => do
    let test ← bodyOf read
    expectKeyword nest .consequence false
    let yes ← bodyOf read
    match ← token nest false true with
    | .keyword .elseIf => return .conditional test yes (← conditional read nest fuel)
    | .keyword .otherwise => return .conditional test yes (← bodyOf read)
    | _ =>
      pushBack
      return .conditional test yes .nothing

/-- Words as long as there are any. -/
def wordList (nest : Nest) : Nat → List Word → Parser (List Word)
  | 0, taken => return taken.reverse
  | fuel + 1, taken => do
    match ← token nest false false with
    | .word word => wordList nest fuel (word :: taken)
    | .newline | .semicolon => return taken.reverse
    | _ => unexpected none

/-- The body of a loop between its keywords, or in the extended dialect between braces. -/
def loopBody (read : Reader) (nest : Nest) : Parser Command := do
  match ← token nest true true with
  | .keyword .body =>
    let body ← bodyOf read
    expectKeyword nest .done false
    return body
  | .keyword .opening =>
    if ← isExtended then
      let body ← bodyOf read
      expectKeyword nest .closing false
      return body
    else unexpected (some (.keyword .body))
  | _ => unexpected (some (.keyword .body))

/-- A loop with a counter, after both opening parentheses. -/
def counting (read : Reader) (nest : Nest) (line : Nat) : Parser Command := do
  let (start, more) := splitWord ';' (← word nest (.sum 0)).asUnquoted
  let (test, more) := splitWord ';' (more.getD [])
  match ← token nest true true with
  | .semicolon => pure ()
  | _ => pushBack
  return .count line start test (more.getD []) (← loopBody read nest)

/-- The name of the variable of a loop over words; the extended dialect looks at it later. -/
def loopName (word : Word) : Parser Octets := do
  if ← isExtended then return word.unquoted
  else
    match word.plain? with
    | some name => if isName name then return name else complain .badLoopName
    | none => complain .badLoopName

/-- The words of a loop after its name, if it has any, and its body. -/
def valuesAndBody (read : Reader) (nest : Nest) : Parser (Option (List Word) × Command) := do
  match ← token nest true true with
  | .keyword .among =>
    let values ← wordList nest manyTimes []
    return (some values, ← loopBody read nest)
  | .semicolon => return (none, ← loopBody read nest)
  | _ =>
    pushBack
    return (none, ← loopBody read nest)

/-- A loop over words, after its keyword. -/
def each (read : Reader) (nest : Nest) (line : Nat) : Parser Command := do
  match ← token nest false false with
  | .word word =>
    let name ← loopName word
    let (values, body) ← valuesAndBody read nest
    return .each line name values body
  | .left =>
    if (← isExtended) ∧ (← peek) = some '(' then
      skip
      counting read nest line
    else complain .badLoopName
  | _ => if ← isExtended then unexpected none else complain .badLoopName

/-- A loop over words from which somebody chooses, after its keyword. -/
def menu (read : Reader) (nest : Nest) (line : Nat) : Parser Command := do
  match ← token nest false false with
  | .word word =>
    let (values, body) ← valuesAndBody read nest
    return .menu line word.unquoted values body
  | _ => unexpected none

/-- The patterns of an arm; the token before them was read. -/
def patterns (nest : Nest) : Nat → Token → List Word → Parser (List Word)
  | 0, _, taken => return taken.reverse
  | fuel + 1, first, taken => do
    let word : Word ← match first with
      | .word word => pure word
      | .keyword keyword => pure [.text false keyword.text.toList]
      | _ => if ← isExtended then unexpected none else pure []
    match ← token nest false false with
    | .bar => patterns nest fuel (← token nest false false) (word :: taken)
    | .right => return (word :: taken).reverse
    | _ => unexpected (some .right)

/-- The arms of a choice. -/
def arms (read : Reader) (nest : Nest) : Nat → List (List Word × Command × ArmEnd) →
    Parser (List (List Word × Command × ArmEnd))
  | 0, taken => return taken.reverse
  | fuel + 1, taken => do
    match ← token nest true true with
    | .keyword .esac => return taken.reverse
    | first =>
      let first ← match first with
        | .left => token nest false false
        | token => pure token
      let patterns ← patterns nest manyTimes first []
      let body := (← read .inner).getD .nothing
      match ← token nest true true with
      | .keyword .esac => return ((patterns, body, .leave) :: taken).reverse
      | .endOfArm ending => arms read nest fuel ((patterns, body, ending) :: taken)
      | _ => unexpected (some (.endOfArm .leave))

/-- A choice, after its keyword. -/
def choice (read : Reader) (nest : Nest) (line : Nat) : Parser Command := do
  match ← token nest false false with
  | .word subject =>
    expectKeyword nest .among true
    return .choice line subject (← arms read nest manyTimes [])
  | _ => unexpected (some (.word []))

/-! ## Conditions of the extended dialect -/

/-- Operators between two words of a condition. -/
def comparisons : List String :=
  ["=", "==", "!=", "=~", "-eq", "-ne", "-lt", "-le", "-gt", "-ge", "-nt", "-ot", "-ef"]

/-- Complain about a condition. -/
def misplaced {α : Type} (fault : Misplaced) : Parser α := do
  let reading ← get
  let isLineEnd : Bool := match reading.last with
    | .newline => true
    | _ => false
  throw ⟨if isLineEnd then reading.line - 1 else reading.line,
    .condition fault reading.rest.length⟩

/-- Whether a word closes a condition. -/
def isClosing (word : Word) : Bool := word.plain? = some [']', ']']

/-- A token as an operand of an operator. -/
def operand (isUnary : Bool) (token : Token) : Parser Word := do
  match token with
  | .word word => if isClosing word then misplaced (.operand isUnary token) else return word
  | .finish => unexpected none
  | token => misplaced (.operand isUnary token)

/-- The second word of a comparison. Groups of patterns are known there. -/
def secondOperand (nest : Nest) (place : Place) : Parser Word := do
  let knows := (← get).knowsGroups
  modify (fun reading => { reading with knowsGroups := true })
  let token ← noted (← nextToken nest place manyTimes)
  modify (fun reading => { reading with knowsGroups := knows })
  operand false token

/-- What follows the first word of a comparison, or that this word is not empty. -/
def comparison (nest : Nest) (left : Word) : Parser Condition := do
  let alone : Parser Condition := do
    pushBack
    return .unary ['-', 'n'] left
  match ← token nest false false with
  | .word word =>
    match word.plain? with
    | some text =>
      if comparisons.contains (String.ofList text) then
        let place : Place := if text = ['=', '~'] then .pattern else .bare
        return .binary text left (← secondOperand nest place)
      else if isClosing word then alone
      else misplaced (.operator (.word word))
    | none => misplaced (.operator (.word word))
  | .redirection none .fromFile => return .binary ['<'] left (← secondOperand nest .bare)
  | .redirection none .toFile => return .binary ['>'] left (← secondOperand nest .bare)
  | .both | .either | .right => alone
  | .finish => unexpected none
  | token => misplaced (.operator token)

/-- Whether a word is an operator before one word. -/
def isUnary : Word → Bool
  | [.text false ['-', c]] => "abcdefghknoprstuvwxzGLNORS".toList.contains c
  | _ => false

/-- A condition that holds no connective outside of parentheses. -/
def primary (all : Parser Condition) (nest : Nest) : Nat → Parser Condition
  | 0 => unexpected none
  | fuel + 1 => do
    match ← token nest true false with
    | .left =>
      let condition ← all
      match ← token nest true false with
      | .right => return condition
      | .finish => unexpected none
      | token => misplaced (.closing token)
    | .word word =>
      if word.plain? = some ['!'] then return .negation (← primary all nest fuel)
      else if isClosing word then misplaced .missing
      else if isUnary word then
        return .unary word.unquoted (← operand true (← token nest false false))
      else comparison nest word
    | .finish => unexpected none
    | _ => misplaced .missing

/-- Conditions of which all have to hold. -/
def conjunction (primary : Parser Condition) (nest : Nest) : Nat → Parser Condition
  | 0 => unexpected none
  | fuel + 1 => do
    let first ← primary
    match ← token nest true false with
    | .both => return .both first (← conjunction primary nest fuel)
    | _ =>
      pushBack
      return first

/-- A condition. -/
def condition (nest : Nest) : Nat → Parser Condition
  | 0 => unexpected none
  | fuel + 1 => do
    let first ← conjunction (primary (condition nest fuel) nest manyTimes) nest manyTimes
    match ← token nest true false with
    | .either => return .either first (← condition nest fuel)
    | _ =>
      pushBack
      return first

/-- Take the word that closes a condition. -/
def expectClosed (nest : Nest) : Parser Unit := do
  match ← token nest true false with
  | .word word => if !isClosing word then misplaced .surplus
  | .finish => unexpected none
  | _ => misplaced .surplus

/-! ## Lists -/

/-- A function of the extended dialect, after its keyword. -/
def namedFunction (read : Reader) (nest : Nest) : Parser Command := do
  match ← token nest false false with
  | .word word =>
    match ← token nest true true with
    | .left => function read nest word
    | _ =>
      pushBack
      return .function (← get).line word.unquoted ((← read (.command true)).getD .nothing)
  | _ => unexpected none

/-- A command that starts with a token. -/
def compound (read : Reader) (nest : Nest) (line : Nat) : Token → Parser Command
  | .keyword .test => do
    let command ← conditional read nest manyTimes
    expectKeyword nest .fi false
    withRedirections nest line command
  | .keyword .whileTrue => do
    let test ← bodyOf read
    withRedirections nest line (.loop false test (← loopBody read nest))
  | .keyword .untilTrue => do
    let test ← bodyOf read
    withRedirections nest line (.loop true test (← loopBody read nest))
  | .keyword .each => do withRedirections nest line (← each read nest line)
  | .keyword .menu => do withRedirections nest line (← menu read nest line)
  | .keyword .choose => do withRedirections nest line (← choice read nest line)
  | .keyword .opening => do
    let command ← bodyOf read
    expectKeyword nest .closing false
    withRedirections nest line command
  | .keyword .function => namedFunction read nest
  | .keyword .condition => do
    let condition ← condition nest manyTimes
    expectClosed nest
    withRedirections nest line (.condition line condition)
  | .left => do
    if (← isExtended) ∧ (← peek) = some '(' then
      skip
      let expression ← word nest (.sum 0)
      withRedirections nest line (.evaluation line expression)
    else
      let command ← bodyOf read
      expectRight nest true
      withRedirections nest line (.subshell line command [])
  | .word _ | .redirection _ _ | .heldRedirection _ _ => do
    pushBack
    simple read nest none manyTimes .empty
  | _ => unexpected none

/-- A command. -/
def command (read : Reader) (nest : Nest) (newlines : Bool) : Parser Command := do
  let line := (← get).line
  compound read nest line (← token nest newlines true)

/-- The stages of a pipeline after its first one, in reverse. -/
def stages (read : Reader) (nest : Nest) : Nat → List Command → Parser (List Command)
  | 0, taken => return taken.reverse
  | fuel + 1, taken => do
    match ← token nest false false, taken with
    | .bar, taken => stages read nest fuel ((← command read nest true) :: taken)
    | .barBoth, last :: taken =>
      let line := (← get).line
      let last := Command.redirected line last [.mk 2 (.same [.text false ['1']])]
      stages read nest fuel ((← command read nest true) :: last :: taken)
    | _, _ =>
      pushBack
      return taken.reverse

/-- A pipeline from its first stage on. -/
def stagesFrom (read : Reader) (nest : Nest) : Parser Command := do
  match ← stages read nest manyTimes [← command read nest false] with
  | [command] => return command
  | commands => return .pipeline commands

/-- Whether a token ends the command that it follows. -/
def endsCommand : Token → Bool
  | .newline | .semicolon | .ampersand | .both | .either => true
  | token => token.endsList

/-- A pipeline whose time is told, after its keyword. -/
def timed (pipeline : Parser Command) (nest : Nest) : Parser Command := do
  let inSeconds ← match ← token nest false true with
    | .word [.text false ['-', 'p']] => pure true
    | _ => do
      pushBack
      pure false
  let next ← token nest false true
  pushBack
  if endsCommand next then return .timed inSeconds .nothing
  else return .timed inSeconds (← pipeline)

/-- A pipeline, perhaps with its status turned around. -/
def pipeline (read : Reader) (nest : Nest) (newlines : Bool) : Parser Command := do
  match ← token nest newlines true with
  | .keyword .negate => return .negation (← stagesFrom read nest)
  | .keyword .time => timed (stagesFrom read nest) nest
  | _ =>
    pushBack
    stagesFrom read nest

/-- Pipelines that depend on those before them. -/
def chain (read : Reader) (nest : Nest) : Nat → Command → Parser Command
  | 0, first => return first
  | fuel + 1, first => do
    match ← token nest false false with
    | .both => chain read nest fuel (.both first (← pipeline read nest true))
    | .either => chain read nest fuel (.either first (← pipeline read nest true))
    | _ =>
      pushBack
      return first

/-- A command that is not waited for. -/
def inBackground (line : Nat) : Command → Command
  | .redirected line command redirections => .background line command redirections
  | command => .background line command []

/-- The commands of a list, from those that were read, in reverse. -/
def list (read : Reader) (nest : Nest) (goal : Goal) : Nat → List Command →
    Parser (Option Command)
  | 0, taken => return some (.ofItems taken.reverse)
  | fuel + 1, taken => do
    let isLine := goal = .line
    let first ← token nest (!isLine) true
    match first with
    | .newline =>
      readDocuments nest
      return some (.ofItems taken.reverse)
    | .finish =>
      readDocuments nest
      pushBack
      return if isLine ∧ taken.isEmpty then none else some (.ofItems taken.reverse)
    | _ =>
      pushBack
      if !isLine ∧ (goal = .inner ∨ !taken.isEmpty) ∧ first.endsList then
        return some (.ofItems taken.reverse)
      else
        let command ← chain read nest manyTimes (← pipeline read nest false)
        match ← token nest false false with
        | .ampersand =>
          list read nest goal fuel (inBackground (← get).line command :: taken)
        | .semicolon => list read nest goal fuel (command :: taken)
        | .newline | .finish =>
          pushBack
          list read nest goal fuel (command :: taken)
        | _ =>
          if isLine then unexpected none
          else
            pushBack
            return some (.ofItems (command :: taken).reverse)

/-- The reader for a goal, given readers for the goals within it. -/
def forGoal (read : Reader) : Reader
  | .command newlines => return some (← command read (nestOf read) newlines)
  | goal => list read (nestOf read) goal manyTimes []

/-- The readers for all goals. -/
def read : Nat → Reader
  | 0 => fun _ => return none
  | fuel + 1 => fun goal => forGoal (fun goal => read fuel goal) goal

/-- Bound on the depth of commands within commands. -/
def maxDepth : Nat := 1000000

/-- Read the commands of the next line; there is none at the end of the script. -/
def line : Parser (Option Command) := do
  modify (fun reading => { reading with again := false, awaited := [] })
  read maxDepth .line

/-- The word that a text is where only expansions count, if it is one. -/
def document? (dialect : Dialect) (text : Octets) : Option Word :=
  let start := { Reading.start dialect [] 1 with rest := text, inDocument := true }
  ((word (nestOf (read maxDepth)) .document).run start).toOption.map Prod.fst

end PubSubTrials.Shell.Grammar
