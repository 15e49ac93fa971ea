import PubSubTrials.Programs.Records.Script
import PubSubTrials.Programs.Records.Token

/-!
# Reading record scripts

Expressions are read by rank: from a choice between two values down to a single value. Two values
side by side are joined. A slash starts a pattern where a value is expected, and divides elsewhere.
-/

namespace PubSubTrials.Records

/-- How far a script has been read. -/
structure Progress where
  rest : Octets
  line : Nat
  /-- Number of braces that are open. -/
  braces : Int
  /-- Number of parentheses that are open. -/
  parentheses : Int
  /-- Functions that are called. -/
  calls : List String

/-- Messages about what is wrong with a script. -/
abbrev Faults := List Octets

/-- Readers of scripts. -/
abbrev Reader := StateT Progress (Except Faults)

namespace Reader

/-- A message about a line. -/
def inLine (line : Nat) (message : String) : Octets :=
  "line ".toList ++ Octets.ofNat line ++ [':', ' '] ++ message.toList

/-- Complain about the line that is read. -/
def complain {α : Type} (message : String) : Reader α := do
  throw [inLine (← get).line message]

/-- How many braces, or parentheses, a token opens; it closes one if that is below zero. -/
def opened (opening closing : String) (token : Token) : Int :=
  if token.isSign opening then 1 else if token.isSign closing then -1 else 0

/-- The next token, and how far the script will have been read after it. -/
def look : Reader (Token × Progress) := do
  let progress ← get
  let (rest, passed) := Token.skipBlanks (progress.rest.length + 1) progress.rest 0
  let (token, rest) := Token.first rest
  let line := progress.line + passed + (match token with
    | .lineEnd => 1
    | _ => 0)
  return (token,
    { progress with
      rest, line
      braces := progress.braces + opened "\x7b" "\x7d" token
      parentheses := progress.parentheses + opened "(" ")" token
      calls := match token with
        | .called name => name :: progress.calls
        | _ => progress.calls })

/-- The next token. -/
def peek : Reader Token := return (← look).1

/-- Take the next token. -/
def take : Reader Token := do
  let (token, progress) ← look
  set progress
  return token

/-- Complain about the next token. -/
def refuse {α : Type} : Reader α := do
  let progress ← get
  let token ← peek
  let general := "syntax error at or near " ++ token.shown
  match token with
  | .stop =>
    if 0 < progress.parentheses then
      throw [inLine (progress.line + 1) "missing ) near end of file"]
    else if 0 < progress.braces then
      throw [inLine (progress.line + 1) "missing \x7d near end of file"]
    else complain general
  | .unknown '"' => complain "runaway string constant"
  | .unknown c =>
    throw [Octets.ofNat progress.line ++ ": unexpected character '".toList ++ [c, '\'']]
  | .sign "\x7d" =>
    if 0 < progress.parentheses then complain "missing ) near \x7d"
    else if progress.braces = 0 then
      throw [inLine progress.line "extra '\x7d'",
        inLine progress.line "syntax error at or near end of line"]
    else complain general
  | .sign ")" => if progress.parentheses = 0 then complain "extra ')'" else complain general
  | _ => complain general

/-- Take the next token if it is a given sign. -/
def sign? (text : String) : Reader Bool := do
  if (← peek).isSign text then
    let _ ← take
    return true
  else return false

/-- Take the next token if it is one of some signs. -/
def anySign? (signs : List String) : Reader (Option String) := do
  match ← peek with
  | .sign given =>
    if signs.contains given then
      let _ ← take
      return some given
    else return none
  | _ => return none

/-- Take a sign that has to come. -/
def expect (text : String) : Reader Unit := do
  if !(← sign? text) then refuse

/-- Pass line ends. -/
def skipLines : Nat → Reader Unit
  | 0 => return ()
  | fuel + 1 => do
    match ← peek with
    | .lineEnd =>
      let _ ← take
      skipLines fuel
    | _ => return ()

/-- Pass all line ends that come next. -/
def skipAllLines : Reader Unit := do skipLines ((← get).rest.length + 1)

/-- Pass line ends and semicolons. -/
def skipEnds : Nat → Reader Unit
  | 0 => return ()
  | fuel + 1 => do
    let token ← peek
    match token with
    | .lineEnd =>
      let _ ← take
      skipEnds fuel
    | token =>
      if token.isSign ";" then
        let _ ← take
        skipEnds fuel

/-- The text of a pattern after its first slash. -/
def patternText : Nat → Bool → Octets → Octets → Option (Octets × Octets)
  | 0, _, _, _ => none
  | fuel + 1, inBracket, text, taken =>
    match text with
    | [] | '\n' :: _ => none
    | '\\' :: '/' :: rest => patternText fuel inBracket rest ('/' :: taken)
    | '\\' :: c :: rest => patternText fuel inBracket rest (c :: '\\' :: taken)
    | '/' :: rest => if inBracket then patternText fuel true rest ('/' :: taken)
      else some (taken.reverse, rest)
    | '[' :: '^' :: ']' :: rest =>
      if inBracket then patternText fuel true ('^' :: ']' :: rest) ('[' :: taken)
      else patternText fuel true rest (']' :: '^' :: '[' :: taken)
    | '[' :: ']' :: rest =>
      if inBracket then patternText fuel true (']' :: rest) ('[' :: taken)
      else patternText fuel true rest (']' :: '[' :: taken)
    | '[' :: rest => patternText fuel true rest ('[' :: taken)
    | ']' :: rest => patternText fuel false rest (']' :: taken)
    | c :: rest => patternText fuel inBracket rest (c :: taken)

/-- A pattern after its first slash. -/
def pattern (start : Octets) : Reader Expr := do
  let progress ← get
  match patternText (progress.rest.length + 1) false progress.rest start.reverse with
  | none => complain "unexpected newline in regular expression"
  | some (text, rest) =>
    set { progress with rest }
    match Regex.parse .record false text with
    | .ok pattern => return .pattern pattern
    | .error fault =>
      complain ("regular expression compile failed (" ++ fault.message ++ ")")

/-! ## Expressions -/

/-- Where an expression stands. -/
inductive Place where
  | inner
  /-- Among values that are printed, where `>` is followed by the name of a file. -/
  | printed
  deriving DecidableEq, Repr

/-- Readers of expressions, for a place. -/
abbrev Level := Place → Reader Expr

/-- Expressions up to a sign, separated by commas. -/
def listUpTo (closing : String) (all : Level) : Nat → Reader (List Expr)
  | 0 => refuse
  | fuel + 1 => do
    skipAllLines
    let first ← all .inner
    skipAllLines
    if ← sign? "," then return first :: (← listUpTo closing all fuel)
    else
      expect closing
      return [first]

/-- The arguments of a call after its parenthesis. -/
def arguments (all : Level) : Reader (List Expr) := do
  skipAllLines
  if ← sign? ")" then return []
  else listUpTo ")" all ((← get).rest.length + 1)

/-- Whether an expression stands for a place that can be set. -/
def isPlace : Expr → Bool
  | .variable_ _ | .field _ | .element _ _ => true
  | _ => false

/-- A variable, or an element of an array. -/
def variableOf (name : String) (all : Level) : Reader Expr := do
  if ← sign? "[" then
    return .element name (← listUpTo "]" all ((← get).rest.length + 1))
  else return .variable_ name

/-- The operators that are written with an equals sign after them. -/
def assignments : List (String × Option Arithmetic) :=
  [("=", none), ("+=", some .add), ("-=", some .subtract), ("*=", some .multiply),
    ("/=", some .divide), ("%=", some .remainder), ("^=", some .power)]

/-- A variable, an element or a field as the target of reading. -/
def target? (single : Level) : Reader (Option Expr) := do
  match ← peek with
  | .name _ => return some (← single .inner)
  | token => if token.isSign "$" then return some (← single .inner) else return none

/-- A single value, without signs before or after it. -/
def single (all : Level) : Nat → Level
  | 0, _ => refuse
  | fuel + 1, place => do
    let (token, progress) ← look
    match token with
    | .number quantity =>
      set progress
      return .number quantity
    | .text octets =>
      set progress
      return .text octets
    | .name name =>
      set progress
      variableOf name all
    | .called name =>
      set progress
      expect "("
      return .call name (← arguments all)
    | .builtIn name =>
      set progress
      if ← sign? "(" then return .builtIn name (some (← arguments all))
      else if name = "length" then return .builtIn name none
      else refuse
    | .word "getline" =>
      set progress
      let target ← target? (single all fuel)
      if ← sign? "<" then return .fromFile target (← single all fuel place)
      else return .nextRecord target
    | .sign "/" =>
      set progress
      pattern []
    | .sign "/=" =>
      set progress
      pattern ['=']
    | .sign "$" =>
      set progress
      match ← anySign? ["++", "--", "-", "+", "!"] with
      | some "++" => return .field (.step (← single all fuel place) true true)
      | some "--" => return .field (.step (← single all fuel place) false true)
      | some "-" => return .field (.negative (← single all fuel place))
      | some "+" => return .field (.positive (← single all fuel place))
      | some _ => return .field (.not (← single all fuel place))
      | none => return .field (← single all fuel place)
    | .sign "(" =>
      set progress
      let inner ← listUpTo ")" all ((← get).rest.length + 1)
      match inner with
      | [one] => return .group [one]
      | several =>
        if (← peek).isWord "in" then
          let _ ← take
          match ← take with
          | .name name => return .isKey several name
          | _ => refuse
        else return .group several
    | _ => refuse

/-- A value with steps before or after it, or an assignment. -/
def stepped (all : Level) (place : Place) : Reader Expr := do
  let fuel := (← get).rest.length + 1
  match ← anySign? ["++", "--"] with
  | some sign => return .step (← single all fuel place) (sign = "++") true
  | none =>
    let inner ← single all fuel place
    if isPlace inner then
      match ← anySign? ["++", "--"] with
      | some sign => return .step inner (sign = "++") false
      | none =>
        match ← anySign? (assignments.map Prod.fst) with
        | some sign =>
          skipAllLines
          return .assign ((assignments.lookup sign).getD none) inner (← all place)
        | none => return inner
    else return inner

/-- A value with signs before it, perhaps raised to a power. -/
def signed (all : Level) : Nat → Level
  | 0, _ => refuse
  | fuel + 1, place => do
    match ← anySign? ["!", "-", "+"] with
    | some "!" => return .not (← signed all fuel place)
    | some "-" => return .negative (← signed all fuel place)
    | some _ => return .positive (← signed all fuel place)
    | none =>
      let base ← stepped all place
      if ← sign? "^" then return .calculate .power base (← signed all fuel place)
      else return base

/-- Values joined from left to right by signs. -/
def rowFrom (signs : List String) (inner : Level) (join : String → Expr → Expr → Expr)
    (place : Place) : Nat → Expr → Reader Expr
  | 0, left => return left
  | fuel + 1, left => do
    match ← anySign? signs with
    | some sign =>
      skipAllLines
      rowFrom signs inner join place fuel (join sign left (← inner place))
    | none => return left

/-- Values joined from left to right by signs. -/
def row (signs : List String) (inner : Level) (join : String → Expr → Expr → Expr) : Level :=
  fun place => do
    rowFrom signs inner join place ((← get).rest.length + 1) (← inner place)

/-- Products. -/
def product (all : Level) : Level :=
  row ["*", "/", "%"] (fun place => do signed all ((← get).rest.length + 1) place)
    (fun sign a b =>
      .calculate (if sign = "*" then .multiply else if sign = "/" then .divide else .remainder)
        a b)

/-- Sums. -/
def sum (all : Level) : Level :=
  row ["+", "-"] (product all) (fun sign a b =>
    .calculate (if sign = "+" then .add else .subtract) a b)

/-- Whether a value can start with a token. -/
def startsValue : Token → Bool
  | .number _ | .text _ | .name _ | .called _ | .builtIn _ => true
  | .sign given => ["$", "(", "!", "-", "+", "++", "--"].contains given
  | _ => false

/-- Values side by side. -/
def joinedFrom (all : Level) (place : Place) : Nat → Expr → Reader Expr
  | 0, left => return left
  | fuel + 1, left => do
    if startsValue (← peek) then joinedFrom all place fuel (.join left (← sum all place))
    else return left

/-- Records of commands. -/
def readFrom (all : Level) : Nat → Expr → Reader Expr
  | 0, left => return left
  | fuel + 1, left => do
    let before ← get
    if ← sign? "|" then
      if (← peek).isWord "getline" then
        let _ ← take
        let target ← target? (single all ((← get).rest.length + 1))
        readFrom all fuel (.fromCommand target left)
      else
        set before
        return left
    else return left

/-- Values side by side, and records of commands. -/
def joined (all : Level) (place : Place) : Reader Expr := do
  let fuel := (← get).rest.length + 1
  let text ← joinedFrom all place fuel (← sum all place)
  readFrom all fuel text

/-- Comparisons. -/
def comparison (all : Level) (place : Place) : Reader Expr := do
  let signs : List (String × Comparison) :=
    [("<", .less), ("<=", .notMore), ("==", .equal), ("!=", .different), (">", .more),
      (">=", .notLess)]
  let known := signs.filter (fun entry => place = .inner || entry.1 ≠ ">")
  row (known.map Prod.fst) (joined all) (fun sign a b =>
    .compare ((signs.lookup sign).getD .equal) a b) place

/-- Matches. -/
def matching (all : Level) : Level :=
  row ["~", "!~"] (comparison all) (fun sign a b => .matching (sign = "!~") a b)

/-- Questions for keys. -/
def keysFrom : Nat → Expr → Reader Expr
  | 0, left => return left
  | fuel + 1, left => do
    if (← peek).isWord "in" then
      let _ ← take
      match ← take with
      | .name name => keysFrom fuel (.isKey [left] name)
      | _ => refuse
    else return left

/-- Questions for keys. -/
def keys (all : Level) (place : Place) : Reader Expr := do
  keysFrom ((← get).rest.length + 1) (← matching all place)

/-- All expressions, down to a depth. -/
def expr : Nat → Level
  | 0, _ => refuse
  | fuel + 1, place => do
    let conjunction := row ["&&"] (keys (expr fuel)) (fun _ a b => .both a b)
    let condition ← row ["||"] conjunction (fun _ a b => .either a b) place
    if ← sign? "?" then
      skipAllLines
      let yes ← expr fuel place
      skipAllLines
      expect ":"
      skipAllLines
      return .choose condition yes (← expr fuel place)
    else return condition

/-- An expression. -/
def anyExpr (place : Place) : Reader Expr := do
  expr ((← get).rest.length + 1) place

/-! ## Statements -/

/-- Take the end of a statement. -/
def endStatement : Reader Unit := do
  let token ← peek
  match token with
  | .lineEnd =>
    let _ ← take
  | .stop => return ()
  | token =>
    if token.isSign ";" then
      let _ ← take
    else if !token.isSign "\x7d" then refuse

/-- Values that are printed, and where they are printed. -/
def printed : Reader (List Expr × Option Target) := do
  let token ← peek
  let ends : Bool := match token with
    | .lineEnd | .stop => true
    | .sign given => [";", "\x7d", ">", ">>", "|"].contains given
    | _ => false
  let rec values : Nat → Reader (List Expr)
    | 0 => refuse
    | fuel + 1 => do
      let first ← anyExpr .printed
      if ← sign? "," then
        skipAllLines
        return first :: (← values fuel)
      else return [first]
  let list ← if ends then pure [] else values ((← get).rest.length + 1)
  let list := match list with
    | [.group several] => several
    | list => list
  let level : Reader Expr := do
    let all : Level := fun _ => anyExpr .inner
    joinedFrom all .inner ((← get).rest.length + 1) (← sum all .inner)
  match ← anySign? [">", ">>", "|"] with
  | some ">" => return (list, some (.file (← level)))
  | some ">>" => return (list, some (.fileEnd (← level)))
  | some _ => return (list, some (.command (← level)))
  | none => return (list, none)

/-- An optional value before the end of a statement. -/
def optional : Reader (Option Expr) := do
  match ← peek with
  | .lineEnd | .stop => return none
  | token =>
    if token.isSign ";" ∨ token.isSign "\x7d" then return none
    else return some (← anyExpr .inner)

/-- A statement that stands alone in a line or within a loop's parentheses. -/
def simple : Reader Statement := do
  let (token, progress) ← look
  match token with
  | .word "print" =>
    set progress
    let (values, target) ← printed
    return .print values target
  | .word "printf" =>
    set progress
    let (values, target) ← printed
    return .printf values target
  | .word "delete" =>
    set progress
    match ← take with
    | .name name =>
      if ← sign? "[" then
        let all : Level := fun place => anyExpr place
        return .remove name (some (← listUpTo "]" all ((← get).rest.length + 1)))
      else return .remove name none
    | _ => refuse
  | _ => return .expr (← anyExpr .inner)

/-- Statements up to a brace. -/
def statementsFrom (statement : Reader Statement) : Nat → Reader (List Statement)
  | 0 => refuse
  | fuel + 1 => do
    skipEnds ((← get).rest.length + 1)
    if ← sign? "\x7d" then return []
    else
      let first ← statement
      return first :: (← statementsFrom statement fuel)

/-- A statement, down to a depth. -/
def statement : Nat → Reader Statement
  | 0 => refuse
  | fuel + 1 => do
    let body : Reader Statement := do
      skipAllLines
      if ← sign? ";" then return .block [] else statement fuel
    let (token, progress) ← look
    match token with
    | .sign "\x7b" =>
      set progress
      return .block (← statementsFrom (statement fuel) ((← get).rest.length + 1))
    | .word "if" =>
      set progress
      expect "("
      let condition ← anyExpr .inner
      expect ")"
      let yes ← body
      let before ← get
      skipEnds ((← get).rest.length + 1)
      if (← peek).isWord "else" then
        let _ ← take
        return .condition condition yes (some (← body))
      else
        set before
        return .condition condition yes none
    | .word "while" =>
      set progress
      expect "("
      let condition ← anyExpr .inner
      expect ")"
      return .whileTrue condition (← body)
    | .word "do" =>
      set progress
      let inner ← body
      skipEnds ((← get).rest.length + 1)
      if (← take).isWord "while" then
        expect "("
        let condition ← anyExpr .inner
        expect ")"
        endStatement
        return .doWhile inner condition
      else refuse
    | .word "for" =>
      set progress
      expect "("
      let before ← get
      match ← take with
      | .name name =>
        if (← peek).isWord "in" then
          let _ ← take
          match ← take with
          | .name array =>
            if ← sign? ")" then return .forKeys name array (← body)
          | _ => refuse
      | _ => pure ()
      set before
      let start ← if (← peek).isSign ";" then pure (.block []) else simple
      expect ";"
      skipAllLines
      let condition ← if (← peek).isSign ";" then pure none
        else do pure (some (← anyExpr .inner))
      expect ";"
      skipAllLines
      let step ← if (← peek).isSign ")" then pure (.block []) else simple
      expect ")"
      return .forLoop start condition step (← body)
    | .word "next" => set progress; endStatement; return .next
    | .word "nextfile" => set progress; endStatement; return .nextFile
    | .word "break" => set progress; endStatement; return .break_
    | .word "continue" => set progress; endStatement; return .continue_
    | .word "exit" =>
      set progress
      let status ← optional
      endStatement
      return .exit status
    | .word "return" =>
      set progress
      let value ← optional
      endStatement
      return .return_ value
    | _ =>
      let inner ← simple
      endStatement
      return inner

/-- A block in braces. -/
def block : Reader Statement := do
  expect "\x7b"
  let fuel := (← get).rest.length + 1
  return .block (← statementsFrom (statement fuel) fuel)

/-! ## Rules -/

/-- The names of parameters after a parenthesis. -/
def parameters : Nat → Reader (List String)
  | 0 => refuse
  | fuel + 1 => do
    skipAllLines
    match ← take with
    | .name name =>
      skipAllLines
      if ← sign? "," then return name :: (← parameters fuel)
      else
        expect ")"
        return [name]
    | token => if token.isSign ")" then return [] else refuse

/-- The rules and functions of a script. -/
def script : Nat → RuleSet → Reader RuleSet
  | 0, known => return known
  | fuel + 1, known => do
    skipEnds ((← get).rest.length + 1)
    let rule (rule : Rule) : Reader RuleSet :=
      script fuel { known with rules := known.rules ++ [rule] }
    let (token, progress) ← look
    match token with
    | .stop => return known
    | .word "BEGIN" =>
      set progress
      rule ⟨.start, some (← block)⟩
    | .word "END" =>
      set progress
      rule ⟨.finish, some (← block)⟩
    | .word "function" =>
      set progress
      let name ← match ← take with
        | .name name | .called name => pure name
        | _ => refuse
      expect "("
      let parameters ← parameters ((← get).rest.length + 1)
      skipAllLines
      let body ← block
      script fuel { known with functions := known.functions ++ [⟨name, parameters, body⟩] }
    | token =>
      if token.isSign "\x7b" then rule ⟨.always, some (← block)⟩
      else
        let first ← anyExpr .inner
        let condition ← if ← sign? "," then do
            skipAllLines
            pure (Condition.range first (← anyExpr .inner))
          else pure (Condition.when first)
        if (← peek).isSign "\x7b" then rule ⟨condition, some (← block)⟩
        else
          match ← peek with
          | .lineEnd | .stop => rule ⟨condition, none⟩
          | token => if token.isSign ";" then rule ⟨condition, none⟩ else refuse

end Reader

/-- The script that a text stands for. -/
def RuleSet.parse (text : Octets) : Except Faults RuleSet := do
  let (script, progress) ← (Reader.script (text.length + 1) ⟨[], []⟩).run ⟨text, 1, 0, 0, []⟩
  let missing := progress.calls.reverse.filter (fun name =>
    !script.functions.any (fun function => function.name = name))
  match missing with
  | [] => return script
  | name :: _ =>
    throw [Reader.inLine (progress.line + 1) ("function " ++ name ++ " never defined")]

end PubSubTrials.Records
