import PubSubTrials.Shell.Syntax

/-!
# Tokens of scripts

The pieces of which a script consists, with the names by which faults call them, and what can be
wrong with a script.
-/

namespace PubSubTrials.Shell

/-- Words that have a meaning where a command starts. -/
inductive Keyword where
  | negate | choose | body | done | elseIf | otherwise | esac | fi | each | test | among
  | consequence | untilTrue | whileTrue | opening | closing | function | condition | menu | time
  deriving DecidableEq, Repr

namespace Keyword

/-- The keywords of the plain dialect with their spellings. -/
def table : List (String × Keyword) :=
  [("!", negate), ("case", choose), ("do", body), ("done", done), ("elif", elseIf),
   ("else", otherwise), ("esac", esac), ("fi", fi), ("for", each), ("if", test), ("in", among),
   ("then", consequence), ("until", untilTrue), ("while", whileTrue), ("\x7b", opening),
   ("\x7d", closing)]

/-- The keywords that only the extended dialect has. -/
def extendedTable : List (String × Keyword) :=
  [("function", function), ("[[", condition), ("select", menu), ("time", time)]

/-- The keyword that is spelled in a certain way. -/
def ofText? (dialect : Dialect) (text : Octets) : Option Keyword :=
  let known := if dialect = .extended then table ++ extendedTable else table
  known.lookup (String.ofList text)

/-- The spelling of a keyword. -/
def text (keyword : Keyword) : String :=
  (((table ++ extendedTable).find? (fun entry => entry.2 = keyword)).map Prod.fst).getD ""

/-- Whether a keyword ends a list of commands. -/
def endsList : Keyword → Bool
  | body | done | elseIf | otherwise | esac | fi | consequence | closing => true
  | _ => false

end Keyword

/-- Kinds of redirections. -/
inductive Arrow where
  | fromFile
  | toFile
  | force
  | append
  | withFile
  | sameInput
  | sameOutput
  /-- A document; `strips` takes away tabs at the start of its lines. -/
  | document (strips : Bool)
  | line
  | both
  | bothAppend
  deriving DecidableEq, Repr

/-- A piece of a script. -/
inductive Token where
  | finish
  | newline
  | semicolon
  | ampersand
  | both
  | either
  | bar
  /-- A bar that also takes the diagnostics. -/
  | barBoth
  | left
  | right
  | endOfArm (ending : ArmEnd)
  | redirection (descriptor : Option Nat) (arrow : Arrow)
  /-- A redirection of a descriptor that a variable holds. -/
  | heldRedirection (name : Octets) (arrow : Arrow)
  | word (word : Word)
  | keyword (keyword : Keyword)
  deriving Inhabited

namespace Token

/-- The spelling of a token, as far as it has a fixed one. -/
def spelling : Token → String
  | finish => "end of file"
  | newline => "newline"
  | semicolon => ";"
  | ampersand => "&"
  | both => "&&"
  | either => "||"
  | bar => "|"
  | barBoth => "|&"
  | left => "("
  | right => ")"
  | endOfArm .leave => ";;"
  | endOfArm .goOn => ";&"
  | endOfArm .tryOthers => ";;&"
  | redirection _ _ | heldRedirection _ _ => "redirection"
  | word _ => "word"
  | keyword k => k.text

/-- The name by which a fault calls a token. -/
def name (token : Token) : String :=
  match token with
  | finish | newline | redirection _ _ | heldRedirection _ _ | word _ => token.spelling
  | _ => "\"" ++ token.spelling ++ "\""

/-- Whether a token ends a list of commands. -/
def endsList : Token → Bool
  | finish | right | endOfArm _ => true
  | keyword k => k.endsList
  | _ => false

/-- Whether a token is a certain keyword. -/
def isKeyword (k : Keyword) : Token → Bool
  | keyword known => known = k
  | _ => false

end Token

/-- A token as the extended dialect quotes it. -/
def Token.quoted (token : Token) : String :=
  let text := match token with
    | .word parts => Octets.toText (Word.unquoted parts)
    | .redirection _ arrow | .heldRedirection _ arrow =>
      if arrow = .fromFile then "<" else if arrow = .append then ">>" else ">"
    | token => token.spelling
  "\x60" ++ text ++ "'"

/-- What is wrong with a condition of the extended dialect. -/
inductive Misplaced where
  /-- A token stands in the place of an operator. -/
  | operator (token : Token)
  /-- A token stands in the place of an operand. -/
  | operand (isUnary : Bool) (token : Token)
  /-- A token stands in the place of a closing parenthesis. -/
  | closing (token : Token)
  /-- The condition goes on after its end. -/
  | surplus
  /-- No condition stands where one has to. -/
  | missing

/-- What is said of a condition, if anything is. -/
def Misplaced.message? : Misplaced → Option String
  | operator (.word _) => some "conditional binary operator expected"
  | operator token =>
    some ("unexpected token " ++ token.quoted ++ ", conditional binary operator expected")
  | operand isUnary token =>
    some ("unexpected argument " ++ token.quoted ++ " to conditional " ++
      (if isUnary then "unary" else "binary") ++ " operator")
  | closing token => some ("unexpected token " ++ token.quoted ++ ", expected \x60)'")
  | surplus => some "syntax error in conditional expression"
  | missing => none

/-- What is wrong with a script. -/
inductive Complaint where
  | unexpected (token : Token) (expected : Option Token)
  /-- Something is wrong with a condition; so many characters of the text are left after it. -/
  | condition (fault : Misplaced) (left : Nat)
  | openQuote (quote : Char)
  | openBrace
  | openSum
  | openBackquote
  | badLoopName
  | badFunctionName
  | badDescriptor

namespace Complaint

/-- How a complaint reads in the plain dialect. -/
def message : Complaint → String
  | unexpected token none => token.name ++ " unexpected"
  | unexpected token (some expected) =>
    token.name ++ " unexpected (expecting " ++ expected.name ++ ")"
  | condition fault _ => fault.message?.getD "condition expected"
  | openQuote _ => "Unterminated quoted string"
  | openBrace => "Missing '\x7d'"
  | openSum => "Missing '))'"
  | openBackquote => "EOF in backquote substitution"
  | badLoopName => "Bad for loop variable"
  | badFunctionName => "Bad function name"
  | badDescriptor => "Bad fd number"

/-- How a complaint reads in the extended dialect, line by line; `near` is the text near the place
that it is about. -/
def extendedMessages (near : String) : Complaint → List String
  | unexpected .finish _ => ["syntax error: unexpected end of file"]
  | unexpected token _ => ["syntax error near unexpected token " ++ token.quoted]
  | condition fault _ => fault.message?.toList ++ ["syntax error near \x60" ++ near ++ "'"]
  | openQuote quote =>
    ["unexpected EOF while looking for matching \x60" ++ quote.toString ++ "'"]
  | openBrace => ["unexpected EOF while looking for matching \x60\x7d'"]
  | openSum => ["unexpected EOF while looking for matching \x60)'"]
  | openBackquote => ["unexpected EOF while looking for matching \x60\x60'"]
  | badLoopName | badFunctionName => ["not a valid identifier"]
  | badDescriptor => ["ambiguous redirect"]

/-- Whether the extended dialect quotes the line that a complaint is about. -/
def quotesLine : Complaint → Bool
  | unexpected .finish _ => false
  | unexpected _ _ | condition _ _ => true
  | _ => false

end Complaint

/-- A complaint with the line of the script that it is about. -/
structure Fault where
  line : Nat
  complaint : Complaint

end PubSubTrials.Shell
