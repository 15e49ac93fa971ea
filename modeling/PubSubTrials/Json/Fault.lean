import PubSubTrials.Decimal.Shortest
import PubSubTrials.Text.Quoted

/-!
# Faults of JSON texts

Why a text is refused: it ends too early, it is not JSON, or it is JSON of another shape than
the one asked for. Every fault has a category and a message.
-/

namespace PubSubTrials.Json

/-- Where a text may end too early. -/
inductive Place where
  | list
  | object
  | string
  | value
  deriving DecidableEq, Repr

/-- Where a text leaves the grammar of JSON. -/
inductive Slip where
  | expectedColon
  | expectedListCommaOrEnd
  | expectedObjectCommaOrEnd
  | expectedWord
  | expectedValue
  | invalidEscape
  | invalidNumber
  | numberOutOfRange
  | controlCharacter
  | keyMustBeString
  | loneSurrogate
  | trailingComma
  | trailingCharacters
  | unfinishedSurrogate
  deriving DecidableEq, Repr

/-- What was found in the place of something else. -/
inductive Found where
  | null
  | bool (b : Bool)
  | natural (n : Nat)
  | negative (n : Nat)
  | floating (x : Decimal.Binary64)
  | string (text : String)
  | list
  | object
  deriving DecidableEq, Repr

/-- How JSON differs from the shape that was asked for. -/
inductive Misfit where
  | wrongType (found : Found) (wanted : String)
  | wrongValue (found : Found) (wanted : String)
  | wrongLength (length : Nat) (wanted : String)
  | unknownVariant (name : String) (known : List String)
  | unknownField (name : String) (known : List String)
  | missingField (name : String)
  | repeatedField (name : String)
  deriving DecidableEq, Repr

/-- Why a text is refused. -/
inductive Fault where
  | ended (place : Place)
  | slip (slip : Slip)
  | misfit (misfit : Misfit)
  deriving DecidableEq, Repr

/-- The kinds of faults. -/
inductive Category where
  | eof
  | grammar
  | data
  deriving DecidableEq, Repr

/-- The kind of a fault. -/
def Fault.category : Fault → Category
  | ended _ => .eof
  | slip _ => .grammar
  | misfit _ => .data

/-- How a place reads. -/
def Place.message : Place → String
  | list => "EOF while parsing a list"
  | object => "EOF while parsing an object"
  | string => "EOF while parsing a string"
  | value => "EOF while parsing a value"

/-- How a slip reads. -/
def Slip.message : Slip → String
  | expectedColon => "expected `:`"
  | expectedListCommaOrEnd => "expected `,` or `]`"
  | expectedObjectCommaOrEnd => "expected `,` or `\x7d`"
  | expectedWord => "expected ident"
  | expectedValue => "expected value"
  | invalidEscape => "invalid escape"
  | invalidNumber => "invalid number"
  | numberOutOfRange => "number out of range"
  | controlCharacter => "control character (\\u0000-\\u001F) found while parsing a string"
  | keyMustBeString => "key must be a string"
  | loneSurrogate => "lone leading surrogate in hex escape"
  | trailingComma => "trailing comma"
  | trailingCharacters => "trailing characters"
  | unfinishedSurrogate => "unexpected end of hex escape"

/-- How a thing that was found reads. -/
def Found.describe : Found → String
  | null => "null"
  | bool true => "boolean `true`"
  | bool false => "boolean `false`"
  | natural n => "integer `" ++ toString n ++ "`"
  | negative n => "integer `-" ++ toString n ++ "`"
  | floating x => "floating point `" ++ x.render ++ "`"
  | string text => "string " ++ Text.quote text
  | list => "sequence"
  | object => "map"

/-- A name between grave accents. -/
def tick (name : String) : String := "`" ++ name ++ "`"

/-- The known names, of which one was expected. -/
def oneOf : List String → String
  | [a] => tick a
  | [a, b] => tick a ++ " or " ++ tick b
  | names => "one of " ++ ", ".intercalate (names.map tick)

/-- How a misfit reads. -/
def Misfit.message : Misfit → String
  | wrongType found wanted => "invalid type: " ++ found.describe ++ ", expected " ++ wanted
  | wrongValue found wanted => "invalid value: " ++ found.describe ++ ", expected " ++ wanted
  | wrongLength length wanted =>
    "invalid length " ++ toString length ++ ", expected " ++ wanted
  | unknownVariant name known => "unknown variant " ++ tick name ++ ", expected " ++ oneOf known
  | unknownField name known => "unknown field " ++ tick name ++ ", expected " ++ oneOf known
  | missingField name => "missing field " ++ tick name
  | repeatedField name => "duplicate field " ++ tick name

/-- How a fault reads. -/
def Fault.message : Fault → String
  | ended p => p.message
  | slip s => s.message
  | misfit m => m.message

end PubSubTrials.Json
