import RackInventory.Text.Quoted
import RackInventory.Decimal.Written

/-!
# Why a document is refused

A document can fail in three ways: it ends too early, it breaks the grammar, or it is grammatical
but holds something else than what is wanted there. The causes are values; their wording is one
function each. Positions are not kept.
-/

namespace RackInventory

namespace Json

/-- A breach of the grammar, or an early end. -/
inductive SyntaxError where
  | endInValue
  | endInString
  | endInList
  | endInObject
  | expectedColon
  | expectedListCommaOrEnd
  | expectedObjectCommaOrEnd
  | expectedValue
  | expectedIdent
  | invalidEscape
  | invalidNumber
  | numberOutOfRange
  | invalidCodePoint
  | controlCharacter
  | keyMustBeString
  | loneSurrogate
  | trailingComma
  | trailingCharacters
  | endOfHexEscape
  | recursionLimit
deriving DecidableEq, Repr

def SyntaxError.message : SyntaxError → String
  | .endInValue => "EOF while parsing a value"
  | .endInString => "EOF while parsing a string"
  | .endInList => "EOF while parsing a list"
  | .endInObject => "EOF while parsing an object"
  | .expectedColon => "expected `:`"
  | .expectedListCommaOrEnd => "expected `,` or `]`"
  | .expectedObjectCommaOrEnd => "expected `,` or `\x7d`"
  | .expectedValue => "expected value"
  | .expectedIdent => "expected ident"
  | .invalidEscape => "invalid escape"
  | .invalidNumber => "invalid number"
  | .numberOutOfRange => "number out of range"
  | .invalidCodePoint => "invalid unicode code point"
  | .controlCharacter => "control character (\\u0000-\\u001F) found while parsing a string"
  | .keyMustBeString => "key must be a string"
  | .loneSurrogate => "lone leading surrogate in hex escape"
  | .trailingComma => "trailing comma"
  | .trailingCharacters => "trailing characters"
  | .endOfHexEscape => "unexpected end of hex escape"
  | .recursionLimit => "recursion limit exceeded"

/-- Whether the document ended too early. -/
def SyntaxError.isEnd : SyntaxError → Bool
  | .endInValue | .endInString | .endInList | .endInObject => true
  | _ => false

inductive Found where
  | null
  | bool (b : Bool)
  | integer (n : Int)
  | float (x : Float)
  | string (s : String)
  | sequence
  | map
deriving DecidableEq

def Found.text : Found → String
  | .null => "null"
  | .bool b => "boolean `" ++ (if b then "true" else "false") ++ "`"
  | .integer n => "integer `" ++ toString n ++ "`"
  | .float x => "floating point `" ++ documentNumber x ++ "`"
  | .string s => "string " ++ quoted s
  | .sequence => "sequence"
  | .map => "map"

/-- A value that is not of the wanted form. -/
inductive DecodeError where
  | invalidType (found : Found) (wanted : String)
  | invalidValue (found : Found) (wanted : String)
  | invalidLength (length : Nat) (wanted : String)
  | missingField (name : String)
  | duplicateField (name : String)
  | unknownVariant (name : String) (wanted : List String)
  | noVariant (name : String)
deriving DecidableEq

/-- The list of the alternatives of a closed choice. -/
def alternatives : List String → String
  | [] => "there are no variants"
  | [a] => "expected `" ++ a ++ "`"
  | [a, b] => "expected `" ++ a ++ "` or `" ++ b ++ "`"
  | names => "expected one of " ++ String.intercalate ", " (names.map fun n => "`" ++ n ++ "`")

def DecodeError.message : DecodeError → String
  | .invalidType found wanted => "invalid type: " ++ found.text ++ ", expected " ++ wanted
  | .invalidValue found wanted => "invalid value: " ++ found.text ++ ", expected " ++ wanted
  | .invalidLength n wanted => "invalid length " ++ toString n ++ ", expected " ++ wanted
  | .missingField name => "missing field `" ++ name ++ "`"
  | .duplicateField name => "duplicate field `" ++ name ++ "`"
  | .unknownVariant name wanted => "unknown variant `" ++ name ++ "`, " ++ alternatives wanted
  | .noVariant name => "data did not match any variant of untagged enum " ++ name

inductive ReadError where
  | malformed (cause : SyntaxError)
  | data (cause : DecodeError)
deriving DecidableEq

inductive Category where
  | syntactic
  | data
  | early
deriving DecidableEq, Repr

def Category.name : Category → String
  | .syntactic => "syntax"
  | .data => "data"
  | .early => "eof"

def ReadError.category : ReadError → Category
  | .malformed cause => if cause.isEnd then .early else .syntactic
  | .data _ => .data

def ReadError.message : ReadError → String
  | .malformed cause => cause.message
  | .data cause => cause.message

end Json

end RackInventory
