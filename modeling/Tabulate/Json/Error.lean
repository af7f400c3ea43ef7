/-!
# Errors in JSON text

What can be wrong with a JSON text, and where. A place is given three ways: by line and column, both
counted from one, and by the number of characters before it.
-/

namespace Tabulate.Json

/-- What is wrong with a text. -/
inductive Flaw where
  | byteOrderMark
  | expectedValue
  | expectedName
  | expectedColon
  | expectedComma
  | unterminatedString
  | controlCharacter
  | invalidEscape
  | invalidCodeUnit
  | extraData
  deriving DecidableEq, Inhabited

/-- The wording of a flaw. -/
def Flaw.message : Flaw → String
  | byteOrderMark => "Unexpected UTF-8 BOM (decode using utf-8-sig)"
  | expectedValue => "Expecting value"
  | expectedName => "Expecting property name enclosed in double quotes"
  | expectedColon => "Expecting ':' delimiter"
  | expectedComma => "Expecting ',' delimiter"
  | unterminatedString => "Unterminated string starting at"
  | controlCharacter => "Invalid control character at"
  | invalidEscape => "Invalid \\escape"
  | invalidCodeUnit => "Invalid \\uXXXX escape"
  | extraData => "Extra data"

/-- A place in a text. -/
structure Place where
  line : Nat
  column : Nat
  offset : Nat
  deriving DecidableEq, Inhabited

/-- The place behind the given characters. -/
def Place.after (before : List Char) : Place where
  line := before.count '\n' + 1
  column := (before.reverse.takeWhile (· ≠ '\n')).length + 1
  offset := before.length

/-- The two kinds of values that hold others. -/
inductive Container where
  | array
  | object
  deriving DecidableEq, Inhabited

/-- The name of a kind of container. -/
def Container.name : Container → String
  | array => "array"
  | object => "object"

/-- Why a text has no value: it is not JSON, it holds an integer with too many digits, or its
containers are nested too deeply, which shows at the start of the first one that is too deep. -/
inductive Error where
  | malformed (flaw : Flaw) (place : Place)
  | integerTooLong (digits : Nat)
  | tooDeep (container : Container)
  deriving DecidableEq, Inhabited

/-- The wording of an error. -/
def Error.message : Error → String
  | malformed flaw place =>
    flaw.message ++ ": line " ++ place.line.repr ++ " column " ++ place.column.repr ++ " (char " ++
      place.offset.repr ++ ")"
  | integerTooLong digits =>
    "Exceeds the limit (4300 digits) for integer string conversion: value has " ++ digits.repr ++
      " digits; use sys.set_int_max_str_digits() to increase the limit"
  | tooDeep container =>
    "maximum recursion depth exceeded while decoding a JSON " ++ container.name ++
      " from a unicode string"

end Tabulate.Json
