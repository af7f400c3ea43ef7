import Tabulate.Value
import Tabulate.Text.Quoted

/-!
# Writing JSON

A value becomes a JSON text without gaps. Characters outside ASCII are written as they are;
quotation marks, backslashes and control characters are escaped. Only plain values have a JSON text:
`Value.plain` puts `null` for what has none, which are missing values, infinities and not-a-number,
and leaves out the fields that are not for others to see.
-/

namespace Tabulate

/-- Whether a field is kept out of answers: its key starts with `_sa`. -/
def isInternalKey (key : String) : Bool := "_sa".toList.isPrefixOf key.toList

namespace Value

mutual

/-- The value as answers show it. -/
def plain : Value → Value
  | missing => null
  | float x => if x.isFinite then float x else null
  | list items => list (plainItems items)
  | record fields => record (plainFields fields)
  | v => v

/-- The items of a list as answers show them. -/
def plainItems : List Value → List Value
  | [] => []
  | v :: rest => v.plain :: plainItems rest

/-- The fields of a record as answers show them. -/
def plainFields : List (String × Value) → List (String × Value)
  | [] => []
  | (key, v) :: rest =>
    if isInternalKey key then plainFields rest else (key, v.plain) :: plainFields rest

end

theorem plainItems_eq_map (items : List Value) : plainItems items = items.map plain := by
  induction items with
  | nil => rfl
  | cons v rest ih => simp [plainItems, ih]

end Value

namespace Json

/-- One character between the marks of a string. -/
def escapeChar (c : Char) : List Char :=
  if c = '"' then ['\\', '"']
  else if c = '\\' then ['\\', '\\']
  else if c = '\n' then ['\\', 'n']
  else if c = '\r' then ['\\', 'r']
  else if c = '\t' then ['\\', 't']
  else if c = '\x08' then ['\\', 'b']
  else if c = '\x0c' then ['\\', 'f']
  else if c.toNat < 0x20 then '\\' :: 'u' :: hexadecimal 4 c.toNat
  else [c]

/-- A string between its marks. -/
def writeString (s : String) : List Char := '"' :: (s.toList.flatMap escapeChar ++ ['"'])

mutual

/-- The JSON text of a plain value. -/
def writeValue : Value → List Char
  | .null | .missing => "null".toList
  | .bool b => if b then "true".toList else "false".toList
  | .int i => (numeral i).toList
  | .float x => x.text.toList
  | .str s => writeString s
  | .list items => '[' :: (writeItems items ++ [']'])
  | .record fields => '\x7b' :: (writeMembers fields ++ ['\x7d'])

/-- Items with commas between them. -/
def writeItems : List Value → List Char
  | [] => []
  | [v] => writeValue v
  | v :: rest => writeValue v ++ ',' :: writeItems rest

/-- Members with commas between them. -/
def writeMembers : List (String × Value) → List Char
  | [] => []
  | [(name, v)] => writeString name ++ ':' :: writeValue v
  | (name, v) :: rest => writeString name ++ ':' :: (writeValue v ++ ',' :: writeMembers rest)

end

/-- The JSON text of a value as answers show it. -/
def write (v : Value) : String := String.ofList (writeValue v.plain)

end Json

end Tabulate
