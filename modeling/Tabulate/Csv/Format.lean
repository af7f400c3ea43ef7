/-!
# Comma-separated values

The text form of a table: records end with a line feed, the fields of a record have commas between
them, and a field with a comma, a line feed or a double quotation mark stands between quotation
marks, those inside it written twice. A record of one empty field is written as two quotation marks,
which tells it from a record of no fields.
-/

namespace Tabulate.Csv

/-- Whether a field cannot be written as it is. -/
def needsQuotes (field : List Char) : Bool := field.any fun c => c == ',' || c == '"' || c == '\n'

/-- Every quotation mark twice. -/
def doubleQuotes (field : List Char) : List Char :=
  field.flatMap fun c => if c = '"' then ['"', '"'] else [c]

/-- A field between quotation marks. -/
def quote (field : List Char) : List Char := '"' :: (doubleQuotes field ++ ['"'])

/-- A field as it is written among others. -/
def writeField (field : List Char) : List Char := if needsQuotes field then quote field else field

/-- A record, with the line feed that ends it. -/
def writeRecord : List (List Char) → List Char
  | [[]] => ['"', '"', '\n']
  | fields => [','].intercalate (fields.map writeField) ++ ['\n']

/-- Records one after another. -/
def write (records : List (List String)) : String :=
  String.ofList (records.flatMap fun fields => writeRecord (fields.map String.toList))

example : write [["a", "b,c"], [""], []] = "a,\"b,c\"\n\"\"\n\n" := by decide

end Tabulate.Csv
