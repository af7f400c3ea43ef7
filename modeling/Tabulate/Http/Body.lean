import Tabulate.Http.Validation
import Tabulate.Json.Reader
import Tabulate.Text.Encoding
import Tabulate.Text.Split

/-!
# Request bodies

The two kinds of data that the service accepts: a chart query and a new dataset. A body is read as
JSON if it is sent as such, and its fields are checked; fields that are not known are ignored. A
field of a chart query has two names, of which the first counts when both are given.
-/

namespace Tabulate.Http

/-- Whether a media type is JSON or a format built on it. -/
def isJsonType (contentType : String) : Bool :=
  let essence := (trim isBlank (contentType.toList.takeWhile (· ≠ ';'))).map Char.toLower
  match splitOn '/' essence with
  | [kind, format] =>
    kind == "application".toList &&
      (format == "json".toList || "+json".toList.reverse.isPrefixOf format.reverse)
  | _ => false

/-- A body: none at all, a value, or something that is not sent as JSON. -/
inductive Body where
  | empty
  | json (v : Value)
  | opaqueData
  deriving DecidableEq

/-- The characters of a body. A text in JSON starts with two ASCII characters, or is one, so the
zeros among its first bytes tell how wide its units are. Without any it is UTF-8, and a mark of byte
order in front does not count. -/
def bodyChars (body : String) : Option (List Char) :=
  match body.toUTF8.toList with
  | 0 :: 0 :: _ :: _ :: _ => decode32 .big body.toUTF8.toList
  | 0 :: _ :: _ :: _ :: _ | [0, _] => decode16 .big body.toUTF8.toList
  | _ :: 0 :: 0 :: 0 :: _ => decode32 .little body.toUTF8.toList
  | _ :: 0 :: _ :: _ :: _ | [_, 0] => decode16 .little body.toUTF8.toList
  | _ =>
    match body.toList with
    | '\ufeff' :: rest => some rest
    | cs => some cs

/-- The answer to a body that cannot be read for a reason other than its grammar. -/
def Answer.unreadable : Answer := .detail 400 "There was an error parsing the body"

/-- The body of a request, or the answer to one that ought to be JSON and is not. -/
def Request.readBody (request : Request) : Except Answer Body :=
  if request.body = "" then .ok .empty
  else if isJsonType ((request.header? "Content-Type").getD "") then
    match bodyChars request.body with
    | none => .error .unreadable
    | some cs =>
      match Json.readText cs with
      | .ok v => .ok (.json v)
      | .error failure =>
        match failure.locate cs with
        | .malformed _ place => .error (.invalid [⟨[place.offset.repr], .notJson⟩])
        | _ => .error .unreadable
  else .ok .opaqueData

/-- The value of a field under the first of its names that is used, with that name. -/
def field? (fields : List (String × Value)) (names : List String) : Option (String × Value) :=
  names.findSome? fun name => (fields.lookup name).map fun v => (name, v)

/-- A field that may be left out, checked if it is there. -/
def optionalField {α : Type} (fields : List (String × Value)) (place names : List String)
    (default : α) (check : List String → Value → Checked α) : Checked α :=
  match field? fields names with
  | some (name, v) => check (place ++ [name]) v
  | none => .ok default

/-- A field that has to be there. -/
def requiredField {α : Type} (fields : List (String × Value)) (names : List String)
    (check : List String → Value → Checked α) : Checked α :=
  match field? fields names with
  | some (name, v) => check [name] v
  | none => .complain (names.take 1) .required

/-- A filter as a request gives it. -/
structure FilterData where
  column : String
  operator : String
  value : Value
  deriving DecidableEq, Inhabited

/-- The value that a filter compares with: a text, a number or nothing, a truth value counting as a
number. -/
def filterValue (place : List String) : Value → Checked Value
  | .null => .ok .null
  | .bool b => .ok (.int b.toNat)
  | .int i => .ok (.int i)
  | .float x => .ok (.float x)
  | .str s => .ok (.str s)
  | _ =>
    .error
      [ ⟨place ++ ["str"], .notText⟩, ⟨place ++ ["int"], .notInteger⟩,
        ⟨place ++ ["float"], .notNumber⟩ ]

/-- The filter that a value describes. -/
def filterData (place : List String) : Value → Checked FilterData
  | .record fields =>
    (Checked.both (optionalField fields place ["column"] "" text)
      (Checked.both (optionalField fields place ["operator"] "" text)
        (optionalField fields place ["value"] (.str "") filterValue))).map
      fun (column, operator, value) => ⟨column, operator, value⟩
  | _ => .complain place .notObject

/-- A chart query as a request gives it. -/
structure ChartData where
  datasetId : Int
  xAxis : Option String
  yAxis : Option String
  aggregation : Option String
  groupBy : List String
  filters : List FilterData
  deriving DecidableEq, Inhabited

/-- The chart query of a body. -/
def ChartData.ofFields (fields : List (String × Value)) : Checked ChartData :=
  (Checked.both (requiredField fields ["datasetId", "dataset_id"] integer)
    (Checked.both (optionalField fields [] ["xAxis", "x_axis"] none text?)
      (Checked.both (optionalField fields [] ["yAxis", "y_axis"] none text?)
        (Checked.both (optionalField fields [] ["aggregation"] none text?)
          (Checked.both (optionalField fields [] ["groupBy", "group_by"] [] (list · text))
            (optionalField fields [] ["filters"] [] (list · filterData))))))).map
    fun (datasetId, xAxis, yAxis, aggregation, groupBy, filters) =>
      ⟨datasetId, xAxis, yAxis, aggregation, groupBy, filters⟩

/-- A text as a value; `null` for none. -/
def textValue : Option String → Value
  | some s => .str s
  | none => .null

/-- The wire form of a chart query. -/
def ChartData.toValue (c : ChartData) : Value :=
  let filter (f : FilterData) : Value :=
    .record [("column", .str f.column), ("operator", .str f.operator), ("value", f.value)]
  .record
    [ ("datasetId", .int c.datasetId), ("xAxis", textValue c.xAxis), ("yAxis", textValue c.yAxis),
      ("aggregation", textValue c.aggregation), ("groupBy", .list (c.groupBy.map .str)),
      ("filters", .list (c.filters.map filter)) ]

/-- A new dataset as a request gives it. -/
structure DatasetData where
  name : String
  rows : List Row
  deriving DecidableEq, Inhabited

/-- The new dataset of a body. -/
def DatasetData.ofFields (fields : List (String × Value)) : Checked DatasetData :=
  (Checked.both (requiredField fields ["name"] text)
    (optionalField fields [] ["data"] [] (list · row))).map fun (name, rows) => ⟨name, rows⟩

/-- The data of a body, or the answer that says why it has none. -/
def Body.data {α : Type} (check : List (String × Value) → Checked α) : Body → Except Answer α
  | empty => .error (.invalid [⟨[], .required⟩])
  | json (.record fields) => (check fields).mapError .invalid
  | json _ | opaqueData => .error (.invalid [⟨[], .notObject⟩])

end Tabulate.Http
