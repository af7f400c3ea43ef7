import Tabulate.Number.Text
import Tabulate.Text.Quoted

/-!
# Values

What a cell of a row may hold: nothing, a truth value, an integer of any size, a binary number, a
text, or a list or record of values. A value has two texts: `inspect` shows its structure and quotes
texts, `text` is the same but for a text, which stands for itself. `truth?` says which values count
as blank.
-/

namespace Tabulate

/-- The content of a cell. `null` and `missing` both stand for an absent cell; they differ in their
texts. The keys of a record are in the order in which they were written. -/
inductive Value where
  | null
  | missing
  | bool (b : Bool)
  | int (i : Int)
  | float (x : Binary64)
  | str (s : String)
  | list (items : List Value)
  | record (fields : List (String × Value))
  deriving Inhabited

namespace Value

/-- Items with commas between them. -/
def joinItems (items : List String) : String := ", ".intercalate items

mutual

/-- The text of a value that shows its structure. -/
def inspect : Value → String
  | null => "None"
  | missing => "<NA>"
  | bool b => if b then "True" else "False"
  | int i => numeral i
  | float x => x.text
  | str s => quoted s
  | list items => "[" ++ joinItems (inspectItems items) ++ "]"
  | record fields => "\x7b" ++ joinItems (inspectFields fields) ++ "\x7d"

/-- The texts of the items of a list. -/
def inspectItems : List Value → List String
  | [] => []
  | v :: rest => v.inspect :: inspectItems rest

/-- The texts of the fields of a record. -/
def inspectFields : List (String × Value) → List String
  | [] => []
  | (key, v) :: rest => (quoted key ++ ": " ++ v.inspect) :: inspectFields rest

end

/-- The text of a value. -/
def text : Value → String
  | str s => s
  | v => v.inspect

/-- Whether a value counts as true: all do but nothing, `false`, zero and what is empty. A missing
value has no truth. -/
def truth? : Value → Option Bool
  | null => some false
  | missing => none
  | bool b => some b
  | int i => some (i != 0)
  | float x => some (!x.numEq .zero)
  | str s => some (s != "")
  | list items => some !items.isEmpty
  | record fields => some !fields.isEmpty

/-- The name of a value's kind. -/
def kindName : Value → String
  | null => "NoneType"
  | missing => "NAType"
  | bool _ => "bool"
  | int _ => "int"
  | float _ => "float"
  | str _ => "str"
  | list _ => "list"
  | record _ => "dict"

/-- A text stands for itself. -/
@[simp] theorem text_str (s : String) : (str s).text = s := rfl

theorem inspectItems_eq_map (items : List Value) : inspectItems items = items.map inspect := by
  induction items with
  | nil => rfl
  | cons v rest ih => simp [inspectItems, ih]

theorem inspectFields_eq_map (fields : List (String × Value)) :
    inspectFields fields = fields.map fun field => quoted field.1 ++ ": " ++ field.2.inspect := by
  induction fields with
  | nil => rfl
  | cons field rest ih => obtain ⟨key, v⟩ := field; simp [inspectFields, ih]

example :
    (list [str "a", int 1, float (.ofInt 1), null, bool true, record [("k", str "it's")]]).text =
    "['a', 1, 1.0, None, True, \x7b'k': \"it's\"\x7d]" := by decide +kernel

end Value

end Tabulate
