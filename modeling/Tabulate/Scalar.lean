import Tabulate.Row
import Tabulate.Number.Literal

/-!
# Scalars

Cells hold values of any kind; comparison and arithmetic see a cell as a scalar. A scalar is absent,
a text or a number. It has three readings: `text`, which decides equality of texts and the group a
row falls into; `number?`, strict; and `coerce`, where everything that is no number counts as zero.
-/

namespace Tabulate

/-- A cell as comparison and arithmetic see it. -/
inductive Scalar where
  | absent
  | string (s : String)
  | int (i : Int)
  | float (x : Binary64)
  deriving DecidableEq, Inhabited

namespace Scalar

/-- The scalar of a value. Not-a-number is absent; truth values and infinities are texts, and so are
lists and records. -/
def ofValue : Value → Scalar
  | .null => absent
  | .missing => absent
  | .bool b => string (if b then "true" else "false")
  | .int i => int i
  | .float x =>
    match x with
    | .nan => absent
    | .infinite _ => string x.text
    | .finite .. => float x
  | .str s => string s
  | .list items => string (Value.list items).text
  | .record fields => string (Value.record fields).text

/-- Whether a cell holds nothing. -/
def isAbsent : Scalar → Bool
  | absent => true
  | _ => false

/-- The text of a scalar; an absent one has none. -/
def text : Scalar → String
  | absent => ""
  | string s => s
  | int i => numeral i
  | float x => x.text

/-- The number that a scalar is or spells. An integer too large for a binary number is none. -/
def number? : Scalar → Option Binary64
  | absent => none
  | string s => parseNumber s
  | int i =>
    let x := Binary64.ofInt i
    if x.isFinite then some x else none
  | float x => some x

theorem number?_int (i : Int) :
    (int i).number? = if (Binary64.ofInt i).isFinite then some (.ofInt i) else none := rfl

/-- The number of a scalar, zero when it has none. -/
def coerce (c : Scalar) : Binary64 := c.number?.getD .zero

/-- The value of a scalar. -/
def toValue : Scalar → Value
  | absent => .null
  | string s => .str s
  | int i => .int i
  | float x => .float x

end Scalar

/-- The cell of a column, absent when the row does not have the column. -/
def Row.cell (row : Row) (column : String) : Scalar :=
  match row.get? column with
  | some v => .ofValue v
  | none => .absent

/-- The cell of an optional column, absent when there is none. -/
def Row.cell? (row : Row) : Option String → Scalar
  | some column => row.cell column
  | none => .absent

end Tabulate
