import Tabulate.Columns
import Tabulate.Timestamp

/-!
# Datasets

Rows under a name, with the columns that occur in them. A dataset belongs to an owner, who alone
sees it, or to nobody, and then everybody does.
-/

namespace Tabulate

/-- A named list of rows. -/
structure Dataset where
  id : Nat
  name : String
  columns : List String
  rows : List Row
  owner : Value
  createdAt : Timestamp
  deriving DecidableEq, Inhabited

namespace Dataset

/-- Whether a viewer may see the dataset; `null` is a viewer without a name. -/
def visibleTo (d : Dataset) (viewer : Value) : Bool :=
  match d.owner with
  | .null => true
  | owner => owner.eqv viewer

/-- Whether `d` comes before `e` in a listing: the later one first, and of two of one time the one
stored later. -/
def precedes (d e : Dataset) : Bool :=
  e.createdAt.micros < d.createdAt.micros || (d.createdAt == e.createdAt && e.id ≤ d.id)

/-- The wire form of a dataset, with its rows if they are wanted. -/
def toValue (d : Dataset) (withRows : Bool) : Value :=
  .record <|
    [ ("id", .int d.id), ("name", .str d.name), ("columns", .list (d.columns.map .str)),
      ("rowCount", .int d.rows.length), ("owner", d.owner),
      ("createdAt", .str d.createdAt.text) ] ++
    if withRows then [("data", .list (d.rows.map Row.toValue))] else []

end Dataset

end Tabulate
