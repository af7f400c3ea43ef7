/-!
# Aggregations

How the rows of a group become one number. A query names its aggregation; `none` leaves the rows as
they are. A name that stands for no aggregation is kept as it is, since a query may be put together
without being checked.
-/

namespace Tabulate

/-- How rows are condensed: not at all (`raw`), to one of five figures, or as an unknown name
asks. -/
inductive Aggregation where
  | raw
  | count
  | sum
  | avg
  | min
  | max
  | other (name : String)
  deriving DecidableEq, Inhabited

namespace Aggregation

/-- The aggregations that a query may name. -/
def all : List Aggregation := [raw, count, sum, avg, min, max]

/-- The name of an aggregation. -/
def name : Aggregation → String
  | raw => "none"
  | count => "count"
  | sum => "sum"
  | avg => "avg"
  | min => "min"
  | max => "max"
  | other name => name

/-- The aggregation of a name. -/
def ofName (name : String) : Aggregation := (all.find? (·.name == name)).getD (other name)

/-- Whether the aggregation is one that a query may name. -/
def known : Aggregation → Bool
  | other _ => false
  | _ => true

/-- Every name is that of its aggregation. -/
@[simp] theorem name_ofName (name : String) : (ofName name).name = name := by
  unfold ofName
  cases found : all.find? (·.name == name) with
  | none => rfl
  | some aggregation => simpa using List.find?_some found

/-- An aggregation that a query may name is found by its name. -/
theorem ofName_name {aggregation : Aggregation} (h : aggregation.known) :
    ofName aggregation.name = aggregation := by
  cases aggregation <;> first | rfl | simp [known] at h

end Aggregation

end Tabulate
