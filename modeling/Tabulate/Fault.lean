import Tabulate.Aggregation
import Tabulate.Json.Error
import Tabulate.Predicate
import Tabulate.Value.Equality

/-!
# Faults

Everything that can go wrong, as causes. A `Rejection` is a configuration that is well-formed and
not allowed; it names the field at fault. A `Fault` is a rejection, a dataset that is not there or a
name that is taken, or a value of a kind that the operation at hand has no use for. `message` gives
the wording.
-/

namespace Tabulate

/-- The two axes of a chart. -/
inductive Axis where
  | x
  | y
  deriving DecidableEq

/-- The wire name of an axis. -/
def Axis.name : Axis → String
  | .x => "xAxis"
  | .y => "yAxis"

/-- Why a configuration is not accepted. -/
inductive Rejection where
  | unknownAggregation (given : Value)
  | filterNotRecord (index : Nat)
  | unknownOperator (index : Nat) (given : Value)
  | groupingWithoutAggregation
  | axisRequired (axis : Axis) (aggregation : Aggregation)
  | datasetIdNotInteger (given : Value)
  | datasetNameRequired
  | datasetRowsRequired
  deriving DecidableEq

namespace Rejection

/-- The field at fault. -/
def field : Rejection → String
  | unknownAggregation _ => "aggregation"
  | filterNotRecord index => "filters[" ++ index.repr ++ "]"
  | unknownOperator index _ => "filters[" ++ index.repr ++ "].operator"
  | groupingWithoutAggregation => "groupBy"
  | axisRequired axis _ => axis.name
  | datasetIdNotInteger _ => "datasetId"
  | datasetNameRequired => "name"
  | datasetRowsRequired => "data"

/-- The wording of a rejection. -/
def message : Rejection → String
  | unknownAggregation given =>
    "Unknown aggregation '" ++ given.text ++ "'; expected one of " ++
      ", ".intercalate (Aggregation.all.map Aggregation.name)
  | filterNotRecord index => "filter #" ++ index.repr ++ " must be an object"
  | unknownOperator _ given =>
    "Unknown filter operator '" ++ given.text ++ "'; expected one of " ++
      ", ".intercalate (Operator.all.map Operator.name)
  | groupingWithoutAggregation => "groupBy requires an aggregation other than 'none'"
  | axisRequired axis aggregation =>
    axis.name ++ " is required for aggregation '" ++ aggregation.name ++ "'"
  | datasetIdNotInteger given => "datasetId must be an integer, got " ++ given.inspect
  | datasetNameRequired => "Dataset name is required"
  | datasetRowsRequired => "Dataset data is required"

end Rejection

/-- What can go wrong. -/
inductive Fault where
  | rejected (cause : Rejection)
  | notFound (id : Value)
  | conflict (name : String)
  /-- A missing value was asked for its truth. -/
  | undecidedTruth
  /-- The members of a value that has none were asked for. -/
  | notIterable (v : Value)
  /-- A key was looked for in a value that has no members. -/
  | notContainer (v : Value)
  /-- A text was given where a record is read by key. -/
  | textNotRecord
  /-- A list was given where a record is read by key. -/
  | listNotRecord
  /-- A value without members was given where a record is read by key. -/
  | notRecord (v : Value)
  /-- A value of the wrong kind was asked for one of the operations of another kind. -/
  | noOperation (v : Value) (operation : String)
  /-- A value that changes was given as a key. -/
  | unusableKey (v : Value)
  /-- An infinite number was to become an integer. -/
  | infiniteInteger
  /-- A record lacks a key that it must have, or no aggregation has the name. -/
  | missingKey (key : String)
  /-- Rows were to be grouped by no column at all. -/
  | noGroupKeys
  /-- A text was given for a level of the log. -/
  | unknownLevel (given : String)
  /-- Something else, with the given text, was given for a level of the log. -/
  | notLevel (text : String)
  /-- A text that ought to be JSON has no value. -/
  | json (e : Json.Error)
  deriving DecidableEq

/-- The wording of a fault. -/
def Fault.message : Fault → String
  | rejected cause => cause.message
  | notFound id => "Dataset " ++ id.text ++ " not found"
  | conflict name => "Dataset with name '" ++ name ++ "' already exists"
  | undecidedTruth => "boolean value of NA is ambiguous"
  | notIterable v => "'" ++ v.kindName ++ "' object is not iterable"
  | notContainer v => "argument of type '" ++ v.kindName ++ "' is not iterable"
  | textNotRecord => "string indices must be integers, not 'str'"
  | listNotRecord => "list indices must be integers or slices, not str"
  | notRecord v => "'" ++ v.kindName ++ "' object is not subscriptable"
  | noOperation v operation =>
    "'" ++ v.kindName ++ "' object has no attribute '" ++ operation ++ "'"
  | unusableKey v => "unhashable type: '" ++ v.kindName ++ "'"
  | infiniteInteger => "cannot convert float infinity to integer"
  | missingKey key => quoted key
  | noGroupKeys => "No group keys passed!"
  | unknownLevel given => "Unknown level: " ++ quoted given
  | notLevel text => "Level not an integer or a valid string: " ++ text
  | json e => e.message

/-- Two steps succeed exactly if the first does and the second does with its result. -/
theorem bind_eq_ok {ε α β : Type} {x : Except ε α} {f : α → Except ε β} {b : β} :
    (x >>= f) = .ok b ↔ ∃ a, x = .ok a ∧ f a = .ok b := by
  cases x with
  | error e => simp [bind, Except.bind]
  | ok a => simp [bind, Except.bind]

/-- Two steps fail exactly if the first does, or the second does with the result of the first. -/
theorem bind_eq_error {ε α β : Type} {x : Except ε α} {f : α → Except ε β} {e : ε} :
    (x >>= f) = .error e ↔ x = .error e ∨ ∃ a, x = .ok a ∧ f a = .error e := by
  cases x with
  | error e => simp [bind, Except.bind]
  | ok a => simp [bind, Except.bind]

theorem map_eq_ok {ε α β : Type} {x : Except ε α} {f : α → β} {b : β} :
    x.map f = .ok b ↔ ∃ a, x = .ok a ∧ f a = b := by
  cases x with
  | error e => simp [Except.map]
  | ok a => simp [Except.map]

theorem map_eq_error {ε α β : Type} {x : Except ε α} {f : α → β} {e : ε} :
    x.map f = .error e ↔ x = .error e := by
  cases x with
  | error e => simp [Except.map]
  | ok a => simp [Except.map]

theorem mapError_eq_ok {ε ε' α : Type} {x : Except ε α} {f : ε → ε'} {a : α}
    (h : x.mapError f = .ok a) : x = .ok a := by
  cases x with
  | error e => cases h
  | ok a =>
    cases h
    rfl

theorem mapError_eq_error {ε ε' α : Type} {x : Except ε α} {f : ε → ε'} {e : ε'}
    (h : x.mapError f = .error e) : ∃ e', x = .error e' ∧ f e' = e := by
  cases x with
  | error e' => exact ⟨e', rfl, Except.error.inj h⟩
  | ok a => cases h

end Tabulate
