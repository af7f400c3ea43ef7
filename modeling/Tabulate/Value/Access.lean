import Tabulate.Fault

/-!
# Asking values

What is asked of values from outside, where any kind of value may be found: whether it counts as
true, what it consists of, and what it holds under a key. A value of a kind that cannot answer is a
fault.
-/

namespace Tabulate.Value

/-- The truth of a value; a missing one has none. -/
def truth (v : Value) : Except Fault Bool :=
  match v.truth? with
  | some b => .ok b
  | none => .error .undecidedTruth

/-- A text that is not empty counts as true. -/
theorem truth_str {s : String} (nonempty : s ≠ "") : (str s).truth = .ok true := by
  simp [truth, truth?, nonempty]

/-- What a value consists of: the items of a list, the characters of a text or the keys of a
record. -/
def members : Value → Except Fault (List Value)
  | list items => .ok items
  | str s => .ok (s.toList.map fun c => str (String.singleton c))
  | record fields => .ok (fields.map fun field => str field.1)
  | v => .error (.notIterable v)

/-- The value under a key of a record; `null` when there is none, or no record. -/
def field (v : Value) (key : String) : Value :=
  match v with
  | record fields => (fields.lookup key).getD null
  | _ => null

/-- The value under a key that a record must have. -/
def required (v : Value) (key : String) : Except Fault Value :=
  match v with
  | record fields =>
    match fields.lookup key with
    | some w => .ok w
    | none => .error (.missingKey key)
  | str _ => .error .textNotRecord
  | list _ => .error .listNotRecord
  | v => .error (.notRecord v)

end Tabulate.Value
