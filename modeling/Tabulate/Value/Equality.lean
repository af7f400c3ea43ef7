import Tabulate.Value

/-!
# Equality of values

Values are compared in two ways. `same` is equality as such, kind for kind, and decides it. `eqv` is
equality as far as owners and keys are concerned: there one is the same number whether it is an
integer, a binary number or a truth value.
-/

namespace Tabulate

namespace Value

mutual

/-- Whether two values are the same, kind for kind. -/
def same : Value → Value → Bool
  | null, null => true
  | missing, missing => true
  | bool a, bool b => a == b
  | int i, int j => i == j
  | float x, float y => x == y
  | str a, str b => a == b
  | list xs, list ys => sameItems xs ys
  | record fs, record gs => sameFields fs gs
  | _, _ => false

/-- Whether two lists hold the same values. -/
def sameItems : List Value → List Value → Bool
  | [], [] => true
  | x :: xs, y :: ys => x.same y && sameItems xs ys
  | _, _ => false

/-- Whether two records have the same fields in the same order. -/
def sameFields : List (String × Value) → List (String × Value) → Bool
  | [], [] => true
  | (key, v) :: fs, (other, w) :: gs => key == other && v.same w && sameFields fs gs
  | _, _ => false

end

mutual

theorem same_iff : ∀ v w : Value, same v w ↔ v = w
  | null, w => by cases w <;> simp [same]
  | missing, w => by cases w <;> simp [same]
  | bool a, w => by cases w <;> simp [same]
  | int i, w => by cases w <;> simp [same]
  | float x, w => by cases w <;> simp [same]
  | str s, w => by cases w <;> simp [same]
  | list xs, w => by cases w <;> simp [same, sameItems_iff xs]
  | record fs, w => by cases w <;> simp [same, sameFields_iff fs]

theorem sameItems_iff : ∀ xs ys : List Value, sameItems xs ys ↔ xs = ys
  | [], ys => by cases ys <;> simp [sameItems]
  | x :: xs, ys => by cases ys <;> simp [sameItems, same_iff x, sameItems_iff xs]

theorem sameFields_iff : ∀ fs gs : List (String × Value), sameFields fs gs ↔ fs = gs
  | [], gs => by cases gs <;> simp [sameFields]
  | (key, v) :: fs, gs => by
    rcases gs with _ | ⟨⟨other, w⟩, gs⟩ <;> simp [sameFields, same_iff v, sameFields_iff fs]

end

instance : DecidableEq Value := fun v w => decidable_of_iff _ (same_iff v w)

/-! ### Equality by value -/

/-- Whether a binary number is exactly an integer. -/
def floatIsInt : Binary64 → Int → Bool
  | .finite negative units _, i => withSign negative units == i * unitsPerOne
  | _, _ => false

mutual

/-- Equality of values inside lists and records. Numbers are equal by value, whatever their kind,
and a truth value counts as zero or one; the order of a record's fields does not matter;
not-a-number equals itself. -/
def alike : Value → Value → Bool
  | null, null => true
  | missing, missing => true
  | str a, str b => a == b
  | float x, float y => x.numEq y || (x.isNaN && y.isNaN)
  | float x, int i => floatIsInt x i
  | float x, bool b => floatIsInt x b.toNat
  | bool a, float y => floatIsInt y a.toNat
  | bool a, bool b => a == b
  | bool a, int i => (a.toNat : Int) == i
  | int i, float y => floatIsInt y i
  | int i, bool b => i == b.toNat
  | int i, int j => i == j
  | list xs, list ys => alikeItems xs ys
  | record fs, record gs => fs.length == gs.length && alikeFields fs gs
  | _, _ => false

/-- Equality of lists, item by item. -/
def alikeItems : List Value → List Value → Bool
  | [], [] => true
  | x :: xs, y :: ys => x.alike y && alikeItems xs ys
  | _, _ => false

/-- Whether each field has an equal one of the same key in the second record. -/
def alikeFields : List (String × Value) → List (String × Value) → Bool
  | [], _ => true
  | (key, v) :: rest, fields =>
    (match fields.lookup key with
      | some w => v.alike w
      | none => false) && alikeFields rest fields

end

/-- Equality of values: that inside lists, but not-a-number differs from itself. -/
def eqv : Value → Value → Bool
  | float x, float y => x.numEq y
  | v, w => v.alike w

/-- Texts are equal by value only if they are the same. -/
@[simp] theorem eqv_str (a b : String) : (str a).eqv (str b) = (a == b) := rfl

/-- Nothing is equal to a text. -/
@[simp] theorem eqv_null_str (s : String) : null.eqv (str s) = false := rfl

/-- A text is not equal to nothing. -/
@[simp] theorem eqv_str_null (s : String) : (str s).eqv null = false := rfl

example : (int 1).eqv (bool true) ∧ (float (.ofInt 1)).eqv (int 1) ∧ ¬ (str "1").eqv (int 1) := by
  decide +kernel

end Value

end Tabulate
