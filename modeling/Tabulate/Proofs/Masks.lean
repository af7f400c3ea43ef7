import Mathlib
import Tabulate.Proofs.Comparison
import Tabulate.Proofs.PushDown

/-!
# The masks of the operators

The masks that the seven operators make of the same rows, column and value are related as the
comparisons are that they stand for: `Predicate.masks_partition`. If the value is a number, a row is
selected by `gt`, `eq` or `lt` just if its cell is a number, and by one of them only. Equality of
texts never comes in then, since a text that equals the text of a number is a number itself.
-/

namespace Tabulate

/-! ### Places of rows -/

/-- The places of the rows with a property. -/
def places (rows : List Row) (holds : Row → Prop) : Set Nat :=
  {i | ∃ row, rows[i]? = some row ∧ holds row}

/-- The places of the rows whose cell is a number with a property, which goes by the place of the
number in the order. -/
def numbered (rows : List Row) (column : String) (holds : Int → Prop) : Set Nat :=
  places rows fun row => ∃ x, (row.cell column).number? = some x ∧ holds x.place

section Places

variable {rows : List Row} {column : String}

theorem places_congr {holds holds' : Row → Prop} (same : ∀ row, holds row ↔ holds' row) :
    places rows holds = places rows holds' := by
  simp only [places, same]

theorem places_diff (holds holds' : Row → Prop) :
    (places rows fun row => holds row ∧ ¬holds' row) = places rows holds \ places rows holds' := by
  ext i
  constructor
  · rintro ⟨row, hrow, h, other⟩
    refine ⟨⟨row, hrow, h⟩, ?_⟩
    rintro ⟨row', hrow', h'⟩
    obtain rfl : row = row' := Option.some.inj (hrow.symm.trans hrow')
    exact other h'
  · rintro ⟨⟨row, hrow, h⟩, other⟩
    exact ⟨row, hrow, h, fun h' => other ⟨row, hrow, h'⟩⟩

theorem numbered_union (holds holds' : Int → Prop) :
    numbered rows column holds ∪ numbered rows column holds' =
      numbered rows column fun a => holds a ∨ holds' a := by
  ext i
  constructor
  · rintro (⟨row, hrow, x, hx, h⟩ | ⟨row, hrow, x, hx, h⟩)
    · exact ⟨row, hrow, x, hx, .inl h⟩
    · exact ⟨row, hrow, x, hx, .inr h⟩
  · rintro ⟨row, hrow, x, hx, h | h⟩
    · exact .inl ⟨row, hrow, x, hx, h⟩
    · exact .inr ⟨row, hrow, x, hx, h⟩

theorem disjoint_numbered {holds holds' : Int → Prop} (exclusive : ∀ a, holds a → ¬holds' a) :
    Disjoint (numbered rows column holds) (numbered rows column holds') := by
  rw [Set.disjoint_left]
  rintro i ⟨row, hrow, x, hx, h⟩ ⟨row', hrow', x', hx', h'⟩
  obtain rfl : row = row' := Option.some.inj (hrow.symm.trans hrow')
  obtain rfl : x = x' := Option.some.inj (hx.symm.trans hx')
  exact exclusive _ h h'

theorem numbered_congr {holds holds' : Int → Prop} (same : ∀ a, holds a ↔ holds' a) :
    numbered rows column holds = numbered rows column holds' := by
  simp only [numbered, same]

/-- Whatever their place in the order, the numbers are the cells that have a number. -/
theorem numbered_of_forall {holds : Int → Prop} (all : ∀ a, holds a) :
    numbered rows column holds = places rows fun row => (row.cell column).number?.isSome := by
  apply places_congr
  intro row
  simp [all, Option.isSome_iff_exists]

end Places

/-! ### Masks -/

namespace Predicate

/-- The places at which the mask of a predicate is true. -/
def selected (p : Predicate) (rows : List Row) : Set Nat := {i | (p.mask rows)[i]? = some true}

/-- Whether a row is selected depends on the row alone. -/
theorem selected_eq_places (p : Predicate) (rows : List Row) :
    p.selected rows = places rows fun row => p.matches row := by
  ext i
  simp [selected, places, mask]

section Operators

variable {rows : List Row} {column value : String} {target : Binary64}

/-- An operator that compares numbers selects the numbers in its order. -/
theorem selected_of_order {o : Operator} {order : Binary64 → Binary64 → Bool} {holds : Int → Prop}
    (number : parseNumber value = some target)
    (compares : ∀ c : Scalar, o.holds c value = c.inOrder order value)
    (ordered : ∀ x : Binary64, x.isFinite → (order x target ↔ holds x.place)) :
    (Predicate.mk column o value).selected rows = numbered rows column holds := by
  rw [selected_eq_places]
  apply places_congr
  intro row
  have numeric : (row.cell column).inOrder order value ↔
      ∃ x, (row.cell column).number? = some x ∧ holds x.place := by
    rw [Scalar.inOrder_iff number]
    apply exists_congr
    intro x
    exact and_congr_right fun hx => ordered x (Row.isFinite_of_number? hx)
  rw [Predicate.matches, compares, Bool.and_eq_true, numeric, Bool.not_eq_true']
  refine and_iff_right_of_imp ?_
  rintro ⟨x, hx, -⟩
  exact Row.present_of_number? hx

/-- Equality with a number selects the equal numbers: no row is selected for its text. -/
theorem selected_eq_of_number (number : parseNumber value = some target) :
    (Predicate.mk column .eq value).selected rows = numbered rows column (· = target.place) := by
  have finite : target.isFinite := isFinite_of_parseNumber number
  rw [selected_eq_places]
  apply places_congr
  intro row
  rw [Predicate.matches, Bool.and_eq_true, Bool.not_eq_true', Operator.holds]
  constructor
  · rintro ⟨present, equal⟩
    obtain ⟨x, hx, same⟩ := (Scalar.equals_iff (Row.number?_cell present) number).1 equal
    exact ⟨x, hx, (Binary64.numEq_iff_place (Row.isFinite_of_number? hx) finite).1 same⟩
  · rintro ⟨x, hx, same⟩
    have present := Row.present_of_number? hx
    refine ⟨present, (Scalar.equals_iff (Row.number?_cell present) number).2 ⟨x, hx, ?_⟩⟩
    exact (Binary64.numEq_iff_place (Row.isFinite_of_number? hx) finite).2 same

/-- An operator that compares numbers selects nothing if the value is no number. -/
theorem selected_of_text {o : Operator} {order : Binary64 → Binary64 → Bool}
    (text : parseNumber value = none)
    (compares : ∀ c : Scalar, o.holds c value = c.inOrder order value) :
    (Predicate.mk column o value).selected rows = ∅ := by
  rw [selected_eq_places, Set.eq_empty_iff_forall_notMem]
  rintro i ⟨row, -, selected⟩
  rw [Predicate.matches, compares, Scalar.inOrder_eq_false text, Bool.and_false] at selected
  cases selected

/-- Equality with a value that is no number selects the cells with this text. -/
theorem selected_eq_of_text (text : parseNumber value = none) :
    (Predicate.mk column .eq value).selected rows =
      places rows fun row => ¬(row.cell column).isAbsent ∧ (row.cell column).text = value := by
  rw [selected_eq_places]
  apply places_congr
  intro row
  rw [Predicate.matches, Operator.holds, Bool.and_eq_true, Scalar.equals_iff_text text]
  simp

end Operators

/-- A row whose cell is absent is not selected. -/
theorem selected_subset_present (p : Predicate) (rows : List Row) :
    p.selected rows ⊆ places rows fun row => ¬(row.cell p.column).isAbsent := by
  rw [selected_eq_places]
  rintro i ⟨row, hrow, selects⟩
  rw [Predicate.matches, Bool.and_eq_true, Bool.not_eq_true'] at selects
  exact ⟨row, hrow, Bool.eq_false_iff.1 selects.1⟩

theorem matches_neq {row : Row} {column value : String} :
    (Predicate.mk column .neq value).matches row ↔
      ¬(row.cell column).isAbsent ∧ ¬(Predicate.mk column .eq value).matches row := by
  cases absent : (row.cell column).isAbsent <;> simp [Predicate.matches, Operator.holds, absent]

/-- Of the rows whose cells are present `neq` selects those that `eq` does not. -/
theorem selected_neq (rows : List Row) (column value : String) :
    (Predicate.mk column .neq value).selected rows =
      (places rows fun row => ¬(row.cell column).isAbsent) \
        (Predicate.mk column .eq value).selected rows := by
  rw [selected_eq_places, selected_eq_places, ← places_diff]
  exact places_congr fun row => matches_neq

/-- No operator selects a row whose cell is absent, and of the others `neq` selects those that `eq`
does not. If the value is a number, `gt`, `eq` and `lt` divide up the rows whose cells are numbers,
and `gte` and `lte` are `gt` or `eq` and `lt` or `eq`. If it is none, these select nothing, and `eq`
selects the rows with this text. -/
theorem masks_partition (rows : List Row) (column value : String) :
    let selected (o : Operator) := (Predicate.mk column o value).selected rows
    let present := places rows fun row => ¬(row.cell column).isAbsent
    let numeric := places rows fun row => (row.cell column).number?.isSome
    (∀ o, selected o ⊆ present) ∧ selected .neq = present \ selected .eq ∧
      (∀ target, parseNumber value = some target →
        Disjoint (selected .gt) (selected .eq) ∧ Disjoint (selected .eq) (selected .lt) ∧
        Disjoint (selected .gt) (selected .lt) ∧
        selected .gt ∪ selected .eq ∪ selected .lt = numeric ∧
        selected .gte = selected .gt ∪ selected .eq ∧ selected .lte = selected .lt ∪ selected .eq) ∧
      (parseNumber value = none →
        selected .gt = ∅ ∧ selected .lt = ∅ ∧ selected .gte = ∅ ∧ selected .lte = ∅ ∧
        selected .eq =
          places rows fun row => ¬(row.cell column).isAbsent ∧ (row.cell column).text = value) := by
  intro selected present numeric
  refine ⟨fun o => selected_subset_present _ rows, selected_neq rows column value, ?_, ?_⟩
  · intro target number
    have finite : target.isFinite := isFinite_of_parseNumber number
    have eq : selected .eq = numbered rows column (· = target.place) := selected_eq_of_number number
    have gt : selected .gt = numbered rows column (target.place < ·) :=
      selected_of_order number (fun _ => rfl) fun x hx => Binary64.lt_iff_place finite hx
    have lt : selected .lt = numbered rows column (· < target.place) :=
      selected_of_order number (fun _ => rfl) fun x hx => Binary64.lt_iff_place hx finite
    have gte : selected .gte = numbered rows column (target.place ≤ ·) :=
      selected_of_order number (fun _ => rfl) fun x hx => Binary64.le_iff_place finite hx
    have lte : selected .lte = numbered rows column (· ≤ target.place) :=
      selected_of_order number (fun _ => rfl) fun x hx => Binary64.le_iff_place hx finite
    rw [eq, gt, lt, gte, lte]
    refine ⟨?_, ?_, ?_, ?_, ?_, ?_⟩
    · exact disjoint_numbered fun a above same => by omega
    · exact disjoint_numbered fun a same below => by omega
    · exact disjoint_numbered fun a above below => by omega
    · rw [numbered_union, numbered_union]
      exact numbered_of_forall fun a => by omega
    · rw [numbered_union]
      exact numbered_congr fun a => by omega
    · rw [numbered_union]
      exact numbered_congr fun a => by omega
  · intro text
    exact ⟨selected_of_text text fun _ => rfl, selected_of_text text fun _ => rfl,
      selected_of_text text fun _ => rfl, selected_of_text text fun _ => rfl,
      selected_eq_of_text text⟩

/-- Cells of every kind, compared with a number and with the text of an infinity: an integer too
large for a number, a truth value and an infinity are texts. -/
theorem masks_partition_mixed_cells :
    let rows : List Row :=
      [ .ofEntries [("k", .int 1)], .ofEntries [("k", .str " +1.0 ")],
        .ofEntries [("k", .bool true)],
        .ofEntries [("k", .float (.infinite false))], .ofEntries [("k", .int (10 ^ 400))],
        .ofEntries [("k", .str "2")],
        .ofEntries [("k", .list [.int 1])], .ofEntries [("k", .float .nan)], .ofEntries [] ]
    let selected (o : Operator) (value : String) := (Predicate.mk "k" o value).selected rows
    let numeric := places rows fun row => (row.cell "k").number?.isSome
    parseNumber "1e0" = some (.ofInt 1) ∧
      selected .gt "1e0" ∪ selected .eq "1e0" ∪ selected .lt "1e0" = numeric ∧
      selected .gte "1e0" = selected .gt "1e0" ∪ selected .eq "1e0" ∧
      parseNumber "inf" = none ∧ selected .lte "inf" = ∅ ∧
      selected .eq "inf" =
        places rows fun row => ¬(row.cell "k").isAbsent ∧ (row.cell "k").text = "inf" := by
  intro rows selected numeric
  have number : parseNumber "1e0" = some (.ofInt 1) := by decide +kernel
  have text : parseNumber "inf" = none := by decide +kernel
  obtain ⟨-, -, partition, -⟩ := masks_partition rows "k" "1e0"
  obtain ⟨-, -, -, whole, gte, -⟩ := partition _ number
  obtain ⟨-, -, -, textual⟩ := masks_partition rows "k" "inf"
  obtain ⟨-, -, -, lte, eq⟩ := textual text
  exact ⟨number, whole, gte, text, lte, eq⟩

end Predicate

end Tabulate
