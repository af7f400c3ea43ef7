import Mathlib.Algebra.BigOperators.Ring.List
import Tabulate.Proofs.Comparison
import Tabulate.Proofs.Number.Integers
import Tabulate.Proofs.Sum

/-!
# Sums of integers

Where the numbers of a group are integers whose sizes add up to `2 ^ 53` at most, no step of the
compensated sum rounds, so the sum that a query shows for the group is their sum. It does not depend
on the order of rows, and the sums that are shown for parts of a table add up to that of the whole:
`Query.evaluate_integer_sums`.
-/

namespace Tabulate

namespace Binary64

/-! ### Numbers that are integers -/

/-- Whether `x` is the integer `i`. -/
def IsInt (x : Binary64) (i : Int) : Prop := x.isIntegral ∧ x.truncate? = some i

/-- The whole parts of numbers. -/
def integers (xs : List Binary64) : List Int := xs.filterMap truncate?

/-- Integers whose sizes together are no more than `2 ^ 53`. -/
structure Small (xs : List Binary64) : Prop where
  integral : ∀ x ∈ xs, x.isIntegral
  bound : ((integers xs).map abs).sum ≤ 2 ^ 53

theorem exists_isInt {x : Binary64} (integral : x.isIntegral) : ∃ i, x.IsInt i := by
  cases x with
  | nan => cases integral
  | infinite negative => cases integral
  | finite negative units representable => exact ⟨_, integral, rfl⟩

theorem withSign_div_mul {m n : Nat} (divides : n ∣ m) (negative : Bool) :
    withSign negative (m / n) * n = withSign negative m := by
  have whole : ((m / n : Nat) : Int) * n = m := by exact_mod_cast Nat.div_mul_cancel divides
  cases negative with
  | false => exact whole
  | true => exact (Int.neg_mul _ _).trans (congrArg Neg.neg whole)

/-- A number is the integer `i` if it is `i` times as many units as one. -/
theorem isInt_iff_exactly {x : Binary64} {i : Int} : x.IsInt i ↔ x.Exactly (i * unitsPerOne) := by
  cases x with
  | nan => exact iff_of_false (fun h => nomatch h.1) (fun h => nomatch h.1)
  | infinite negative => exact iff_of_false (fun h => nomatch h.1) (fun h => nomatch h.1)
  | finite negative units representable =>
    constructor
    · rintro ⟨integral, whole⟩
      obtain rfl : withSign negative (units / unitsPerOne) = i := Option.some.inj whole
      rw [withSign_div_mul (Nat.dvd_of_mod_eq_zero (beq_iff_eq.1 integral))]
      exact ⟨rfl, rfl⟩
    · rintro ⟨-, place⟩
      have place : withSign negative units = i * unitsPerOne := place
      have divides : unitsPerOne ∣ units := by
        refine ⟨i.natAbs, ?_⟩
        rw [← natAbs_withSign negative units, place, Int.natAbs_mul,
          Int.natAbs_natCast, Nat.mul_comm]
      have one : (unitsPerOne : Int) ≠ 0 := Int.natCast_ne_zero.2 unitsPerOne_pos.ne'
      have whole : withSign negative (units / unitsPerOne) = i :=
        Int.eq_of_mul_eq_mul_right one ((withSign_div_mul divides negative).trans place)
      exact ⟨beq_iff_eq.2 (Nat.mod_eq_zero_of_dvd divides), congrArg some whole⟩

theorem map_place_eq {xs : List Binary64} (integral : ∀ x ∈ xs, x.isIntegral) :
    xs.map place = (integers xs).map (· * (unitsPerOne : Int)) := by
  induction xs with
  | nil => rfl
  | cons x xs ih =>
    obtain ⟨i, isInt⟩ := exists_isInt (integral x List.mem_cons_self)
    have rest := ih fun y hy => integral y (List.mem_cons_of_mem _ hy)
    rw [integers, List.filterMap_cons_some isInt.2, List.map_cons, List.map_cons,
      (isInt_iff_exactly.1 isInt).place, rest]
    rfl

theorem exactSum_eq {xs : List Binary64} (integral : ∀ x ∈ xs, x.isIntegral) :
    exactSum xs = (integers xs).sum * unitsPerOne := by
  rw [exactSum, map_place_eq integral, List.sum_map_mul_right, List.map_id']

theorem mass_eq {xs : List Binary64} (integral : ∀ x ∈ xs, x.isIntegral) :
    mass xs = ((integers xs).map abs).sum * unitsPerOne := by
  have sizes : xs.map (fun x => |x.place|) =
      (integers xs).map fun i => |i| * (unitsPerOne : Int) := by
    calc xs.map (fun x => |x.place|) = (xs.map place).map abs := by rw [List.map_map]; rfl
      _ = (integers xs).map fun i => |i| * (unitsPerOne : Int) := by
        rw [map_place_eq integral, List.map_map]
        refine List.map_congr_left ?_
        intro i _
        exact (abs_mul i _).trans (congrArg _ (abs_of_nonneg (Int.natCast_nonneg _)))
  rw [mass, sizes, List.sum_map_mul_right]

/-- Small integers are multiples of one, which is a power of two in units, and nothing in their sum
has to be rounded. -/
theorem Small.unrounded {xs : List Binary64} (small : Small xs) : ∃ k, Unrounded k xs := by
  -- the exponent is kept as a variable, for the power is too large to be written out
  obtain ⟨k, units⟩ : ∃ k, unitsPerOne = 2 ^ k := ⟨1074, rfl⟩
  have one : (unitsPerOne : Int) = 2 ^ k := by rw [units, Nat.cast_pow, Nat.cast_ofNat]
  have size : mass xs ≤ 2 ^ 53 * unitsPerOne := by
    rw [mass_eq small.integral]
    exact Int.mul_le_mul_of_nonneg_right small.bound (Int.natCast_nonneg _)
  have below : ((2 ^ 53 * unitsPerOne : Nat) : Int) < overflowUnits :=
    Int.ofNat_lt.2 (Decimal.two_pow_mul_unitsPerOne_lt (by decide))
  rw [Nat.cast_mul, Nat.cast_pow, Nat.cast_ofNat] at below
  refine ⟨k, ?_, one ▸ size, size.trans_lt below⟩
  intro x hx
  obtain ⟨i, isInt⟩ := exists_isInt (small.integral x hx)
  rw [(isInt_iff_exactly.1 isInt).place, one]
  exact Int.dvd_mul_left _ _

/-- The compensated sum of small integers is their sum. -/
theorem Small.isInt_sum {xs : List Binary64} (small : Small xs) :
    (sum xs).IsInt (integers xs).sum := by
  obtain ⟨k, unrounded⟩ := small.unrounded
  rw [isInt_iff_exactly, ← exactSum_eq small.integral]
  refine unrounded.sum_exactly ?_
  intro x hx
  obtain ⟨i, isInt⟩ := exists_isInt (small.integral x hx)
  exact (isInt_iff_exactly.1 isInt).finite

theorem sum_integers_flatten (xss : List (List Binary64)) :
    (integers xss.flatten).sum = (xss.map fun xs => (integers xs).sum).sum := by
  rw [integers, List.filterMap_flatten, List.sum_flatten, List.map_map]
  rfl

end Binary64

/-! ### The rows of a result by their keys -/

theorem exists_lookup_eq {κ α β : Type} [BEq κ] [LawfulBEq κ] {key : α → κ} (value : α → β)
    {as : List α} {k : κ} (occurs : k ∈ as.map key) :
    ∃ a ∈ as, key a = k ∧ (as.map fun a => (key a, value a)).lookup k = some (value a) := by
  induction as with
  | nil => cases occurs
  | cons a rest ih =>
    by_cases here : key a = k
    · subst here
      exact ⟨a, List.mem_cons_self, rfl, List.lookup_cons_self⟩
    · have later : k ∈ rest.map key := (List.mem_cons.1 occurs).resolve_left (Ne.symm here)
      obtain ⟨b, hb, keyed, found⟩ := ih later
      refine ⟨b, List.mem_cons_of_mem _ hb, keyed, ?_⟩
      rw [List.map_cons, List.lookup_cons, beq_false_of_ne (Ne.symm here)]
      exact found

namespace Query

/-- The row for a key in `result`, whose rows stand for the keys of `rows` in the order in which
these first occur. -/
def rowFor? (q : Query) (rows result : List Row) (key : List String) : Option Row :=
  ((rows.map (Row.key q.keyColumns)).eraseDups.zip result).lookup key

/-- The numbers of the rows that satisfy the filters and have a key. -/
def terms (q : Query) (y : String) (rows : List Row) (key : List String) : List Binary64 :=
  q.numbers y (filterRows rows q.filters) key

/-- The integer that `result` shows for a key: the number on the y axis of the row for that key, or
zero if none of the rows that satisfy the filters has it. -/
inductive ShowsTotal (q : Query) (y : String) (rows result : List Row) (key : List String) :
    Int → Prop where
  | row {row : Row} {x : Binary64} {total : Int}
      (found : q.rowFor? (filterRows rows q.filters) result key = some row)
      (held : row.get? y = some (.float x)) (value : x.IsInt total) :
      ShowsTotal q y rows result key total
  | absent (missing : ∀ row ∈ filterRows rows q.filters, row.key q.keyColumns ≠ key) :
      ShowsTotal q y rows result key 0

section Terms

variable {q : Query} {y : String} {key : List String}

/-- The numbers of a table are those of its parts. -/
theorem terms_perm {rows : List Row} {parts : List (List Row)} (perm : rows.Perm parts.flatten) :
    (q.terms y rows key).Perm (parts.map fun part => q.terms y part key).flatten := by
  have split : q.terms y parts.flatten key =
      (parts.map fun part => q.terms y part key).flatten := by
    simp only [terms, numbers, filterRows, List.filter_flatten, List.map_flatten, List.map_map]
    rfl
  rw [← split]
  exact ((perm.filter _).filter _).map _

theorem terms_of_missing {rows : List Row}
    (missing : ∀ row ∈ filterRows rows q.filters, row.key q.keyColumns ≠ key) :
    q.terms y rows key = [] := by
  have none : (filterRows rows q.filters).filter (·.key q.keyColumns = key) = [] := by
    rw [List.filter_eq_nil_iff]
    intro row hrow
    simpa using missing row hrow
  rw [terms, numbers, none]
  rfl

end Terms

/-- The row for a key that occurs is that of the group with the key. -/
theorem exists_rowFor? (q : Query) (x y : String) (figure : Binary64 → List Binary64 → Value)
    {rows : List Row} {key : List String} (occurs : ∃ row ∈ rows, row.key q.keyColumns = key) :
    ∃ m ∈ Group.firsts (Row.key q.keyColumns) rows, m.key q.keyColumns = key ∧
      q.rowFor? rows ((Group.firsts (Row.key q.keyColumns) rows).map (q.rowOf x y figure rows))
          key =
        some (q.rowOf x y figure rows m) := by
  rw [rowFor?, ← Group.map_firsts, List.zip_map']
  exact exists_lookup_eq (q.rowOf x y figure rows) (Group.mem_map_firsts.2 occurs)

section Showing

variable {q : Query} {x y : String} {figure : Binary64 → List Binary64 → Value} {key : List String}

/-- For a group of small integers the sum of these is shown. -/
theorem Draws.showsTotal (draws : q.Draws x y figure)
    (right : ∀ z zs, (∀ w ∈ z :: zs, w.isFinite) → q.aggregation.IsFigure (z :: zs) (figure z zs))
    (sums : q.aggregation = .sum) {rows result : List Row} (computed : q.run rows = .ok result)
    (small : Binary64.Small (q.terms y rows key)) :
    q.ShowsTotal y rows result key (Binary64.integers (q.terms y rows key)).sum := by
  obtain rfl := Except.ok.inj ((draws.run_eq_map_firsts rows).symm.trans computed)
  by_cases occurs : ∃ row ∈ filterRows rows q.filters, row.key q.keyColumns = key
  · obtain ⟨m, hm, rfl, found⟩ := q.exists_rowFor? x y figure occurs
    obtain ⟨v, held, isFigure⟩ := draws.yAxis_rowOf right hm
    rw [sums] at isFigure
    obtain rfl : v = .float (Binary64.sum (q.terms y rows (m.key q.keyColumns))) := isFigure
    exact .row found held small.isInt_sum
  · have missing : ∀ row ∈ filterRows rows q.filters, row.key q.keyColumns ≠ key :=
      fun row hrow keyed => occurs ⟨row, hrow, keyed⟩
    rw [terms_of_missing missing]
    exact .absent missing

end Showing

/-- Where the numbers of a group are integers whose sizes add up to `2 ^ 53` at most, a query shows
their exact sum. The sums that it shows for parts of a table, of which the rows may stand in any
order, add up to that of the table. -/
theorem evaluate_integer_sums {wire : Value} {q : Query} (accepted : ofValue wire = .ok q)
    (sums : q.aggregation = .sum) {rows : List Row} {parts : List (List Row)}
    (perm : rows.Perm parts.flatten) (id : Value) :
    ∃ y result, q.yAxis = some y ∧ evaluate (some rows) wire id = .ok result ∧ ∀ key,
      (Binary64.Small (q.terms y rows key) →
        q.ShowsTotal y rows result key (Binary64.integers (q.terms y rows key)).sum) ∧
      ((∀ part ∈ parts, Binary64.Small (q.terms y part key)) → ∃ totals : List Int,
        List.Forall₂ (fun part total => ∃ shown, evaluate (some part) wire id = .ok shown ∧
          q.ShowsTotal y part shown key total) parts totals ∧
        totals.sum = (Binary64.integers (q.terms y rows key)).sum) := by
  have condenses : q.aggregation ≠ .raw := by simp [sums]
  obtain ⟨x, y, figure, draws, right⟩ := (normal_of_ofValue accepted).draws condenses
  have computed := draws.run_eq_map_firsts rows
  refine ⟨y, _, draws.yAxis, (evaluate_of_accepted accepted rows id).trans computed, ?_⟩
  intro key
  refine ⟨draws.showsTotal right sums computed, ?_⟩
  intro small
  refine ⟨parts.map fun part => (Binary64.integers (q.terms y part key)).sum, ?_, ?_⟩
  · rw [List.forall₂_map_right_iff, List.forall₂_same]
    intro part hpart
    have computed := draws.run_eq_map_firsts part
    exact ⟨_, (evaluate_of_accepted accepted part id).trans computed,
      draws.showsTotal right sums computed (small part hpart)⟩
  · have order : (Binary64.integers (q.terms y rows key)).sum =
        (Binary64.integers (parts.map fun part => q.terms y part key).flatten).sum :=
      ((terms_perm perm).filterMap Binary64.truncate?).sum_eq
    rw [order, Binary64.sum_integers_flatten, List.map_map]
    rfl

/-- The sizes of a text, a number of each sign and an absent cell add up to just `2 ^ 53`; the parts
of the table have the rows in another order, and one part has none of them. -/
theorem evaluate_integer_sums_at_bound :
    let q : Query :=
      { xAxis := some "k", yAxis := some "v", aggregation := .sum, filters := [⟨"k", .neq, "c"⟩] }
    let rows : List Row :=
      [ .ofEntries [("k", .int 1), ("v", .str "9007199254740990")],
        .ofEntries [("k", .str "1"), ("v", .int (-1))],
        .ofEntries [("k", .str "1")], .ofEntries [("k", .str "b"), ("v", .str " 5 ")],
        .ofEntries [("k", .str "c"), ("v", .int 3)],
        .ofEntries [("v", .float (.ofInt 1)), ("k", .str "1")] ]
    let parts : List (List Row) :=
      [ [.ofEntries [("v", .float (.ofInt 1)), ("k", .str "1")],
        .ofEntries [("k", .str "b"), ("v", .str " 5 ")]], [],
        [ .ofEntries [("k", .str "c"), ("v", .int 3)], .ofEntries [("k", .str "1")],
          .ofEntries [("k", .str "1"), ("v", .int (-1))],
          .ofEntries [("k", .int 1), ("v", .str "9007199254740990")] ] ]
    ofValue q.toValue = .ok q ∧ q.aggregation = .sum ∧ rows.Perm parts.flatten ∧
      Binary64.Small (q.terms "v" rows ["1"]) ∧
      (∀ part ∈ parts, Binary64.Small (q.terms "v" part ["1"])) ∧
      ∃ result, evaluate (some rows) q.toValue .null = .ok result ∧
        q.ShowsTotal "v" rows result ["1"] (2 ^ 53 - 2) ∧ ∃ totals : List Int,
        List.Forall₂ (fun part total => ∃ shown, evaluate (some part) q.toValue .null = .ok shown ∧
          q.ShowsTotal "v" part shown ["1"] total) parts totals ∧ totals.sum = 2 ^ 53 - 2 := by
  intro q rows parts
  have accepted : ofValue q.toValue = .ok q := by decide +kernel
  have perm : rows.Perm parts.flatten := by decide +kernel
  have small : Binary64.Small (q.terms "v" rows ["1"]) := ⟨by decide +kernel, by decide +kernel⟩
  have smallParts : ∀ part ∈ parts, Binary64.Small (q.terms "v" part ["1"]) := by
    have integral : ∀ part ∈ parts, ∀ x ∈ q.terms "v" part ["1"], x.isIntegral := by decide +kernel
    have bound : ∀ part ∈ parts,
        ((Binary64.integers (q.terms "v" part ["1"])).map abs).sum ≤ 2 ^ 53 := by
      decide +kernel
    exact fun part hpart => ⟨integral part hpart, bound part hpart⟩
  have total : (Binary64.integers (q.terms "v" rows ["1"])).sum = 2 ^ 53 - 2 := by decide +kernel
  obtain ⟨y, result, yAxis, computed, shows⟩ := evaluate_integer_sums accepted rfl perm .null
  cases yAxis
  obtain ⟨whole, shares⟩ := shows ["1"]
  rw [total] at whole shares
  exact ⟨accepted, rfl, perm, small, smallParts, result, computed, whole small, shares smallParts⟩

end Query

end Tabulate
