import Mathlib.Algebra.Order.BigOperators.Group.List
import Mathlib.Tactic.Ring
import Tabulate.Aggregate
import Tabulate.Proofs.Number.Error

/-!
# Compensated sums

What a compensated sum is worth. The running total less the running excess stays within a few parts
in `2 ^ 53` of the exact sum, however many terms there are, so that the compensated sum of up to
`2 ^ 49` numbers is off by at most one part in `2 ^ 50` of the sum of their sizes. It is exact where
no addition has to be rounded. Where it overflows it is infinite: an excess that is no longer finite
is dropped, so that it cannot turn a later total into no number at all.
-/

namespace Tabulate

namespace Binary64

/-- The sum of the sizes of numbers, in units. -/
def mass (xs : List Binary64) : Int := (xs.map fun x => |x.place|).sum

/-- The exact sum of numbers, in units. -/
def exactSum (xs : List Binary64) : Int := (xs.map place).sum

/-- A sum of sizes so far below the overflow bound that no step of a compensated sum reaches it. -/
def Bounded (mass : Int) : Prop := (2 ^ 50 + 1) * mass < 2 ^ 50 * overflowUnits

theorem mass_cons (x : Binary64) (xs : List Binary64) : mass (x :: xs) = |x.place| + mass xs :=
  List.sum_cons

theorem exactSum_cons (x : Binary64) (xs : List Binary64) :
    exactSum (x :: xs) = x.place + exactSum xs :=
  List.sum_cons

theorem nonneg_of_mem_sizes {xs : List Binary64} {size : Int}
    (h : size ∈ xs.map fun x => |x.place|) : 0 ≤ size := by
  obtain ⟨x, -, rfl⟩ := List.mem_map.1 h
  exact abs_nonneg _

theorem mass_nonneg (xs : List Binary64) : 0 ≤ mass xs :=
  List.sum_nonneg fun _ h => nonneg_of_mem_sizes h

namespace RunningSum

/-- The running sum after `n` terms whose sum is `value` and whose sizes add up to `mass`: the
excess is small, and taking it off the total leaves `value` but for the errors made in the excess
itself. -/
structure Tracks (s : RunningSum) (n : Nat) (value mass : Int) : Prop where
  total : s.total.isFinite
  excess : s.excess.isFinite
  bound : |value| ≤ mass
  small : 2 ^ 53 * |s.excess.place| ≤ 3 * mass
  drift : 2 ^ 106 * |s.total.place - s.excess.place - value| ≤ (2 ^ 54 + 16 * n) * mass

theorem add_eq {s : RunningSum} {x term total difference excess : Binary64}
    (hterm : x.sub s.excess = term) (htotal : s.total.add term = total)
    (hdifference : total.sub s.total = difference) (hexcess : difference.sub term = excess)
    (finite : excess.isFinite) : s.add x = ⟨total, excess⟩ := by
  subst hterm htotal hdifference hexcess
  rw [RunningSum.add, if_pos finite]

theorem Tracks.mass_nonneg {s : RunningSum} {n : Nat} {value mass : Int}
    (h : s.Tracks n value mass) : 0 ≤ mass :=
  (abs_nonneg value).trans h.bound

/-- Up to `2 ^ 49` terms are too few for the second part of the drift to count. -/
theorem Tracks.near {s : RunningSum} {n : Nat} {value mass : Int} (h : s.Tracks n value mass)
    (few : n ≤ 2 ^ 49) : 2 ^ 53 * |s.total.place - s.excess.place - value| ≤ 3 * mass := by
  have drift := h.drift
  have count : n * mass ≤ 2 ^ 49 * mass :=
    Int.mul_le_mul_of_nonneg_right (by exact_mod_cast few) h.mass_nonneg
  linarith

/-- One more term. The errors of the four operations are at most a part in `2 ^ 53` of the
operation's own result, of which only the new total may be as large as all terms together; its error
becomes the new excess. -/
theorem Tracks.add {s : RunningSum} {n : Nat} {value mass : Int} (h : s.Tracks n value mass)
    (few : n ≤ 2 ^ 49) {x : Binary64} (finite : x.isFinite) (bounded : Bounded (mass + |x.place|)) :
    (s.add x).Tracks (n + 1) (value + x.place) (mass + |x.place|) := by
  have mass_nonneg := h.mass_nonneg
  have near := h.near few
  obtain ⟨finiteTotal, finiteExcess, bound, small, drift⟩ := h
  have size_nonneg := abs_nonneg x.place
  have newBound := abs_add_le value x.place
  unfold Bounded at bounded
  -- the term less the excess
  have termSize : |x.place - s.excess.place| ≤ |x.place| + |s.excess.place| := abs_sub _ _
  obtain ⟨finiteTerm, termError⟩ : (x.sub s.excess).Rounds (x.place - s.excess.place) := by
    apply sub_rounds finite finiteExcess
    unfold InRange
    linarith
  generalize hterm : x.sub s.excess = term at finiteTerm termError
  -- the new total
  have totalSize : |s.total.place + term.place| ≤
      |s.total.place - s.excess.place - value| + |value + x.place| +
      |term.place - (x.place - s.excess.place)| := by
    refine le_of_eq_of_le (congrArg _ ?_) (abs_add_three _ _ _)
    ring
  obtain ⟨finiteNew, totalError⟩ : (s.total.add term).Rounds (s.total.place + term.place) := by
    apply add_rounds finiteTotal finiteTerm
    unfold InRange
    linarith
  generalize htotal : s.total.add term = total at finiteNew totalError
  -- what the total has grown by
  have differenceSize : |total.place - s.total.place| ≤
      |total.place - (s.total.place + term.place)| +
      |term.place - (x.place - s.excess.place)| + |x.place - s.excess.place| := by
    refine le_of_eq_of_le (congrArg _ ?_) (abs_add_three _ _ _)
    ring
  obtain ⟨finiteDifference, differenceError⟩ :
      (total.sub s.total).Rounds (total.place - s.total.place) := by
    apply sub_rounds finiteNew finiteTotal
    unfold InRange
    linarith
  generalize hdifference : total.sub s.total = difference at finiteDifference differenceError
  -- the new excess
  have excessSize : |difference.place - term.place| ≤
      |difference.place - (total.place - s.total.place)| +
      |total.place - (s.total.place + term.place)| := by
    refine le_of_eq_of_le (congrArg _ ?_) (abs_add_le _ _)
    ring
  obtain ⟨finiteNewExcess, excessError⟩ :
      (difference.sub term).Rounds (difference.place - term.place) := by
    apply sub_rounds finiteDifference finiteTerm
    unfold InRange
    linarith
  generalize hexcess : difference.sub term = excess at finiteNewExcess excessError
  rw [add_eq hterm htotal hdifference hexcess finiteNewExcess]
  refine ⟨finiteNew, finiteNewExcess, newBound.trans (add_le_add_left bound _), ?_, ?_⟩
  · have newSize := abs_sub_abs_le_abs_sub excess.place (difference.place - term.place)
    linarith
  · have driftSize : |total.place - excess.place - (value + x.place)| ≤
        |s.total.place - s.excess.place - value| + |term.place - (x.place - s.excess.place)| +
          (|difference.place - (total.place - s.total.place)| +
            |excess.place - (difference.place - term.place)|) := by
      refine le_of_eq_of_le (congrArg _ ?_)
        ((abs_sub _ _).trans (add_le_add (abs_add_le _ _) (abs_add_le _ _)))
      ring
    have more : 0 ≤ n * |x.place| := Int.mul_nonneg (Int.natCast_nonneg n) size_nonneg
    push_cast
    linarith

/-- The excess stays small and the drift bounded over up to `2 ^ 49` terms. -/
theorem Tracks.foldl {s : RunningSum} {n : Nat} {value mass : Int} (h : s.Tracks n value mass)
    {xs : List Binary64} (few : n + xs.length ≤ 2 ^ 49) (finite : ∀ x ∈ xs, x.isFinite)
    (bounded : Bounded (mass + Binary64.mass xs)) :
    (xs.foldl RunningSum.add s).Tracks (n + xs.length) (value + exactSum xs)
      (mass + Binary64.mass xs) := by
  induction xs generalizing s n value mass with
  | nil => simpa [exactSum, Binary64.mass] using h
  | cons x xs ih =>
    have rest_nonneg := Binary64.mass_nonneg xs
    rw [List.length_cons] at few ⊢
    rw [mass_cons, ← Int.add_assoc] at bounded ⊢
    rw [exactSum_cons, ← Int.add_assoc, ← Nat.add_assoc, Nat.add_right_comm]
    have head : Bounded (mass + |x.place|) := by
      unfold Bounded at *
      linarith
    exact ih (h.add (by omega) (finite x List.mem_cons_self) head) (by omega)
      (fun y hy => finite y (List.mem_cons_of_mem _ hy)) bounded

end RunningSum

/-- A term of a sum of numbers that are not negative, less the excess: it goes below zero by
little. -/
theorem sub_excess_bounds {x excess : Binary64} (finite : x.isFinite) (nonneg : 0 ≤ x.place)
    (finiteExcess : excess.isFinite) (small : 4 * |excess.place| ≤ overflowUnits) :
    (x.sub excess).isNaN = false ∧ -(2 * |excess.place|) ≤ (x.sub excess).place := by
  have upper := le_abs_self excess.place
  have lower := neg_abs_le excess.place
  have positive := overflowUnits_pos
  by_cases above : 0 ≤ x.place - excess.place
  · have number := isNaN_of_isFinite ((isFinite_neg excess).trans finiteExcess)
    have kept : zero.le (x.sub excess) := by
      refine zero_le_add (zero_le_iff.2 ⟨isNaN_of_isFinite finite, nonneg⟩) number ?_ ?_
      · rw [place_neg]
        omega
      · rw [place_neg]
        omega
    obtain ⟨number, place⟩ := zero_le_iff.1 kept
    exact ⟨number, by omega⟩
  · have size : |x.place - excess.place| ≤ |excess.place| := by
      rw [abs_of_neg (by omega)]
      omega
    obtain ⟨finite', error⟩ : (x.sub excess).Rounds (x.place - excess.place) := by
      apply sub_rounds finite finiteExcess
      unfold InRange
      linarith
    have error_lower := neg_abs_le ((x.sub excess).place - (x.place - excess.place))
    exact ⟨isNaN_of_isFinite finite', by omega⟩

namespace RunningSum

/-- The running sum of numbers that are not negative: it may overflow, but the excess stays small
beside the total. -/
structure NonNegative (s : RunningSum) : Prop where
  total : zero.le s.total
  excess : s.excess.isFinite
  small : 4 * |s.excess.place| ≤ s.total.place

theorem NonNegative.add {s : RunningSum} (h : s.NonNegative) {x : Binary64} (finite : x.isFinite)
    (nonneg : 0 ≤ x.place) : (s.add x).NonNegative := by
  obtain ⟨-, total_nonneg⟩ := zero_le_iff.1 h.total
  have reach := place_le_overflowUnits s.total
  have small := h.small
  have size_nonneg := abs_nonneg s.excess.place
  have positive := overflowUnits_pos
  obtain ⟨number, lower⟩ := sub_excess_bounds finite nonneg h.excess (by omega)
  have total : zero.le (s.total.add (x.sub s.excess)) :=
    zero_le_add h.total number (by omega) (by omega)
  by_cases finiteExcess :
    (((s.total.add (x.sub s.excess)).sub s.total).sub (x.sub s.excess)).isFinite
  · rw [add_eq rfl rfl rfl rfl finiteExcess]
    refine ⟨total, finiteExcess, ?_⟩
    -- a finite excess comes from finite numbers, each of them rounded
    obtain ⟨finiteDifference, finiteTerm⟩ := isFinite_of_sub finiteExcess
    obtain ⟨finiteNew, finiteTotal⟩ := isFinite_of_sub finiteDifference
    have totalError := (add_rounds_of_isFinite finiteNew).error
    have differenceError := (sub_rounds_of_isFinite finiteDifference).error
    have excessError := (sub_rounds_of_isFinite finiteExcess).error
    have new_nonneg := (zero_le_iff.1 total).2
    show 4 * |_| ≤ (s.total.add (x.sub s.excess)).place
    generalize x.sub s.excess = term at *
    generalize s.total.add term = new at *
    generalize new.sub s.total = difference at *
    generalize difference.sub term = excess at *
    have sum : |s.total.place + term.place| = s.total.place + term.place := abs_of_nonneg (by omega)
    have growth : |new.place - s.total.place| ≤ new.place + s.total.place :=
      (abs_sub _ _).trans_eq (by rw [abs_of_nonneg new_nonneg, abs_of_nonneg total_nonneg])
    have shortfall := neg_abs_le (new.place - (s.total.place + term.place))
    have excessSize := abs_sub_abs_le_abs_sub excess.place (difference.place - term.place)
    have differenceSize : |difference.place - term.place| ≤
        |difference.place - (new.place - s.total.place)| +
        |new.place - (s.total.place + term.place)| := by
      refine le_of_eq_of_le (congrArg _ ?_) (abs_add_le _ _)
      ring
    linarith
  · have start : s.add x = ⟨s.total.add (x.sub s.excess), zero⟩ := by
      rw [RunningSum.add, if_neg finiteExcess]
    rw [start]
    exact ⟨total, rfl, (zero_le_iff.1 total).2⟩

theorem NonNegative.foldl {s : RunningSum} (h : s.NonNegative) {xs : List Binary64}
    (finite : ∀ x ∈ xs, x.isFinite) (nonneg : ∀ x ∈ xs, 0 ≤ x.place) :
    (xs.foldl RunningSum.add s).NonNegative := by
  induction xs generalizing s with
  | nil => exact h
  | cons x xs ih =>
    exact ih (h.add (finite x List.mem_cons_self) (nonneg x List.mem_cons_self))
      (fun y hy => finite y (List.mem_cons_of_mem _ hy))
      (fun y hy => nonneg y (List.mem_cons_of_mem _ hy))

end RunningSum

/-- Numbers that are multiples of one power of two, of which there are at most `2 ^ 53` in all of
them together. -/
structure Unrounded (k : Nat) (xs : List Binary64) : Prop where
  multiple : ∀ x ∈ xs, (2 ^ k : Int) ∣ x.place
  short : mass xs ≤ 2 ^ 53 * 2 ^ k
  below : mass xs < overflowUnits

namespace RunningSum

/-- The running sum is `value`, and nothing has been put in too much. -/
structure Is (s : RunningSum) (value : Int) : Prop where
  total : s.total.Exactly value
  excess : s.excess.Exactly 0

theorem Is.add {s : RunningSum} {value : Int} (h : s.Is value) {x : Binary64} (finite : x.isFinite)
    (term : Representable x.place.natAbs) (sum : Representable (value + x.place).natAbs) :
    (s.add x).Is (value + x.place) := by
  obtain ⟨⟨finiteTotal, total⟩, finiteExcess, excess⟩ := h
  obtain ⟨finiteTerm, termPlace⟩ :=
    sub_exactly finite finiteExcess (by rw [excess, Int.sub_zero]) term
  obtain ⟨finiteNew, newPlace⟩ := add_exactly finiteTotal finiteTerm (by rw [total, termPlace]) sum
  obtain ⟨finiteDifference, differencePlace⟩ := sub_exactly finiteNew finiteTotal (by omega) term
  have nothing : Representable (0 : Int).natAbs := representable_zero
  obtain ⟨finiteExcess, excessPlace⟩ := sub_exactly finiteDifference finiteTerm (by omega) nothing
  rw [add_eq rfl rfl rfl rfl finiteExcess]
  exact ⟨⟨finiteNew, newPlace⟩, ⟨finiteExcess, excessPlace⟩⟩

theorem Is.foldl {k : Nat} {s : RunningSum} {value : Int} (h : s.Is value) {xs : List Binary64}
    (multiple : (2 ^ k : Int) ∣ value) (multiples : ∀ x ∈ xs, (2 ^ k : Int) ∣ x.place)
    (short : |value| + mass xs ≤ 2 ^ 53 * 2 ^ k) (below : |value| + mass xs < overflowUnits)
    (finite : ∀ x ∈ xs, x.isFinite) : (xs.foldl RunningSum.add s).Is (value + exactSum xs) := by
  induction xs generalizing s value with
  | nil => simpa [exactSum] using h
  | cons x xs ih =>
    have rest_nonneg := mass_nonneg xs
    have first := multiples x List.mem_cons_self
    have sum := abs_add_le value x.place
    have value_nonneg := abs_nonneg value
    have size_nonneg := abs_nonneg x.place
    rw [mass_cons] at short below
    rw [exactSum_cons, ← Int.add_assoc]
    have term : Representable x.place.natAbs :=
      representable_of_dvd first (by linarith) (by linarith)
    have total : Representable (value + x.place).natAbs :=
      representable_of_dvd (Int.dvd_add multiple first) (by linarith) (by linarith)
    exact ih (h.add (finite x List.mem_cons_self) term total) (Int.dvd_add multiple first)
      (fun y hy => multiples y (List.mem_cons_of_mem _ hy)) (by linarith) (by linarith)
      (fun y hy => finite y (List.mem_cons_of_mem _ hy))

end RunningSum

/-- Where nothing has to be rounded, the compensated sum is the exact sum. -/
theorem Unrounded.sum_exactly {k : Nat} {xs : List Binary64} (h : Unrounded k xs)
    (finite : ∀ x ∈ xs, x.isFinite) : (sum xs).Exactly (exactSum xs) := by
  have start : RunningSum.Is ⟨zero, zero⟩ 0 := ⟨⟨rfl, rfl⟩, ⟨rfl, rfl⟩⟩
  have weight : |(0 : Int)| + mass xs = mass xs := by rw [abs_zero, Int.zero_add]
  have exactly := start.foldl (Int.dvd_zero _) h.multiple (weight.le.trans h.short)
    (weight.trans_lt h.below) finite
  rw [Int.zero_add] at exactly
  exact exactly.total

end Binary64

end Tabulate
