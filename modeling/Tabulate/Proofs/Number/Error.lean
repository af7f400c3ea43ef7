import Mathlib.Tactic.Linarith
import Tabulate.Number.Binary64
import Tabulate.Proofs.Figure

/-!
# Rounding errors

Sums and differences of finite numbers are rounded once. As long as they stay below the overflow
bound they are finite and differ from the exact value by at most one part in `2 ^ 53` of it; and
they are exact when no more than fifty-three binary places are needed.
-/

namespace Tabulate

/-! ### Whole numbers -/

/-- Rounding goes no further than half way to the next natural number. -/
theorem nearestEven_error (num : Nat) {den : Nat} (positive : 0 < den) :
    2 * |(nearestEven num den * den : Int) - num| ≤ den := by
  have split : (num / den * den + num % den : Int) = num := by
    exact_mod_cast Nat.div_add_mod' num den
  have bound : (num % den : Int) < den := by exact_mod_cast Nat.mod_lt num positive
  have nonneg : (0 : Int) ≤ num % den := by exact_mod_cast Nat.zero_le _
  have down : (num / den * den : Int) - num = -(num % den) := by omega
  have up : ((num / den + 1) * den : Int) - num = den - num % den := by
    rw [Int.add_mul, Int.one_mul]
    omega
  have tie : num / den % 2 = 0 ∨ num / den % 2 = 1 := by omega
  unfold nearestEven
  rcases lt_trichotomy (2 * (num % den)) den with less | half | more
  · rw [if_pos less]
    push_cast
    rw [down, abs_neg, abs_of_nonneg nonneg]
    exact_mod_cast less.le
  · rw [if_neg (by omega), if_neg (by omega)]
    rcases tie with even | odd
    · rw [even, Nat.add_zero]
      push_cast
      rw [down, abs_neg, abs_of_nonneg nonneg]
      exact_mod_cast half.le
    · rw [odd]
      push_cast
      rw [up, abs_of_nonneg (by omega)]
      omega
  · rw [if_neg (by omega), if_pos more]
    push_cast
    rw [up, abs_of_nonneg (by omega)]
    omega

/-- Rounding to fifty-three binary places moves a number by at most one part in `2 ^ 53`. -/
theorem roundSignificand_error (n : Nat) : 2 ^ 53 * |(roundSignificand n 1 : Int) - n| ≤ n := by
  by_cases short : n.log2 ≤ 52
  · have fits : FitsSignificand n := by
      simp [FitsSignificand, excessPlaces, Nat.sub_eq_zero_of_le short]
    have exact_ : roundSignificand n 1 = n := by
      simpa using roundSignificand_of_fits fits Nat.one_pos
    simp [exact_]
  · have nonzero : n ≠ 0 := by
      rintro rfl
      exact short (by decide)
    have error := nearestEven_error n (Nat.two_pow_pos (excessPlaces n))
    have scaled : roundSignificand n 1 =
        nearestEven n (2 ^ excessPlaces n) * 2 ^ excessPlaces n := by
      rw [roundSignificand, Nat.div_one, Nat.one_mul]
    have large : 2 ^ 52 * 2 ^ excessPlaces n ≤ n := by
      rw [← Nat.pow_add, excessPlaces, Nat.add_sub_cancel' (by omega)]
      exact Nat.log2_self_le nonzero
    have large : (2 ^ 52 * (2 ^ excessPlaces n : Nat) : Int) ≤ n := by exact_mod_cast large
    rw [scaled]
    push_cast at error large ⊢
    omega

namespace Binary64

/-! ### Operations that round -/

/-- A number of units that is still below the overflow bound when it is rounded. -/
def InRange (units : Int) : Prop := (2 ^ 53 + 1) * |units| < 2 ^ 53 * overflowUnits

/-- `x` is finite, and is `units` but for an error of rounding. -/
structure Rounds (x : Binary64) (units : Int) : Prop where
  finite : x.isFinite
  error : 2 ^ 53 * |x.place - units| ≤ |units|

/-- `x` is finite and is `units`. -/
structure Exactly (x : Binary64) (units : Int) : Prop where
  finite : x.isFinite
  place : x.place = units

theorem abs_withSign (negative : Bool) (n : Nat) : |withSign negative n| = n := by
  cases negative <;> simp [withSign]

theorem withSign_not (negative : Bool) (n : Nat) :
    withSign (!negative) n = -withSign negative n := by
  cases negative <;> simp [withSign]

theorem withSign_sub (negative : Bool) (m n : Nat) :
    |withSign negative m - withSign negative n| = |(m : Int) - n| := by
  cases negative with
  | false => rfl
  | true =>
    rw [← abs_neg ((m : Int) - n)]
    congr 1
    simp only [withSign, if_true]
    omega

/-- What is still finite after it has been rounded has only the error of rounding. -/
theorem round_rounds_of_isFinite {negative : Bool} {n : Nat}
    (finite : (round negative n 1).isFinite) :
    (round negative n 1).Rounds (withSign negative n) := by
  have below : roundSignificand n 1 < overflowUnits := by
    by_contra large
    rw [round, dif_neg large] at finite
    cases finite
  rw [round, dif_pos below]
  refine ⟨rfl, ?_⟩
  rw [abs_withSign]
  exact (congrArg (2 ^ 53 * ·) (withSign_sub negative _ n)).trans_le (roundSignificand_error n)

theorem round_rounds {negative : Bool} {n : Nat} (range : InRange (withSign negative n)) :
    (round negative n 1).Rounds (withSign negative n) := by
  have error := roundSignificand_error n
  have below : roundSignificand n 1 < overflowUnits := by
    unfold InRange at range
    rw [abs_withSign] at range
    have upper := le_abs_self ((roundSignificand n 1 : Int) - n)
    have : (roundSignificand n 1 : Int) < overflowUnits := by linarith
    exact_mod_cast this
  refine round_rounds_of_isFinite ?_
  rw [round, dif_pos below]
  rfl

theorem round_exactly {negative : Bool} {n : Nat} (representable : Representable n) :
    (round negative n 1).Exactly (withSign negative n) := by
  rw [round_of_representable negative representable]
  exact ⟨rfl, rfl⟩

/-- A sum is the rounding of the exact sum, whose sign it has. -/
theorem add_eq_round {x y : Binary64} (hx : x.isFinite) (hy : y.isFinite) :
    ∃ negative n, x.add y = round negative n 1 ∧ withSign negative n = x.place + y.place := by
  cases x with
  | nan => cases hx
  | infinite => cases hx
  | finite n a ha =>
    cases y with
    | nan => cases hy
    | infinite => cases hy
    | finite m b hb =>
      refine ⟨_, _, rfl, ?_⟩
      show withSign _ (withSign n a + withSign m b).natAbs = withSign n a + withSign m b
      generalize withSign n a + withSign m b = total
      by_cases zero : total = 0
      · simp [zero, withSign]
      · simp only [zero, if_false, withSign, decide_eq_true_eq]
        split <;> omega

theorem isFinite_neg (x : Binary64) : x.neg.isFinite = x.isFinite := by
  cases x <;> rfl

theorem place_neg (x : Binary64) : x.neg.place = -x.place := by
  cases x with
  | nan => rfl
  | infinite negative => exact withSign_not negative overflowUnits
  | finite negative units representable => exact withSign_not negative units

/-! #### Results that are finite -/

section Finite

variable {x y : Binary64}

theorem isFinite_of_add (h : (x.add y).isFinite) : x.isFinite ∧ y.isFinite := by
  cases x with
  | nan => cases h
  | infinite n =>
    cases y with
    | nan => cases h
    | infinite m =>
      rw [add] at h
      split at h <;> cases h
    | finite => cases h
  | finite =>
    cases y with
    | nan => cases h
    | infinite => cases h
    | finite => exact ⟨rfl, rfl⟩

theorem isFinite_of_sub (h : (x.sub y).isFinite) : x.isFinite ∧ y.isFinite := by
  obtain ⟨hx, hy⟩ := isFinite_of_add h
  exact ⟨hx, (isFinite_neg y).symm.trans hy⟩

theorem add_rounds_of_isFinite (h : (x.add y).isFinite) : (x.add y).Rounds (x.place + y.place) := by
  obtain ⟨hx, hy⟩ := isFinite_of_add h
  obtain ⟨negative, n, rounded, value⟩ := add_eq_round hx hy
  rw [rounded] at h ⊢
  rw [← value]
  exact round_rounds_of_isFinite h

theorem sub_rounds_of_isFinite (h : (x.sub y).isFinite) : (x.sub y).Rounds (x.place - y.place) := by
  have rounds := add_rounds_of_isFinite h
  rwa [place_neg, ← Int.sub_eq_add_neg] at rounds

end Finite

/-! #### Results below the overflow bound -/

section Operations

variable {x y : Binary64} (hx : x.isFinite) (hy : y.isFinite)
include hx hy

theorem add_rounds (range : InRange (x.place + y.place)) :
    (x.add y).Rounds (x.place + y.place) := by
  obtain ⟨negative, n, rounded, value⟩ := add_eq_round hx hy
  rw [rounded, ← value]
  exact round_rounds (value ▸ range)

theorem sub_rounds (range : InRange (x.place - y.place)) :
    (x.sub y).Rounds (x.place - y.place) := by
  have difference : x.place + y.neg.place = x.place - y.place := by
    rw [place_neg, Int.sub_eq_add_neg]
  rw [← difference] at range ⊢
  exact add_rounds hx ((isFinite_neg y).trans hy) range

theorem add_exactly {units : Int} (sum : x.place + y.place = units)
    (representable : Representable units.natAbs) : (x.add y).Exactly units := by
  obtain ⟨negative, n, rounded, value⟩ := add_eq_round hx hy
  obtain rfl : withSign negative n = units := value.trans sum
  have magnitude : (withSign negative n).natAbs = n := by cases negative <;> simp [withSign]
  rw [rounded]
  exact round_exactly (magnitude ▸ representable)

theorem sub_exactly {units : Int} (difference : x.place - y.place = units)
    (representable : Representable units.natAbs) : (x.sub y).Exactly units := by
  refine add_exactly hx ((isFinite_neg y).trans hy) ?_ representable
  rw [place_neg, ← Int.sub_eq_add_neg, difference]

end Operations

/-! ### Numbers that are not negative -/

section NonNegative

variable {x y : Binary64}

theorem zero_le_iff : zero.le x ↔ x.isNaN = false ∧ 0 ≤ x.place := by
  cases x with
  | nan => decide
  | infinite n => exact decide_eq_true_iff.trans (and_iff_right rfl).symm
  | finite n a ha => exact decide_eq_true_iff.trans (and_iff_right rfl).symm

theorem eq_false_of_zero_le_infinite {n : Bool} (h : 0 ≤ (infinite n).place) : n = false := by
  have positive := overflowUnits_pos
  cases n with
  | false => rfl
  | true =>
    have place : (infinite true).place = -overflowUnits := rfl
    omega

theorem place_le_overflowUnits (x : Binary64) : x.place ≤ overflowUnits := by
  cases x with
  | nan => exact Int.natCast_nonneg _
  | infinite n => exact (le_abs_self _).trans_eq (abs_withSign n overflowUnits)
  | finite n a ha =>
    calc (finite n a ha).place ≤ a := (le_abs_self _).trans_eq (abs_withSign n a)
      _ ≤ overflowUnits := Int.ofNat_le.2 ha.2.le

/-- Rounding keeps the sign, also when it overflows. -/
theorem zero_le_round {negative : Bool} {n : Nat} (nonneg : 0 ≤ withSign negative n) :
    zero.le (round negative n 1) := by
  cases negative with
  | false =>
    rw [zero_le_iff, round]
    split
    · exact ⟨rfl, Int.natCast_nonneg _⟩
    · exact ⟨rfl, Int.natCast_nonneg _⟩
  | true =>
    obtain rfl : n = 0 := by
      have place : withSign true n = -n := rfl
      omega
    rw [round_of_representable true representable_zero]
    rfl

/-- A sum keeps the sign of the exact sum, also when it overflows. -/
theorem zero_le_add (hx : zero.le x) (number : y.isNaN = false) (low : -overflowUnits < y.place)
    (sum : 0 ≤ x.place + y.place) : zero.le (x.add y) := by
  have infinite_y {m : Bool} (low : -overflowUnits < (infinite m).place) : m = false := by
    cases m with
    | false => rfl
    | true => exact absurd low (lt_irrefl _)
  cases x with
  | nan => cases hx
  | infinite n =>
    obtain rfl := eq_false_of_zero_le_infinite (zero_le_iff.1 hx).2
    cases y with
    | nan => cases number
    | finite => exact hx
    | infinite m =>
      obtain rfl := infinite_y low
      exact hx
  | finite n a ha =>
    cases y with
    | nan => cases number
    | infinite m =>
      obtain rfl := infinite_y low
      exact zero_le_iff.2 ⟨rfl, Int.natCast_nonneg _⟩
    | finite m b hb =>
      obtain ⟨negative, units, rounded, value⟩ :=
        add_eq_round (x := .finite n a ha) (y := .finite m b hb) rfl rfl
      rw [rounded]
      exact zero_le_round (value ▸ sum)

end NonNegative

/-- A multiple of a power of two is representable if it is no more than `2 ^ 53` times that
power. -/
theorem representable_of_dvd {units : Int} {k : Nat} (multiple : (2 ^ k : Int) ∣ units)
    (short : |units| ≤ 2 ^ 53 * 2 ^ k) (below : |units| < overflowUnits) :
    Representable units.natAbs := by
  obtain ⟨m, rfl⟩ := multiple
  have magnitude : (2 ^ k * m).natAbs = m.natAbs * 2 ^ k := by
    rw [Int.natAbs_mul, Int.natAbs_pow, Nat.mul_comm]
    rfl
  rw [Int.abs_eq_natAbs, magnitude] at short below
  rw [magnitude]
  have few : m.natAbs ≤ 2 ^ 53 := by
    refine Nat.le_of_mul_le_mul_right ?_ (Nat.two_pow_pos k)
    exact_mod_cast short
  exact ⟨fitsSignificand_mul_two_pow few k, by exact_mod_cast below⟩

end Binary64

end Tabulate
