import Mathlib.Algebra.Order.Field.Rat
import Mathlib.Algebra.Order.Ring.Abs
import Mathlib.Data.Nat.Cast.Order.Field
import Mathlib.Tactic.FieldSimp
import Mathlib.Tactic.Linarith
import Mathlib.Tactic.Ring
import Tabulate.Proofs.Number.Decimal
import Tabulate.Proofs.Number.Error

/-!
# Rounding to the nearest number

Of the numbers with at most fifty-three binary places the rounded one is nearest to the exact one,
and of two that are as near it is the one whose last place is zero. No other number is both, so this
says what rounding is.
-/

namespace Tabulate

/-! ### Multiples -/

section Multiples

/-- Two multiples are at least one step apart, by way of any number. -/
theorem le_abs_add_abs (num den : Nat) {j k : Nat} (other : j ≠ k) :
    (den : Int) ≤ |(j * den : Int) - num| + |(k * den : Int) - num| := by
  have apart : (1 : Int) ≤ |(j : Int) - k| :=
    Int.one_le_abs (sub_ne_zero.2 (by exact_mod_cast other))
  calc (den : Int) ≤ |(j : Int) - k| * den := le_mul_of_one_le_left (Int.natCast_nonneg den) apart
    _ = |(j * den : Int) - k * den| := by rw [← Int.sub_mul, abs_mul, Nat.abs_cast]
    _ ≤ |(j * den : Int) - num| + |(k * den : Int) - num| := by
      rw [abs_sub_comm (k * den : Int)]
      exact abs_sub_le _ _ _

variable (num : Nat) {den : Nat} (positive : 0 < den)
include positive

/-- No natural number is nearer to a quotient than the one that it is rounded to. -/
theorem nearestEven_nearest (j : Nat) :
    |(nearestEven num den * den : Int) - num| ≤ |(j * den : Int) - num| := by
  by_cases same : j = nearestEven num den
  · rw [same]
  · have error := nearestEven_error num positive
    have apart := le_abs_add_abs num den same
    omega

/-- If another natural number is as near, the one that the quotient is rounded to is even. -/
theorem even_nearestEven {j : Nat} (other : j ≠ nearestEven num den)
    (tie : |(j * den : Int) - num| = |(nearestEven num den * den : Int) - num|) :
    2 ∣ nearestEven num den := by
  have error := nearestEven_error num positive
  have apart := le_abs_add_abs num den other
  have step : 2 * |(nearestEven num den * den : Int) - num| = den := by omega
  have split : (num / den * den + num % den : Int) = num := by
    exact_mod_cast Nat.div_add_mod' num den
  have bound : num % den < den := Nat.mod_lt num positive
  -- the quotient lies half way between the multiples below and above it
  have half : 2 * (num % den) = den := by
    rcases nearestEven_eq_or num den with down | up
    · rw [down, Int.natCast_ediv, abs_of_nonpos (by omega)] at step
      omega
    · rw [up, Int.natCast_succ, Int.natCast_ediv, Int.add_mul, Int.one_mul,
        abs_of_nonneg (by omega)] at step
      omega
  unfold nearestEven
  rw [if_neg (by omega), if_neg (by omega)]
  omega

end Multiples

/-! ### Binary places -/

/-- `n` is the number with at most fifty-three binary places that `u` is rounded to: none is nearer,
and if another one is as near, the last place of `n` is zero. -/
structure IsRounding (u : ℚ) (n : Nat) : Prop where
  fits : FitsSignificand n
  nearest : ∀ m : Nat, FitsSignificand m → |(n : ℚ) - u| ≤ |(m : ℚ) - u|
  even : ∀ m : Nat, FitsSignificand m → m ≠ n → |(m : ℚ) - u| = |(n : ℚ) - u| →
    2 ^ (excessPlaces n + 1) ∣ n

theorem lt_two_pow_excessPlaces (n : Nat) : n < 2 ^ (53 + excessPlaces n) := by
  refine Nat.lt_of_lt_of_le Nat.lt_log2_self (Nat.pow_le_pow_right (by decide) ?_)
  unfold excessPlaces
  omega

/-- A power of two with fifty-three places or more that a number reaches tells how many of its
places are in excess. -/
theorem le_excessPlaces {n e : Nat} (large : 2 ^ (52 + e) ≤ n) : e ≤ excessPlaces n := by
  have nonzero : n ≠ 0 := Nat.ne_of_gt (Nat.lt_of_lt_of_le (Nat.two_pow_pos _) large)
  have log := (Nat.le_log2 nonzero).2 large
  unfold excessPlaces
  omega

theorem excessPlaces_le {n e : Nat} (small : n < 2 ^ (53 + e)) : excessPlaces n ≤ e := by
  by_cases zero : n = 0
  · simp [zero, excessPlaces]
  · have log := (Nat.log2_lt zero).2 small
    unfold excessPlaces
    omega

/-- A number that fits is a multiple of the step at `q`, or it is so small that such a multiple lies
between. -/
theorem FitsSignificand.dvd_or_lt {m : Nat} (fits : FitsSignificand m) (q : Nat) :
    2 ^ excessPlaces q ∣ m ∨
      (m < 2 ^ 52 * 2 ^ excessPlaces q ∧ 2 ^ 52 * 2 ^ excessPlaces q ≤ q) := by
  rw [← Nat.pow_add]
  by_cases large : 2 ^ (52 + excessPlaces q) ≤ m
  · exact .inl (Nat.dvd_trans (Nat.pow_dvd_pow 2 (le_excessPlaces large)) fits)
  by_cases none : excessPlaces q = 0
  · exact .inl (by simp [none])
  · have log : q.log2 = 52 + excessPlaces q := by
      unfold excessPlaces at none ⊢
      omega
    have nonzero : q ≠ 0 := by
      rintro rfl
      exact none rfl
    refine .inr ⟨Nat.lt_of_not_le large, ?_⟩
    rw [← log]
    exact Nat.log2_self_le nonzero

/-- The last place of an even number of steps is zero. -/
theorem two_pow_dvd_of_even {k e : Nat} (short : k ≤ 2 ^ 53) (even : 2 ∣ k) :
    2 ^ (excessPlaces (k * 2 ^ e) + 1) ∣ k * 2 ^ e := by
  rcases Nat.lt_or_eq_of_le short with less | rfl
  · have places : excessPlaces (k * 2 ^ e) ≤ e := by
      apply excessPlaces_le
      rw [Nat.pow_add]
      exact Nat.mul_lt_mul_of_pos_right less (Nat.two_pow_pos e)
    have steps : 2 ^ (e + 1) ∣ k * 2 ^ e := by
      rw [Nat.pow_succ']
      exact Nat.mul_dvd_mul_right even _
    exact Nat.dvd_trans (Nat.pow_dvd_pow 2 (Nat.succ_le_succ places)) steps
  · rw [← Nat.pow_add, excessPlaces, Nat.log2_two_pow]
    exact Nat.pow_dvd_pow 2 (by omega)

/-! ### The rounding of a quotient -/

theorem abs_sub_lt {a b u : ℚ} (less : a < b) (below : b ≤ u) : |b - u| < |a - u| := by
  rw [abs_of_nonpos (by linarith), abs_of_neg (by linarith)]
  linarith

section Quotients

variable (num : Nat) {den : Nat} (positive : 0 < den)
include positive

theorem abs_sub_quotient (j step : Nat) :
    |((j * step : Nat) : ℚ) - num / den| =
      (|(j * (den * step : Nat) : Int) - num| : Int) / (den : ℚ) := by
  have nonneg : (0 : ℚ) < den := by exact_mod_cast positive
  rw [eq_div_iff nonneg.ne', ← abs_of_pos nonneg, ← abs_mul, abs_of_pos nonneg]
  push_cast
  congr 1
  field_simp

/-- Of the multiples of a step none is nearer than the one that a quotient is rounded to. -/
theorem nearest_multiple (step : Nat) (stepPositive : 0 < step) (j : Nat) :
    |((nearestEven num (den * step) * step : Nat) : ℚ) - num / den| ≤
      |((j * step : Nat) : ℚ) - num / den| := by
  have nearest := nearestEven_nearest num (Nat.mul_pos positive stepPositive) j
  rw [abs_sub_quotient num positive, abs_sub_quotient num positive]
  exact div_le_div_of_nonneg_right (by exact_mod_cast nearest) (Nat.cast_nonneg den)

/-- Rounding to fifty-three places goes to the nearest number that has no more, and to the even one
of two. -/
theorem isRounding_roundSignificand : IsRounding (num / den) (roundSignificand num den) := by
  let step := 2 ^ excessPlaces (num / den)
  have stepPositive : 0 < step := Nat.two_pow_pos _
  have nearest := nearest_multiple num positive step stepPositive
  -- a number that fits is a multiple of the step, or one of the multiples is nearer
  have multiple (m : Nat) (fits : FitsSignificand m) : (∃ j, m = j * step) ∨
      ∃ j : Nat, |((j * step : Nat) : ℚ) - num / den| < |(m : ℚ) - num / den| := by
    rcases fits.dvd_or_lt (num / den) with ⟨j, rfl⟩ | ⟨below, reached⟩
    · exact .inl ⟨j, Nat.mul_comm _ _⟩
    · refine .inr ⟨2 ^ 52, abs_sub_lt (Nat.cast_lt.2 below) ?_⟩
      exact le_trans (Nat.cast_le.2 reached) Nat.cast_div_le
  constructor
  · exact fitsSignificand_roundSignificand num den
  · intro m fits
    rcases multiple m fits with ⟨j, rfl⟩ | ⟨j, nearer⟩
    · exact nearest j
    · exact le_trans (nearest j) nearer.le
  · intro m fits other tie
    rcases multiple m fits with ⟨j, rfl⟩ | ⟨j, nearer⟩
    · refine two_pow_dvd_of_even (nearestEven_steps_le num den)
        (even_nearestEven num (Nat.mul_pos positive stepPositive) (j := j) ?_ ?_)
      · rintro rfl
        exact other rfl
      · have nonzero : (den : ℚ) ≠ 0 := Nat.cast_ne_zero.2 positive.ne'
        have rounded : roundSignificand num den = nearestEven num (den * step) * step := rfl
        rw [rounded, abs_sub_quotient num positive, abs_sub_quotient num positive] at tie
        exact_mod_cast (div_left_inj' nonzero).1 tie
    · exact absurd (nearest j) (not_le.2 (tie ▸ nearer))

end Quotients

/-! ### Only one number is nearest -/

/-- Between two numbers whose last places are zero there is another number. -/
theorem exists_between_of_even {m n : Nat} (less : m < n) (hm : 2 ^ (excessPlaces m + 1) ∣ m)
    (hn : 2 ^ (excessPlaces n + 1) ∣ n) : ∃ k, FitsSignificand k ∧ m < k ∧ k < n := by
  have mono : excessPlaces m ≤ excessPlaces n :=
    excessPlaces_le (less.trans (lt_two_pow_excessPlaces n))
  have hn : 2 ^ (excessPlaces m + 1) ∣ n := Nat.dvd_trans (Nat.pow_dvd_pow 2 (by omega)) hn
  have gap : 2 ^ (excessPlaces m + 1) ≤ n - m := Nat.le_of_dvd (by omega) (Nat.dvd_sub hn hm)
  have bound := lt_two_pow_excessPlaces m
  rw [Nat.pow_succ] at hm gap
  rw [Nat.pow_add] at bound
  have step : 0 < 2 ^ excessPlaces m := Nat.two_pow_pos _
  refine ⟨m + 2 ^ excessPlaces m, ?_, by omega, by omega⟩
  obtain ⟨i, hi⟩ := hm
  have next : m + 2 ^ excessPlaces m = (2 * i + 1) * 2 ^ excessPlaces m := by
    rw [Nat.succ_mul, Nat.mul_right_comm, Nat.mul_comm 2, ← hi]
  have few : 2 * i < 2 ^ 53 := by
    refine Nat.lt_of_mul_lt_mul_right (a := 2 ^ excessPlaces m) ?_
    rwa [Nat.mul_right_comm, Nat.mul_comm 2, ← hi]
  rw [next]
  exact fitsSignificand_mul_two_pow few _

/-- A number is rounded to one number only. -/
theorem IsRounding.unique {u : ℚ} {m n : Nat} (hm : IsRounding u m) (hn : IsRounding u n) :
    m = n := by
  have near : |(m : ℚ) - u| = |(n : ℚ) - u| :=
    le_antisymm (hm.nearest n hn.fits) (hn.nearest m hm.fits)
  by_contra other
  wlog less : m < n generalizing m n
  · exact this hn hm near.symm (Ne.symm other) (by omega)
  -- both are even and as near, so a number between them would be nearer
  obtain ⟨k, fits, above, below⟩ :=
    exists_between_of_even less (hm.even n hn.fits (Ne.symm other) near.symm)
      (hn.even m hm.fits other near)
  have above : (m : ℚ) < k := Nat.cast_lt.2 above
  have below : (k : ℚ) < n := Nat.cast_lt.2 below
  have middle : u - m = n - u := by
    rcases abs_eq_abs.1 near with same | opposite <;> linarith
  have nearer : |(k : ℚ) - u| < |(m : ℚ) - u| := by
    rw [abs_of_neg (a := (m : ℚ) - u) (by linarith), abs_lt]
    constructor <;> linarith
  exact absurd (hm.nearest k fits) (not_le.2 nearer)

namespace Binary64

/-- `x` is the finite number that a magnitude with a sign is rounded to. A magnitude that is rounded
to the overflow bound or beyond has none. -/
def IsNearest (x : Binary64) (negative : Bool) (magnitude : ℚ) : Prop :=
  ∃ n, ∃ representable : Representable n,
    x = .finite negative n representable ∧ IsRounding (magnitude * unitsPerOne) n

/-- Rounding a number of units gives the nearest number, if it gives a finite one. -/
theorem isNearest_iff_round {negative : Bool} {magnitude : ℚ} {num den : Nat} {x : Binary64}
    (positive : 0 < den) (units : magnitude * unitsPerOne = num / den) :
    x.IsNearest negative magnitude ↔ round negative num den = x ∧ x.isFinite := by
  have rounds : IsRounding (magnitude * unitsPerOne) (roundSignificand num den) :=
    units ▸ isRounding_roundSignificand num positive
  constructor
  · rintro ⟨n, representable, rfl, nearest⟩
    obtain rfl := nearest.unique rounds
    exact ⟨dif_pos representable.2, rfl⟩
  · rintro ⟨rfl, finite⟩
    unfold round at finite ⊢
    split
    · rename_i below
      exact ⟨_, ⟨rounds.fits, below⟩, rfl, rounds⟩
    · rename_i large
      rw [dif_neg large] at finite
      cases finite

end Binary64

namespace Decimal

/-- The value of a decimal. -/
def value (d : Decimal) : ℚ := d.digits * 10 ^ d.exponent

theorem value_mul_unitsPerOne (d : Decimal) :
    d.value * unitsPerOne =
      (d.digits * 10 ^ d.exponent.toNat * unitsPerOne : Nat) /
        (10 ^ (-d.exponent).toNat : Nat) := by
  obtain ⟨digits, exponent⟩ := d
  obtain ⟨n, rfl | rfl⟩ := exponent.eq_nat_or_neg
  · have whole : (-(n : Int)).toNat = 0 := by omega
    simp only [value, whole, Int.toNat_natCast, zpow_natCast, pow_zero, Nat.cast_one, div_one]
    push_cast
    ring
  · have whole : (-(n : Int)).toNat = 0 := by omega
    simp only [value, whole, Int.neg_neg, Int.toNat_natCast, zpow_neg, zpow_natCast, pow_zero,
      mul_one, div_eq_mul_inv]
    push_cast
    ring

/-- The binary number of a decimal is the nearest to its value, if it is finite. -/
theorem isNearest_iff_toBinary64 {negative : Bool} {d : Decimal} {x : Binary64} :
    x.IsNearest negative d.value ↔ d.toBinary64 negative = x ∧ x.isFinite := by
  rw [toBinary64_eq_round]
  exact Binary64.isNearest_iff_round (Nat.pow_pos (by decide)) d.value_mul_unitsPerOne

end Decimal

end Tabulate
