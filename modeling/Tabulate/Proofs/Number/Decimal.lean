import Tabulate.Number.Shortest

/-!
# The value of a decimal

The binary number nearest to a decimal depends on the decimal's value alone: not on how many zeros
are counted among its digits, and not on the shortcuts taken for decimals that are very large or
very small. The shortest decimal of a number reads back as the number.
-/

namespace Tabulate

/-! ### Rounding by value -/

theorem nearestEven_mul_mul (num den : Nat) {k : Nat} (positive : 0 < k) :
    nearestEven (num * k) (den * k) = nearestEven num den := by
  have whole : num * k / (den * k) = num / den := Nat.mul_div_mul_right num den positive
  have part : num * k % (den * k) = num % den * k := Nat.mul_mod_mul_right k num den
  have below : 2 * (num % den * k) < den * k ↔ 2 * (num % den) < den := by
    rw [← Nat.mul_assoc]
    exact Nat.mul_lt_mul_right positive
  have above : den * k < 2 * (num % den * k) ↔ den < 2 * (num % den) := by
    rw [← Nat.mul_assoc]
    exact Nat.mul_lt_mul_right positive
  simp only [nearestEven, whole, part, below, above]

theorem roundSignificand_mul_mul (num den : Nat) {k : Nat} (positive : 0 < k) :
    roundSignificand (num * k) (den * k) = roundSignificand num den := by
  have whole : num * k / (den * k) = num / den := Nat.mul_div_mul_right num den positive
  have scaled (scale : Nat) : den * k * scale = den * scale * k := Nat.mul_right_comm den k scale
  simp only [roundSignificand, whole, scaled, nearestEven_mul_mul _ _ positive]

/-- Equal quotients are rounded to the same number. -/
theorem roundSignificand_congr {num den num' den' : Nat} (positive : 0 < den) (positive' : 0 < den')
    (equal : num * den' = num' * den) : roundSignificand num den = roundSignificand num' den' := by
  rw [← roundSignificand_mul_mul num den positive', equal, Nat.mul_comm den den',
    roundSignificand_mul_mul num' den' positive]

/-- A quotient below one half is rounded to zero. -/
theorem roundSignificand_eq_zero {num den : Nat} (small : 2 * num < den) :
    roundSignificand num den = 0 := by
  have whole : num / den = 0 := Nat.div_eq_of_lt (by omega)
  have part : num % den = num := Nat.mod_eq_of_lt (by omega)
  have places : excessPlaces 0 = 0 := rfl
  simp [roundSignificand, whole, places, nearestEven, part, small]

/-- Rounding does not go below a power of two with more than fifty-three places that the quotient
reaches. -/
theorem two_pow_le_roundSignificand {num den n : Nat} (places : 52 ≤ n) (positive : 0 < den)
    (large : 2 ^ n * den ≤ num) : 2 ^ n ≤ roundSignificand num den := by
  have whole : 2 ^ n ≤ num / den := (Nat.le_div_iff_mul_le positive).2 large
  have nonzero : num / den ≠ 0 := Nat.ne_of_gt (Nat.lt_of_lt_of_le (Nat.two_pow_pos n) whole)
  have log : n ≤ (num / den).log2 := (Nat.le_log2 nonzero).2 whole
  have power : 2 ^ (num / den).log2 ≤ num / den := Nat.log2_self_le nonzero
  have kept : 2 ^ 52 ≤ num / (den * 2 ^ excessPlaces (num / den)) := by
    rw [← Nat.div_div_eq_div_mul, Nat.le_div_iff_mul_le (Nat.two_pow_pos _), ← Nat.pow_add]
    refine Nat.le_trans (Nat.pow_le_pow_right (by decide) ?_) power
    unfold excessPlaces
    omega
  have rounded : 2 ^ 52 ≤ nearestEven num (den * 2 ^ excessPlaces (num / den)) := by
    rcases nearestEven_eq_or num (den * 2 ^ excessPlaces (num / den)) with h | h <;> omega
  calc 2 ^ n ≤ 2 ^ (52 + excessPlaces (num / den)) :=
        Nat.pow_le_pow_right (by decide) (by unfold excessPlaces; omega)
    _ = 2 ^ 52 * 2 ^ excessPlaces (num / den) := Nat.pow_add 2 52 _
    _ ≤ roundSignificand num den := Nat.mul_le_mul_right _ rounded

theorem overflowUnits_le_roundSignificand {num den : Nat} (positive : 0 < den)
    (large : overflowUnits * den ≤ num) : overflowUnits ≤ roundSignificand num den := by
  unfold overflowUnits at large ⊢
  exact two_pow_le_roundSignificand (n := 2098) (by decide) positive large

namespace Binary64

theorem round_congr (negative : Bool) {num den num' den' : Nat}
    (equal : roundSignificand num den = roundSignificand num' den') :
    round negative num den = round negative num' den' := by
  simp only [round, equal]

/-- With the other sign a quotient is rounded to the number with the other sign. -/
theorem round_not (negative : Bool) (num den : Nat) :
    round (!negative) num den = (round negative num den).neg := by
  unfold round
  split <;> rfl

/-- Rounding with one sign tells how rounding with the other goes. -/
theorem round_congr_sign {negative other : Bool} {num den num' den' : Nat}
    (equal : round negative num den = round negative num' den') :
    round other num den = round other num' den' := by
  by_cases same : other = negative
  · exact same ▸ equal
  · rw [Bool.eq_not.2 same, round_not, round_not, equal]

theorem round_eq_infinite (negative : Bool) {num den : Nat}
    (large : overflowUnits ≤ roundSignificand num den) :
    round negative num den = .infinite negative := by
  rw [round, dif_neg (Nat.not_lt.2 large)]

theorem round_eq_signedZero (negative : Bool) {num den : Nat} (small : 2 * num < den) :
    round negative num den = signedZero negative := by
  have rounded : roundSignificand num den = 0 := roundSignificand_eq_zero small
  simp only [round, rounded, overflowUnits_pos, dite_true, signedZero]

end Binary64

theorem unitsPerOne_pos : 0 < unitsPerOne := by
  unfold unitsPerOne
  apply Nat.pow_pos
  decide

namespace Decimal

theorem two_pow_mul_unitsPerOne (n : Nat) : 2 ^ n * unitsPerOne = 2 ^ (n + 1074) := by
  rw [Nat.pow_add]
  rfl

theorem eight_pow_le_ten_pow (n : Nat) : 2 ^ (3 * n) ≤ 10 ^ n := by
  rw [Nat.pow_mul]
  exact Nat.pow_le_pow_left (by decide) n

/-- Numbers of `10 ^ 400` and more are too large. -/
theorem overflowUnits_le {digits n : Nat} (nonzero : digits ≠ 0) (large : 400 ≤ n) :
    overflowUnits ≤ digits * 10 ^ n * unitsPerOne :=
  calc overflowUnits ≤ 2 ^ (3 * n + 1074) := by
        unfold overflowUnits
        exact Nat.pow_le_pow_right (i := 2098) (j := 3 * n + 1074) (by decide) (by omega)
    _ = 2 ^ (3 * n) * unitsPerOne := (two_pow_mul_unitsPerOne _).symm
    _ ≤ digits * 10 ^ n * unitsPerOne := by
      refine Nat.mul_le_mul_right _ (Nat.le_trans (eight_pow_le_ten_pow n) ?_)
      exact Nat.le_mul_of_pos_left _ (Nat.pos_of_ne_zero nonzero)

/-- Numbers below `2 ^ -1199` are nearer to zero than to one unit. -/
theorem two_mul_units_lt {digits n : Nat} (small : digits.log2 + 1200 < 3 * n) :
    2 * (digits * unitsPerOne) < 10 ^ n := by
  have bound : digits * unitsPerOne ≤ 2 ^ (digits.log2 + 1 + 1074) := by
    rw [← two_pow_mul_unitsPerOne]
    exact Nat.mul_le_mul_right _ (Nat.le_of_lt Nat.lt_log2_self)
  calc 2 * (digits * unitsPerOne) ≤ 2 * 2 ^ (digits.log2 + 1 + 1074) := Nat.mul_le_mul_left _ bound
    _ = 2 ^ (digits.log2 + 1 + 1074 + 1) := (Nat.pow_succ' ..).symm
    _ < 2 ^ (3 * n) := Nat.pow_lt_pow_right (by decide) (by omega)
    _ ≤ 10 ^ n := eight_pow_le_ten_pow n

/-- The shortcuts for zero, for very large and for very small decimals agree with rounding. -/
theorem toBinary64_eq_round (negative : Bool) (d : Decimal) :
    d.toBinary64 negative =
      .round negative (d.digits * 10 ^ d.exponent.toNat * unitsPerOne)
        (10 ^ (-d.exponent).toNat) := by
  have denominator : 0 < 10 ^ (-d.exponent).toNat := Nat.pow_pos (by decide)
  unfold toBinary64
  split
  · rename_i zero
    rw [zero, Nat.zero_mul, Nat.zero_mul]
    exact (Binary64.round_eq_signedZero negative denominator).symm
  rename_i nonzero
  split
  · rename_i large
    have whole : (-d.exponent).toNat = 0 := by omega
    refine (Binary64.round_eq_infinite negative
      (overflowUnits_le_roundSignificand denominator ?_)).symm
    rw [whole, Nat.pow_zero, Nat.mul_one]
    exact overflowUnits_le nonzero (by omega)
  split
  · rename_i small
    have whole : d.exponent.toNat = 0 := by omega
    refine (Binary64.round_eq_signedZero negative ?_).symm
    rw [whole, Nat.pow_zero, Nat.mul_one]
    exact two_mul_units_lt small
  · rfl

theorem toBinary64_not (negative : Bool) (d : Decimal) :
    d.toBinary64 (!negative) = (d.toBinary64 negative).neg := by
  rw [toBinary64_eq_round, toBinary64_eq_round, Binary64.round_not]

/-- Tens may be counted among the digits or in the exponent, in front of the point or behind it. -/
theorem ten_pow_shift (exponent : Int) (k : Nat) :
    10 ^ k * 10 ^ (exponent - k).toNat * 10 ^ (-exponent).toNat =
      10 ^ exponent.toNat * 10 ^ (-(exponent - k)).toNat := by
  rw [← Nat.pow_add, ← Nat.pow_add, ← Nat.pow_add]
  congr 1
  omega

/-- Zeros may be counted among the digits or in the exponent. -/
theorem toBinary64_mul_ten_pow (negative : Bool) (d : Decimal) (k : Nat) :
    toBinary64 negative ⟨d.digits * 10 ^ k, d.exponent - k⟩ = d.toBinary64 negative := by
  obtain ⟨digits, exponent⟩ := d
  rw [toBinary64_eq_round, toBinary64_eq_round]
  refine Binary64.round_congr negative
    (roundSignificand_congr (Nat.pow_pos (by decide)) (Nat.pow_pos (by decide)) ?_)
  calc digits * 10 ^ k * 10 ^ (exponent - k).toNat * unitsPerOne * 10 ^ (-exponent).toNat
      = digits * (10 ^ k * 10 ^ (exponent - k).toNat * 10 ^ (-exponent).toNat) * unitsPerOne := by
        simp only [Nat.mul_assoc, Nat.mul_left_comm, Nat.mul_comm]
    _ = digits * 10 ^ exponent.toNat * unitsPerOne * 10 ^ (-(exponent - k)).toNat := by
        rw [ten_pow_shift]
        simp only [Nat.mul_assoc, Nat.mul_left_comm, Nat.mul_comm]

/-! ### The shortest decimal -/

theorem reads_iff {units : Nat} {d : Decimal} :
    reads units d ↔ d.toBinary64 false = .round false units 1 := by
  simp [reads]

/-- A number of units is its fives over as many tens as one has halves. -/
theorem toBinary64_fives (units : Nat) {n : Nat} (halves : unitsPerOne = 2 ^ n) :
    toBinary64 false ⟨units * 5 ^ n, -n⟩ = .round false units 1 := by
  rw [toBinary64_eq_round]
  refine Binary64.round_congr false
    (roundSignificand_congr (Nat.pow_pos (by decide)) (by decide) ?_)
  have whole : (-(n : Int)).toNat = 0 := by omega
  have part : (-(-(n : Int))).toNat = n := by omega
  have tens : 5 ^ n * 2 ^ n = 10 ^ n := by rw [← Nat.mul_pow]
  simp only [whole, part, halves, Nat.pow_zero, Nat.mul_one, Nat.mul_assoc, tens]

/-- All digits of a number read back as the number. -/
theorem reads_exactly (units : Nat) : reads units (exactly units) :=
  reads_iff.2 (toBinary64_fives units unitsPerOne.eq_def)

/-- The shortest decimal of a number reads back as the number. -/
theorem reads_shortest (units : Nat) : reads units (shortest units) := by
  unfold shortest
  cases found : (List.range 17).findSome? fun i => nearest? units (i + 1) with
  | none => exact reads_exactly units
  | some d =>
    obtain ⟨i, -, nearest⟩ := List.exists_of_findSome?_eq_some found
    exact reads_of_choose nearest

/-- With its sign in front the shortest decimal of a finite number reads back as that number. -/
theorem toBinary64_shortest (negative : Bool) {units : Nat} (representable : Representable units) :
    (shortest units).toBinary64 negative = .finite negative units representable := by
  have unsigned := reads_iff.1 (reads_shortest units)
  rw [toBinary64_eq_round] at unsigned
  rw [toBinary64_eq_round, Binary64.round_congr_sign unsigned]
  exact Binary64.round_of_representable negative representable

end Decimal

end Tabulate
