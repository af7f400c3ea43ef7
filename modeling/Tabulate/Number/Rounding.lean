/-!
# Rounding a quotient

The rounding used everywhere in the library: a quotient goes to the nearest natural number, and one
that lies halfway between two goes to the even one. On top of it stands rounding to a bounded number
of binary digits.
-/

namespace Tabulate

-- Powers are those of the numbers themselves, also where powers in any monoid are at hand.
@[default_instance high]
instance (priority := high) numberPow {α : Type} [NatPow α] : Pow α Nat := instPowNat

/-- The natural number nearest to `num / den`; halfway between two, the even one. -/
def nearestEven (num den : Nat) : Nat :=
  let floor := num / den
  let twice := 2 * (num % den)
  if twice < den then floor
  else if den < twice then floor + 1
  else floor + floor % 2

/-- Rounding goes to the floor or to its successor. -/
theorem nearestEven_eq_or (num den : Nat) :
    nearestEven num den = num / den ∨ nearestEven num den = num / den + 1 := by
  have : num / den % 2 < 2 := Nat.mod_lt _ (by decide)
  unfold nearestEven
  grind

/-- A natural number is its own rounding. -/
theorem nearestEven_mul_right (n : Nat) {den : Nat} (h : 0 < den) :
    nearestEven (n * den) den = n := by
  simp [nearestEven, Nat.mul_div_cancel _ h, h]

/-- Rounding stays below a bound that the quotient stays below. -/
theorem nearestEven_le_of_lt_mul {num den bound : Nat} (h : num < bound * den) :
    nearestEven num den ≤ bound := by
  have := Nat.div_lt_of_lt_mul (Nat.mul_comm bound den ▸ h)
  have := nearestEven_eq_or num den
  omega

/-- The binary places that a number with whole part `whole` has beyond the fifty-three it may
keep. -/
def excessPlaces (whole : Nat) : Nat := whole.log2 - 52

/-- `num / den` to at most fifty-three binary places, and to a whole number; ties go to the even
neighbour. -/
def roundSignificand (num den : Nat) : Nat :=
  let scale := 2 ^ excessPlaces (num / den)
  nearestEven num (den * scale) * scale

/-- Whether `n` has at most fifty-three binary places between its first and its last one. -/
def FitsSignificand (n : Nat) : Prop := 2 ^ excessPlaces n ∣ n

instance : DecidablePred FitsSignificand := fun n => inferInstanceAs (Decidable (_ ∣ n))

/-- A number below `2 ^ 53`, scaled by a power of two, fits. -/
theorem fitsSignificand_mul_two_pow {m : Nat} (h : m ≤ 2 ^ 53) (s : Nat) :
    FitsSignificand (m * 2 ^ s) := by
  unfold FitsSignificand excessPlaces
  by_cases hm : m = 0
  · simp [hm]
  by_cases top : m = 2 ^ 53
  · subst top
    rw [← Nat.pow_add, Nat.log2_two_pow]
    exact Nat.pow_dvd_pow 2 (by omega)
  · have short : (m * 2 ^ s).log2 < 53 + s := by
      rw [Nat.log2_lt (Nat.mul_ne_zero hm (Nat.ne_of_gt (Nat.two_pow_pos s))), Nat.pow_add]
      exact Nat.mul_lt_mul_of_pos_right (by omega) (Nat.two_pow_pos s)
    exact Nat.dvd_trans (Nat.pow_dvd_pow 2 (by omega)) (Nat.dvd_mul_left _ _)

/-- Rounding to steps that leave fifty-three places gives at most `2 ^ 53` of them. -/
theorem nearestEven_steps_le (num den : Nat) :
    nearestEven num (den * 2 ^ excessPlaces (num / den)) ≤ 2 ^ 53 := by
  rcases Nat.eq_zero_or_pos den with rfl | positive
  · have := nearestEven_eq_or num (0 * 2 ^ excessPlaces (num / 0))
    simp at this ⊢
    omega
  · refine nearestEven_le_of_lt_mul ?_
    have whole : num / den < 2 ^ (num / den).log2.succ := Nat.lt_log2_self
    have : num < 2 ^ ((num / den).log2 + 1) * den := by
      rwa [Nat.div_lt_iff_lt_mul positive] at whole
    refine Nat.lt_of_lt_of_le this ?_
    rw [Nat.mul_comm den, ← Nat.mul_assoc, ← Nat.pow_add]
    exact Nat.mul_le_mul_right _ (Nat.pow_le_pow_right (by decide) (by unfold excessPlaces; omega))

/-- Rounding leaves at most fifty-three binary places. -/
theorem fitsSignificand_roundSignificand (num den : Nat) :
    FitsSignificand (roundSignificand num den) :=
  fitsSignificand_mul_two_pow (nearestEven_steps_le num den) _

/-- A whole number that fits is its own rounding. -/
theorem roundSignificand_of_fits {n den : Nat} (h : FitsSignificand n) (positive : 0 < den) :
    roundSignificand (n * den) den = n := by
  obtain ⟨m, hm⟩ := h
  have scaled : n * den = m * (den * 2 ^ excessPlaces n) := by
    conv => lhs; rw [hm]
    simp [Nat.mul_comm, Nat.mul_left_comm]
  have pos : 0 < den * 2 ^ excessPlaces n := Nat.mul_pos positive (Nat.two_pow_pos _)
  rw [roundSignificand, Nat.mul_div_cancel _ positive, scaled,
    nearestEven_mul_right m pos, Nat.mul_comm]
  exact hm.symm

end Tabulate
