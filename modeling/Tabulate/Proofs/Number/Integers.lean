import Mathlib.Algebra.Order.Ring.Abs
import Tabulate.Proofs.Number.Error
import Tabulate.Proofs.Number.Reading

/-!
# The texts of integers

A text denotes an integer if it spells a decimal with that value: with or without a fraction of
zeros, with or without an exponent. The numeral of an integer denotes it. So does the text of the
binary number nearest to the integer, as long as the integer has a size of at most `2 ^ 53`. A
decimal that is tried for such a number either has all digits of the integer, or it ends in a zero;
and a whole number that ends in a zero and reads back as the integer is the integer.
-/

namespace Tabulate

namespace Decimal

/-- Whether a decimal is the whole number `n`. -/
def IsNat (d : Decimal) (n : Nat) : Prop :=
  d.digits * 10 ^ d.exponent.toNat = n * 10 ^ (-d.exponent).toNat

instance (d : Decimal) (n : Nat) : Decidable (d.IsNat n) := inferInstanceAs (Decidable (_ = _))

/-! ### Whole numbers among the decimals -/

/-- A decimal is one whole number at most. -/
theorem IsNat.unique {d : Decimal} {m n : Nat} (hm : d.IsNat m) (hn : d.IsNat n) : m = n :=
  Nat.eq_of_mul_eq_mul_right (Nat.pow_pos (by decide)) (hm.symm.trans hn)

/-- Zeros may be counted among the digits or in the exponent. -/
theorem isNat_mul_ten_pow (d : Decimal) (k n : Nat) :
    IsNat ⟨d.digits * 10 ^ k, d.exponent - k⟩ n ↔ d.IsNat n := by
  obtain ⟨digits, exponent⟩ := d
  have powers := ten_pow_shift exponent k
  have behind : 0 < 10 ^ (-exponent).toNat := Nat.pow_pos (by decide)
  have behind' : 0 < 10 ^ (-(exponent - k)).toNat := Nat.pow_pos (by decide)
  have scaled : digits * 10 ^ k * 10 ^ (exponent - k).toNat * 10 ^ (-exponent).toNat =
      digits * 10 ^ exponent.toNat * 10 ^ (-(exponent - k)).toNat := by
    rw [Nat.mul_assoc digits, Nat.mul_assoc digits, powers, Nat.mul_assoc digits]
  unfold IsNat
  constructor
  · intro whole
    refine Nat.eq_of_mul_eq_mul_right behind' ?_
    rw [← scaled, whole, Nat.mul_right_comm]
  · intro whole
    refine Nat.eq_of_mul_eq_mul_right behind ?_
    rw [scaled, whole, Nat.mul_right_comm]

theorem dropZeros_eq (digits count : Nat) :
    (dropZeros digits count).1 * 10 ^ (dropZeros digits count).2 = digits := by
  induction count generalizing digits with
  | zero => simp [dropZeros]
  | succ count ih =>
    unfold dropZeros
    split
    · rename_i ends
      rw [Nat.pow_succ, ← Nat.mul_assoc, ih, Nat.div_mul_cancel (Nat.dvd_of_mod_eq_zero ends)]
    · simp

theorem isNat_trimZeros (d : Decimal) (n : Nat) : d.trimZeros.IsNat n ↔ d.IsNat n := by
  have same : d = ⟨d.trimZeros.digits * 10 ^ (dropZeros d.digits 18).2,
      d.trimZeros.exponent - (dropZeros d.digits 18).2⟩ := by
    have digits : d.trimZeros.digits * 10 ^ (dropZeros d.digits 18).2 = d.digits :=
      dropZeros_eq d.digits 18
    have exponent : d.trimZeros.exponent - (dropZeros d.digits 18).2 = d.exponent :=
      Int.add_sub_cancel _ _
    rw [digits, exponent]
  conv_rhs => rw [same]
  exact (isNat_mul_ten_pow _ _ n).symm

/-- A whole number is read back as the binary number nearest to it. -/
theorem toBinary64_of_isNat {d : Decimal} {n : Nat} (whole : d.IsNat n) (negative : Bool) :
    d.toBinary64 negative = .round negative (n * unitsPerOne) 1 := by
  rw [toBinary64_eq_round]
  refine Binary64.round_congr negative
    (roundSignificand_congr (Nat.pow_pos (by decide)) Nat.one_pos ?_)
  unfold IsNat at whole
  rw [Nat.mul_one, whole, Nat.mul_right_comm]

/-- A number is its fives over as many tens as one has halves. -/
theorem isNat_fives (n : Nat) {k : Nat} (halves : unitsPerOne = 2 ^ k) :
    IsNat ⟨n * unitsPerOne * 5 ^ k, -k⟩ n := by
  have whole : (-(k : Int)).toNat = 0 := by omega
  have part : (-(-(k : Int))).toNat = k := by omega
  have tens : 2 ^ k * 5 ^ k = 10 ^ k := by rw [← Nat.mul_pow]
  simp only [IsNat, whole, part, halves, Nat.pow_zero, Nat.mul_one, Nat.mul_assoc, tens]

/-! ### Whole numbers that read back -/

theorem two_pow_mul_unitsPerOne_lt {k : Nat} (below : k < 1024) :
    2 ^ k * unitsPerOne < overflowUnits := by
  rw [two_pow_mul_unitsPerOne, overflowUnits, Nat.pow_lt_pow_iff_right (by decide)]
  omega

/-- A whole number of at most `2 ^ 53` is a binary number. -/
theorem representable_mul_unitsPerOne {n : Nat} (small : n ≤ 2 ^ 53) :
    Representable (n * unitsPerOne) :=
  ⟨fitsSignificand_mul_two_pow small 1074,
    Nat.lt_of_le_of_lt (Nat.mul_le_mul_right _ small) (two_pow_mul_unitsPerOne_lt (by decide))⟩

variable {n : Nat} {d : Decimal}

/-- Of the whole numbers, only `2 ^ 53 + 1` reads back as another one of at most `2 ^ 53`. -/
theorem eq_or_eq_of_roundSignificand {m : Nat} (small : n ≤ 2 ^ 53)
    (same : roundSignificand (m * unitsPerOne) 1 = n * unitsPerOne) : m = n ∨ m = 2 ^ 53 + 1 := by
  have one : (0 : Int) < unitsPerOne := Int.natCast_pos.2 unitsPerOne_pos
  by_cases short : m ≤ 2 ^ 53
  · have fits : roundSignificand (m * unitsPerOne) 1 = m * unitsPerOne := by
      simpa using roundSignificand_of_fits (representable_mul_unitsPerOne short).1 Nat.one_pos
    exact .inl (Nat.eq_of_mul_eq_mul_right unitsPerOne_pos (fits.symm.trans same))
  · have error := roundSignificand_error (m * unitsPerOne)
    rw [same] at error
    push_cast at error
    rw [← Int.sub_mul, abs_mul, abs_of_pos one, ← Int.mul_assoc] at error
    have error : 2 ^ 53 * |(n : Int) - m| ≤ m := Int.le_of_mul_le_mul_right error one
    rw [abs_of_neg (by omega)] at error
    omega

theorem isNat_of_reads {m : Nat} (small : n ≤ 2 ^ 53) (whole : d.IsNat m) (other : m ≠ 2 ^ 53 + 1)
    (reads : reads (n * unitsPerOne) d) : d.IsNat n := by
  have representable := representable_mul_unitsPerOne small
  have same : Binary64.round false (m * unitsPerOne) 1 =
      .finite false (n * unitsPerOne) representable := by
    rw [← toBinary64_of_isNat whole, reads_iff.1 reads, Binary64.round_of_representable]
  have rounded : roundSignificand (m * unitsPerOne) 1 = n * unitsPerOne := by
    unfold Binary64.round at same
    split at same
    · injection same
    · cases same
  rcases eq_or_eq_of_roundSignificand small rounded with equal | equal
  · exact equal ▸ whole
  · exact absurd equal other

/-! ### The shortest decimal of a whole number -/

theorem choose_of_reads {units : Nat} {lower : Decimal} (reads : reads units lower)
    (upper : Decimal) : choose units lower upper true = some lower := by
  unfold choose
  cases reads' : Decimal.reads units upper <;> simp [reads]

theorem eq_or_eq_of_choose {units : Nat} {lower upper : Decimal} {preferLower : Bool}
    (h : choose units lower upper preferLower = some d) : d = lower ∨ d = upper := by
  unfold choose at h
  grind

/-- A grid with all digits of a whole number has the number itself. -/
theorem isNat_trimZeros_fine (n : Nat) {e : Int} (fine : e ≤ 0) :
    (trimZeros ⟨n * 10 ^ (-e).toNat, e⟩).IsNat n := by
  have tens : e.toNat = 0 := by omega
  rw [isNat_trimZeros]
  simp only [IsNat, tens, Nat.pow_zero, Nat.mul_one]

/-- A grid with fewer digits has multiples of ten, of which only the number itself reads back as
it. -/
theorem isNat_trimZeros_coarse (small : n ≤ 2 ^ 53) {e : Int} (coarse : 0 < e) {m : Nat}
    (reads : reads (n * unitsPerOne) (trimZeros ⟨m, e⟩)) : (trimZeros ⟨m, e⟩).IsNat n := by
  obtain ⟨k, tens⟩ : ∃ k, e.toNat = k + 1 := ⟨e.toNat - 1, by omega⟩
  have part : (-e).toNat = 0 := by omega
  have whole : (trimZeros ⟨m, e⟩).IsNat (m * 10 ^ k * 10) := by
    rw [isNat_trimZeros]
    simp only [IsNat, tens, part, Nat.pow_zero, Nat.mul_one, Nat.pow_succ, Nat.mul_assoc]
  exact isNat_of_reads small whole (by omega) reads

/-- What is tried for a whole number with any number of digits is that number, if it reads back. -/
theorem isNat_of_nearest? {count : Nat} (small : n ≤ 2 ^ 53)
    (h : nearest? (n * unitsPerOne) count = some d) : d.IsNat n := by
  unfold nearest? at h
  dsimp only at h
  generalize magnitude (n * unitsPerOne) - count = e at h
  rcases le_or_gt e 0 with fine | coarse
  -- The number stands on the grid, is the lower neighbour and is preferred.
  · have tens : e.toNat = 0 := by omega
    have whole := isNat_trimZeros_fine n fine
    have below : n * unitsPerOne * 10 ^ (-e).toNat / unitsPerOne = n * 10 ^ (-e).toNat := by
      rw [Nat.mul_right_comm, Nat.mul_div_cancel _ unitsPerOne_pos]
    have nearest : nearestEven (n * unitsPerOne * 10 ^ (-e).toNat) unitsPerOne =
        n * 10 ^ (-e).toNat := by
      rw [Nat.mul_right_comm, nearestEven_mul_right _ unitsPerOne_pos]
    simp only [tens, Nat.pow_zero, Nat.mul_one, below, nearest, beq_self_eq_true] at h
    have chosen := (choose_of_reads (reads_iff.2 (toBinary64_of_isNat whole false)) _).symm.trans h
    exact Option.some.inj chosen ▸ whole
  · have reads := reads_of_choose h
    rcases eq_or_eq_of_choose h with rfl | rfl
    · exact isNat_trimZeros_coarse small coarse reads
    · exact isNat_trimZeros_coarse small coarse reads

/-- The shortest decimal of a whole number of at most `2 ^ 53` is that number. -/
theorem isNat_shortest (small : n ≤ 2 ^ 53) : (shortest (n * unitsPerOne)).IsNat n := by
  unfold shortest
  cases found : (List.range 17).findSome? fun i => nearest? (n * unitsPerOne) (i + 1) with
  | none => exact isNat_fives n unitsPerOne.eq_def
  | some d =>
    obtain ⟨i, -, nearest⟩ := List.exists_of_findSome?_eq_some found
    exact isNat_of_nearest? small nearest

end Decimal

/-- The binary number nearest to an integer of at most `2 ^ 64` is finite. -/
theorem Binary64.isFinite_ofInt {i : Int} (word : i.natAbs ≤ 2 ^ 64) : (ofInt i).isFinite := by
  refine (round_rounds ?_).finite
  have size : i.natAbs * unitsPerOne ≤ 2 ^ 64 * unitsPerOne := Nat.mul_le_mul_right _ word
  have below : 2 ^ 65 * unitsPerOne < overflowUnits :=
    Decimal.two_pow_mul_unitsPerOne_lt (by decide)
  have positive := unitsPerOne_pos
  rw [InRange, abs_withSign]
  omega

/-! ### Texts -/

/-- Whether a text spells a decimal whose value is the integer `i`. -/
def Denotes (text : String) (i : Int) : Prop :=
  ∃ negative d n, readDecimal text.toList = some (negative, d) ∧ Decimal.IsNat d n ∧
    withSign negative n = i

/-- A text denotes one integer at most. -/
theorem Denotes.unique {text : String} {i j : Int} (hi : Denotes text i) (hj : Denotes text j) :
    i = j := by
  obtain ⟨negative, d, m, read, hm, rfl⟩ := hi
  obtain ⟨negative', d', n, read', hn, rfl⟩ := hj
  obtain ⟨rfl, rfl⟩ : negative = negative' ∧ d = d' := by simpa using read.symm.trans read'
  rw [hm.unique hn]

/-- The numeral of an integer denotes it. -/
theorem denotes_numeral (i : Int) : Denotes (numeral i) i :=
  ⟨_, _, i.natAbs, readDecimal_numeral i, rfl, withSign_natAbs i⟩

/-- The text of the binary number nearest to an integer of at most `2 ^ 53` denotes the integer. -/
theorem denotes_text_ofInt {i : Int} (small : i.natAbs ≤ 2 ^ 53) :
    Denotes (Binary64.ofInt i).text i := by
  have nearest : Binary64.ofInt i =
      .finite (i < 0) (i.natAbs * unitsPerOne) (Decimal.representable_mul_unitsPerOne small) :=
    Binary64.round_of_representable _ _
  rw [nearest, Binary64.text]
  split
  · rename_i zero
    have zero : i.natAbs = 0 := (Nat.mul_eq_zero.1 zero).resolve_right unitsPerOne_pos.ne'
    refine ⟨_, ⟨0, -1⟩, i.natAbs, ?_, ?_, withSign_natAbs i⟩
    · rw [String.toList_ofList]
      exact readDecimal_zero _
    · rw [zero]
      rfl
  · obtain ⟨k, read⟩ :=
      Decimal.readDecimal_layout (i < 0) (Decimal.shortest (i.natAbs * unitsPerOne))
    refine ⟨_, _, i.natAbs, ?_, (Decimal.isNat_mul_ten_pow _ k _).2 (Decimal.isNat_shortest small),
      withSign_natAbs i⟩
    rw [String.toList_ofList]
    exact read

end Tabulate
