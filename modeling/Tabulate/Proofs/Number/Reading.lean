import Tabulate.Number.Literal
import Tabulate.Number.Text
import Tabulate.Proofs.Number.Decimal

/-!
# Reading the text of a number

The text of a finite binary number is a literal of that number, and the numeral of an integer is one
of the number nearest to the integer. The digits are read back one group at a time: in front of the
point, behind it, and those of the exponent.
-/

namespace Tabulate

/-! ### Parts of a literal -/

section Parts

variable {cs rest : List Char} {values : List Nat}

theorem readSign_cons (c : Char) (rest : List Char) :
    readSign (c :: rest) =
      if c = '-' then (true, rest)
      else if c = '+' then (false, rest)
      else (false, c :: rest) := by
  unfold readSign
  split <;> simp_all

theorem readSign_unsigned (unsigned : ∀ c ∈ cs.head?, c ≠ '-' ∧ c ≠ '+') :
    readSign cs = (false, cs) := by
  cases cs with
  | nil => rfl
  | cons c rest =>
    obtain ⟨minus, plus⟩ := unsigned c rfl
    rw [readSign_cons, if_neg minus, if_neg plus]

/-- The digits at the front of a text are read as far as they go. -/
theorem readDigits_of_values {value : Char → Nat}
    (digits : ∀ c ∈ cs, digitValue? c = some (value c))
    (stop : ∀ c ∈ rest.head?, digitValue? c = none) :
    readDigits (cs ++ rest) = (cs.map value, rest) := by
  induction cs with
  | nil =>
    cases rest with
    | nil => rfl
    | cons c rest => simp [readDigits, stop c rfl]
  | cons c cs ih =>
    rw [List.cons_append, readDigits, digits c List.mem_cons_self,
      ih fun d hd => digits d (List.mem_cons_of_mem _ hd)]
    rfl

theorem readMantissa_of_point (digits : readDigits cs = (values, '.' :: rest)) :
    readMantissa cs = (values, readDigits rest) := by
  rw [readMantissa, digits]
  rfl

theorem readMantissa_of_whole (digits : readDigits cs = (values, rest))
    (stop : ∀ c ∈ rest.head?, c ≠ '.') : readMantissa cs = (values, [], rest) := by
  rw [readMantissa, digits]
  split
  · rename_i h
    obtain ⟨rfl, rfl⟩ := Prod.mk.inj h
    exact absurd rfl (stop '.' rfl)
  · rename_i h
    obtain ⟨rfl, rfl⟩ := Prod.mk.inj h
    rfl

/-- Behind the letter of an exponent there are a sign or none and digits, and nothing else. -/
theorem readExponent_cons {letter : Char} {negative : Bool} {after : List Char}
    (sign : readSign cs = (negative, rest)) (digits : readDigits rest = (values, after)) :
    readExponent (letter :: cs) =
      if (letter = 'e' ∨ letter = 'E') ∧ values ≠ [] ∧ after = []
      then some (withSign negative (ofDigitValues values))
      else none := by
  rw [readExponent, sign]
  simp only [digits]
  cases values <;> cases after <;> simp

/-- A text with a digit in front of its point or behind it is read up to its exponent, and then with
it. -/
theorem readDecimal_eq {negative : Bool} {whole fraction : List Nat} {after : List Char}
    (sign : readSign cs = (negative, rest))
    (mantissa : readMantissa rest = (whole, fraction, after)) :
    readDecimal cs =
      if whole = [] ∧ fraction = [] then none
      else (readExponent after).map fun e =>
        (negative, ⟨ofDigitValues (whole ++ fraction), e - fraction.length⟩) := by
  rw [readDecimal, sign]
  simp only [mantissa]
  cases whole <;> cases fraction <;> simp

end Parts

/-! ### ASCII digits -/

/-- Texts of ASCII digits only. -/
def AllDigits (cs : List Char) : Prop := ∀ c ∈ cs, c.isDigit

theorem allDigits_toDigits (n : Nat) : AllDigits (Nat.toDigits 10 n) :=
  fun _ hc => Nat.isDigit_of_mem_toDigits (by decide) (by decide) hc

theorem allDigits_replicate_zero (n : Nat) : AllDigits (List.replicate n '0') := by
  intro c hc
  rw [(List.mem_replicate.1 hc).2]
  rfl

theorem AllDigits.append {cs ds : List Char} (hc : AllDigits cs) (hd : AllDigits ds) :
    AllDigits (cs ++ ds) :=
  fun c h => (List.mem_append.1 h).elim (hc c) (hd c)

theorem AllDigits.of_sublist {cs ds : List Char} (hd : AllDigits ds) (h : cs.Sublist ds) :
    AllDigits cs :=
  fun c hc => hd c (h.subset hc)

theorem digitValue?_of_isDigit {c : Char} (h : c.isDigit) :
    digitValue? c = some (c.toNat - 48) := by
  have bounds : 48 ≤ c.toNat ∧ c.toNat ≤ 57 := Char.isDigit_iff_toNat.1 h
  rw [digitValue?, digitZeros, List.find?_cons_of_pos]
  · rfl
  · simp
    omega

theorem readDigits_append {cs rest : List Char} (digits : AllDigits cs)
    (stop : ∀ c ∈ rest.head?, digitValue? c = none) :
    readDigits (cs ++ rest) = (cs.map fun c => c.toNat - 48, rest) :=
  readDigits_of_values (fun c hc => digitValue?_of_isDigit (digits c hc)) stop

theorem readDigits_all {cs : List Char} (digits : AllDigits cs) :
    readDigits cs = (cs.map fun c => c.toNat - 48, []) := by
  have whole : readDigits (cs ++ []) = (cs.map fun c => c.toNat - 48, []) :=
    readDigits_append digits (by simp)
  rwa [List.append_nil] at whole

theorem ofDigitValues_map (cs : List Char) :
    ofDigitValues (cs.map fun c => c.toNat - 48) = Nat.ofDigitChars 10 cs 0 := by
  rw [ofDigitValues, Nat.ofDigitChars_eq_foldl, List.foldl_map]
  rfl

theorem ofDigitChars_zeros_append (n : Nat) (cs : List Char) :
    Nat.ofDigitChars 10 (List.replicate n '0' ++ cs) 0 = Nat.ofDigitChars 10 cs 0 := by
  rw [Nat.ofDigitChars_append, Nat.ofDigitChars_replicate_zero, Nat.mul_zero]

theorem ofDigitChars_append_zeros (cs : List Char) (n : Nat) :
    Nat.ofDigitChars 10 (cs ++ List.replicate n '0') 0 = Nat.ofDigitChars 10 cs 0 * 10 ^ n := by
  rw [Nat.ofDigitChars_append, Nat.ofDigitChars_replicate_zero, Nat.mul_comm]

/-- Digits spell a number that is no longer than they are. -/
theorem ofDigitChars_lt {cs : List Char} (digits : AllDigits cs) :
    Nat.ofDigitChars 10 cs 0 < 10 ^ cs.length := by
  have bound (init : Nat) : Nat.ofDigitChars 10 cs init < 10 ^ cs.length * (init + 1) := by
    induction cs generalizing init with
    | nil => simp
    | cons c cs ih =>
      have digit : c.toNat - '0'.toNat < 10 := by
        have range : 48 ≤ c.toNat ∧ c.toNat ≤ 57 :=
          Char.isDigit_iff_toNat.1 (digits c List.mem_cons_self)
        have zero : '0'.toNat = 48 := rfl
        omega
      have others :=
        ih (fun d hd => digits d (List.mem_cons_of_mem _ hd)) (10 * init + (c.toNat - '0'.toNat))
      rw [Nat.ofDigitChars_cons, List.length_cons, Nat.pow_succ, Nat.mul_assoc]
      refine Nat.lt_of_lt_of_le others (Nat.mul_le_mul_left _ ?_)
      omega
  simpa using bound 0

/-! ### Signs, points and exponents -/

theorem readSign_signed (negative : Bool) {cs : List Char} (digit : ∀ c ∈ cs.head?, c.isDigit) :
    readSign (signed negative cs) = (negative, cs) := by
  cases negative with
  | true => rfl
  | false =>
    refine readSign_unsigned fun c hc => ?_
    have isDigit := digit c hc
    constructor
    · rintro rfl
      cases isDigit
    · rintro rfl
      cases isDigit

theorem readMantissa_point {whole fraction rest : List Char} (hw : AllDigits whole)
    (hf : AllDigits fraction) (stop : ∀ c ∈ rest.head?, digitValue? c = none) :
    readMantissa (whole ++ '.' :: (fraction ++ rest)) =
      (whole.map fun c => c.toNat - 48, fraction.map fun c => c.toNat - 48, rest) := by
  have front : readDigits (whole ++ '.' :: (fraction ++ rest)) =
      (whole.map fun c => c.toNat - 48, '.' :: (fraction ++ rest)) :=
    readDigits_append hw (by simp; decide)
  have behind : readDigits (fraction ++ rest) = (fraction.map fun c => c.toNat - 48, rest) :=
    readDigits_append hf stop
  rw [readMantissa_of_point front, behind]

theorem readMantissa_whole {whole rest : List Char} (hw : AllDigits whole)
    (stop : ∀ c ∈ rest.head?, digitValue? c = none ∧ c ≠ '.') :
    readMantissa (whole ++ rest) = (whole.map fun c => c.toNat - 48, [], rest) := by
  have front : readDigits (whole ++ rest) = (whole.map fun c => c.toNat - 48, rest) :=
    readDigits_append hw fun c hc => (stop c hc).1
  exact readMantissa_of_whole front fun c hc => (stop c hc).2

/-- An integer is its size with its sign. -/
theorem withSign_natAbs (i : Int) : withSign (decide (i < 0)) i.natAbs = i := by
  unfold withSign
  by_cases h : i < 0
  · simp only [h, decide_true, if_true]
    omega
  · simp only [h, decide_false, Bool.false_eq_true, if_false]
    omega

theorem natAbs_withSign (negative : Bool) (n : Nat) : (withSign negative n).natAbs = n := by
  cases negative <;> simp [withSign]

/-- The mark of an exponent is a letter, a sign and digits, zeros in front of them included. -/
theorem exists_exponentMark (e : Int) :
    ∃ digits, Decimal.exponentMark e = 'e' :: (if e < 0 then '-' else '+') :: digits ∧
      AllDigits digits ∧ digits ≠ [] ∧ Nat.ofDigitChars 10 digits 0 = e.natAbs := by
  refine ⟨_, rfl, (allDigits_replicate_zero _).append (allDigits_toDigits _), ?_, ?_⟩
  · exact List.append_ne_nil_of_right_ne_nil _ Nat.toDigits_ne_nil
  · rw [ofDigitChars_zeros_append, Nat.ofDigitChars_ten_toDigits]

theorem readSign_mark (e : Int) (cs : List Char) :
    readSign ((if e < 0 then '-' else '+') :: cs) = (decide (e < 0), cs) := by
  by_cases h : e < 0
  · simp [h, readSign]
  · simp [h, readSign]

/-- The mark of an exponent is read back. -/
theorem readExponent_exponentMark (e : Int) : readExponent (Decimal.exponentMark e) = some e := by
  obtain ⟨digits, mark, allDigits, nonempty, value⟩ := exists_exponentMark e
  have values : digits.map (fun c => c.toNat - 48) ≠ [] :=
    fun h => nonempty (List.map_eq_nil_iff.1 h)
  rw [mark, readExponent_cons (readSign_mark e digits) (readDigits_all allDigits),
    if_pos ⟨.inl rfl, values, rfl⟩, ofDigitValues_map, value, withSign_natAbs]

theorem head?_exponentMark (e : Int) :
    ∀ c ∈ (Decimal.exponentMark e).head?, digitValue? c = none ∧ c ≠ '.' := by
  intro c hc
  obtain rfl : 'e' = c := Option.some.inj hc
  decide

/-! ### Decimals -/

/-- Digits with a point among them and an exponent behind them are read as one number. -/
theorem readDecimal_point (negative : Bool) {whole fraction rest : List Char} {e : Int}
    (hw : AllDigits whole) (nonempty : whole ≠ []) (hf : AllDigits fraction)
    (exponent : readExponent rest = some e) (stop : ∀ c ∈ rest.head?, digitValue? c = none) :
    readDecimal (signed negative (whole ++ '.' :: (fraction ++ rest))) =
      some (negative, ⟨Nat.ofDigitChars 10 (whole ++ fraction) 0, e - fraction.length⟩) := by
  obtain ⟨c, others, rfl⟩ := List.exists_cons_of_ne_nil nonempty
  have digit : c.isDigit := hw c List.mem_cons_self
  have sign : readSign (signed negative (c :: others ++ '.' :: (fraction ++ rest))) =
      (negative, c :: others ++ '.' :: (fraction ++ rest)) :=
    readSign_signed negative (by simpa using digit)
  rw [readDecimal_eq sign (readMantissa_point hw hf stop), if_neg (by simp),
    exponent, ← List.map_append, ofDigitValues_map, List.length_map]
  rfl

theorem readDecimal_plain (negative : Bool) {whole fraction : List Char} (hw : AllDigits whole)
    (nonempty : whole ≠ []) (hf : AllDigits fraction) :
    readDecimal (signed negative (whole ++ '.' :: fraction)) =
      some (negative, ⟨Nat.ofDigitChars 10 (whole ++ fraction) 0, -fraction.length⟩) := by
  have read : readDecimal (signed negative (whole ++ '.' :: (fraction ++ []))) =
      some (negative, ⟨Nat.ofDigitChars 10 (whole ++ fraction) 0, 0 - fraction.length⟩) :=
    readDecimal_point negative hw nonempty hf rfl (by simp)
  rwa [List.append_nil, Int.zero_sub] at read

theorem readDecimal_whole (negative : Bool) {whole rest : List Char} {e : Int}
    (hw : AllDigits whole) (nonempty : whole ≠ []) (exponent : readExponent rest = some e)
    (stop : ∀ c ∈ rest.head?, digitValue? c = none ∧ c ≠ '.') :
    readDecimal (signed negative (whole ++ rest)) =
      some (negative, ⟨Nat.ofDigitChars 10 whole 0, e⟩) := by
  obtain ⟨c, others, rfl⟩ := List.exists_cons_of_ne_nil nonempty
  have digit : c.isDigit := hw c List.mem_cons_self
  have sign : readSign (signed negative (c :: others ++ rest)) = (negative, c :: others ++ rest) :=
    readSign_signed negative (by simpa using digit)
  rw [readDecimal_eq sign (readMantissa_whole hw stop), if_neg (by simp), exponent,
    List.append_nil, ofDigitValues_map]
  exact congrArg (fun e => some (negative, Decimal.mk _ e)) (Int.sub_zero e)

namespace Decimal

section Positional

variable {digits : List Char}

/-- Zeros stand between the point and the digits. -/
theorem readDecimal_zeros_front (negative : Bool) (allDigits : AllDigits digits) (zeros : Nat) :
    readDecimal (signed negative ('0' :: '.' :: (List.replicate zeros '0' ++ digits))) =
      some (negative, ⟨Nat.ofDigitChars 10 digits 0, -(zeros + digits.length : Nat)⟩) := by
  let fraction := List.replicate zeros '0' ++ digits
  have fractionDigits : AllDigits fraction := (allDigits_replicate_zero zeros).append allDigits
  have read : readDecimal (signed negative ('0' :: '.' :: fraction)) =
      some (negative, ⟨Nat.ofDigitChars 10 ('0' :: fraction) 0, -fraction.length⟩) :=
    readDecimal_plain negative (allDigits_replicate_zero 1) (by simp) fractionDigits
  have value : Nat.ofDigitChars 10 ('0' :: fraction) 0 = Nat.ofDigitChars 10 digits 0 := by
    rw [← ofDigitChars_zeros_append (zeros + 1) digits, List.replicate_succ]
    rfl
  have length : fraction.length = zeros + digits.length := by simp [fraction]
  rw [read, value, length]

/-- The point stands among the digits. -/
theorem readDecimal_inner (negative : Bool) (allDigits : AllDigits digits) {n : Nat}
    (positive : 0 < n) (inner : n < digits.length) :
    readDecimal (signed negative (digits.take n ++ '.' :: digits.drop n)) =
      some (negative, ⟨Nat.ofDigitChars 10 digits 0, -(digits.length - n : Nat)⟩) := by
  have whole : AllDigits (digits.take n) := allDigits.of_sublist (List.take_sublist n digits)
  have fraction : AllDigits (digits.drop n) := allDigits.of_sublist (List.drop_sublist n digits)
  have nonempty : digits.take n ≠ [] := by
    rw [ne_eq, List.take_eq_nil_iff]
    rintro (rfl | rfl)
    · omega
    · cases inner
  rw [readDecimal_plain negative whole nonempty fraction, List.take_append_drop, List.length_drop]

/-- Zeros fill up the digits to the point, and one stands behind it. -/
theorem readDecimal_zeros_behind (negative : Bool) (allDigits : AllDigits digits)
    (nonempty : digits ≠ []) (zeros : Nat) :
    readDecimal (signed negative (digits ++ List.replicate zeros '0' ++ '.' :: ['0'])) =
      some (negative, ⟨Nat.ofDigitChars 10 digits 0 * 10 ^ (zeros + 1), -1⟩) := by
  have whole : AllDigits (digits ++ List.replicate zeros '0') :=
    allDigits.append (allDigits_replicate_zero zeros)
  have filled : digits ++ List.replicate zeros '0' ++ ['0'] =
      digits ++ List.replicate (zeros + 1) '0' := by
    rw [List.replicate_succ', ← List.append_assoc]
  have read : readDecimal (signed negative (digits ++ List.replicate zeros '0' ++ '.' :: ['0'])) =
      some (negative, ⟨Nat.ofDigitChars 10 (digits ++ List.replicate zeros '0' ++ ['0']) 0, -1⟩) :=
    readDecimal_plain negative whole (List.append_ne_nil_of_left_ne_nil nonempty _)
      (allDigits_replicate_zero 1)
  rw [read, filled, ofDigitChars_append_zeros]

end Positional

/-- Digits with a point among them, zeros filled in, are read back with those of the zeros that
stand at the end. -/
theorem readDecimal_positional (negative : Bool) (n : Nat) (point : Int) :
    ∃ k : Nat, readDecimal (signed negative (positional (Nat.toDigits 10 n) point)) =
      some (negative, ⟨n * 10 ^ k, point - (Nat.toDigits 10 n).length - k⟩) := by
  have allDigits : AllDigits (Nat.toDigits 10 n) := allDigits_toDigits n
  have value : Nat.ofDigitChars 10 (Nat.toDigits 10 n) 0 = n := Nat.ofDigitChars_ten_toDigits
  have nonempty : Nat.toDigits 10 n ≠ [] := Nat.toDigits_ne_nil
  generalize Nat.toDigits 10 n = digits at allDigits value nonempty ⊢
  unfold positional
  by_cases front : point ≤ 0
  · refine ⟨0, ?_⟩
    rw [if_pos front, readDecimal_zeros_front negative allDigits, value, Nat.pow_zero, Nat.mul_one]
    congr 3
    omega
  rw [if_neg front]
  by_cases inner : point.toNat < digits.length
  · have fraction : (digits.drop point.toNat).isEmpty = false := by
      rw [List.isEmpty_eq_false_iff]
      exact List.ne_nil_of_length_pos (by rw [List.length_drop]; omega)
    have unfilled : point.toNat - digits.length = 0 := by omega
    refine ⟨0, ?_⟩
    simp only [unfilled, List.replicate_zero, List.append_nil, fraction,
      Bool.false_eq_true, if_false]
    rw [readDecimal_inner negative allDigits (by omega) inner, value, Nat.pow_zero, Nat.mul_one]
    congr 3
    omega
  · have taken : digits.take point.toNat = digits := List.take_of_length_le (by omega)
    have dropped : digits.drop point.toNat = [] := List.drop_of_length_le (by omega)
    refine ⟨point.toNat - digits.length + 1, ?_⟩
    simp only [taken, dropped, List.isEmpty_nil, if_true]
    rw [readDecimal_zeros_behind negative allDigits nonempty, value]
    congr 3
    omega

/-- One digit in front of the point and a power of ten are read back as they are. -/
theorem readDecimal_scientific (negative : Bool) (n : Nat) (e : Int) :
    readDecimal (signed negative (scientific (Nat.toDigits 10 n) e)) =
      some (negative, ⟨n, e + 1 - (Nat.toDigits 10 n).length⟩) := by
  have allDigits : AllDigits (Nat.toDigits 10 n) := allDigits_toDigits n
  have value : Nat.ofDigitChars 10 (Nat.toDigits 10 n) 0 = n := Nat.ofDigitChars_ten_toDigits
  have nonempty : Nat.toDigits 10 n ≠ [] := Nat.toDigits_ne_nil
  have exponent : readExponent (exponentMark e) = some e := readExponent_exponentMark e
  have stop := head?_exponentMark e
  generalize Nat.toDigits 10 n = digits at allDigits value nonempty ⊢
  match digits, nonempty with
  | [d], _ =>
    have read := readDecimal_whole negative allDigits (by simp) exponent stop
    rw [value] at read
    rw [scientific, List.length_singleton, Int.natCast_one, Int.add_sub_cancel]
    exact read
  | d :: d' :: rest, _ =>
    have front : AllDigits [d] := allDigits.of_sublist (by simp)
    have behind : AllDigits (d' :: rest) := allDigits.of_sublist (by simp)
    have read := readDecimal_point negative front (by simp) behind exponent
      fun c hc => (stop c hc).1
    have joined : Nat.ofDigitChars 10 ([d] ++ d' :: rest) 0 = n := value
    rw [joined, List.singleton_append] at read
    refine read.trans ?_
    congr 3
    simp only [List.length_cons]
    omega

/-- The layout of a decimal is read back as the decimal, though some zeros may be counted among its
digits. -/
theorem readDecimal_layout (negative : Bool) (d : Decimal) :
    ∃ k : Nat, readDecimal (signed negative d.layout) =
      some (negative, ⟨d.digits * 10 ^ k, d.exponent - k⟩) := by
  let point : Int := (Nat.toDigits 10 d.digits).length + d.exponent
  by_cases short : -4 < point ∧ point ≤ 16
  · obtain ⟨k, read⟩ := readDecimal_positional negative d.digits point
    have layout : d.layout = positional (Nat.toDigits 10 d.digits) point := if_pos short
    refine ⟨k, ?_⟩
    rw [layout, read]
    congr 3
    omega
  · have layout : d.layout = scientific (Nat.toDigits 10 d.digits) (point - 1) := if_neg short
    refine ⟨0, ?_⟩
    rw [layout, readDecimal_scientific, Nat.pow_zero, Nat.mul_one]
    congr 3
    omega

end Decimal

/-! ### Texts of numbers -/

/-- Texts without a blank. -/
def Unblank (cs : List Char) : Prop := ∀ c ∈ cs, isBlank c = false

instance : DecidablePred Unblank := List.decidableBAll fun c => isBlank c = false

theorem Unblank.append {cs ds : List Char} (hc : Unblank cs) (hd : Unblank ds) :
    Unblank (cs ++ ds) :=
  fun c h => (List.mem_append.1 h).elim (hc c) (hd c)

theorem Unblank.cons {c : Char} {cs : List Char} (hc : isBlank c = false) (h : Unblank cs) :
    Unblank (c :: cs) :=
  fun d hd => (List.mem_cons.1 hd).elim (fun same => same ▸ hc) (h d)

theorem Unblank.trim_eq {cs : List Char} (h : Unblank cs) : trim isBlank cs = cs :=
  trim_eq_self (fun c hc => h c (List.mem_of_mem_head? hc)) fun c hc =>
    h c (List.mem_of_getLast? hc)

theorem AllDigits.unblank {cs : List Char} (h : AllDigits cs) : Unblank cs := by
  intro c hc
  have bounds : 48 ≤ c.toNat ∧ c.toNat ≤ 57 := Char.isDigit_iff_toNat.1 (h c hc)
  simp only [isBlank, isSpace]
  simp
  omega

theorem Unblank.signed {cs : List Char} (negative : Bool) (h : Unblank cs) :
    Unblank (signed negative cs) := by
  cases negative with
  | true => exact h.cons (by decide)
  | false => exact h

namespace Decimal

theorem unblank_exponentMark (e : Int) : Unblank (exponentMark e) := by
  have digits : AllDigits (List.replicate (2 - (Nat.toDigits 10 e.natAbs).length) '0' ++
      Nat.toDigits 10 e.natAbs) :=
    (allDigits_replicate_zero _).append (allDigits_toDigits _)
  refine (digits.unblank.cons ?_).cons (by decide)
  split <;> decide

theorem unblank_layout (d : Decimal) : Unblank d.layout := by
  have allDigits : AllDigits (Nat.toDigits 10 d.digits) := allDigits_toDigits d.digits
  have positional (digits : List Char) (point : Int) (h : AllDigits digits) :
      Unblank (positional digits point) := by
    unfold Decimal.positional
    split
    · exact (((allDigits_replicate_zero _).append h).unblank.cons (by decide)).cons (by decide)
    · have whole := (h.of_sublist (List.take_sublist point.toNat _)).append
        (allDigits_replicate_zero (point.toNat - digits.length))
      refine whole.unblank.append (Unblank.cons (by decide) ?_)
      split
      · exact (allDigits_replicate_zero 1).unblank
      · exact (h.of_sublist (List.drop_sublist _ _)).unblank
  have scientific (digits : List Char) (e : Int) (h : AllDigits digits) :
      Unblank (scientific digits e) := by
    unfold Decimal.scientific
    split
    · exact unblank_exponentMark e
    · exact h.unblank.append (unblank_exponentMark e)
    · rename_i c rest _
      have front := h.unblank c List.mem_cons_self
      have behind := (h.of_sublist (List.sublist_cons_self c rest)).unblank
      exact ((behind.append (unblank_exponentMark e)).cons (by decide)).cons front
  unfold layout
  dsimp only
  split
  · exact positional _ _ allDigits
  · exact scientific _ _ allDigits

end Decimal

theorem parseNumber_ofList {cs : List Char} (unblank : Unblank cs) {negative : Bool} {d : Decimal}
    (read : readDecimal cs = some (negative, d)) :
    parseNumber (String.ofList cs) =
      if (d.toBinary64 negative).isFinite then some (d.toBinary64 negative) else none := by
  rw [parseNumber, String.toList_ofList, unblank.trim_eq, read]

theorem readDecimal_zero (negative : Bool) :
    readDecimal (signed negative "0.0".toList) = some (negative, ⟨0, -1⟩) :=
  readDecimal_plain negative (allDigits_replicate_zero 1) (by simp) (allDigits_replicate_zero 1)

/-- The text of a finite number denotes that number. -/
theorem parseNumber_text {x : Binary64} (finite : x.isFinite) : parseNumber x.text = some x := by
  cases x with
  | nan => cases finite
  | infinite negative => cases finite
  | finite negative units representable =>
    by_cases zero : units = 0
    · subst zero
      have unblank : Unblank (signed negative "0.0".toList) :=
        Unblank.signed negative (((allDigits_replicate_zero 1).unblank.cons (by decide)).cons
          (by decide))
      have value : Decimal.toBinary64 negative ⟨0, -1⟩ = .finite negative 0 representable := by
        rw [Decimal.toBinary64, if_pos rfl, Binary64.signedZero]
      rw [Binary64.text, if_pos rfl, parseNumber_ofList unblank (readDecimal_zero negative),
        value, if_pos finite]
    · obtain ⟨k, read⟩ := Decimal.readDecimal_layout negative (Decimal.shortest units)
      have unblank : Unblank (signed negative (Decimal.shortest units).layout) :=
        Unblank.signed negative (Decimal.unblank_layout _)
      rw [Binary64.text, if_neg zero, parseNumber_ofList unblank read,
        Decimal.toBinary64_mul_ten_pow, Decimal.toBinary64_shortest negative representable,
        if_pos finite]

theorem toList_numeral (i : Int) :
    (numeral i).toList = signed (i < 0) (Nat.toDigits 10 i.natAbs) := by
  cases i with
  | ofNat n =>
    have nonnegative : ¬Int.ofNat n < 0 := Int.not_lt.2 (Int.natCast_nonneg n)
    rw [numeral, Nat.toList_repr, decide_eq_false nonnegative]
    rfl
  | negSucc n =>
    rw [numeral, String.toList_append, Nat.toList_repr, decide_eq_true (Int.negSucc_lt_zero n)]
    rfl

/-- The numeral of an integer spells its digits and its sign. -/
theorem readDecimal_numeral (i : Int) :
    readDecimal (numeral i).toList = some (decide (i < 0), ⟨i.natAbs, 0⟩) := by
  have read : readDecimal (signed (i < 0) (Nat.toDigits 10 i.natAbs ++ [])) =
      some (decide (i < 0), ⟨Nat.ofDigitChars 10 (Nat.toDigits 10 i.natAbs) 0, 0⟩) :=
    readDecimal_whole (decide (i < 0)) (allDigits_toDigits i.natAbs)
      Nat.toDigits_ne_nil rfl (by simp)
  rwa [List.append_nil, Nat.ofDigitChars_ten_toDigits, ← toList_numeral] at read

/-- The numeral of an integer denotes the binary number nearest to it, if that is finite. -/
theorem parseNumber_numeral (i : Int) :
    parseNumber (numeral i) = if (Binary64.ofInt i).isFinite then some (.ofInt i) else none := by
  have unblank : Unblank (numeral i).toList := by
    rw [toList_numeral]
    exact (allDigits_toDigits i.natAbs).unblank.signed _
  have value : Decimal.toBinary64 (i < 0) ⟨i.natAbs, 0⟩ = .ofInt i := by
    rw [Decimal.toBinary64_eq_round, Binary64.ofInt]
    simp only [Int.toNat_zero, Int.neg_zero, Nat.pow_zero, Nat.mul_one]
  rw [← String.ofList_toList (s := numeral i),
    parseNumber_ofList unblank (readDecimal_numeral i), value]

end Tabulate
