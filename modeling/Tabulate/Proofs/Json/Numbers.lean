import Mathlib.Data.List.Basic
import Tabulate.Json.Reader
import Tabulate.Proofs.Number.Reading

/-!
# Numbers in JSON text

The reader takes numbers apart in its own way: a whole part without zeros in front, a fraction and
an exponent. The numerals of integers and the texts of finite binary numbers are of this form, so
both are read back, whatever follows them, as long as it cannot be taken for more of the number.
-/

namespace Tabulate

/-! ### Digits -/

/-- The numeral of a positive number does not start with a zero. -/
theorem head?_toDigits_ne_zero {n : Nat} (positive : 0 < n) :
    (Nat.toDigits 10 n).head? ≠ some '0' := by
  induction n using Nat.strongRecOn with
  | ind n ih =>
    -- the numeral of a greater number starts as that of its quotient by ten does
    by_cases small : n < 10
    · have nonzero : ∀ d : Fin 10, 0 < d.val → d.val.digitChar ≠ '0' := by decide
      rw [Nat.toDigits_of_lt_base small, List.head?_cons]
      intro zero
      exact nonzero ⟨n, small⟩ positive (Option.some.inj zero)
    · have front : 0 < n / 10 := Nat.div_pos (Nat.le_of_not_lt small) (by decide)
      rw [Nat.toDigits_of_base_le (by decide) (Nat.le_of_not_lt small),
        List.head?_append_of_ne_nil _ Nat.toDigits_ne_nil]
      exact ih (n / 10) (by omega) front

namespace Json

/-- The whole part of a number as JSON has it: a zero by itself, or digits that do not start with
one. -/
def Whole (cs : List Char) : Prop := cs = ['0'] ∨ (AllDigits cs ∧ cs ≠ [] ∧ cs.head? ≠ some '0')

theorem Whole.allDigits {cs : List Char} (h : Whole cs) : AllDigits cs := by
  rcases h with rfl | ⟨digits, -, -⟩
  · exact allDigits_replicate_zero 1
  · exact digits

theorem Whole.ne_nil {cs : List Char} (h : Whole cs) : cs ≠ [] := by
  rcases h with rfl | ⟨-, nonempty, -⟩
  · simp
  · exact nonempty

/-- Whatever follows, a whole part starts with a digit. -/
theorem Whole.head?_append {cs : List Char} (h : Whole cs) (rest : List Char) :
    ∀ c ∈ (cs ++ rest).head?, c.isDigit := by
  rw [List.head?_append_of_ne_nil _ h.ne_nil]
  intro c hc
  exact h.allDigits c (List.mem_of_mem_head? hc)

theorem whole_toDigits (n : Nat) : Whole (Nat.toDigits 10 n) := by
  rcases Nat.eq_zero_or_pos n with rfl | positive
  · exact .inl rfl
  · exact .inr ⟨allDigits_toDigits n, Nat.toDigits_ne_nil, head?_toDigits_ne_zero positive⟩

/-- What starts like digits that are no zero, and goes on with digits, is a whole part. -/
theorem whole_of_prefix {front back : List Char} (digits : AllDigits (front ++ back))
    (nonempty : front ≠ []) (nonzero : front.head? ≠ some '0') : Whole (front ++ back) := by
  refine .inr ⟨digits, List.append_ne_nil_of_left_ne_nil nonempty back, ?_⟩
  rwa [List.head?_append_of_ne_nil _ nonempty]

/-- What may follow a number: nothing, or a character that no number goes on with. -/
def Stops (rest : List Char) : Prop :=
  ∀ c ∈ rest.head?, c.isDigit = false ∧ c ≠ '.' ∧ c ≠ 'e' ∧ c ≠ 'E'

/-! ### The parts of a number -/

section Parts

variable {cs rest : List Char}

theorem spanDigits_append (digits : AllDigits cs) (stop : ∀ c ∈ rest.head?, c.isDigit = false) :
    spanDigits (cs ++ rest) = (cs, rest) := by
  induction cs with
  | nil =>
    cases rest with
    | nil => rfl
    | cons c rest => simp [spanDigits, stop c rfl]
  | cons c cs ih =>
    have first : c.isDigit := digits c List.mem_cons_self
    have others := ih fun d hd => digits d (List.mem_cons_of_mem _ hd)
    simp only [spanDigits, Prod.mk.injEq] at others
    simp [spanDigits, first, others]

theorem readWhole_append (whole : Whole cs) (stop : ∀ c ∈ rest.head?, c.isDigit = false) :
    readWhole (cs ++ rest) = some (cs, rest) := by
  rcases whole with rfl | ⟨digits, nonempty, nonzero⟩
  · rfl
  · obtain ⟨c, others, rfl⟩ := List.exists_cons_of_ne_nil nonempty
    have span : spanDigits (c :: others ++ rest) = (c :: others, rest) :=
      spanDigits_append digits stop
    unfold readWhole
    split
    · rename_i same
      obtain ⟨rfl, -⟩ := List.cons.inj same
      exact absurd rfl nonzero
    · rw [span]

theorem readFraction_point (digits : AllDigits cs) (nonempty : cs ≠ [])
    (stop : ∀ c ∈ rest.head?, c.isDigit = false) :
    readFraction ('.' :: (cs ++ rest)) = (some cs, rest) := by
  obtain ⟨c, others, rfl⟩ := List.exists_cons_of_ne_nil nonempty
  have span : spanDigits (c :: others ++ rest) = (c :: others, rest) :=
    spanDigits_append digits stop
  simp only [readFraction, span]

theorem readFraction_none (stop : ∀ c ∈ rest.head?, c ≠ '.') :
    readFraction rest = (none, rest) := by
  unfold readFraction
  split
  · exact absurd rfl (stop '.' rfl)
  · rfl

theorem readPower_exponentMark (e : Int) (stop : ∀ c ∈ rest.head?, c.isDigit = false) :
    readPower (Decimal.exponentMark e ++ rest) = (some e, rest) := by
  obtain ⟨digits, mark, allDigits, nonempty, value⟩ := exists_exponentMark e
  obtain ⟨c, others, rfl⟩ := List.exists_cons_of_ne_nil nonempty
  have span : spanDigits (c :: (others ++ rest)) = (c :: others, rest) :=
    spanDigits_append allDigits stop
  rw [mark, List.cons_append, List.cons_append, readPower, if_pos (Or.inl rfl), readSign_mark]
  simp only [List.cons_append, span, value, withSign_natAbs]

theorem readPower_none (stop : ∀ c ∈ rest.head?, c ≠ 'e' ∧ c ≠ 'E') :
    readPower rest = (none, rest) := by
  cases rest with
  | nil => rfl
  | cons c rest =>
    have other : ¬ (c = 'e' ∨ c = 'E') := by
      rintro (rfl | rfl)
      · exact (stop 'e' rfl).1 rfl
      · exact (stop 'E' rfl).2 rfl
    rw [readPower, if_neg other]

end Parts

/-! ### Whole numbers and others -/

theorem signed_append (negative : Bool) (cs rest : List Char) :
    signed negative cs ++ rest = signed negative (cs ++ rest) := by
  cases negative <;> rfl

/-- A number is made of its parts. Without a fraction and an exponent it is an integer. -/
theorem readNumber_signed (negative : Bool) {cs whole behindWhole behindFraction rest : List Char}
    {fraction : Option (List Char)} {power : Option Int} (digit : ∀ c ∈ cs.head?, c.isDigit)
    (front : readWhole cs = some (whole, behindWhole))
    (middle : readFraction behindWhole = (fraction, behindFraction))
    (back : readPower behindFraction = (power, rest)) :
    readNumber (signed negative cs) =
      if fraction.isNone ∧ power.isNone then
        if maxIntegerDigits < whole.length then .error (.integerTooLong whole.length)
        else .ok (.int (withSign negative (Nat.ofDigitChars 10 whole 0)), rest)
      else
        let digits := fraction.getD []
        let decimal : Decimal :=
          ⟨Nat.ofDigitChars 10 (whole ++ digits) 0, power.getD 0 - digits.length⟩
        .ok (.float (decimal.toBinary64 negative), rest) := by
  unfold readNumber
  split
  rename_i sign magnitude signs
  have signs : (negative, cs) = (sign, magnitude) := by
    rw [← signs]
    cases negative with
    | true => rfl
    | false =>
      -- without a sign the text starts with a digit, so nothing is taken off it
      split
      · rename_i tail minus
        have minus : cs = '-' :: tail := minus
        subst minus
        cases digit '-' rfl
      · rfl
  obtain ⟨rfl, rfl⟩ := Prod.mk.inj signs
  simp only [front, middle, back]

/-- The texts of positive binary numbers as JSON has them: a whole part with a fraction, a power of
ten or both. -/
inductive Spells : List Char → Decimal → Prop
  | plain {whole fraction : List Char} (first : Whole whole) (digits : AllDigits fraction)
      (nonempty : fraction ≠ []) :
      Spells (whole ++ '.' :: fraction)
        ⟨Nat.ofDigitChars 10 (whole ++ fraction) 0, -fraction.length⟩
  | power {whole fraction : List Char} (first : Whole whole) (digits : AllDigits fraction)
      (nonempty : fraction ≠ []) (e : Int) :
      Spells (whole ++ '.' :: (fraction ++ Decimal.exponentMark e))
        ⟨Nat.ofDigitChars 10 (whole ++ fraction) 0, e - fraction.length⟩
  | wholePower {whole : List Char} (first : Whole whole) (e : Int) :
      Spells (whole ++ Decimal.exponentMark e) ⟨Nat.ofDigitChars 10 whole 0, e⟩

section Spelled

variable {cs rest : List Char} {d : Decimal}

theorem Spells.ne_nil (h : Spells cs d) : cs ≠ [] := by
  cases h with
  | plain first digits nonempty => exact List.append_ne_nil_of_left_ne_nil first.ne_nil _
  | power first digits nonempty e => exact List.append_ne_nil_of_left_ne_nil first.ne_nil _
  | wholePower first e => exact List.append_ne_nil_of_left_ne_nil first.ne_nil _

theorem Spells.head? (h : Spells cs d) : ∀ c ∈ cs.head?, c.isDigit := by
  cases h with
  | plain first digits nonempty => exact first.head?_append _
  | power first digits nonempty e => exact first.head?_append _
  | wholePower first e => exact first.head?_append _

/-- Number literals in general are read in the same way. -/
theorem Spells.readDecimal (h : Spells cs d) (negative : Bool) :
    readDecimal (signed negative cs) = some (negative, d) := by
  cases h with
  | plain first digits nonempty =>
    exact readDecimal_plain negative first.allDigits first.ne_nil digits
  | power first digits nonempty e =>
    exact readDecimal_point negative first.allDigits first.ne_nil digits
      (readExponent_exponentMark e) fun c hc => (head?_exponentMark e c hc).1
  | wholePower first e =>
    exact readDecimal_whole negative first.allDigits first.ne_nil (readExponent_exponentMark e)
      (head?_exponentMark e)

theorem Spells.readNumber (h : Spells cs d) (negative : Bool) (stops : Stops rest) :
    readNumber (signed negative cs ++ rest) = .ok (.float (d.toBinary64 negative), rest) := by
  have stop : ∀ c ∈ rest.head?, c.isDigit = false := fun c hc => (stops c hc).1
  have noPower : readPower rest = (none, rest) := readPower_none fun c hc => (stops c hc).2.2
  have digit : ∀ c ∈ (cs ++ rest).head?, c.isDigit := by
    intro c hc
    rw [List.head?_append_of_ne_nil _ h.ne_nil] at hc
    exact h.head? c hc
  rw [signed_append]
  cases h with
  | @plain whole fraction first digits nonempty =>
    have front : readWhole (whole ++ '.' :: fraction ++ rest) =
        some (whole, '.' :: (fraction ++ rest)) := by
      rw [List.append_assoc]
      exact readWhole_append first (by simp)
    rw [readNumber_signed negative digit front (readFraction_point digits nonempty stop) noPower]
    simp
  | @power whole fraction first digits nonempty e =>
    have front : readWhole (whole ++ '.' :: (fraction ++ Decimal.exponentMark e) ++ rest) =
        some (whole, '.' :: (fraction ++ (Decimal.exponentMark e ++ rest))) := by
      rw [List.append_assoc, List.cons_append, List.append_assoc]
      exact readWhole_append first (by simp)
    have middle : readFraction ('.' :: (fraction ++ (Decimal.exponentMark e ++ rest))) =
        (some fraction, Decimal.exponentMark e ++ rest) :=
      readFraction_point digits nonempty (by simp [Decimal.exponentMark])
    rw [readNumber_signed negative digit front middle (readPower_exponentMark e stop)]
    simp
  | @wholePower whole first e =>
    have front : readWhole (whole ++ Decimal.exponentMark e ++ rest) =
        some (whole, Decimal.exponentMark e ++ rest) := by
      rw [List.append_assoc]
      exact readWhole_append first (by simp [Decimal.exponentMark])
    have middle : readFraction (Decimal.exponentMark e ++ rest) =
        (none, Decimal.exponentMark e ++ rest) :=
      readFraction_none (by simp [Decimal.exponentMark])
    rw [readNumber_signed negative digit front middle (readPower_exponentMark e stop)]
    simp

end Spelled

/-! ### The layout of decimals -/

/-- The layout of a decimal other than zero is such a text. -/
theorem exists_spells_layout {d : Decimal} (nonzero : d.digits ≠ 0) : ∃ e, Spells d.layout e := by
  have allDigits : AllDigits (Nat.toDigits 10 d.digits) := allDigits_toDigits d.digits
  have nonempty : Nat.toDigits 10 d.digits ≠ [] := Nat.toDigits_ne_nil
  have first : (Nat.toDigits 10 d.digits).head? ≠ some '0' :=
    head?_toDigits_ne_zero (Nat.pos_of_ne_zero nonzero)
  unfold Decimal.layout
  generalize Nat.toDigits 10 d.digits = digits at allDigits nonempty first ⊢
  have positional (point : Int) : ∃ e, Spells (Decimal.positional digits point) e := by
    unfold Decimal.positional
    split
    · exact ⟨_, .plain (.inl rfl) ((allDigits_replicate_zero _).append allDigits)
        (List.append_ne_nil_of_right_ne_nil _ nonempty)⟩
    rename_i inside
    obtain ⟨n, positive⟩ : ∃ n, point.toNat = n + 1 := ⟨point.toNat - 1, by omega⟩
    obtain ⟨c, others, rfl⟩ := List.exists_cons_of_ne_nil nonempty
    have taken : AllDigits ((c :: others).take (n + 1)) :=
      allDigits.of_sublist (List.take_sublist _ _)
    have whole :
        Whole ((c :: others).take (n + 1) ++ List.replicate (n + 1 - (c :: others).length) '0') :=
      whole_of_prefix (taken.append (allDigits_replicate_zero _)) (by simp) first
    simp only [positive]
    split
    · exact ⟨_, .plain whole (allDigits_replicate_zero 1) (by simp)⟩
    · rename_i fraction
      exact ⟨_, .plain whole (allDigits.of_sublist (List.drop_sublist _ _))
        (by simpa using fraction)⟩
  have scientific (e : Int) : ∃ d', Spells (Decimal.scientific digits e) d' := by
    match digits, nonempty with
    | [c], _ => exact ⟨_, .wholePower (.inr ⟨allDigits, by simp, first⟩) e⟩
    | c :: c' :: rest, _ =>
      have front : Whole [c] := .inr ⟨allDigits.of_sublist (by simp), by simp, first⟩
      have behind : AllDigits (c' :: rest) := allDigits.of_sublist (by simp)
      exact ⟨_, .power front behind (by simp) e⟩
  dsimp only
  split
  · exact positional _
  · exact scientific _

/-! ### Texts of numbers -/

/-- The text of a finite binary number is one that the reader takes apart, and denotes the
number. -/
theorem exists_spells_text {x : Binary64} (finite : x.isFinite) :
    ∃ negative cs d, x.text.toList = signed negative cs ∧ Spells cs d ∧
      d.toBinary64 negative = x := by
  cases x with
  | nan => cases finite
  | infinite negative => cases finite
  | finite negative units representable =>
    by_cases zero : units = 0
    · subst zero
      have whole : Whole ['0'] := .inl rfl
      refine ⟨negative, ['0', '.', '0'], ⟨0, -1⟩, ?_,
        .plain whole (allDigits_replicate_zero 1) (by simp), ?_⟩
      · rw [Binary64.text, if_pos rfl, String.toList_ofList]
        rfl
      · rw [Decimal.toBinary64, if_pos rfl, Binary64.signedZero]
    -- the shortest decimal of any other number denotes it, so it has digits to lay out
    · have digits : (Decimal.shortest units).digits ≠ 0 := by
        intro none
        have value := Decimal.toBinary64_shortest negative representable
        rw [Decimal.toBinary64, if_pos none, Binary64.signedZero] at value
        injection value with _ same
        exact zero same.symm
      obtain ⟨d, spells⟩ := exists_spells_layout digits
      obtain ⟨k, same⟩ := Decimal.readDecimal_layout negative (Decimal.shortest units)
      rw [spells.readDecimal negative] at same
      obtain ⟨-, rfl⟩ := Prod.mk.inj (Option.some.inj same)
      refine ⟨negative, (Decimal.shortest units).layout, _, ?_, spells, ?_⟩
      · rw [Binary64.text, if_neg zero, String.toList_ofList]
      · rw [Decimal.toBinary64_mul_ten_pow, Decimal.toBinary64_shortest negative representable]

variable {rest : List Char}

/-- No word starts as a number does. -/
theorem readAtom_signed (negative : Bool) {cs : List Char} (nonempty : cs ≠ [])
    (digit : ∀ c ∈ cs.head?, c.isDigit) :
    readAtom (signed negative cs) = readNumber (signed negative cs) := by
  obtain ⟨c, cs, rfl⟩ := List.exists_cons_of_ne_nil nonempty
  have isDigit : c.isDigit := digit c rfl
  have other {d : Char} (letter : d.isDigit = false) : (d == c) = false := by
    rw [beq_eq_false_iff_ne]
    rintro rfl
    rw [isDigit] at letter
    cases letter
  have noWord : ∀ entry ∈ keywords, entry.1.isPrefixOf (signed negative (c :: cs)) = false := by
    cases negative with
    | true => simp [keywords, signed, List.isPrefixOf, other]
    | false => simp [keywords, signed, List.isPrefixOf, other]
  rw [readAtom, List.find?_eq_none.2]
  intro entry hentry
  exact ne_true_of_eq_false (noWord entry hentry)

/-- The numeral of an integer is read as the integer, unless it is too long. -/
theorem readAtom_numeral {i : Int} (short : (Nat.toDigits 10 i.natAbs).length ≤ maxIntegerDigits)
    (stops : Stops rest) : readAtom ((numeral i).toList ++ rest) = .ok (.int i, rest) := by
  have whole : Whole (Nat.toDigits 10 i.natAbs) := whole_toDigits _
  have digit := whole.head?_append rest
  have front := readWhole_append whole fun c hc => (stops c hc).1
  have noFraction : readFraction rest = (none, rest) :=
    readFraction_none fun c hc => (stops c hc).2.1
  have noPower : readPower rest = (none, rest) := readPower_none fun c hc => (stops c hc).2.2
  rw [toList_numeral, signed_append,
    readAtom_signed _ (List.append_ne_nil_of_left_ne_nil whole.ne_nil _) digit,
    readNumber_signed _ digit front noFraction noPower, Nat.ofDigitChars_ten_toDigits,
    withSign_natAbs]
  simp [Nat.not_lt.2 short]

/-- The text of a finite binary number is read as the number. -/
theorem readAtom_text {x : Binary64} (finite : x.isFinite) (stops : Stops rest) :
    readAtom (x.text.toList ++ rest) = .ok (.float x, rest) := by
  obtain ⟨negative, cs, d, text, spells, value⟩ := exists_spells_text finite
  have digit : ∀ c ∈ (cs ++ rest).head?, c.isDigit := by
    rw [List.head?_append_of_ne_nil _ spells.ne_nil]
    exact spells.head?
  rw [text, signed_append,
    readAtom_signed _ (List.append_ne_nil_of_left_ne_nil spells.ne_nil _) digit,
    ← signed_append, spells.readNumber negative stops, value]

end Json

end Tabulate
