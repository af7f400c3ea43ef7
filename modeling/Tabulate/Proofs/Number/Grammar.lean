import Tabulate.Proofs.Number.Nearest
import Tabulate.Proofs.Number.Reading

/-!
# The grammar of number literals

A literal taken apart: its sign, the digits in front of the point and behind it, its exponent. The
type admits no others than those with a digit among the first two, and with a digit in the exponent
if there is one. Digits may be of any script.

A text is read as a number if it is a literal, blanks at its ends aside, whose value is rounded to a
finite number, and then it is read as that number.
-/

namespace Tabulate

/-! ### Digits -/

/-- A decimal digit of some script. -/
abbrev Digit := {c : Char // isDecimalDigit c}

namespace Digit

/-- The value of a digit. -/
def value (d : Digit) : Nat := (digitValue? d).get d.2

theorem digitValue?_eq (d : Digit) : digitValue? d = some d.value := (Option.some_get d.2).symm

/-- The text of digits. -/
def text (ds : List Digit) : List Char := ds.map Subtype.val

/-- The number that digits spell in base ten. -/
def number (ds : List Digit) : Nat := ofDigitValues (ds.map value)

end Digit

/-! ### Literals -/

/-- What may stand in front of digits. -/
inductive Sign where
  | none
  | plus
  | minus
  deriving DecidableEq

namespace Sign

/-- The text of a sign. -/
def text : Sign → List Char
  | none => []
  | plus => ['+']
  | minus => ['-']

/-- Whether a sign makes a number negative. -/
def negative : Sign → Bool
  | minus => true
  | _ => false

end Sign

/-- The exponent of a literal. -/
structure Exponent where
  letter : Char
  sign : Sign
  digits : List Digit
  isLetter : letter = 'e' ∨ letter = 'E'
  nonempty : digits ≠ []

namespace Exponent

/-- The text of an exponent, which may be left out. -/
def text : Option Exponent → List Char
  | none => []
  | some e => e.letter :: (e.sign.text ++ Digit.text e.digits)

/-- The power of ten that an exponent stands for. -/
def power : Option Exponent → Int
  | none => 0
  | some e => withSign e.sign.negative (Digit.number e.digits)

end Exponent

/-- A number literal. Digits stand in front of the point or behind it; without a point there is
nothing behind it. -/
structure Literal where
  sign : Sign
  whole : List Digit
  fraction : Option (List Digit)
  exponent : Option Exponent
  nonempty : whole ≠ [] ∨ ∃ ds ∈ fraction, ds ≠ []

namespace Literal

/-- The text of a point and the digits behind it, which may be left out. -/
def fractionText : Option (List Digit) → List Char
  | none => []
  | some ds => '.' :: Digit.text ds

/-- The text of a literal. -/
def text (l : Literal) : List Char :=
  l.sign.text ++ (Digit.text l.whole ++ (fractionText l.fraction ++ Exponent.text l.exponent))

/-- The digits behind the point. -/
def behind (l : Literal) : List Digit := l.fraction.getD []

/-- The value of a literal without its sign. -/
def magnitude (l : Literal) : ℚ :=
  (Digit.number l.whole + Digit.number l.behind / 10 ^ l.behind.length) *
    10 ^ Exponent.power l.exponent

/-- The decimal that a literal spells, its sign aside. -/
def decimal (l : Literal) : Decimal :=
  ⟨Digit.number (l.whole ++ l.behind), Exponent.power l.exponent - l.behind.length⟩

end Literal

/-! ### Reading what is written -/

section Reading

variable {rest : List Char}

/-- Digits are read as far as they go. -/
theorem readDigits_text (ds : List Digit) (stop : ∀ c ∈ rest.head?, digitValue? c = none) :
    readDigits (Digit.text ds ++ rest) = (ds.map Digit.value, rest) := by
  let value (c : Char) : Nat := (digitValue? c).getD 0
  have same (d : Digit) : value d.1 = d.value := congrArg (Option.getD · 0) d.digitValue?_eq
  have digits : ∀ c ∈ Digit.text ds, digitValue? c = some (value c) := by
    intro c hc
    obtain ⟨d, -, rfl⟩ := List.mem_map.1 hc
    rw [same d, Digit.digitValue?_eq d]
  rw [readDigits_of_values digits stop, Digit.text, List.map_map]
  exact congrArg (·, rest) (List.map_congr_left fun d _ => same d)

theorem readSign_text (sign : Sign) (unsigned : ∀ c ∈ rest.head?, c ≠ '-' ∧ c ≠ '+') :
    readSign (sign.text ++ rest) = (sign.negative, rest) := by
  cases sign with
  | none => exact readSign_unsigned unsigned
  | plus => rfl
  | minus => rfl

end Reading

/-- A digit is neither a mark nor a letter. -/
theorem Digit.ne (d : Digit) {c : Char} (other : digitValue? c = none) : d.1 ≠ c := by
  rintro rfl
  rw [d.digitValue?_eq] at other
  cases other

theorem Exponent.head?_text (e : Option Exponent) :
    ∀ c ∈ (text e).head?, digitValue? c = none ∧ c ≠ '.' := by
  intro c hc
  cases e with
  | none => cases hc
  | some e =>
    obtain rfl : e.letter = c := Option.some.inj hc
    rcases e.isLetter with h | h <;> rw [h] <;> decide

/-- An exponent is read as the power that it stands for. -/
theorem readExponent_text (e : Option Exponent) :
    readExponent (Exponent.text e) = some (Exponent.power e) := by
  cases e with
  | none => rfl
  | some e =>
    obtain ⟨d, ds, digits⟩ := List.exists_cons_of_ne_nil e.nonempty
    have sign : readSign (e.sign.text ++ Digit.text e.digits) =
        (e.sign.negative, Digit.text e.digits) := by
      apply readSign_text
      intro c hc
      rw [digits] at hc
      obtain rfl : d.1 = c := Option.some.inj hc
      exact ⟨d.ne (by decide), d.ne (by decide)⟩
    have read : readDigits (Digit.text e.digits) = (e.digits.map Digit.value, []) := by
      have stop : ∀ c ∈ ([] : List Char).head?, digitValue? c = none := by simp
      simpa using readDigits_text e.digits stop
    have nonempty : e.digits.map Digit.value ≠ [] := List.map_eq_nil_iff.not.2 e.nonempty
    rw [Exponent.text, readExponent_cons sign read, if_pos ⟨e.isLetter, nonempty, rfl⟩]
    rfl

namespace Literal

theorem head?_fractionText (fraction : Option (List Digit)) (e : Option Exponent) :
    ∀ c ∈ (fractionText fraction ++ Exponent.text e).head?, digitValue? c = none := by
  intro c hc
  cases fraction with
  | none => exact (Exponent.head?_text e c hc).1
  | some ds =>
    obtain rfl : '.' = c := Option.some.inj hc
    decide

/-- The digits of a literal are read up to its exponent. -/
theorem readMantissa_text (l : Literal) :
    readMantissa (Digit.text l.whole ++ (fractionText l.fraction ++ Exponent.text l.exponent)) =
      (l.whole.map Digit.value, l.behind.map Digit.value, Exponent.text l.exponent) := by
  have front := readDigits_text l.whole (head?_fractionText l.fraction l.exponent)
  unfold behind
  cases fraction : l.fraction with
  | none =>
    rw [fraction] at front
    exact readMantissa_of_whole front fun c hc => (Exponent.head?_text _ c hc).2
  | some ds =>
    rw [fraction] at front
    have back := readDigits_text ds fun c hc => (Exponent.head?_text l.exponent c hc).1
    exact (readMantissa_of_point front).trans (congrArg _ back)

/-- Behind its sign a literal starts with a digit or a point. -/
theorem head?_unsigned (l : Literal) :
    ∀ c ∈ (Digit.text l.whole ++ (fractionText l.fraction ++ Exponent.text l.exponent)).head?,
      c ≠ '-' ∧ c ≠ '+' := by
  intro c hc
  cases whole : l.whole with
  | cons d ds =>
    rw [whole] at hc
    obtain rfl : d.1 = c := Option.some.inj hc
    exact ⟨d.ne (by decide), d.ne (by decide)⟩
  | nil =>
    obtain ⟨ds, fraction, -⟩ := l.nonempty.resolve_left (· whole)
    rw [whole, fraction] at hc
    obtain rfl : '.' = c := Option.some.inj hc
    decide

/-- A literal is read as the decimal that it spells. -/
theorem readDecimal_text (l : Literal) :
    readDecimal l.text = some (l.sign.negative, l.decimal) := by
  have sign : readSign l.text = (l.sign.negative,
      Digit.text l.whole ++ (fractionText l.fraction ++ Exponent.text l.exponent)) :=
    readSign_text l.sign l.head?_unsigned
  have digits : ¬(l.whole.map Digit.value = [] ∧ l.behind.map Digit.value = []) := by
    rw [List.map_eq_nil_iff, List.map_eq_nil_iff]
    rintro ⟨whole, behind⟩
    obtain ⟨ds, fraction, nonempty⟩ := l.nonempty.resolve_left (· whole)
    refine nonempty ?_
    rwa [Literal.behind, fraction] at behind
  rw [readDecimal_eq sign l.readMantissa_text, if_neg digits, readExponent_text, decimal,
    Digit.number, List.map_append, List.length_map]
  rfl

end Literal

/-! ### Literals in what is read -/

section Splitting

variable {cs rest : List Char}

/-- What is read as the values of digits are digits. -/
theorem exists_digits {values : List Nat} (read : readDigits cs = (values, rest)) :
    ∃ ds : List Digit, cs = Digit.text ds ++ rest ∧ ds.map Digit.value = values := by
  induction cs generalizing values with
  | nil =>
    cases read
    exact ⟨[], rfl, rfl⟩
  | cons c cs ih =>
    unfold readDigits at read
    cases digit : digitValue? c with
    | none =>
      rw [digit] at read
      cases read
      exact ⟨[], rfl, rfl⟩
    | some n =>
      rw [digit] at read
      obtain ⟨rfl, after⟩ := Prod.mk.inj read
      obtain ⟨ds, text, values⟩ := ih (Prod.ext rfl after)
      let d : Digit := ⟨c, by rw [isDecimalDigit, digit]; rfl⟩
      have value : d.value = n := Option.some.inj (d.digitValue?_eq.symm.trans digit)
      refine ⟨d :: ds, congrArg (c :: ·) text, ?_⟩
      rw [List.map_cons, values, value]

theorem exists_sign {negative : Bool} (read : readSign cs = (negative, rest)) :
    ∃ sign : Sign, cs = sign.text ++ rest := by
  cases cs with
  | nil =>
    cases read
    exact ⟨.none, rfl⟩
  | cons c cs =>
    rw [readSign_cons] at read
    split at read
    · rename_i minus
      cases read
      exact ⟨.minus, by rw [minus]; rfl⟩
    split at read
    · rename_i plus
      cases read
      exact ⟨.plus, by rw [plus]; rfl⟩
    · cases read
      exact ⟨.none, rfl⟩

theorem exists_mantissa {whole behind : List Nat} (read : readMantissa cs = (whole, behind, rest)) :
    ∃ (ws : List Digit) (fraction : Option (List Digit)),
      cs = Digit.text ws ++ (Literal.fractionText fraction ++ rest) ∧ ws.map Digit.value = whole ∧
      (fraction.getD []).map Digit.value = behind := by
  obtain ⟨⟨values, after⟩, digits⟩ : ∃ split, readDigits cs = split := ⟨_, rfl⟩
  obtain ⟨ws, text, spelled⟩ := exists_digits digits
  by_cases point : after.head? = some '.'
  · obtain ⟨others, rfl⟩ := List.head?_eq_some_iff.1 point
    obtain ⟨rfl, reads⟩ := Prod.mk.inj ((readMantissa_of_point digits).symm.trans read)
    obtain ⟨ds, others, fraction⟩ := exists_digits reads
    refine ⟨ws, some ds, ?_, spelled, fraction⟩
    rw [text, others]
    rfl
  · have stop : ∀ c ∈ after.head?, c ≠ '.' := by
      rintro c hc rfl
      exact point hc
    cases (readMantissa_of_whole digits stop).symm.trans read
    exact ⟨ws, none, text, spelled, rfl⟩

theorem exists_exponent {power : Int} (read : readExponent cs = some power) :
    ∃ e : Option Exponent, cs = Exponent.text e := by
  cases cs with
  | nil => exact ⟨none, rfl⟩
  | cons c cs =>
    obtain ⟨⟨negative, unsigned⟩, signs⟩ : ∃ split, readSign cs = split := ⟨_, rfl⟩
    obtain ⟨⟨values, after⟩, digits⟩ : ∃ split, readDigits unsigned = split := ⟨_, rfl⟩
    rw [readExponent_cons signs digits] at read
    split at read
    · rename_i spelled
      obtain ⟨letter, nonempty, rfl⟩ := spelled
      obtain ⟨sign, signed⟩ := exists_sign signs
      obtain ⟨ds, text, rfl⟩ := exists_digits digits
      rw [List.append_nil] at text
      exact ⟨some ⟨c, sign, ds, letter, List.map_eq_nil_iff.not.1 nonempty⟩,
        by rw [signed, text]; rfl⟩
    · cases read

/-- What is read as a decimal is a literal. -/
theorem exists_literal {negative : Bool} {d : Decimal}
    (read : readDecimal cs = some (negative, d)) : ∃ l : Literal, cs = l.text := by
  obtain ⟨⟨minus, unsigned⟩, signs⟩ : ∃ split, readSign cs = split := ⟨_, rfl⟩
  obtain ⟨⟨whole, behind, after⟩, digits⟩ : ∃ split, readMantissa unsigned = split := ⟨_, rfl⟩
  rw [readDecimal_eq signs digits] at read
  split at read
  · cases read
  · rename_i digit
    obtain ⟨power, exponent, -⟩ := Option.map_eq_some_iff.1 read
    obtain ⟨sign, signed⟩ := exists_sign signs
    obtain ⟨ws, fraction, text, rfl, rfl⟩ := exists_mantissa digits
    obtain ⟨e, rfl⟩ := exists_exponent exponent
    have nonempty : ws ≠ [] ∨ ∃ ds ∈ fraction, ds ≠ [] := by
      by_contra noDigit
      rw [not_or, not_not] at noDigit
      refine digit ⟨by rw [noDigit.1]; rfl, ?_⟩
      cases fraction with
      | none => rfl
      | some ds =>
        have : ds = [] := by simpa using noDigit.2
        rw [this]
        rfl
    exact ⟨⟨sign, ws, fraction, e, nonempty⟩, by rw [signed, text]; rfl⟩

end Splitting

/-! ### What literals denote -/

theorem ofDigitValues_append (front back : List Nat) :
    ofDigitValues (front ++ back) =
      ofDigitValues front * 10 ^ back.length + ofDigitValues back := by
  have shifted (start : Nat) : back.foldl (fun n d => 10 * n + d) start =
      start * 10 ^ back.length + ofDigitValues back := by
    unfold ofDigitValues
    induction back generalizing start with
    | nil => simp
    | cons d ds ih =>
      rw [List.foldl_cons, List.foldl_cons, ih, ih (10 * 0 + d), List.length_cons, Nat.pow_succ]
      ring
  rw [ofDigitValues, List.foldl_append, shifted]
  rfl

theorem Digit.number_append (front back : List Digit) :
    number (front ++ back) = number front * 10 ^ back.length + number back := by
  simp only [number, List.map_append, ofDigitValues_append, List.length_map]

namespace Literal

/-- The decimal that a literal spells has its value. -/
theorem value_decimal (l : Literal) : l.decimal.value = l.magnitude := by
  have ten : (10 : ℚ) ≠ 0 := by norm_num
  rw [Decimal.value, decimal, magnitude, Digit.number_append, zpow_sub₀ ten, zpow_natCast]
  push_cast
  field_simp

variable {text : String} {l : Literal}

theorem parseNumber_eq (spells : trim isBlank text.toList = l.text) :
    parseNumber text =
      if (l.decimal.toBinary64 l.sign.negative).isFinite
      then some (l.decimal.toBinary64 l.sign.negative) else none := by
  rw [parseNumber, spells, readDecimal_text]

end Literal

/-- A text is read as a number just if it is a literal whose value is rounded to this number. -/
theorem parseNumber_eq_some_iff {text : String} {x : Binary64} :
    parseNumber text = some x ↔
      ∃ l : Literal, trim isBlank text.toList = l.text ∧
        x.IsNearest l.sign.negative l.magnitude := by
  constructor
  · intro read
    cases decimal : readDecimal (trim isBlank text.toList) with
    | none =>
      rw [parseNumber, decimal] at read
      cases read
    | some spelled =>
      obtain ⟨negative, d⟩ := spelled
      obtain ⟨l, spells⟩ := exists_literal decimal
      rw [l.parseNumber_eq spells] at read
      refine ⟨l, spells, ?_⟩
      rw [← l.value_decimal, Decimal.isNearest_iff_toBinary64]
      split at read
      · rename_i finite
        cases read
        exact ⟨rfl, finite⟩
      · cases read
  · rintro ⟨l, spells, nearest⟩
    rw [← l.value_decimal, Decimal.isNearest_iff_toBinary64] at nearest
    rw [l.parseNumber_eq spells, nearest.1, if_pos nearest.2]

end Tabulate
