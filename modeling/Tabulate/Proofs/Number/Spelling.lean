import Mathlib.Data.List.TakeWhile
import Tabulate.Proofs.Number.Grammar

/-!
# Spellings of a number

How a number is spelled does not matter: not the script of its digits, not blanks at the ends of the
text, not zeros in front of the digits. A literal with the other sign denotes the number with the
other sign.
-/

namespace Tabulate

/-! ### Digits of other scripts -/

/-- The ASCII digit of the same value in place of a digit; other characters are left alone. -/
def asciiDigit (c : Char) : Char :=
  match digitValue? c with
  | some d => d.digitChar
  | none => c

theorem digitValue?_digitChar {d : Nat} (h : d < 10) : digitValue? d.digitChar = some d := by
  have all : ∀ d : Fin 10, digitValue? d.val.digitChar = some d.val := by decide
  exact all ⟨d, h⟩

theorem digitValue?_asciiDigit (c : Char) : digitValue? (asciiDigit c) = digitValue? c := by
  unfold asciiDigit
  cases digit : digitValue? c with
  | none => exact digit
  | some d => exact digitValue?_digitChar (digitValue?_lt digit)

/-- What is no digit stays what it is, and nothing else becomes it. -/
theorem asciiDigit_eq_iff {c mark : Char} (other : digitValue? mark = none) :
    asciiDigit c = mark ↔ c = mark := by
  constructor
  · rintro rfl
    rw [digitValue?_asciiDigit] at other
    rw [asciiDigit, other]
  · rintro rfl
    rw [asciiDigit, other]

/-- A digit is no blank. -/
theorem isBlank_eq_false {c : Char} (digit : isDecimalDigit c) : isBlank c = false := by
  have all : ∀ first ∈ digitZeros, ∀ k : Fin 10, isBlank (Char.ofNat (first + k)) = false := by
    decide +kernel
  obtain ⟨d, value⟩ := Option.isSome_iff_exists.1 digit
  obtain ⟨first, found, -⟩ := Option.map_eq_some_iff.1 value
  have range : first ≤ c.toNat ∧ c.toNat < first + 10 := by simpa using List.find?_some found
  have unblank := all first (List.mem_of_find?_eq_some found) ⟨c.toNat - first, by omega⟩
  rwa [Nat.add_sub_cancel' range.1, Char.ofNat_toNat] at unblank

theorem isBlank_asciiDigit (c : Char) : isBlank (asciiDigit c) = isBlank c := by
  cases digit : digitValue? c with
  | none => rw [asciiDigit, digit]
  | some d =>
    rw [isBlank_eq_false (c := c), isBlank_eq_false]
    · rw [isDecimalDigit, digitValue?_asciiDigit, digit]
      rfl
    · rw [isDecimalDigit, digit]
      rfl

section Mapped

variable (cs : List Char)

theorem readDigits_map :
    readDigits (cs.map asciiDigit) = ((readDigits cs).1, (readDigits cs).2.map asciiDigit) := by
  induction cs with
  | nil => rfl
  | cons c cs ih =>
    rw [List.map_cons, readDigits, readDigits, digitValue?_asciiDigit]
    cases digit : digitValue? c with
    | none => rfl
    | some d => simp only [ih]

theorem readSign_map :
    readSign (cs.map asciiDigit) = ((readSign cs).1, (readSign cs).2.map asciiDigit) := by
  cases cs with
  | nil => rfl
  | cons c cs =>
    have minus : asciiDigit c = '-' ↔ c = '-' := asciiDigit_eq_iff (by decide)
    have plus : asciiDigit c = '+' ↔ c = '+' := asciiDigit_eq_iff (by decide)
    simp only [List.map_cons, readSign_cons, minus, plus]
    split
    · rfl
    split
    · rfl
    · rfl

theorem readMantissa_map :
    readMantissa (cs.map asciiDigit) =
      ((readMantissa cs).1, (readMantissa cs).2.1, (readMantissa cs).2.2.map asciiDigit) := by
  obtain ⟨⟨values, after⟩, digits⟩ : ∃ split, readDigits cs = split := ⟨_, rfl⟩
  have mapped : readDigits (cs.map asciiDigit) = (values, after.map asciiDigit) := by
    rw [readDigits_map, digits]
  by_cases point : after.head? = some '.'
  · obtain ⟨others, rfl⟩ := List.head?_eq_some_iff.1 point
    rw [readMantissa_of_point digits]
    exact (readMantissa_of_point mapped).trans (congrArg _ (readDigits_map others))
  · have stop : ∀ c ∈ after.head?, c ≠ '.' := by
      rintro c hc rfl
      exact point hc
    rw [readMantissa_of_whole digits stop, readMantissa_of_whole mapped]
    intro c hc
    rw [List.head?_map] at hc
    obtain ⟨c', hc', rfl⟩ := Option.map_eq_some_iff.1 hc
    rw [Ne, asciiDigit_eq_iff (by decide)]
    exact stop c' hc'

theorem readExponent_map : readExponent (cs.map asciiDigit) = readExponent cs := by
  cases cs with
  | nil => rfl
  | cons c cs =>
    obtain ⟨⟨negative, unsigned⟩, signs⟩ : ∃ split, readSign cs = split := ⟨_, rfl⟩
    obtain ⟨⟨values, after⟩, digits⟩ : ∃ split, readDigits unsigned = split := ⟨_, rfl⟩
    have signs' : readSign (cs.map asciiDigit) = (negative, unsigned.map asciiDigit) := by
      rw [readSign_map, signs]
    have digits' : readDigits (unsigned.map asciiDigit) = (values, after.map asciiDigit) := by
      rw [readDigits_map, digits]
    have lower : asciiDigit c = 'e' ↔ c = 'e' := asciiDigit_eq_iff (by decide)
    have upper : asciiDigit c = 'E' ↔ c = 'E' := asciiDigit_eq_iff (by decide)
    simp only [List.map_cons, readExponent_cons signs digits, readExponent_cons signs' digits',
      lower, upper, List.map_eq_nil_iff]

/-- The script of digits does not matter. -/
theorem readDecimal_map : readDecimal (cs.map asciiDigit) = readDecimal cs := by
  obtain ⟨⟨negative, unsigned⟩, signs⟩ : ∃ split, readSign cs = split := ⟨_, rfl⟩
  obtain ⟨⟨whole, behind, after⟩, digits⟩ : ∃ split, readMantissa unsigned = split := ⟨_, rfl⟩
  have signs' : readSign (cs.map asciiDigit) = (negative, unsigned.map asciiDigit) := by
    rw [readSign_map, signs]
  have digits' : readMantissa (unsigned.map asciiDigit) =
      (whole, behind, after.map asciiDigit) := by
    rw [readMantissa_map, digits]
  rw [readDecimal_eq signs digits, readDecimal_eq signs' digits', readExponent_map]

theorem trim_map : trim isBlank (cs.map asciiDigit) = (trim isBlank cs).map asciiDigit := by
  have same : isBlank ∘ asciiDigit = isBlank := funext isBlank_asciiDigit
  rw [trim, List.dropWhile_map, same, ← List.map_reverse, List.dropWhile_map, same,
    ← List.map_reverse, trim]

end Mapped

/-- The script of digits does not matter. -/
theorem parseNumber_map (text : String) :
    parseNumber (String.ofList (text.toList.map asciiDigit)) = parseNumber text := by
  rw [parseNumber, String.toList_ofList, trim_map, readDecimal_map, parseNumber]

/-! ### Blanks -/

/-- Further blanks at the ends of a text are trimmed as well. -/
theorem trim_append {p : Char → Bool} {front back : List Char} (hf : ∀ c ∈ front, p c)
    (hb : ∀ c ∈ back, p c) (cs : List Char) : trim p (front ++ cs ++ back) = trim p cs := by
  have behind : back.dropWhile p = [] := List.dropWhile_eq_nil_iff.2 hb
  rw [trim, trim, List.append_assoc, List.dropWhile_append_of_pos hf, List.dropWhile_append]
  split
  · rename_i blank
    rw [behind, List.isEmpty_iff.1 blank]
  · rw [List.reverse_append, List.dropWhile_append_of_pos]
    exact fun c hc => hb c (List.mem_reverse.1 hc)

theorem parseNumber_append {front back : List Char} (hf : ∀ c ∈ front, isBlank c)
    (hb : ∀ c ∈ back, isBlank c) (text : String) :
    parseNumber (String.ofList (front ++ text.toList ++ back)) = parseNumber text := by
  rw [parseNumber, String.toList_ofList, trim_append hf hb, parseNumber]

namespace Digit

theorem unblank_text (ds : List Digit) : Unblank (text ds) := by
  intro c hc
  obtain ⟨d, -, rfl⟩ := List.mem_map.1 hc
  exact isBlank_eq_false d.2

end Digit

theorem Sign.unblank_text (sign : Sign) : Unblank sign.text := by cases sign <;> decide

theorem Exponent.unblank_text (e : Option Exponent) : Unblank (text e) := by
  cases e with
  | none => decide
  | some e =>
    refine Unblank.cons ?_ (e.sign.unblank_text.append (Digit.unblank_text e.digits))
    rcases e.isLetter with h | h <;> rw [h] <;> decide

namespace Literal

variable (l : Literal)

theorem unblank_text : Unblank l.text := by
  have fraction : Unblank (fractionText l.fraction) := by
    cases l.fraction with
    | none => decide
    | some ds => exact (Digit.unblank_text ds).cons (by decide)
  exact l.sign.unblank_text.append
    ((Digit.unblank_text l.whole).append (fraction.append (Exponent.unblank_text l.exponent)))

/-- Only the blanks around a literal are trimmed. -/
theorem trim_padded {front back : List Char} (hf : ∀ c ∈ front, isBlank c)
    (hb : ∀ c ∈ back, isBlank c) :
    trim isBlank (String.ofList (front ++ l.text ++ back)).toList = l.text := by
  rw [String.toList_ofList, trim_append hf hb, l.unblank_text.trim_eq]

end Literal

/-! ### Zeros and signs -/

theorem Digit.number_zeros {zeros : List Digit} (zero : ∀ d ∈ zeros, d.value = 0) :
    number zeros = 0 := by
  have values : zeros.map value = List.replicate zeros.length 0 := by
    rw [List.eq_replicate_iff, List.length_map]
    exact ⟨rfl, List.forall_mem_map.2 zero⟩
  rw [number, values, ofDigitValues]
  induction zeros.length with
  | zero => rfl
  | succ n ih => exact ih

namespace Literal

/-- The literal with other zeros in front of its digits. -/
def withZeros (l : Literal) (zeros : List Digit) : Literal where
  sign := l.sign
  whole := zeros ++ l.whole
  fraction := l.fraction
  exponent := l.exponent
  nonempty := l.nonempty.imp_left (List.append_ne_nil_of_right_ne_nil zeros)

/-- The literal with another sign. -/
def withSign (l : Literal) (sign : Sign) : Literal := { l with sign := sign }

variable {l : Literal} {text other : String} (spells : trim isBlank text.toList = l.text)
include spells

/-- Zeros in front of the digits do not matter. -/
theorem parseNumber_withZeros {zeros : List Digit} (zero : ∀ d ∈ zeros, d.value = 0)
    (others : trim isBlank other.toList = (l.withZeros zeros).text) :
    parseNumber other = parseNumber text := by
  have same : (l.withZeros zeros).decimal = l.decimal := by
    have digits : Digit.number (zeros ++ l.whole ++ l.behind) =
        Digit.number (l.whole ++ l.behind) := by
      rw [List.append_assoc, Digit.number_append, Digit.number_zeros zero,
        Nat.zero_mul, Nat.zero_add]
    exact congrArg (Decimal.mk · _) digits
  rw [parseNumber_eq others, parseNumber_eq spells, same]
  rfl

/-- With the other sign a literal denotes the number with the other sign. -/
theorem parseNumber_withSign {sign : Sign}
    (others : trim isBlank other.toList = (l.withSign sign).text) :
    parseNumber other =
      if sign.negative = l.sign.negative then parseNumber text
      else (parseNumber text).map Binary64.neg := by
  have decimal : (l.withSign sign).decimal = l.decimal := rfl
  have negative : (l.withSign sign).sign.negative = sign.negative := rfl
  rw [parseNumber_eq others, parseNumber_eq spells, decimal, negative]
  by_cases same : sign.negative = l.sign.negative
  · rw [if_pos same, same]
  · rw [if_neg same, Bool.eq_not.2 same, Decimal.toBinary64_not, Binary64.isFinite_neg]
    split <;> rfl

end Literal

/-- A text is read as a number just if it is a literal, blanks at its ends aside, whose value is
rounded to a finite number, and then as this number. Neither the script of its digits nor blanks at
its ends nor zeros in front of its digits matter, and with the other sign it is read as the number
with the other sign. -/
theorem parseNumber_grammar (text : String) :
    (∀ x, parseNumber text = some x ↔
      ∃ l : Literal, trim isBlank text.toList = l.text ∧ x.IsNearest l.sign.negative l.magnitude) ∧
    (∀ x, parseNumber text = some x → x.isFinite) ∧
    parseNumber (String.ofList (text.toList.map asciiDigit)) = parseNumber text ∧
    ∀ front back : List Char, (∀ c ∈ front, isBlank c) → (∀ c ∈ back, isBlank c) →
      parseNumber (String.ofList (front ++ text.toList ++ back)) = parseNumber text ∧
      ∀ l : Literal, trim isBlank text.toList = l.text →
        (∀ zeros : List Digit, (∀ d ∈ zeros, d.value = 0) →
          parseNumber (String.ofList (front ++ (l.withZeros zeros).text ++ back)) =
            parseNumber text) ∧
        ∀ sign, parseNumber (String.ofList (front ++ (l.withSign sign).text ++ back)) =
          if sign.negative = l.sign.negative then parseNumber text
          else (parseNumber text).map Binary64.neg := by
  refine ⟨fun _ => parseNumber_eq_some_iff, ?_, parseNumber_map text, ?_⟩
  · intro x read
    obtain ⟨l, -, n, representable, rfl, -⟩ := parseNumber_eq_some_iff.1 read
    rfl
  intro front back hf hb
  refine ⟨parseNumber_append hf hb text, fun l spells => ⟨fun zeros zero => ?_, fun sign => ?_⟩⟩
  · exact l.parseNumber_withZeros spells zero (Literal.trim_padded _ hf hb)
  · exact l.parseNumber_withSign spells (Literal.trim_padded _ hf hb)

/-- Minus thirty-five with an Arabic and two Latin digits. -/
theorem parseNumber_grammar_arabic_digit :
    let text := " -\u0663.5E+1"
    let l : Literal :=
      { sign := .minus, whole := [⟨'\u0663', by decide⟩], fraction := some [⟨'5', by decide⟩],
        exponent := some ⟨'E', .plus, [⟨'1', by decide⟩], by decide, by simp⟩,
        nonempty := .inl (by simp) }
    trim isBlank text.toList = l.text ∧ parseNumber text = some (.ofInt (-35)) ∧
      (∃ spelled : Literal, trim isBlank text.toList = spelled.text ∧
        (Binary64.ofInt (-35)).IsNearest spelled.sign.negative spelled.magnitude) ∧
      parseNumber " -3.5E+1" = some (.ofInt (-35)) ∧
      parseNumber "\u2003 -\u0663.5E+1\n" = some (.ofInt (-35)) ∧
      parseNumber "\u2003-0\u0660\u0663.5E+1\n" = some (.ofInt (-35)) ∧
      parseNumber "\u2003+\u0663.5E+1\n" = some (Binary64.ofInt (-35)).neg := by
  intro text l
  have spells : trim isBlank text.toList = l.text := by decide +kernel
  have read : parseNumber text = some (.ofInt (-35)) := by decide +kernel
  have front : ∀ c ∈ ['\u2003'], isBlank c := List.all_eq_true.1 rfl
  have back : ∀ c ∈ ['\n'], isBlank c := List.all_eq_true.1 rfl
  obtain ⟨accepted, -, script, spelled⟩ := parseNumber_grammar text
  obtain ⟨padded, other⟩ := spelled ['\u2003'] ['\n'] front back
  obtain ⟨zeros, sign⟩ := other l spells
  refine ⟨spells, read, (accepted _).1 read, ?_, ?_, ?_, ?_⟩
  · exact Eq.trans (congrArg parseNumber (by decide +kernel)) (script.trans read)
  · exact Eq.trans (congrArg parseNumber (by decide +kernel)) (padded.trans read)
  · have zero := zeros [⟨'0', by decide⟩, ⟨'\u0660', by decide⟩] (by decide)
    exact Eq.trans (congrArg parseNumber (by decide +kernel)) (zero.trans read)
  · have plus := sign .plus
    rw [if_neg (by decide), read] at plus
    exact Eq.trans (congrArg parseNumber (by decide +kernel)) plus

-- Texts that look like numbers, and a number that is too large.
example :
    ∀ text ∈ ["", ".", "+", "1_0", "nan", "-inf", "0x1", "1e", "1e+", ".e1", "1 0", "--1", "2e308"],
      parseNumber text = none := by
  decide +kernel

end Tabulate
