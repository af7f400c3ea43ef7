import Tabulate.Proofs.Json.ReadBack
import Tabulate.Proofs.Json.Shown

/-!
# The grammar of JSON

The strict grammar of JSON texts, with what each of them stands for. There is no word but `null`,
`true` and `false`, so no text stands for a number that is none; in a string no quotation mark,
backslash or control character stands for itself; and half a pair of units does not spell a
character.

What is written for a value follows the grammar and stands for the value, if nothing in it is
missing and its numbers are finite: `Json.grammar_writeValue`.
-/

namespace Tabulate.Json

/-! ### Strings -/

/-- The ways to spell a character in a string. -/
inductive CharText : Char → List Char → Prop
  /-- By itself, unless it is a quotation mark, a backslash or a control character. -/
  | plain {c : Char} (mark : c ≠ '"') (backslash : c ≠ '\\') (control : ¬c.toNat < 0x20) :
      CharText c [c]
  /-- By a letter or mark behind a backslash. -/
  | short {c e : Char} (escaped : escaped? e = some c) : CharText c ['\\', e]
  /-- By the digits of its unit. -/
  | unit {a b c d : Char} {n : Nat} (digits : codeUnit? a b c d = some n)
      (high : isHighUnit n = false) (low : isLowUnit n = false) :
      CharText (Char.ofNat n) ['\\', 'u', a, b, c, d]
  /-- By the digits of the two units of its pair. -/
  | pair {a b c d a' b' c' d' : Char} {m n : Nat} (digits : codeUnit? a b c d = some m)
      (high : isHighUnit m) (digits' : codeUnit? a' b' c' d' = some n) (low : isLowUnit n) :
      CharText (pairChar m n) ['\\', 'u', a, b, c, d, '\\', 'u', a', b', c', d']

/-- The texts that spell characters one after another. -/
inductive CharsText : List Char → List Char → Prop
  | nil : CharsText [] []
  | cons {c : Char} {cs front back : List Char} (first : CharText c front)
      (others : CharsText cs back) : CharsText (c :: cs) (front ++ back)

/-- The texts of a string. -/
inductive StringText : String → List Char → Prop
  | mk {s : String} {cs : List Char} (chars : CharsText s.toList cs) :
      StringText s ('"' :: (cs ++ ['"']))

/-! ### Numbers -/

/-- The texts of a fraction, which may be left out. -/
inductive FractionText : Option (List Char) → List Char → Prop
  | none : FractionText none []
  | some {digits : List Char} (all : AllDigits digits) (nonempty : digits ≠ []) :
      FractionText (some digits) ('.' :: digits)

/-- The texts of a sign in an exponent. -/
inductive SignText : Bool → List Char → Prop
  | none : SignText false []
  | plus : SignText false ['+']
  | minus : SignText true ['-']

/-- The texts of an exponent, which may be left out. -/
inductive PowerText : Option Int → List Char → Prop
  | none : PowerText none []
  | some {e : Char} {negative : Bool} {mark digits : List Char} (letter : e = 'e' ∨ e = 'E')
      (sign : SignText negative mark) (all : AllDigits digits) (nonempty : digits ≠ []) :
      PowerText (some (withSign negative (Nat.ofDigitChars 10 digits 0))) (e :: (mark ++ digits))

/-- The number that its parts make: an integer if it has neither a fraction nor an exponent. -/
def numberOf (negative : Bool) (whole : List Char) (fraction : Option (List Char))
    (power : Option Int) : Value :=
  if fraction.isNone ∧ power.isNone then .int (withSign negative (Nat.ofDigitChars 10 whole 0))
  else
    let digits := fraction.getD []
    .float (Decimal.toBinary64 negative ⟨Nat.ofDigitChars 10 (whole ++ digits) 0,
      power.getD 0 - digits.length⟩)

/-- The texts of a number. -/
inductive NumberText : Value → List Char → Prop
  | mk (negative : Bool) {whole front back : List Char} {fraction : Option (List Char)}
      {power : Option Int} (first : Whole whole) (second : FractionText fraction front)
      (third : PowerText power back) :
      NumberText (numberOf negative whole fraction power) (signed negative (whole ++ front ++ back))

/-! ### Values -/

/-- The texts that may stand between the parts of a text. -/
def Gap (cs : List Char) : Prop := ∀ c ∈ cs, isGap c

/-- What a part of a text stands for: a value, without gaps around it or as an element with them,
the elements of a list, or a member or members of an object. -/
inductive Part where
  | value (v : Value)
  | element (v : Value)
  | elements (vs : List Value)
  | member (field : String × Value)
  | members (fields : List (String × Value))

/-- The texts of a part. -/
inductive Grammar : Part → List Char → Prop
  | nullWord : Grammar (.value .null) "null".toList
  | trueWord : Grammar (.value (.bool true)) "true".toList
  | falseWord : Grammar (.value (.bool false)) "false".toList
  | number {v : Value} {cs : List Char} (number : NumberText v cs) : Grammar (.value v) cs
  | string {s : String} {cs : List Char} (string : StringText s cs) : Grammar (.value (.str s)) cs
  | emptyList {g : List Char} (gap : Gap g) : Grammar (.value (.list [])) ('[' :: (g ++ [']']))
  | list {vs : List Value} {cs : List Char} (items : Grammar (.elements vs) cs) :
      Grammar (.value (.list vs)) ('[' :: (cs ++ [']']))
  | emptyRecord {g : List Char} (gap : Gap g) :
      Grammar (.value (.record [])) ('\x7b' :: (g ++ ['\x7d']))
  | record {fields : List (String × Value)} {cs : List Char}
      (members : Grammar (.members fields) cs) :
      Grammar (.value (.record fields)) ('\x7b' :: (cs ++ ['\x7d']))
  | element {v : Value} {g cs h : List Char} (before : Gap g)
      (value : Grammar (.value v) cs) (after : Gap h) : Grammar (.element v) (g ++ (cs ++ h))
  | lastElement {v : Value} {cs : List Char} (one : Grammar (.element v) cs) :
      Grammar (.elements [v]) cs
  | moreElements {v : Value} {vs : List Value} {cs ds : List Char} (one : Grammar (.element v) cs)
      (others : Grammar (.elements vs) ds) : Grammar (.elements (v :: vs)) (cs ++ ',' :: ds)
  | member {name : String} {v : Value} {g cs h ds : List Char} (before : Gap g)
      (string : StringText name cs) (after : Gap h) (value : Grammar (.element v) ds) :
      Grammar (.member (name, v)) (g ++ (cs ++ (h ++ ':' :: ds)))
  | lastMember {field : String × Value} {cs : List Char} (one : Grammar (.member field) cs) :
      Grammar (.members [field]) cs
  | moreMembers {field : String × Value} {fields : List (String × Value)} {cs ds : List Char}
      (one : Grammar (.member field) cs) (others : Grammar (.members fields) ds) :
      Grammar (.members (field :: fields)) (cs ++ ',' :: ds)

/-! ### What is written -/

theorem charText_escapeChar (c : Char) : CharText c (escapeChar c) := by
  unfold escapeChar
  -- the mark, the backslash and the control characters that have a letter of their own
  iterate 7
    split
    · rename_i same
      subst same
      exact .short rfl
  split
  · rename_i control
    obtain ⟨d₁, d₂, d₃, d₄, digits, unit⟩ := codeUnit?_hexadecimal control
    have high : isHighUnit c.toNat = false := by simp [isHighUnit]; omega
    have low : isLowUnit c.toNat = false := by simp [isLowUnit]; omega
    have spelled := CharText.unit unit high low
    rwa [Char.ofNat_toNat, ← digits] at spelled
  · rename_i mark backslash _ _ _ _ _ control
    exact .plain mark backslash control

theorem charsText_escaped (cs : List Char) : CharsText cs (cs.flatMap escapeChar) := by
  induction cs with
  | nil => exact .nil
  | cons c cs ih => exact .cons (charText_escapeChar c) ih

theorem stringText_writeString (s : String) : StringText s (writeString s) :=
  .mk (charsText_escaped s.toList)

theorem powerText_exponentMark (e : Int) : PowerText (some e) (Decimal.exponentMark e) := by
  obtain ⟨digits, mark, all, nonempty, value⟩ := exists_exponentMark e
  have sign : SignText (e < 0) [if e < 0 then '-' else '+'] := by
    by_cases negative : e < 0
    · rw [if_pos negative, decide_eq_true negative]
      exact .minus
    · rw [if_neg negative, decide_eq_false negative]
      exact .plus
  have power := PowerText.some (.inl rfl) sign all nonempty
  rwa [value, withSign_natAbs, List.singleton_append, ← mark] at power

theorem numberText_numeral (i : Int) : NumberText (.int i) (numeral i).toList := by
  have number := NumberText.mk (i < 0) (whole_toDigits i.natAbs) .none .none
  rw [List.append_nil, List.append_nil] at number
  rw [toList_numeral]
  simpa [numberOf, Nat.ofDigitChars_ten_toDigits, withSign_natAbs] using number

theorem numberText_text {x : Binary64} (finite : x.isFinite) :
    NumberText (.float x) x.text.toList := by
  obtain ⟨negative, cs, d, text, spells, value⟩ := exists_spells_text finite
  rw [text, ← value]
  cases spells with
  | plain first digits nonempty =>
    have number := NumberText.mk negative first (.some digits nonempty) .none
    simpa [numberOf] using number
  | power first digits nonempty e =>
    have number := NumberText.mk negative first (.some digits nonempty) (powerText_exponentMark e)
    simpa [numberOf] using number
  | wholePower first e =>
    have number := NumberText.mk negative first .none (powerText_exponentMark e)
    simpa [numberOf] using number

theorem gap_nil : Gap [] := by simp [Gap]

/-- A value without gaps around it is an element. -/
theorem Grammar.bare {v : Value} {cs : List Char} (h : Grammar (.value v) cs) :
    Grammar (.element v) cs := by
  simpa using Grammar.element gap_nil h gap_nil

/-- A member is written without gaps. -/
theorem grammar_writeMember {name : String} {v : Value} (h : Grammar (.value v) (writeValue v)) :
    Grammar (.member (name, v)) (writeMember (name, v)) :=
  .member gap_nil (stringText_writeString name) gap_nil h.bare

mutual

/-- What is written for a value stands for the value. -/
theorem grammar_writeValue : ∀ v : Value, v.Present (·.isFinite) → Grammar (.value v) (writeValue v)
  | .null, _ => .nullWord
  | .missing, present => by cases present
  | .bool true, _ => .trueWord
  | .bool false, _ => .falseWord
  | .int i, _ => .number (numberText_numeral i)
  | .float x, present => .number (numberText_text present)
  | .str s, _ => .string (stringText_writeString s)
  | .list [], _ => .emptyList gap_nil
  | .list (v :: rest), present => .list (grammar_writeItems (v :: rest) (by simp) present)
  | .record [], _ => .emptyRecord gap_nil
  | .record (field :: rest), present =>
    .record (grammar_writeMembers (field :: rest) (by simp) present)

/-- What is written for items stands for the items. -/
theorem grammar_writeItems :
    ∀ items : List Value, items ≠ [] → Value.PresentItems (·.isFinite) items →
    Grammar (.elements items) (writeItems items)
  | [], nonempty, _ => absurd rfl nonempty
  | [v], _, present => .lastElement (grammar_writeValue v present.1).bare
  | v :: w :: rest, _, present => by
    rw [writeItems_cons]
    exact .moreElements (grammar_writeValue v present.1).bare
      (grammar_writeItems (w :: rest) (by simp) present.2)

/-- What is written for members stands for the members. -/
theorem grammar_writeMembers : ∀ fields : List (String × Value), fields ≠ [] →
    Value.PresentFields (·.isFinite) fields → Grammar (.members fields) (writeMembers fields)
  | [], nonempty, _ => absurd rfl nonempty
  | [(_, v)], _, present => .lastMember (grammar_writeMember (grammar_writeValue v present.1))
  | (_, v) :: other :: rest, _, present => by
    rw [writeMembers_cons]
    exact .moreMembers (grammar_writeMember (grammar_writeValue v present.1))
      (grammar_writeMembers (other :: rest) (by simp) present.2)

end

/-- The text of a value stands for what answers show of the value. -/
theorem grammar_write (v : Value) : Grammar (.element v.plain) (write v).toList := by
  rw [write, String.toList_ofList]
  exact (grammar_writeValue v.plain (Value.present_plain v)).bare

end Tabulate.Json
