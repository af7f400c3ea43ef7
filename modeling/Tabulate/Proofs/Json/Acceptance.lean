import Tabulate.Proofs.Json.Strict

/-!
# What the strict parser accepts

The strict parser takes every text of the grammar off the front of a longer one, unless what follows
can be taken for more of it (`Json.Grammar.taken`). So it accepts the texts of the grammar and no
others (`Json.parse_eq_some_iff`), and a text stands for one value at most (`Json.Grammar.unique`).
-/

namespace Tabulate.Json

/-- The parser takes a text off the front of every text that goes on as `follows` says. -/
def Parser.Takes {α : Type} (p : Parser α) (follows : List Char → Prop) (a : α) (cs : List Char) :
    Prop :=
  ∀ rest, follows rest → p (cs ++ rest) = some (a, rest)

/-! ### Strings -/

theorem parseUnit_append {n : Nat} {cs : List Char} (h : UnitText n cs) (rest : List Char) :
    parseUnit (cs ++ rest) = some (n, rest) := by
  obtain ⟨a, b, c, d, rfl, digits⟩ := h
  simp [parseUnit, digits]

/-- Only a backslash and the letter of units start a unit. -/
theorem parseUnit_eq_none {cs : List Char} (other : ∀ tail, cs ≠ '\\' :: 'u' :: tail) :
    parseUnit cs = none := by
  unfold parseUnit
  split
  · exact absurd rfl (other _)
  · rfl

theorem parseChar_append {c : Char} {cs : List Char} (h : CharText c cs) (rest : List Char) :
    parseChar (cs ++ rest) = some (c, rest) := by
  cases h with
  | plain mark backslash control =>
    have noUnit : parseUnit (c :: rest) = none := by
      apply parseUnit_eq_none
      rintro tail same
      exact backslash (List.cons.inj same).1
    rw [List.singleton_append, parseChar, noUnit]
    dsimp only
    · rw [if_neg (by simp [mark, backslash, control])]
    · rintro e tail same
      exact absurd same backslash
  | @short _ e escaped =>
    have noUnit : parseUnit ('\\' :: e :: rest) = none := by
      apply parseUnit_eq_none
      rintro tail same
      cases same
      cases escaped
    unfold parseChar
    simp [noUnit, escaped]
  | unit digits high low =>
    unfold parseChar
    rw [parseUnit_append ⟨_, _, _, _, rfl, digits⟩]
    simp [parsePair, high, low]
  | @pair a b c d a' b' c' d' m n digits high digits' low =>
    have first : UnitText m ['\\', 'u', a, b, c, d] := ⟨_, _, _, _, rfl, digits⟩
    have second : UnitText n ['\\', 'u', a', b', c', d'] := ⟨_, _, _, _, rfl, digits'⟩
    have split : ['\\', 'u', a, b, c, d, '\\', 'u', a', b', c', d'] ++ rest =
      ['\\', 'u', a, b, c, d] ++ (['\\', 'u', a', b', c', d'] ++ rest) := rfl
    rw [split]
    unfold parseChar
    rw [parseUnit_append first]
    simp only [parsePair, high, if_true, parseUnit_append second, low]

/-- No character is spelled with a quotation mark in front. -/
theorem CharText.exists_cons {c : Char} {cs : List Char} (h : CharText c cs) :
    ∃ d tail, cs = d :: tail ∧ d ≠ '"' := by
  cases h with
  | plain mark backslash control => exact ⟨c, [], rfl, mark⟩
  | short escaped => exact ⟨'\\', _, rfl, by decide⟩
  | unit digits high low => exact ⟨'\\', _, rfl, by decide⟩
  | pair digits high digits' low => exact ⟨'\\', _, rfl, by decide⟩

/-- A string starts with its mark. -/
theorem StringText.exists_cons {s : String} {cs : List Char} (h : StringText s cs) :
    ∃ tail, cs = '"' :: tail := by
  cases h
  exact ⟨_, rfl⟩

theorem CharsText.length_le {chars cs : List Char} (h : CharsText chars cs) :
    chars.length ≤ cs.length := by
  induction h with
  | nil => exact Nat.le_refl 0
  | cons first others ih =>
    obtain ⟨d, tail, rfl, -⟩ := first.exists_cons
    simp only [List.length_cons, List.length_append]
    omega

theorem parseChars_append {fuel : Nat} {chars cs : List Char} (h : CharsText chars cs)
    (enough : chars.length < fuel) (rest : List Char) :
    parseChars fuel (cs ++ '"' :: rest) = some (chars, rest) := by
  induction h generalizing fuel with
  | nil =>
    obtain ⟨fuel, rfl⟩ := Nat.exists_eq_succ_of_ne_zero (Nat.ne_of_gt enough)
    rfl
  | @cons c chars front back first others ih =>
    obtain ⟨fuel, rfl⟩ := Nat.exists_eq_succ_of_ne_zero (Nat.ne_of_gt (Nat.zero_lt_of_lt enough))
    obtain ⟨d, tail, split, mark⟩ := first.exists_cons
    have taken := parseChar_append first (back ++ '"' :: rest)
    rw [List.append_assoc]
    rw [split] at taken ⊢
    rw [List.cons_append] at taken ⊢
    rw [parseChars, taken]
    · simp only [ih (Nat.lt_of_succ_lt_succ enough)]
      rfl
    · intro tail' same
      exact mark (List.cons.inj same).1

theorem parseString_append {s : String} {cs : List Char} (h : StringText s ('"' :: cs))
    (rest : List Char) : parseString (cs ++ rest) = some (s, rest) := by
  cases h with
  | @mk body chars =>
    have enough : s.toList.length < (body ++ '"' :: rest).length := by
      have bound := chars.length_le
      rw [List.length_append, List.length_cons]
      omega
    rw [List.append_assoc, List.singleton_append, parseString, parseChars_append chars enough]
    simp

/-! ### Numbers -/

theorem readMinus_signed (negative : Bool) {cs : List Char} (digit : ∀ c ∈ cs.head?, c.isDigit) :
    readMinus (signed negative cs) = (negative, cs) := by
  cases negative with
  | true => rfl
  | false =>
    unfold readMinus
    split
    · rename_i same
      have same : cs = _ := same
      subst same
      cases digit '-' rfl
    · rfl

theorem readSign_append {negative : Bool} {mark rest : List Char} (h : SignText negative mark)
    (digit : ∀ c ∈ rest.head?, c.isDigit) : readSign (mark ++ rest) = (negative, rest) := by
  cases h with
  | none =>
    rw [List.nil_append]
    unfold readSign
    split
    · cases digit '-' rfl
    · cases digit '+' rfl
    · rfl
  | plus => rfl
  | minus => rfl

theorem PowerText.head? {power : Option Int} {cs rest : List Char} (h : PowerText power cs)
    (stops : Stops rest) : ∀ c ∈ (cs ++ rest).head?, c.isDigit = false ∧ c ≠ '.' := by
  cases h with
  | none => exact fun c hc => ⟨(stops c hc).1, (stops c hc).2.1⟩
  | some letter sign all nonempty =>
    intro c hc
    obtain rfl := Option.some.inj hc
    rcases letter with rfl | rfl <;> decide

theorem readPower_append {power : Option Int} {cs rest : List Char} (h : PowerText power cs)
    (stops : Stops rest) : readPower (cs ++ rest) = (power, rest) := by
  cases h with
  | none => exact readPower_none fun c hc => (stops c hc).2.2
  | @some e negative mark digits letter sign all nonempty =>
    have digit : ∀ c ∈ (digits ++ rest).head?, c.isDigit := by
      intro c hc
      rw [List.head?_append_of_ne_nil _ nonempty] at hc
      exact all c (List.mem_of_mem_head? hc)
    have span := spanDigits_append all fun c hc => (stops c hc).1
    obtain ⟨d, others, rfl⟩ := List.exists_cons_of_ne_nil nonempty
    rw [List.cons_append, List.append_assoc, readPower, if_pos letter, readSign_append sign digit]
    simp only [span]

theorem FractionText.head? {fraction : Option (List Char)} {cs rest : List Char}
    (h : FractionText fraction cs) (stop : ∀ c ∈ rest.head?, c.isDigit = false ∧ c ≠ '.') :
    ∀ c ∈ (cs ++ rest).head?, c.isDigit = false := by
  cases h with
  | none => exact fun c hc => (stop c hc).1
  | some all nonempty =>
    intro c hc
    obtain rfl := Option.some.inj hc
    rfl

theorem readFraction_append {fraction : Option (List Char)} {cs rest : List Char}
    (h : FractionText fraction cs) (stop : ∀ c ∈ rest.head?, c.isDigit = false ∧ c ≠ '.') :
    readFraction (cs ++ rest) = (fraction, rest) := by
  cases h with
  | none => exact readFraction_none fun c hc => (stop c hc).2
  | some all nonempty => exact readFraction_point all nonempty fun c hc => (stop c hc).1

/-- A number is taken unless what follows can be taken for more of it. -/
theorem takes_parseNumber {v : Value} {cs : List Char} (h : NumberText v cs) :
    Parser.Takes parseNumber Stops v cs := by
  intro rest stops
  cases h with
  | @mk negative whole front back fraction power first second third =>
    have stop := third.head? stops
    have text : signed negative (whole ++ front ++ back) ++ rest =
        signed negative (whole ++ (front ++ (back ++ rest))) := by
      simp [signed_append]
    rw [text]
    unfold parseNumber
    rw [readMinus_signed negative (first.head?_append _)]
    simp only [readWhole_append first (second.head? stop), readFraction_append second stop,
      readPower_append third stops]

theorem NumberText.exists_cons {v : Value} {cs : List Char} (h : NumberText v cs) :
    ∃ c tail, cs = c :: tail ∧ (c.isDigit ∨ c = '-') := by
  cases h with
  | @mk negative whole front back fraction power first second third =>
    cases negative with
    | true => exact ⟨'-', _, rfl, .inr rfl⟩
    | false =>
      obtain ⟨c, tail, rfl⟩ := List.exists_cons_of_ne_nil first.ne_nil
      exact ⟨c, _, rfl, .inl (first.allDigits c List.mem_cons_self)⟩

/-- No other character starts a number. -/
theorem ne_of_startsNumber {c d : Char} (start : c.isDigit ∨ c = '-')
    (other : d.isDigit = false ∧ d ≠ '-') : c ≠ d := by
  rintro rfl
  rcases start with digit | minus
  · rw [other.1] at digit
    cases digit
  · exact other.2 minus

/-- What starts with a digit or a minus sign is parsed as a number. -/
theorem parseValue_number (fuel : Nat) {c : Char} (start : c.isDigit ∨ c = '-') (tail : List Char) :
    parseValue (fuel + 1) (c :: tail) = parseNumber (c :: tail) := by
  have atom : parseAtom (c :: tail) = parseNumber (c :: tail) := by
    unfold parseAtom
    split
    case h_4 => rfl
    all_goals
      rename_i same
      exact absurd (List.cons.inj same).1 (ne_of_startsNumber start (by decide))
  unfold parseValue
  split
  case h_4 => exact atom
  all_goals
    rename_i same
    exact absurd (List.cons.inj same).1 (ne_of_startsNumber start (by decide))

/-! ### Gaps -/

theorem skipGap_append {g : List Char} (gap : Gap g) (rest : List Char) :
    skipGap (g ++ rest) = skipGap rest :=
  List.dropWhile_append_of_pos gap

/-- What may follow an element or a member: nothing, a comma or a closing mark. -/
def Closes (rest : List Char) : Prop := ∀ c ∈ rest.head?, c = ',' ∨ c = ']' ∨ c = '\x7d'

theorem Closes.skipGap_append {rest : List Char} (closes : Closes rest) {g : List Char}
    (gap : Gap g) : skipGap (g ++ rest) = rest := by
  rw [Json.skipGap_append gap]
  cases rest with
  | nil => rfl
  | cons c rest =>
    apply skipGap_cons
    rcases closes c rfl with rfl | rfl | rfl <;> rfl

/-- No gap and nothing that closes can be taken for more of a number. -/
theorem Closes.stops_append {rest : List Char} (closes : Closes rest) {g : List Char}
    (gap : Gap g) : Stops (g ++ rest) := by
  intro c hc
  cases g with
  | nil => rcases closes c hc with rfl | rfl | rfl <;> decide
  | cons d g =>
    obtain rfl := Option.some.inj hc
    have blank := gap d List.mem_cons_self
    simp only [isGap, Bool.or_eq_true, beq_iff_eq] at blank
    rcases blank with ((rfl | rfl) | rfl) | rfl <;> decide

/-! ### Parts -/

/-- Characters that can start a part: neither a gap nor a closing mark. -/
def Opens (c : Char) : Prop := isGap c = false ∧ c ≠ ']' ∧ c ≠ '\x7d'

instance : DecidablePred Opens := fun _ => inferInstanceAs (Decidable (_ ∧ _))

theorem opens_of_startsNumber {c : Char} (start : c.isDigit ∨ c = '-') : Opens c := by
  have other {d : Char} (mark : d.isDigit = false ∧ d ≠ '-') : c ≠ d :=
    ne_of_startsNumber start mark
  have blank : isGap c = false := by
    have space : c ≠ ' ' := other (by decide)
    have tab : c ≠ '\t' := other (by decide)
    have lineFeed : c ≠ '\n' := other (by decide)
    have carriageReturn : c ≠ '\r' := other (by decide)
    simp [isGap, space, tab, lineFeed, carriageReturn]
  exact ⟨blank, other (by decide), other (by decide)⟩

/-- A value starts with a character that can start a part. -/
theorem Grammar.exists_cons {v : Value} {cs : List Char} (h : Grammar (.value v) cs) :
    ∃ c tail, cs = c :: tail ∧ Opens c := by
  cases h with
  | nullWord => exact ⟨'n', _, rfl, by decide⟩
  | trueWord => exact ⟨'t', _, rfl, by decide⟩
  | falseWord => exact ⟨'f', _, rfl, by decide⟩
  | number number =>
    obtain ⟨c, tail, rfl, start⟩ := number.exists_cons
    exact ⟨c, tail, rfl, opens_of_startsNumber start⟩
  | string string =>
    obtain ⟨tail, rfl⟩ := string.exists_cons
    exact ⟨'"', tail, rfl, by decide⟩
  | _ => exact ⟨_, _, rfl, by decide⟩

/-- Texts that do not close a container: behind a gap they go on with a character that can start a
part. -/
def GoesOn (cs : List Char) : Prop := ∃ g c tail, cs = g ++ c :: tail ∧ Gap g ∧ Opens c

theorem GoesOn.append {cs : List Char} (h : GoesOn cs) (rest : List Char) :
    GoesOn (cs ++ rest) := by
  obtain ⟨g, c, tail, rfl, gap, opens⟩ := h
  exact ⟨g, c, tail ++ rest, by simp, gap, opens⟩

theorem GoesOn.skipGap {cs : List Char} (h : GoesOn cs) :
    ∃ c tail, skipGap cs = c :: tail ∧ Opens c := by
  obtain ⟨g, c, tail, rfl, gap, opens⟩ := h
  exact ⟨c, tail, by rw [skipGap_append gap, skipGap_cons opens.1], opens⟩

theorem goesOn_element {v : Value} {cs : List Char} (h : Grammar (.element v) cs) : GoesOn cs := by
  cases h with
  | @element _ g _ h before value after =>
    obtain ⟨c, tail, rfl, opens⟩ := value.exists_cons
    exact ⟨g, c, tail ++ h, rfl, before, opens⟩

theorem goesOn_member {field : String × Value} {cs : List Char} (h : Grammar (.member field) cs) :
    GoesOn cs := by
  cases h with
  | @member _ _ g _ _ _ before string after value =>
    obtain ⟨tail, rfl⟩ := string.exists_cons
    exact ⟨g, '"', _, rfl, before, by decide⟩

theorem goesOn_elements {vs : List Value} {cs : List Char} (h : Grammar (.elements vs) cs) :
    GoesOn cs := by
  cases h with
  | lastElement one => exact goesOn_element one
  | moreElements one others => exact (goesOn_element one).append _

theorem goesOn_members {fields : List (String × Value)} {cs : List Char}
    (h : Grammar (.members fields) cs) : GoesOn cs := by
  cases h with
  | lastMember one => exact goesOn_member one
  | moreMembers one others => exact (goesOn_member one).append _

theorem takes_parseElement {value : Parser Value} {v : Value} {g cs h : List Char} (before : Gap g)
    (text : Grammar (.value v) cs) (after : Gap h) (takes : value.Takes Stops v cs) :
    (parseElement value).Takes Closes v (g ++ (cs ++ h)) := by
  intro rest closes
  obtain ⟨c, tail, split, opens⟩ := text.exists_cons
  have front : skipGap (g ++ (cs ++ h) ++ rest) = cs ++ (h ++ rest) := by
    rw [List.append_assoc, skipGap_append before, List.append_assoc, split, List.cons_append,
      skipGap_cons opens.1]
  rw [parseElement, front, takes _ (closes.stops_append after)]
  simp [closes.skipGap_append after]

theorem takes_parseMember {value : Parser Value} {name : String} {v : Value} {g cs h ds : List Char}
    (before : Gap g) (string : StringText name cs) (after : Gap h)
    (takes : (parseElement value).Takes Closes v ds) :
    (parseMember value).Takes Closes (name, v) (g ++ (cs ++ (h ++ ':' :: ds))) := by
  intro rest closes
  obtain ⟨tail, rfl⟩ := string.exists_cons
  have front : skipGap (g ++ ('"' :: tail ++ (h ++ ':' :: ds)) ++ rest) =
      '"' :: (tail ++ (h ++ ':' :: (ds ++ rest))) := by
    rw [List.append_assoc, skipGap_append before]
    simp [skipGap_cons, isGap]
  have colon : skipGap (h ++ ':' :: (ds ++ rest)) = ':' :: (ds ++ rest) := by
    rw [skipGap_append after]
    rfl
  rw [parseMember, front]
  simp only [parseString_append string, colon, takes rest closes]
  rfl

section Separated

variable {α : Type}

/-- What stands between commas is taken up to the closing mark, with fuel for its length. -/
def Parser.TakesSeparated (one : Parser α) (close : Char) (as : List α) (cs : List Char) : Prop :=
  ∀ fuel, cs.length < fuel →
    ∀ rest, parseSeparated one close fuel (cs ++ close :: rest) = some (as, rest)

variable {one : Parser α} {a : α} {cs : List Char} (takes : one.Takes Closes a cs) {close : Char}
  (closing : close = ']' ∨ close = '\x7d')
include takes closing

theorem takesSeparated_last : one.TakesSeparated close [a] cs := by
  intro fuel enough rest
  obtain ⟨fuel, rfl⟩ := Nat.exists_eq_succ_of_ne_zero (Nat.ne_of_gt (Nat.zero_lt_of_lt enough))
  have closes : Closes (close :: rest) := by
    intro c hc
    obtain rfl := Option.some.inj hc
    exact .inr closing
  rw [parseSeparated, takes _ closes]
  simp

theorem takesSeparated_more {as : List α} {ds : List Char}
    (others : one.TakesSeparated close as ds) :
    one.TakesSeparated close (a :: as) (cs ++ ',' :: ds) := by
  intro fuel enough rest
  simp only [List.length_append, List.length_cons] at enough
  obtain ⟨fuel, rfl⟩ := Nat.exists_eq_succ_of_ne_zero (Nat.ne_of_gt (Nat.zero_lt_of_lt enough))
  have comma : Closes (',' :: (ds ++ close :: rest)) :=
    fun _ same => .inl (Option.some.inj same).symm
  have goes : ',' ≠ close := by rcases closing with rfl | rfl <;> decide
  rw [List.append_assoc, List.cons_append, parseSeparated, takes _ comma]
  simp [goes, others fuel (by omega) rest]

end Separated

/-- What the parsers take, with fuel for a text of this length. -/
def Part.Taken (fuel : Nat) (cs : List Char) : Part → Prop
  | value v => (parseValue fuel).Takes Stops v cs
  | element v => (parseElement (parseValue fuel)).Takes Closes v cs
  | elements vs => (parseElement (parseValue fuel)).TakesSeparated ']' vs cs
  | member field => (parseMember (parseValue fuel)).Takes Closes field cs
  | members fields => (parseMember (parseValue fuel)).TakesSeparated '\x7d' fields cs

/-- Fuel for a text that is not empty. -/
theorem exists_fuel {c : Char} {tail : List Char} {fuel : Nat}
    (enough : (c :: tail).length ≤ fuel) : ∃ less, fuel = less + 1 ∧ tail.length ≤ less := by
  obtain ⟨less, rfl⟩ :=
    Nat.exists_eq_succ_of_ne_zero (Nat.ne_of_gt (Nat.lt_of_lt_of_le (Nat.zero_lt_succ _) enough))
  exact ⟨less, rfl, Nat.le_of_succ_le_succ enough⟩

/-- A list that holds something is parsed element by element. -/
theorem parseValue_list (fuel : Nat) {cs : List Char} (goes : GoesOn cs) :
    parseValue (fuel + 1) ('[' :: cs) =
      (parseSeparated (parseElement (parseValue fuel)) ']' cs.length cs).map fun (vs, rest) =>
        (.list vs, rest) := by
  obtain ⟨c, tail, behind, opens⟩ := goes.skipGap
  rw [parseValue]
  dsimp only
  split
  · rename_i same
    rw [behind] at same
    exact absurd (List.cons.inj same).1 opens.2.1
  · rfl

/-- An object that holds something is parsed member by member. -/
theorem parseValue_record (fuel : Nat) {cs : List Char} (goes : GoesOn cs) :
    parseValue (fuel + 1) ('\x7b' :: cs) =
      (parseSeparated (parseMember (parseValue fuel)) '\x7d' cs.length cs).map
        fun (fields, rest) => (.record fields, rest) := by
  obtain ⟨c, tail, behind, opens⟩ := goes.skipGap
  rw [parseValue]
  dsimp only
  split
  · rename_i same
    rw [behind] at same
    exact absurd (List.cons.inj same).1 opens.2.2
  · rfl

/-- A text of the grammar is taken, whatever follows it. -/
theorem Grammar.taken {part : Part} {cs : List Char} (h : Grammar part cs) {fuel : Nat}
    (enough : cs.length ≤ fuel) : part.Taken fuel cs := by
  induction h generalizing fuel with
  | nullWord | trueWord | falseWord =>
    obtain ⟨fuel, rfl, -⟩ := exists_fuel enough
    exact fun rest _ => rfl
  | number number =>
    obtain ⟨c, tail, rfl, start⟩ := number.exists_cons
    obtain ⟨fuel, rfl, -⟩ := exists_fuel enough
    intro rest stops
    rw [List.cons_append, parseValue_number fuel start]
    exact takes_parseNumber number rest stops
  | @string s cs string =>
    obtain ⟨tail, rfl⟩ := string.exists_cons
    obtain ⟨fuel, rfl, -⟩ := exists_fuel enough
    intro rest _
    rw [List.cons_append, parseValue, parseString_append string, Option.map_some]
  | @emptyList g gap =>
    obtain ⟨fuel, rfl, -⟩ := exists_fuel enough
    intro rest _
    have behind : skipGap (g ++ ']' :: rest) = ']' :: rest := by
      rw [skipGap_append gap, skipGap_cons (by decide)]
    simp [parseValue, behind]
  | @list vs cs items ih =>
    obtain ⟨fuel, rfl, shorter⟩ := exists_fuel enough
    intro rest _
    have goes := (goesOn_elements items).append (']' :: rest)
    have taken := ih (Nat.le_trans (by simp) shorter) (cs ++ ']' :: rest).length (by simp) rest
    rw [List.cons_append, List.append_assoc, List.singleton_append, parseValue_list fuel goes,
      taken, Option.map_some]
  | @emptyRecord g gap =>
    obtain ⟨fuel, rfl, -⟩ := exists_fuel enough
    intro rest _
    have behind : skipGap (g ++ '\x7d' :: rest) = '\x7d' :: rest := by
      rw [skipGap_append gap, skipGap_cons (by decide)]
    simp [parseValue, behind]
  | @record fields cs members ih =>
    obtain ⟨fuel, rfl, shorter⟩ := exists_fuel enough
    intro rest _
    have goes := (goesOn_members members).append ('\x7d' :: rest)
    have taken := ih (Nat.le_trans (by simp) shorter) (cs ++ '\x7d' :: rest).length (by simp) rest
    rw [List.cons_append, List.append_assoc, List.singleton_append,
      parseValue_record fuel goes, taken, Option.map_some]
  | element before text after ih =>
    simp only [List.length_append] at enough
    exact takes_parseElement before text after (ih (by omega))
  | lastElement one ih => exact takesSeparated_last (ih enough) (.inl rfl)
  | moreElements one others ih ihs =>
    simp only [List.length_append, List.length_cons] at enough
    exact takesSeparated_more (ih (by omega)) (.inl rfl) (ihs (by omega))
  | member before string after value ih =>
    simp only [List.length_append, List.length_cons] at enough
    exact takes_parseMember before string after (ih (by omega))
  | lastMember one ih => exact takesSeparated_last (ih enough) (.inr rfl)
  | moreMembers one others ih ihs =>
    simp only [List.length_append, List.length_cons] at enough
    exact takesSeparated_more (ih (by omega)) (.inr rfl) (ihs (by omega))

/-- The parser accepts the texts of the grammar and no others, and returns what they stand for. -/
theorem parse_eq_some_iff {cs : List Char} {v : Value} :
    parse cs = some v ↔ Grammar (.element v) cs := by
  constructor
  · intro h
    unfold parse at h
    split at h
    · rename_i w parsed
      cases h
      obtain ⟨front, rfl, text⟩ := sound_parseElement (sound_parseValue _) parsed
      rwa [List.append_nil]
    · cases h
  · intro h
    have taken : (parseElement (parseValue cs.length)).Takes Closes v cs := h.taken (Nat.le_refl _)
    have whole := taken [] (by simp [Closes])
    rw [List.append_nil] at whole
    rw [parse, whole]

/-- A text stands for one value at most. -/
theorem Grammar.unique {cs : List Char} {v w : Value} (h : Grammar (.element v) cs)
    (h' : Grammar (.element w) cs) : v = w :=
  Option.some.inj ((parse_eq_some_iff.2 h).symm.trans (parse_eq_some_iff.2 h'))

end Tabulate.Json
