import Tabulate.Json.Writer
import Tabulate.Proofs.Columns
import Tabulate.Proofs.Json.Numbers
import Tabulate.Proofs.Json.Textual

/-!
# Reading JSON text back

What is written for a textual value with finite numbers is read back, whatever follows it, if the
reader has room for the depth to which the value is nested: `Json.readValue_writeValue`. Strings
come first, then words and numbers, which the reader tells from the rest by their first character,
then the items of lists and the members of records.
-/

namespace Tabulate

namespace Json

variable {rest : List Char}

/-! ### Strings -/

/-- The hexadecimal digits of a control character are four and spell its code. -/
theorem codeUnit?_hexadecimal {n : Nat} (control : n < 0x20) :
    ∃ a b c d, hexadecimal 4 n = [a, b, c, d] ∧ codeUnit? a b c d = some n := by
  have spelled : ∀ n : Fin 32,
      hexadecimal 4 n = ['0', '0', (n.val / 16).digitChar, (n.val % 16).digitChar] ∧
        codeUnit? '0' '0' (n.val / 16).digitChar (n.val % 16).digitChar = some n.val := by decide
  exact ⟨'0', '0', _, _, spelled ⟨n, control⟩⟩

/-- What is written for a character is read as the character. -/
theorem readChars_escapeChar (start : List Char) (fuel : Nat) (c : Char) (more : rest ≠ []) :
    readChars start (fuel + 1) (escapeChar c ++ rest) =
      (readChars start fuel rest).map fun (chars, rest) => (c :: chars, rest) := by
  obtain ⟨next, rest, rfl⟩ := List.exists_cons_of_ne_nil more
  unfold escapeChar
  -- the mark, the backslash and the control characters that have a letter of their own
  iterate 7
    split
    · rename_i same
      subst same
      rfl
  split
  · rename_i control
    obtain ⟨d₁, d₂, d₃, d₄, digits, unit⟩ := codeUnit?_hexadecimal control
    have char : unitChar c.toNat (next :: rest) = (c, next :: rest) := by
      have high : isHighUnit c.toNat = false := by simp [isHighUnit]; omega
      have low : isLowUnit c.toNat = false := by simp [isLowUnit]; omega
      simp [unitChar, codeChar, high, low]
    simp [digits, readChars, readEscape, unit, char]
  · rename_i notMark notBackslash _ _ _ _ _ printable
    rw [List.singleton_append, readChars, if_neg notMark, if_neg notBackslash, if_neg printable]

theorem escapeChar_ne_nil (c : Char) : escapeChar c ≠ [] := by
  unfold escapeChar
  repeat' split
  all_goals simp

/-- The characters of a string are read back up to the closing mark. -/
theorem readChars_escaped (start : List Char) {fuel : Nat} {cs : List Char}
    (enough : cs.length < fuel) :
    readChars start fuel (cs.flatMap escapeChar ++ '"' :: rest) = .ok (cs, rest) := by
  induction cs generalizing fuel with
  | nil =>
    obtain ⟨fuel, rfl⟩ := Nat.exists_eq_succ_of_ne_zero (Nat.ne_of_gt enough)
    rfl
  | cons c cs ih =>
    obtain ⟨fuel, rfl⟩ := Nat.exists_eq_succ_of_ne_zero (Nat.ne_of_gt (Nat.zero_lt_of_lt enough))
    have enough : cs.length < fuel := Nat.lt_of_succ_lt_succ enough
    rw [List.flatMap_cons, List.append_assoc,
      readChars_escapeChar start fuel c (by simp), ih enough]
    rfl

theorem length_le_escaped (cs : List Char) : cs.length ≤ (cs.flatMap escapeChar).length := by
  induction cs with
  | nil => exact Nat.le_refl 0
  | cons c cs ih =>
    have one : 0 < (escapeChar c).length := List.length_pos_of_ne_nil (escapeChar_ne_nil c)
    rw [List.flatMap_cons, List.length_append, List.length_cons]
    omega

/-- A string is read back. -/
theorem readString_written (s : String) :
    readString (s.toList.flatMap escapeChar ++ '"' :: rest) = .ok (s, rest) := by
  have enough : s.toList.length < (s.toList.flatMap escapeChar ++ '"' :: rest).length := by
    have escaped := length_le_escaped s.toList
    rw [List.length_append, List.length_cons]
    omega
  rw [readString, readChars_escaped _ enough]
  simp [Except.map]

/-! ### Words and numbers -/

/-- How words and numbers start: with a letter, a digit or a minus sign. -/
def StartsAtom (cs : List Char) : Prop := ∃ c tail, cs = c :: tail ∧ (c.isAlphanum ∨ c = '-')

/-- No other character starts a word or a number. -/
theorem ne_of_startsAtom {c d : Char} (kind : c.isAlphanum ∨ c = '-')
    (mark : d.isAlphanum = false ∧ d ≠ '-') : c ≠ d := by
  rintro rfl
  rcases kind with letter | minus
  · rw [mark.1] at letter
    cases letter
  · exact mark.2 minus

theorem startsAtom_signed (negative : Bool) {cs : List Char} (nonempty : cs ≠ [])
    (digit : ∀ c ∈ cs.head?, c.isDigit) : StartsAtom (signed negative cs) := by
  cases negative with
  | true => exact ⟨'-', cs, rfl, .inr rfl⟩
  | false =>
    obtain ⟨c, rest, rfl⟩ := List.exists_cons_of_ne_nil nonempty
    have isDigit : c.isDigit := digit c rfl
    exact ⟨c, rest, rfl, .inl (by simp [Char.isAlphanum, isDigit])⟩

theorem startsAtom_numeral (i : Int) : StartsAtom (numeral i).toList := by
  rw [toList_numeral]
  refine startsAtom_signed _ Nat.toDigits_ne_nil ?_
  intro c hc
  exact allDigits_toDigits _ c (List.mem_of_mem_head? hc)

theorem startsAtom_text {x : Binary64} (finite : x.isFinite) : StartsAtom x.text.toList := by
  obtain ⟨negative, cs, d, text, spells, -⟩ := exists_spells_text finite
  rw [text]
  exact startsAtom_signed negative spells.ne_nil spells.head?

/-- What starts with a letter, a digit or a minus sign is read as a word or a number. -/
theorem readValue_atom {cs : List Char} (starts : StartsAtom cs) (fuel room : Nat)
    (rest : List Char) : readValue (fuel + 1) room (cs ++ rest) = readAtom (cs ++ rest) := by
  obtain ⟨c, tail, rfl, kind⟩ := starts
  rw [List.cons_append, readValue]
  all_goals
    intros
    rename_i same
    exact ne_of_startsAtom kind (by decide) (List.cons.inj same).1

/-! ### First characters -/

theorem skipGap_cons {c : Char} (gap : isGap c = false) (rest : List Char) :
    skipGap (c :: rest) = c :: rest := by
  rw [skipGap, List.dropWhile_cons_of_neg (by simp [gap])]

/-- No value starts with a gap or with a closing bracket. -/
theorem exists_writeValue {v : Value} (textual : v.Textual (·.isFinite)) :
    ∃ c cs, writeValue v = c :: cs ∧ isGap c = false ∧ c ≠ ']' := by
  have atom {cs : List Char} (starts : StartsAtom cs) :
      ∃ c cs', cs = c :: cs' ∧ isGap c = false ∧ c ≠ ']' := by
    obtain ⟨c, tail, rfl, kind⟩ := starts
    refine ⟨c, tail, rfl, ?_, ne_of_startsAtom kind (by decide)⟩
    have space : c ≠ ' ' := ne_of_startsAtom kind (by decide)
    have tab : c ≠ '\t' := ne_of_startsAtom kind (by decide)
    have lineFeed : c ≠ '\n' := ne_of_startsAtom kind (by decide)
    have carriageReturn : c ≠ '\r' := ne_of_startsAtom kind (by decide)
    simp [isGap, space, tab, lineFeed, carriageReturn]
  cases v with
  | null => exact ⟨'n', _, rfl, rfl, by decide⟩
  | missing => cases textual
  | bool b =>
    cases b with
    | true => exact ⟨'t', _, rfl, rfl, by decide⟩
    | false => exact ⟨'f', _, rfl, rfl, by decide⟩
  | int i => exact atom (startsAtom_numeral i)
  | float x => exact atom (startsAtom_text textual)
  | str s => exact ⟨'"', _, rfl, rfl, by decide⟩
  | list items => exact ⟨'[', _, rfl, rfl, by decide⟩
  | record fields => exact ⟨'\x7b', _, rfl, rfl, by decide⟩

theorem skipGap_writeValue {v : Value} (textual : v.Textual (·.isFinite)) (rest : List Char) :
    skipGap (writeValue v ++ rest) = writeValue v ++ rest := by
  obtain ⟨c, cs, written, gap, -⟩ := exists_writeValue textual
  rw [written, List.cons_append, skipGap_cons gap]

/-- What follows a value in a list or record cannot be taken for more of it. -/
theorem stops_cons {c : Char} (mark : c.isDigit = false ∧ c ≠ '.' ∧ c ≠ 'e' ∧ c ≠ 'E')
    (rest : List Char) : Stops (c :: rest) := by
  intro d hd
  obtain rfl := Option.some.inj hd
  exact mark

/-! ### Items -/

theorem writeItems_cons (v w : Value) (items : List Value) :
    writeItems (v :: w :: items) = writeValue v ++ ',' :: writeItems (w :: items) := by
  rw [writeItems]
  simp

theorem exists_writeItems {v : Value} (textual : v.Textual (·.isFinite)) (items : List Value) :
    ∃ c cs, writeItems (v :: items) = c :: cs ∧ isGap c = false ∧ c ≠ ']' := by
  obtain ⟨c, cs, written, gap, bracket⟩ := exists_writeValue textual
  cases items with
  | nil => exact ⟨c, cs, written, gap, bracket⟩
  | cons w items =>
    exact ⟨c, cs ++ ',' :: writeItems (w :: items), by rw [writeItems_cons, written]; rfl, gap,
      bracket⟩

section Reading

variable {v w : Value} {items : List Value} {fuel room : Nat}

theorem readItems_last
    (read : readValue fuel room (writeValue v ++ ']' :: rest) = .ok (v, ']' :: rest)) :
    readItems (fuel + 1) room (writeItems [v] ++ ']' :: rest) = .ok ([v], rest) := by
  rw [writeItems, readItems, read]
  rfl

theorem readItems_more (textual : w.Textual (·.isFinite))
    (read : ∀ behind, readValue fuel room (writeValue v ++ ',' :: behind) = .ok (v, ',' :: behind))
    (others : readItems fuel room (writeItems (w :: items) ++ ']' :: rest) =
      .ok (w :: items, rest)) :
    readItems (fuel + 1) room (writeItems (v :: w :: items) ++ ']' :: rest) =
      .ok (v :: w :: items, rest) := by
  obtain ⟨c, cs, written, gap, -⟩ := exists_writeItems textual items
  have behind : skipGap (writeItems (w :: items) ++ ']' :: rest) =
      writeItems (w :: items) ++ ']' :: rest := by
    rw [written, List.cons_append, skipGap_cons gap]
  have comma : skipGap (',' :: (writeItems (w :: items) ++ ']' :: rest)) =
      ',' :: (writeItems (w :: items) ++ ']' :: rest) := rfl
  rw [writeItems_cons, List.append_assoc, List.cons_append, readItems, read]
  simp only [comma, behind, others]
  rfl

/-- The items between two brackets make a list. -/
theorem readValue_list (textual : v.Textual (·.isFinite))
    (read : readItems fuel room (writeItems (v :: items) ++ ']' :: rest) = .ok (v :: items, rest)) :
    readValue (fuel + 1) (room + 1) (writeValue (.list (v :: items)) ++ rest) =
      .ok (.list (v :: items), rest) := by
  obtain ⟨c, cs, written, gap, bracket⟩ := exists_writeItems textual items
  have front : skipGap (writeItems (v :: items) ++ ']' :: rest) = c :: (cs ++ ']' :: rest) := by
    rw [written, List.cons_append, skipGap_cons gap]
  rw [writeValue, List.cons_append, List.append_assoc, List.singleton_append, readValue, front]
  split
  · rename_i same
    exact absurd (List.cons.inj same).1 bracket
  · rw [← List.cons_append, ← written, read]
    rfl

end Reading

/-! ### Members -/

/-- One member as it is written. -/
def writeMember (field : String × Value) : List Char :=
  writeString field.1 ++ ':' :: writeValue field.2

theorem writeMembers_singleton (field : String × Value) :
    writeMembers [field] = writeMember field :=
  rfl

theorem writeMembers_cons (field other : String × Value) (fields : List (String × Value)) :
    writeMembers (field :: other :: fields) =
      writeMember field ++ ',' :: writeMembers (other :: fields) := by
  obtain ⟨name, v⟩ := field
  rw [writeMembers, writeMember, List.append_assoc]
  · rfl
  · simp

/-- Members start with the mark of a name. -/
theorem exists_writeMembers (field : String × Value) (fields : List (String × Value)) :
    ∃ cs, writeMembers (field :: fields) = '"' :: cs := by
  cases fields with
  | nil => exact ⟨_, rfl⟩
  | cons other fields =>
    rw [writeMembers_cons]
    exact ⟨_, rfl⟩

section Reading

variable {field other : String × Value} {fields : List (String × Value)} {fuel room : Nat}

theorem readMembers_last (textual : field.2.Textual (·.isFinite))
    (read : readValue fuel room (writeValue field.2 ++ '\x7d' :: rest) =
      .ok (field.2, '\x7d' :: rest)) :
    readMembers (fuel + 1) room (writeMembers [field] ++ '\x7d' :: rest) = .ok ([field], rest) := by
  have colon (cs : List Char) : skipGap (':' :: cs) = ':' :: cs := rfl
  rw [writeMembers_singleton, writeMember, writeString, List.cons_append,
    List.cons_append, readMembers, List.append_assoc, List.append_assoc,
    List.singleton_append, readString_written]
  simp only [List.cons_append, colon, skipGap_writeValue textual, read]
  rfl

theorem readMembers_more (textual : field.2.Textual (·.isFinite))
    (read : ∀ behind, readValue fuel room (writeValue field.2 ++ ',' :: behind) =
      .ok (field.2, ',' :: behind))
    (others : readMembers fuel room (writeMembers (other :: fields) ++ '\x7d' :: rest) =
      .ok (other :: fields, rest)) :
    readMembers (fuel + 1) room (writeMembers (field :: other :: fields) ++ '\x7d' :: rest) =
      .ok (field :: other :: fields, rest) := by
  obtain ⟨cs, written⟩ := exists_writeMembers other fields
  have colon (cs : List Char) : skipGap (':' :: cs) = ':' :: cs := rfl
  have comma (cs : List Char) : skipGap (',' :: cs) = ',' :: cs := rfl
  have mark (cs : List Char) : skipGap ('"' :: cs) = '"' :: cs := rfl
  rw [written] at others
  rw [writeMembers_cons, writeMember, writeString, List.cons_append, List.cons_append,
    List.cons_append, readMembers, List.append_assoc, List.append_assoc, List.append_assoc,
    List.singleton_append, readString_written]
  simp only [List.cons_append, colon, skipGap_writeValue textual, read, comma, written, mark]
  rw [← List.cons_append, others]
  rfl

/-- The members between two braces make a record if their names are distinct. -/
theorem readValue_record (distinct : ((field :: fields).map Prod.fst).Nodup)
    (read : readMembers fuel room (writeMembers (field :: fields) ++ '\x7d' :: rest) =
      .ok (field :: fields, rest)) :
    readValue (fuel + 1) (room + 1) (writeValue (.record (field :: fields)) ++ rest) =
      .ok (.record (field :: fields), rest) := by
  obtain ⟨cs, written⟩ := exists_writeMembers field fields
  have row : (Row.ofEntries (field :: fields)).toValue = .record (field :: fields) := by
    rw [Row.toValue, Row.entries_ofEntries distinct]
  have front : skipGap (writeMembers (field :: fields) ++ '\x7d' :: rest) =
      '"' :: (cs ++ '\x7d' :: rest) := by
    rw [written]
    rfl
  rw [writeValue, List.cons_append, List.append_assoc, List.singleton_append, readValue, front]
  split
  · rename_i same
    exact absurd (List.cons.inj same).1 (by decide)
  · rw [← List.cons_append, ← written, read]
    simp only [Except.map, row]

end Reading

/-! ### Values -/

mutual

/-- What is written for a value is read as the value. -/
theorem readValue_writeValue :
    ∀ (v : Value) (fuel room : Nat) (rest : List Char), v.Textual (·.isFinite) →
    (writeValue v).length ≤ fuel → v.depth ≤ room → Stops rest →
    readValue fuel room (writeValue v ++ rest) = .ok (v, rest)
  -- every value is written with one character at least, so there is fuel for it
  | v, 0, room, rest, textual, enough, deep, stops => by
    obtain ⟨c, cs, written, -, -⟩ := exists_writeValue textual
    rw [written] at enough
    cases enough
  | .null, fuel + 1, room, rest, textual, enough, deep, stops => rfl
  | .missing, fuel + 1, room, rest, textual, enough, deep, stops => by cases textual
  | .bool true, fuel + 1, room, rest, textual, enough, deep, stops => rfl
  | .bool false, fuel + 1, room, rest, textual, enough, deep, stops => rfl
  | .int i, fuel + 1, room, rest, textual, enough, deep, stops => by
    rw [writeValue, readValue_atom (startsAtom_numeral i), readAtom_numeral textual stops]
  | .float x, fuel + 1, room, rest, textual, enough, deep, stops => by
    rw [writeValue, readValue_atom (startsAtom_text textual), readAtom_text textual stops]
  | .str s, fuel + 1, room, rest, textual, enough, deep, stops => by
    rw [writeValue, writeString, List.cons_append, List.append_assoc,
      List.singleton_append, readValue, readString_written s]
    rfl
  | .list items, fuel + 1, 0, rest, textual, enough, deep, stops => by cases deep
  | .list [], fuel + 1, room + 1, rest, textual, enough, deep, stops => rfl
  | .list (v :: items), fuel + 1, room + 1, rest, textual, enough, deep, stops => by
    have length : (writeValue (.list (v :: items))).length =
        (writeItems (v :: items)).length + 2 := by
      simp [writeValue]
    exact readValue_list textual.1
      (readItems_writeItems v items fuel room rest textual (by omega) (Nat.le_of_succ_le_succ deep))
  | .record fields, fuel + 1, 0, rest, textual, enough, deep, stops => by cases deep
  | .record [], fuel + 1, room + 1, rest, textual, enough, deep, stops => rfl
  | .record (field :: fields), fuel + 1, room + 1, rest, textual, enough, deep, stops => by
    have length : (writeValue (.record (field :: fields))).length =
        (writeMembers (field :: fields)).length + 2 := by
      simp [writeValue]
    exact readValue_record textual.1
      (readMembers_writeMembers field fields fuel room rest textual.2 (by omega)
        (Nat.le_of_succ_le_succ deep))

/-- What is written for items is read as the items, up to the closing bracket. -/
theorem readItems_writeItems :
    ∀ (v : Value) (items : List Value) (fuel room : Nat) (rest : List Char),
    Value.TextualItems (·.isFinite) (v :: items) → (writeItems (v :: items)).length < fuel →
    Value.depthItems (v :: items) ≤ room →
    readItems fuel room (writeItems (v :: items) ++ ']' :: rest) = .ok (v :: items, rest)
  | v, [], fuel + 1, room, rest, textual, enough, deep =>
    readItems_last (readValue_writeValue v fuel room _ textual.1 (Nat.le_of_lt_succ enough)
      (Nat.le_trans (Nat.le_max_left _ _) deep) (stops_cons (by decide) rest))
  | v, w :: items, fuel + 1, room, rest, textual, enough, deep => by
    rw [writeItems_cons, List.length_append, List.length_cons] at enough
    refine readItems_more textual.2.1 ?_
      (readItems_writeItems w items fuel room rest textual.2 (by omega)
        (Nat.le_trans (Nat.le_max_right _ _) deep))
    intro behind
    exact readValue_writeValue v fuel room _ textual.1 (by omega)
      (Nat.le_trans (Nat.le_max_left _ _) deep) (stops_cons (by decide) behind)

/-- What is written for members is read as the members, up to the closing brace. -/
theorem readMembers_writeMembers :
    ∀ (field : String × Value) (fields : List (String × Value)) (fuel room : Nat)
    (rest : List Char), Value.TextualFields (·.isFinite) (field :: fields) →
    (writeMembers (field :: fields)).length < fuel → Value.depthFields (field :: fields) ≤ room →
    readMembers fuel room (writeMembers (field :: fields) ++ '\x7d' :: rest) =
      .ok (field :: fields, rest)
  | (name, v), [], fuel + 1, room, rest, textual, enough, deep => by
    rw [writeMembers_singleton, writeMember, List.length_append, List.length_cons] at enough
    exact readMembers_last textual.1
      (readValue_writeValue v fuel room _ textual.1 (by dsimp only at enough; omega)
        (Nat.le_trans (Nat.le_max_left _ _) deep) (stops_cons (by decide) rest))
  | (name, v), other :: fields, fuel + 1, room, rest, textual, enough, deep => by
    rw [writeMembers_cons, writeMember, List.length_append, List.length_append, List.length_cons,
      List.length_cons] at enough
    dsimp only at enough
    refine readMembers_more textual.1 ?_
      (readMembers_writeMembers other fields fuel room rest textual.2 (by omega)
        (Nat.le_trans (Nat.le_max_right _ _) deep))
    intro behind
    exact readValue_writeValue v fuel room _ textual.1 (by omega)
      (Nat.le_trans (Nat.le_max_left _ _) deep) (stops_cons (by decide) behind)

end

/-! ### Whole texts -/

/-- The text of a value is read as what answers show of the value. -/
theorem readWithin_write {ok : Binary64 → Prop} {v : Value} (textual : v.Textual ok) {room : Nat}
    (deep : v.plain.depth ≤ room) : readWithin room (write v).toList = .ok v.plain := by
  have shown : v.plain.Textual (·.isFinite) := Value.textual_plain v textual
  have stops : Stops [] := by simp [Stops]
  have front : skipGap (writeValue v.plain ++ []) = writeValue v.plain ++ [] :=
    skipGap_writeValue shown []
  have read := readValue_writeValue v.plain (2 * (writeValue v.plain).length + 2) room [] shown
    (by omega) deep stops
  rw [List.append_nil] at front read
  rw [write, String.toList_ofList, readWithin, front, read]
  rfl

end Json

end Tabulate
