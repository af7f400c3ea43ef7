import Mathlib.Data.List.TakeWhile
import Tabulate.Fault
import Tabulate.Json.Reader
import Tabulate.Json.Writer
import Tabulate.Proofs.Columns
import Tabulate.Proofs.Number.Reading

/-!
# Values that JSON text stands for

A value is textual if a JSON text can stand for it. What the reader returns is textual
(`Json.textual_readText`), and so is what answers show of it, with finite numbers only
(`Value.textual_plain`).

`Value.finitized` puts `null` for the numbers that are not finite. Answers show just this of a
textual value, unless they leave out one of its fields (`Value.plain_of_open`).
-/

namespace Tabulate

namespace Value

mutual

/-- Whether a JSON text can stand for a value: nothing in it is missing, no integer is too long, the
keys of each record are distinct, and its binary numbers are among those that `ok` allows. -/
def Textual (ok : Binary64 → Prop) : Value → Prop
  | missing => False
  | int i => (Nat.toDigits 10 i.natAbs).length ≤ maxIntegerDigits
  | float x => ok x
  | list items => TextualItems ok items
  | record fields => (fields.map Prod.fst).Nodup ∧ TextualFields ok fields
  | _ => True

/-- Whether JSON texts can stand for all items of a list. -/
def TextualItems (ok : Binary64 → Prop) : List Value → Prop
  | [] => True
  | v :: rest => v.Textual ok ∧ TextualItems ok rest

/-- Whether JSON texts can stand for all values of a record. -/
def TextualFields (ok : Binary64 → Prop) : List (String × Value) → Prop
  | [] => True
  | (_, v) :: rest => v.Textual ok ∧ TextualFields ok rest

end

mutual

/-- How deeply the lists and records of a value are nested. -/
def depth : Value → Nat
  | list items => depthItems items + 1
  | record fields => depthFields fields + 1
  | _ => 0

/-- The greatest depth of the items of a list. -/
def depthItems : List Value → Nat
  | [] => 0
  | v :: rest => max v.depth (depthItems rest)

/-- The greatest depth of the values of a record. -/
def depthFields : List (String × Value) → Nat
  | [] => 0
  | (_, v) :: rest => max v.depth (depthFields rest)

end

theorem textualItems_iff {ok : Binary64 → Prop} {items : List Value} :
    TextualItems ok items ↔ ∀ v ∈ items, v.Textual ok := by
  induction items with
  | nil => simp [TextualItems]
  | cons v rest ih => simp [TextualItems, ih]

theorem textualFields_iff {ok : Binary64 → Prop} {fields : List (String × Value)} :
    TextualFields ok fields ↔ ∀ f ∈ fields, f.2.Textual ok := by
  induction fields with
  | nil => simp [TextualFields]
  | cons f rest ih => simp [TextualFields, ih]

/-! ### What answers show of a value -/

theorem map_fst_plainFields (fields : List (String × Value)) :
    (plainFields fields).map Prod.fst = (fields.map Prod.fst).filter (!isInternalKey ·) := by
  induction fields with
  | nil => rfl
  | cons f rest ih =>
    obtain ⟨key, v⟩ := f
    cases internal : isInternalKey key <;> simp [plainFields, internal, ih]

mutual

/-- What answers show of a textual value is textual, and its numbers are finite. -/
theorem textual_plain {ok : Binary64 → Prop} :
    ∀ v : Value, v.Textual ok → v.plain.Textual (·.isFinite)
  | null, _ => trivial
  | missing, textual => by cases textual
  | bool _, _ => trivial
  | int _, textual => textual
  | float x, _ => by
    by_cases finite : x.isFinite
    · rw [plain, if_pos finite]
      exact finite
    · rw [plain, if_neg finite]
      trivial
  | str _, _ => trivial
  | list items, textual => textualItems_plain items textual
  | record fields, textual => by
    refine ⟨?_, textualFields_plain fields textual.2⟩
    rw [map_fst_plainFields]
    exact textual.1.filter _

theorem textualItems_plain {ok : Binary64 → Prop} :
    ∀ items : List Value, TextualItems ok items → TextualItems (·.isFinite) (plainItems items)
  | [], _ => trivial
  | v :: rest, textual => ⟨textual_plain v textual.1, textualItems_plain rest textual.2⟩

theorem textualFields_plain {ok : Binary64 → Prop} :
    ∀ fields : List (String × Value), TextualFields ok fields →
      TextualFields (·.isFinite) (plainFields fields)
  | [], _ => trivial
  | (key, v) :: rest, textual => by
    have others := textualFields_plain rest textual.2
    rw [plainFields]
    split
    · exact others
    · exact ⟨textual_plain v textual.1, others⟩

end

mutual

/-- The value with `null` for each number that is not finite. -/
def finitized : Value → Value
  | float x => if x.isFinite then float x else null
  | list items => list (finitizedItems items)
  | record fields => record (finitizedFields fields)
  | v => v

/-- The items of a list with `null` for each number that is not finite. -/
def finitizedItems : List Value → List Value
  | [] => []
  | v :: rest => v.finitized :: finitizedItems rest

/-- The fields of a record with `null` for each number that is not finite. -/
def finitizedFields : List (String × Value) → List (String × Value)
  | [] => []
  | (key, v) :: rest => (key, v.finitized) :: finitizedFields rest

end

mutual

/-- Whether answers show every field of the records in a value. -/
def Open : Value → Prop
  | list items => OpenItems items
  | record fields => OpenFields fields
  | _ => True

/-- Whether answers show every field in all items of a list. -/
def OpenItems : List Value → Prop
  | [] => True
  | v :: rest => v.Open ∧ OpenItems rest

/-- Whether answers show all fields of a record, and every field in their values. -/
def OpenFields : List (String × Value) → Prop
  | [] => True
  | (key, v) :: rest => isInternalKey key = false ∧ v.Open ∧ OpenFields rest

end

theorem openFields_iff {fields : List (String × Value)} :
    OpenFields fields ↔ ∀ f ∈ fields, isInternalKey f.1 = false ∧ f.2.Open := by
  induction fields with
  | nil => simp [OpenFields]
  | cons f rest ih => simp [OpenFields, ih, and_assoc]

mutual

/-- Answers show a textual value that is open as it is, but for numbers that are not finite. -/
theorem plain_of_open {ok : Binary64 → Prop} :
    ∀ v : Value, v.Textual ok → v.Open → v.plain = v.finitized
  | null, _, _ => rfl
  | missing, textual, _ => by cases textual
  | bool _, _, _ => rfl
  | int _, _, _ => rfl
  | float _, _, _ => rfl
  | str _, _, _ => rfl
  | list items, textual, shown => by rw [plain, finitized, plainItems_of_open items textual shown]
  | record fields, textual, shown =>
    by rw [plain, finitized, plainFields_of_open fields textual.2 shown]

theorem plainItems_of_open {ok : Binary64 → Prop} :
    ∀ items : List Value, TextualItems ok items → OpenItems items →
      plainItems items = finitizedItems items
  | [], _, _ => rfl
  | v :: rest, textual, shown => by
    rw [plainItems, finitizedItems, plain_of_open v textual.1 shown.1,
      plainItems_of_open rest textual.2 shown.2]

theorem plainFields_of_open {ok : Binary64 → Prop} :
    ∀ fields : List (String × Value), TextualFields ok fields → OpenFields fields →
      plainFields fields = finitizedFields fields
  | [], _, _ => rfl
  | (key, v) :: rest, textual, shown => by
    rw [plainFields, finitizedFields, shown.1, plain_of_open v textual.1 shown.2.1,
      plainFields_of_open rest textual.2 shown.2.2]
    rfl

end

end Value

/-! ### What the reader returns -/

/-- A row of entries gives textual values to its columns if the entries do. -/
theorem Row.textual_ofEntries {ok : Binary64 → Prop} {entries : List (String × Value)}
    (textual : Value.TextualFields ok entries) : (ofEntries entries).toValue.Textual ok := by
  have set {row : Row} {key : String} {v : Value} (textual : Value.TextualFields ok row.entries)
      (new : v.Textual ok) : Value.TextualFields ok (row.set key v).entries := by
    rw [Value.textualFields_iff] at textual ⊢
    intro f hf
    rcases mem_setEntry hf with rfl | old
    · exact new
    · exact textual f old
  have all (row : Row) (start : Value.TextualFields ok row.entries) :
      Value.TextualFields ok
        (entries.foldl (fun row entry => row.set entry.1 entry.2) row).entries := by
    induction entries generalizing row with
    | nil => exact start
    | cons entry rest ih => exact ih textual.2 _ (set start textual.1)
  exact ⟨(ofEntries entries).distinct, all empty trivial⟩

namespace Json

/-- What was read and changed afterwards was read. -/
theorem ok_of_map {α β : Type} (f : α → β) {reading : Reading α} {b : β} {rest : List Char}
    (h : (reading.map fun read => (f read.1, read.2)) = .ok (b, rest)) :
    ∃ a, reading = .ok (a, rest) ∧ b = f a := by
  obtain ⟨⟨a, rest⟩, read, same⟩ := map_eq_ok.1 h
  cases same
  exact ⟨a, read, rfl⟩

theorem allDigits_readWhole {cs whole rest : List Char} (h : readWhole cs = some (whole, rest)) :
    AllDigits whole ∧ whole ≠ [] := by
  have span : ∀ ds : List Char, AllDigits (ds.takeWhile Char.isDigit) :=
    fun ds c hc => List.mem_takeWhile_imp hc
  unfold readWhole at h
  split at h
  · cases h
    exact ⟨allDigits_replicate_zero 1, by simp⟩
  · split at h
    · cases h
    · rename_i nonempty
      cases h
      refine ⟨span cs, ?_⟩
      intro none
      exact nonempty _ (by rw [spanDigits, none])

/-- A number that is read is not too long. -/
theorem textual_readNumber {cs rest : List Char} {v : Value} (h : readNumber cs = .ok (v, rest)) :
    v.Textual fun _ => True := by
  unfold readNumber at h
  split at h
  split at h
  · cases h
  · rename_i whole behind read
    obtain ⟨digits, nonempty⟩ := allDigits_readWhole read
    rcases readFraction behind with ⟨fraction, behind⟩
    rcases readPower behind with ⟨power, behind⟩
    dsimp only at h
    split at h
    · split at h
      · cases h
      · rename_i short
        cases h
        rw [Value.Textual, natAbs_withSign]
        refine Nat.le_trans ?_ (Nat.not_lt.1 short)
        exact (Nat.length_toDigits_le_iff (by decide) (List.length_pos_iff.2 nonempty)).2
          (ofDigitChars_lt digits)
    · injection h with h
      rw [← (Prod.mk.inj h).1]
      trivial

theorem textual_readAtom {cs rest : List Char} {v : Value} (h : readAtom cs = .ok (v, rest)) :
    v.Textual fun _ => True := by
  have words : ∀ entry ∈ keywords, entry.2.Textual fun _ => True := by
    simp [keywords, Value.Textual]
  unfold readAtom at h
  split at h
  · rename_i word w found
    cases h
    exact words _ (List.mem_of_find?_eq_some found)
  · exact textual_readNumber h

/-- Whatever is read is textual: values, items and members, by induction on the fuel that they
share. -/
theorem textual_read (fuel : Nat) :
    (∀ room cs v rest, readValue fuel room cs = .ok (v, rest) → v.Textual fun _ => True) ∧
      (∀ room cs items rest, readItems fuel room cs = .ok (items, rest) →
        Value.TextualItems (fun _ => True) items) ∧
      ∀ room cs fields rest, readMembers fuel room cs = .ok (fields, rest) →
        Value.TextualFields (fun _ => True) fields := by
  induction fuel with
  | zero =>
    refine ⟨?_, ?_, ?_⟩
    · intro room cs v rest h
      cases h
    · intro room cs items rest h
      cases h
    · intro room cs fields rest h
      cases h
  | succ fuel ih =>
    obtain ⟨values, items, members⟩ := ih
    refine ⟨?_, ?_, ?_⟩
    · intro room cs v rest h
      unfold readValue at h
      split at h
      case h_1 => cases h
      case h_2 =>
        obtain ⟨s, -, rfl⟩ := ok_of_map Value.str h
        trivial
      case h_3 => cases h
      case h_4 => cases h
      case h_5 fuel' room rest' same =>
        cases same
        split at h
        · cases h
          trivial
        · obtain ⟨vs, read, rfl⟩ := ok_of_map Value.list h
          exact items _ _ _ _ read
      case h_6 fuel' room rest' same =>
        cases same
        split at h
        · cases h
          exact ⟨List.nodup_nil, trivial⟩
        -- a key may stand there twice; the row that the fields make has it once
        · obtain ⟨fields, read, rfl⟩ := ok_of_map (fun fields => (Row.ofEntries fields).toValue) h
          exact Row.textual_ofEntries (members _ _ _ _ read)
      case h_7 => exact textual_readAtom h
    · intro room cs vs rest h
      unfold readItems at h
      split at h
      · cases h
      · rename_i v behind read
        have first := values _ _ _ _ read
        split at h
        · cases h
          exact ⟨first, trivial⟩
        · obtain ⟨others, read, rfl⟩ := ok_of_map (v :: ·) h
          exact ⟨first, items _ _ _ _ read⟩
        · cases h
    · intro room cs fields rest h
      unfold readMembers at h
      split at h
      case h_1 => cases h
      case h_3 => cases h
      case h_2 fuel' room rest' same =>
        cases same
        split at h
        · cases h
        split at h
        · split at h
          · cases h
          · rename_i v behind read
            have first := values _ _ _ _ read
            split at h
            · cases h
              exact ⟨first, trivial⟩
            · obtain ⟨others, read, rfl⟩ := ok_of_map ((_, v) :: ·) h
              exact ⟨first, members _ _ _ _ read⟩
            · cases h
        · cases h

/-- The value of a whole text is textual. -/
theorem textual_readText {cs : List Char} {v : Value} (h : readText cs = .ok v) :
    v.Textual fun _ => True := by
  unfold readText readWithin at h
  split at h
  · cases h
  · rename_i w rest read
    split at h
    · cases h
      exact (textual_read _).1 _ _ _ _ read
    · cases h

end Json

end Tabulate
