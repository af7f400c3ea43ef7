import Tabulate.Proofs.Json.Textual

/-!
# What answers show of a value

`Value.plain` makes a value fit for an answer in one go. Here it is taken apart: `Value.opened`
leaves out the fields that are not for others to see, `Value.finitized` puts `null` for numbers that
are not finite, and for a value in which nothing is missing the two together are what answers show
(`Value.plain_eq_finitized`).
-/

namespace Tabulate

namespace Value

mutual

/-- Whether nothing in a value is missing, and its binary numbers are among those that `ok`
allows. -/
def Present (ok : Binary64 → Prop) : Value → Prop
  | missing => False
  | float x => ok x
  | list items => PresentItems ok items
  | record fields => PresentFields ok fields
  | _ => True

/-- Whether nothing is missing in any item of a list. -/
def PresentItems (ok : Binary64 → Prop) : List Value → Prop
  | [] => True
  | v :: rest => v.Present ok ∧ PresentItems ok rest

/-- Whether nothing is missing in any value of a record. -/
def PresentFields (ok : Binary64 → Prop) : List (String × Value) → Prop
  | [] => True
  | (_, v) :: rest => v.Present ok ∧ PresentFields ok rest

end

mutual

/-- The value without the fields that answers leave out, at any depth. -/
def opened : Value → Value
  | list items => list (openedItems items)
  | record fields => record (openedFields fields)
  | v => v

/-- The items of a list without the fields that answers leave out. -/
def openedItems : List Value → List Value
  | [] => []
  | v :: rest => v.opened :: openedItems rest

/-- The fields of a record without those that answers leave out. -/
def openedFields : List (String × Value) → List (String × Value)
  | [] => []
  | (key, v) :: rest =>
    if isInternalKey key then openedFields rest else (key, v.opened) :: openedFields rest

end

variable {ok : Binary64 → Prop}

theorem presentItems_iff {items : List Value} :
    PresentItems ok items ↔ ∀ v ∈ items, v.Present ok := by
  induction items with
  | nil => simp [PresentItems]
  | cons v rest ih => simp [PresentItems, ih]

theorem presentFields_iff {fields : List (String × Value)} :
    PresentFields ok fields ↔ ∀ f ∈ fields, f.2.Present ok := by
  induction fields with
  | nil => simp [PresentFields]
  | cons f rest ih => simp [PresentFields, ih]

mutual

/-- Nothing is missing in a textual value. -/
theorem Textual.present : ∀ {v : Value}, v.Textual ok → v.Present ok
  | null, _ => trivial
  | missing, textual => textual
  | bool _, _ => trivial
  | int _, _ => trivial
  | float _, textual => textual
  | str _, _ => trivial
  | list _, textual => TextualItems.present textual
  | record _, textual => TextualFields.present textual.2

theorem TextualItems.present : ∀ {items : List Value}, TextualItems ok items → PresentItems ok items
  | [], _ => trivial
  | _ :: _, textual => ⟨textual.1.present, TextualItems.present textual.2⟩

theorem TextualFields.present :
    ∀ {fields : List (String × Value)}, TextualFields ok fields → PresentFields ok fields
  | [], _ => trivial
  | (_, _) :: _, textual => ⟨textual.1.present, TextualFields.present textual.2⟩

end

mutual

/-- Nothing is missing in what answers show, and its numbers are finite, whatever the value. -/
theorem present_plain : ∀ v : Value, v.plain.Present (·.isFinite)
  | null => trivial
  | missing => trivial
  | bool _ => trivial
  | int _ => trivial
  | float x => by
    by_cases finite : x.isFinite
    · rw [plain, if_pos finite]
      exact finite
    · rw [plain, if_neg finite]
      trivial
  | str _ => trivial
  | list items => presentItems_plain items
  | record fields => presentFields_plain fields

theorem presentItems_plain : ∀ items : List Value, PresentItems (·.isFinite) (plainItems items)
  | [] => trivial
  | v :: rest => ⟨present_plain v, presentItems_plain rest⟩

theorem presentFields_plain :
    ∀ fields : List (String × Value), PresentFields (·.isFinite) (plainFields fields)
  | [] => trivial
  | (key, v) :: rest => by
    rw [plainFields]
    split
    · exact presentFields_plain rest
    · exact ⟨present_plain v, presentFields_plain rest⟩

end

mutual

/-- Where nothing is missing, answers show the fields that they do not leave out, with `null` for
the numbers that are not finite. -/
theorem plain_eq_finitized : ∀ v : Value, v.Present ok → v.plain = v.opened.finitized
  | null, _ => rfl
  | missing, present => by cases present
  | bool _, _ => rfl
  | int _, _ => rfl
  | float _, _ => rfl
  | str _, _ => rfl
  | list items, present => by rw [plain, opened, finitized, plainItems_eq_finitized items present]
  | record fields, present =>
    by rw [plain, opened, finitized, plainFields_eq_finitized fields present]

theorem plainItems_eq_finitized :
    ∀ items : List Value, PresentItems ok items →
      plainItems items = finitizedItems (openedItems items)
  | [], _ => rfl
  | v :: rest, present => by
    rw [plainItems, openedItems, finitizedItems, plain_eq_finitized v present.1,
      plainItems_eq_finitized rest present.2]

theorem plainFields_eq_finitized :
    ∀ fields : List (String × Value), PresentFields ok fields →
      plainFields fields = finitizedFields (openedFields fields)
  | [], _ => rfl
  | (key, v) :: rest, present => by
    rw [plainFields, openedFields]
    split
    · exact plainFields_eq_finitized rest present.2
    · rw [finitizedFields, plain_eq_finitized v present.1, plainFields_eq_finitized rest present.2]

end

end Value

end Tabulate
