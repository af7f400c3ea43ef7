import Tabulate.Proofs.Columns
import Tabulate.Proofs.Grouping
import Tabulate.Proofs.Json.Shown
import Tabulate.Proofs.Store.Steps
import Tabulate.Proofs.Value.Proper

/-!
# Values that lack nothing

A value is whole if nothing in it is missing, at any depth. JSON text stands for whole values only,
so the rows that come from such text are whole. A query makes whole rows of whole rows: what it
shows are cells of the rows, figures, and the empty text for a cell that is absent. And a store
whose rows are whole stays one, as long as only such rows are stored.
-/

namespace Tabulate

namespace Value

/-- Whether nothing in a value is missing. -/
def Whole (v : Value) : Prop := v.Present fun _ => True

@[simp] theorem whole_null : null.Whole := trivial

@[simp] theorem whole_bool (b : Bool) : (bool b).Whole := trivial

@[simp] theorem whole_int (i : Int) : (int i).Whole := trivial

@[simp] theorem whole_float (x : Binary64) : (float x).Whole := trivial

@[simp] theorem whole_str (s : String) : (str s).Whole := trivial

theorem whole_list {items : List Value} : (list items).Whole ↔ ∀ v ∈ items, v.Whole :=
  presentItems_iff

theorem whole_record {fields : List (String × Value)} :
    (record fields).Whole ↔ ∀ f ∈ fields, f.2.Whole :=
  presentFields_iff

/-- What a whole value consists of is whole. -/
theorem Whole.members {v : Value} (whole : v.Whole) {values : List Value}
    (h : v.members = .ok values) : ∀ w ∈ values, w.Whole := by
  cases v with
  | list items =>
    cases h
    exact whole_list.1 whole
  | str s =>
    cases h
    intro w hw
    obtain ⟨c, -, rfl⟩ := List.mem_map.1 hw
    trivial
  | record fields =>
    cases h
    intro w hw
    obtain ⟨f, -, rfl⟩ := List.mem_map.1 hw
    trivial
  | _ => cases h

theorem Whole.field {v : Value} (whole : v.Whole) (key : String) : (v.field key).Whole := by
  cases v with
  | record fields =>
    rw [Value.field]
    cases found : fields.lookup key with
    | none => trivial
    | some w => exact whole_record.1 whole (key, w) (mem_of_lookup found)
  | _ => trivial

end Value

/-! ### Rows -/

namespace Row

/-- Whether nothing in a row is missing. -/
def Whole {κ : Type} (row : Row κ) : Prop := ∀ entry ∈ row.entries, entry.2.Whole

theorem whole_toValue {row : Row} : row.toValue.Whole ↔ row.Whole := Value.whole_record

theorem whole_list_toValue {rows : List Row} :
    (Value.list (rows.map toValue)).Whole ↔ ∀ row ∈ rows, row.Whole := by
  simp [Value.whole_list, whole_toValue]

theorem whole_empty {κ : Type} : (empty : Row κ).Whole := by simp [Whole, empty]

section Setting

variable {κ : Type} [DecidableEq κ] {row : Row κ}

theorem Whole.set (whole : row.Whole) (column : κ) {v : Value} (value : v.Whole) :
    (row.set column v).Whole := by
  intro entry h
  rcases mem_setEntry h with rfl | old
  · exact value
  · exact whole entry old

/-- A row stays whole while columns get whole values. -/
theorem Whole.foldl_set {α : Type} (whole : row.Whole) (column : α → κ) {value : α → Value}
    {as : List α} (values : ∀ a ∈ as, (value a).Whole) :
    (as.foldl (fun row a => row.set (column a) (value a)) row).Whole := by
  induction as generalizing row with
  | nil => exact whole
  | cons a rest ih =>
    apply ih (whole.set (column a) (values a List.mem_cons_self))
    intro b hb
    exact values b (List.mem_cons_of_mem _ hb)

end Setting

/-- A row that a whole value describes is whole. -/
theorem whole_of_ofValue? {v : Value} (whole : v.Whole) {row : Row} (h : ofValue? v = some row) :
    row.Whole := by
  cases v with
  | record fields =>
    cases h
    exact whole_empty.foldl_set Prod.fst (Value.whole_record.1 whole)
  | _ => cases h

theorem whole_of_ofValues {values : List Value} (whole : ∀ v ∈ values, v.Whole) {rows : List Row}
    (h : ofValues values = .ok rows) : ∀ row ∈ rows, row.Whole := by
  induction values generalizing rows with
  | nil =>
    cases h
    simp
  | cons v rest ih =>
    unfold ofValues at h
    split at h
    · rename_i row described
      obtain ⟨others, found, h⟩ := bind_eq_ok.1 h
      cases h
      have first : row.Whole := whole_of_ofValue? (whole v List.mem_cons_self) described
      exact List.forall_mem_cons.2
        ⟨first, ih (fun w hw => whole w (List.mem_cons_of_mem _ hw)) found⟩
    · cases h

variable {row : Row}

theorem Whole.get? (whole : row.Whole) {column : String} {v : Value}
    (h : row.get? column = some v) : v.Whole :=
  whole (column, v) (Value.mem_of_lookup h)

/-- What a whole row shows for a key column is whole. -/
theorem Whole.keyValue (whole : row.Whole) (column : String) : (row.keyValue column).Whole := by
  unfold Row.keyValue
  split
  · trivial
  · cases found : row.get? column with
    | none => trivial
    | some v => exact whole.get? found

theorem Whole.onAxes (whole : row.Whole) (x y : String) : (row.onAxes x y).Whole := by
  unfold Row.onAxes
  apply Whole.set
  · split
    · exact whole.set x trivial
    · exact whole
  · trivial

end Row

/-! ### Queries -/

/-- A figure is a number. -/
theorem Aggregation.whole_figure {a : Aggregation} {figure : Binary64 → List Binary64 → Value}
    (h : a.figure? = some figure) (x : Binary64) (xs : List Binary64) : (figure x xs).Whole := by
  cases a <;> cases h <;> trivial

namespace Query

variable {q : Query} {rows made : List Row}

/-- The row of a group with a whole first member is whole. -/
theorem whole_groupRow {κ : Type} [DecidableEq κ] (labels : Labels κ) (first : String)
    {figure : Binary64 → List Binary64 → Value} (figures : ∀ x xs, (figure x xs).Whole)
    {g : Group (List String) Row} (whole : g.first.Whole) :
    (q.groupRow labels first figure g).Whole := by
  have start : (Row.empty.set labels.x (g.first.keyValue first)).Whole :=
    Row.whole_empty.set labels.x (whole.keyValue first)
  apply Row.Whole.set
  · exact start.foldl_set labels.column fun column _ => whole.keyValue column
  · exact figures _ _

theorem whole_condense {κ : Type} [DecidableEq κ] {labels : Labels κ} {made : List (Row κ)}
    (whole : ∀ row ∈ rows, row.Whole) (h : q.condense labels rows = .ok made) :
    ∀ row ∈ made, row.Whole := by
  unfold condense at h
  split at h
  · cases h
    simp
  split at h
  · cases h
  · cases h
  · rename_i first others figure keys known
    cases h
    intro row hrow
    obtain ⟨g, hg, rfl⟩ := List.mem_map.1 hrow
    have member : g.first ∈ rows := Group.mem_of_mem_firsts (List.mem_map_of_mem hg)
    exact whole_groupRow labels first (Aggregation.whole_figure known) (whole g.first member)

theorem whole_shapeRows (whole : ∀ row ∈ rows, row.Whole) :
    ∀ row ∈ shapeRows rows q, row.Whole := by
  unfold shapeRows
  split
  · rename_i x y axes
    intro shown h
    obtain ⟨row, hrow, rfl⟩ := List.mem_map.1 h
    exact (whole row hrow).onAxes x y
  · exact whole

/-- A query makes whole rows of whole rows. -/
theorem whole_run (whole : ∀ row ∈ rows, row.Whole) (h : q.run rows = .ok made) :
    ∀ row ∈ made, row.Whole := by
  have survivors : ∀ row ∈ filterRows rows q.filters, row.Whole :=
    fun row hrow => whole row (List.mem_filter.1 hrow).1
  unfold run at h
  dsimp only at h
  split at h
  · cases h
    exact whole_shapeRows survivors
  split at h
  · exact whole_condense survivors h
  · cases h
  · cases h

end Query

theorem whole_evaluate {rows made : List Row} {wire id : Value} (whole : ∀ row ∈ rows, row.Whole)
    (h : evaluate (some rows) wire id = .ok made) : ∀ row ∈ made, row.Whole := by
  obtain ⟨q, -, h⟩ := bind_eq_ok.1 h
  exact Query.whole_run whole h

/-! ### Stores -/

namespace Store

/-- Whether nothing is missing in the rows of any dataset. -/
def Whole (s : Store) : Prop := ∀ d ∈ s.datasets, ∀ row ∈ d.rows, row.Whole

theorem whole_empty : empty.Whole := by simp [Whole, empty]

variable {s t : Store} {d : Dataset} {now : Timestamp} {name rows owner entry : Value}

theorem Whole.insert (whole : s.Whole) {base : String} {rs : List Row} (new : ∀ row ∈ rs, row.Whole)
    (h : s.insert now base rs owner = (d, t)) : t.Whole := by
  cases h
  intro e he
  rcases List.mem_append.1 he with old | stored
  · exact whole e old
  · cases List.mem_singleton.1 stored
    exact new

theorem Whole.create (whole : s.Whole) (new : rows.Whole)
    (h : s.create now name rows owner = .ok (d, t)) : t.Whole := by
  obtain ⟨base, values, rs, -, members, -, described, inserted⟩ := create_eq_ok h
  exact whole.insert (Row.whole_of_ofValues (new.members members) described) inserted

theorem Whole.addUnique (whole : s.Whole) (new : rows.Whole)
    (h : s.addUnique now name rows owner = .ok (d, t)) : t.Whole := by
  obtain ⟨base, values, rs, -, members, described, inserted⟩ := addUnique_eq_ok h
  exact whole.insert (Row.whole_of_ofValues (new.members members) described) inserted

theorem Whole.addEntry (whole : s.Whole) (new : entry.Whole)
    (h : s.addEntry now entry = .ok (d, t)) : t.Whole := by
  obtain ⟨name, -, h⟩ := bind_eq_ok.1 h
  obtain ⟨rows, found, h⟩ := bind_eq_ok.1 h
  have rowsWhole : rows.Whole := by
    obtain ⟨truth, -, found⟩ := bind_eq_ok.1 found
    cases found
    split
    · exact new.field "rows"
    · exact Value.whole_list.2 (by simp)
  exact whole.addUnique rowsWhole h

theorem Whole.addEntries (whole : s.Whole) {entries : List Value}
    (new : ∀ entry ∈ entries, entry.Whole) : (s.addEntries now entries).1.Whole := by
  induction entries generalizing s with
  | nil => exact whole
  | cons entry rest ih =>
    unfold Store.addEntries
    cases added : s.addEntry now entry with
    | error fault => exact whole
    | ok result =>
      have first := whole.addEntry (new entry List.mem_cons_self) added
      exact ih first fun e he => new e (List.mem_cons_of_mem _ he)

/-- The entries of a seed text are whole, for JSON text stands for whole values only. -/
theorem whole_seedEntries {text : String} {entries : List Value}
    (h : seedEntries text = .ok entries) : ∀ entry ∈ entries, entry.Whole := by
  unfold seedEntries at h
  split at h
  · cases h
  · rename_i v read
    unfold Json.read at read
    split at read
    · cases read
    · have textual := Json.textual_readText (mapError_eq_ok read)
      exact Value.Whole.members textual.present h

theorem Whole.load (whole : s.Whole) (now : Timestamp) (text : String) :
    (s.load now text).1.Whole := by
  unfold Store.load
  cases read : seedEntries text with
  | error fault => exact whole
  | ok entries => exact whole.addEntries (whole_seedEntries read)

theorem Whole.erase (whole : s.Whole) (i : Nat) : (s.erase i).Whole :=
  fun e he => whole e (List.mem_filter.1 he).1

end Store

/-- Whether nothing is missing in the rows that a command stores. -/
def Command.Whole : Command → Prop
  | create _ rows _ | addUnique _ rows _ => rows.Whole
  | _ => True

namespace Session

variable {session : Session}

theorem whole_withStore {result : Except Fault (Dataset × Store)} (before : session.store.Whole)
    (after : ∀ d t, result = .ok (d, t) → t.Whole) : (session.withStore result).1.store.Whole := by
  cases result with
  | error fault => exact before
  | ok stored => exact after stored.1 stored.2 rfl

theorem whole_perform (whole : session.store.Whole) {command : Command} (new : command.Whole) :
    (session.perform command).1.store.Whole := by
  cases command with
  | create name rows owner => exact whole_withStore whole fun d t h => whole.create new h
  | addUnique name rows owner => exact whole_withStore whole fun d t h => whole.addUnique new h
  | load text => exact whole.load session.clock text
  | delete id viewer =>
    rcases session.perform_delete id viewer with ⟨fault, same⟩ | ⟨d, -, done⟩
    · rwa [same]
    · rw [done]
      exact whole.erase d.id
  -- the others leave the store as it was
  | get id viewer => exact whole
  | list viewer => exact whole
  | visible id viewer other => exact whole
  | evaluate id viewer query => exact whole
  | setClock now => exact whole

/-- A store that is filled with whole rows is whole. -/
theorem whole_run (whole : session.store.Whole) {commands : List Command}
    (new : ∀ command ∈ commands, command.Whole) : (session.run commands).1.store.Whole := by
  induction commands generalizing session with
  | nil => exact whole
  | cons command rest ih =>
    have first := whole_perform whole (new command List.mem_cons_self)
    exact ih first fun c hc => new c (List.mem_cons_of_mem _ hc)

end Session

end Tabulate
