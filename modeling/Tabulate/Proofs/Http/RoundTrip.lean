import Tabulate.Proofs.Http.Refinement
import Tabulate.Proofs.Json.ReadBack
import Tabulate.Proofs.Store.History
import Tabulate.Proofs.Value.Proper

/-!
# What was posted is returned

The rows of a new dataset come in a request's body and are returned when the user asks for the
dataset, as long as no request deleted it: `App.handle_post_get`. They are returned as answers show
them. Numbers that are not finite become `null`, and a field is left out if its key is internal;
there is no other difference. The text of the answer is read back as the answer, which needs room
for nesting and a number of rows that can be read.
-/

namespace Tabulate

namespace Http

/-! ### What a body says -/

/-- A JSON body is textual. -/
theorem textual_readBody {request : Request} {v : Value} (h : request.readBody = .ok (.json v)) :
    v.Textual fun _ => True := by
  unfold Request.readBody at h
  split at h
  · cases h
  split at h
  · split at h
    · cases h
    split at h
    · rename_i read
      cases h
      exact Json.textual_readText read
    · split at h
      all_goals cases h
  · cases h

theorem both_eq_ok {α β : Type} {x : Checked α} {y : Checked β} {a : α} {b : β}
    (h : Checked.both x y = .ok (a, b)) : x = .ok a ∧ y = .ok b := by
  cases x <;> cases y <;> cases h
  exact ⟨rfl, rfl⟩

/-- The rows of a list of textual values are the values, taken as rows. -/
theorem toValue_rows {place : Nat → List String} {index : Nat} {items : List Value}
    {rows : List Row} (textual : Value.TextualItems (fun _ => True) items)
    (h : Checked.each (fun index v => row (place index) v) index items = .ok rows) :
    rows.map Row.toValue = items := by
  induction items generalizing index rows with
  | nil =>
    cases h
    rfl
  | cons v rest ih =>
    obtain ⟨⟨first, others⟩, checked, rfl⟩ := map_eq_ok.1 h
    obtain ⟨described, checked⟩ := both_eq_ok checked
    have same : first.toValue = v := by
      -- the keys of a textual record are distinct, so its row keeps every field in place
      unfold row at described
      cases v with
      | record fields =>
        cases described
        rw [Row.toValue, Row.entries_ofEntries textual.1.1]
      | _ => cases described
    rw [List.map_cons, same, ih textual.2 checked]

/-- A new dataset that has rows takes them from a list in its field for data. -/
theorem rows_of_ofFields {fields : List (String × Value)} {d : DatasetData}
    (textual : Value.TextualFields (fun _ => True) fields) (h : DatasetData.ofFields fields = .ok d)
    (nonempty : d.rows.isEmpty = false) :
    fields.lookup "data" = some (.list (d.rows.map Row.toValue)) := by
  obtain ⟨⟨name, rows⟩, checked, rfl⟩ := map_eq_ok.1 h
  obtain ⟨-, checked⟩ := both_eq_ok checked
  rw [optionalField, field?, List.findSome?_singleton] at checked
  cases found : fields.lookup "data" with
  | none =>
    rw [found] at checked
    cases checked
    cases nonempty
  | some v =>
    rw [found] at checked
    have textual : v.Textual fun _ => True :=
      Value.textualFields_iff.1 textual _ (Value.mem_of_lookup found)
    cases v with
    | list items => rw [toValue_rows textual checked]
    | _ => cases checked

namespace App

variable {app : App} {user : Option String} {d : Dataset}

/-! ### Posting -/

/-- A request for a new dataset that is answered with 201 has stored it, with the rows that the body
lists. -/
theorem stored_of_status {post : Request} (named : app.credentials.identify post = .ok user)
    (route : Route.ofPath post.path = some .datasets) (method : post.method = "POST")
    (created : (app.handle post).2.status = 201) :
    ∃ (fields : List (String × Value)) (data : DatasetData) (d : Dataset),
      post.readBody = .ok (.json (.record fields)) ∧ DatasetData.ofFields fields = .ok data ∧
      data.rows.isEmpty = false ∧ d.rows = data.rows ∧ d.columns = inferColumns d.rows ∧
      d.owner = textValue user ∧
      d ∈ (app.handle post).1.store.datasets ∧
      (app.handle post).2 = .success 201 (d.toValue false) := by
  cases said : app.submission post DatasetData.ofFields with
  | error answer =>
    rw [handle_rejected route method said, status_submission named said] at created
    cases created
  | ok submitted =>
    obtain ⟨viewer, data⟩ := submitted
    obtain rfl := submission_eq_ok named said
    cases effect_createDataset route method named said with
    | @stores user' data' d stores =>
      have same := stores.said
      rw [said] at same
      obtain ⟨owner, rfl⟩ := Prod.mk.inj (Except.ok.inj same)
      obtain ⟨fields, read, checked⟩ := submission_ok said
      have mem : d ∈ (app.handle post).1.store.datasets := by simp [stores.handled]
      have answer : (app.handle post).2 = .success 201 (d.toValue false) := by rw [stores.handled]
      have dataset := stores.dataset
      rw [← owner] at dataset
      refine ⟨fields, data, d, read, checked, stores.nonempty, ?_, ?_, ?_, mem, answer⟩
      all_goals rw [dataset]
    | removes removes =>
      rw [removes.handled] at created
      cases created
    | leaves leaves => exact absurd created leaves.status

/-! ### The dataset stays -/

/-- The request deletes the dataset with the identifier `i`. -/
def Deletes (app : App) (request : Request) (i : Nat) : Prop :=
  ∃ text, Route.ofPath request.path = some (.dataset text) ∧ request.method = "DELETE" ∧
    integer ["dataset_id"] (.str text) = .ok (i : Int) ∧ (app.handle request).2.status = 200

/-- One of the requests deletes the dataset with the identifier `i`. -/
def DeletedIn (app : App) (i : Nat) : List (Timestamp × Request) → Prop
  | [] => False
  | (now, request) :: rest =>
    ({ app with clock := now } : App).Deletes request i ∨
      (({ app with clock := now } : App).handle request).1.DeletedIn i rest

/-- A dataset stays in the store unless a request deletes it. -/
theorem mem_handle {request : Request} (hd : d ∈ app.store.datasets)
    (kept : ¬ app.Deletes request d.id) : d ∈ (app.handle request).1.store.datasets := by
  rcases app.handle_cases request
    with same | ⟨viewer, data, -, step⟩ | ⟨text, viewer, i, route, method, referred, step⟩
  · rwa [same]
  · rw [step]
    rcases app.createDataset_cases viewer data with same | ⟨e, store, stored, created⟩
    · rwa [same]
    · rw [created]
      exact (Store.gains_create stored).mem_iff.2 (.inl hd)
  · rw [step]
    rcases app.deleteDataset_cases viewer i with same | ⟨store, deleted, done⟩
    · rwa [same]
    · obtain ⟨e, got, rfl⟩ := Store.delete_eq_ok deleted
      -- a deletion that succeeds was asked for by the identifier of what it deletes
      have ids : (e.id : Int) = i := beq_iff_eq.1 (Store.mem_of_get got).2.1
      have other : d.id ≠ e.id := by
        intro same
        refine kept ⟨text, route, method, ?_, ?_⟩
        · rw [same, ids]
          exact integer_of_reference referred
        · rw [step, done]
          rfl
      rw [done]
      exact List.mem_filter.2 ⟨hd, by simpa using other⟩

theorem mem_serve (requests : List (Timestamp × Request)) (hd : d ∈ app.store.datasets)
    (kept : ¬ app.DeletedIn d.id requests) : d ∈ (app.serve requests).1.store.datasets := by
  induction requests generalizing app with
  | nil => exact hd
  | cons first rest ih =>
    obtain ⟨now, request⟩ := first
    have here : ¬ ({ app with clock := now } : App).Deletes request d.id :=
      fun deleted => kept (.inl deleted)
    exact ih (mem_handle hd here) fun deleted => kept (.inr deleted)

theorem credentials_serve (app : App) (requests : List (Timestamp × Request)) :
    (app.serve requests).1.credentials = app.credentials := by
  induction requests generalizing app with
  | nil => rfl
  | cons first rest ih => exact (ih _).trans (credentials_handle _ _)

/-! ### Asking for the dataset -/

/-- A user who may see a stored dataset is answered with it. -/
theorem handle_get {request : Request} {text : String} (keyed : app.store.Keyed)
    (named : app.credentials.identify request = .ok user)
    (route : Route.ofPath request.path = some (.dataset text)) (method : request.method = "GET")
    (hd : d ∈ app.store.datasets) (visible : d.visibleTo (textValue user))
    (id : integer ["dataset_id"] (.str text) = .ok (d.id : Int)) :
    app.handle request = (app, .success 200 (d.toValue true)) := by
  have referred : app.reference request text = .ok (textValue user, (d.id : Int)) := by
    rw [reference, named, id]
    rfl
  have got : app.store.get (.int d.id) (textValue user) = .ok d :=
    Store.get_of_mem keyed hd (by exact beq_self_eq_true _) visible
  rw [handle_referred route method referred, showDataset, got]

end App

end Http

/-! ### What is shown of a dataset -/

namespace Dataset

theorem field_data (d : Dataset) :
    (d.toValue true).plain.field "data" = .list ((d.rows.map Row.toValue).map Value.plain) := by
  have keys : isInternalKey "id" = false ∧ isInternalKey "name" = false ∧
      isInternalKey "columns" = false ∧ isInternalKey "rowCount" = false ∧
      isInternalKey "owner" = false ∧ isInternalKey "createdAt" = false ∧
      isInternalKey "data" = false := by decide
  simp [toValue, Value.plain, Value.plainFields, keys, Value.field, List.lookup_cons,
    Value.plainItems_eq_map]

theorem field_columns (d : Dataset) :
    (d.toValue true).plain.field "columns" = .list (d.columns.map .str) := by
  have keys : isInternalKey "id" = false ∧ isInternalKey "name" = false ∧
      isInternalKey "columns" = false := by decide
  simp [toValue, Value.plain, Value.plainFields, keys, Value.field, List.lookup_cons,
    Value.plainItems_eq_map]

/-- A dataset whose numbers can be read is textual. -/
theorem textual_toValue {d : Dataset} {user : Option String} (owner : d.owner = Http.textValue user)
    (id : (Nat.toDigits 10 d.id).length ≤ maxIntegerDigits)
    (count : (Nat.toDigits 10 d.rows.length).length ≤ maxIntegerDigits)
    (rows : Value.TextualItems (fun _ => True) (d.rows.map Row.toValue)) :
    (d.toValue true).Textual fun _ => True := by
  have columns : Value.TextualItems (fun _ => True) (d.columns.map Value.str) := by
    rw [Value.textualItems_iff]
    intro v hv
    obtain ⟨column, -, rfl⟩ := List.mem_map.1 hv
    trivial
  have owner : d.owner.Textual fun _ => True := by
    rw [owner]
    cases user <;> trivial
  have distinct : ["id", "name", "columns", "rowCount", "owner", "createdAt", "data"].Nodup := by
    decide
  exact ⟨distinct, id, trivial, columns, count, owner, trivial, rows, trivial⟩

/-- A column that answers do not leave out is a key of some row that they show. -/
theorem exists_shown_row {rows : List Row} {column : String} (hcolumn : column ∈ inferColumns rows)
    (shown : isInternalKey column = false) :
    ∃ fields, Value.record fields ∈ (rows.map Row.toValue).map Value.plain ∧
      column ∈ fields.map Prod.fst := by
  obtain ⟨row, hrow, key⟩ := mem_inferColumns.1 hcolumn
  refine ⟨Value.plainFields row.entries, ?_, ?_⟩
  · exact List.mem_map.2 ⟨row.toValue, List.mem_map.2 ⟨row, hrow, rfl⟩, rfl⟩
  · rw [Value.map_fst_plainFields]
    exact List.mem_filter.2 ⟨key, by simpa using shown⟩

/-- The columns of open rows are none that answers leave out. -/
theorem shown_of_open {rows : List Row} (shown : ∀ v ∈ rows.map Row.toValue, v.Open)
    {column : String} (hcolumn : column ∈ inferColumns rows) : isInternalKey column = false := by
  obtain ⟨row, hrow, key⟩ := mem_inferColumns.1 hcolumn
  have fields : Value.OpenFields row.entries := shown _ (List.mem_map.2 ⟨row, hrow, rfl⟩)
  obtain ⟨f, hf, rfl⟩ := List.mem_map.1 key
  exact (Value.openFields_iff.1 fields f hf).1

end Dataset

/-! ### Identifiers -/

theorem length_readMinus_le (cs : List Char) : (readMinus cs).2.length ≤ cs.length := by
  unfold readMinus
  split
  · simp
  · exact Nat.le_refl _

/-- An integer that was read in canonical form has no more digits than may be read. -/
theorem length_of_canonicalInteger? {cs : List Char} {i : Int} (h : canonicalInteger? cs = some i) :
    (Nat.toDigits 10 i.natAbs).length ≤ maxIntegerDigits := by
  unfold canonicalInteger? at h
  have behind := length_readMinus_le cs
  generalize readMinus cs = minus at h behind
  obtain ⟨negative, digits⟩ := minus
  dsimp only at h behind
  split at h
  · rename_i canonical
    cases h
    rw [natAbs_withSign]
    rcases canonical with rfl | ⟨nonempty, -, all, short⟩
    · have one : (Nat.toDigits 10 (Nat.ofDigitChars 10 ['0'] 0)).length = 1 := rfl
      rw [one]
      unfold maxIntegerDigits
      omega
    · have allDigits : AllDigits digits := List.all_eq_true.1 all
      have bound := (Nat.length_toDigits_le_iff (by decide) (List.length_pos_iff.2 nonempty)).2
        (ofDigitChars_lt allDigits)
      omega
  · cases h

/-- An identifier that was read from a path has no more digits than may be read. -/
theorem Http.length_of_integer {place : List String} {text : String} {i : Int}
    (h : integer place (.str text) = .ok i) :
    (Nat.toDigits 10 i.natAbs).length ≤ maxIntegerDigits := by
  unfold integer at h
  dsimp only at h
  split at h
  · rename_i j read
    cases h
    obtain ⟨digits, -, read⟩ := Option.bind_eq_some_iff.1 read
    exact length_of_canonicalInteger? read
  · cases h

namespace Http

/-- The answer shows a dataset whose rows were posted: the rows as answers show them, and its
columns. Rows that answers do not leave anything out of are shown as they were posted, but for
numbers that are not finite, and then each column is a key of some row. -/
structure Answer.Returns (answer : Answer) (posted : List Value) (columns : List String)
    (shown : Value) : Prop where
  status : answer.status = 200
  mediaType : answer.mediaType = "application/json"
  body : answer.body = String.ofList
    (Json.writeValue (.record [("success", .bool true), ("data", shown)]))
  read : posted.length < 10 ^ maxIntegerDigits →
    ∀ room, (Value.record [("success", .bool true), ("data", shown)]).depth ≤ room →
      Json.readWithin room answer.body.toList =
        .ok (.record [("success", .bool true), ("data", shown)])
  data : shown.field "data" = .list (posted.map Value.plain)
  columns_eq : shown.field "columns" = .list (columns.map .str)
  key : ∀ column ∈ columns, isInternalKey column = false →
    ∃ fields, Value.record fields ∈ posted.map Value.plain ∧ column ∈ fields.map Prod.fst
  whole : (∀ row ∈ posted, row.Open) → shown.field "data" = .list (posted.map Value.finitized) ∧
    ∀ column ∈ columns, ∃ fields, Value.record fields ∈ posted.map Value.finitized ∧
      column ∈ fields.map Prod.fst

/-- The answer with a textual dataset returns the rows of the dataset. -/
theorem returns_success {d : Dataset} {user : Option String}
    (columns : d.columns = inferColumns d.rows) (owner : d.owner = textValue user)
    (id : (Nat.toDigits 10 d.id).length ≤ maxIntegerDigits)
    (rows : Value.TextualItems (fun _ => True) (d.rows.map Row.toValue)) :
    (Answer.success 200 (d.toValue true)).Returns (d.rows.map Row.toValue) d.columns
      (d.toValue true).plain where
  status := rfl
  mediaType := rfl
  body := rfl
  read := by
    intro few room deep
    have count : (Nat.toDigits 10 d.rows.length).length ≤ maxIntegerDigits := by
      rw [Nat.length_toDigits_le_iff (by decide) (by decide)]
      simpa using few
    have distinct : ["success", "data"].Nodup := by decide
    have textual : (Value.record [("success", .bool true), ("data", d.toValue true)]).Textual
        fun _ => True :=
      ⟨distinct, trivial, Dataset.textual_toValue owner id count rows, trivial⟩
    exact Json.readWithin_write textual deep
  data := d.field_data
  columns_eq := d.field_columns
  key := by
    intro column hcolumn shown
    rw [columns] at hcolumn
    exact Dataset.exists_shown_row hcolumn shown
  whole := by
    intro shown
    have same : (d.rows.map Row.toValue).map Value.plain =
        (d.rows.map Row.toValue).map Value.finitized := by
      apply List.map_congr_left
      intro v hv
      exact Value.plain_of_open v (Value.textualItems_iff.1 rows v hv) (shown v hv)
    refine ⟨by rw [d.field_data, same], ?_⟩
    intro column hcolumn
    rw [columns] at hcolumn
    rw [← same]
    exact Dataset.exists_shown_row hcolumn (Dataset.shown_of_open shown hcolumn)

/-- What is posted is returned. A user whose request for a new dataset is answered with 201, and who
asks for the dataset under its identifier at any time before it is deleted, is answered with the
rows that were posted. -/
theorem App.handle_post_get {app : App} (keyed : app.store.Keyed) {user : Option String}
    {post get : Request} {text : String} (named : app.credentials.identify post = .ok user)
    (posting : Route.ofPath post.path = some .datasets ∧ post.method = "POST")
    (created : (app.handle post).2.status = 201) (named' : app.credentials.identify get = .ok user)
    (getting : Route.ofPath get.path = some (.dataset text) ∧ get.method = "GET") :
    ∃ (fields : List (String × Value)) (posted : List Value) (d : Dataset),
      post.readBody = .ok (.json (.record fields)) ∧ fields.lookup "data" = some (.list posted) ∧
      (app.handle post).2 = .success 201 (d.toValue false) ∧
      d ∈ (app.handle post).1.store.datasets ∧
      ∀ (between : List (Timestamp × Request)) (now : Timestamp),
        ¬ (app.handle post).1.DeletedIn d.id between →
        integer ["dataset_id"] (.str text) = .ok (d.id : Int) →
        let later : App := { ((app.handle post).1.serve between).1 with clock := now }
        (later.handle get).2.Returns posted d.columns (d.toValue true).plain := by
  obtain ⟨fields, data, d, read, checked, nonempty, rows, columns, owner, mem, answer⟩ :=
    stored_of_status named posting.1 posting.2 created
  have textual : Value.TextualFields (fun _ => True) fields := (textual_readBody read).2
  have posted := rows_of_ofFields textual checked nonempty
  rw [← rows] at posted
  have items : Value.TextualItems (fun _ => True) (d.rows.map Row.toValue) :=
    Value.textualFields_iff.1 textual _ (Value.mem_of_lookup posted)
  refine ⟨fields, d.rows.map Row.toValue, d, read, posted, answer, mem, ?_⟩
  intro between now kept id later
  -- the three things that the answer depends on: the dataset is there, its identifier is its own,
  -- the user is the same
  have stays : d ∈ later.store.datasets := mem_serve between mem kept
  have keyed : later.store.Keyed := keyed_serve (keyed_handle keyed post) between
  have named' : later.credentials.identify get = .ok user := by
    have same : later.credentials = app.credentials :=
      (credentials_serve _ between).trans (credentials_handle app post)
    rw [same, named']
  have visible : d.visibleTo (textValue user) := by
    unfold Dataset.visibleTo
    rw [owner]
    cases user with
    | none => rfl
    | some name => simp [textValue]
  rw [handle_get keyed named' getting.1 getting.2 stays visible id]
  exact returns_success columns owner (length_of_integer id) items

/-- Posting a row with a list in it that holds an infinite number, and asking for it. -/
theorem App.handle_post_get_first_dataset :
    let app : App := ⟨⟨.empty, ⟨0⟩⟩, .fixed (some "ann")⟩
    let post : Request := ⟨"POST", "/api/datasets", [("Content-Type", "application/json")],
      "\x7b\"name\": \"n\", \"data\": [\x7b\"k\": [1e999, \"x\"]\x7d]\x7d"⟩
    let get : Request := ⟨"GET", "/api/datasets/1", [], ""⟩
    app.store.Keyed ∧ app.credentials.identify post = .ok (some "ann") ∧
      (Route.ofPath post.path = some .datasets ∧ post.method = "POST") ∧
      (app.handle post).2.status = 201 ∧
      app.credentials.identify get = .ok (some "ann") ∧
      (Route.ofPath get.path = some (.dataset "1") ∧ get.method = "GET") ∧
      ∃ d : Dataset, d ∈ (app.handle post).1.store.datasets ∧
        (({ (app.handle post).1 with clock := ⟨5⟩ } : App).handle get).2.Returns
          [.record [("k", .list [.float (.infinite false), .str "x"])]] d.columns
          (d.toValue true).plain := by
  intro app post get
  have keyed : app.store.Keyed := Store.keyed_empty
  have posting : Route.ofPath post.path = some .datasets ∧ post.method = "POST" := by decide +kernel
  have created : (app.handle post).2.status = 201 := by decide +kernel
  have getting : Route.ofPath get.path = some (.dataset "1") ∧ get.method = "GET" := by
    decide +kernel
  have body : post.readBody = .ok (.json (.record
      [("name", .str "n"),
        ("data", .list [.record [("k", .list [.float (.infinite false), .str "x"])]])])) := by
    decide +kernel
  have ids : ∀ d ∈ (app.handle post).1.store.datasets,
      integer ["dataset_id"] (.str "1") = .ok (d.id : Int) := by
    decide +kernel
  obtain ⟨fields, posted, d, read, rows, answer, mem, returns⟩ :=
    @App.handle_post_get app keyed (some "ann") post get "1" rfl posting created rfl getting
  rw [body] at read
  cases read
  cases rows
  exact ⟨keyed, rfl, posting, created, rfl, getting, d, mem, returns [] ⟨5⟩ id (ids d mem)⟩

/-- A key that is internal: the row is returned without it, though it is one of the columns. -/
theorem App.handle_get_internal_key :
    let app : App := ⟨⟨.empty, ⟨0⟩⟩, .fixed none⟩
    let post : Request := ⟨"POST", "/api/datasets", [("Content-Type", "application/json")],
      "\x7b\"name\": \"n\", \"data\": [\x7b\"_sales\": 2, \"region\": \"east\"\x7d]\x7d"⟩
    let get : Request := ⟨"GET", "/api/datasets/1", [], ""⟩
    (app.handle post).2.status = 201 ∧
      ((app.handle post).1.handle get).2.body =
        "\x7b\"success\":true,\"data\":\x7b\"id\":1,\"name\":\"n\"," ++
          "\"columns\":[\"_sales\",\"region\"],\"rowCount\":1,\"owner\":null," ++
          "\"createdAt\":\"2024-01-01T00:00:00+00:00\"," ++
          "\"data\":[\x7b\"region\":\"east\"\x7d]\x7d\x7d" := by
  decide +kernel

end Http

end Tabulate
