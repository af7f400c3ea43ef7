import Mathlib.Data.List.Basic
import Tabulate.Evaluate

/-!
# Queries in normal form

What normalising makes of a wire value is in normal form, and a query in normal form is its own
normalisation. So a query can be normalised any number of times, and a part of it may be exchanged
for another one that is in normal form.
-/

namespace Tabulate

/-- A column name as normalising leaves it: not empty and without blanks at its ends. -/
def IsName (s : String) : Prop := s ≠ "" ∧ strip s = s

/-- A predicate as normalising leaves it. -/
structure Predicate.Normal (p : Predicate) : Prop where
  column : IsName p.column
  operator : p.operator.known

/-- A query as normalising leaves it. -/
structure Query.Normal (q : Query) : Prop where
  datasetId : q.datasetId = .null ∨ ∃ i, q.datasetId = .int i
  xAxis : ∀ x ∈ q.xAxis, IsName x
  yAxis : ∀ y ∈ q.yAxis, IsName y
  aggregation : q.aggregation.known
  groupBy : ∀ column ∈ q.groupBy, IsName column
  filters : ∀ p ∈ q.filters, p.Normal
  raw : q.aggregation = .raw → q.groupBy = []
  axes : q.aggregation ≠ .raw → q.xAxis.isSome ∧ q.yAxis.isSome

namespace Wire

/-! ### Names -/

theorem isName_of_name? {v : Value} {s : String} (h : name? v = some s) : IsName s := by
  unfold name? at h
  split at h
  · cases h
  · split at h
    · cases h
    · rename_i present
      cases h
      exact ⟨present, strip_strip _⟩

theorem name?_str {s : String} (h : IsName s) : name? (.str s) = some s := by
  simp [name?, h.1, h.2]

theorem filterMap_name?_str {names : List String} (h : ∀ s ∈ names, IsName s) :
    (names.map Value.str).filterMap name? = names := by
  induction names with
  | nil => rfl
  | cons s rest ih =>
    have named : name? (.str s) = some s := name?_str (h s (by simp))
    rw [List.map_cons, List.filterMap_cons_some named, ih fun t ht => h t (by simp [ht])]

theorem isName_of_mem_names {v : Value} {columns : List String} (h : names v = .ok columns) :
    ∀ s ∈ columns, IsName s := by
  have ofValues (values : List Value) : ∀ s ∈ values.filterMap name?, IsName s := by
    intro s hs
    obtain ⟨w, -, named⟩ := List.mem_filterMap.1 hs
    exact isName_of_name? named
  obtain ⟨truth, -, h⟩ := bind_eq_ok.1 h
  cases truth with
  | false => cases h; simp
  | true =>
    cases v
    case str s => cases h; exact ofValues _
    all_goals
      obtain ⟨members, -, h⟩ := bind_eq_ok.1 h
      cases h
      exact ofValues _

theorem names_list_str {columns : List String} (h : ∀ s ∈ columns, IsName s) :
    names (.list (columns.map .str)) = .ok columns := by
  cases columns with
  | nil => rfl
  | cons s rest =>
    have : names (.list ((s :: rest).map .str)) =
        .ok (((s :: rest).map Value.str).filterMap name?) := rfl
    rw [this, filterMap_name?_str h]

/-! ### Keywords -/

theorem keyword_str (s : String) : keyword (.str s) = .ok (lowercase (strip s)) := by
  by_cases empty : s = ""
  · subst empty
    rfl
  · rw [keyword, Value.truth_str empty]
    rfl

theorem keyword_aggregation {a : Aggregation} (h : a.known) :
    keyword (.str a.name) = .ok a.name := by
  have plain : lowercase (strip a.name) = a.name := by
    cases a
    case other => cases h
    all_goals decide +kernel
  rw [keyword_str, plain]

theorem keyword_operator {o : Operator} (h : o.known) : keyword (.str o.name) = .ok o.name := by
  have plain : lowercase (strip o.name) = o.name := by
    cases o
    case other => cases h
    all_goals decide +kernel
  rw [keyword_str, plain]

theorem name_ne_empty {a : Aggregation} (h : a.known) : a.name ≠ "" := by
  cases a
  case other => cases h
  all_goals decide

theorem known_of_aggregation {wire : Value} {a : Aggregation} (h : aggregation wire = .ok a) :
    a.known := by
  obtain ⟨v, -, h⟩ := bind_eq_ok.1 h
  obtain ⟨given, -, h⟩ := bind_eq_ok.1 h
  by_cases known : (if given = "" then Aggregation.raw else Aggregation.ofName given).known
  · rw [if_pos known] at h
    cases h
    exact known
  · rw [if_neg known] at h
    cases h

/-! ### Filters -/

theorem normal_of_predicate? {index : Nat} {filter : Value} {p : Predicate}
    (h : predicate? index filter = .ok (some p)) : p.Normal := by
  unfold predicate? at h
  split at h
  · split at h
    · cases h
    · rename_i column named
      obtain ⟨operator, -, h⟩ := bind_eq_ok.1 h
      by_cases known : (Operator.ofName operator).known
      · rw [if_pos known] at h
        cases h
        exact ⟨isName_of_name? named, known⟩
      · rw [if_neg known] at h
        cases h
  · cases h

theorem normal_of_mem_predicates {items : List Value} {index : Nat} {ps : List Predicate}
    (h : predicates index items = .ok ps) : ∀ p ∈ ps, p.Normal := by
  induction items generalizing index ps with
  | nil => cases h; simp
  | cons filter rest ih =>
    obtain ⟨first, read, h⟩ := bind_eq_ok.1 h
    obtain ⟨others, readOthers, h⟩ := bind_eq_ok.1 h
    cases h
    intro p hp
    rcases List.mem_append.1 hp with hp | hp
    · rw [Option.mem_toList] at hp
      exact normal_of_predicate? (hp ▸ read)
    · exact ih readOthers p hp

theorem normal_of_mem_filters {v : Value} {ps : List Predicate} (h : filters v = .ok ps) :
    ∀ p ∈ ps, p.Normal := by
  obtain ⟨truth, -, h⟩ := bind_eq_ok.1 h
  cases truth with
  | false => cases h; simp
  | true =>
    cases v
    case list items => exact normal_of_mem_predicates h
    all_goals cases h

theorem predicate?_toValue {p : Predicate} (h : p.Normal) (index : Nat) :
    predicate? index p.toValue = .ok (some p) := by
  obtain ⟨column, operator, value⟩ := p
  have named : name? (Value.field (Predicate.toValue ⟨column, operator, value⟩) "column") =
      some column :=
    name?_str h.column
  have spelled : keyword (Value.field (Predicate.toValue ⟨column, operator, value⟩) "operator") =
      .ok operator.name :=
    keyword_operator h.operator
  have found : Operator.ofName operator.name = operator := Operator.ofName_name h.operator
  have known : operator.known = true := h.operator
  simp only [predicate?, Predicate.toValue] at named spelled ⊢
  simp only [named, spelled, found, known, bind, Except.bind, if_true]
  rfl

theorem predicates_map_toValue {ps : List Predicate} (h : ∀ p ∈ ps, p.Normal) (index : Nat) :
    predicates index (ps.map Predicate.toValue) = .ok ps := by
  induction ps generalizing index with
  | nil => rfl
  | cons p rest ih =>
    have first : predicate? index p.toValue = .ok (some p) :=
      predicate?_toValue (h p (by simp)) index
    have others := ih (fun r hr => h r (by simp [hr])) (index + 1)
    rw [List.map_cons, predicates, first, others]
    rfl

theorem filters_list (items : List Value) : filters (.list items) = predicates 0 items := by
  cases items <;> rfl

theorem filters_list_toValue {ps : List Predicate} (h : ∀ p ∈ ps, p.Normal) :
    filters (.list (ps.map Predicate.toValue)) = .ok ps := by
  rw [filters_list, predicates_map_toValue h 0]

/-! ### The identifier and the shape -/

theorem datasetId_eq_ok {v id : Value} (h : datasetId v = .ok id) :
    id = .null ∨ ∃ i, id = .int i := by
  unfold datasetId at h
  repeat' split at h
  all_goals first | (cases h; simp) | cases h

theorem checkShape_eq_ok {a : Aggregation} {xAxis yAxis : Option String} {groupBy : List String} :
    checkShape a xAxis yAxis groupBy = .ok () ↔
      (a = .raw → groupBy = []) ∧ (a ≠ .raw → xAxis.isSome ∧ yAxis.isSome) := by
  by_cases raw : a = .raw
  · cases groupBy <;> simp [checkShape, raw]
  · cases xAxis <;> cases yAxis <;> simp [checkShape, raw]

end Wire

namespace Query

/-- The parts of a wire value that an accepted query was read from. -/
structure Reads (wire : Value) (q : Query) : Prop where
  aggregation : Wire.aggregation wire = .ok q.aggregation
  xAxis : ∃ v, Wire.pick wire ["xAxis", "x_axis"] = .ok v ∧ Wire.name? v = q.xAxis
  yAxis : ∃ v, Wire.pick wire ["yAxis", "y_axis"] = .ok v ∧ Wire.name? v = q.yAxis
  groupBy : ∃ v, Wire.pick wire ["groupBy", "group_by"] = .ok v ∧ Wire.names v = .ok q.groupBy
  filters : ∃ v, Wire.pick wire ["filters"] = .ok v ∧ Wire.filters v = .ok q.filters
  shape : Wire.checkShape q.aggregation q.xAxis q.yAxis q.groupBy = .ok ()
  datasetId : ∃ v, Wire.pick wire ["datasetId", "dataset_id"] = .ok v ∧
    Wire.datasetId v = .ok q.datasetId

theorem reads_of_ofValue {wire : Value} {q : Query} (accepted : ofValue wire = .ok q) :
    Reads wire q := by
  obtain ⟨a, aggregation, accepted⟩ := bind_eq_ok.1 accepted
  obtain ⟨x, pickedX, accepted⟩ := bind_eq_ok.1 accepted
  obtain ⟨y, pickedY, accepted⟩ := bind_eq_ok.1 accepted
  obtain ⟨v, pickedColumns, accepted⟩ := bind_eq_ok.1 accepted
  obtain ⟨groupBy, grouped, accepted⟩ := bind_eq_ok.1 accepted
  obtain ⟨w, pickedFilters, accepted⟩ := bind_eq_ok.1 accepted
  obtain ⟨filters, filtered, accepted⟩ := bind_eq_ok.1 accepted
  obtain ⟨⟨⟩, shape, accepted⟩ := bind_eq_ok.1 accepted
  obtain ⟨given, pickedId, accepted⟩ := bind_eq_ok.1 accepted
  obtain ⟨id, identified, accepted⟩ := bind_eq_ok.1 accepted
  cases accepted
  exact {
    aggregation := aggregation
    xAxis := ⟨x, pickedX, rfl⟩
    yAxis := ⟨y, pickedY, rfl⟩
    groupBy := ⟨v, pickedColumns, grouped⟩
    filters := ⟨w, pickedFilters, filtered⟩
    shape := shape
    datasetId := ⟨given, pickedId, identified⟩ }

/-- A query is accepted if its parts can be read. -/
theorem ofValue_of_reads {wire : Value} {q : Query} (reads : Reads wire q) :
    ofValue wire = .ok q := by
  obtain ⟨x, pickedX, xAxis⟩ := reads.xAxis
  obtain ⟨y, pickedY, yAxis⟩ := reads.yAxis
  obtain ⟨v, pickedColumns, grouped⟩ := reads.groupBy
  obtain ⟨w, pickedFilters, filtered⟩ := reads.filters
  obtain ⟨given, pickedId, identified⟩ := reads.datasetId
  simp only [ofValue, reads.aggregation, pickedX, pickedY, pickedColumns, pickedFilters, pickedId,
    xAxis, yAxis, grouped, filtered, reads.shape, identified, bind, Except.bind]
  rfl

/-- Normalising gives queries in normal form. -/
theorem normal_of_ofValue {wire : Value} {q : Query} (accepted : ofValue wire = .ok q) :
    q.Normal := by
  have reads := reads_of_ofValue accepted
  obtain ⟨x, -, xAxis⟩ := reads.xAxis
  obtain ⟨y, -, yAxis⟩ := reads.yAxis
  obtain ⟨v, -, grouped⟩ := reads.groupBy
  obtain ⟨w, -, filtered⟩ := reads.filters
  obtain ⟨given, -, identified⟩ := reads.datasetId
  exact {
    datasetId := Wire.datasetId_eq_ok identified
    xAxis := fun s hs => Wire.isName_of_name? (xAxis.trans hs)
    yAxis := fun s hs => Wire.isName_of_name? (yAxis.trans hs)
    aggregation := Wire.known_of_aggregation reads.aggregation
    groupBy := Wire.isName_of_mem_names grouped
    filters := Wire.normal_of_mem_filters filtered
    raw := (Wire.checkShape_eq_ok.1 reads.shape).1
    axes := (Wire.checkShape_eq_ok.1 reads.shape).2 }

/-- A query in normal form stays so when its filters are exchanged for others in normal form. -/
theorem Normal.withFilters {q : Query} (normal : q.Normal) {filters : List Predicate}
    (h : ∀ p ∈ filters, p.Normal) : ({ q with filters := filters }).Normal :=
  { normal with filters := h }

/-! ### Normalising again -/

theorem name?_nameValue {name : Option String} (h : ∀ s ∈ name, IsName s) :
    Wire.name? (nameValue name) = name := by
  cases name with
  | none => rfl
  | some s => exact Wire.name?_str (h s rfl)

theorem datasetId_of_normal {id : Value} (h : id = .null ∨ ∃ i, id = .int i) :
    Wire.datasetId id = .ok id := by
  rcases h with rfl | ⟨i, rfl⟩ <;> rfl

section Picking

variable (q : Query)

theorem pick_aggregation : Wire.pick q.toValue ["aggregation"] = .ok (.str q.aggregation.name) :=
  rfl

theorem pick_groupBy :
    Wire.pick q.toValue ["groupBy", "group_by"] = .ok (.list (q.groupBy.map .str)) :=
  rfl

theorem pick_filters :
    Wire.pick q.toValue ["filters"] = .ok (.list (q.filters.map Predicate.toValue)) :=
  rfl

theorem pick_xAxis : Wire.pick q.toValue ["xAxis", "x_axis"] = .ok (nameValue q.xAxis) := by
  obtain ⟨id, _ | x, y, a, groupBy, filters⟩ := q <;> rfl

theorem pick_yAxis : Wire.pick q.toValue ["yAxis", "y_axis"] = .ok (nameValue q.yAxis) := by
  obtain ⟨id, x, _ | y, a, groupBy, filters⟩ := q <;> rfl

theorem pick_datasetId : Wire.pick q.toValue ["datasetId", "dataset_id"] = .ok q.datasetId := by
  obtain ⟨id, x, y, a, groupBy, filters⟩ := q
  cases id <;> rfl

end Picking

theorem aggregation_toValue {q : Query} (known : q.aggregation.known) :
    Wire.aggregation q.toValue = .ok q.aggregation := by
  have given : q.aggregation.name ≠ "" := Wire.name_ne_empty known
  have found : Aggregation.ofName q.aggregation.name = q.aggregation :=
    Aggregation.ofName_name known
  rw [Wire.aggregation, pick_aggregation]
  simp only [bind, Except.bind, Wire.keyword_aggregation known, if_neg given, found, if_pos known]
  rfl

/-- A query in normal form is its own normalisation. -/
theorem ofValue_toValue {q : Query} (normal : q.Normal) : ofValue q.toValue = .ok q :=
  ofValue_of_reads
    { aggregation := aggregation_toValue normal.aggregation
      xAxis := ⟨_, pick_xAxis q, name?_nameValue normal.xAxis⟩
      yAxis := ⟨_, pick_yAxis q, name?_nameValue normal.yAxis⟩
      groupBy := ⟨_, pick_groupBy q, Wire.names_list_str normal.groupBy⟩
      filters := ⟨_, pick_filters q, Wire.filters_list_toValue normal.filters⟩
      shape := Wire.checkShape_eq_ok.2 ⟨normal.raw, normal.axes⟩
      datasetId := ⟨_, pick_datasetId q, datasetId_of_normal normal.datasetId⟩ }

/-- What a query in normal form makes of rows. -/
theorem evaluate_toValue {q : Query} (normal : q.Normal) (rows : List Row) (id : Value) :
    evaluate (some rows) q.toValue id = q.run rows := by
  rw [evaluate, ofValue_toValue normal]
  rfl

theorem run_of_raw {q : Query} (raw : q.aggregation = .raw) (rows : List Row) :
    q.run rows = .ok (shapeRows (filterRows rows q.filters) q) := by
  simp [run, isRaw, raw]

/-- Queries in normal form, and no others, are their own normalisation. -/
theorem normalize_eq_self_iff {q : Query} : q.normalize = .ok q ↔ q.Normal := by
  constructor
  · intro same
    exact normal_of_ofValue same
  · intro normal
    exact ofValue_toValue normal

/-- Normalising is a projection onto the queries in normal form. What it makes of a wire value is
its own normalisation, also by way of its wire form, and makes the same rows of a dataset as the
wire value, or the same fault. -/
theorem normalize_projection {wire : Value} {q : Query} (accepted : ofValue wire = .ok q) :
    (∀ p : Query, (∃ w, ofValue w = .ok p) ↔ p.normalize = .ok p) ∧ q.normalize = .ok q ∧
      ofValue q.toValue = .ok q ∧
      (∀ rows id, (q.normalize >>= fun p => p.run rows) = evaluate (some rows) wire id) ∧
      ∀ dataset id, evaluate dataset q.toValue id = evaluate dataset wire id := by
  have normal : q.Normal := normal_of_ofValue accepted
  have again : ofValue q.toValue = .ok q := ofValue_toValue normal
  refine ⟨?_, normalize_eq_self_iff.2 normal, again, ?_, ?_⟩
  · intro p
    constructor
    · rintro ⟨w, read⟩
      exact normalize_eq_self_iff.2 (normal_of_ofValue read)
    · intro same
      exact ⟨p.toValue, same⟩
  · intro rows id
    rw [normalize_eq_self_iff.2 normal, evaluate, accepted]
  · intro dataset id
    rw [evaluate, evaluate, again, accepted]

/-- Names with blanks around them and of other kinds than texts, one text for a list, digits of
another script. -/
theorem normalize_projection_odd_spellings :
    let wire : Value := .record
      [ ("xAxis", .str "\u2003k "), ("yAxis", .null), ("y_axis", .int 5),
        ("aggregation", .str " SUM\n"), ("groupBy", .str "\u00a0region"),
        ("dataset_id", .str " ٤_2 "),
        ("filters", .list
          [ .record [("column", .str " "), ("operator", .int 3)],
            .record
              [("column", .bool true), ("operator", .str "GtE"), ("value", .list [.null])] ]) ]
    let q : Query := ⟨.int 42, some "k", some "5", .sum, ["region"], [⟨"True", .gte, "[None]"⟩]⟩
    ofValue wire = .ok q ∧ q.normalize = .ok q ∧ ofValue q.toValue = .ok q ∧
      ∀ rows, evaluate (some rows) q.toValue .null = evaluate (some rows) wire .null := by
  intro wire q
  have accepted : ofValue wire = .ok q := by decide +kernel
  obtain ⟨-, same, again, -, shown⟩ := normalize_projection accepted
  exact ⟨accepted, same, again, fun rows => shown (some rows) .null⟩

end Query

end Tabulate
