import Mathlib.Tactic.Tauto
import Tabulate.Proofs.Query.Normal

/-!
# Lists of filters

Filters applied together keep what they keep one after another, of rows in parts what they keep of
each part, and the order and number of their occurrences do not matter: `Query.filters_compose`. All
of it rests on each row being judged alone.

Rows can be filtered by columns too. `filterByMasks` computes the mask of a predicate from the whole
column, where an operation is carried out on all cells before the next one starts, and joins the
masks of all predicates before a row is dropped. It keeps the same rows.
-/

namespace Tabulate

/-! ### Masks of columns -/

/-- For each cell of a column, whether it equals a value: as a number where it is one, if the value
is one, and as a text elsewhere. -/
def equalColumn (cells : List Scalar) (value : String) : List Bool :=
  let sameText := (cells.map Scalar.text).map (· == value)
  match parseNumber value with
  | none => sameText
  | some target =>
    List.zipWith (fun number same => number.elim same (·.numEq target))
      (cells.map Scalar.number?) sameText

/-- For each cell of a column, whether it is in the given order with a value; none is with a value
that is no number. -/
def orderColumn (order : Binary64 → Binary64 → Bool) (cells : List Scalar) (value : String) :
    List Bool :=
  match parseNumber value with
  | none => List.replicate cells.length false
  | some target => (cells.map Scalar.number?).map fun number => number.any (order · target)

/-- For each cell of a column, whether it compares with a value as the operator says, absent or
not. -/
def Operator.holdsColumn : Operator → List Scalar → String → List Bool
  | eq, cells, value => equalColumn cells value
  | neq, cells, value => (equalColumn cells value).map not
  | gt, cells, value => orderColumn (fun x target => target.lt x) cells value
  | lt, cells, value => orderColumn Binary64.lt cells value
  | gte, cells, value => orderColumn (fun x target => target.le x) cells value
  | contains, cells, value =>
    (cells.map Scalar.text).map fun text => occursIn value.toList text.toList
  | lte, cells, value | other _, cells, value => orderColumn Binary64.le cells value

/-- The mask of a predicate, computed from the column. -/
def Predicate.columnMask (p : Predicate) (rows : List Row) : List Bool :=
  let cells := rows.map (·.cell p.column)
  List.zipWith and (cells.map (!·.isAbsent)) (p.operator.holdsColumn cells p.value)

/-- The rows at the places where a mask is true. -/
def keepTrue (mask : List Bool) (rows : List Row) : List Row :=
  ((mask.zip rows).filter Prod.fst).map Prod.snd

/-- The rows at the places where the masks of all predicates are true. -/
def filterByMasks (rows : List Row) (filters : List Predicate) : List Row :=
  if filters.isEmpty || rows.isEmpty then rows
  else
    let mask := filters.foldl
      (fun mask p => List.zipWith and mask (p.columnMask rows)) (List.replicate rows.length true)
    keepTrue mask rows

section Columns

variable (cells : List Scalar) (value : String)

theorem equalColumn_eq_map : equalColumn cells value = cells.map (·.equals value) := by
  unfold equalColumn
  cases number : parseNumber value with
  | none => simp only [List.map_map, Function.comp_def, Scalar.equals, number]
  | some target =>
    simp only [List.map_map, List.zipWith_map, List.zipWith_self, Function.comp_def,
      Scalar.equals, number]
    refine List.map_congr_left fun c _ => ?_
    cases c.number? <;> rfl

theorem orderColumn_eq_map (order : Binary64 → Binary64 → Bool) :
    orderColumn order cells value = cells.map (·.inOrder order value) := by
  unfold orderColumn
  cases number : parseNumber value with
  | none => simp only [Scalar.inOrder, number, List.map_const']
  | some target =>
    simp only [List.map_map, Function.comp_def, Scalar.inOrder, number]
    refine List.map_congr_left fun c _ => ?_
    cases c.number? <;> rfl

/-- An operation on a column does to each cell what it does to the cell alone. -/
theorem Operator.holdsColumn_eq_map (o : Operator) :
    o.holdsColumn cells value = cells.map (o.holds · value) := by
  cases o with
  | eq => exact equalColumn_eq_map cells value
  | neq => rw [holdsColumn, equalColumn_eq_map, List.map_map]; rfl
  | contains => rw [holdsColumn, List.map_map]; rfl
  | _ => exact orderColumn_eq_map cells value _

end Columns

section Masks

variable (rows : List Row)

/-- The mask that is computed from the column says of each row whether it satisfies the
predicate. -/
theorem Predicate.columnMask_eq_mask (p : Predicate) : p.columnMask rows = p.mask rows := by
  simp only [columnMask, Operator.holdsColumn_eq_map, List.map_map,
    List.zipWith_map, List.zipWith_self]
  rfl

theorem keepTrue_map (keep : Row → Bool) : keepTrue (rows.map keep) rows = rows.filter keep := by
  induction rows with
  | nil => rfl
  | cons row rest ih =>
    have tail : ((rest.map keep).zip rest |>.filter Prod.fst).map Prod.snd = rest.filter keep := ih
    rw [keepTrue, List.map_cons, List.zip_cons_cons, List.filter_cons, List.filter_cons]
    split
    · rw [List.map_cons, tail]
    · exact tail

/-- One more predicate narrows a mask down to the rows that satisfy it as well. -/
theorem zipWith_columnMask (keep : Row → Bool) (p : Predicate) :
    List.zipWith and (rows.map keep) (p.columnMask rows) =
      rows.map fun row => keep row && p.matches row := by
  rw [Predicate.columnMask_eq_mask, Predicate.mask, List.zipWith_map, List.zipWith_self]

/-- All predicates narrow a mask down to the rows that satisfy them all. -/
theorem foldl_columnMask (keep : Row → Bool) (filters : List Predicate) :
    filters.foldl (fun mask p => List.zipWith and mask (p.columnMask rows)) (rows.map keep) =
      rows.map fun row => keep row && filters.all (·.matches row) := by
  induction filters generalizing keep with
  | nil => simp
  | cons p rest ih =>
    rw [List.foldl_cons, zipWith_columnMask, ih]
    simp only [List.all_cons, Bool.and_assoc]

/-- Filtering by the masks of columns keeps the rows that satisfy all predicates. -/
theorem filterByMasks_eq_filterRows (filters : List Predicate) :
    filterByMasks rows filters = filterRows rows filters := by
  unfold filterByMasks
  split
  · rename_i shortcut
    rcases Bool.or_eq_true_iff.1 shortcut with noFilters | noRows
    · rw [List.isEmpty_iff.1 noFilters, filterRows]
      exact (List.filter_eq_self.2 fun _ _ => rfl).symm
    · rw [List.isEmpty_iff.1 noRows]
      rfl
  · have start : List.replicate rows.length true = rows.map fun _ => true := List.map_const'.symm
    rw [start, foldl_columnMask, keepTrue_map]
    rfl

end Masks

/-! ### Laws of filtering -/

theorem filterRows_append (rows : List Row) (filters others : List Predicate) :
    filterRows rows (filters ++ others) = filterRows (filterRows rows filters) others := by
  simp only [filterRows, List.filter_filter, List.all_append, Bool.and_comm]

theorem filterRows_append_rows (rows others : List Row) (filters : List Predicate) :
    filterRows (rows ++ others) filters = filterRows rows filters ++ filterRows others filters :=
  List.filter_append ..

/-- Which predicates there are decides which rows are kept, not their order or how often one
occurs. -/
theorem filterRows_congr {filters others : List Predicate} (same : ∀ p, p ∈ others ↔ p ∈ filters)
    (rows : List Row) : filterRows rows others = filterRows rows filters := by
  refine List.filter_congr fun row _ => ?_
  rw [Bool.eq_iff_iff, List.all_eq_true, List.all_eq_true]
  simp only [same]

theorem filterRows_singleton (rows : List Row) (p : Predicate) :
    filterRows rows [p] = rows.filter p.matches := by
  simp [filterRows]

theorem filterRows_insert (rows : List Row) (before after : List Predicate) (p : Predicate) :
    filterRows rows (before ++ p :: after) =
      (filterRows rows (before ++ after)).filter p.matches := by
  rw [← filterRows_singleton, ← filterRows_append]
  refine filterRows_congr (fun other => ?_) rows
  simp only [List.mem_append, List.mem_cons, List.not_mem_nil, or_false]
  tauto

theorem Predicate.mask_singleton (p : Predicate) (row : Row) :
    p.mask [row] = [true] ↔ p.matches row := by
  simp [mask]

/-- A row is kept if the mask of each predicate on this row alone is true. -/
theorem filterRows_eq_filter_mask (rows : List Row) (filters : List Predicate) :
    filterRows rows filters = rows.filter fun row => ∀ p ∈ filters, p.mask [row] = [true] := by
  refine List.filter_congr fun row _ => ?_
  rw [Bool.eq_iff_iff, List.all_eq_true, decide_eq_true_iff]
  simp only [Predicate.mask_singleton]

/-! ### Filters of a wire query -/

namespace Wire

/-- What keys lead to decides what is picked. -/
theorem pick_congr {wire wire' : Value} {keys : List String}
    (same : ∀ key ∈ keys, lookup wire' key = lookup wire key) :
    pick wire' keys = pick wire keys := by
  induction keys with
  | nil => rfl
  | cons key rest ih =>
    have others := ih fun other h => same other (List.mem_cons_of_mem _ h)
    rw [pick, pick, same key List.mem_cons_self, others]

/-- A filter is read without regard to its position. -/
theorem predicate?_of_ok {index : Nat} {filter : Value} {read : Option Predicate}
    (h : predicate? index filter = .ok read) (other : Nat) :
    predicate? other filter = .ok read := by
  cases filter with
  | record fields =>
    rw [predicate?] at h ⊢
    cases named : name? ((Value.record fields).field "column") with
    | none => rwa [named] at h
    | some column =>
      rw [named] at h
      obtain ⟨operator, spelled, h⟩ := bind_eq_ok.1 h
      refine bind_eq_ok.2 ⟨operator, spelled, ?_⟩
      by_cases known : (Operator.ofName operator).known
      · rwa [if_pos known] at h ⊢
      · rw [if_neg known] at h
        cases h
  | _ => cases h

/-- Each of the filters is read, and the predicates are those that are read. -/
theorem predicates_eq_ok {items : List Value} {index : Nat} {ps : List Predicate}
    (h : predicates index items = .ok ps) :
    (∀ item ∈ items, ∃ read, predicate? 0 item = .ok read) ∧
      ∀ p, p ∈ ps ↔ ∃ item ∈ items, predicate? 0 item = .ok (some p) := by
  induction items generalizing index ps with
  | nil =>
    cases h
    simp
  | cons item rest ih =>
    obtain ⟨first, read, h⟩ := bind_eq_ok.1 h
    obtain ⟨others, readOthers, h⟩ := bind_eq_ok.1 h
    cases h
    obtain ⟨reads, members⟩ := ih readOthers
    have read := predicate?_of_ok read 0
    refine ⟨List.forall_mem_cons.2 ⟨⟨first, read⟩, reads⟩, fun p => ?_⟩
    rw [List.mem_append, members, List.exists_mem_cons_iff, read,
      Option.mem_toList, Except.ok.injEq]

/-- Filters each of which is read are read together. -/
theorem exists_predicates {items : List Value}
    (reads : ∀ item ∈ items, ∃ read, predicate? 0 item = .ok read) (index : Nat) :
    ∃ ps, predicates index items = .ok ps := by
  induction items generalizing index with
  | nil => exact ⟨[], rfl⟩
  | cons item rest ih =>
    obtain ⟨⟨first, read⟩, reads⟩ := List.forall_mem_cons.1 reads
    obtain ⟨others, readOthers⟩ := ih reads (index + 1)
    refine ⟨first.toList ++ others, bind_eq_ok.2 ⟨first, predicate?_of_ok read index, ?_⟩⟩
    exact bind_eq_ok.2 ⟨others, readOthers, rfl⟩

/-- The same filters in another order, or in another number, are read as the same predicates. -/
theorem predicates_congr {items others : List Value} (same : ∀ item, item ∈ others ↔ item ∈ items)
    {index : Nat} {ps : List Predicate} (h : predicates index items = .ok ps) :
    ∃ qs, predicates index others = .ok qs ∧ ∀ p, p ∈ qs ↔ p ∈ ps := by
  obtain ⟨reads, members⟩ := predicates_eq_ok h
  obtain ⟨qs, read⟩ := exists_predicates (fun item h => reads item ((same item).1 h)) index
  refine ⟨qs, read, fun p => ?_⟩
  simp only [(predicates_eq_ok read).2, members, same]

end Wire

namespace Query

theorem run_congr_filters {q : Query} {filters : List Predicate}
    (same : ∀ p, p ∈ filters ↔ p ∈ q.filters) (rows : List Row) :
    ({ q with filters := filters }).run rows = q.run rows := by
  rw [run, run, filterRows_congr same]
  rfl

/-- Wire values that are read as the same query, but for the order and number of its predicates,
give the same rows. -/
theorem evaluate_congr_filters {wire wire' : Value} {q : Query} {filters : List Predicate}
    (accepted : ofValue wire = .ok q)
    (accepted' : ofValue wire' = .ok { q with filters := filters })
    (same : ∀ p, p ∈ filters ↔ p ∈ q.filters) (dataset : Option (List Row)) (id : Value) :
    evaluate dataset wire' id = evaluate dataset wire id := by
  rw [evaluate, evaluate, accepted, accepted']
  cases dataset with
  | none => rfl
  | some rows => exact run_congr_filters same rows

section Record

variable {wire : Row} {key : String}

theorem pick_set {keys : List String} (other : key ∉ keys) (v : Value) :
    Wire.pick (wire.set key v).toValue keys = Wire.pick wire.toValue keys := by
  refine Wire.pick_congr fun held hheld => ?_
  have same : (wire.set key v).get? held = wire.get? held := by
    rw [Row.get?_set, if_neg]
    rintro rfl
    exact other hheld
  exact congrArg Except.ok same

theorem pick_singleton {v : Value} (held : wire.get? key = some v) (given : v ≠ .null) :
    Wire.pick wire.toValue [key] = .ok v := by
  have found : Wire.lookup wire.toValue key = .ok (some v) := congrArg Except.ok held
  rw [Wire.pick, found]
  cases v with
  | null => exact absurd rfl given
  | _ => rfl

theorem aggregation_set {v : Value} {a : Aggregation} (other : key ≠ "aggregation")
    (h : Wire.aggregation wire.toValue = .ok a) :
    Wire.aggregation (wire.set key v).toValue = .ok a := by
  have picked : Wire.pick (wire.set key v).toValue ["aggregation"] =
      Wire.pick wire.toValue ["aggregation"] :=
    pick_set (by simpa using other) v
  have field : (wire.set key v).toValue.field "aggregation" = wire.toValue.field "aggregation" := by
    have same : (wire.set key v).get? "aggregation" = wire.get? "aggregation" := by
      rw [Row.get?_set, if_neg (Ne.symm other)]
    exact congrArg (Option.getD · .null) same
  rwa [Wire.aggregation, picked, field]

/-- With the same filters in another order, or in another number, an accepted record is read as the
same query, but for the order and number of its predicates. -/
theorem ofValue_set_filters {q : Query} {items others : List Value}
    (held : wire.get? "filters" = some (.list items)) (accepted : ofValue wire.toValue = .ok q)
    (same : ∀ item, item ∈ others ↔ item ∈ items) :
    ∃ filters, ofValue (wire.set "filters" (.list others)).toValue =
        .ok { q with filters := filters } ∧
      ∀ p, p ∈ filters ↔ p ∈ q.filters := by
  have reads := reads_of_ofValue accepted
  obtain ⟨v, picked, filtered⟩ := reads.filters
  obtain rfl : .list items = v := Except.ok.inj ((pick_singleton held (by simp)).symm.trans picked)
  rw [Wire.filters_list] at filtered
  obtain ⟨filters, read, members⟩ := Wire.predicates_congr same filtered
  have set : (wire.set "filters" (.list others)).get? "filters" = some (.list others) := by
    rw [Row.get?_set, if_pos rfl]
  refine ⟨filters, ofValue_of_reads ?_, members⟩
  exact {
    aggregation := aggregation_set (by decide) reads.aggregation
    xAxis := by
      rw [pick_set (by decide)]
      exact reads.xAxis
    yAxis := by
      rw [pick_set (by decide)]
      exact reads.yAxis
    groupBy := by
      rw [pick_set (by decide)]
      exact reads.groupBy
    filters := ⟨.list others, pick_singleton set (by simp), by rw [Wire.filters_list, read]⟩
    shape := reads.shape
    datasetId := by
      rw [pick_set (by decide)]
      exact reads.datasetId }

end Record

/-- Filters applied together keep what they keep one after another: in their order the rows for
which the mask of each predicate on the row alone is true, whether masks are computed from rows or
from columns. Of rows in parts they keep what they keep of each part. The order of the filters of an
accepted query, and how often one occurs, do not matter for what the query gives. -/
theorem filters_compose :
    (∀ (rows : List Row) (filters others : List Predicate),
      filterRows rows (filters ++ others) = filterRows (filterRows rows filters) others) ∧
    (∀ (rows : List Row) (filters : List Predicate), (filterRows rows filters).Sublist rows ∧
      filterRows rows filters = rows.filter fun row => ∀ p ∈ filters, p.mask [row] = [true]) ∧
    (∀ (rows : List Row) (p : Predicate), p.columnMask rows = p.mask rows) ∧
    (∀ (rows : List Row) (filters : List Predicate),
      filterByMasks rows filters = filterRows rows filters) ∧
    (∀ (rows others : List Row) (filters : List Predicate),
      filterRows (rows ++ others) filters = filterRows rows filters ++ filterRows others filters) ∧
    (∀ (wire : Value) (q : Query), ofValue wire = .ok q →
      ∀ filters, (∀ p, p ∈ filters ↔ p ∈ q.filters) →
      ∀ dataset id, evaluate dataset ({ q with filters := filters }).toValue id =
        evaluate dataset wire id) ∧
    ∀ (wire : Row) (q : Query) (items : List Value), wire.get? "filters" = some (.list items) →
      ofValue wire.toValue = .ok q → ∀ others, (∀ item, item ∈ others ↔ item ∈ items) →
      ∀ dataset id,
      evaluate dataset (wire.set "filters" (.list others)).toValue id =
        evaluate dataset wire.toValue id := by
  refine ⟨filterRows_append, ?_, fun rows p => p.columnMask_eq_mask rows,
    filterByMasks_eq_filterRows, filterRows_append_rows, ?_, ?_⟩
  · exact fun rows filters => ⟨List.filter_sublist, filterRows_eq_filter_mask rows filters⟩
  · intro wire q accepted filters same dataset id
    have normal : q.Normal := normal_of_ofValue accepted
    have normal : ({ q with filters := filters }).Normal :=
      normal.withFilters fun p hp => normal.filters p ((same p).1 hp)
    exact evaluate_congr_filters accepted (ofValue_toValue normal) same dataset id
  · intro wire q items held accepted others same dataset id
    obtain ⟨filters, accepted', members⟩ := ofValue_set_filters held accepted same
    exact evaluate_congr_filters accepted accepted' members dataset id

/-- A filter that is repeated in front of another one, and one without a column. -/
theorem filters_compose_repeated :
    let more : Value := .record [("column", .str "v"), ("operator", .str "gt"), ("value", .int 1)]
    let equal : Value :=
      .record [("column", .str " k"), ("operator", .str "EQ"), ("value", .str "a")]
    let items : List Value := [more, .record [], equal]
    let others : List Value := [equal, more, equal, .record []]
    let wire : Row := .ofEntries
      [("aggregation", .str "sum"), ("filters", .list items), ("xAxis", .str "k"),
        ("yAxis", .str "v")]
    let q : Query :=
      { xAxis := some "k", yAxis := some "v", aggregation := .sum,
        filters := [⟨"v", .gt, "1"⟩, ⟨"k", .eq, "a"⟩] }
    wire.get? "filters" = some (.list items) ∧ ofValue wire.toValue = .ok q ∧
      (∀ item, item ∈ others ↔ item ∈ items) ∧
      (∀ p, p ∈ q.filters.reverse ↔ p ∈ q.filters) ∧
      ∀ rows, evaluate (some rows) (wire.set "filters" (.list others)).toValue .null =
          evaluate (some rows) wire.toValue .null ∧
        evaluate (some rows) ({ q with filters := q.filters.reverse }).toValue .null =
          evaluate (some rows) wire.toValue .null := by
  have repeated (a b c : Value) : ∀ item, item ∈ [c, a, c, b] ↔ item ∈ [a, b, c] := by
    intro item
    simp only [List.mem_cons, List.not_mem_nil, or_false]
    tauto
  intro more equal items others wire q
  have accepted : ofValue wire.toValue = .ok q := by decide +kernel
  have same : ∀ item, item ∈ others ↔ item ∈ items := repeated more (.record []) equal
  have reversed : ∀ p, p ∈ q.filters.reverse ↔ p ∈ q.filters := fun p => List.mem_reverse
  obtain ⟨-, -, -, -, -, ofQuery, ofWire⟩ := filters_compose
  refine ⟨rfl, accepted, same, reversed, fun rows => ⟨?_, ?_⟩⟩
  · exact ofWire wire q items rfl accepted others same (some rows) .null
  · exact ofQuery wire.toValue q accepted _ reversed (some rows) .null

end Query

end Tabulate
