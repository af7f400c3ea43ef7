import Tabulate.Proofs.Query.Faults
import Tabulate.Proofs.Whole

/-!
# The checks of a wire query

What a wire record says is one thing, and whether it may say so another. The first part reads a
record without checking it; `Wire.described` is the query that comes out. The second part lists the
checks in order: the aggregation, two for each filter, grouping, the axes, the identifier. None of
them looks at the outcome of another. `Query.ofValue_checked` puts the two together: the first check
that fails decides the rejection, and if none fails the query is as described.
-/

namespace Tabulate

namespace Wire

/-! ### What a record says -/

section Reading

variable (fields : List (String × Value))

/-- The value under the first of the keys that has one other than `null`. -/
def given (keys : List String) : Value :=
  ((keys.filterMap fun key => fields.lookup key).find? (· ≠ .null)).getD .null

/-- The keyword that a value spells. What counts as false spells none. -/
def spelled (v : Value) : String := if v.truth? = some true then lowercase (strip v.text) else ""

/-- The aggregation that is asked for, known or not. -/
def asked : Aggregation :=
  let name := spelled (given fields ["aggregation"])
  if name = "" then .raw else .ofName name

/-- The columns that a text names, or the items of a list. -/
def columnsOf : Value → List String
  | .str s => [Value.str s].filterMap name?
  | .list items => items.filterMap name?
  | _ => []

/-- The filters of a list. -/
def itemsOf : Value → List Value
  | .list items => items
  | _ => []

/-- The predicate of a filter, known operator or not, if it names a column. -/
def predicateOf (filter : Value) : Option Predicate :=
  (name? (filter.field "column")).map fun column =>
    ⟨column, .ofName (spelled (filter.field "operator")),
      match filter.field "value" with
      | .null => ""
      | v => v.text⟩

/-- The identifier that a value stands for; none if it stands for no integer. -/
def identifierOf : Value → Value
  | .bool b => .int b.toNat
  | .int i => .int i
  | .float x => (x.truncate?.map Value.int).getD .null
  | .str s => ((parseInteger s).map Value.int).getD .null
  | _ => .null

/-- The query that a record describes. -/
def described : Query where
  datasetId := identifierOf (given fields ["datasetId", "dataset_id"])
  xAxis := name? (given fields ["xAxis", "x_axis"])
  yAxis := name? (given fields ["yAxis", "y_axis"])
  aggregation := asked fields
  groupBy := columnsOf (given fields ["groupBy", "group_by"])
  filters := (itemsOf (given fields ["filters"])).filterMap predicateOf

end Reading

/-! ### What it may say -/

/-- A check: what a query that fails it is rejected for, and whether it fails it. -/
structure Check where
  cause : Rejection
  fails : Bool
  deriving DecidableEq

/-- Whether a value is given for an identifier and stands for no integer. -/
def notInteger : Value → Bool
  | .null | .bool _ | .int _ => false
  | .float x => !x.isFinite
  | .str s => s ≠ "" && (parseInteger s).isNone
  | .missing | .list _ | .record _ => true

/-- The check of the aggregation, which has to be known. -/
def aggregationCheck (fields : List (String × Value)) : Check :=
  ⟨.unknownAggregation ((fields.lookup "aggregation").getD .null), !(asked fields).known⟩

/-- The checks of the filter at a position: it has to be a record, and if it names a column its
operator has to be known. -/
def filterChecks (filter : Value) (index : Nat) : List Check :=
  [ ⟨.filterNotRecord index, !filter matches .record _⟩,
    ⟨.unknownOperator index (filter.field "operator"),
      (name? (filter.field "column")).isSome &&
      !(Operator.ofName (spelled (filter.field "operator"))).known⟩ ]

/-- The checks of the shape of a query: there is grouping only with an aggregation, and an
aggregation has both axes. -/
def shapeChecks (q : Query) : List Check :=
  [ ⟨.groupingWithoutAggregation, q.aggregation = .raw && q.groupBy ≠ []⟩,
    ⟨.axisRequired .x q.aggregation, q.aggregation ≠ .raw && q.xAxis.isNone⟩,
    ⟨.axisRequired .y q.aggregation, q.aggregation ≠ .raw && q.yAxis.isNone⟩ ]

/-- The check of the identifier. -/
def identifierCheck (v : Value) : Check := ⟨.datasetIdNotInteger v, notInteger v⟩

/-- The checks up to that of the identifier, in order. Filters count from zero, those without a
column too. -/
def leadingChecks (fields : List (String × Value)) : List Check :=
  [aggregationCheck fields] ++
    ((itemsOf (given fields ["filters"])).zipIdx.flatMap fun item => filterChecks item.1 item.2) ++
    shapeChecks (described fields)

/-- All checks in order. -/
def checks (fields : List (String × Value)) : List Check :=
  leadingChecks fields ++ [identifierCheck (given fields ["datasetId", "dataset_id"])]

/-- The outcome of checks that are made one after another: the first that fails ends them. -/
def passes (checks : List Check) : Except Fault Unit :=
  match checks.find? Check.fails with
  | some check => .error (.rejected check.cause)
  | none => .ok ()

/-- Checks that are made after others are made if none of those fails. -/
theorem passes_append (first others : List Check) :
    passes (first ++ others) = passes first >>= fun _ => passes others := by
  unfold passes
  rw [List.find?_append]
  cases first.find? Check.fails <;> rfl

theorem passes_singleton (check : Check) :
    passes [check] = if check.fails then .error (.rejected check.cause) else .ok () := by
  cases failed : check.fails <;> simp [passes, failed]

/-! ### Reading and checking at once -/

section Parts

variable {fields : List (String × Value)} {v filter : Value}

theorem pick_record (fields : List (String × Value)) (keys : List String) :
    pick (.record fields) keys = .ok (given fields keys) := by
  induction keys with
  | nil => rfl
  | cons key rest ih =>
    simp only [pick, lookup, bind, Except.bind]
    cases found : fields.lookup key with
    | none => simpa [given, found] using ih
    | some v =>
      cases v
      case null => simpa [given, found] using ih
      all_goals simp [given, found]

/-- What is given is nothing or stands in the record. -/
theorem whole_given (whole : (Value.record fields).Whole) (keys : List String) :
    (given fields keys).Whole := by
  unfold given
  cases found : (keys.filterMap fun key => fields.lookup key).find? (· ≠ .null) with
  | none => trivial
  | some v =>
    obtain ⟨key, -, looked⟩ := List.mem_filterMap.1 (List.mem_of_find?_eq_some found)
    exact Value.whole_record.1 whole (key, v) (Value.mem_of_lookup looked)

/-- Only a missing value has no truth. -/
theorem exists_truth (whole : v.Whole) : ∃ b, v.truth? = some b := by
  cases v
  case missing => cases whole
  all_goals exact ⟨_, rfl⟩

theorem keyword_eq (whole : v.Whole) : keyword v = .ok (spelled v) := by
  obtain ⟨b, truth⟩ := exists_truth whole
  have decided : v.truth = .ok b := by rw [Value.truth, truth]
  rw [keyword, decided, spelled, truth]
  cases b <;> rfl

theorem aggregation_eq (whole : (Value.record fields).Whole) :
    aggregation (.record fields) = passes [aggregationCheck fields] >>= fun _ =>
      .ok (asked fields) := by
  rw [aggregation, pick_record]
  simp only [bind, Except.bind, keyword_eq (whole_given whole _),
    passes_singleton, aggregationCheck]
  cases known : (asked fields).known
  all_goals
    simp only [asked] at known
    simp [known, asked, Value.field, throw, throwThe, MonadExceptOf.throw, pure, Except.pure]

theorem names_eq (shape : v = .null ∨ (∃ s, v = .str s) ∨ ∃ items, v = .list items) :
    names v = .ok (columnsOf v) := by
  obtain rfl | ⟨s, rfl⟩ | ⟨items, rfl⟩ := shape
  · rfl
  · by_cases empty : s = ""
    · subst empty
      rfl
    · rw [names, Value.truth_str empty]
      rfl
  · cases items <;> rfl

theorem predicate?_eq (whole : filter.Whole) (index : Nat) :
    predicate? index filter = passes (filterChecks filter index) >>= fun _ =>
      .ok (predicateOf filter) := by
  cases filter
  case record inner =>
    have spelt := keyword_eq (whole.field "operator")
    unfold predicate?
    cases named : name? ((Value.record inner).field "column") with
    | none => simp [passes, filterChecks, predicateOf, named, bind, Except.bind]
    | some column =>
      simp only [spelt, bind, Except.bind]
      cases known : (Operator.ofName (spelled ((Value.record inner).field "operator"))).known with
      | false => simp [passes, filterChecks, named, known, throw, throwThe, MonadExceptOf.throw]
      | true =>
        have passed : passes (filterChecks (.record inner) index) = .ok () := by
          simp [passes, filterChecks, named, known]
        rw [passed, predicateOf, named]
        rfl
  all_goals rfl

theorem predicates_eq {items : List Value} (whole : ∀ filter ∈ items, filter.Whole) (index : Nat) :
    predicates index items =
      passes ((items.zipIdx index).flatMap fun item => filterChecks item.1 item.2) >>= fun _ =>
        .ok (items.filterMap predicateOf) := by
  induction items generalizing index with
  | nil => rfl
  | cons filter rest ih =>
    have others := ih (fun other hother => whole other (List.mem_cons_of_mem _ hother)) (index + 1)
    rw [predicates, predicate?_eq (whole filter List.mem_cons_self), others,
      List.zipIdx_cons, List.flatMap_cons, passes_append]
    simp only [bind, Except.bind]
    -- the rest is looked at only if the first filter passes, so its checks come behind
    cases passes (filterChecks filter index) with
    | error fault => rfl
    | ok _ =>
      cases passes ((rest.zipIdx (index + 1)).flatMap fun item => filterChecks item.1 item.2) with
      | error fault => rfl
      | ok _ =>
        cases described : predicateOf filter <;> simp [described, pure, Except.pure]

theorem filters_eq (whole : v.Whole) (shape : v = .null ∨ ∃ items, v = .list items) :
    filters v = passes ((itemsOf v).zipIdx.flatMap fun item => filterChecks item.1 item.2) >>=
      fun _ => .ok ((itemsOf v).filterMap predicateOf) := by
  obtain rfl | ⟨items, rfl⟩ := shape
  · rfl
  · rw [filters_list]
    exact predicates_eq (Value.whole_list.1 whole) 0

theorem checkShape_eq (q : Query) :
    checkShape q.aggregation q.xAxis q.yAxis q.groupBy = passes (shapeChecks q) := by
  obtain ⟨id, x, y, a, groupBy, filters⟩ := q
  by_cases raw : a = .raw
  · cases groupBy <;> simp [checkShape, passes, shapeChecks, raw]
  · cases x <;> cases y <;> simp [checkShape, passes, shapeChecks, raw]

/-- An identifier that is no infinite number is one or is rejected. -/
theorem datasetId_eq (whole : v.Whole) (finite : ∀ negative, v ≠ .float (.infinite negative)) :
    datasetId v = passes [identifierCheck v] >>= fun _ => .ok (identifierOf v) := by
  rw [passes_singleton]
  cases v
  case missing => cases whole
  case float x =>
    cases x
    case infinite negative => exact absurd rfl (finite negative)
    all_goals rfl
  case str s =>
    by_cases empty : s = ""
    · subst empty
      rfl
    · cases read : parseInteger s <;>
        simp [datasetId, identifierCheck, notInteger, identifierOf, empty, read, bind, Except.bind]
  all_goals rfl

end Parts

/-- A record that a query may be read from: nothing in it is missing, columns to group by are given
as nothing, a text or a list, and filters as nothing or a list. Its values may be of any kind
otherwise. -/
structure Payload (fields : List (String × Value)) : Prop where
  whole : (Value.record fields).Whole
  groupBy : given fields ["groupBy", "group_by"] = .null ∨
    (∃ s, given fields ["groupBy", "group_by"] = .str s) ∨
    ∃ items, given fields ["groupBy", "group_by"] = .list items
  filters : given fields ["filters"] = .null ∨ ∃ items, given fields ["filters"] = .list items

/-- The fields that the checks are about. -/
theorem map_field_checks (fields : List (String × Value)) :
    (checks fields).map (fun check => check.cause.field) =
      ["aggregation"] ++
        (List.range (itemsOf (given fields ["filters"])).length).flatMap (fun i =>
          ["filters[" ++ i.repr ++ "]", "filters[" ++ i.repr ++ "].operator"]) ++
        ["groupBy", "xAxis", "yAxis", "datasetId"] := by
  have places := List.zipIdx_map_snd 0 (itemsOf (given fields ["filters"]))
  rw [List.range_eq_range', ← places, List.flatMap_map]
  simp [checks, leadingChecks, aggregationCheck, filterChecks, shapeChecks, identifierCheck,
    Rejection.field, Axis.name, List.map_flatMap]

end Wire

namespace Query

open Wire

variable {fields : List (String × Value)}

/-- A query is read as described if all checks are passed. The identifier is read last. -/
theorem ofValue_checked (payload : Payload fields) :
    ofValue (.record fields) = passes (leadingChecks fields) >>= fun _ => do
      let id ← Wire.datasetId (given fields ["datasetId", "dataset_id"])
      return { described fields with datasetId := id } := by
  have shape : checkShape (asked fields) (name? (given fields ["xAxis", "x_axis"]))
      (name? (given fields ["yAxis", "y_axis"]))
      (columnsOf (given fields ["groupBy", "group_by"])) =
        passes (shapeChecks (described fields)) := checkShape_eq (described fields)
  rw [leadingChecks, passes_append, passes_append]
  simp only [ofValue, aggregation_eq payload.whole, pick_record, names_eq payload.groupBy,
    filters_eq (whole_given payload.whole _) payload.filters, bind, Except.bind]
  cases passes [aggregationCheck fields] with
  | error fault => rfl
  | ok _ =>
    cases passes ((itemsOf (given fields ["filters"])).zipIdx.flatMap fun item =>
      filterChecks item.1 item.2) with
    | error fault => rfl
    | ok _ =>
      simp only [shape]
      cases passes (shapeChecks (described fields)) <;> rfl

/-- An identifier that is not infinite is checked like the rest. -/
theorem ofValue_of_finite (payload : Payload fields)
    (finite : ∀ negative, given fields ["datasetId", "dataset_id"] ≠ .float (.infinite negative)) :
    ofValue (.record fields) = passes (checks fields) >>= fun _ => .ok (described fields) := by
  rw [ofValue_checked payload, datasetId_eq (whole_given payload.whole _) finite,
    checks, passes_append]
  simp only [bind, Except.bind]
  cases passes (leadingChecks fields) with
  | error fault => rfl
  | ok _ => cases passes [identifierCheck (given fields ["datasetId", "dataset_id"])] <;> rfl

/-- A record is read as a query if it passes all checks, and otherwise rejected for the first that
it fails. What is read is as described, and in normal form. -/
theorem ofValue_first_failing_check (payload : Payload fields)
    (finite : ∀ negative, given fields ["datasetId", "dataset_id"] ≠ .float (.infinite negative)) :
    (checks fields).map (fun check => check.cause.field) =
        ["aggregation"] ++
          (List.range (itemsOf (given fields ["filters"])).length).flatMap (fun i =>
            ["filters[" ++ i.repr ++ "]", "filters[" ++ i.repr ++ "].operator"]) ++
          ["groupBy", "xAxis", "yAxis", "datasetId"] ∧
      ((∃ q, ofValue (.record fields) = .ok q) ↔ ∀ check ∈ checks fields, check.fails = false) ∧
      (∀ check, (checks fields).find? Check.fails = some check →
        ofValue (.record fields) = .error (.rejected check.cause)) ∧
      ∀ q, ofValue (.record fields) = .ok q → q = described fields ∧ q.Normal := by
  have read := ofValue_of_finite payload finite
  refine ⟨map_field_checks fields, ?_, ?_, ?_⟩
  · have passed : (checks fields).find? Check.fails = none ↔
        ∀ check ∈ checks fields, check.fails = false := by
      simp [List.find?_eq_none]
    rw [read, ← passed, passes]
    cases (checks fields).find? Check.fails <;> simp [bind, Except.bind]
  · intro check first
    rw [read, passes, first]
    rfl
  · intro q accepted
    refine ⟨?_, normal_of_ofValue accepted⟩
    rw [read] at accepted
    obtain ⟨-, -, same⟩ := bind_eq_ok.1 accepted
    exact (Except.ok.inj same).symm

/-- Wrong in several places: the second filter has an unknown operator, the first one has no column,
so that its operator does not count, columns to group by come without an aggregation, and the
identifier is no integer. -/
theorem ofValue_first_failing_check_second_filter :
    let fields : List (String × Value) :=
      [ ("aggregation", .str " "), ("groupBy", .null), ("group_by", .str "k"),
        ("datasetId", .str "1.0"),
        ("filters", .list
          [ .record [("column", .str "\t"), ("operator", .str "like")],
            .record [("column", .int 1), ("operator", .str "LIKE ")], .str "a > 1" ]) ]
    Payload fields ∧
      (∀ negative, given fields ["datasetId", "dataset_id"] ≠ .float (.infinite negative)) ∧
      ofValue (.record fields) = .error (.rejected (.unknownOperator 1 (.str "LIKE "))) ∧
      (Rejection.unknownOperator 1 (.str "LIKE ")).field = "filters[1].operator" := by
  intro fields
  have payload : Payload fields := by
    refine ⟨?_, .inr (.inl ⟨"k", by decide +kernel⟩), .inr ⟨_, rfl⟩⟩
    simp [fields, Value.Whole, Value.Present, Value.PresentFields, Value.PresentItems]
  have finite :
      ∀ negative, given fields ["datasetId", "dataset_id"] ≠ .float (.infinite negative) := by
    decide +kernel
  have first : (checks fields).find? Check.fails =
      some ⟨.unknownOperator 1 (.str "LIKE "), true⟩ := by decide +kernel
  exact ⟨payload, finite, (ofValue_first_failing_check payload finite).2.2.1 _ first,
    by decide +kernel⟩

/-- Whatever a record holds, it is read as a query that makes rows of any rows, or it is rejected
for the first check that it fails, or that check is the one of an infinite identifier, which is a
fault of its own. -/
theorem ofValue_outcomes (payload : Payload fields) (rows : List Row) (id : Value) :
    (∃ q result, ofValue (.record fields) = .ok q ∧
      evaluate (some rows) (.record fields) id = .ok result) ∨
      (∃ check, (checks fields).find? Check.fails = some check ∧
        ofValue (.record fields) = .error (.rejected check.cause) ∧
        evaluate (some rows) (.record fields) id = .error (.rejected check.cause)) ∨
      ∃ negative, given fields ["datasetId", "dataset_id"] = .float (.infinite negative) ∧
        (checks fields).find? Check.fails = some (identifierCheck (.float (.infinite negative))) ∧
        ofValue (.record fields) = .error .infiniteInteger ∧
        evaluate (some rows) (.record fields) id = .error .infiniteInteger := by
  have outcome := evaluates (.record fields)
  have read := ofValue_checked payload
  -- the identifier matters only once all other checks are passed
  cases first : (leadingChecks fields).find? Check.fails with
  | some check =>
    have failed : ofValue (.record fields) = .error (.rejected check.cause) := by
      rw [read, passes, first]
      rfl
    refine .inr (.inl ⟨check, ?_, failed, outcome.rejected _ failed _ id⟩)
    rw [checks, List.find?_append, first]
    rfl
  | none =>
    by_cases infinite :
        ∃ negative, given fields ["datasetId", "dataset_id"] = .float (.infinite negative)
    · obtain ⟨negative, infinite⟩ := infinite
      have failed : ofValue (.record fields) = .error .infiniteInteger := by
        rw [read, passes, first, infinite]
        rfl
      refine .inr (.inr ⟨negative, infinite, ?_, failed, outcome.rejected _ failed _ id⟩)
      rw [checks, List.find?_append, first, infinite]
      rfl
    · have finite :
          ∀ negative, given fields ["datasetId", "dataset_id"] ≠ .float (.infinite negative) := by
        simpa using infinite
      have read := ofValue_of_finite payload finite
      cases last : (checks fields).find? Check.fails with
      | some check =>
        have failed : ofValue (.record fields) = .error (.rejected check.cause) := by
          rw [read, passes, last]
          rfl
        exact .inr (.inl ⟨check, rfl, failed, outcome.rejected _ failed _ id⟩)
      | none =>
        have accepted : ofValue (.record fields) = .ok (described fields) := by
          rw [read, passes, last]
          rfl
        obtain ⟨result, shown⟩ := outcome.shown _ accepted rows id
        exact .inl ⟨_, result, accepted, shown⟩

/-- An identifier that is not a number fails its check, after the columns to group by passed
theirs. -/
theorem ofValue_outcomes_not_a_number :
    let fields : List (String × Value) :=
      [("groupBy", .list [.null, .str " "]), ("datasetId", .float .nan)]
    Payload fields ∧ ∃ check, (checks fields).find? Check.fails = some check ∧
      ofValue (.record fields) = .error (.rejected check.cause) ∧
      evaluate (some [.empty]) (.record fields) .null = .error (.rejected check.cause) := by
  intro fields
  have payload : Payload fields := by
    refine ⟨?_, .inr (.inr ⟨_, rfl⟩), .inl (by decide +kernel)⟩
    simp [fields, Value.Whole, Value.Present, Value.PresentFields, Value.PresentItems]
  have given_ : given fields ["datasetId", "dataset_id"] = .float .nan := by decide +kernel
  refine ⟨payload, ?_⟩
  rcases ofValue_outcomes payload [.empty] .null
    with ⟨q, -, accepted, -⟩ | rejected | ⟨negative, infinite, -⟩
  · have refused : ofValue (.record fields) =
        .error (.rejected (.datasetIdNotInteger (.float .nan))) := by decide +kernel
    rw [refused] at accepted
    cases accepted
  · exact rejected
  · rw [given_] at infinite
    cases infinite

/-- JSON text may hold an infinite number, and as an identifier that is no ground for a rejection
but another fault. -/
theorem ofValue_infinite_identifier :
    let fields : List (String × Value) := [("datasetId", .float (.infinite false))]
    Json.read "\x7b\"datasetId\": Infinity\x7d" = .ok (.record fields) ∧ Payload fields ∧
      ofValue (.record fields) = .error .infiniteInteger ∧
      evaluate (some []) (.record fields) .null = .error .infiniteInteger ∧
      ∀ cause, Fault.infiniteInteger ≠ .rejected cause := by
  intro fields
  refine ⟨by decide +kernel, ⟨?_, .inl (by decide +kernel), .inl (by decide +kernel)⟩,
    by decide +kernel, by decide +kernel, ?_⟩
  · simp [fields, Value.Whole, Value.Present, Value.PresentFields]
  · rintro cause ⟨⟩

end Query

end Tabulate
