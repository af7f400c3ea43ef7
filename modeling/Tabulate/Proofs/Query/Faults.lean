import Tabulate.Proofs.Condense

/-!
# What a query fails with

A query fails while it is normalised or not at all. `Query.evaluates` says so: a query that was
accepted gives rows whatever their cells hold, none of the faults of condensing can occur, and
nothing but a dataset can be missed. `FailsOnly` bounds the faults of an operation by those of its
parts.
-/

namespace Tabulate

/-- All faults that an operation may end with satisfy `P`. -/
def FailsOnly {α : Type} (P : Fault → Prop) (x : Except Fault α) : Prop :=
  ∀ fault, x = .error fault → P fault

namespace FailsOnly

variable {α β : Type} {P : Fault → Prop}

theorem ok (a : α) : FailsOnly P (.ok a) := by
  intro fault failed
  cases failed

theorem error {fault : Fault} (h : P fault) : FailsOnly P (.error fault : Except Fault α) := by
  intro other same
  cases same
  exact h

/-- Two steps fail as one of them does. -/
theorem bind {x : Except Fault α} {f : α → Except Fault β} (first : FailsOnly P x)
    (second : ∀ a, x = .ok a → FailsOnly P (f a)) : FailsOnly P (x >>= f) := by
  intro fault failed
  rcases bind_eq_error.1 failed with here | ⟨a, done, there⟩
  · exact first fault here
  · exact second a done fault there

end FailsOnly

/-- The faults that normalising a query may end with: it is rejected, or a value is of a kind that
has no use there. -/
def Fault.OfQuery : Fault → Prop
  | rejected _ | undecidedTruth | textNotRecord | listNotRecord | notContainer _ | notIterable _
  | infiniteInteger => True
  | _ => False

section Values

variable {P : Fault → Prop}

theorem Value.failsOnly_truth (ambiguous : P .undecidedTruth) (v : Value) :
    FailsOnly P v.truth := by
  unfold truth
  split
  · exact .ok _
  · exact .error ambiguous

theorem Value.failsOnly_members (iterable : ∀ v, P (.notIterable v)) (v : Value) :
    FailsOnly P v.members := by
  unfold members
  split
  case h_4 => exact .error (iterable _)
  all_goals exact .ok _

end Values

namespace Wire

variable {P : Fault → Prop} {wire v : Value}

/-! ### Parts of a query -/

theorem failsOnly_listHas (ambiguous : P .undecidedTruth) (key : String) (items : List Value) :
    FailsOnly P (listHas key items) := by
  induction items with
  | nil => exact .ok _
  | cons item rest ih =>
    cases item
    case missing => exact .error ambiguous
    case str s =>
      unfold listHas
      split
      · exact .ok _
      · exact ih
    all_goals exact ih

theorem failsOnly_lookup (ambiguous : P .undecidedTruth) (text : P .textNotRecord)
    (list : P .listNotRecord) (container : ∀ v, P (.notContainer v)) (wire : Value) (key : String) :
    FailsOnly P (lookup wire key) := by
  unfold lookup
  split
  · exact .ok _
  · split
    · exact .error text
    · exact .ok _
  · refine (failsOnly_listHas ambiguous key _).bind ?_
    intro found _
    cases found
    · exact .ok _
    · exact .error list
  · exact .error (container _)

theorem failsOnly_keyword (truth : FailsOnly P v.truth) : FailsOnly P (keyword v) :=
  truth.bind fun _ _ => .ok _

theorem failsOnly_names (truth : FailsOnly P v.truth) (members : FailsOnly P v.members) :
    FailsOnly P (names v) := by
  refine truth.bind ?_
  intro full _
  cases full with
  | false => exact .ok _
  | true =>
    cases v
    case str => exact .ok _
    all_goals exact members.bind fun _ _ => .ok _

theorem failsOnly_pick (looked : ∀ key, FailsOnly P (lookup wire key)) (keys : List String) :
    FailsOnly P (pick wire keys) := by
  induction keys with
  | nil => exact .ok _
  | cons key rest ih =>
    refine (looked key).bind ?_
    intro found _
    split
    · exact ih
    · exact ih
    · exact .ok _

section Rejecting

variable (rejects : ∀ cause, P (.rejected cause))
include rejects

theorem failsOnly_aggregation (picked : FailsOnly P (pick wire ["aggregation"]))
    (truth : ∀ v, pick wire ["aggregation"] = .ok v → FailsOnly P v.truth) :
    FailsOnly P (aggregation wire) := by
  refine picked.bind ?_
  intro v given
  refine (failsOnly_keyword (truth v given)).bind ?_
  intro name _
  by_cases known : (if name = "" then Aggregation.raw else Aggregation.ofName name).known
  · rw [if_pos known]
    exact .ok _
  · rw [if_neg known]
    exact .error (rejects _)

theorem failsOnly_predicate? {filter : Value} (index : Nat)
    (truth : FailsOnly P (filter.field "operator").truth) :
    FailsOnly P (predicate? index filter) := by
  unfold predicate?
  split
  · split
    · exact .ok _
    · refine (failsOnly_keyword truth).bind ?_
      intro name _
      dsimp only
      split
      · exact .ok _
      · exact .error (rejects _)
  · exact .error (rejects _)

theorem failsOnly_predicates {items : List Value} (index : Nat)
    (truth : ∀ filter ∈ items, FailsOnly P (filter.field "operator").truth) :
    FailsOnly P (predicates index items) := by
  induction items generalizing index with
  | nil => exact .ok []
  | cons filter rest ih =>
    have first := failsOnly_predicate? rejects index (truth filter (by simp))
    have others := ih (index + 1) fun other hother => truth other (by simp [hother])
    exact first.bind fun _ _ => others.bind fun _ _ => .ok _

theorem failsOnly_filters (truth : FailsOnly P v.truth) (iterable : P (.notIterable v))
    (operators : ∀ filter : Value, FailsOnly P (filter.field "operator").truth) :
    FailsOnly P (filters v) := by
  refine truth.bind ?_
  intro full _
  cases full with
  | false => exact .ok _
  | true =>
    cases v
    case list items => exact failsOnly_predicates rejects 0 fun filter _ => operators filter
    case str => exact .error (rejects _)
    case record => exact .error (rejects _)
    all_goals exact .error iterable

theorem failsOnly_checkShape (a : Aggregation) (xAxis yAxis : Option String)
    (groupBy : List String) : FailsOnly P (checkShape a xAxis yAxis groupBy) := by
  unfold checkShape
  repeat' split
  all_goals first | exact .ok () | exact .error (rejects _)

theorem failsOnly_datasetId (ambiguous : P .undecidedTruth) (infinite : P .infiniteInteger)
    (v : Value) : FailsOnly P (datasetId v) := by
  unfold datasetId
  repeat' split
  all_goals
    first | exact .ok _ | exact .error (rejects _) | exact .error ambiguous | exact .error infinite

end Rejecting

end Wire

namespace Query

/-! ### Normalising -/

/-- Normalising fails as a part of it does. -/
theorem failsOnly_ofValue {P : Fault → Prop} {wire : Value} (rejects : ∀ cause, P (.rejected cause))
    (aggregation : FailsOnly P (Wire.aggregation wire))
    (picks : ∀ keys, FailsOnly P (Wire.pick wire keys))
    (groupBy : ∀ v, Wire.pick wire ["groupBy", "group_by"] = .ok v → FailsOnly P (Wire.names v))
    (filters : ∀ v, Wire.pick wire ["filters"] = .ok v → FailsOnly P (Wire.filters v))
    (id : ∀ v, Wire.pick wire ["datasetId", "dataset_id"] = .ok v →
      FailsOnly P (Wire.datasetId v)) :
    FailsOnly P (ofValue wire) := by
  refine aggregation.bind fun _ _ => ?_
  refine (picks _).bind fun _ _ => ?_
  refine (picks _).bind fun _ _ => ?_
  refine (picks _).bind fun v given => (groupBy v given).bind fun _ _ => ?_
  refine (picks _).bind fun v given => (filters v given).bind fun _ _ => ?_
  refine (Wire.failsOnly_checkShape rejects _ _ _ _).bind fun _ _ => ?_
  exact (picks _).bind fun v given => (id v given).bind fun _ _ => .ok _

/-- Whatever a wire value is, normalising it ends with a query or with one of its own faults. -/
theorem ofQuery_of_ofValue (wire : Value) : FailsOnly Fault.OfQuery (ofValue wire) := by
  have rejects (cause : Rejection) : (Fault.rejected cause).OfQuery := trivial
  have truth (v : Value) : FailsOnly Fault.OfQuery v.truth := v.failsOnly_truth trivial
  have members (v : Value) : FailsOnly Fault.OfQuery v.members :=
    v.failsOnly_members fun _ => trivial
  have looked (key : String) : FailsOnly Fault.OfQuery (Wire.lookup wire key) :=
    Wire.failsOnly_lookup trivial trivial trivial (fun _ => trivial) wire key
  have picks := Wire.failsOnly_pick looked
  apply failsOnly_ofValue rejects _ picks
  · intro v _
    exact Wire.failsOnly_names (truth v) (members v)
  · intro v _
    exact Wire.failsOnly_filters rejects (truth v) trivial fun _ => truth _
  · intro v _
    exact Wire.failsOnly_datasetId rejects trivial trivial v
  · exact Wire.failsOnly_aggregation rejects (picks _) fun v _ => truth v

/-! ### Evaluating -/

/-- A query in normal form gives rows, whatever the cells hold. -/
theorem Normal.exists_run {q : Query} (normal : q.Normal) (rows : List Row) :
    ∃ result, q.run rows = .ok result := by
  by_cases raw : q.aggregation = .raw
  · exact ⟨_, run_of_raw raw rows⟩
  · obtain ⟨x, y, figure, draws, -⟩ := normal.draws raw
    exact ⟨_, draws.run_eq_map_ofList rows⟩

/-- The outcome of a wire query, for all rows. -/
structure Evaluates (wire : Value) : Prop where
  /-- A query that is rejected is rejected whether or not there are rows. -/
  rejected : ∀ fault, ofValue wire = .error fault → ∀ rows id, evaluate rows wire id = .error fault
  /-- One that is accepted gives rows. -/
  shown : ∀ q, ofValue wire = .ok q → ∀ rows id, ∃ result, evaluate (some rows) wire id = .ok result
  /-- Condensing, which wants key columns and an aggregation that it knows, gets both. -/
  condensed : ∀ q, ofValue wire = .ok q → q.aggregation ≠ .raw → ∀ rows,
    ∃ result, aggregateRows rows q = .ok result
  /-- Without a dataset its identifier is not found: the given one or else the query's own. -/
  missing : ∀ q, ofValue wire = .ok q → ∀ id,
    evaluate none wire id = .error (.notFound (if id = .null then q.datasetId else id))
  /-- That happens without a dataset only. -/
  notFound : ∀ rows id given, evaluate rows wire id = .error (.notFound given) → rows = none

theorem evaluates (wire : Value) : Evaluates wire where
  rejected := by
    intro fault rejected rows id
    rw [evaluate, rejected]
    rfl
  shown := by
    intro q accepted rows id
    rw [evaluate_of_accepted accepted]
    exact (normal_of_ofValue accepted).exists_run rows
  condensed := by
    intro q accepted condenses rows
    obtain ⟨x, y, figure, draws, -⟩ := (normal_of_ofValue accepted).draws condenses
    exact ⟨_, draws.condense_eq q.labels rows⟩
  missing := by
    intro q accepted id
    rw [evaluate, accepted]
    cases id <;> rfl
  notFound := by
    intro rows id given failed
    cases rows with
    | none => rfl
    | some rows =>
      rcases bind_eq_error.1 failed with rejected | ⟨q, accepted, stuck⟩
      · exact (ofQuery_of_ofValue wire _ rejected).elim
      · obtain ⟨result, done⟩ := (normal_of_ofValue accepted).exists_run rows
        have stuck := done.symm.trans stuck
        cases stuck

end Query

end Tabulate
