import Mathlib
import Tabulate.Proofs.Condense

/-!
# Aggregating aggregates

The rows that a query makes of parts of a table can be aggregated once more, by fewer columns. A row
of a part shows in its key columns what its first member has there, so the coarse groups are met
again, in their order and under the same values; least and greatest numbers are those of the whole,
and counts add up. That is `Query.evaluate_roll_up`.
-/

namespace Tabulate

/-! ### Rows that show other rows -/

/-- Keys of fewer columns are decided by keys of more. -/
theorem Row.key_eq_of_subset {columns coarse : List String}
    (taken : ∀ column ∈ coarse, column ∈ columns) {r s : Row} (h : r.key columns = s.key columns) :
    r.key coarse = s.key coarse :=
  List.map_congr_left fun column hc => Row.text_eq_of_key_eq h (taken column hc)

/-- `r` holds in the given columns what a row made of a group with the first member `m` shows
there. -/
def Row.Carries (columns : List String) (m r : Row) : Prop :=
  ∀ column ∈ columns, r.get? column = some (m.keyValue column)

section Carrying

variable {columns coarse : List String} {m r : Row}

theorem Row.Carries.keyValue_eq (carries : Row.Carries columns m r) {column : String}
    (h : column ∈ columns) : r.keyValue column = m.keyValue column := by
  have held : r.get? column = some (m.keyValue column) := carries column h
  have present : ¬(r.cell column).isAbsent := by
    rw [cell, held]
    exact Bool.eq_false_iff.1 (m.isAbsent_keyValue column)
  exact Option.some.inj ((get?_eq_keyValue present).symm.trans held)

/-- What is shown in a column has the text of the first member's cell, absent or not. -/
theorem Row.Carries.key_eq (carries : Row.Carries columns m r)
    (taken : ∀ column ∈ coarse, column ∈ columns) : r.key coarse = m.key coarse := by
  apply List.map_congr_left
  intro column h
  rw [← Row.text_keyValue m column, cell, carries column (taken column h)]

end Carrying

/-- Rows with the same columns and the same values, except that the numbers in one column are only
equal as numbers. -/
structure Row.SameButNumber (y : String) (r s : Row) : Prop where
  columns : r.columns = s.columns
  others : ∀ column, column ≠ y → r.get? column = s.get? column
  number : ∃ a b, r.get? y = some (.float a) ∧ s.get? y = some (.float b) ∧ a.numEq b

namespace Query

/-- `groups` divide `rows` up by the columns to group by, with first members in order of first
occurrence, and `shown` is what the query shows for them. -/
structure Divides (q : Query) (x y : String) (rows : List Row)
    (groups : List (Group (List String) Row)) (shown : Group (List String) Row → Row) : Prop where
  perm : (groups.map Group.members).flatten.Perm rows
  keys : ∀ g ∈ groups, ∀ m ∈ g.members, m.key q.groupBy = g.first.key q.groupBy
  firsts : ∀ coarse : List String, (∀ column ∈ coarse, column ∈ q.groupBy) →
    Group.firsts (Row.key coarse) (groups.map Group.first) = Group.firsts (Row.key coarse) rows
  shows : ∀ g ∈ groups, q.Shows x y g.first g.others (shown g)

theorem keyColumns_of_grouped {q : Query} (grouped : q.groupBy ≠ []) :
    q.keyColumns = q.groupBy := by
  unfold keyColumns
  rw [if_neg (by simpa using grouped)]

section Dividing

variable {q : Query} {x y : String} {figure : Binary64 → List Binary64 → Value}

/-- What a query makes of parts of a table shows groups that divide up the rows that satisfy the
filters. -/
theorem Draws.divides (draws : q.Draws x y figure)
    (right : ∀ z zs, (∀ w ∈ z :: zs, w.isFinite) → q.aggregation.IsFigure (z :: zs) (figure z zs))
    (grouped : q.groupBy ≠ []) (shards : List (List Row)) :
    ∃ fine groups shown, (shards.mapM fun rows => q.run rows) = .ok fine ∧
      fine.flatten = groups.map shown ∧
      q.Divides x y (filterRows shards.flatten q.filters) groups shown := by
  let key := Row.key q.groupBy
  let parts := shards.map (filterRows · q.filters)
  let row := q.groupRow ⟨x, y, id⟩ (q.groupBy.headD x) figure
  have whole : filterRows shards.flatten q.filters = parts.flatten := List.filter_flatten
  have run : (fun rows => q.run rows) =
      fun rows => pure ((Group.ofList key (filterRows rows q.filters)).map row) := by
    funext rows
    rw [draws.run_eq_map_ofList, keyColumns_of_grouped grouped]
    rfl
  refine ⟨parts.map fun part => (Group.ofList key part).map row,
    (parts.map (Group.ofList key)).flatten, row, ?_, ?_, ?_, ?_, ?_, ?_⟩
  · rw [run, List.mapM_pure, List.map_map]
    rfl
  · rw [List.map_flatten, List.map_map (f := Group.ofList key)]
    rfl
  · rw [whole]
    exact Group.flatten_members_flatten_perm key parts
  · intro g hg m hm
    obtain ⟨groups, hgroups, hg⟩ := List.mem_flatten.1 hg
    obtain ⟨part, -, rfl⟩ := List.mem_map.1 hgroups
    have keyed : key m = g.key := Group.key_of_mem_members hg hm
    exact keyed.trans (Group.key_first hg).symm
  · intro coarse taken
    rw [whole, List.map_flatten, List.map_map]
    exact Group.firsts_flatten_firsts (fun a b same => Row.key_eq_of_subset taken same) parts
  · intro g _
    exact draws.shows right g

variable {rows : List Row} {groups : List (Group (List String) Row)}
  {shown : Group (List String) Row → Row}

theorem Divides.exists_group (divides : q.Divides x y rows groups shown) {m : Row} (h : m ∈ rows) :
    ∃ g ∈ groups, m ∈ g.members := by
  obtain ⟨members, hmembers, hm⟩ := List.mem_flatten.1 (divides.perm.symm.subset h)
  obtain ⟨g, hg, rfl⟩ := List.mem_map.1 hmembers
  exact ⟨g, hg, hm⟩

theorem Divides.mem_of_mem_members (divides : q.Divides x y rows groups shown)
    {g : Group (List String) Row} (hg : g ∈ groups) {m : Row} (hm : m ∈ g.members) : m ∈ rows :=
  divides.perm.subset (List.mem_flatten.2 ⟨_, List.mem_map.2 ⟨g, hg, rfl⟩, hm⟩)

theorem Divides.carries (divides : q.Divides x y rows groups shown) (unkeyed : y ∉ q.groupBy)
    {g : Group (List String) Row} (hg : g ∈ groups) : Row.Carries q.groupBy g.first (shown g) :=
  fun column grouped => (divides.shows g hg).groupBy column grouped fun same =>
    unkeyed (same ▸ grouped)

variable {coarse : List String}

/-- A row that is shown has the coarse key of all members of its group. -/
theorem Divides.key_shown (divides : q.Divides x y rows groups shown) (unkeyed : y ∉ q.groupBy)
    (taken : ∀ column ∈ coarse, column ∈ q.groupBy) {g : Group (List String) Row} (hg : g ∈ groups)
    {m : Row} (hm : m ∈ g.members) : (shown g).key coarse = m.key coarse :=
  ((divides.carries unkeyed hg).key_eq taken).trans
    (Row.key_eq_of_subset taken (divides.keys g hg m hm)).symm

/-- The first members of the coarse groups, and what stands for them among the rows that are
shown. -/
theorem Divides.forall₂_firsts (divides : q.Divides x y rows groups shown) (unkeyed : y ∉ q.groupBy)
    (taken : ∀ column ∈ coarse, column ∈ q.groupBy) :
    List.Forall₂ (fun m r => Row.Carries q.groupBy m r ∧ m.key coarse = r.key coarse)
      (Group.firsts (Row.key coarse) rows) (Group.firsts (Row.key coarse) (groups.map shown)) := by
  rw [← divides.firsts coarse taken]
  refine Group.forall₂_firsts ?_
  rw [List.forall₂_map_left_iff, List.forall₂_map_right_iff, List.forall₂_same]
  intro g hg
  have carries := divides.carries unkeyed hg
  exact ⟨carries, (carries.key_eq taken).symm⟩

theorem coerce_of_get? {r : Row} {column : String} {a : Binary64} (finite : a.isFinite)
    (held : r.get? column = some (.float a)) : (r.cell column).coerce = a := by
  rw [Row.cell_of_float finite held]
  rfl

/-- The number of a row that is shown is the best of its group. -/
theorem Divides.firstBest_shown (divides : q.Divides x y rows groups shown)
    {better : Binary64 → Binary64 → Bool}
    (isFigure : ∀ xs v, q.aggregation.IsFigure xs v ↔ ∃ m, v = .float m ∧
      Binary64.FirstBest better m xs)
    {g : Group (List String) Row} (hg : g ∈ groups) :
    Binary64.FirstBest better ((shown g).cell y).coerce
      (g.members.map fun m => (m.cell y).coerce) := by
  obtain ⟨v, held, figure⟩ := (divides.shows g hg).yAxis
  obtain ⟨best, rfl, isBest⟩ := (isFigure _ _).1 figure
  have finite : best.isFinite := Row.isFinite_of_mem_coerce isBest.mem
  rwa [coerce_of_get? finite held]

/-- The best number of a coarse group equals the best of the numbers that are shown for its
parts. -/
theorem Divides.numEq_of_figures (divides : q.Divides x y rows groups shown)
    (unkeyed : y ∉ q.groupBy) (taken : ∀ column ∈ coarse, column ∈ q.groupBy)
    (picks : q.aggregation = .min ∨ q.aggregation = .max) {k : List String} {v w : Value}
    (direct : q.aggregation.IsFigure
      ((rows.filter (·.key coarse = k)).map fun m => (m.cell y).coerce) v)
    (rolled : q.aggregation.IsFigure
      (((groups.map shown).filter (·.key coarse = k)).map fun m => (m.cell y).coerce) w) :
    ∃ a b, v = .float a ∧ w = .float b ∧ a.numEq b := by
  obtain ⟨better, score, isFigure, agree, equal⟩ := Aggregation.exists_score picks
  obtain ⟨a, rfl, bestDirect⟩ := (isFigure _ _).1 direct
  obtain ⟨b, rfl, bestRolled⟩ := (isFigure _ _).1 rolled
  have scores : score a = score b := by
    refine bestDirect.score_eq bestRolled agree (fun _ => Row.isFinite_of_mem_coerce) ?_ ?_
    · -- a number that is shown is that of some member of its group
      intro n hn
      obtain ⟨r, hr, rfl⟩ := List.mem_map.1 hn
      obtain ⟨hr, keyed⟩ := List.mem_filter.1 hr
      obtain ⟨g, hg, rfl⟩ := List.mem_map.1 hr
      obtain ⟨m, hm, same⟩ := List.mem_map.1 (divides.firstBest_shown isFigure hg).mem
      rw [← same]
      refine List.mem_map.2 ⟨m, List.mem_filter.2 ⟨divides.mem_of_mem_members hg hm, ?_⟩, rfl⟩
      rwa [divides.key_shown unkeyed taken hg hm] at keyed
    · -- the number of a member is no better than that which is shown for its group
      intro n hn
      obtain ⟨m, hm, rfl⟩ := List.mem_map.1 hn
      obtain ⟨hm, keyed⟩ := List.mem_filter.1 hm
      obtain ⟨g, hg, member⟩ := divides.exists_group hm
      refine ⟨((shown g).cell y).coerce,
        List.mem_map.2 ⟨shown g, List.mem_filter.2 ⟨?_, ?_⟩, rfl⟩, ?_⟩
      · exact List.mem_map.2 ⟨g, hg, rfl⟩
      · rwa [divides.key_shown unkeyed taken hg member]
      · refine (divides.firstBest_shown isFigure hg).score_le ?_ (List.mem_map.2 ⟨m, member, rfl⟩)
        intro c hc d hd
        exact agree c d (Row.isFinite_of_mem_coerce hc) (Row.isFinite_of_mem_coerce hd)
  have finite : a.isFinite := Row.isFinite_of_mem_coerce bestDirect.mem
  have finite' : b.isFinite := Row.isFinite_of_mem_coerce bestRolled.mem
  exact ⟨a, b, rfl, rfl, equal a b finite finite' scores⟩

/-- The members of a coarse group are as many as the counts that are shown for its parts say
together. -/
theorem Divides.exists_counts (divides : q.Divides x y rows groups shown) (unkeyed : y ∉ q.groupBy)
    (taken : ∀ column ∈ coarse, column ∈ q.groupBy) (counts : q.aggregation = .count)
    (k : List String) :
    ∃ ns : List Int,
      List.Forall₂ (fun r n => r.get? y = some (.int n))
        ((groups.map shown).filter (·.key coarse = k)) ns ∧
      ((rows.filter (·.key coarse = k)).length : Int) = ns.sum := by
  have total : (rows.filter (·.key coarse = k)).length =
      ((groups.map Group.members).flatten.filter (·.key coarse = k)).length :=
    (divides.perm.symm.filter _).length_eq
  have number : ∀ g ∈ groups, (shown g).get? y = some (.int g.members.length) := by
    intro g hg
    obtain ⟨v, held, figure⟩ := (divides.shows g hg).yAxis
    rw [counts] at figure
    rw [held, figure, List.length_map]
    rfl
  have keys : ∀ g ∈ groups, ∀ m ∈ g.members, (shown g).key coarse = m.key coarse :=
    fun g hg m hm => divides.key_shown unkeyed taken hg hm
  rw [total]
  clear total divides
  induction groups with
  | nil => exact ⟨[], .nil, rfl⟩
  | cons g rest ih =>
    obtain ⟨ns, numbers, sum⟩ := ih (fun h hh => number h (List.mem_cons_of_mem _ hh))
      fun h hh => keys h (List.mem_cons_of_mem _ hh)
    have same := keys g List.mem_cons_self
    rw [List.map_cons, List.map_cons, List.flatten_cons, List.filter_append, List.length_append]
    by_cases keyed : (shown g).key coarse = k
    · have all : g.members.filter (·.key coarse = k) = g.members := by
        rw [List.filter_eq_self]
        intro m hm
        simp [← same m hm, keyed]
      rw [List.filter_cons_of_pos (by simp [keyed]), all]
      refine ⟨g.members.length :: ns, .cons (number g List.mem_cons_self) numbers, ?_⟩
      rw [List.sum_cons, ← sum, Int.natCast_add]
    · have none : g.members.filter (·.key coarse = k) = [] := by
        rw [List.filter_eq_nil_iff]
        intro m hm
        simp [← same m hm, keyed]
      rw [List.filter_cons_of_neg (by simp [keyed]), none]
      exact ⟨ns, numbers, by simpa using sum⟩

end Dividing

/-! ### Grouping by fewer columns -/

section Regrouping

variable {q : Query} {x y : String} {figure : Binary64 → List Binary64 → Value}
  {coarse : List String}

theorem Normal.regroup (normal : q.Normal) (condenses : q.aggregation ≠ .raw)
    (taken : ∀ column ∈ coarse, column ∈ q.groupBy) {filters : List Predicate}
    (h : ∀ p ∈ filters, p.Normal) : ({ q with groupBy := coarse, filters := filters }).Normal :=
  { normal with
    groupBy := fun column hc => normal.groupBy column (taken column hc)
    filters := h
    raw := fun raw => absurd raw condenses }

theorem Draws.regroup (draws : q.Draws x y figure) (nonempty : coarse ≠ [])
    (filters : List Predicate) :
    ({ q with groupBy := coarse, filters := filters }).Draws x y figure := by
  have keyColumns : ({ q with groupBy := coarse, filters := filters }).keyColumns = coarse :=
    keyColumns_of_grouped nonempty
  refine { draws with keyColumns := keyColumns.trans ?_ }
  obtain ⟨first, rest, rfl⟩ := List.exists_cons_of_ne_nil nonempty
  rfl

/-- Apart from its figure a row tells nothing of its group but what the first member shows in the
columns to group by. -/
theorem get?_groupRow_of_carries (nonempty : q.groupBy ≠ []) {columns : List String}
    (taken : ∀ column ∈ q.groupBy, column ∈ columns) {g h : Group (List String) Row}
    (carries : Row.Carries columns g.first h.first) {column : String} (other : column ≠ y) :
    (q.groupRow ⟨x, y, id⟩ (q.groupBy.headD x) figure g).get? column =
      (q.groupRow ⟨x, y, id⟩ (q.groupBy.headD x) figure h).get? column := by
  have head : q.groupBy.headD x ∈ q.groupBy := by
    obtain ⟨first, rest, same⟩ := List.exists_cons_of_ne_nil nonempty
    rw [same]
    exact List.mem_cons_self
  rw [get?_groupRow other, get?_groupRow other]
  by_cases grouped : column ∈ q.groupBy
  · rw [if_pos grouped, if_pos grouped, carries.keyValue_eq (taken column grouped)]
  · rw [if_neg grouped, if_neg grouped, carries.keyValue_eq (taken _ head)]

variable {rows : List Row} {groups : List (Group (List String) Row)}
  {shown : Group (List String) Row → Row}

/-- The row of a coarse group, made of the rows that are shown for its parts or made of all its
members. -/
theorem Divides.sameButNumber (divides : q.Divides x y rows groups shown)
    (draws : q.Draws x y figure)
    (right : ∀ z zs, (∀ w ∈ z :: zs, w.isFinite) → q.aggregation.IsFigure (z :: zs) (figure z zs))
    (unkeyed : y ∉ q.groupBy) (taken : ∀ column ∈ coarse, column ∈ q.groupBy)
    (nonempty : coarse ≠ []) (picks : q.aggregation = .min ∨ q.aggregation = .max) {m r : Row}
    (hm : m ∈ Group.firsts (Row.key coarse) rows)
    (hr : r ∈ Group.firsts (Row.key coarse) (groups.map shown))
    (carries : Row.Carries q.groupBy m r) (same : m.key coarse = r.key coarse) :
    Row.SameButNumber y (({ q with groupBy := coarse }).rowOf x y figure rows m)
      (({ q with groupBy := coarse }).rowOf x y figure (groups.map shown) r) := by
  let wide : Query := { q with groupBy := coarse }
  have wideDraws : wide.Draws x y figure := draws.regroup nonempty q.filters
  have keys : wide.keyColumns = coarse := keyColumns_of_grouped nonempty
  refine ⟨columns_groupRow.trans columns_groupRow.symm, ?_, ?_⟩
  · intro column other
    exact get?_groupRow_of_carries nonempty taken carries other
  · obtain ⟨w, rolledHeld, rolled⟩ := wideDraws.yAxis_rowOf right (keys.symm ▸ hr)
    obtain ⟨v, directHeld, direct⟩ := wideDraws.yAxis_rowOf right (keys.symm ▸ hm)
    rw [keys] at rolled direct
    rw [← same] at rolled
    obtain ⟨a, b, rfl, rfl, equal⟩ := divides.numEq_of_figures unkeyed taken picks direct rolled
    exact ⟨a, b, directHeld, rolledHeld, equal⟩

/-- The count of a coarse group is the sum of the counts that are shown for its parts. -/
theorem Divides.count_rowOf (divides : q.Divides x y rows groups shown) (draws : q.Draws x y figure)
    (right : ∀ z zs, (∀ w ∈ z :: zs, w.isFinite) → q.aggregation.IsFigure (z :: zs) (figure z zs))
    (unkeyed : y ∉ q.groupBy) (taken : ∀ column ∈ coarse, column ∈ q.groupBy)
    (nonempty : coarse ≠ []) (counts : q.aggregation = .count) {m : Row}
    (hm : m ∈ Group.firsts (Row.key coarse) rows) :
    let row := ({ q with groupBy := coarse }).rowOf x y figure rows m
    ∃ ns : List Int, List.Forall₂ (fun r n => r.get? y = some (.int n))
      ((groups.map shown).filter (·.key coarse = row.key coarse)) ns ∧
      row.get? y = some (.int ns.sum) := by
  intro row
  let wide : Query := { q with groupBy := coarse }
  have wideDraws : wide.Draws x y figure := draws.regroup nonempty q.filters
  have keys : wide.keyColumns = coarse := keyColumns_of_grouped nonempty
  have carries : Row.Carries coarse m row := by
    intro column hc
    have other : column ≠ y := by
      intro yAxis
      exact unkeyed (yAxis ▸ taken column hc)
    exact wideDraws.get?_rowOf (keys.symm ▸ hc) other rows m
  have key : row.key coarse = m.key coarse := carries.key_eq fun _ hc => hc
  obtain ⟨ns, numbers, sum⟩ := divides.exists_counts unkeyed taken counts (m.key coarse)
  obtain ⟨v, held, figured⟩ := wideDraws.yAxis_rowOf right (keys.symm ▸ hm)
  have counts' : wide.aggregation = .count := counts
  rw [counts', keys] at figured
  rw [key]
  refine ⟨ns, numbers, held.trans ?_⟩
  rw [figured, List.length_map, sum]

end Regrouping

/-- Least and greatest numbers and counts may be taken of parts first, by more columns, and then of
what is shown for the parts, by fewer. -/
theorem evaluate_roll_up {wire : Value} {q : Query} (accepted : ofValue wire = .ok q)
    (grouped : q.groupBy ≠ []) (unkeyed : ∀ y ∈ q.yAxis, y ∉ q.groupBy) {coarse : List String}
    (nonempty : coarse ≠ []) (taken : ∀ column ∈ coarse, column ∈ q.groupBy)
    (shards : List (List Row)) (id : Value) :
    ∃ y fine rolled direct, q.yAxis = some y ∧
      (shards.mapM fun rows => evaluate (some rows) wire id) = .ok fine ∧
      evaluate (some fine.flatten) ({ q with groupBy := coarse, filters := [] }).toValue id =
        .ok rolled ∧
      evaluate (some shards.flatten) ({ q with groupBy := coarse }).toValue id = .ok direct ∧
      (q.aggregation = .min ∨ q.aggregation = .max →
        List.Forall₂ (Row.SameButNumber y) direct rolled) ∧
      (q.aggregation = .count → ∀ row ∈ direct, ∃ counts : List Int,
        List.Forall₂ (fun r n => r.get? y = some (.int n))
          (fine.flatten.filter (·.key coarse = row.key coarse)) counts ∧
        row.get? y = some (.int counts.sum)) := by
  have normal := normal_of_ofValue accepted
  have condenses : q.aggregation ≠ .raw := fun raw => grouped (normal.raw raw)
  obtain ⟨x, y, figure, draws, right⟩ := normal.draws condenses
  have unkeyed : y ∉ q.groupBy := unkeyed y draws.yAxis
  obtain ⟨fine, groups, shown, computed, flat, divides⟩ := draws.divides right grouped shards
  let rows := filterRows shards.flatten q.filters
  let wide : Query := { q with groupBy := coarse }
  let again : Query := { q with groupBy := coarse, filters := [] }
  have wideNormal : wide.Normal := normal.regroup condenses taken normal.filters
  have againNormal : again.Normal := normal.regroup condenses taken (by simp)
  have wideKeys : wide.keyColumns = coarse := keyColumns_of_grouped nonempty
  have againKeys : again.keyColumns = coarse := keyColumns_of_grouped nonempty
  have wideRun : wide.run shards.flatten =
      .ok ((Group.firsts (Row.key coarse) rows).map (wide.rowOf x y figure rows)) := by
    rw [(draws.regroup nonempty q.filters).run_eq_map_firsts, wideKeys]
  have againRun : again.run fine.flatten =
      .ok ((Group.firsts (Row.key coarse) (groups.map shown)).map
        (wide.rowOf x y figure (groups.map shown))) := by
    have unfiltered : filterRows (groups.map shown) [] = groups.map shown := List.filter_true _
    rw [(draws.regroup nonempty []).run_eq_map_firsts, againKeys, flat, unfiltered]
    rfl
  refine ⟨y, fine, _, _, draws.yAxis, ?_, (evaluate_toValue againNormal _ id).trans againRun,
    (evaluate_toValue wideNormal _ id).trans wideRun, ?_, ?_⟩
  · have each : (fun rows => evaluate (some rows) wire id) = fun rows => q.run rows := by
      funext rows
      exact evaluate_of_accepted accepted rows id
    rw [each, computed]
  · intro picks
    obtain ⟨length, related⟩ := List.forall₂_iff_zip.1 (divides.forall₂_firsts unkeyed taken)
    rw [List.forall₂_map_left_iff, List.forall₂_map_right_iff]
    refine List.forall₂_iff_zip.2 ⟨length, ?_⟩
    intro m r paired
    obtain ⟨hm, hr⟩ := List.of_mem_zip paired
    obtain ⟨carries, same⟩ := related paired
    exact divides.sameButNumber draws right unkeyed taken nonempty picks hm hr carries same
  · intro counts row hrow
    obtain ⟨m, hm, rfl⟩ := List.mem_map.1 hrow
    rw [flat]
    exact divides.count_rowOf draws right unkeyed taken nonempty counts hm

/-- Least numbers of two parts with absent and mixed keys, where zero comes with both signs. -/
theorem evaluate_roll_up_two_parts :
    let q : Query :=
      { xAxis := some "l", yAxis := some "v", aggregation := .min, groupBy := ["k", "l"],
        filters := [⟨"v", .neq, "x"⟩] }
    let coarse := ["k"]
    let shards : List (List Row) :=
      [ [ .ofEntries [("k", .int 1), ("l", .str "a"), ("v", .float (.signedZero true))],
          .ofEntries [("l", .bool true), ("v", .str "7")],
          .ofEntries [("k", .int 2), ("v", .str "x")] ],
        [ .ofEntries [("k", .str "1"), ("l", .str "b"), ("v", .int 0)],
          .ofEntries [("k", .str ""), ("v", .int 3)] ] ]
    ofValue q.toValue = .ok q ∧ q.groupBy ≠ [] ∧ (∀ y ∈ q.yAxis, y ∉ q.groupBy) ∧ coarse ≠ [] ∧
      (∀ column ∈ coarse, column ∈ q.groupBy) ∧
      ∃ y fine rolled direct, q.yAxis = some y ∧
        (shards.mapM fun rows => evaluate (some rows) q.toValue .null) = .ok fine ∧
        evaluate (some fine.flatten) ({ q with groupBy := coarse, filters := [] }).toValue .null =
          .ok rolled ∧
        evaluate (some shards.flatten) ({ q with groupBy := coarse }).toValue .null = .ok direct ∧
        List.Forall₂ (Row.SameButNumber y) direct rolled := by
  intro q coarse shards
  have accepted : ofValue q.toValue = .ok q := by decide +kernel
  have grouped : q.groupBy ≠ [] := by decide
  have unkeyed : ∀ y ∈ q.yAxis, y ∉ q.groupBy := by decide
  have nonempty : coarse ≠ [] := by decide
  have taken : ∀ column ∈ coarse, column ∈ q.groupBy := by decide
  obtain ⟨y, fine, rolled, direct, yAxis, parts, again, whole, best, -⟩ :=
    evaluate_roll_up accepted grouped unkeyed nonempty taken shards .null
  exact ⟨accepted, grouped, unkeyed, nonempty, taken, y, fine, rolled, direct, yAxis, parts, again,
    whole, best (.inl rfl)⟩

end Query

end Tabulate
