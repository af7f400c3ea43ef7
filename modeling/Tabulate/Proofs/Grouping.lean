import Mathlib.Data.List.Basic
import Mathlib.Data.List.Forall2
import Tabulate.Grouping

/-!
# First members of groups

A group is known by its first member: the others are the later elements with the same key. So
grouping is a matter of first members, and these behave well when the list is filtered, when lists
are put one after another, and when groups are put together to larger ones.
-/

namespace Tabulate.Group

variable {κ α : Type} [DecidableEq κ]

/-- The key of a group is that of its first member. -/
theorem key_first {key : α → κ} {as : List α} {g : Group κ α} (h : g ∈ ofList key as) :
    key g.first = g.key := by
  induction as generalizing g with
  | nil => cases h
  | cons a rest ih =>
    rcases List.mem_cons.1 h with rfl | h
    · rfl
    · exact ih (List.mem_filter.1 h).1

/-- The members of a group are the elements with its key. -/
theorem members_eq_filter {key : α → κ} {as : List α} {g : Group κ α} (h : g ∈ ofList key as) :
    g.members = as.filter (key · = g.key) := by
  induction as generalizing g with
  | nil => cases h
  | cons a rest ih =>
    rcases List.mem_cons.1 h with rfl | h
    · rw [List.filter_cons_of_pos (by simp), members, membersOf_ofList]
    · obtain ⟨h, other⟩ := List.mem_filter.1 h
      have other : g.key ≠ key a := by simpa using other
      rw [List.filter_cons_of_neg (by simpa using Ne.symm other), ih h]

/-- The first members of the groups of a list. -/
def firsts (key : α → κ) (as : List α) : List α := (ofList key as).map first

@[simp] theorem firsts_nil (key : α → κ) : firsts key [] = [] := rfl

theorem firsts_cons (key : α → κ) (a : α) (rest : List α) :
    firsts key (a :: rest) = a :: (firsts key rest).filter (key · ≠ key a) := by
  rw [firsts, ofList, List.map_cons, firsts, List.filter_map]
  congr 2
  apply List.filter_congr
  intro g hg
  simp [key_first hg]

/-- The group around its first member: the later elements with the same key are its other
members. -/
def around (key : α → κ) (as : List α) (a : α) : Group κ α :=
  ⟨key a, a, (as.filter (key · = key a)).tail⟩

theorem ofList_eq_map_firsts (key : α → κ) (as : List α) :
    ofList key as = (firsts key as).map (around key as) := by
  rw [firsts, List.map_map]
  conv => lhs; rw [← List.map_id (ofList key as)]
  apply List.map_congr_left
  intro g hg
  have same : as.filter (key · = g.key) = g.first :: g.others := by
    rw [← members_eq_filter hg, members]
  simp only [id, Function.comp, around, key_first hg, same, List.tail_cons]

/-- A first member stands at the front of the elements with its key. -/
theorem filter_of_mem_firsts {key : α → κ} {as : List α} {a : α} (h : a ∈ firsts key as) :
    as.filter (key · = key a) = a :: (around key as a).others := by
  obtain ⟨g, hg, rfl⟩ := List.mem_map.1 h
  have same := members_eq_filter hg
  rw [← key_first hg, members] at same
  rw [around, ← same, List.tail_cons]

theorem mem_of_mem_firsts {key : α → κ} {as : List α} {a : α} (h : a ∈ firsts key as) : a ∈ as := by
  have : a ∈ as.filter (key · = key a) := by
    rw [filter_of_mem_firsts h]
    exact List.mem_cons_self
  exact (List.mem_filter.1 this).1

/-- Every element has its key from a first member. -/
theorem exists_mem_firsts {key : α → κ} {as : List α} {a : α} (h : a ∈ as) :
    ∃ b ∈ firsts key as, key b = key a := by
  induction as with
  | nil => cases h
  | cons c rest ih =>
    rw [firsts_cons]
    by_cases same : key a = key c
    · exact ⟨c, List.mem_cons_self, same.symm⟩
    · rcases List.mem_cons.1 h with rfl | h
      · exact absurd rfl same
      · obtain ⟨b, hb, keyed⟩ := ih h
        refine ⟨b, List.mem_cons_of_mem _ (List.mem_filter.2 ⟨hb, ?_⟩), keyed⟩
        simpa [keyed] using same

/-- The keys of the groups are the keys that occur. -/
theorem mem_map_firsts {key : α → κ} {as : List α} {k : κ} :
    k ∈ (firsts key as).map key ↔ ∃ a ∈ as, key a = k := by
  constructor
  · intro h
    obtain ⟨a, ha, keyed⟩ := List.mem_map.1 h
    exact ⟨a, mem_of_mem_firsts ha, keyed⟩
  · rintro ⟨a, ha, rfl⟩
    exact List.mem_map.2 (exists_mem_firsts ha)

/-- The groups stand in the order in which their keys first occur. -/
theorem pairwise_firsts [BEq κ] [LawfulBEq κ] (key : α → κ) (as : List α) :
    ((firsts key as).map key).Pairwise fun k l => (as.map key).idxOf k < (as.map key).idxOf l := by
  induction as with
  | nil => exact List.Pairwise.nil
  | cons a rest ih =>
    have later : ∀ k ∈ ((firsts key rest).filter (key · ≠ key a)).map key, k ≠ key a := by
      intro k hk
      obtain ⟨b, hb, rfl⟩ := List.mem_map.1 hk
      simpa using (List.mem_filter.1 hb).2
    rw [firsts_cons, List.map_cons, List.map_cons, List.pairwise_cons]
    constructor
    · intro k hk
      rw [List.idxOf_cons_self, List.idxOf_cons_ne _ (Ne.symm (later k hk))]
      exact Nat.succ_pos _
    · have sub : (((firsts key rest).filter (key · ≠ key a)).map key).Pairwise
          fun k l => (rest.map key).idxOf k < (rest.map key).idxOf l :=
        ih.sublist (List.filter_sublist.map key)
      refine List.Pairwise.imp_of_mem ?_ sub
      intro k l hk hl before
      rw [List.idxOf_cons_ne _ (Ne.symm (later k hk)), List.idxOf_cons_ne _ (Ne.symm (later l hl))]
      exact Nat.succ_lt_succ before

/-- No two groups have the same key. -/
theorem nodup_map_firsts [BEq κ] [LawfulBEq κ] (key : α → κ) (as : List α) :
    ((firsts key as).map key).Nodup := by
  refine (pairwise_firsts key as).imp ?_
  rintro k _ earlier rfl
  exact Nat.lt_irrefl _ earlier

/-- Filtering by something that is the same for equal keys keeps or drops whole groups. -/
theorem firsts_filter {key : α → κ} {keep : α → Bool} {as : List α}
    (whole : ∀ a ∈ as, ∀ b ∈ as, key a = key b → keep a = keep b) :
    firsts key (as.filter keep) = (firsts key as).filter keep := by
  induction as with
  | nil => rfl
  | cons a rest ih =>
    have ih := ih fun b hb c hc => whole b (List.mem_cons_of_mem _ hb) c (List.mem_cons_of_mem _ hc)
    by_cases kept : keep a
    · rw [List.filter_cons_of_pos kept, firsts_cons, firsts_cons, List.filter_cons_of_pos kept, ih,
        List.filter_filter, List.filter_filter]
      simp only [Bool.and_comm]
    · rw [List.filter_cons_of_neg kept, firsts_cons, List.filter_cons_of_neg kept,
        ih, List.filter_filter]
      apply List.filter_congr
      intro b hb
      have same := whole a List.mem_cons_self b (List.mem_cons_of_mem _ (mem_of_mem_firsts hb))
      cases keptB : keep b with
      | false => rfl
      | true =>
        have : key b ≠ key a := fun keyed => kept ((same keyed.symm).trans keptB)
        simp [this]

/-- Without the elements of one key a list has the other groups. -/
theorem firsts_filter_ne (key : α → κ) (k : κ) (as : List α) :
    firsts key (as.filter (key · ≠ k)) = (firsts key as).filter (key · ≠ k) :=
  firsts_filter fun _ _ _ _ same => by simp [same]

/-- The keys of the groups are the keys of the elements, each in its first place. -/
theorem map_firsts [BEq κ] [LawfulBEq κ] (key : α → κ) (as : List α) :
    (firsts key as).map key = (as.map key).eraseDups := by
  induction len : as.length using Nat.strongRecOn generalizing as with
  | ind n ih =>
    cases as with
    | nil => rfl
    | cons a rest =>
      have fewer : (rest.filter (key · ≠ key a)).length < n := by
        rw [← len, List.length_cons]
        exact Nat.lt_succ_of_le (List.length_filter_le _ _)
      rw [firsts_cons, ← firsts_filter_ne, List.map_cons, ih _ fewer _ rfl, List.map_cons,
        List.eraseDups_cons, List.filter_map]
      congr 3
      apply List.filter_congr
      intro b _
      by_cases keyed : key b = key a <;> simp [keyed]

/-- The group around an element that is kept stays as it is. -/
theorem around_filter {key : α → κ} {keep : α → Bool} {as : List α} {a : α}
    (whole : ∀ b ∈ as, key b = key a → keep b = true) :
    around key (as.filter keep) a = around key as a := by
  have same : (as.filter keep).filter (key · = key a) = as.filter (key · = key a) := by
    rw [List.filter_filter]
    apply List.filter_congr
    intro b hb
    by_cases keyed : key b = key a
    · simp [keyed, whole b hb keyed]
    · simp [keyed]
  rw [around, around, same]

/-- The first members of two lists one after the other: those of the first, and those of the second
whose keys the first does not have. -/
theorem firsts_append (key : α → κ) (as bs : List α) :
    firsts key (as ++ bs) =
      firsts key as ++ (firsts key bs).filter fun b => decide (key b ∉ as.map key) := by
  induction as with
  | nil => simp
  | cons a rest ih =>
    rw [List.cons_append, firsts_cons, firsts_cons, ih, List.filter_append,
      List.filter_filter, List.cons_append]
    congr 2
    apply List.filter_congr
    intro b _
    by_cases keyed : key b = key a <;> simp [keyed]

/-- Grouping by a coarser key needs the first members of the finer groups only. -/
theorem firsts_firsts {μ : Type} [DecidableEq μ] {fine : α → κ} {coarse : α → μ}
    (coarser : ∀ a b, fine a = fine b → coarse a = coarse b) (as : List α) :
    firsts coarse (firsts fine as) = firsts coarse as := by
  induction as with
  | nil => rfl
  | cons a rest ih =>
    have dropped : ((firsts fine rest).filter (fine · ≠ fine a)).filter (coarse · ≠ coarse a) =
        (firsts fine rest).filter (coarse · ≠ coarse a) := by
      rw [List.filter_filter]
      apply List.filter_congr
      intro b _
      by_cases keyed : fine b = fine a
      · simp [coarser b a keyed]
      · simp [keyed]
    rw [firsts_cons, firsts_cons, firsts_cons, ← firsts_filter_ne, dropped, firsts_filter_ne, ih]

/-- Grouping by a coarser key needs the first members of the finer groups of any parts of a list
only. -/
theorem firsts_flatten_firsts {μ : Type} [DecidableEq μ] {fine : α → κ} {coarse : α → μ}
    (coarser : ∀ a b, fine a = fine b → coarse a = coarse b) (parts : List (List α)) :
    firsts coarse (parts.map (firsts fine)).flatten = firsts coarse parts.flatten := by
  induction parts with
  | nil => rfl
  | cons as rest ih =>
    rw [List.map_cons, List.flatten_cons, List.flatten_cons, firsts_append, firsts_append,
      firsts_firsts coarser, ih]
    congr 1
    apply List.filter_congr
    intro b _
    have occurs : coarse b ∈ (firsts fine as).map coarse ↔ coarse b ∈ as.map coarse := by
      simp only [List.mem_map]
      constructor
      · rintro ⟨a, ha, same⟩
        exact ⟨a, mem_of_mem_firsts ha, same⟩
      · rintro ⟨a, ha, same⟩
        obtain ⟨c, hc, keyed⟩ : ∃ c ∈ firsts fine as, fine c = fine a := exists_mem_firsts ha
        exact ⟨c, hc, (coarser c a keyed).trans same⟩
    simp only [occurs]

section Correspondence

variable {β : Type} {R : α → β → Prop} {key : α → κ} {key' : β → κ} {as : List α} {bs : List β}

omit [DecidableEq κ] in
theorem forall₂_filter_key (h : List.Forall₂ (fun a b => R a b ∧ key a = key' b) as bs)
    (keep : κ → Bool) :
    List.Forall₂ (fun a b => R a b ∧ key a = key' b) (as.filter (keep <| key ·))
      (bs.filter (keep <| key' ·)) := by
  induction h with
  | nil => exact .nil
  | @cons a b as bs related _ ih =>
    by_cases kept : keep (key a)
    · have kept' : keep (key' b) := related.2 ▸ kept
      rw [List.filter_cons_of_pos (by exact kept), List.filter_cons_of_pos (by exact kept')]
      exact .cons related ih
    · have dropped' : ¬keep (key' b) := related.2 ▸ kept
      rw [List.filter_cons_of_neg (by exact kept), List.filter_cons_of_neg (by exact dropped')]
      exact ih

/-- Lists that correspond element by element, also in the keys, have first members that
correspond. -/
theorem forall₂_firsts (h : List.Forall₂ (fun a b => R a b ∧ key a = key' b) as bs) :
    List.Forall₂ (fun a b => R a b ∧ key a = key' b) (firsts key as) (firsts key' bs) := by
  induction h with
  | nil => exact .nil
  | @cons a b as bs related _ ih =>
    rw [firsts_cons, firsts_cons, ← related.2]
    exact .cons related (forall₂_filter_key ih (· ≠ key a))

end Correspondence

/-! ### All members -/

theorem key_of_mem_members {key : α → κ} {as : List α} {g : Group κ α} (h : g ∈ ofList key as)
    {b : α} (hb : b ∈ g.members) : key b = g.key := by
  rw [members_eq_filter h] at hb
  simpa using (List.mem_filter.1 hb).2

theorem flatten_members_filter {key : α → κ} {groups : List (Group κ α)}
    (keys : ∀ g ∈ groups, ∀ b ∈ g.members, key b = g.key) (k : κ) :
    ((groups.filter (·.key ≠ k)).map members).flatten =
      ((groups.map members).flatten).filter (key · ≠ k) := by
  induction groups with
  | nil => rfl
  | cons g groups ih =>
    have ih := ih fun h hh => keys h (List.mem_cons_of_mem _ hh)
    have same := keys g List.mem_cons_self
    rw [List.map_cons, List.flatten_cons, List.filter_append, ← ih]
    by_cases dropped : g.key = k
    · have none : g.members.filter (key · ≠ k) = [] := by
        rw [List.filter_eq_nil_iff]
        intro b hb
        simp [same b hb, dropped]
      rw [List.filter_cons_of_neg (by simp [dropped]), none, List.nil_append]
    · have all : g.members.filter (key · ≠ k) = g.members := by
        rw [List.filter_eq_self]
        intro b hb
        simp [same b hb, dropped]
      rw [List.filter_cons_of_pos (by simp [dropped]), all, List.map_cons, List.flatten_cons]

/-- The groups of a list divide its elements up. -/
theorem flatten_members_perm (key : α → κ) (as : List α) :
    ((ofList key as).map members).flatten.Perm as := by
  induction as with
  | nil => exact .nil
  | cons a rest ih =>
    have keys : ∀ g ∈ ofList key rest, ∀ b ∈ g.members, key b = g.key :=
      fun g hg b hb => key_of_mem_members hg hb
    have others := flatten_members_filter keys (key a)
    have divided : (rest.filter (key · = key a) ++ rest.filter (key · ≠ key a)).Perm rest := by
      simpa using List.filter_append_perm (key · = key a) rest
    rw [ofList, List.map_cons, List.flatten_cons, members, membersOf_ofList,
      others, List.cons_append]
    exact List.Perm.cons a (((ih.filter _).append_left _).trans divided)

theorem flatten_members_flatten_perm (key : α → κ) (parts : List (List α)) :
    ((parts.map (ofList key)).flatten.map members).flatten.Perm parts.flatten := by
  induction parts with
  | nil => exact .nil
  | cons as rest ih =>
    rw [List.map_cons, List.flatten_cons, List.map_append, List.flatten_append, List.flatten_cons]
    exact (flatten_members_perm key as).append ih

end Tabulate.Group
