/-!
# Grouping

A list is split into groups of equal key. The groups stand in the order in which their keys first
occur, and the members of a group in the order of the list: `membersOf_ofList` says that they are
the elements with the group's key.
-/

namespace Tabulate

/-- The members of a list that have one key: the first of them and the others, in order. -/
structure Group (κ α : Type) where
  key : κ
  first : α
  others : List α

namespace Group

variable {κ α : Type} [DecidableEq κ]

/-- All members of a group. -/
def members (g : Group κ α) : List α := g.first :: g.others

/-- The members of the group with a key, none if there is no such group. -/
def membersOf (key : κ) (groups : List (Group κ α)) : List α :=
  match groups.find? (·.key = key) with
  | some g => g.members
  | none => []

/-- The groups of a list. The group of the first element stands first; later elements of its key
join it. -/
def ofList (key : α → κ) : List α → List (Group κ α)
  | [] => []
  | a :: rest =>
    let groups := ofList key rest
    ⟨key a, a, membersOf (key a) groups⟩ :: groups.filter (·.key ≠ key a)

theorem membersOf_cons (key : κ) (g : Group κ α) (groups : List (Group κ α)) :
    membersOf key (g :: groups) = if g.key = key then g.members else membersOf key groups := by
  by_cases h : g.key = key <;> simp [membersOf, h]

/-- Leaving out the group of another key leaves the members of a key as they are. -/
theorem membersOf_filter {key other : κ} (h : key ≠ other) (groups : List (Group κ α)) :
    membersOf key (groups.filter (·.key ≠ other)) = membersOf key groups := by
  induction groups with
  | nil => rfl
  | cons g rest ih =>
    by_cases hg : g.key = other
    · rw [List.filter_cons_of_neg (by simp [hg]), ih, membersOf_cons, if_neg (hg ▸ Ne.symm h)]
    · rw [List.filter_cons_of_pos (by simp [hg]), membersOf_cons, membersOf_cons, ih]

/-- The members of the group of a key are the elements with that key, in the order of the list. -/
theorem membersOf_ofList (key : α → κ) (k : κ) (as : List α) :
    membersOf k (ofList key as) = as.filter (key · = k) := by
  induction as with
  | nil => rfl
  | cons a rest ih =>
    rw [ofList, membersOf_cons]
    by_cases h : key a = k
    · rw [if_pos h, List.filter_cons_of_pos (by simp [h]), h, members, ih]
    · rw [if_neg h, List.filter_cons_of_neg (by simp [h]), membersOf_filter (Ne.symm h), ih]

end Group

end Tabulate
