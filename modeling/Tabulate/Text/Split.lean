/-!
# Splitting a text at a mark
-/

namespace Tabulate

/-- The parts of a text between the marks in it. There is one part more than there are marks. -/
def splitOn (mark : Char) : List Char → List (List Char)
  | [] => [[]]
  | c :: rest =>
    if c = mark then [] :: splitOn mark rest
    else
      match splitOn mark rest with
      | [] => [[c]]
      | part :: parts => (c :: part) :: parts

theorem splitOn_ne_nil (mark : Char) (cs : List Char) : splitOn mark cs ≠ [] := by
  induction cs with
  | nil => simp [splitOn]
  | cons c rest ih =>
    unfold splitOn
    split
    · simp
    · split <;> simp

/-- The parts with the mark between them are the text again. -/
theorem intercalate_splitOn (mark : Char) (cs : List Char) :
    [mark].intercalate (splitOn mark cs) = cs := by
  induction cs with
  | nil => rfl
  | cons c rest ih =>
    unfold splitOn
    split
    · rename_i h
      subst h
      cases parts : splitOn c rest with
      | nil => exact absurd parts (splitOn_ne_nil c rest)
      | cons part more => rw [← ih, parts]; simp [List.intercalate]
    · split
      · rename_i none_
        exact absurd none_ (splitOn_ne_nil mark rest)
      · rename_i part more parts
        rw [← ih, parts]
        cases more <;> simp [List.intercalate]

end Tabulate
