/-!
# Blank characters and trimming

Two classes of blank characters are in use. `isSpace` is Unicode's property `White_Space`; `isBlank`
adds the four ASCII separators `U+001C` to `U+001F`. Column names, filter values and dataset names
are trimmed of the larger class; integer literals and request bodies only of the smaller one.
-/

namespace Tabulate

/-- The twenty-five characters with Unicode's property `White_Space`. -/
def isSpace (c : Char) : Bool :=
  let n := c.toNat
  (9 ≤ n && n ≤ 13) || n == 0x20 || n == 0x85 || n == 0xa0 || n == 0x1680 ||
    (0x2000 ≤ n && n ≤ 0x200a) || n == 0x2028 || n == 0x2029 || n == 0x202f ||
    n == 0x205f || n == 0x3000

/-- A space or one of the separators of files, groups, records and units. -/
def isBlank (c : Char) : Bool := isSpace c || (0x1c ≤ c.toNat && c.toNat ≤ 0x1f)

/-- `cs` without the members of `p` at its two ends. -/
def trim (p : Char → Bool) (cs : List Char) : List Char :=
  ((cs.dropWhile p).reverse.dropWhile p).reverse

/-- `s` without the blanks at its two ends. -/
def strip (s : String) : String := String.ofList (trim isBlank s.toList)

/-- A text neither end of which is a member of `p` is trimmed already. -/
theorem trim_eq_self {p : Char → Bool} {cs : List Char} (front : ∀ c ∈ cs.head?, p c = false)
    (back : ∀ c ∈ cs.getLast?, p c = false) : trim p cs = cs := by
  have front' : cs.dropWhile p = cs := by
    cases cs with
    | nil => rfl
    | cons c rest => rw [List.dropWhile_cons_of_neg (by simp [front c rfl])]
  have back' : cs.reverse.dropWhile p = cs.reverse := by
    cases reversed : cs.reverse with
    | nil => rfl
    | cons c rest =>
      have last : c ∈ cs.getLast? := by rw [← List.head?_reverse, reversed]; rfl
      rw [List.dropWhile_cons_of_neg (by simp [back c last])]
  rw [trim, front', back', List.reverse_reverse]

/-- Neither end of a trimmed text is a member of `p`. -/
theorem trim_ends (p : Char → Bool) (cs : List Char) :
    (∀ c ∈ (trim p cs).head?, p c = false) ∧ ∀ c ∈ (trim p cs).getLast?, p c = false := by
  have dropped (ds : List Char) : ∀ c ∈ (ds.dropWhile p).head?, p c = false := by
    intro c hc
    have := List.head?_dropWhile_not p ds
    rwa [Option.mem_def.1 hc] at this
  constructor
  · intro c hc
    obtain ⟨removed, whole⟩ : trim p cs <+: cs.dropWhile p := by
      rw [trim, ← List.reverse_suffix, List.reverse_reverse]
      exact List.dropWhile_suffix p
    refine dropped cs c ?_
    rw [← whole, List.head?_append, Option.mem_def.1 hc]
    rfl
  · intro c hc
    rw [trim, List.getLast?_reverse] at hc
    exact dropped _ c hc

theorem trim_trim (p : Char → Bool) (cs : List Char) : trim p (trim p cs) = trim p cs :=
  trim_eq_self (trim_ends p cs).1 (trim_ends p cs).2

theorem strip_strip (s : String) : strip (strip s) = strip s := by
  simp [strip, trim_trim]

end Tabulate
