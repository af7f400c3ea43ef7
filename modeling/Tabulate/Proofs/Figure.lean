import Mathlib.Data.List.Induction
import Tabulate.Aggregate
import Tabulate.Proofs.Scalar

/-!
# The figures of groups

What each aggregation makes of the numbers of a group. The numbers of cells are finite, so they are
in order; the least and the greatest of them are the first among equals.
-/

namespace Tabulate

namespace Binary64

/-! ### The order of numbers -/

/-- The place of a number in the order of numbers; not-a-number has none and is put at zero. -/
def place (x : Binary64) : Int := x.rank.getD 0

theorem rank_of_isFinite {x : Binary64} (h : x.isFinite) : x.rank = some x.place := by
  cases x with
  | nan => cases h
  | infinite negative => cases h
  | finite negative units representable => rfl

theorem isNaN_of_isFinite {x : Binary64} (h : x.isFinite) : x.isNaN = false := by
  cases x with
  | nan => cases h
  | infinite negative => rfl
  | finite negative units representable => rfl

theorem lt_iff_place {x y : Binary64} (hx : x.isFinite) (hy : y.isFinite) :
    x.lt y ↔ x.place < y.place := by
  simp [lt, rank_of_isFinite hx, rank_of_isFinite hy]

theorem numEq_iff_place {x y : Binary64} (hx : x.isFinite) (hy : y.isFinite) :
    x.numEq y ↔ x.place = y.place := by
  simp [numEq, rank_of_isFinite hx, rank_of_isFinite hy]

/-! ### The best of numbers -/

/-- `m` is the first of the best of `xs`: it is better than the numbers before it, and none after it
is better. -/
def FirstBest (better : Binary64 → Binary64 → Bool) (m : Binary64) (xs : List Binary64) : Prop :=
  ∃ before after, xs = before ++ m :: after ∧ (∀ x ∈ before, better m x) ∧ ∀ x ∈ after, ¬better x m

theorem FirstBest.mem {better : Binary64 → Binary64 → Bool} {m : Binary64} {xs : List Binary64}
    (h : FirstBest better m xs) : m ∈ xs := by
  obtain ⟨before, after, rfl, -, -⟩ := h
  simp

/-- None of the numbers is better than the best, if `better` goes by a score. -/
theorem FirstBest.score_le {better : Binary64 → Binary64 → Bool} {score : Binary64 → Int}
    {m : Binary64} {xs : List Binary64} (h : FirstBest better m xs)
    (agree : ∀ a ∈ xs, ∀ b ∈ xs, better a b ↔ score a < score b) {x : Binary64} (hx : x ∈ xs) :
    score m ≤ score x := by
  have hm := h.mem
  obtain ⟨before, after, rfl, ahead, behind⟩ := h
  rcases List.mem_append.1 hx with inside | inside
  · exact Int.le_of_lt ((agree m hm x hx).1 (ahead x inside))
  · rcases List.mem_cons.1 inside with rfl | inside
    · exact Int.le_refl _
    · exact Int.not_lt.1 fun lower => behind x inside ((agree x hx m hm).2 lower)

/-- The best of numbers scores as the best of some of them does, if these score as well as any. -/
theorem FirstBest.score_eq {better : Binary64 → Binary64 → Bool} {score : Binary64 → Int}
    {m n : Binary64} {xs ys : List Binary64} (hm : FirstBest better m xs)
    (hn : FirstBest better n ys)
    (agree : ∀ a b, a.isFinite → b.isFinite → (better a b ↔ score a < score b))
    (finite : ∀ x ∈ xs, x.isFinite) (sub : ∀ y ∈ ys, y ∈ xs)
    (reached : ∀ x ∈ xs, ∃ y ∈ ys, score y ≤ score x) : score m = score n := by
  have finite' : ∀ y ∈ ys, y.isFinite := fun y hy => finite y (sub y hy)
  have lower : score m ≤ score n :=
    hm.score_le (fun a ha b hb => agree a b (finite a ha) (finite b hb)) (sub n hn.mem)
  obtain ⟨y, hy, bound⟩ := reached m hm.mem
  have upper : score n ≤ score y :=
    hn.score_le (fun a ha b hb => agree a b (finite' a ha) (finite' b hb)) hy
  omega

/-- Going through numbers and keeping the better one at each step ends with the first best one. -/
theorem firstBest_foldl {better : Binary64 → Binary64 → Bool} (score : Binary64 → Int)
    (x : Binary64) (xs : List Binary64)
    (agree : ∀ a ∈ x :: xs, ∀ b ∈ x :: xs, better a b ↔ score a < score b) :
    FirstBest better (xs.foldl (fun m y => if better y m then y else m) x) (x :: xs) := by
  induction xs using List.reverseRecOn with
  | nil => exact ⟨[], [], rfl, by simp, by simp⟩
  | append_singleton ys y ih =>
    have earlier {a : Binary64} (h : a ∈ x :: ys) : a ∈ x :: (ys ++ [y]) := by
      rw [← List.cons_append]
      exact List.mem_append_left _ h
    have last : y ∈ x :: (ys ++ [y]) := by simp
    have agree' : ∀ a ∈ x :: ys, ∀ b ∈ x :: ys, better a b ↔ score a < score b :=
      fun a ha b hb => agree a (earlier ha) b (earlier hb)
    have best := ih agree'
    rw [List.foldl_append, List.foldl_cons, List.foldl_nil]
    generalize ys.foldl (fun m y => if better y m then y else m) x = m at best ⊢
    by_cases improved : better y m
    · -- the new number is better than the best so far, so than all before it
      rw [if_pos improved]
      refine ⟨x :: ys, [], by simp, ?_, by simp⟩
      intro a ha
      have step : score y < score m := (agree y last m (earlier best.mem)).1 improved
      have bound : score m ≤ score a := best.score_le agree' ha
      exact (agree y last a (earlier ha)).2 (Int.lt_of_lt_of_le step bound)
    · rw [if_neg improved]
      obtain ⟨before, after, split, ahead, behind⟩ := best
      refine ⟨before, after ++ [y], ?_, ahead, ?_⟩
      · rw [← List.cons_append, split, List.append_assoc, List.cons_append]
      · intro a ha
        rcases List.mem_append.1 ha with ha | ha
        · exact behind a ha
        · rwa [List.mem_singleton.1 ha]

theorem firstBest_least {x : Binary64} {xs : List Binary64} (finite : ∀ a ∈ x :: xs, a.isFinite) :
    FirstBest lt (least x xs) (x :: xs) :=
  firstBest_foldl place x xs fun a ha b hb => lt_iff_place (finite a ha) (finite b hb)

theorem firstBest_greatest {x : Binary64} {xs : List Binary64}
    (finite : ∀ a ∈ x :: xs, a.isFinite) :
    FirstBest (fun a b => b.lt a) (greatest x xs) (x :: xs) := by
  apply firstBest_foldl (fun a => -a.place) x xs
  intro a ha b hb
  rw [lt_iff_place (finite b hb) (finite a ha)]
  omega

end Binary64

/-! ### Figures -/

/-- What an aggregation has to make of the numbers of a group: how many they are, their compensated
sum, that divided by their number, or the first of the least or of the greatest of them. -/
def Aggregation.IsFigure : Aggregation → List Binary64 → Value → Prop
  | count, xs, v => v = .int xs.length
  | sum, xs, v => v = .float (.sum xs)
  | avg, xs, v => v = .float ((Binary64.sum xs).divNat xs.length)
  | min, xs, v => ∃ m, v = .float m ∧ Binary64.FirstBest Binary64.lt m xs
  | max, xs, v => ∃ m, v = .float m ∧ Binary64.FirstBest (fun a b => b.lt a) m xs
  | raw, _, _ | other _, _, _ => False

/-- An aggregation that a query may name makes a figure of the numbers of a group. -/
theorem Aggregation.figure?_eq_some {a : Aggregation} (known : a.known) (condenses : a ≠ .raw) :
    ∃ figure, a.figure? = some figure ∧
      ∀ x xs, (∀ y ∈ x :: xs, y.isFinite) → a.IsFigure (x :: xs) (figure x xs) := by
  cases a with
  | raw => exact absurd rfl condenses
  | other name => cases known
  | count =>
    refine ⟨_, rfl, ?_⟩
    intro x xs finite
    have all : (x :: xs).countP (!·.isNaN) = (x :: xs).length :=
      List.countP_eq_length.2 fun y hy => by
        simp [Binary64.isNaN_of_isFinite (finite y hy)]
    simp only [IsFigure, all]
  | sum => exact ⟨_, rfl, fun x xs _ => rfl⟩
  | avg => exact ⟨_, rfl, fun x xs _ => rfl⟩
  | min => exact ⟨_, rfl, fun x xs finite => ⟨_, rfl, Binary64.firstBest_least finite⟩⟩
  | max => exact ⟨_, rfl, fun x xs finite => ⟨_, rfl, Binary64.firstBest_greatest finite⟩⟩

/-- The least and the greatest are best by a score on which only equal numbers agree. -/
theorem Aggregation.exists_score {a : Aggregation} (picks : a = .min ∨ a = .max) :
    ∃ (better : Binary64 → Binary64 → Bool) (score : Binary64 → Int),
      (∀ xs v, a.IsFigure xs v ↔ ∃ m, v = .float m ∧ Binary64.FirstBest better m xs) ∧
      (∀ x y, x.isFinite → y.isFinite → (better x y ↔ score x < score y)) ∧
      ∀ x y, x.isFinite → y.isFinite → score x = score y → x.numEq y := by
  rcases picks with rfl | rfl
  · refine ⟨Binary64.lt, Binary64.place, fun _ _ => Iff.rfl, ?_, ?_⟩
    · intro x y hx hy
      exact Binary64.lt_iff_place hx hy
    · intro x y hx hy same
      exact (Binary64.numEq_iff_place hx hy).2 same
  · refine ⟨fun x y => y.lt x, fun x => -x.place, fun _ _ => Iff.rfl, ?_, ?_⟩
    · intro x y hx hy
      show y.lt x ↔ -x.place < -y.place
      rw [Binary64.lt_iff_place hy hx]
      omega
    · intro x y hx hy same
      have same : -x.place = -y.place := same
      rw [Binary64.numEq_iff_place hx hy]
      omega

end Tabulate
