import Tabulate.Number.Rounding

/-!
# Binary floating-point numbers

Numbers of the IEEE 754 format binary64. Every finite one is a whole number of units of `2 ^ -1074`,
the smallest positive number of the format, and is kept as that number of units with a sign.
Arithmetic is exact on units and is rounded once, to the nearest number, ties to even; what would be
`2 ^ 1024` or more is infinite.

Order and equality go by `rank`, a whole number for all but not-a-number.
-/

namespace Tabulate

/-- An integer with a sign in front: `-n` or `n`. -/
def withSign (negative : Bool) (n : Nat) : Int := if negative then -n else n

/-- The number of units in one. -/
def unitsPerOne : Nat := 2 ^ 1074

/-- The number of units in `2 ^ 1024`, the first power of two that is too large. -/
def overflowUnits : Nat := 2 ^ 2098

/-- The magnitudes of finite numbers: at most fifty-three binary places, below the overflow
bound. -/
def Representable (units : Nat) : Prop := FitsSignificand units ∧ units < overflowUnits

instance : DecidablePred Representable := fun _ => inferInstanceAs (Decidable (_ ∧ _))

/-- A binary floating-point number: `finite negative units` is `units · 2 ^ -1074` with a sign,
which zero has too. -/
inductive Binary64 where
  | nan
  | infinite (negative : Bool)
  | finite (negative : Bool) (units : Nat) (representable : Representable units)
  deriving DecidableEq

namespace Binary64

theorem overflowUnits_pos : 0 < overflowUnits := by
  unfold overflowUnits
  apply Nat.pow_pos
  decide

theorem representable_zero : Representable 0 := ⟨⟨0, rfl⟩, overflowUnits_pos⟩

/-- Zero, with a sign. -/
def signedZero (negative : Bool) : Binary64 := .finite negative 0 representable_zero

/-- Zero, not negative. -/
def zero : Binary64 := signedZero false

instance : Inhabited Binary64 := ⟨zero⟩

/-- The number nearest to `num / den` units, with a sign: infinite once rounding reaches the
overflow bound. -/
def round (negative : Bool) (num den : Nat) : Binary64 :=
  if h : roundSignificand num den < overflowUnits then
    .finite negative (roundSignificand num den) ⟨fitsSignificand_roundSignificand num den, h⟩
  else .infinite negative

/-- The number nearest to an integer. -/
def ofInt (i : Int) : Binary64 := round (i < 0) (i.natAbs * unitsPerOne) 1

/-- The place of a number in the order of numbers, in units; the infinities stand at the overflow
bounds. -/
def rank : Binary64 → Option Int
  | nan => none
  | infinite negative => some (withSign negative overflowUnits)
  | finite negative units _ => some (withSign negative units)

/-- Whether `x` is not a number. -/
def isNaN : Binary64 → Bool
  | nan => true
  | _ => false

/-- Whether `x` is a number of bounded size. -/
def isFinite : Binary64 → Bool
  | finite .. => true
  | _ => false

/-- Equality of numbers: both zeros are equal, and not-a-number differs from all. -/
def numEq (x y : Binary64) : Bool :=
  match x.rank, y.rank with
  | some a, some b => a == b
  | _, _ => false

/-- `x < y`; false when either is not a number. -/
def lt (x y : Binary64) : Bool :=
  match x.rank, y.rank with
  | some a, some b => a < b
  | _, _ => false

/-- `x ≤ y`; false when either is not a number. -/
def le (x y : Binary64) : Bool :=
  match x.rank, y.rank with
  | some a, some b => a ≤ b
  | _, _ => false

/-- The number with the other sign. -/
def neg : Binary64 → Binary64
  | nan => nan
  | infinite negative => infinite !negative
  | finite negative units h => finite (!negative) units h

/-- The sum, rounded. A zero sum is negative only if both terms are; unlike infinities have no
sum. -/
def add : Binary64 → Binary64 → Binary64
  | finite n a _, finite m b _ =>
    let total := withSign n a + withSign m b
    round (if total = 0 then n && m else total < 0) total.natAbs 1
  | infinite n, infinite m => if n = m then infinite n else nan
  | infinite n, finite .. => infinite n
  | finite .., infinite n => infinite n
  | nan, _ => nan
  | _, nan => nan

/-- The difference, rounded. -/
def sub (x y : Binary64) : Binary64 := x.add y.neg

/-- The quotient by a positive whole number, rounded. -/
def divNat : Binary64 → Nat → Binary64
  | finite negative units _, n => round negative units n
  | x, _ => x

/-- Whether `x` is finite and has no fraction. -/
def isIntegral : Binary64 → Bool
  | finite _ units _ => units % unitsPerOne == 0
  | _ => false

/-- The whole part of a finite number, the fraction dropped. -/
def truncate? : Binary64 → Option Int
  | finite negative units _ => some (withSign negative (units / unitsPerOne))
  | _ => none

/-- A representable number of units is its own rounding. -/
theorem round_of_representable (negative : Bool) {units : Nat} (h : Representable units) :
    round negative units 1 = finite negative units h := by
  have exact_ : roundSignificand units 1 = units := by
    simpa using roundSignificand_of_fits h.1 (Nat.one_pos)
  simp [round, exact_, h.2]

end Binary64

end Tabulate
