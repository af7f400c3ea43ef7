import Tabulate.Number.Decimal

/-!
# The shortest decimal of a number

The decimal that stands for a binary number in text: of the decimals that read back as the number it
has the fewest digits, and of those with as few it is the nearest one. On the grid of decimals with
a given number of digits only the two neighbours of the number need to be tried: if any decimal of
the grid reads back, so does one of them.
-/

namespace Tabulate

namespace Decimal

/-- The power of ten above a positive number of units: `10 ^ (k - 1) ≤ units · 2 ^ -1074 < 10 ^ k`.
The number is scaled by `10 ^ 400` so that it has a whole part whose digits can be counted. -/
def magnitude (units : Nat) : Int :=
  (Nat.toDigits 10 (units * 10 ^ 400 / unitsPerOne)).length - 400

/-- Whether a decimal reads back as the positive number `units`. -/
def reads (units : Nat) (d : Decimal) : Bool :=
  d.toBinary64 false == .round false units 1

/-- The one of two decimals that reads back as `units`; of two that do, the lower one if it is
preferred. -/
def choose (units : Nat) (lower upper : Decimal) (preferLower : Bool) : Option Decimal :=
  match reads units lower, reads units upper with
  | true, true => if preferLower then some lower else some upper
  | true, false => some lower
  | false, true => some upper
  | false, false => none

/-- What is chosen reads back. -/
theorem reads_of_choose {units : Nat} {lower upper d : Decimal} {preferLower : Bool}
    (h : choose units lower upper preferLower = some d) : reads units d := by
  unfold choose at h
  cases lowerReads : reads units lower <;> cases upperReads : reads units upper <;>
    cases preferLower <;> simp [lowerReads, upperReads] at h <;> subst h <;> assumption

/-- The decimal with `count` digits that is nearest to `units` among the two neighbours that read
back, if one does. A number halfway between both goes to the even one. -/
def nearest? (units count : Nat) : Option Decimal :=
  let exponent := magnitude units - count
  let num := units * 10 ^ (-exponent).toNat
  let den := unitsPerOne * 10 ^ exponent.toNat
  let below := num / den
  choose units (trimZeros ⟨below, exponent⟩) (trimZeros ⟨below + 1, exponent⟩)
    (nearestEven num den == below)

/-- All digits of a number of units. -/
def exactly (units : Nat) : Decimal := ⟨units * 5 ^ 1074, -1074⟩

/-- The shortest decimal that reads back as the positive number `units`. Seventeen digits always
suffice; the digits written out in full stand behind them so that the result reads back by
construction. -/
def shortest (units : Nat) : Decimal :=
  ((List.range 17).findSome? fun i => nearest? units (i + 1)).getD (exactly units)

end Decimal

end Tabulate
