import Tabulate.Number.Binary64

/-!
# Decimal numbers

A decimal is a natural number times a power of ten. `Decimal.toBinary64` is the binary number
nearest to it.
-/

namespace Tabulate

/-- The number `digits · 10 ^ exponent`. -/
structure Decimal where
  digits : Nat
  exponent : Int
  deriving DecidableEq, Inhabited

namespace Decimal

/-- The binary number nearest to a decimal with a sign. A decimal of `10 ^ 400` or more is infinite
and one below `2 ^ -1199` is zero without its power of ten being computed: the exponent of a literal
may be of any size. -/
def toBinary64 (negative : Bool) (d : Decimal) : Binary64 :=
  if d.digits = 0 then .signedZero negative
  else if 400 ≤ d.exponent then .infinite negative
  else if d.digits.log2 + 1200 < 3 * (-d.exponent).toNat then .signedZero negative
  else .round negative (d.digits * 10 ^ d.exponent.toNat * unitsPerOne) (10 ^ (-d.exponent).toNat)

/-- `digits` without up to `count` zeros at its end, and the number of zeros left out. -/
def dropZeros : Nat → Nat → Nat × Nat
  | digits, 0 => (digits, 0)
  | digits, count + 1 =>
    if digits % 10 = 0 then
      let (rest, dropped) := dropZeros (digits / 10) count
      (rest, dropped + 1)
    else (digits, 0)

/-- The same number without zeros at the end of its digits, of which there are at most eighteen. -/
def trimZeros (d : Decimal) : Decimal :=
  let (digits, dropped) := dropZeros d.digits 18
  ⟨digits, d.exponent + dropped⟩

end Decimal

end Tabulate
