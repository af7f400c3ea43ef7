import Tabulate.Number.Shortest

/-!
# The text of numbers

An integer is written in decimal digits with a minus sign if it is negative. A binary number is
written with the digits of its shortest decimal: positional, with at least one digit on both sides
of the point, from `1e-04` up to below `1e16`, and otherwise with one digit before the point and a
signed exponent of at least two digits.
-/

namespace Tabulate

/-- The decimal numeral of an integer. -/
def numeral : Int → String
  | .ofNat n => n.repr
  | .negSucc n => "-" ++ (n + 1).repr

namespace Decimal

/-- Digits with the point after the first `point` of them, zeros filled in on either side. -/
def positional (digits : List Char) (point : Int) : List Char :=
  if point ≤ 0 then '0' :: '.' :: (List.replicate (-point).toNat '0' ++ digits)
  else
    let fraction := digits.drop point.toNat
    digits.take point.toNat ++ List.replicate (point.toNat - digits.length) '0' ++
      '.' :: (if fraction.isEmpty then ['0'] else fraction)

/-- A power of ten as the end of a number: its sign and at least two digits. -/
def exponentMark (exponent : Int) : List Char :=
  let digits := Nat.toDigits 10 exponent.natAbs
  'e' :: (if exponent < 0 then '-' else '+') :: (List.replicate (2 - digits.length) '0' ++ digits)

/-- Digits with the point after the first of them, times a power of ten. -/
def scientific (digits : List Char) (exponent : Int) : List Char :=
  match digits with
  | [] => exponentMark exponent
  | [d] => d :: exponentMark exponent
  | d :: rest => d :: '.' :: (rest ++ exponentMark exponent)

/-- A decimal in the layout that its size asks for. -/
def layout (d : Decimal) : List Char :=
  let digits := Nat.toDigits 10 d.digits
  let point : Int := digits.length + d.exponent
  if -4 < point ∧ point ≤ 16 then positional digits point else scientific digits (point - 1)

end Decimal

/-- A minus sign in front of the text of a negative number. -/
def signed (negative : Bool) (magnitude : List Char) : List Char :=
  if negative then '-' :: magnitude else magnitude

/-- The text of a binary number. -/
def Binary64.text : Binary64 → String
  | nan => "nan"
  | infinite negative => String.ofList (signed negative "inf".toList)
  | finite negative units _ =>
    String.ofList (signed negative
      (if units = 0 then "0.0".toList else (Decimal.shortest units).layout))

example : (Binary64.ofInt 30).text = "30.0" ∧ (Binary64.ofInt (10 ^ 16)).text = "1e+16" := by
  decide +kernel

example :
    (Decimal.toBinary64 true ⟨1, -5⟩).text = "-1e-05" ∧
    (Binary64.signedZero true).text = "-0.0" := by
  decide +kernel

end Tabulate
