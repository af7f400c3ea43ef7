import Tabulate.Number.Integer
import Tabulate.Number.Text
import Tabulate.Text.Split

/-!
# Integers in relaxed form

An integer has one canonical form: a minus sign if it is negative, then a single zero or ASCII
digits of which the first is no zero. In relaxed form there may also be spaces at the ends, a plus
sign, zeros in front, single underscores between digits, and a fraction of zeros. A relaxed text is
read by taking these away one after the other, in a fixed order; what is left has to be canonical.
-/

namespace Tabulate

/-- A minus sign at the front of a text, and what follows it. -/
def readMinus : List Char → Bool × List Char
  | '-' :: rest => (true, rest)
  | rest => (false, rest)

/-- The integer with the given canonical form. Its sign counts among the digits that it may have. -/
def canonicalInteger? (cs : List Char) : Option Int :=
  let (negative, digits) := readMinus cs
  if digits = ['0'] ∨
      (digits ≠ [] ∧ digits.head? ≠ some '0' ∧ digits.all Char.isDigit ∧
        cs.length ≤ maxIntegerDigits)
  then some (withSign negative (Nat.ofDigitChars 10 digits 0))
  else none

/-- Whether a text starts with an integer in canonical form that has more digits than it may
have. -/
def isOverlong (cs : List Char) : Bool :=
  let (negative, digits) := readMinus cs
  digits.head? ≠ some '0' &&
    maxIntegerDigits < negative.toNat + (digits.takeWhile Char.isDigit).length

/-- A text from its first digit but zero on, where `last` is the zero or underscore before it. A
minus sign is as good as a digit. If a point or the end comes first, the text starts with `last`. -/
def fromDigit (last : Char) : List Char → Option (List Char)
  | [] => some [last]
  | c :: rest =>
    if c = '0' ∨ c = '_' then fromDigit c rest
    else if c = '.' then some (last :: c :: rest)
    else if c = '-' ∨ c.isDigit then some (c :: rest)
    else none

/-- A text that starts with a digit, without the zeros and underscores before the digits that
count. -/
def withoutZeros : List Char → Option (List Char)
  | '0' :: rest => fromDigit '0' rest
  | c :: rest => if c.isDigit then some (c :: rest) else none
  | [] => none

/-- A text without a fraction of zeros at its end. -/
def withoutFraction (cs : List Char) : List Char :=
  match cs.dropWhile (· ≠ '.') with
  | _ :: '0' :: zeros => if zeros.all (· == '0') then cs.takeWhile (· ≠ '.') else cs
  | _ => cs

/-- A text without its underscores, if each of them stands between other characters. -/
def withoutUnderscores (cs : List Char) : List Char :=
  let groups := splitOn '_' cs
  if groups.any List.isEmpty then cs else groups.flatten

/-- The integer that a text in relaxed form denotes. -/
def relaxedInteger? (text : String) : Option Int := do
  let (negative, rest) := readSign (trim isSpace text.toList)
  let digits ← withoutZeros rest
  canonicalInteger? (signed negative (withoutUnderscores (withoutFraction digits)))

example : relaxedInteger? " +1_000.00 " = some 1000 ∧ relaxedInteger? "-007" = some (-7) ∧
    relaxedInteger? "1." = none ∧ relaxedInteger? "1__0" = none := by decide +kernel

end Tabulate
