import Tabulate.Number.Decimal
import Tabulate.Text.Blank
import Tabulate.Text.Digit

/-!
# Number literals

The text of a number: an optional sign, digits with an optional point among them and at least one
digit, and an optional exponent. Digits may be of any script and stand for their values. Neither
infinities nor not-a-number have a literal, and a literal too large for a finite number denotes
nothing.
-/

namespace Tabulate

/-- The number that digit values spell in base ten, most significant first. -/
def ofDigitValues (values : List Nat) : Nat := values.foldl (fun n d => 10 * n + d) 0

/-- The values of the digits at the front of a text, and what follows them. -/
def readDigits : List Char → List Nat × List Char
  | [] => ([], [])
  | c :: rest =>
    match digitValue? c with
    | some d => let (values, after) := readDigits rest; (d :: values, after)
    | none => ([], c :: rest)

/-- A sign at the front of a text, and what follows it; `true` for a minus. -/
def readSign : List Char → Bool × List Char
  | '-' :: rest => (true, rest)
  | '+' :: rest => (false, rest)
  | rest => (false, rest)

/-- The digits before and after the point at the front of a text, and what follows them. -/
def readMantissa (cs : List Char) : List Nat × List Nat × List Char :=
  match readDigits cs with
  | (whole, '.' :: rest) => let (fraction, after) := readDigits rest; (whole, fraction, after)
  | (whole, rest) => (whole, [], rest)

/-- The exponent that a whole text spells; none at all is zero. -/
def readExponent : List Char → Option Int
  | [] => some 0
  | e :: rest =>
    if e = 'e' ∨ e = 'E' then
      let (negative, rest) := readSign rest
      match readDigits rest with
      | ([], _) => none
      | (values, []) => some (withSign negative (ofDigitValues values))
      | _ => none
    else none

/-- The signed decimal that a whole text spells. -/
def readDecimal (cs : List Char) : Option (Bool × Decimal) :=
  let (negative, rest) := readSign cs
  match readMantissa rest with
  | ([], [], _) => none
  | (whole, fraction, rest) =>
    (readExponent rest).map fun exponent =>
      (negative, ⟨ofDigitValues (whole ++ fraction), exponent - fraction.length⟩)

/-- The finite number that `text` denotes, blanks at its ends aside. -/
def parseNumber (text : String) : Option Binary64 :=
  match readDecimal (trim isBlank text.toList) with
  | some (negative, decimal) =>
    let x := decimal.toBinary64 negative
    if x.isFinite then some x else none
  | none => none

end Tabulate
