import Tabulate.Number.Literal

/-!
# Integer literals

The text of an integer: a sign or none, then digits of any script, where a single underscore may
stand between two digits. Spaces at its ends do not count. More than 4300 digits, leading zeros
included, are refused.
-/

namespace Tabulate

/-- The most digits that the text of an integer may have. -/
def maxIntegerDigits : Nat := 4300

/-- The values of the digits that a whole text spells, single underscores between them left out. -/
def readDigitGroups : List Char → Option (List Nat)
  | [] => none
  | c :: rest =>
    match digitValue? c, rest with
    | none, _ => none
    | some d, [] => some [d]
    | some d, '_' :: more => (readDigitGroups more).map (d :: ·)
    | some d, more => (readDigitGroups more).map (d :: ·)

/-- The integer that `text` denotes, spaces at its ends aside. -/
def parseInteger (text : String) : Option Int :=
  let (negative, rest) := readSign (trim isSpace text.toList)
  match readDigitGroups rest with
  | some values =>
    if values.length ≤ maxIntegerDigits then some (withSign negative (ofDigitValues values))
    else none
  | none => none

example :
    parseInteger " -1_000 " = some (-1000) ∧ parseInteger "1__0" = none ∧
    parseInteger "1.0" = none := by
  decide +kernel

end Tabulate
