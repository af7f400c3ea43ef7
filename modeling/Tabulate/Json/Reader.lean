import Tabulate.Json.Error
import Tabulate.Number.Integer
import Tabulate.Row
import Tabulate.Text.Encoding

/-!
# Reading JSON

A JSON text becomes a value. Integers are kept as they are, numbers with a fraction or an exponent
become binary numbers, and `NaN`, `Infinity` and `-Infinity` are read as such. Of two members of an
object with one name the later value counts, in the place of the earlier one. Containers may be
nested `maxNesting` deep.

Each reader takes the text that is left and returns what it read with the rest. When it fails it
returns the text from the flaw on, from which the flaw's place follows.
-/

namespace Tabulate.Json

/-- Why reading stopped, and the text from there on. -/
inductive Failure where
  | malformed (flaw : Flaw) (rest : List Char)
  | integerTooLong (digits : Nat)
  | tooDeep (container : Container)

/-- What was read, and the rest of the text. -/
abbrev Reading (α : Type) := Except Failure (α × List Char)

/-- The characters that may stand between the parts of a text. -/
def isGap (c : Char) : Bool := c == ' ' || c == '\t' || c == '\n' || c == '\r'

/-- The text without the gap at its front. -/
def skipGap (cs : List Char) : List Char := cs.dropWhile isGap

/-- The value of a hexadecimal digit. -/
def hexValue? (c : Char) : Option Nat :=
  if '0' ≤ c ∧ c ≤ '9' then some (c.toNat - '0'.toNat)
  else if 'a' ≤ c ∧ c ≤ 'f' then some (c.toNat - 'a'.toNat + 10)
  else if 'A' ≤ c ∧ c ≤ 'F' then some (c.toNat - 'A'.toNat + 10)
  else none

/-- The sixteen-bit unit that four hexadecimal digits spell. -/
def codeUnit? (a b c d : Char) : Option Nat := do
  return (((← hexValue? a) * 16 + (← hexValue? b)) * 16 + (← hexValue? c)) * 16 + (← hexValue? d)

/-- The character that a backslash and `c` stand for. -/
def escaped? : Char → Option Char
  | '"' => some '"'
  | '\\' => some '\\'
  | '/' => some '/'
  | 'b' => some '\x08'
  | 'f' => some '\x0c'
  | 'n' => some '\n'
  | 'r' => some '\r'
  | 't' => some '\t'
  | _ => none

/-- The second half of a pair of units at the front of a text, and the text behind it. Something has
to follow. -/
def lowUnit? : List Char → Option (Nat × List Char)
  | '\\' :: 'u' :: a :: b :: c :: d :: next :: rest =>
    match codeUnit? a b c d with
    | some low => if isLowUnit low then some (low, next :: rest) else none
    | none => none
  | _ => none

/-- The character of a unit, or of the pair that it forms with the unit behind it; half a pair by
itself is unknown. -/
def unitChar (unit : Nat) (rest : List Char) : Char × List Char :=
  if isHighUnit unit then
    match lowUnit? rest with
    | some (low, rest) => (pairChar unit low, rest)
    | none => (codeChar unit, rest)
  else (codeChar unit, rest)

/-- The character that the text behind a backslash starts with, and the rest of that text. Four
digits of a unit must have something behind them. `start` is the text from the opening mark on. -/
def readEscape (start : List Char) : List Char → Reading Char
  | 'u' :: rest =>
    match rest with
    | a :: b :: c :: d :: next :: more =>
      match codeUnit? a b c d with
      | some unit => .ok (unitChar unit (next :: more))
      | none => .error (.malformed .invalidCodeUnit ('u' :: rest))
    | _ => .error (.malformed .invalidCodeUnit ('u' :: rest))
  | c :: rest =>
    match escaped? c with
    | some e => .ok (e, rest)
    | none => .error (.malformed .invalidEscape ('\\' :: c :: rest))
  | [] => .error (.malformed .unterminatedString start)

/-- The characters up to the closing mark. `start` is the text from the opening mark on, and `fuel`
bounds the number of characters. -/
def readChars (start : List Char) : Nat → List Char → Reading (List Char)
  | fuel + 1, c :: rest =>
    if c = '"' then .ok ([], rest)
    else if c = '\\' then
      match readEscape start rest with
      | .ok (e, rest) => (readChars start fuel rest).map fun (chars, rest) => (e :: chars, rest)
      | .error failure => .error failure
    else if c.toNat < 0x20 then .error (.malformed .controlCharacter (c :: rest))
    else (readChars start fuel rest).map fun (chars, rest) => (c :: chars, rest)
  | _, _ => .error (.malformed .unterminatedString start)

/-- The string at the front of a text whose opening mark has been read. -/
def readString (rest : List Char) : Reading String :=
  (readChars ('"' :: rest) rest.length rest).map fun (chars, rest) => (String.ofList chars, rest)

/-- The digits at the front of a text, and the rest. -/
def spanDigits (cs : List Char) : List Char × List Char :=
  (cs.takeWhile Char.isDigit, cs.dropWhile Char.isDigit)

/-- The whole part of a number: a zero, or digits that do not start with one. -/
def readWhole : List Char → Option (List Char × List Char)
  | '0' :: rest => some (['0'], rest)
  | cs =>
    match spanDigits cs with
    | ([], _) => none
    | whole => some whole

/-- The fraction of a number, if there is one: a point and digits. -/
def readFraction (cs : List Char) : Option (List Char) × List Char :=
  match cs with
  | '.' :: rest =>
    match spanDigits rest with
    | ([], _) => (none, cs)
    | (digits, rest) => (some digits, rest)
  | _ => (none, cs)

/-- The exponent of a number, if there is one: a letter, a sign or none, and digits. -/
def readPower (cs : List Char) : Option Int × List Char :=
  match cs with
  | e :: rest =>
    if e = 'e' ∨ e = 'E' then
      let (negative, rest) := readSign rest
      match spanDigits rest with
      | ([], _) => (none, cs)
      | (digits, rest) => (some (withSign negative (Nat.ofDigitChars 10 digits 0)), rest)
    else (none, cs)
  | [] => (none, cs)

/-- The number at the front of a text. `start` is the text from the sign on. -/
def readNumber (start : List Char) : Reading Value :=
  let (negative, rest) := match start with
    | '-' :: rest => (true, rest)
    | _ => (false, start)
  match readWhole rest with
  | none => .error (.malformed .expectedValue start)
  | some (whole, rest) =>
    let (fraction, rest) := readFraction rest
    let (power, rest) := readPower rest
    if fraction.isNone ∧ power.isNone then
      if maxIntegerDigits < whole.length then .error (.integerTooLong whole.length)
      else .ok (.int (withSign negative (Nat.ofDigitChars 10 whole 0)), rest)
    else
      let digits := fraction.getD []
      let decimal : Decimal :=
        ⟨Nat.ofDigitChars 10 (whole ++ digits) 0, power.getD 0 - digits.length⟩
      .ok (.float (decimal.toBinary64 negative), rest)

/-- The words of the format and what they stand for. -/
def keywords : List (List Char × Value) :=
  [ ("null".toList, .null), ("true".toList, .bool true), ("false".toList, .bool false),
    ("NaN".toList, .float .nan), ("Infinity".toList, .float (.infinite false)),
    ("-Infinity".toList, .float (.infinite true)) ]

/-- The word or number at the front of a text. -/
def readAtom (cs : List Char) : Reading Value :=
  match keywords.find? fun (word, _) => word.isPrefixOf cs with
  | some (word, v) => .ok (v, cs.drop word.length)
  | none => readNumber cs

/-- How deeply containers may be nested. A reader by recursion gives up at a depth of calls that
depends on who calls it; this many containers is an approximation of that limit, for a text that is
read on its own or as the body of a request, and not a bound that the format sets. -/
def maxNesting : Nat := 970

mutual

/-- The value at the front of a text. Containers may be nested `room` deep in it. -/
def readValue : Nat → Nat → List Char → Reading Value
  | 0, _, cs => .error (.malformed .expectedValue cs)
  | _ + 1, _, '"' :: rest =>
    (readString rest).map fun (s, rest) => (.str s, rest)
  | _ + 1, 0, '[' :: _ => .error (.tooDeep .array)
  | _ + 1, 0, '\x7b' :: _ => .error (.tooDeep .object)
  | fuel + 1, room + 1, '[' :: rest =>
    match skipGap rest with
    | ']' :: rest => .ok (.list [], rest)
    | rest => (readItems fuel room rest).map fun (items, rest) => (.list items, rest)
  | fuel + 1, room + 1, '\x7b' :: rest =>
    match skipGap rest with
    | '\x7d' :: rest => .ok (.record [], rest)
    | rest =>
      (readMembers fuel room rest).map fun (fields, rest) => ((Row.ofEntries fields).toValue, rest)
  | _ + 1, _, cs => readAtom cs

/-- The items of a list, of which there is at least one, up to the closing bracket. -/
def readItems : Nat → Nat → List Char → Reading (List Value)
  | 0, _, cs => .error (.malformed .expectedValue cs)
  | fuel + 1, room, cs =>
    match readValue fuel room cs with
    | .error failure => .error failure
    | .ok (v, rest) =>
      match skipGap rest with
      | ']' :: rest => .ok ([v], rest)
      | ',' :: rest =>
        (readItems fuel room (skipGap rest)).map fun (items, rest) => (v :: items, rest)
      | rest => .error (.malformed .expectedComma rest)

/-- The members of an object, of which there is at least one, up to the closing brace. -/
def readMembers : Nat → Nat → List Char → Reading (List (String × Value))
  | 0, _, cs => .error (.malformed .expectedName cs)
  | fuel + 1, room, '"' :: rest =>
    match readString rest with
    | .error failure => .error failure
    | .ok (name, rest) =>
      match skipGap rest with
      | ':' :: rest =>
        match readValue fuel room (skipGap rest) with
        | .error failure => .error failure
        | .ok (v, rest) =>
          match skipGap rest with
          | '\x7d' :: rest => .ok ([(name, v)], rest)
          | ',' :: rest => (readMembers fuel room (skipGap rest)).map fun (fields, rest) =>
            ((name, v) :: fields, rest)
          | rest => .error (.malformed .expectedComma rest)
      | rest => .error (.malformed .expectedColon rest)
  | _ + 1, _, cs => .error (.malformed .expectedName cs)

end

/-- The value that a whole text denotes for a reader that has room for so many containers in each
other. -/
def readWithin (room : Nat) (cs : List Char) : Except Failure Value :=
  match readValue (2 * cs.length + 2) room (skipGap cs) with
  | .error failure => .error failure
  | .ok (v, rest) =>
    if (skipGap rest).isEmpty then .ok v else .error (.malformed .extraData (skipGap rest))

/-- The value that a whole text denotes. -/
def readText (cs : List Char) : Except Failure Value := readWithin maxNesting cs

/-- The place of a failure in the text that was read. -/
def Failure.locate (text : List Char) : Failure → Error
  | malformed flaw rest => .malformed flaw (.after (text.take (text.length - rest.length)))
  | integerTooLong digits => .integerTooLong digits
  | tooDeep container => .tooDeep container

/-- The value that a text denotes, or what is wrong with it. -/
def read (text : String) : Except Error Value :=
  match text.toList with
  | '\ufeff' :: _ => .error (.malformed .byteOrderMark (.after []))
  | cs => (readText cs).mapError (·.locate cs)

end Tabulate.Json
