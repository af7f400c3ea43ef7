/-!
# Unicode encodings

Texts in units of sixteen or thirty-two bits. A character beyond sixteen bits is a pair of
sixteen-bit units: a high one and a low one, set aside for that purpose. Half a pair by itself is no
character and becomes the replacement character.
-/

namespace Tabulate

/-- Whether a unit is the first half of a pair. -/
def isHighUnit (unit : Nat) : Bool := 0xd800 ≤ unit && unit < 0xdc00

/-- Whether a unit is the second half of a pair. -/
def isLowUnit (unit : Nat) : Bool := 0xdc00 ≤ unit && unit < 0xe000

/-- The character of a pair of units. -/
def pairChar (high low : Nat) : Char :=
  Char.ofNat (0x10000 + (high - 0xd800) * 0x400 + (low - 0xdc00))

/-- The character with a code point, unknown for half a pair. -/
def codeChar (code : Nat) : Char :=
  if isHighUnit code || isLowUnit code then '\ufffd' else Char.ofNat code

/-- The characters of sixteen-bit units. -/
def charsOfUnits : List Nat → List Char
  | [] => []
  | [unit] => [codeChar unit]
  | high :: low :: rest =>
    if isHighUnit high && isLowUnit low then pairChar high low :: charsOfUnits rest
    else codeChar high :: charsOfUnits (low :: rest)

/-- Which byte of a unit stands first: that of the most or the least weight. -/
inductive ByteOrder where
  | big
  | little
  deriving DecidableEq, Inhabited

/-- The number that bytes spell. -/
def ByteOrder.number (order : ByteOrder) (bytes : List UInt8) : Nat :=
  let digits := match order with
    | .big => bytes
    | .little => bytes.reverse
  digits.foldl (fun n b => 256 * n + b.toNat) 0

/-- The sixteen-bit units of bytes; an odd byte is left over. -/
def units16 (order : ByteOrder) : List UInt8 → Option (List Nat)
  | [] => some []
  | [_] => none
  | a :: b :: rest => (units16 order rest).map (order.number [a, b] :: ·)

/-- The thirty-two-bit units of bytes. -/
def units32 (order : ByteOrder) : List UInt8 → Option (List Nat)
  | [] => some []
  | a :: b :: c :: d :: rest => (units32 order rest).map (order.number [a, b, c, d] :: ·)
  | _ => none

/-- The characters of bytes in units of sixteen bits. -/
def decode16 (order : ByteOrder) (bytes : List UInt8) : Option (List Char) :=
  (units16 order bytes).map charsOfUnits

/-- The characters of bytes in units of thirty-two bits, each of which has to be a code point. -/
def decode32 (order : ByteOrder) (bytes : List UInt8) : Option (List Char) := do
  let codes ← units32 order bytes
  if codes.all (· < 0x110000) then some (codes.map codeChar) else none

example :
    decode16 .little [0x3d, 0xd8, 0x00, 0xde] = some ['😀'] ∧
    decode32 .big [0, 0, 0, 0x7b] = some ['\x7b'] ∧ decode16 .big [0] = none := by
  decide

end Tabulate
