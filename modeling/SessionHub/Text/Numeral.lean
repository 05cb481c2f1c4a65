/-!
# Numerals

Reading and writing whole numbers in positional notation. Readers take a bound and
refuse what does not lie below it.
-/

namespace SessionHub
namespace Text

/-- The value of a digit in bases up to sixteen. -/
def digitValue? (character : Char) : Option Nat :=
  if '0' ≤ character ∧ character ≤ '9' then some (character.toNat - 48)
  else if 'a' ≤ character ∧ character ≤ 'f' then some (character.toNat - 87)
  else if 'A' ≤ character ∧ character ≤ 'F' then some (character.toNat - 55)
  else none

/-- The value of a character that is a digit of the given base. -/
def digitOf? (base : Nat) (character : Char) : Option Nat :=
  (digitValue? character).filter (· < base)

/-- Whether a character is a decimal digit. -/
def isDigit (character : Char) : Bool :=
  '0' ≤ character && character ≤ '9'

/-- The number that a non-empty list of digits denotes, or `none` if some character is
no digit of the base. -/
def natOfDigits? (base : Nat) (digits : List Char) : Option Nat :=
  if digits.isEmpty then none
  else digits.foldl (fun value digit => do
    let sum ← value
    let next ← digitOf? base digit
    pure (sum * base + next)) (some 0)

/-- A whole number below a bound, with an optional plus sign. -/
def readBelow? (bound : Nat) (text : List Char) : Option Nat :=
  let digits := if text.head? = some '+' then text.drop 1 else text
  (natOfDigits? 10 digits).filter (· < bound)

/-- A whole number from `-bound` to `bound - 1`, with an optional sign. -/
def readSigned? (bound : Nat) (text : List Char) : Option Int :=
  if text.head? = some '-' then
    ((natOfDigits? 10 (text.drop 1)).filter (· ≤ bound)).map (fun value => -(value : Int))
  else (readBelow? bound text).map Int.ofNat

/-- Decimal digits of a natural number, the most significant first. -/
def natDigits (number : Nat) : List Char :=
  Nat.toDigits 10 number

/-- Decimal text of a whole number, with a minus sign if it is negative. -/
def intDigits (number : Int) : List Char :=
  if number < 0 then '-' :: natDigits number.natAbs else natDigits number.natAbs

/-- One lower-case hexadecimal digit. -/
def hexDigit (value : Nat) : Char :=
  if value < 10 then Char.ofNat (48 + value) else Char.ofNat (87 + value)

/-- One upper-case hexadecimal digit. -/
def hexDigitUpper (value : Nat) : Char :=
  if value < 10 then Char.ofNat (48 + value) else Char.ofNat (55 + value)

/-- Bytes as pairs of lower-case hexadecimal digits. -/
def hexOfBytes (bytes : List UInt8) : List Char :=
  bytes.flatMap fun byte => [hexDigit (byte.toNat / 16), hexDigit (byte.toNat % 16)]

/-- The bytes that pairs of hexadecimal digits denote. -/
def bytesOfHex? : List Char → Option (List UInt8)
  | [] => some []
  | [_] => none
  | high :: low :: rest => do
    let first ← digitValue? high
    let second ← digitValue? low
    let bytes ← bytesOfHex? rest
    pure (UInt8.ofNat (first * 16 + second) :: bytes)

end Text
end SessionHub
