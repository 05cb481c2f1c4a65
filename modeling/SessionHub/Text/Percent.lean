import SessionHub.Text.Numeral
import SessionHub.Text.Utf8

/-!
# Percent coding

A byte may be written as a percent sign and two hexadecimal digits. Forms write pairs of
names and values that way, with a plus sign for each space.
-/

namespace SessionHub
namespace Text

/-- The byte of an ASCII character. -/
def asciiByte (character : Char) : UInt8 :=
  UInt8.ofNat character.toNat

/-- A byte as a percent sign and two upper-case digits. -/
def percentTriple (byte : UInt8) : List Char :=
  ['%', hexDigitUpper (byte.toNat / 16), hexDigitUpper (byte.toNat % 16)]

/-- The value of a byte that is a hexadecimal digit. -/
def hexValueOfByte? (byte : UInt8) : Option Nat :=
  if byte < 0x80 then digitValue? (Char.ofNat byte.toNat) else none

/-- The bytes with each percent triple replaced by the byte it denotes. A percent sign
without two digits after it stands for itself. -/
def percentDecode (bytes : List UInt8) : List UInt8 :=
  match bytes with
  | [] => []
  | 0x25 :: high :: low :: rest =>
    match hexValueOfByte? high, hexValueOfByte? low with
    | some first, some second => UInt8.ofNat (first * 16 + second) :: percentDecode rest
    | _, _ => 0x25 :: percentDecode (high :: low :: rest)
  | byte :: rest => byte :: percentDecode rest
termination_by bytes.length

namespace Form

/-- The bytes that are written as they are: letters, digits and four marks. -/
def isPlain (byte : UInt8) : Bool :=
  byte < 0x80 &&
    let character := Char.ofNat byte.toNat
    character.isAlphanum || character = '*' || character = '-' || character = '.'
      || character = '_'

/-- A byte of a name or a value as it is written. -/
def encodeByte (byte : UInt8) : List Char :=
  if isPlain byte then [Char.ofNat byte.toNat]
  else if byte = 0x20 then ['+']
  else percentTriple byte

/-- A name or a value as it is written. -/
def encode (text : String) : List Char :=
  (Utf8.encode text.toList).flatMap encodeByte

/-- A pair as it is written. -/
def encodePair (name value : String) : List Char :=
  encode name ++ '=' :: encode value

/-- The bytes with a space for each plus sign. -/
def plusToSpace (bytes : List UInt8) : List UInt8 :=
  bytes.map fun byte => if byte = 0x2B then 0x20 else byte

/-- The name or value that is written as given. -/
def decode (bytes : List UInt8) : String :=
  String.ofList (Utf8.lossy (percentDecode (plusToSpace bytes)))

/-- Cut bytes at every occurrence of a separator. -/
def splitBytes (separator : UInt8) : List UInt8 → List (List UInt8)
  | [] => [[]]
  | byte :: rest =>
    if byte = separator then [] :: splitBytes separator rest
    else
      match splitBytes separator rest with
      | [] => [[byte]]
      | piece :: pieces => (byte :: piece) :: pieces

/-- The pair that is written as given: what stands before the first equals sign, and what
stands after it. -/
def decodePair (bytes : List UInt8) : String × String :=
  (decode (bytes.takeWhile (· ≠ 0x3D)), decode ((bytes.dropWhile (· ≠ 0x3D)).drop 1))

/-- The pairs of a query. Empty pieces between ampersands do not count. -/
def decodeQuery (query : List Char) : List (String × String) :=
  ((splitBytes 0x26 (Utf8.encode query)).filter (¬·.isEmpty)).map decodePair

end Form
end Text
end SessionHub
