import SessionHub.Text.Numeral
import SessionHub.Text.Percent
import SessionHub.Url.Domain

/-!
# Hosts

The host of a URL is a domain, an IPv4 address or an IPv6 address in brackets. In URLs of
a scheme without rules for hosts it is any text without delimiters. Every host has one
written form; reading gives that form.
-/

namespace SessionHub
namespace Url

/-- Whether a character is a control character. -/
def isControl (character : Char) : Bool :=
  character.toNat < 0x20 || character.toNat = 0x7F

/-- The characters that satisfy a condition, and all that are not ASCII, as the percent
triples of their bytes. -/
def percentEncode (escaped : Char → Bool) (text : List Char) : List Char :=
  text.flatMap fun character =>
    if escaped character || 0x80 ≤ character.toNat then
      (Text.Utf8.encode [character]).flatMap Text.percentTriple
    else [character]

/-! ## IPv4 -/

/-- What a part of an IPv4 address stands for: a number, written in base ten, eight or
sixteen, whose greatness is not limited. -/
def addressPart? (part : List Char) : Option Nat :=
  let number (base : Nat) (digits : List Char) : Option Nat :=
    if digits.isEmpty then some 0 else Text.natOfDigits? base digits
  match part with
  | [] => none
  | '0' :: 'x' :: digits | '0' :: 'X' :: digits => number 16 digits
  | '0' :: digit :: digits => number 8 (digit :: digits)
  | digits => number 10 digits

/-- The parts of a domain, without an empty one at its end. -/
def domainParts (domain : List Char) : List (List Char) :=
  let parts := Text.splitAll '.' domain
  if 1 < parts.length ∧ parts.getLast? = some [] then parts.dropLast else parts

/-- Whether the last part of a domain is a number, so that the domain has to be an IPv4
address. -/
def endsInNumber (domain : List Char) : Bool :=
  match (domainParts domain).getLast? with
  | none => false
  | some part => (part ≠ [] && part.all Text.isDigit) || (addressPart? part).isSome

/-- The number of an IPv4 address: all parts but the last are one byte each, and the last
fills the bytes that are left. -/
def ipv4Number? (domain : List Char) : Option Nat := do
  let parts := domainParts domain
  if 4 < parts.length then none
  let numbers ← parts.mapM addressPart?
  let last ← numbers.getLast?
  let first := numbers.dropLast
  if last < Nat.pow 256 (4 - first.length) ∧ first.all (· < 256) then
    pure (first.foldl (fun value byte => value * 256 + byte) 0 * Nat.pow 256 (4 - first.length)
      + last)
  else none

/-- The written form of an IPv4 address. -/
def ipv4Text (number : Nat) : List Char :=
  let byte (place : Nat) := Text.natDigits (number / Nat.pow 256 place % 256)
  byte 3 ++ '.' :: byte 2 ++ '.' :: byte 1 ++ '.' :: byte 0

/-! ## IPv6 -/

/-- A byte of an IPv4 address within an IPv6 address: without leading zeros. -/
def strictByte? (digits : List Char) : Option Nat :=
  if 1 < digits.length ∧ digits.head? = some '0' then none
  else if digits.all Text.isDigit then (Text.natOfDigits? 10 digits).filter (· < 256)
  else none

/-- The two pieces of an IPv4 address at the end of an IPv6 address. -/
def embeddedPieces? (text : List Char) : Option (List Nat) := do
  match ← (Text.splitAll '.' text).mapM strictByte? with
  | [first, second, third, fourth] => pure [first * 256 + second, third * 256 + fourth]
  | _ => none

/-- A piece of an IPv6 address: up to four hexadecimal digits. -/
def addressPiece? (digits : List Char) : Option Nat :=
  if digits.length ≤ 4 then Text.natOfDigits? 16 digits else none

/-- The pieces between colons. Where `mayEmbed` allows it, the last may be an IPv4
address. -/
def addressPieces? (mayEmbed : Bool) : List (List Char) → Option (List Nat)
  | [] => some []
  | [last] =>
    if mayEmbed ∧ last.contains '.' then embeddedPieces? last
    else (addressPiece? last).map ([·])
  | piece :: rest => do
    let number ← addressPiece? piece
    let numbers ← addressPieces? mayEmbed rest
    pure (number :: numbers)

/-- The pieces of a side of the double colon, which may be empty. -/
def sidePieces? (mayEmbed : Bool) (text : List Char) : Option (List Nat) :=
  if text.isEmpty then some [] else addressPieces? mayEmbed (Text.splitAll ':' text)

/-- Split at the first double colon. -/
def splitAtDoubleColon : List Char → Option (List Char × List Char)
  | [] => none
  | ':' :: ':' :: rest => some ([], rest)
  | character :: rest =>
    (splitAtDoubleColon rest).map fun (before, after) => (character :: before, after)

/-- The eight pieces of an IPv6 address. A double colon stands for one or more pieces
that are zero. -/
def ipv6Pieces? (text : List Char) : Option (List Nat) :=
  match splitAtDoubleColon text with
  | none => (addressPieces? true (Text.splitAll ':' text)).filter (·.length = 8)
  | some (before, after) => do
    let first ← sidePieces? false before
    let last ← sidePieces? true after
    let count := first.length + last.length
    if count < 8 then pure (first ++ List.replicate (8 - count) 0 ++ last) else none

/-- How many zeros stand at the front. -/
def leadingZeros (numbers : List Nat) : Nat :=
  (numbers.takeWhile (· = 0)).length

/-- The first longest run of zeros: where it starts, and its length. -/
def longestZeros : List Nat → Nat × Nat
  | [] => (0, 0)
  | number :: rest =>
    let here := leadingZeros (number :: rest)
    let (start, length) := longestZeros rest
    if length ≤ here then (0, here) else (start + 1, length)

/-- Pieces with colons between them. -/
def joinPieces (numbers : List Nat) : List Char :=
  Text.join [':'] (numbers.map (Nat.toDigits 16))

/-- The written form of an IPv6 address: the first longest run of at least two zeros is a
double colon. -/
def ipv6Text (numbers : List Nat) : List Char :=
  let (start, length) := longestZeros numbers
  if length < 2 then joinPieces numbers
  else joinPieces (numbers.take start) ++ ':' :: ':' :: joinPieces (numbers.drop (start + length))

/-! ## Any host -/

/-- The IPv6 address between brackets. -/
def readBracketed? (text : List Char) : Option (List Char) :=
  if text.getLast? = some ']' then
    (ipv6Pieces? text.dropLast).map fun numbers => '[' :: ipv6Text numbers ++ [']']
  else none

/-- Whether a character cannot stand in a host of any kind. -/
def isHostDelimiter (character : Char) : Bool :=
  character = '\x00' || character = '\t' || character = '\n' || character = '\r'
    || " #/:<>?@[\\]^|".toList.contains character

/-- The host that a text stands for, in a URL of a scheme with rules for hosts. -/
def readHost? : List Char → Option (List Char)
  | '[' :: rest => readBracketed? rest
  | text => do
    let bytes := Text.percentDecode (Text.Utf8.encode text)
    let domain ← (Text.Utf8.decode? bytes).bind readDomain?
    if domain.any (fun character => isControl character || character = '%'
      || isHostDelimiter character) then none
    else if domain.isEmpty then none
    else if endsInNumber domain then (ipv4Number? domain).map ipv4Text
    else pure domain

/-- The host that a text stands for, in a URL of any other scheme. -/
def readFreeHost? : List Char → Option (List Char)
  | '[' :: rest => readBracketed? rest
  | text => if text.any isHostDelimiter then none else some (percentEncode isControl text)

end Url
end SessionHub
