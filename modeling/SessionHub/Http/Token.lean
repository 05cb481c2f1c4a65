/-!
# Tokens

A server that is given no token makes one up: random bytes in letters, digits, hyphens
and underscores, so that it may stand in a URL as it is. Each character carries six bits.
-/

namespace SessionHub
namespace Http
namespace Token

/-- How many random bytes a token is made of. -/
def byteCount : Nat := 16

/-- The character that carries six bits. -/
def character (sextet : Nat) : Char :=
  if sextet < 26 then Char.ofNat (65 + sextet)
  else if sextet < 52 then Char.ofNat (71 + sextet)
  else if sextet < 62 then Char.ofNat (sextet - 4)
  else if sextet = 62 then '-'
  else '_'

/-- The first characters of a group of 24 bits. -/
def group (count bits : Nat) : List Char :=
  ([bits / 0x40000, bits / 0x1000 % 64, bits / 0x40 % 64, bits % 64].take count).map character

/-- The text of bytes, without padding. -/
def encode : List UInt8 → List Char
  | first :: second :: third :: rest =>
    group 4 (first.toNat * 0x10000 + second.toNat * 0x100 + third.toNat) ++ encode rest
  | [first, second] => group 3 (first.toNat * 0x10000 + second.toNat * 0x100)
  | [first] => group 2 (first.toNat * 0x10000)
  | [] => []

/-- The token of random bytes. -/
def ofBytes (bytes : List UInt8) : String :=
  String.ofList (encode bytes)

/-- Whether a character may stand in a token that is made up. -/
def isTokenCharacter (character : Char) : Bool :=
  character.isAlphanum || character = '-' || character = '_'

end Token
end Http
end SessionHub
