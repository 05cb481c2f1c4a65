import SessionHub.Text.Blank
import SessionHub.Url.Punycode

/-!
# Domains

A domain is compared and written in lower case and in ASCII. Characters are mapped first:
upper case to lower case, wide forms to common ones, the ideographic full stops to a
point, and invisible characters to nothing. A label that is not ASCII then is written as
`xn--` and its Punycode. Case is known of the Latin, Greek, Cyrillic and Armenian letters
in the blocks below; other characters stand for themselves.
-/

namespace SessionHub
namespace Url

/-- The letters of either case, as ranges of upper-case code points with the distance to
lower case. -/
def shiftedCases : List (Nat × Nat × Nat) :=
  [(0x41, 0x5A, 32), (0xC0, 0xD6, 32), (0xD8, 0xDE, 32), (0x386, 0x386, 38),
   (0x388, 0x38A, 37), (0x38C, 0x38C, 64), (0x38E, 0x38F, 63), (0x391, 0x3A1, 32),
   (0x3A3, 0x3AB, 32), (0x400, 0x40F, 80), (0x410, 0x42F, 32), (0x531, 0x556, 48)]

/-- Ranges in which each upper-case letter, at every other code point from the start of
the range, has its lower-case letter right after it. -/
def pairedCases : List (Nat × Nat) :=
  [(0x100, 0x12F), (0x132, 0x137), (0x139, 0x148), (0x14A, 0x177), (0x179, 0x17E),
   (0x1CD, 0x1DC), (0x1DE, 0x1EF), (0x1F8, 0x21F), (0x222, 0x233), (0x3D8, 0x3EF),
   (0x460, 0x481), (0x48A, 0x4BF), (0x4C1, 0x4CE), (0x4D0, 0x52F), (0x1E00, 0x1E95),
   (0x1EA0, 0x1EFF)]

/-- The code point of the lower-case letter. -/
def lowerCode (code : Nat) : Nat :=
  match shiftedCases.find? (fun (first, last, _) => first ≤ code && code ≤ last) with
  | some (_, _, distance) => code + distance
  | none =>
    match pairedCases.find? (fun (first, last) => first ≤ code && code ≤ last) with
    | some (first, _) => if (code - first) % 2 = 0 then code + 1 else code
    | none => code

/-- Characters that are mapped to others than their lower-case letter. -/
def specialMappings : List (Nat × List Char) :=
  [(0xA0, [' ']), (0xAA, ['a']), (0xB2, ['2']), (0xB3, ['3']), (0xB5, ['μ']), (0xB9, ['1']),
   (0xBA, ['o']), (0x130, ['i', '\u0307']), (0x132, ['i', 'j']), (0x133, ['i', 'j']),
   (0x13F, ['l', '·']), (0x140, ['l', '·']), (0x149, ['ʼ', 'n']), (0x178, ['ÿ']),
   (0x17F, ['s']), (0x1E9E, ['ß']), (0x3002, ['.']), (0xFF61, ['.'])]

/-- Whether a character is left out of a domain. -/
def isInvisible (code : Nat) : Bool :=
  [0xAD, 0x34F, 0x200B, 0x2060, 0x2064, 0xFEFF].contains code
    || (0x180B ≤ code && code ≤ 0x180D) || (0xFE00 ≤ code && code ≤ 0xFE0F)

/-- Whether a character is a wide form of an ASCII character. -/
def isWide (code : Nat) : Bool :=
  0xFF01 ≤ code && code ≤ 0xFF5E

/-- The characters that stand for a character of a domain. -/
def mapCharacter (character : Char) : List Char :=
  let code := character.toNat
  match specialMappings.lookup code with
  | some mapped => mapped
  | none =>
    if isInvisible code then []
    else if isWide code then [Char.ofNat (lowerCode (code - 0xFEE0))]
    else [Char.ofNat (lowerCode code)]

/-- Whether a character that is not ASCII cannot stand in a domain: controls, blanks,
marks without a character, and what is for private use. -/
def isForbidden (code : Nat) : Bool :=
  (0x80 ≤ code && code ≤ 0x9F) || (0x2000 ≤ code && code ≤ 0x200A)
    || (0x200E ≤ code && code ≤ 0x200F) || (0x2028 ≤ code && code ≤ 0x202F)
    || code = 0x205F || code = 0x3000 || (0xE000 ≤ code && code ≤ 0xF8FF)
    || (0xFDD0 ≤ code && code ≤ 0xFDEF) || (0xFFF0 ≤ code && code ≤ 0xFFFF) || 0xE0000 ≤ code

/-- Whether a character is ASCII. -/
def isAscii (character : Char) : Bool :=
  character.toNat < 0x80

/-- What a label in Punycode starts with. -/
def punycodeMark : List Char := ['x', 'n', '-', '-']

/-- Whether a text is the Punycode of a label that needs it. -/
def isPunycode (text : List Char) : Bool :=
  match Punycode.decode? text with
  | none => false
  | some label =>
    !label.all isAscii && label.flatMap mapCharacter == label
      && !label.any (isForbidden ·.toNat) && Punycode.encode label == text

/-- The written form of a label whose characters are mapped. -/
def labelText? (label : List Char) : Option (List Char) :=
  if label.take 4 = punycodeMark then
    if isPunycode (label.drop 4) then some label else none
  else if label.all isAscii then some label
  else some (punycodeMark ++ Punycode.encode label)

/-- The domain that a text stands for. -/
def readDomain? (text : List Char) : Option (List Char) :=
  let mapped := text.flatMap mapCharacter
  if mapped.any (isForbidden ·.toNat) then none
  else ((Text.splitAll '.' mapped).mapM labelText?).map (Text.join ['.'])

end Url
end SessionHub
