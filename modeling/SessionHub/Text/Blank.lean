/-!
# Blank characters, lines and fields

`isBlank` is the Unicode property White_Space. Trimming, lines and cutting at a
separator are stated on lists of characters; the versions on `String` only convert.
-/

namespace SessionHub
namespace Text

/-- The characters with the Unicode property White_Space. -/
def isBlank (character : Char) : Bool :=
  let code := character.toNat
  (0x09 ≤ code && code ≤ 0x0D) || code == 0x20 || code == 0x85 || code == 0xA0
    || code == 0x1680 || (0x2000 ≤ code && code ≤ 0x200A) || code == 0x2028
    || code == 0x2029 || code == 0x202F || code == 0x205F || code == 0x3000

/-- A check of the codes above: every character that core counts as white space is blank. -/
theorem isBlank_of_isWhitespace {character : Char} (white : character.isWhitespace) :
    isBlank character := by
  simp only [Char.isWhitespace, Bool.or_eq_true, decide_eq_true_eq] at white
  rcases white with ((rfl | rfl) | rfl) | rfl <;> rfl

/-- A text without its leading blanks. -/
def trimStart (text : List Char) : List Char :=
  text.dropWhile isBlank

/-- A text without its leading and trailing blanks. -/
def trimBoth (text : List Char) : List Char :=
  (trimStart (trimStart text).reverse).reverse

/-- A string without its leading and trailing blanks. -/
def trim (text : String) : String :=
  String.ofList (trimBoth text.toList)

/-- Cut at every occurrence of a separator. -/
def splitAll (separator : Char) : List Char → List (List Char)
  | [] => [[]]
  | character :: rest =>
    if character = separator then [] :: splitAll separator rest
    else
      match splitAll separator rest with
      | [] => [[character]]
      | piece :: pieces => (character :: piece) :: pieces

/-- Cut at the first occurrence of a separator: what stands before it, and what stands
after it if there is one. -/
def splitFirst (separator : Char) : List Char → List Char × Option (List Char)
  | [] => ([], none)
  | character :: rest =>
    if character = separator then ([], some rest)
    else
      let (before, after) := splitFirst separator rest
      (character :: before, after)

/-- A line without the carriage return that stood before its line feed. -/
def dropReturn (line : List Char) : List Char :=
  if line.getLast? = some '\r' then line.dropLast else line

/-- The lines of a text. A line ends at a line feed, with or without a carriage return
before it; the text after the last line feed is a line if it is not empty. -/
def lines (text : List Char) : List (List Char) :=
  let pieces := splitAll '\n' text
  let last := pieces.getLastD []
  pieces.dropLast.map dropReturn ++ (if last.isEmpty then [] else [last])

/-- Whether one text occurs within another. -/
def contains (needle : List Char) : List Char → Bool
  | [] => needle.isEmpty
  | character :: rest =>
    needle.isPrefixOf (character :: rest) || contains needle rest

/-- Join texts with a separator between neighbours. -/
def join (separator : List Char) : List (List Char) → List Char
  | [] => []
  | [piece] => piece
  | piece :: pieces => piece ++ separator ++ join separator pieces

end Text
end SessionHub
