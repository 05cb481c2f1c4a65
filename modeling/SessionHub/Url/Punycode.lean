/-!
# Punycode

A label that is not ASCII is written in ASCII: its ASCII characters first, then a hyphen
if there are any, and then where the others belong. For each of the others, in the order
of their code points and places, there is one number: how many steps of a counter, which
runs through the places of the label for each code point in turn, lie between it and the
one before. The numbers are written in base 36 with the least significant digit first; a
digit below a threshold, which depends on its place and on a bias, is the last one. The
bias follows the size of the numbers.
-/

namespace SessionHub
namespace Url
namespace Punycode

/-- How many digits there are. -/
def base : Nat := 36

/-- The first code point that is not ASCII. -/
def firstCode : Nat := 128

/-- The bias before the first number. -/
def firstBias : Nat := 72

/-- The digit of a value. -/
def digit (value : Nat) : Char :=
  if value < 26 then Char.ofNat (97 + value) else Char.ofNat (22 + value)

/-- The value of a digit. -/
def valueOf? (character : Char) : Option Nat :=
  if 'a' ≤ character ∧ character ≤ 'z' then some (character.toNat - 97)
  else if 'A' ≤ character ∧ character ≤ 'Z' then some (character.toNat - 65)
  else if '0' ≤ character ∧ character ≤ '9' then some (character.toNat - 22)
  else none

/-- The threshold of the digit at a place, where places count in steps of the base. -/
def threshold (place bias : Nat) : Nat :=
  max 1 (min 26 (place - bias))

theorem threshold_pos (place bias : Nat) : 0 < threshold place bias := by
  unfold threshold; omega

/-- How often a size is divided until it is small, times the base, and what is left. -/
def scaleDown (size : Nat) : Nat × Nat :=
  if 455 < size then
    let (scale, left) := scaleDown (size / 35)
    (scale + base, left)
  else (0, size)
termination_by size
decreasing_by exact Nat.div_lt_self (by omega) (by omega)

/-- The bias after a number, with so many characters of the label known by then. The
first number counts less. -/
def adapt (number known : Nat) (isFirst : Bool) : Nat :=
  let damped := if isFirst then number / 700 else number / 2
  let (scale, left) := scaleDown (damped + damped / known)
  scale + 36 * left / (left + 38)

/-! ## Writing -/

/-- The digits of a number from a place on. -/
def digits (bias place number : Nat) : List Char :=
  let limit := threshold place bias
  if number < limit then [digit number]
  else
    digit (limit + (number - limit) % (base - limit)) ::
      digits bias (place + base) ((number - limit) / (base - limit))
termination_by number
decreasing_by
  have positive := threshold_pos place bias
  exact Nat.lt_of_le_of_lt (Nat.div_le_self _ _) (by omega)

/-- What has been written so far. -/
structure Writing where
  /-- The steps since the last character that was written. -/
  steps : Nat := 0
  bias : Nat := firstBias
  /-- How many characters of the label are known. -/
  known : Nat
  isFirst : Bool := true
  written : List Char := []

/-- Pass a character of the label while a code point is looked for. -/
def Writing.pass (code : Nat) (writing : Writing) (character : Char) : Writing :=
  if character.toNat < code then { writing with steps := writing.steps + 1 }
  else if character.toNat = code then
    { steps := 0
      bias := adapt writing.steps (writing.known + 1) writing.isFirst
      known := writing.known + 1
      isFirst := false
      written := writing.written ++ digits writing.bias base writing.steps }
  else writing

/-- Look for code points in turn. `next` is the code point where the counter stands. -/
def writeCodes (label : List Char) : List Nat → Nat → Writing → Writing
  | [], _, writing => writing
  | code :: codes, next, writing =>
    let skipped := { writing with
      steps := writing.steps + (code - next) * (writing.known + 1) }
    let passed := label.foldl (Writing.pass code) skipped
    writeCodes label codes (code + 1) { passed with steps := passed.steps + 1 }

/-- The code points of a label that are not ASCII, each once, in order. -/
def codes (label : List Char) : List Nat :=
  (((label.map Char.toNat).filter (firstCode ≤ ·)).mergeSort (· ≤ ·)).eraseDups

/-- The text of a label. -/
def encode (label : List Char) : List Char :=
  let basic := label.filter (·.toNat < firstCode)
  let hyphen := if basic.isEmpty then [] else ['-']
  basic ++ hyphen ++ (writeCodes label (codes label) firstCode { known := basic.length }).written

/-! ## Reading -/

/-- Read a number from a place on: the number times the weight of its place, and what
follows it. -/
def readNumber (bias place weight : Nat) : List Char → Option (Nat × List Char)
  | [] => none
  | character :: rest =>
    match valueOf? character with
    | none => none
    | some value =>
      if value < threshold place bias then some (value * weight, rest)
      else
        (readNumber bias (place + base) (weight * (base - threshold place bias)) rest).map
          fun (more, rest) => (value * weight + more, rest)

theorem readNumber_length {bias : Nat} {text : List Char} {place weight : Nat}
    {result : Nat × List Char} (read : readNumber bias place weight text = some result) :
    result.2.length < text.length := by
  induction text generalizing place weight result with
  | nil => simp [readNumber] at read
  | cons character rest ih =>
    simp only [readNumber] at read
    split at read
    · simp at read
    · split at read
      · simp only [Option.some.injEq] at read
        subst read
        simp
      · obtain ⟨inner, innerRead, rfl⟩ := Option.map_eq_some_iff.1 read
        have shorter := ih innerRead
        simp only [List.length_cons]
        omega

/-- Whether a code point is a character. -/
def isCharacter (code : Nat) : Bool :=
  code < 0xD800 || (0xDFFF < code && code < 0x110000)

/-- Read numbers and put the characters they stand for in their places. -/
def readCodes (label : List Char) (code place bias : Nat) (isFirst : Bool)
    (text : List Char) : Option (List Char) :=
  if text.isEmpty then some label
  else
    match _read : readNumber bias base 1 text with
    | none => none
    | some (number, rest) =>
      let known := label.length + 1
      let code := code + (place + number) / known
      let place := (place + number) % known
      if isCharacter code then
        readCodes (label.insertIdx place (Char.ofNat code)) code (place + 1)
          (adapt number known isFirst) false rest
      else none
termination_by text.length
decreasing_by exact readNumber_length _read

/-- The characters up to the last hyphen, and those after it. -/
def splitAtLastHyphen (text : List Char) : List Char × List Char :=
  let tail := (text.reverse.takeWhile (· ≠ '-')).reverse
  ((text.take (text.length - tail.length)).dropLast, tail)

/-- The label of a text. -/
def decode? (text : List Char) : Option (List Char) :=
  let (basic, extension) := splitAtLastHyphen text
  if basic.all (·.toNat < firstCode) then
    readCodes basic firstCode 0 firstBias true extension
  else none

end Punycode
end Url
end SessionHub
