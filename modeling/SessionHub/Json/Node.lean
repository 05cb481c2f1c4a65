import SessionHub.Json.Value
import SessionHub.Text.Utf8
import SessionHub.Text.Numeral

/-!
# JSON text as it stands

A `Node` is what is read of a JSON text before anything is asked of it. It keeps apart
what only some readers object to: a string with a lone surrogate, a number of any size,
any depth of nesting, repeated keys. A text that breaks off or goes wrong gives a node
whose innermost open part is `broken` or not closed, so that a reader which visits the
parts in order finds its first complaint where the text has it.
-/

namespace SessionHub
namespace Json

open Decimal (Binary64)

/-! ## Literals -/

/-- The parts of a number as it is written. -/
structure Literal where
  negative : Bool
  whole : List Char
  fraction : Option (List Char)
  /-- Whether the exponent is negative, and its digits. -/
  exponent : Option (Bool × List Char)
deriving DecidableEq, Repr

namespace Literal

/-- Append digits to a number for as long as it stays within 64 bits: the number, and
the digits left over. -/
def absorb (value : Nat) : List Char → Nat × List Char
  | [] => (value, [])
  | digit :: rest =>
    let next := value * 10 + (digit.toNat - 48)
    if next < 0x10000000000000000 then absorb next rest else (value, digit :: rest)

/-- The number of a literal without fraction and exponent whose digits fit a word. A
negative zero and numbers below the signed words are binary64. -/
def wholeNumber (negative : Bool) (value : Nat) : Option Number :=
  if negative then
    if lower : 0 < value ∧ value ≤ 0x8000000000000000 then
      some (.whole (-(value : Int)) (by omega) (by omega))
    else (Binary64.ofScaled true value 0).map .real
  else if value < 0x10000000000000000 then some (.ofNat value)
  else none

/-- The number that a literal denotes, or `none` if it lies beyond the greatest binary64.
Only the leading digits that fit a word count; the others set the scale. -/
def toNumber? (literal : Literal) : Option Number :=
  let (head, dropped) := absorb 0 literal.whole
  match literal.fraction, literal.exponent, dropped with
  | none, none, [] => wholeNumber literal.negative head
  | _, _, _ =>
    let fraction := literal.fraction.getD []
    let (digits, ignored) := absorb head fraction
    let scale : Int := (dropped.length : Int) - ((fraction.length - ignored.length : Nat) : Int)
    match literal.exponent with
    | none => (Binary64.ofScaled literal.negative digits scale).map .real
    | some (down, text) =>
      let shift := (Text.natOfDigits? 10 text).getD 0
      if 0x80000000 ≤ shift then
        if digits = 0 ∨ down then
          (Binary64.ofScaled literal.negative 0 0).map .real
        else none
      else
        (Binary64.ofScaled literal.negative digits
          (if down then scale - shift else scale + shift)).map .real

end Literal

/-- One unit of a string as it is written: a character, or the code of an escape. -/
inductive StringUnit
  | char (character : Char)
  | escape (code : Nat)
deriving DecidableEq, Repr

/-- The text of string units. Two escapes may be a pair of surrogates; a surrogate that
is no part of a pair makes the string unreadable. -/
def joinUnits : List StringUnit → Option (List Char)
  | [] => some []
  | .char character :: rest => (joinUnits rest).map (character :: ·)
  | .escape high :: rest =>
    if 0xD800 ≤ high ∧ high ≤ 0xDBFF then
      match rest with
      | .escape low :: rest =>
        if 0xDC00 ≤ low ∧ low ≤ 0xDFFF then
          (joinUnits rest).map
            (Char.ofNat (0x10000 + (high - 0xD800) * 0x400 + (low - 0xDC00)) :: ·)
        else none
      | _ => none
    else if 0xDC00 ≤ high ∧ high ≤ 0xDFFF then none
    else (joinUnits rest).map (Char.ofNat high :: ·)

/-- The code of four hexadecimal digits. -/
def hexCode? (first second third fourth : Char) : Option Nat := do
  let a ← Text.digitValue? first
  let b ← Text.digitValue? second
  let c ← Text.digitValue? third
  let d ← Text.digitValue? fourth
  pure (((a * 16 + b) * 16 + c) * 16 + d)

/-- The character that a one-letter escape stands for. -/
def escaped? (letter : Char) : Option Char :=
  if letter = '"' then some '"'
  else if letter = '\\' then some '\\'
  else if letter = '/' then some '/'
  else if letter = 'b' then some '\x08'
  else if letter = 'f' then some '\x0c'
  else if letter = 'n' then some '\n'
  else if letter = 'r' then some '\r'
  else if letter = 't' then some '\t'
  else none

/-- The units of a string whose opening quotation mark has been read, and the text after
its closing one. -/
def lexUnits : List Char → Option (List StringUnit × List Char)
  | [] => none
  | '"' :: rest => some ([], rest)
  | '\\' :: 'u' :: first :: second :: third :: fourth :: rest => do
    let code ← hexCode? first second third fourth
    let (units, after) ← lexUnits rest
    pure (.escape code :: units, after)
  | '\\' :: letter :: rest => do
    let character ← escaped? letter
    let (units, after) ← lexUnits rest
    pure (.char character :: units, after)
  | character :: rest =>
    if character.toNat < 32 ∨ character = '\\' then none
    else do
      let (units, after) ← lexUnits rest
      pure (.char character :: units, after)

/-- The leading decimal digits of a text, and what follows them. -/
def lexDigits (text : List Char) : List Char × List Char :=
  (text.takeWhile Text.isDigit, text.dropWhile Text.isDigit)

/-- The exponent of a number, if there is one. `none` is an exponent without digits. -/
def lexExponent : List Char → Option (Option (Bool × List Char) × List Char)
  | mark :: rest =>
    if mark = 'e' ∨ mark = 'E' then
      let (down, rest) :=
        match rest with
        | '-' :: rest => (true, rest)
        | '+' :: rest => (false, rest)
        | rest => (false, rest)
      let (digits, after) := lexDigits rest
      if digits.isEmpty then none else some (some (down, digits), after)
    else some (none, mark :: rest)
  | [] => some (none, [])

/-- The fraction of a number, if there is one. `none` is a point without digits. -/
def lexFraction : List Char → Option (Option (List Char) × List Char)
  | '.' :: rest =>
    let (digits, after) := lexDigits rest
    if digits.isEmpty then none else some (some digits, after)
  | rest => some (none, rest)

/-- A number, and what follows it. A whole part of several digits does not begin with a
zero. -/
def lexNumber (text : List Char) : Option (Literal × List Char) := do
  let negative := text.head? = some '-'
  let (whole, rest) := lexDigits (if negative then text.drop 1 else text)
  if whole.isEmpty ∨ (1 < whole.length ∧ whole.head? = some '0') then none
  else
    let (fraction, rest) ← lexFraction rest
    let (exponent, rest) ← lexExponent rest
    pure (⟨negative, whole, fraction, exponent⟩, rest)

/-! ## Nodes -/

/-- A part of a JSON text. A string is `none` if it is unreadable; `closed` tells whether
the end of an array or object was found where it may stand. -/
inductive Node
  | null
  | bool (value : Bool)
  | number (literal : Literal)
  | string (text : Option String)
  | array (items : List Node) (closed : Bool)
  | object (members : List (Option String × Node)) (closed : Bool)
  | broken
deriving Repr

/-- The blanks that may stand between the parts of a JSON text. -/
def isGap (character : Char) : Bool :=
  character = ' ' || character = '\n' || character = '\t' || character = '\r'

/-- A text without its leading gap. -/
def skipGap (text : List Char) : List Char :=
  text.dropWhile isGap

/-- The text of string units as a string. -/
def unitsToString (units : List StringUnit) : Option String :=
  (joinUnits units).map String.ofList

mutual

/-- The node at the beginning of a text, and the text after it. The first argument bounds
the number of nested calls; twice the length of the text is enough. -/
def parseNode : Nat → List Char → Node × List Char
  | 0, _ => (.broken, [])
  | fuel + 1, text =>
    match text with
    | 'n' :: 'u' :: 'l' :: 'l' :: rest => (.null, rest)
    | 't' :: 'r' :: 'u' :: 'e' :: rest => (.bool true, rest)
    | 'f' :: 'a' :: 'l' :: 's' :: 'e' :: rest => (.bool false, rest)
    | '"' :: rest =>
      match lexUnits rest with
      | none => (.broken, [])
      | some (units, rest) => (.string (unitsToString units), rest)
    | '[' :: rest =>
      match skipGap rest with
      | ']' :: rest => (.array [] true, rest)
      | rest =>
        let (items, closed, rest) := parseItems fuel rest
        (.array items closed, rest)
    | '\x7b' :: rest =>
      match skipGap rest with
      | '\x7d' :: rest => (.object [] true, rest)
      | rest =>
        let (members, closed, rest) := parseMembers fuel rest
        (.object members closed, rest)
    | text =>
      match lexNumber text with
      | none => (.broken, [])
      | some (literal, rest) => (.number literal, rest)

/-- The items of an array, from the first one on: the items, whether the array is closed,
and the text after it. -/
def parseItems : Nat → List Char → List Node × Bool × List Char
  | 0, _ => ([], false, [])
  | _ + 1, [] => ([], false, [])
  | fuel + 1, text =>
    let (item, rest) := parseNode fuel text
    match skipGap rest with
    | ']' :: rest => ([item], true, rest)
    | ',' :: rest =>
      match skipGap rest with
      | ']' :: _ => ([item], false, [])
      | rest =>
        let (items, closed, rest) := parseItems fuel rest
        (item :: items, closed, rest)
    | _ => ([item], false, [])

/-- The members of an object, from the first one on. -/
def parseMembers : Nat → List Char → List (Option String × Node) × Bool × List Char
  | 0, _ => ([], false, [])
  | fuel + 1, '"' :: rest =>
    match lexUnits rest with
    | none => ([], false, [])
    | some (units, rest) =>
      let key := unitsToString units
      match skipGap rest with
      | ':' :: rest =>
        let (value, rest) := parseNode fuel (skipGap rest)
        match skipGap rest with
        | '\x7d' :: rest => ([(key, value)], true, rest)
        | ',' :: rest =>
          match skipGap rest with
          | '\x7d' :: _ => ([(key, value)], false, [])
          | rest =>
            let (members, closed, rest) := parseMembers fuel rest
            ((key, value) :: members, closed, rest)
        | _ => ([(key, value)], false, [])
      | _ => ([(key, .broken)], false, [])
  | _ + 1, _ => ([], false, [])

end

/-- A whole JSON text: its node, and whether nothing but a gap follows it. -/
structure Document where
  root : Node
  ended : Bool

namespace Document

/-- Read a text. -/
def ofText (text : List Char) : Document :=
  let start := skipGap text
  let (root, rest) := parseNode (2 * start.length + 2) start
  ⟨root, (skipGap rest).isEmpty⟩

/-- What a byte that is part of no character reads as: two leading surrogates, which are
unreadable in a string and out of place anywhere else. -/
def stray : List Char :=
  "\\ud800\\ud800".toList

/-- The text of bytes for the purpose of reading JSON. -/
def textOfBytes (bytes : List UInt8) : List Char :=
  match bytes with
  | [] => []
  | byte :: rest =>
    let piece := Text.Utf8.firstPiece (byte :: rest)
    (match piece.1 with
      | some character => [character]
      | none => stray) ++ textOfBytes ((byte :: rest).drop piece.2)
termination_by bytes.length
decreasing_by
  have := Text.Utf8.firstPiece_pos (byte :: rest)
  simp only [List.length_drop, List.length_cons]
  omega

/-- Read bytes. -/
def ofBytes (bytes : List UInt8) : Document :=
  ofText (textOfBytes bytes)

end Document

namespace Node

mutual

/-- Whether a node is complete, so that a reader may pass over it. -/
def isWhole : Node → Bool
  | .array items closed => closed && allWhole items
  | .object members closed => closed && membersWhole members
  | .broken => false
  | .null | .bool _ | .number _ | .string _ => true

/-- `isWhole` of each of several nodes. -/
def allWhole : List Node → Bool
  | [] => true
  | item :: rest => item.isWhole && allWhole rest

/-- `isWhole` of the value of each of several members. -/
def membersWhole : List (Option String × Node) → Bool
  | [] => true
  | (_, value) :: rest => value.isWhole && membersWhole rest

end

mutual

/-- The value of a node in which at most so many arrays and objects are open at once, and
whose strings are readable and numbers in range. -/
def toValue? (levels : Nat) : Node → Option Value
  | .null => some .null
  | .bool value => some (.bool value)
  | .number literal => literal.toNumber?.map .number
  | .string text => text.map .string
  | .array items closed =>
    if closed ∧ 0 < levels then (itemValues? (levels - 1) items).map .array else none
  | .object members closed =>
    if closed ∧ 0 < levels then (memberValues? (levels - 1) members).map .object else none
  | .broken => none

/-- The values of several nodes. -/
def itemValues? (levels : Nat) : List Node → Option (List Value)
  | [] => some []
  | item :: rest => do
    let value ← item.toValue? levels
    let values ← itemValues? levels rest
    pure (value :: values)

/-- The values of several members. -/
def memberValues? (levels : Nat) :
    List (Option String × Node) → Option (List (String × Value))
  | [] => some []
  | (key, item) :: rest => do
    let name ← key
    let value ← item.toValue? levels
    let values ← memberValues? levels rest
    pure ((name, value) :: values)

end

end Node

/-- How many arrays and objects of a text may be open at once. -/
def maxDepth : Nat := 127

/-- The value of a JSON text, with repeated keys and the order of keys as written. -/
def Document.toValue? (document : Document) : Option Value :=
  if document.ended then document.root.toValue? maxDepth else none

/-- The value of a JSON text, in canonical form. -/
def Value.parse? (text : String) : Option Value :=
  (Document.ofText text.toList).toValue?.map Value.canonical

end Json
end SessionHub
