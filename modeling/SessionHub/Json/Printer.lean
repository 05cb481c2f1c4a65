import SessionHub.Json.Value
import SessionHub.Decimal.Shortest

/-!
# JSON text

`Value.render` writes a value without blanks; `Value.renderIndented` writes it over
several lines. No character below U+0020 stands in the text of `render`.
-/

namespace SessionHub
namespace Json

open Decimal

/-- The layout of numbers that are not whole. -/
structure RealLayout where
  /-- The least decimal exponent that is written without an exponent. -/
  leastPositional : Int
  /-- The greatest decimal exponent that is written without an exponent. -/
  greatestPositional : Int

/-- Numbers from `1e-5` below `1e16` are written positionally, and with a fraction even if
it is zero; others have one digit before the point and a signed exponent. -/
def realLayout : RealLayout := ⟨-5, 15⟩

/-- The text of a decimal in a layout. -/
def RealLayout.render (layout : RealLayout) (decimal : Scaled) : List Char :=
  let digits := Text.natDigits decimal.digits
  let count := digits.length
  let exponent := decimal.exponent + count - 1
  if decimal.digits = 0 then "0.0".toList
  else if layout.leastPositional ≤ exponent ∧ exponent ≤ layout.greatestPositional then
    if (count : Int) ≤ exponent + 1 then
      digits ++ List.replicate (exponent + 1 - count).toNat '0' ++ ".0".toList
    else if 0 ≤ exponent then
      digits.take (exponent + 1).toNat ++ '.' :: digits.drop (exponent + 1).toNat
    else "0.".toList ++ List.replicate (-exponent - 1).toNat '0' ++ digits
  else
    let fraction := digits.drop 1
    let sign := if exponent < 0 then '-' else '+'
    digits.take 1 ++ (if fraction.isEmpty then [] else '.' :: fraction)
      ++ 'e' :: sign :: Text.natDigits exponent.natAbs

/-- The text of a number. -/
def Number.render : Number → List Char
  | .whole value _ _ => Text.intDigits value
  | .real value =>
    (if value.negative then ['-'] else []) ++ realLayout.render value.magnitude.shortest

/-- The text of one character within a string. Quotation marks, backslashes and control
characters are escaped. -/
def escape (character : Char) : List Char :=
  if character = '"' then ['\\', '"']
  else if character = '\\' then ['\\', '\\']
  else if character = '\x08' then ['\\', 'b']
  else if character = '\t' then ['\\', 't']
  else if character = '\n' then ['\\', 'n']
  else if character = '\x0c' then ['\\', 'f']
  else if character = '\r' then ['\\', 'r']
  else if character.toNat < 32 then
    ['\\', 'u', '0', '0', Text.hexDigit (character.toNat / 16),
      Text.hexDigit (character.toNat % 16)]
  else [character]

/-- The text of a string, in quotation marks. -/
def renderString (text : String) : List Char :=
  '"' :: (text.toList.flatMap escape ++ ['"'])

namespace Value

mutual

/-- The text of a value, without blanks. -/
def renderChars : Value → List Char
  | .null => "null".toList
  | .bool true => "true".toList
  | .bool false => "false".toList
  | .number value => value.render
  | .string value => renderString value
  | .array items => '[' :: (renderItems items ++ [']'])
  | .object members => '\x7b' :: (renderMembers members ++ ['\x7d'])

/-- The texts of several values, with commas between them. -/
def renderItems : List Value → List Char
  | [] => []
  | [item] => item.renderChars
  | item :: rest => item.renderChars ++ ',' :: renderItems rest

/-- The texts of several members, with commas between them. -/
def renderMembers : List (String × Value) → List Char
  | [] => []
  | [(key, value)] => renderString key ++ ':' :: value.renderChars
  | (key, value) :: rest =>
    renderString key ++ ':' :: (value.renderChars ++ ',' :: renderMembers rest)

end

/-- The text of a value, without blanks. -/
def render (value : Value) : String :=
  String.ofList value.renderChars

/-- A line feed and two blanks for each level. -/
def newLine (level : Nat) : List Char :=
  '\n' :: List.replicate (2 * level) ' '

mutual

/-- The text of a value at a level of indentation, one item or member to a line. -/
def indentedChars (level : Nat) : Value → List Char
  | .array items =>
    if items.isEmpty then "[]".toList
    else '[' :: (indentedItems (level + 1) items ++ newLine level ++ [']'])
  | .object members =>
    if members.isEmpty then ['\x7b', '\x7d']
    else '\x7b' :: (indentedMembers (level + 1) members ++ newLine level ++ ['\x7d'])
  | .null => "null".toList
  | .bool true => "true".toList
  | .bool false => "false".toList
  | .number value => value.render
  | .string value => renderString value

/-- Several values, each on a line of its own. -/
def indentedItems (level : Nat) : List Value → List Char
  | [] => []
  | [item] => newLine level ++ item.indentedChars level
  | item :: rest =>
    newLine level ++ item.indentedChars level ++ ',' :: indentedItems level rest

/-- Several members, each on a line of its own. -/
def indentedMembers (level : Nat) : List (String × Value) → List Char
  | [] => []
  | [(key, value)] =>
    newLine level ++ renderString key ++ ": ".toList ++ value.indentedChars level
  | (key, value) :: rest =>
    newLine level ++ renderString key ++ ": ".toList ++ value.indentedChars level
      ++ ',' :: indentedMembers level rest

end

/-- The text of a value over several lines, indented by two blanks a level. -/
def renderIndented (value : Value) : String :=
  String.ofList (value.indentedChars 0)

end Value
end Json
end SessionHub
