import SessionHub.Decimal.Binary64

/-!
# JSON values

An object is a list of members in the order in which they are written. `canonical` is
the form in which a payload is kept: the members of every object sorted by key, and of
two members with one key only the later.
-/

namespace SessionHub
namespace Json

open Decimal (Binary64)

/-- A number is a whole number within 64 bits, signed or unsigned, or else a binary64. -/
inductive Number
  | whole (value : Int) (lower : -0x8000000000000000 ≤ value) (upper : value < 0x10000000000000000)
  | real (value : Binary64)
deriving DecidableEq, Repr

namespace Number

/-- The number of a word. -/
def ofUInt64 (word : UInt64) : Number :=
  .whole word.toNat (by omega) (by have := word.toNat_lt; omega)

/-- The number of a small natural number. -/
def ofUInt16 (word : UInt16) : Number :=
  .whole word.toNat (by omega) (by have := word.toNat_lt; omega)

/-- The number of a signed word. -/
def ofInt32 (word : Int32) : Number :=
  .whole word.toInt (by have := word.le_toInt; omega) (by have := word.toInt_lt; omega)

/-- A natural number that fits a word, and zero otherwise. -/
def ofNat (value : Nat) : Number :=
  if upper : value < 0x10000000000000000 then .whole value (by omega) (by omega)
  else .whole 0 (by omega) (by omega)

/-- The whole number that a number is written as. -/
def whole? : Number → Option Int
  | .whole value _ _ => some value
  | .real _ => none

/-- The whole number from zero below a bound that a number is written as. -/
def natBelow? (bound : Nat) (number : Number) : Option Nat :=
  number.whole?.bind fun value =>
    if 0 ≤ value ∧ value < bound then some value.toNat else none

end Number

/-- A JSON value. -/
inductive Value
  | null
  | bool (value : Bool)
  | number (value : Number)
  | string (value : String)
  | array (items : List Value)
  | object (members : List (String × Value))
deriving Repr

namespace Value

instance : Inhabited Value := ⟨.null⟩

/-- The number of a natural number that fits a word. -/
def nat (value : Nat) : Value :=
  .number (.ofNat value)

/-- The encoding of what is present, and `null` for what is absent. -/
def ofOption (encode : α → Value) : Option α → Value
  | none => .null
  | some value => encode value

/-- The member that an optional field adds to an object: none if it is absent. -/
def optionalMember (name : String) (encode : α → Value) :
    Option α → List (String × Value)
  | none => []
  | some value => [(name, encode value)]

/-- The last member with a key. -/
def lookup (key : String) : List (String × Value) → Option Value
  | [] => none
  | (name, value) :: rest =>
    match lookup key rest with
    | some later => some later
    | none => if name = key then some value else none

/-- The member of an object with a key. -/
def get? (key : String) : Value → Option Value
  | .object members => lookup key members
  | _ => none

/-- The text of a string value. -/
def string? : Value → Option String
  | .string text => some text
  | _ => none

/-- Put a member into a list sorted by key, in the place of a member with the same key. -/
def insertMember (key : String) (value : Value) :
    List (String × Value) → List (String × Value)
  | [] => [(key, value)]
  | (name, old) :: rest =>
    if key < name then (key, value) :: (name, old) :: rest
    else if key = name then (key, value) :: rest
    else (name, old) :: insertMember key value rest

/-- Members sorted by key, with the last of those that share one. -/
def sortMembers (members : List (String × Value)) : List (String × Value) :=
  members.foldl (fun sorted member => insertMember member.1 member.2 sorted) []

mutual

/-- The value with the members of every object sorted and without repeated keys. -/
def canonical : Value → Value
  | .array items => .array (canonicalItems items)
  | .object members => .object (sortMembers (canonicalMembers members))
  | .null => .null
  | .bool value => .bool value
  | .number value => .number value
  | .string value => .string value

/-- `canonical` on each of several values. -/
def canonicalItems : List Value → List Value
  | [] => []
  | item :: rest => item.canonical :: canonicalItems rest

/-- `canonical` on the value of each of several members. -/
def canonicalMembers : List (String × Value) → List (String × Value)
  | [] => []
  | (key, value) :: rest => (key, value.canonical) :: canonicalMembers rest

end

mutual

/-- How many arrays and objects are open at once, at most, in the text of a value. -/
def depth : Value → Nat
  | .array items => depthOfItems items + 1
  | .object members => depthOfMembers members + 1
  | .null | .bool _ | .number _ | .string _ => 0

/-- The greatest depth of several values. -/
def depthOfItems : List Value → Nat
  | [] => 0
  | item :: rest => max item.depth (depthOfItems rest)

/-- The greatest depth of the values of several members. -/
def depthOfMembers : List (String × Value) → Nat
  | [] => 0
  | (_, value) :: rest => max value.depth (depthOfMembers rest)

end

mutual

/-- The members of every object stand in strictly increasing order of their keys. -/
def IsCanonical : Value → Prop
  | .array items => AllCanonical items
  | .object members =>
    members.Pairwise (fun first second => first.1 < second.1) ∧ MembersCanonical members
  | .null | .bool _ | .number _ | .string _ => True

/-- `IsCanonical` of each of several values. -/
def AllCanonical : List Value → Prop
  | [] => True
  | item :: rest => item.IsCanonical ∧ AllCanonical rest

/-- `IsCanonical` of the value of each of several members. -/
def MembersCanonical : List (String × Value) → Prop
  | [] => True
  | (_, value) :: rest => value.IsCanonical ∧ MembersCanonical rest

end

end Value
end Json
end SessionHub
