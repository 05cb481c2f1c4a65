/-!
# TOML values

A document is a table. How a table came into being decides whether later statements may
add to it, so each table remembers its origin.
-/

namespace SessionHub
namespace Toml

/-- How a table came into being. -/
inductive Origin
  /-- Written in braces; nothing can be added. -/
  | inline
  /-- Opened by a header of its own. -/
  | header
  /-- Mentioned on the way to a table with a header. -/
  | implicit
  /-- Mentioned in a dotted key. -/
  | dotted
deriving DecidableEq, Repr

/-- A value. Of numbers that are not whole, and of dates and times, only the text is
kept. -/
inductive Value
  | string (text : String)
  | integer (value : Int)
  | boolean (value : Bool)
  | float (text : List Char)
  | moment (text : List Char)
  | array (items : List Value)
  | table (origin : Origin) (entries : List (String × Value))
  /-- An array whose items were opened by headers, the last one first. -/
  | tables (items : List (List (String × Value)))
deriving Repr

namespace Value

instance : Inhabited Value := ⟨.boolean false⟩

/-- The text of a string value. -/
def string? : Value → Option String
  | .string text => some text
  | _ => none

/-- The whole number from zero below a bound that a value is. -/
def natBelow? (bound : Nat) : Value → Option Nat
  | .integer value => if 0 ≤ value ∧ value < bound then some value.toNat else none
  | _ => none

/-- The 16-bit word that a value is. -/
def uint16? (value : Value) : Option UInt16 :=
  (value.natBelow? UInt16.size).map UInt16.ofNat

/-- The 64-bit word that a value is. -/
def uint64? (value : Value) : Option UInt64 :=
  (value.natBelow? UInt64.size).map UInt64.ofNat

end Value

/-- The entries of a table, in the order of their first mention. -/
abbrev Entries := List (String × Value)

/-- Replace the value at a key, or add an entry. -/
def put (key : String) (value : Value) : Entries → Entries
  | [] => [(key, value)]
  | (name, old) :: rest =>
    if name = key then (name, value) :: rest else (name, old) :: put key value rest

/-! ## Adding to tables -/

/-- Change the table at a path. Tables on the way come into being where there are none.
A path leads to the last item of an array of tables, and into no value that was written
as a whole. -/
def changeAt (change : Entries → Option Entries) : List String → Entries → Option Entries
  | [], entries => change entries
  | key :: path, entries =>
    match entries.lookup key with
    | none => (changeAt change path []).map fun inner => put key (.table .implicit inner) entries
    | some (.table .inline _) => none
    | some (.table origin inner) =>
      (changeAt change path inner).map fun inner => put key (.table origin inner) entries
    | some (.tables (last :: others)) =>
      (changeAt change path last).map fun last => put key (.tables (last :: others)) entries
    | some _ => none

/-- Add a value under a dotted key. Tables that the key mentions must be open to dotted
keys, and there must be no value at its end. -/
def assign (value : Value) : List String → String → Entries → Option Entries
  | [], key, entries =>
    if (entries.lookup key).isSome then none else some (put key value entries)
  | name :: path, key, entries =>
    match entries.lookup name with
    | none =>
      (assign value path key []).map fun inner => put name (.table .dotted inner) entries
    | some (.table .dotted inner) =>
      (assign value path key inner).map fun inner => put name (.table .dotted inner) entries
    | some (.table .implicit inner) =>
      if path.isEmpty then none
      else
        (assign value path key inner).map fun inner =>
          put name (.table .implicit inner) entries
    | some _ => none

/-- Open the table at a key by a header. -/
def openTable (key : String) (entries : Entries) : Option Entries :=
  match entries.lookup key with
  | none => some (put key (.table .header []) entries)
  | some (.table .implicit inner) => some (put key (.table .header inner) entries)
  | some _ => none

/-- Open another item of the array of tables at a key by a header. -/
def openItem (key : String) (entries : Entries) : Option Entries :=
  match entries.lookup key with
  | none => some (put key (.tables [[]]) entries)
  | some (.tables items) => some (put key (.tables ([] :: items)) entries)
  | some _ => none

end Toml
end SessionHub
