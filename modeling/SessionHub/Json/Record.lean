import SessionHub.Json.Node

/-!
# Records in JSON

A record is written as an object, or as an array of its fields in their order. Members
that are no field of the record are passed over. A record is read from a text part by
part, and the first fault met is reported: the text is not JSON there, or it is JSON of
the wrong shape. It is read from a value that is already at hand as a whole, and then
only its shape can be wrong.
-/

namespace SessionHub
namespace Json

/-- Why a text does not denote a value of some type. -/
inductive Fault
  /-- The text is not JSON, or not within the limits of what is read as JSON. -/
  | notJson
  /-- The text is JSON of another shape. -/
  | shape
deriving DecidableEq, Repr

/-! ## Single values -/

namespace Value

/-- The number from zero below a bound that a value is. -/
def natBelow? (bound : Nat) : Value → Option Nat
  | .number value => value.natBelow? bound
  | _ => none

/-- The 16-bit word that a value is. -/
def uint16? (value : Value) : Option UInt16 :=
  (value.natBelow? UInt16.size).map UInt16.ofNat

/-- The 64-bit word that a value is. -/
def uint64? (value : Value) : Option UInt64 :=
  (value.natBelow? UInt64.size).map UInt64.ofNat

/-- The signed 32-bit word that a value is. -/
def int32? : Value → Option Int32
  | .number value =>
    value.whole?.bind fun whole =>
      if -0x80000000 ≤ whole ∧ whole < 0x80000000 then some (Int32.ofInt whole) else none
  | _ => none

/-- What a value is that may be `null`. -/
def optional? (read : Value → Option α) : Value → Option (Option α)
  | .null => some none
  | value => (read value).map some

end Value

namespace Node

/-- The fault of a node where something else is expected. -/
def mismatch : Node → Fault
  | .broken | .string none => .notJson
  | .number literal => if literal.toNumber?.isNone then .notJson else .shape
  | .null | .bool _ | .string (some _) | .array _ _ | .object _ _ => .shape

/-- The value of a node that has no parts. -/
def leaf? : Node → Option Value
  | .null => some .null
  | .bool value => some (.bool value)
  | .number literal => literal.toNumber?.map .number
  | .string text => text.map .string
  | .array _ _ | .object _ _ | .broken => none

/-- Read a node that has no parts. -/
def readLeaf (read : Value → Option α) (node : Node) : Except Fault α :=
  match node.leaf?.bind read with
  | some value => .ok value
  | none => .error node.mismatch

end Node

/-! ## Records -/

/-- A field of a record that is being put together in a `Draft`. -/
structure RecordField (Draft : Type) where
  name : String
  /-- Whether the draft has the field already. -/
  isSet : Draft → Bool
  /-- Read the field from a text and put it into the draft. -/
  readNode : Node → Except Fault (Draft → Draft)
  /-- Read the field from a value and put it into the draft. -/
  readValue : Value → Option (Draft → Draft)
  /-- Whether an array may end before the field. -/
  mayBeCut : Bool := false

namespace RecordField

/-- A field whose values have no parts. -/
def leaf (name : String) (read : Value → Option α) (isSet : Draft → Bool)
    (put : α → Draft → Draft) (mayBeCut : Bool := false) : RecordField Draft where
  name := name
  isSet := isSet
  readNode node := (node.readLeaf read).map put
  readValue value := (read value).map put
  mayBeCut := mayBeCut

/-- Read the members of an object into a draft. -/
def readMembers (fields : List (RecordField Draft)) (closed : Bool) :
    List (Option String × Node) → Draft → Except Fault Draft
  | [], draft => if closed then .ok draft else .error .notJson
  | (none, _) :: _, _ => .error .notJson
  | (some key, node) :: rest, draft =>
    match fields.find? (·.name = key) with
    | none =>
      if node.isWhole then readMembers fields closed rest draft else .error .notJson
    | some field =>
      if field.isSet draft then .error .shape
      else
        match field.readNode node with
        | .error fault => .error fault
        | .ok update => readMembers fields closed rest (update draft)

/-- Read the items of an array into a draft. -/
def readItems (closed : Bool) :
    List (RecordField Draft) → List Node → Draft → Except Fault Draft
  | [], items, draft => if closed ∧ items.isEmpty then .ok draft else .error .notJson
  | field :: fields, [], draft =>
    if ¬closed then .error .notJson
    else if field.mayBeCut then readItems closed fields [] draft
    else .error .shape
  | field :: fields, node :: rest, draft =>
    match field.readNode node with
    | .error fault => .error fault
    | .ok update => readItems closed fields rest (update draft)

/-- Read a record from a text: its fields into a draft, and then the draft into a record,
which fails if a required field is missing. -/
def readRecord (fields : List (RecordField Draft)) (blank : Draft) (finish : Draft → Option α)
    (node : Node) : Except Fault α :=
  let draft :=
    match node with
    | .object members closed => readMembers fields closed members blank
    | .array items closed => readItems closed fields items blank
    | node => .error node.mismatch
  match draft with
  | .error fault => .error fault
  | .ok draft =>
    match finish draft with
    | none => .error .shape
    | some record => .ok record

/-- Put the members of an object value into a draft. -/
def takeMembers (fields : List (RecordField Draft)) :
    List (String × Value) → Draft → Option Draft
  | [], draft => some draft
  | (key, value) :: rest, draft =>
    match fields.find? (·.name = key) with
    | none => takeMembers fields rest draft
    | some field =>
      if field.isSet draft then none
      else (field.readValue value).bind fun update => takeMembers fields rest (update draft)

/-- Put the items of an array value into a draft. -/
def takeItems : List (RecordField Draft) → List Value → Draft → Option Draft
  | [], [], draft => some draft
  | [], _ :: _, _ => none
  | field :: fields, [], draft =>
    if field.mayBeCut then takeItems fields [] draft else none
  | field :: fields, value :: rest, draft =>
    (field.readValue value).bind fun update => takeItems fields rest (update draft)

/-- Read a record from a value. -/
def takeRecord (fields : List (RecordField Draft)) (blank : Draft) (finish : Draft → Option α) :
    Value → Option α
  | .object members => (takeMembers fields members blank).bind finish
  | .array items => (takeItems fields items blank).bind finish
  | _ => none

end RecordField

/-! ## Records with a tag -/

/-- How many levels may be open within a member of an object. -/
def innerDepth : Nat := maxDepth - 1

/-- Read the members of an object in which one member is the tag: this one is read at once,
and the other members are kept until all have been seen. -/
def readTagged (key : String) (readTag : Node → Except Fault Tag) (closed : Bool) :
    List (Option String × Node) → Option Tag → List (String × Value) →
      Except Fault (Option Tag × List (String × Value))
  | [], tag, others => if closed then .ok (tag, others.reverse) else .error .notJson
  | (none, _) :: _, _, _ => .error .notJson
  | (some name, node) :: rest, tag, others =>
    if name = key then
      if tag.isSome then .error .shape
      else
        match readTag node with
        | .error fault => .error fault
        | .ok found => readTagged key readTag closed rest (some found) others
    else
      match node.toValue? innerDepth with
      | none => .error .notJson
      | some value => readTagged key readTag closed rest tag ((name, value) :: others)

/-- Read a whole text: nothing but a gap may follow what is read. -/
def Document.read (read : Node → Except Fault α) (document : Document) : Except Fault α :=
  match read document.root with
  | .error fault => .error fault
  | .ok value => if document.ended then .ok value else .error .notJson

end Json
end SessionHub
