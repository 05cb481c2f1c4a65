import SessionHub.Json.Printer
import SessionHub.Json.Record
import SessionHub.Text.Blank

/-!
# Resize messages

A client tells the size of its window in a text frame whose JSON object has the type
`resize`. `ResizeReading.ofText` sorts texts into such messages, texts that only
resemble one, and all others.
-/

namespace SessionHub
namespace Terminal

open Json (Document Fault RecordField)

/-- The size of a terminal window in characters. -/
structure WindowSize where
  cols : UInt16
  rows : UInt16
deriving DecidableEq, Repr, Inhabited

/-- A control message with the size of a window. -/
structure ResizeMessage where
  kind : String
  size : WindowSize
deriving DecidableEq, Repr

namespace ResizeMessage

/-- The kind of message that resizes. -/
def resizeKind : String := "resize"

/-- The message that asks for a size. -/
def ofSize (size : WindowSize) : ResizeMessage :=
  ⟨resizeKind, size⟩

/-- The JSON value of a message. -/
def toJson (message : ResizeMessage) : Json.Value :=
  .object
    [("type", .string message.kind), ("cols", .number (.ofUInt16 message.size.cols)),
      ("rows", .number (.ofUInt16 message.size.rows))]

/-- The text of a message as it is sent. -/
def text (message : ResizeMessage) : String :=
  message.toJson.render

/-- A message that is being read. -/
structure Draft where
  kind : Option String := none
  cols : Option UInt16 := none
  rows : Option UInt16 := none

/-- The fields of a message. -/
def fields : List (RecordField Draft) :=
  [.leaf "type" Json.Value.string? (·.kind.isSome)
     (fun text draft => { draft with kind := some text }),
   .leaf "cols" Json.Value.uint16? (·.cols.isSome)
     (fun cols draft => { draft with cols := some cols }),
   .leaf "rows" Json.Value.uint16? (·.rows.isSome)
     (fun rows draft => { draft with rows := some rows })]

/-- The message of a draft that is complete. -/
def Draft.finish (draft : Draft) : Option ResizeMessage := do
  let kind ← draft.kind
  let cols ← draft.cols
  let rows ← draft.rows
  pure ⟨kind, cols, rows⟩

/-- Read a message from a JSON text. -/
def read (document : Document) : Except Fault ResizeMessage :=
  document.read (RecordField.readRecord fields {} Draft.finish)

/-- Read a message from a value. -/
def readValue (value : Json.Value) : Option ResizeMessage :=
  RecordField.takeRecord fields {} Draft.finish value

end ResizeMessage

/-- What a text frame turns out to be. -/
inductive ResizeReading
  /-- A resize message. -/
  | resize (size : WindowSize)
  /-- Nothing like a resize message. -/
  | notControl
  /-- Something that was meant as a resize message. -/
  | malformed
deriving DecidableEq, Repr

namespace ResizeReading

/-- Whether a text that is not JSON looks like a broken resize message. -/
def resembles (text : List Char) : Bool :=
  let trimmed := Text.trimStart text
  trimmed.head? = some '\x7b' && Text.contains "\"resize\"".toList trimmed

/-- What a JSON value turns out to be. -/
def ofValue (value : Json.Value) : ResizeReading :=
  if (value.get? "type").bind Json.Value.string? = some ResizeMessage.resizeKind then
    match ResizeMessage.readValue value with
    | some message => .resize message.size
    | none => .malformed
  else .notControl

/-- What a text turns out to be. -/
def ofText (text : String) : ResizeReading :=
  match Json.Value.parse? text with
  | some value => ofValue value
  | none => if resembles text.toList then .malformed else .notControl

end ResizeReading
end Terminal
end SessionHub
