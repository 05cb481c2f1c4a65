import SessionHub.Proofs.Json.Record
import SessionHub.Terminal.Resize

/-!
# Resize messages are read as they were written

The text of a resize message is read back: the values of its fields are kept, and their
order, which is lost in the canonical form, does not matter.
-/

namespace SessionHub
namespace Terminal

namespace ResizeMessage

open Json (RecordField Value)

variable (message : ResizeMessage)

theorem arePlain_members :
    Value.ArePlain
      [("type", .string message.kind), ("cols", .number (.ofUInt16 message.size.cols)),
        ("rows", .number (.ofUInt16 message.size.rows))] := by
  have rows := Value.arePlain_nil.cons (Value.isPlain_ofUInt16 message.size.rows) "rows"
  have size := rows.cons (Value.isPlain_ofUInt16 message.size.cols) "cols"
  exact size.cons (Value.isPlain_string message.kind) "type"

theorem isIntegral_toJson : message.toJson.IsIntegral :=
  message.arePlain_members.isIntegral

theorem depth_toJson : message.toJson.depth = 1 :=
  message.arePlain_members.depth_eq

theorem canonical_toJson :
    message.toJson.canonical =
      .object
        [("cols", .number (.ofUInt16 message.size.cols)),
          ("rows", .number (.ofUInt16 message.size.rows)), ("type", .string message.kind)] := by
  have colsType : "cols" < "type" := by decide
  have rowsCols : ¬"rows" < "cols" := by decide
  have rowsType : "rows" < "type" := by decide
  simp [toJson, Value.canonical, Value.canonicalMembers, Value.sortMembers, Value.insertMember,
    colsType, rowsCols, rowsType]

/-- A message that was written is read as it was. -/
theorem readValue_canonical : readValue message.toJson.canonical = some message := by
  rw [canonical_toJson]
  unfold readValue RecordField.takeRecord
  dsimp only
  simp [RecordField.takeMembers, fields, RecordField.leaf, Draft.finish]

end ResizeMessage

/-- The text that asks for a size is read as what it asks for. -/
theorem ResizeReading.ofText_ofSize (size : WindowSize) :
    ResizeReading.ofText (ResizeMessage.ofSize size).text = .resize size := by
  have shallow : (ResizeMessage.ofSize size).toJson.depth ≤ Json.maxDepth := by
    rw [ResizeMessage.depth_toJson]
    decide
  unfold ResizeReading.ofText ResizeMessage.text
  rw [(ResizeMessage.isIntegral_toJson _).parse?_render shallow]
  dsimp only
  rw [ResizeReading.ofValue, ResizeMessage.readValue_canonical]
  have kind : ((ResizeMessage.ofSize size).toJson.canonical.get? "type").bind
      Json.Value.string? = some ResizeMessage.resizeKind := by
    rw [ResizeMessage.canonical_toJson]
    rfl
  rw [if_pos kind]
  rfl

end Terminal
end SessionHub
