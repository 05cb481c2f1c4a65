import SessionHub.Proofs.Json.Record
import SessionHub.Proofs.Terminal.Resize
import SessionHub.Session.Summary
import SessionHub.Status.Entry

/-!
# Records on the wire

What a client and a server exchange is read back from what was written of it. Here this is
shown of the types whose members are texts and words: their texts are never nested too
deep.
-/

namespace SessionHub

open Json (Document Fault RecordField Value)

/-! ## Codecs -/

/-- How the values of a type are written and read. -/
structure Codec (α : Type) where
  toJson : α → Value
  read : Document → Except Fault α
  /-- The part of a value that may be any JSON value, if it has one. -/
  payload? : α → Option Value := fun _ => none

namespace Codec

variable (codec : Codec α)

/-- The text of a value. -/
def text (value : α) : List Char :=
  (codec.toJson value).renderChars

/-- What comes of reading the text of a value, from its characters as from its bytes. -/
structure Yields (value : α) (outcome : Except Fault α) : Prop where
  fromText : codec.read (.ofText (codec.text value)) = outcome
  fromBytes : codec.read (.ofBytes (Text.Utf8.encode (codec.text value))) = outcome

/-- What is to come of reading the text of a value: the value, unless the text is nested
too deep. -/
def due (value : α) : Except Fault α :=
  if (codec.toJson value).depth ≤ Json.maxDepth then .ok value else .error .notJson

/-- The text of a value is read as it is due. -/
def ReadsBack (value : α) : Prop :=
  codec.Yields value (codec.due value)

/-- The payload has the form in which payloads are kept. -/
def IsCanonical (value : α) : Prop :=
  ∀ payload ∈ codec.payload? value, payload.IsCanonical

/-- No number of the payload has a fraction. -/
def IsIntegral (value : α) : Prop :=
  ∀ payload ∈ codec.payload? value, payload.IsIntegral

/-- Reading and writing are inverse to each other, as far as numbers without fractions and
the limit on nesting allow. -/
structure IsFaithful : Prop where
  /-- What was written is read back. -/
  readsBack : ∀ value, codec.IsCanonical value → codec.IsIntegral value → codec.ReadsBack value
  /-- Only what has a payload is nested too deep. -/
  shallow : ∀ value, codec.payload? value = none → (codec.toJson value).depth ≤ Json.maxDepth
  /-- What was read of any document has the form in which it is kept. -/
  canonical : ∀ document value, codec.read document = .ok value → codec.IsCanonical value
  /-- What was read of any document stays the same when it is written and read again. -/
  stable : ∀ document value, codec.read document = .ok value → codec.IsIntegral value →
    codec.Yields value (.ok value)

variable {codec}

theorem yields_of_ofText
    {value : α}
    {outcome : Except Fault α}
    (reads : codec.read (.ofText (codec.text value)) = outcome) :
    codec.Yields value outcome :=
  ⟨reads, by rw [Document.ofBytes_encode, reads]⟩

theorem ReadsBack.yields
    {value : α}
    (back : codec.ReadsBack value)
    (shallow : (codec.toJson value).depth ≤ Json.maxDepth) :
    codec.Yields value (.ok value) := by
  rw [ReadsBack, due, if_pos shallow] at back
  exact back

/-- Without a payload a value is read back in any case. -/
theorem IsFaithful.yields
    (faithful : codec.IsFaithful)
    {value : α}
    (noPayload : codec.payload? value = none) :
    codec.Yields value (.ok value) := by
  have absent : ∀ payload, payload ∉ codec.payload? value := by
    intro payload present
    rw [noPayload] at present
    cases present
  have back := faithful.readsBack value (fun payload present => absurd present (absent payload))
    fun payload present => absurd present (absent payload)
  exact back.yields (faithful.shallow value noPayload)

/-- Values that have no payload and are read back in any case are handled faithfully. -/
theorem isFaithful_of_shallow
    (noPayload : ∀ value, codec.payload? value = none)
    (shallow : ∀ value, (codec.toJson value).depth ≤ Json.maxDepth)
    (reads : ∀ value, codec.read (.ofText (codec.text value)) = .ok value) :
    codec.IsFaithful where
  readsBack value _ _ := by
    rw [ReadsBack, due, if_pos (shallow value)]
    exact yields_of_ofText (reads value)
  shallow value _ := shallow value
  canonical _ value _ payload present := by
    rw [noPayload value] at present
    cases present
  stable _ value _ _ := yields_of_ofText (reads value)

theorem depth_le_of_plain
    {members : List (String × Value)}
    (plain : Value.ArePlain members) :
    (Value.object members).depth ≤ Json.maxDepth := by
  rw [plain.depth_eq]
  decide

/-- A codec of records whose members are plain is faithful. -/
theorem isFaithful_of_record
    {fields : List (RecordField Draft)}
    {blank : Draft}
    {finish : Draft → Option α}
    {members : α → List (String × Value)}
    (areFlat : ∀ field ∈ fields, field.IsFlat)
    (plain : ∀ value, Value.ArePlain (members value))
    (taken : ∀ value,
      RecordField.takeRecord fields blank finish (.object (members value)) = some value) :
    IsFaithful
      { toJson := fun value => .object (members value)
        read := fun document => document.read (RecordField.readRecord fields blank finish) } :=
  isFaithful_of_shallow (fun _ => rfl) (fun value => depth_le_of_plain (plain value))
    fun value => RecordField.read_ofText areFlat (plain value) (taken value)

end Codec

/-! ## Statuses and exit codes -/

namespace Status

theorem isPlain_toJson (status : Status) : status.toJson.IsPlain :=
  Value.isPlain_string _

@[simp] theorem readValue_toJson (status : Status) : readValue status.toJson = some status :=
  status.ofName?_name

theorem isFlat_field
    (isSet : Draft → Bool)
    (put : Status → Draft → Draft) :
    (field isSet put).IsFlat := by
  intro node value update flat denotes found
  obtain ⟨status, isStatus, isUpdate⟩ := Option.map_eq_some_iff.1 found
  change (readNode node).map put = .ok update
  cases value with
  | string text =>
      have named : ofName? text = some status := isStatus
      rw [Json.Node.eq_string_of_leaf? (denotes.leaf?_eq flat), readNode, named, ← isUpdate]
      rfl
  | null | bool | number => cases isStatus
  | array | object => cases flat

end Status

theorem isPlain_exitCodeJson (code : Int32) : (exitCodeJson code).IsPlain :=
  Value.isPlain_ofInt32 code

/-! ## Records -/

/-- How status updates are written and read. -/
def StatusUpdate.codec : Codec StatusUpdate where
  toJson := toJson
  read := read

/-- How status events are written and read. -/
def StatusEvent.codec : Codec StatusEvent where
  toJson := toJson
  read := read

@[simp] theorem StatusEvent.codec_read : StatusEvent.codec.read = StatusEvent.read :=
  rfl

/-- How session summaries are written and read. -/
def SessionSummary.codec : Codec SessionSummary where
  toJson := toJson
  read := read

/-- How creation requests are written and read. -/
def CreateRequest.codec : Codec CreateRequest where
  toJson := toJson
  read := read

/-- How resize messages are written and read. -/
def Terminal.ResizeMessage.codec : Codec Terminal.ResizeMessage where
  toJson := toJson
  read := read

namespace StatusUpdate

theorem isFaithful_codec : codec.IsFaithful := by
  apply Codec.isFaithful_of_record
  · simp [fields, RecordField.isFlat_leaf, Status.isFlat_field]
  · intro update
    have first := (Value.arePlain_nil.cons update.status.isPlain_toJson "status").cons
      (Value.isPlain_string update.sessionId) "sessionId"
    exact ((first.append (Value.arePlain_optionalMember Value.isPlain_string _ _)).append
      (Value.arePlain_optionalMember Value.isPlain_string _ _)).append
      (Value.arePlain_optionalMember isPlain_exitCodeJson _ _)
  · rintro ⟨session, status, eventId, title, exitCode⟩
    cases eventId <;> cases title <;> cases exitCode <;>
      simp [RecordField.takeRecord, RecordField.takeMembers, fields, RecordField.leaf,
        Status.field, Value.optionalMember, exitCodeJson, Draft.finish]

end StatusUpdate

namespace SessionSummary

theorem isFaithful_codec : codec.IsFaithful := by
  apply Codec.isFaithful_of_record
  · simp [fields, RecordField.isFlat_leaf, Status.isFlat_field]
  · intro summary
    have times := Value.arePlain_nil.cons (Value.isPlain_ofUInt64 summary.since) "since"
    have statuses := times.cons summary.status.isPlain_toJson "status"
    have directories := statuses.cons
      (Value.isPlain_string summary.workingDirectory) "workingDirectory"
    have first := directories.cons (Value.isPlain_string summary.sessionId) "sessionId"
    exact first.append (Value.arePlain_optionalMember Value.isPlain_ofUInt64 _ _)
  · rintro ⟨session, directory, status, since, createdAt⟩
    cases createdAt <;>
      simp [RecordField.takeRecord, RecordField.takeMembers, fields, RecordField.leaf,
        Status.field, Value.optionalMember, timeJson, Draft.finish]

end SessionSummary

namespace CreateRequest

theorem isFaithful_codec : codec.IsFaithful := by
  apply Codec.isFaithful_of_record
  · simp [fields, RecordField.isFlat_leaf]
  · intro request
    exact (Value.arePlain_optionalMember Value.isPlain_string _ _).append
      (Value.arePlain_optionalMember Value.isPlain_string _ _)
  · rintro ⟨directory, session⟩
    cases directory <;> cases session <;>
      simp [RecordField.takeRecord, RecordField.takeMembers, fields, RecordField.leaf,
        Value.optionalMember, Draft.finish]

end CreateRequest

namespace Terminal.ResizeMessage

theorem isFaithful_codec : codec.IsFaithful := by
  apply Codec.isFaithful_of_record
  · simp [fields, RecordField.isFlat_leaf]
  · exact arePlain_members
  · intro message
    simp [RecordField.takeRecord, RecordField.takeMembers, fields, RecordField.leaf,
      Draft.finish]

end Terminal.ResizeMessage

/-! ## Status events -/

namespace StatusEntry

variable (entry : StatusEntry)

theorem arePlain_members : Value.ArePlain entry.members := by
  have directory := Value.arePlain_nil.cons
    (Value.isPlain_string entry.workingDirectory) "workingDirectory"
  have first := directory.cons entry.status.isPlain_toJson "status"
  have since := Value.arePlain_nil.cons (Value.isPlain_ofUInt64 entry.since) "since"
  exact (((first.append (Value.arePlain_optionalMember Value.isPlain_string _ _)).append
    (Value.arePlain_optionalMember Value.isPlain_string _ _)).append
    (Value.arePlain_optionalMember isPlain_exitCodeJson _ _)).append since

/-- No member of an entry is called as the session is, or as the kind of an event. -/
theorem name_ne_of_mem_members :
    ∀ member ∈ entry.members, member.1 ≠ "sessionId" ∧ member.1 ≠ "type" := by
  obtain ⟨status, directory, eventId, title, exitCode, since⟩ := entry
  cases eventId <;> cases title <;> cases exitCode <;> simp [members, Value.optionalMember]

theorem exists_draft :
    ∃ draft, RecordField.takeMembers fields entry.members {} = some draft ∧
      draft.finish = some entry := by
  apply Option.bind_eq_some_iff.1
  obtain ⟨status, directory, eventId, title, exitCode, since⟩ := entry
  cases eventId <;> cases title <;> cases exitCode <;>
    simp [members, RecordField.takeMembers, fields, RecordField.leaf, Status.field,
      Value.optionalMember, exitCodeJson, Draft.finish]

end StatusEntry

namespace StatusEvent

variable (event : StatusEvent)

theorem ofMembers?_members :
    ofMembers? (some event.sessionId) event.entry.members = some event := by
  obtain ⟨draft, taken, finished⟩ := event.entry.exists_draft
  rw [ofMembers?, taken]
  simp [finished]

theorem arePlain_members : Value.ArePlain event.members :=
  event.entry.arePlain_members.cons (Value.isPlain_string event.sessionId) "sessionId"

/-- An event is read from its value as from its text. -/
theorem readValue_toJson : readValue (.object event.members) = some event := by
  have others : event.entry.members.filter (·.1 ≠ "sessionId") = event.entry.members := by
    apply List.filter_eq_self.2
    intro member listed
    exact decide_eq_true (event.entry.name_ne_of_mem_members member listed).1
  have none : event.entry.members.filter (·.1 = "sessionId") = [] := by
    apply List.filter_eq_nil_iff.2
    intro member listed same
    exact (event.entry.name_ne_of_mem_members member listed).1 (of_decide_eq_true same)
  have session : event.members.filter (·.1 = "sessionId") =
      [("sessionId", .string event.sessionId)] := by
    rw [members, List.filter_cons, none]
    rfl
  have remaining : event.members.filter (·.1 ≠ "sessionId") = event.entry.members := by
    rw [members, List.filter_cons, others]
    rfl
  rw [readValue, session, remaining]
  exact event.ofMembers?_members

theorem read_text : codec.read (.ofText (codec.text event)) = .ok event := by
  rw [codec_read, read]
  apply event.arePlain_members.isIntegral.read_ofText
  intro node denotes
  obtain ⟨parts, isObject, denote⟩ := denotes.exists_parts
  have untagged : ∀ member ∈ event.entry.members, member.1 ≠ "sessionId" :=
    fun member listed => (event.entry.name_ne_of_mem_members member listed).1
  have isTag : ∀ node : Json.Node, node.Denotes (.string event.sessionId) →
      node.readLeaf Value.string? = .ok event.sessionId :=
    fun node denotes => denotes.readLeaf_eq rfl rfl
  have shallow : Value.depthOfMembers event.entry.members ≤ Json.innerDepth := by
    apply Value.depthOfMembers_le_iff.2
    intro member listed
    rw [(event.entry.arePlain_members member listed).flat]
    exact Nat.zero_le _
  rw [isObject, readNode, Json.readTagged_of_tag_first denote untagged isTag, if_pos shallow]
  dsimp only
  rw [ofMembers?_members]

theorem isFaithful_codec : codec.IsFaithful :=
  Codec.isFaithful_of_shallow (fun _ => rfl)
    (fun event => Codec.depth_le_of_plain event.arePlain_members) read_text

end StatusEvent

end SessionHub
