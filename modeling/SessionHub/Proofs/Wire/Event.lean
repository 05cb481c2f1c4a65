import SessionHub.Event
import SessionHub.Proofs.Wire.Record

/-!
# Events on the wire

An event is read back from its text with the payload as it was, as long as the payload has
no fractions and is not nested too deep. The payload of any event that is read is canonical
and not nested too deep, so such an event is read back in any case.
-/

namespace SessionHub

open Json (Document Fault RecordField Node)

namespace Event

/-! ## Payloads -/

/-- The payload of an event that has one. -/
def payload? : Event → Option Json.Value
  | .notification _ payload => some payload
  | .sessionCreated _ _ | .sessionDestroyed _ | .status _ => none

/-- How events are written and read. -/
def codec : Codec Event where
  toJson := toJson
  read := read
  payload? := payload?

theorem Kind.ofName?_name (kind : Kind) : ofName? kind.name = some kind := by
  cases kind <;> decide

variable (event : Event)

theorem name_ne_of_mem_members : ∀ member ∈ event.members, member.1 ≠ "type" := by
  cases event with
  | status event =>
      intro member listed
      rcases List.mem_cons.1 listed with rfl | ofEntry
      · simp
      · exact (event.entry.name_ne_of_mem_members member ofEntry).2
  | sessionCreated | sessionDestroyed | notification => simp [members]

theorem depthOfMembers_members :
    Json.Value.depthOfMembers event.members = (event.payload?.map Json.Value.depth).getD 0 := by
  cases event with
  | status event => exact Nat.succ.inj event.arePlain_members.depth_eq
  | sessionCreated | sessionDestroyed | notification =>
      simp [members, payload?, Json.Value.depthOfMembers, Json.Value.depth]

theorem depth_toJson :
    event.toJson.depth = (event.payload?.map Json.Value.depth).getD 0 + 1 := by
  rw [toJson, Json.Value.depth, Kind.member, Json.Value.depthOfMembers, Json.Value.depth,
    Nat.zero_max, depthOfMembers_members]

theorem depth_toJson_le_iff :
    event.toJson.depth ≤ Json.maxDepth ↔
      Json.Value.depthOfMembers event.members ≤ Json.innerDepth := by
  rw [depth_toJson, depthOfMembers_members]
  exact Nat.succ_le_succ_iff

variable {event}

theorem isIntegral_toJson
    (integral : codec.IsIntegral event) :
    event.toJson.IsIntegral := by
  apply Json.Value.IsIntegral.object
  rw [List.forall_mem_cons]
  refine ⟨.string _, ?_⟩
  cases event with
  | status event => exact fun member listed => (event.arePlain_members member listed).integral
  | notification scope payload =>
      rw [members, List.forall_mem_cons, List.forall_mem_singleton]
      exact ⟨.string scope, integral payload rfl⟩
  | sessionCreated session directory =>
      rw [members, List.forall_mem_cons, List.forall_mem_singleton]
      exact ⟨.string session, .string directory⟩
  | sessionDestroyed session =>
      rw [members, List.forall_mem_singleton]
      exact .string session

/-! ## Reading what was written -/

theorem readContent_members
    (canonical : codec.IsCanonical event) :
    readContent event.kind (.object event.members) = some event := by
  cases event with
  | status event =>
      change (StatusEvent.readValue (.object event.members)).map status = _
      rw [event.readValue_toJson, Option.map_some]
  | notification scope payload =>
      have same : payload.canonical = payload := (canonical payload rfl).canonical_eq
      simp [kind, members, readContent, RecordField.takeRecord, RecordField.takeMembers,
        scopeField, payloadField, RecordField.leaf, same]
  | sessionCreated | sessionDestroyed =>
      simp [kind, members, readContent, RecordField.takeRecord, RecordField.takeMembers,
        sessionField, directoryField, RecordField.leaf]

theorem readKind_of_denotes
    (kind : Kind)
    (node : Node)
    (denotes : node.Denotes kind.member.2) :
    readKind node = .ok kind :=
  denotes.readLeaf_eq rfl kind.ofName?_name

/-- An event is read back, unless its payload is nested too deep. -/
theorem readsBack
    (canonical : codec.IsCanonical event)
    (integral : codec.IsIntegral event) :
    codec.ReadsBack event := by
  apply Codec.yields_of_ofText
  apply (isIntegral_toJson integral).read_ofText
  intro node denotes
  obtain ⟨parts, isObject, denote⟩ := denotes.exists_parts
  rw [isObject, readNode, Json.readTagged_of_tag_first denote event.name_ne_of_mem_members
    (readKind_of_denotes event.kind), Codec.due]
  change _ = if event.toJson.depth ≤ Json.maxDepth then _ else _
  rw [if_congr event.depth_toJson_le_iff rfl rfl]
  by_cases shallow : Json.Value.depthOfMembers event.members ≤ Json.innerDepth
  · rw [if_pos shallow, if_pos shallow]
    dsimp only
    rw [Option.bind_some, readContent_members canonical]
  · rw [if_neg shallow, if_neg shallow]

/-! ## Writing what was read -/

/-- A draft has at most a payload that is canonical and not nested too deep. -/
def Draft.IsSound (draft : Draft) : Prop :=
  ∀ payload ∈ draft.payload, payload.IsCanonical ∧ payload.depth ≤ Json.innerDepth

theorem Draft.isSound_blank : IsSound {} :=
  nofun

theorem isSound_of_field
    {field : RecordField Draft}
    (listed : field ∈ [scopeField, payloadField])
    {value : Json.Value}
    (shallow : value.depth ≤ Json.innerDepth)
    {update : Draft → Draft}
    (read : field.readValue value = some update)
    {draft : Draft}
    (sound : draft.IsSound) :
    (update draft).IsSound := by
  rcases List.mem_cons.1 listed with rfl | isPayload
  · obtain ⟨text, _, rfl⟩ := Option.map_eq_some_iff.1 read
    exact sound
  · cases List.mem_singleton.1 isPayload
    cases read
    intro payload present
    cases present
    exact ⟨Json.Value.isCanonical_canonical value,
      Nat.le_trans (Json.Value.depth_canonical_le value) shallow⟩

/-- A payload that is read is canonical, and not nested too deep. -/
theorem payload_of_readContent
    {kind : Kind}
    {content : Json.Value}
    (shallow : ∀ part ∈ RecordField.partsOf content, part.depth ≤ Json.innerDepth)
    (read : readContent kind content = some event) :
    ∀ payload ∈ event.payload?, payload.IsCanonical ∧ payload.depth ≤ Json.innerDepth := by
  cases kind with
  | sessionCreated =>
      obtain ⟨draft, finished⟩ := RecordField.exists_draft read
      obtain ⟨session, _, finished⟩ := Option.bind_eq_some_iff.1 finished
      obtain ⟨directory, _, finished⟩ := Option.bind_eq_some_iff.1 finished
      cases finished
      nofun
  | sessionDestroyed =>
      obtain ⟨draft, finished⟩ := RecordField.exists_draft read
      obtain ⟨session, _, finished⟩ := Option.bind_eq_some_iff.1 finished
      cases finished
      nofun
  | status =>
      obtain ⟨status, _, rfl⟩ := Option.map_eq_some_iff.1 read
      nofun
  | notification =>
      obtain ⟨draft, sound, finished⟩ := RecordField.exists_kept_draft
        (fun field listed value shallow update read draft sound =>
          isSound_of_field listed shallow read sound) shallow Draft.isSound_blank read
      obtain ⟨scope, _, finished⟩ := Option.bind_eq_some_iff.1 finished
      obtain ⟨payload, present, finished⟩ := Option.bind_eq_some_iff.1 finished
      cases finished
      exact fun _ same => Option.some.inj same ▸ sound payload present

/-- An event is read from the parts of a node, none of which is nested too deep. -/
theorem exists_content_of_readNode
    {node : Node}
    (found : readNode node = .ok event) :
    ∃ kind content, (∀ part ∈ RecordField.partsOf content, part.depth ≤ Json.innerDepth) ∧
      readContent kind content = some event := by
  cases node with
  | object parts closed =>
      rw [readNode] at found
      split at found
      · cases found
      · next tag others tagged =>
        have shallow : ∀ member ∈ others, member.2.depth ≤ Json.innerDepth :=
          Json.depth_le_of_readTagged (List.forall_mem_nil _) tagged
        split at found
        · cases found
        · next isContent =>
          cases found
          obtain ⟨kind, _, isContent⟩ := Option.bind_eq_some_iff.1 isContent
          exact ⟨kind, .object others, List.forall_mem_map.2 shallow, isContent⟩
  | array items closed =>
      cases items with
      | nil => cases found
      | cons first rest =>
          rw [readNode] at found
          split at found
          · cases found
          · next kind _ =>
            split at found
            · cases found
            · next values areValues =>
              split at found
              · cases found
              · split at found
                · cases found
                · next isContent =>
                  cases found
                  exact ⟨kind, .array values, Node.depth_le_of_itemValues? areValues, isContent⟩
  | null | bool | number | string | broken => cases found

/-- Whatever an event is read from, its payload is canonical and not nested too deep. -/
theorem payload_of_read
    {document : Document}
    (read : codec.read document = .ok event) :
    ∀ payload ∈ event.payload?, payload.IsCanonical ∧ payload.depth ≤ Json.innerDepth := by
  obtain ⟨kind, content, shallow, isContent⟩ :=
    exists_content_of_readNode (Document.root_of_read read)
  exact payload_of_readContent shallow isContent

theorem isFaithful_codec : codec.IsFaithful where
  readsBack _ canonical integral := readsBack canonical integral
  shallow event noPayload := by
    change event.toJson.depth ≤ Json.maxDepth
    have none : event.payload? = none := noPayload
    rw [event.depth_toJson, none]
    decide
  canonical _ _ read payload present := (payload_of_read read payload present).1
  stable _ event read integral := by
    have sound := payload_of_read read
    apply (readsBack (fun payload present => (sound payload present).1) integral).yields
    change event.toJson.depth ≤ Json.maxDepth
    rw [event.depth_toJson]
    cases present : event.payload? with
    | none => decide
    | some payload => exact Nat.succ_le_succ (sound payload present).2

/-- An event without a payload is read back from the text that is sent of it. -/
theorem read_text (noPayload : event.payload? = none) :
    read (.ofText event.text.toList) = .ok event := by
  rw [text, Json.Value.render, String.toList_ofList]
  exact (isFaithful_codec.yields noPayload).fromText

end Event

end SessionHub
