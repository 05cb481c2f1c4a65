import SessionHub.Status

/-!
# Status entries, updates and events

An update is what a client reports about a session. An entry is what is kept of it. An
event is an entry together with the session it belongs to, as observers see it.
-/

namespace SessionHub

open Json (Document Fault RecordField Node)

/-- What is known of the status of one session. -/
structure StatusEntry where
  status : Status
  workingDirectory : String
  eventId : Option String := none
  title : Option String := none
  exitCode : Option Int32 := none
  /-- When the entry was made, in milliseconds since 1970. -/
  since : UInt64
deriving DecidableEq, Repr

/-- A report of a session's status. -/
structure StatusUpdate where
  sessionId : String
  status : Status
  eventId : Option String := none
  title : Option String := none
  exitCode : Option Int32 := none
deriving DecidableEq, Repr

/-- A status entry together with its session. -/
structure StatusEvent where
  sessionId : String
  entry : StatusEntry
deriving DecidableEq, Repr

/-- The JSON number of an exit code. -/
def exitCodeJson (code : Int32) : Json.Value :=
  .number (.ofInt32 code)

namespace StatusEntry

/-- The members that stand for an entry. -/
def members (entry : StatusEntry) : List (String × Json.Value) :=
  [("status", entry.status.toJson), ("workingDirectory", .string entry.workingDirectory)]
    ++ Json.Value.optionalMember "eventId" .string entry.eventId
    ++ Json.Value.optionalMember "title" .string entry.title
    ++ Json.Value.optionalMember "exitCode" exitCodeJson entry.exitCode
    ++ [("since", .number (.ofUInt64 entry.since))]

/-- The JSON value of an entry. -/
def toJson (entry : StatusEntry) : Json.Value :=
  .object entry.members

/-- An entry that is being read. -/
structure Draft where
  status : Option Status := none
  workingDirectory : Option String := none
  eventId : Option (Option String) := none
  title : Option (Option String) := none
  exitCode : Option (Option Int32) := none
  since : Option UInt64 := none

/-- The fields of an entry. -/
def fields : List (RecordField Draft) :=
  [Status.field (·.status.isSome) (fun status draft => { draft with status := some status }),
   .leaf "workingDirectory" Json.Value.string? (·.workingDirectory.isSome)
     (fun text draft => { draft with workingDirectory := some text }),
   .leaf "eventId" (Json.Value.optional? Json.Value.string?) (·.eventId.isSome)
     (fun text draft => { draft with eventId := some text }),
   .leaf "title" (Json.Value.optional? Json.Value.string?) (·.title.isSome)
     (fun text draft => { draft with title := some text }),
   .leaf "exitCode" (Json.Value.optional? Json.Value.int32?) (·.exitCode.isSome)
     (fun code draft => { draft with exitCode := some code }),
   .leaf "since" Json.Value.uint64? (·.since.isSome)
     (fun time draft => { draft with since := some time })]

/-- The entry of a draft that has all that is required. -/
def Draft.finish (draft : Draft) : Option StatusEntry := do
  let status ← draft.status
  let workingDirectory ← draft.workingDirectory
  let since ← draft.since
  pure ⟨status, workingDirectory, draft.eventId.join, draft.title.join,
    draft.exitCode.join, since⟩

end StatusEntry

namespace StatusUpdate

/-- The JSON value of an update. -/
def toJson (update : StatusUpdate) : Json.Value :=
  .object <|
    [("sessionId", .string update.sessionId), ("status", update.status.toJson)]
      ++ Json.Value.optionalMember "eventId" .string update.eventId
      ++ Json.Value.optionalMember "title" .string update.title
      ++ Json.Value.optionalMember "exitCode" exitCodeJson update.exitCode

/-- An update that is being read. -/
structure Draft where
  sessionId : Option String := none
  status : Option Status := none
  eventId : Option (Option String) := none
  title : Option (Option String) := none
  exitCode : Option (Option Int32) := none

/-- The fields of an update. -/
def fields : List (RecordField Draft) :=
  [.leaf "sessionId" Json.Value.string? (·.sessionId.isSome)
     (fun text draft => { draft with sessionId := some text }),
   Status.field (·.status.isSome) (fun status draft => { draft with status := some status }),
   .leaf "eventId" (Json.Value.optional? Json.Value.string?) (·.eventId.isSome)
     (fun text draft => { draft with eventId := some text }) true,
   .leaf "title" (Json.Value.optional? Json.Value.string?) (·.title.isSome)
     (fun text draft => { draft with title := some text }) true,
   .leaf "exitCode" (Json.Value.optional? Json.Value.int32?) (·.exitCode.isSome)
     (fun code draft => { draft with exitCode := some code }) true]

/-- The update of a draft that has all that is required. -/
def Draft.finish (draft : Draft) : Option StatusUpdate := do
  let sessionId ← draft.sessionId
  let status ← draft.status
  pure ⟨sessionId, status, draft.eventId.join, draft.title.join, draft.exitCode.join⟩

/-- Read an update from a JSON text. -/
def read (document : Document) : Except Fault StatusUpdate :=
  document.read (RecordField.readRecord fields {} Draft.finish)

end StatusUpdate

namespace StatusEvent

/-- The members that stand for an event. -/
def members (event : StatusEvent) : List (String × Json.Value) :=
  ("sessionId", .string event.sessionId) :: event.entry.members

/-- The JSON value of an event. -/
def toJson (event : StatusEvent) : Json.Value :=
  .object event.members

/-- The event of a session and the members of its entry. -/
def ofMembers? (session : Option String) (others : List (String × Json.Value)) :
    Option StatusEvent := do
  let draft ← RecordField.takeMembers StatusEntry.fields others {}
  let sessionId ← session
  let entry ← draft.finish
  pure ⟨sessionId, entry⟩

/-- Read an event from a part of a JSON text. -/
def readNode : Node → Except Fault StatusEvent
  | .object members closed =>
    match Json.readTagged "sessionId" (·.readLeaf Json.Value.string?) closed members none [] with
    | .error fault => .error fault
    | .ok (session, others) =>
      match ofMembers? session others with
      | none => .error .shape
      | some event => .ok event
  | node => .error node.mismatch

/-- Read an event from a JSON text. -/
def read (document : Document) : Except Fault StatusEvent :=
  document.read readNode

/-- Read an event from a value. -/
def readValue : Json.Value → Option StatusEvent
  | .object members =>
    match members.filter (·.1 = "sessionId") with
    | [(_, .string session)] =>
      ofMembers? (some session) (members.filter (·.1 ≠ "sessionId"))
    | _ => none
  | _ => none

end StatusEvent
end SessionHub
