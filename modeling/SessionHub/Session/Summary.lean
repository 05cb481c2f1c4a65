import SessionHub.Status

/-!
# Session summaries and requests

A summary is one row of the list of sessions. A creation request says which session is
wanted, and leaves open what it does not name.
-/

namespace SessionHub

open Json (Document Fault RecordField)

/-- One row of the list of sessions. -/
structure SessionSummary where
  sessionId : String
  workingDirectory : String
  status : Status
  /-- Milliseconds since 1970. -/
  since : UInt64
  /-- Seconds since 1970, if the time of creation is known. -/
  createdAt : Option UInt64 := none
deriving DecidableEq, Repr

namespace SessionSummary

/-- The JSON number of a time. -/
def timeJson (time : UInt64) : Json.Value :=
  .number (.ofUInt64 time)

/-- The JSON value of a summary. -/
def toJson (summary : SessionSummary) : Json.Value :=
  .object <|
    [("sessionId", .string summary.sessionId),
      ("workingDirectory", .string summary.workingDirectory),
      ("status", summary.status.toJson), ("since", timeJson summary.since)]
      ++ Json.Value.optionalMember "createdAt" timeJson summary.createdAt

/-- A summary that is being read. -/
structure Draft where
  sessionId : Option String := none
  workingDirectory : Option String := none
  status : Option Status := none
  since : Option UInt64 := none
  createdAt : Option (Option UInt64) := none

/-- The fields of a summary. -/
def fields : List (RecordField Draft) :=
  [.leaf "sessionId" Json.Value.string? (·.sessionId.isSome)
     (fun text draft => { draft with sessionId := some text }),
   .leaf "workingDirectory" Json.Value.string? (·.workingDirectory.isSome)
     (fun text draft => { draft with workingDirectory := some text }),
   Status.field (·.status.isSome) (fun status draft => { draft with status := some status }),
   .leaf "since" Json.Value.uint64? (·.since.isSome)
     (fun time draft => { draft with since := some time }),
   .leaf "createdAt" (Json.Value.optional? Json.Value.uint64?) (·.createdAt.isSome)
     (fun time draft => { draft with createdAt := some time }) true]

/-- The summary of a draft that has all that is required. -/
def Draft.finish (draft : Draft) : Option SessionSummary := do
  let sessionId ← draft.sessionId
  let workingDirectory ← draft.workingDirectory
  let status ← draft.status
  let since ← draft.since
  pure ⟨sessionId, workingDirectory, status, since, draft.createdAt.join⟩

/-- Read a summary from a JSON text. -/
def read (document : Document) : Except Fault SessionSummary :=
  document.read (RecordField.readRecord fields {} Draft.finish)

end SessionSummary

/-- Which session is wanted. -/
structure CreateRequest where
  workingDirectory : Option String := none
  sessionId : Option String := none
deriving DecidableEq, Repr

namespace CreateRequest

/-- The JSON value of a request. -/
def toJson (request : CreateRequest) : Json.Value :=
  .object <|
    Json.Value.optionalMember "workingDirectory" .string request.workingDirectory
      ++ Json.Value.optionalMember "sessionId" .string request.sessionId

/-- A request that is being read. -/
structure Draft where
  workingDirectory : Option (Option String) := none
  sessionId : Option (Option String) := none

/-- The fields of a request. -/
def fields : List (RecordField Draft) :=
  [.leaf "workingDirectory" (Json.Value.optional? Json.Value.string?)
     (·.workingDirectory.isSome)
     (fun text draft => { draft with workingDirectory := some text }) true,
   .leaf "sessionId" (Json.Value.optional? Json.Value.string?) (·.sessionId.isSome)
     (fun text draft => { draft with sessionId := some text }) true]

/-- The request of a draft; nothing is required. -/
def Draft.finish (draft : Draft) : Option CreateRequest :=
  some ⟨draft.workingDirectory.join, draft.sessionId.join⟩

/-- Read a request from a JSON text. -/
def read (document : Document) : Except Fault CreateRequest :=
  document.read (RecordField.readRecord fields {} Draft.finish)

end CreateRequest
end SessionHub
