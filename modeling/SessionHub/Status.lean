import SessionHub.Json.Record

/-!
# Status of a session

What a session is reported to be doing, and how that is written and read. A status is
read from its name, or from an object whose one member has that name and no content.
-/

namespace SessionHub

open Json (Fault Node)

/-- What a session is reported to be doing. -/
inductive Status
  | idle
  | running
  | done
  | failed
  | attention
deriving DecidableEq, Repr

namespace Status

instance : Inhabited Status := ⟨.idle⟩

/-- The name of a status. -/
def name : Status → String
  | .idle => "idle"
  | .running => "running"
  | .done => "done"
  | .failed => "failed"
  | .attention => "attention"

/-- The status with a name. -/
def ofName? (text : String) : Option Status :=
  [idle, running, done, failed, attention].find? (·.name = text)

theorem ofName?_name (status : Status) : ofName? status.name = some status := by
  cases status <;> decide

/-- Whether the session has come to an end of its work. Only then is an exit code kept. -/
def isTerminal : Status → Bool
  | .done | .failed => true
  | .idle | .running | .attention => false

/-- What is wrong with a text that names no status. -/
def unknownMessage (text : String) : String :=
  "unknown status '" ++ text ++ "' (expected idle, running, done, failed or attention)"

/-- The JSON value of a status. -/
def toJson (status : Status) : Json.Value :=
  .string status.name

/-- Read a status from a text. -/
def readNode : Node → Except Fault Status
  | .string (some text) =>
    match ofName? text with
    | some status => .ok status
    | none => .error .shape
  | .object ((some key, content) :: rest) closed =>
    match ofName? key with
    | none => .error .shape
    | some status =>
      match content with
      | .null => if closed ∧ rest.isEmpty then .ok status else .error .notJson
      | content => .error content.mismatch
  | _ => .error .notJson

/-- Read a status from a value. -/
def readValue : Json.Value → Option Status
  | .string text => ofName? text
  | .object [(key, .null)] => ofName? key
  | .object [(key, .object [])] => ofName? key
  | _ => none

/-- The field `status` of a record. -/
def field (isSet : Draft → Bool) (put : Status → Draft → Draft) : Json.RecordField Draft where
  name := "status"
  isSet := isSet
  readNode node := (readNode node).map put
  readValue value := (readValue value).map put

end Status
end SessionHub
