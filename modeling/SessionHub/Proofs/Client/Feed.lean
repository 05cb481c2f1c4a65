import SessionHub.Client.Feed
import SessionHub.Proofs.Broadcast.History
import SessionHub.Proofs.Json.Visible
import SessionHub.Proofs.Text.Lines

/-!
# Documents on lines

The feed hands out events as texts that hold no control characters, in whatever way line feeds
stand in names, titles and payloads. So each of them is one line of what the client prints, and the
lines are the documents that have come over the feed, in order.
-/

namespace SessionHub

/-- No control character stands in the text of an event. -/
theorem Event.isVisible_text (event : Event) : Json.IsVisible event.text.toList :=
  event.toJson.isVisible_render

/-! ## Events that are told -/

namespace Broadcast
namespace Hub

namespace Operation

/-- The event that an operation tells, and to whom. -/
def told? : Operation → Option (Event × Audience)
  | .publish event => some (event, .all)
  | .notify scope payload => some (.notification scope payload, .scope scope)
  | _ => none

/-- The operation broadcasts a payload that need not be an event. -/
def IsRaw : Operation → Prop
  | .broadcast _ _ => True
  | _ => False

/-- What is broadcast otherwise is the text of the event that is told. -/
theorem message?_of_not_isRaw
    {operation : Operation}
    (ordinary : ¬operation.IsRaw) :
    operation.message? = operation.told?.map fun told => (told.1.text, told.2) := by
  cases operation with
  | broadcast payload audience => exact absurd trivial ordinary
  | _ => rfl

end Operation

variable (hub : Hub) (id : ConnectionId)

/-- The event that a connection hears of in an operation. -/
def heard (operation : Operation) : List Event :=
  match operation.told? with
  | none => []
  | some (event, audience) =>
      if id ∈ hub.addressees audience ∧ hub.HasRoom id then [event] else []

/-- The events that a connection hears of in several operations. -/
def heardIn : Hub → List Operation → List Event
  | _, [] => []
  | hub, operation :: rest => hub.heard id operation ++ heardIn (hub.perform operation) rest

theorem accepted_eq_map_heard
    {operation : Operation}
    (ordinary : ¬operation.IsRaw) :
    hub.accepted id operation = (hub.heard id operation).map Event.text := by
  rw [accepted, heard, Operation.message?_of_not_isRaw ordinary]
  cases operation.told? with
  | none => rfl
  | some told =>
      dsimp only [Option.map_some]
      split <;> rfl

/-- What a connection accepts are the texts of the events that it hears of. -/
theorem log_accepted_eq_map_heardIn
    {operations : List Operation}
    (ordinary : ∀ operation ∈ operations, ¬operation.IsRaw) :
    log (·.accepted id ·) hub operations = (heardIn id hub operations).map Event.text := by
  induction operations generalizing hub with
  | nil => rfl
  | cons first rest inductionHypothesis =>
      obtain ⟨isFirst, others⟩ := List.forall_mem_cons.1 ordinary
      rw [log, heardIn, List.map_append, inductionHypothesis _ others]
      exact congrArg (· ++ _) (hub.accepted_eq_map_heard id isFirst)

/-- What the receiver of a connection takes is the beginning of what the connection accepts. -/
theorem log_taken_prefix (operations : List Operation) :
    log (·.taken id ·) empty operations <+: log (·.accepted id ·) empty operations := by
  have account := isSound_empty.log_accepted operations id
  have accepted : log (·.accepted id ·) empty operations =
      log (·.taken id ·) empty operations ++ log (·.lost id ·) empty operations ++
        (empty.performAll operations).waiting id := account
  rw [accepted, List.append_assoc]
  exact List.prefix_append _ _

end Hub
end Broadcast

/-! ## Lines that are printed -/

namespace Client

namespace Incoming

/-- The text that a message carries. -/
def text? : Incoming → Option String
  | .message (.text text) => some text
  | _ => none

/-- The feed comes to its end. -/
def isEnd : Incoming → Bool
  | .message (.close _) | .ended | .failure => true
  | _ => false

end Incoming

namespace Feed

/-- The texts that come over a feed up to its end. -/
def texts (incoming : List Incoming) : List String :=
  (incoming.takeWhile (!·.isEnd)).filterMap Incoming.text?

/-- Each text is printed, and nothing else is. -/
theorem follow_fst (incoming : List Incoming) : (follow incoming).1 = texts incoming := by
  induction incoming with
  | nil => rfl
  | cons first rest inductionHypothesis =>
      cases first with
      | message message =>
          cases message with
          | text text => exact congrArg (text :: ·) inductionHypothesis
          | binary data | ping data | pong data => exact inductionHypothesis
          | close frame => rfl
      | failure | ended => rfl

section Lines

variable {lines : List String}

theorem printed_eq (lines : List String) :
    printed lines = (lines.map String.toList).flatMap (· ++ ['\n']) ++ [] := by
  rw [printed, List.flatMap_map, List.append_nil]

/-- Visible texts are found again between the line feeds after them. -/
theorem splitAll_printed (visible : ∀ line ∈ lines, Json.IsVisible line.toList) :
    Text.splitAll '\n' (printed lines) = lines.map String.toList ++ [[]] := by
  rw [printed_eq]
  apply Text.splitAll_ended _ List.not_mem_nil
  exact List.forall_mem_map.2 fun line listed => (visible line listed).noFeed

theorem dropReturn_of_isVisible
    {line : List Char}
    (visible : Json.IsVisible line) :
    Text.dropReturn line = line := by
  apply if_neg
  intro isReturn
  exact absurd (visible '\r' (List.mem_of_getLast? isReturn)) (by decide)

/-- Visible texts are the lines of what is printed of them. -/
theorem lines_printed (visible : ∀ line ∈ lines, Json.IsVisible line.toList) :
    Text.lines (printed lines) = lines.map String.toList := by
  have each : ∀ line ∈ lines.map String.toList, Text.dropReturn line = line :=
    List.forall_mem_map.2 fun line listed => dropReturn_of_isVisible (visible line listed)
  rw [printed_eq, Text.lines_ended (List.forall_mem_map.2 fun line listed =>
    (visible line listed).noFeed) List.not_mem_nil, List.map_congr_left each, List.map_id']
  exact List.append_nil _

end Lines

open Broadcast (Hub ConnectionId)

/-- The texts that observers are handed hold no control characters, whatever stands in the events.
So whatever documents come over a feed, cut at its line feeds the output is these documents again,
in order. They are the first of the events that the connection hears of from the hub, if nothing
but events is broadcast and the messages that come are the first of those that its receiver took. -/
theorem lines_are_documents
    (operations : List Hub.Operation)
    (id : ConnectionId)
    (incoming : List Incoming) :
    let output := printed (follow incoming).1
    let heard := Hub.heardIn id .empty operations
    (∀ event : SessionHub.Event, ∀ character ∈ event.text.toList, 0x20 ≤ character.toNat) ∧
    (∀ events : List SessionHub.Event, texts incoming = events.map (·.text) →
      let documents := events.map (·.text.toList)
      Text.splitAll '\n' output = documents ++ [[]] ∧ Text.lines output = documents) ∧
    ((∀ operation ∈ operations, ¬operation.IsRaw) →
      Hub.log (·.accepted id ·) .empty operations = heard.map (·.text) ∧
      (texts incoming <+: Hub.log (·.taken id ·) .empty operations →
        ∃ events, events <+: heard ∧ texts incoming = events.map (·.text))) := by
  intro output heard
  refine ⟨SessionHub.Event.isVisible_text, ?_, fun ordinary => ⟨?_, fun arrived => ?_⟩⟩
  · intro events come documents
    have visible : ∀ line ∈ events.map (·.text), Json.IsVisible line.toList :=
      List.forall_mem_map.2 fun event _ => event.isVisible_text
    have isOutput : output = printed (events.map (·.text)) := by rw [← come, ← follow_fst]
    have isDocuments : (events.map (·.text)).map String.toList = documents := List.map_map
    rw [isOutput, splitAll_printed visible, lines_printed visible, isDocuments]
    exact ⟨rfl, rfl⟩
  · exact Hub.log_accepted_eq_map_heardIn .empty id ordinary
  · have among : texts incoming <+: heard.map (·.text) := by
      rw [← Hub.log_accepted_eq_map_heardIn .empty id ordinary]
      exact arrived.trans (Hub.log_taken_prefix id operations)
    exact List.prefix_map_iff.1 among

/-- Two events about a session with line feeds in its name, the second of which is notified with a
document in its payload that might be taken for a third. -/
theorem two_events_are_lines :
    let created := SessionHub.Event.sessionCreated "a\n" "/w"
    let noted := SessionHub.Event.notification "a\n" (.object [("\n", .string "\n\x7b\x7d")])
    let operations : List Hub.Operation :=
      [.connect 4, .registerGlobal 1, .registerScoped "a\n" 1, .publish created,
        .notify "a\n" (.object [("\n", .string "\n\x7b\x7d")]), .drain 1]
    let incoming : List Incoming :=
      [.message (.text created.text), .message (.ping []), .message (.text noted.text), .ended]
    let output := printed (follow incoming).1
    texts incoming = [created, noted].map (·.text) ∧
      (∀ operation ∈ operations, ¬operation.IsRaw) ∧
      texts incoming <+: Hub.log (·.taken 1 ·) .empty operations ∧
      Text.lines output = [created.text.toList, noted.text.toList] ∧
      ∃ events, events <+: Hub.heardIn 1 .empty operations ∧
        texts incoming = events.map (·.text) := by
  intro created noted operations incoming output
  have come : texts incoming = [created, noted].map (·.text) := rfl
  have ordinary : ∀ operation ∈ operations, ¬operation.IsRaw := by
    simp [operations, Hub.Operation.IsRaw]
  have arrived : texts incoming <+: Hub.log (·.taken 1 ·) .empty operations := ⟨[], rfl⟩
  obtain ⟨-, lines, heard⟩ := lines_are_documents operations 1 incoming
  exact ⟨come, ordinary, arrived, (lines [created, noted] come).2, (heard ordinary).2 arrived⟩

end Feed
end Client
end SessionHub
