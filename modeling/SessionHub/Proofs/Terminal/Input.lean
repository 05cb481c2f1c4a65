import SessionHub.Client.Connection
import SessionHub.Proofs.Terminal.Pump
import SessionHub.Proofs.Terminal.Resize

/-!
# What reaches the terminal

The input pump types into the terminal, in order, what the messages of a client ask for,
and resizes it as they ask, until the first message that closes the connection. What a
client hands to a connection is asked of the terminal as it is.
-/

namespace SessionHub
namespace Terminal

open Client (Outgoing)

/-! ## What messages ask for -/

namespace Input

/-- The bytes that are typed into the terminal. -/
def bytes : Input → List UInt8
  | .resize _ => []
  | .data bytes => bytes

/-- The size that the terminal is given. -/
def size? : Input → Option WindowSize
  | .resize size => some size
  | .data _ => none

end Input

/-- What a message asks of the terminal. A text that is no resize message is typed. -/
def SocketMessage.input? : SocketMessage → Option Input
  | .binary data => some (.data data)
  | .text content =>
      match ResizeReading.ofText content with
      | .resize size => some (.resize size)
      | .notControl | .malformed => some (.data (Text.Utf8.encode content.toList))
  | .ping _ | .pong _ | .close _ => none

/-- The messages before the one that closes the connection, or before a failure to
receive. -/
def beforeEnd : List (Option SocketMessage) → List SocketMessage
  | [] | none :: _ | some (.close _) :: _ => []
  | some message :: rest => message :: beforeEnd rest

/-- What frames ask of the terminal before one of them closes the connection. -/
def inputs : List InboundFrame → List Input
  | [] => []
  | frame :: rest =>
      match frame.interpret? with
      | none => []
      | some (input, _) => input :: inputs rest

theorem inputs_received (received : List (Option SocketMessage)) :
    inputs (received.filterMap InboundFrame.ofReceived?) =
      (beforeEnd received).filterMap SocketMessage.input? := by
  induction received with
  | nil => rfl
  | cons first rest inductionHypothesis =>
      cases first with
      | none => rfl
      | some message =>
          cases message with
          | ping data | pong data => exact inductionHypothesis
          | close frame => rfl
          | binary data =>
              exact congrArg (Input.data data :: ·) inductionHypothesis
          | text content =>
              change (match (InboundFrame.text content).interpret? with
                | none => []
                | some (input, _) => input :: inputs _) = _
              rw [beforeEnd, List.filterMap_cons, SocketMessage.input?, InboundFrame.interpret?]
              · cases ResizeReading.ofText content <;>
                  exact congrArg (_ :: ·) inductionHypothesis
              · exact nofun

/-! ## The moves of the input pump -/

/-- The moves in which the input pump takes frames up to the end. -/
def inputMoves : List InboundFrame → List Move
  | [] => [.frame none]
  | frame :: rest =>
      .frame (some frame) :: if frame.interpret?.isNone then [] else inputMoves rest

theorem inputMoves_ne_nil (frames : List InboundFrame) : [] ≠ inputMoves frames := by
  cases frames <;> exact nofun

/-- There is a move for each input, and one more for the end. -/
theorem length_inputs_lt (frames : List InboundFrame) :
    (inputs frames).length < (inputMoves frames).length := by
  induction frames with
  | nil => exact Nat.zero_lt_one
  | cons frame rest inductionHypothesis =>
      rw [inputs, inputMoves]
      cases frame.interpret? with
      | none => exact Nat.zero_lt_one
      | some asked => exact Nat.succ_lt_succ inductionHypothesis

namespace Stream

variable {stream next last : Stream}

/-- The terminal got some input, and the input pump has ended as it has. -/
structure Gets (stream : Stream) (made : List Input) (ending : Option (Option EndReason))
    (next : Stream) : Prop where
  typed : next.typed = stream.typed ++ made.flatMap Input.bytes
  size : next.size = (made.filterMap Input.size?).getLastD stream.size
  inputEnd : next.inputEnd = ending

theorem SameInput.gets
    (same : SameInput stream next) :
    Gets stream [] stream.inputEnd next where
  typed := by rw [same.typed, List.flatMap_nil, List.append_nil]
  size := same.size
  inputEnd := same.inputEnd

theorem SameInput.trans_gets
    {made : List Input}
    {ending : Option (Option EndReason)}
    (same : SameInput stream next)
    (gets : Gets next made ending last) :
    Gets stream made ending last where
  typed := by rw [gets.typed, same.typed]
  size := by rw [gets.size, same.size]
  inputEnd := gets.inputEnd

/-- A frame that asks for an input is served before all that follows. -/
theorem Gets.take
    {frame : InboundFrame}
    {input : Input}
    {reading : ResizeReading}
    (asks : frame.interpret? = some (input, reading))
    {made : List Input}
    {ending : Option (Option EndReason)}
    (gets : Gets (stream.take (some frame)) made ending last) :
    Gets stream (input :: made) ending last := by
  cases input with
  | resize size =>
      have taken : stream.take (some frame) = { stream with size } := by
        unfold Stream.take
        rw [Option.bind_some, asks]
      rw [taken] at gets
      refine ⟨?_, ?_, gets.inputEnd⟩
      · rw [gets.typed]
        rfl
      · rw [gets.size]
        exact (List.getLastD_cons ..).symm
  | data bytes =>
      have taken : stream.take (some frame) = stream.type bytes := by
        unfold Stream.take
        rw [Option.bind_some, asks]
      rw [taken] at gets
      refine ⟨?_, gets.size, gets.inputEnd⟩
      rw [gets.typed, List.flatMap_cons, ← List.append_assoc]
      rfl

/-- What the input pump takes last ends it, and the terminal gets nothing more. -/
theorem gets_of_end
    {frame : Option InboundFrame}
    {moves : List Move}
    (closes : frame.bind InboundFrame.interpret? = none)
    (noInput : moves.filter Move.isInput = [])
    (run : (stream.take frame).run moves = some last) :
    Gets stream [] (some (some .peerClosed)) last := by
  have taken : stream.take frame = { stream with inputEnd := some (some .peerClosed) } := by
    unfold Stream.take
    rw [closes]
  rw [taken] at run
  obtain ⟨typed, size, inputEnd⟩ := (sameInput_of_run noInput run).gets
  exact ⟨typed, size, inputEnd⟩

theorem inputEnd_take
    {frame : InboundFrame}
    {input : Input}
    {reading : ResizeReading}
    (asks : frame.interpret? = some (input, reading)) :
    (stream.take (some frame)).inputEnd = stream.inputEnd := by
  unfold Stream.take
  rw [Option.bind_some, asks]
  cases input <;> rfl

/-- While the input pump takes frames, the terminal gets what these ask for, and only the
last of the moves ends the pump. -/
theorem gets_of_run
    {frames : List InboundFrame}
    {moves : List Move}
    (going : stream.inputEnd = none)
    (taken : moves.filter Move.isInput <+: inputMoves frames)
    (run : stream.run moves = some last) :
    Gets stream ((inputs frames).take (moves.filter Move.isInput).length)
      (if moves.filter Move.isInput = inputMoves frames then some (some .peerClosed) else none)
      last := by
  induction moves generalizing stream frames with
  | nil =>
      cases run
      rw [List.filter_nil, if_neg (inputMoves_ne_nil frames), ← going]
      exact SameInput.gets ⟨rfl, rfl, rfl⟩
  | cons move rest inductionHypothesis =>
      obtain ⟨next, step, run⟩ := run_cons_eq_some.1 run
      cases isInput : move.isInput with
      | false =>
          have same := (step_effect step).sameInput isInput
          rw [List.filter_cons_of_neg (by simp [isInput])] at taken ⊢
          exact same.trans_gets (inductionHypothesis (same.inputEnd.trans going) taken run)
      | true =>
          rw [List.filter_cons_of_pos isInput] at taken ⊢
          cases frames with
          | nil =>
              obtain ⟨rfl, nothing⟩ := List.cons_prefix_cons.1 taken
              have noInput := List.prefix_nil.1 nothing
              rw [step_frame going] at step
              cases step
              rw [noInput, inputMoves, if_pos rfl]
              exact gets_of_end rfl noInput run
          | cons frame others =>
              rw [inputMoves] at taken ⊢
              obtain ⟨rfl, takenRest⟩ := List.cons_prefix_cons.1 taken
              rw [step_frame going] at step
              cases step
              cases asks : frame.interpret? with
              | none =>
                  rw [asks] at takenRest
                  have noInput := List.prefix_nil.1 takenRest
                  rw [noInput, inputs, asks, if_pos (by rfl)]
                  have closes : (some frame).bind InboundFrame.interpret? = none := asks
                  exact gets_of_end closes noInput run
              | some asked =>
                  obtain ⟨input, reading⟩ := asked
                  rw [asks] at takenRest
                  have later := inductionHypothesis ((inputEnd_take asks).trans going) takenRest run
                  rw [inputs, asks, List.length_cons]
                  simp only [List.cons.injEq, true_and]
                  exact later.take asks

/-- The input pump can take whatever frames there are. -/
theorem exists_run_inputMoves
    (going : stream.inputEnd = none)
    (frames : List InboundFrame) :
    ∃ last, stream.run (inputMoves frames) = some last := by
  induction frames generalizing stream with
  | nil => exact ⟨_, run_cons_eq_some.2 ⟨_, step_frame going none, rfl⟩⟩
  | cons frame rest inductionHypothesis =>
      rw [inputMoves]
      cases asks : frame.interpret? with
      | none => exact ⟨_, run_cons_eq_some.2 ⟨_, step_frame going (some frame), rfl⟩⟩
      | some asked =>
          have goingOn := (inputEnd_take asks).trans going
          obtain ⟨last, run⟩ := inductionHypothesis goingOn
          exact ⟨last, run_cons_eq_some.2 ⟨_, step_frame going (some frame), run⟩⟩

end Stream

/-! ## What a client sends -/

/-- What is asked of the terminal by what is handed to a connection. -/
def asked : Outgoing → Input
  | .resize size => .resize size
  | .input data => .data data

theorem input?_message (outgoing : Outgoing) :
    outgoing.message.input? = some (asked outgoing) := by
  cases outgoing with
  | input data => rfl
  | resize size =>
      rw [Outgoing.message, SocketMessage.input?, ResizeReading.ofText_ofSize]
      rfl

theorem beforeEnd_messages (messages : List Outgoing) :
    beforeEnd (messages.map fun outgoing => some outgoing.message) =
      messages.map Outgoing.message := by
  induction messages with
  | nil => rfl
  | cons first rest inductionHypothesis =>
      cases first with
      | input data | resize size => exact congrArg (_ :: ·) inductionHypothesis

/-- What a client sends is what is asked of the terminal. -/
theorem filterMap_input?_messages (messages : List Outgoing) :
    (beforeEnd (messages.map fun outgoing => some outgoing.message)).filterMap
        SocketMessage.input? =
      messages.map asked := by
  rw [beforeEnd_messages, List.filterMap_map, ← List.filterMap_eq_map]
  congr 1
  funext outgoing
  exact input?_message outgoing

/-! ## The law of input -/

/-- The terminal gets what the messages of a client ask for, in order, up to the first one
that closes the connection; and what a client hands to a connection is what its messages
ask for. -/
theorem input_reaches_terminal (size : WindowSize) :
    (∀ received : List (Option SocketMessage),
      let frames := received.filterMap InboundFrame.ofReceived?
      let inputs := (beforeEnd received).filterMap SocketMessage.input?
      (∃ last, Stream.run { size } (inputMoves frames) = some last) ∧
      (∀ moves last, Stream.run { size } moves = some last →
        moves.filter Move.isInput <+: inputMoves frames →
        let served := inputs.take (moves.filter Move.isInput).length
        last.typed = served.flatMap Input.bytes ∧
          last.size = (served.filterMap Input.size?).getLastD size) ∧
      ∀ moves last, Stream.run { size } moves = some last →
        moves.filter Move.isInput = inputMoves frames →
        last.typed = inputs.flatMap Input.bytes ∧
          last.size = (inputs.filterMap Input.size?).getLastD size ∧
          last.inputEnd = some (some .peerClosed)) ∧
    ∀ messages : List Outgoing,
      (beforeEnd (messages.map fun outgoing => some outgoing.message)).filterMap
          SocketMessage.input? =
        messages.map asked := by
  refine ⟨?_, filterMap_input?_messages⟩
  intro received frames asked
  have same : inputs frames = asked := inputs_received received
  refine ⟨Stream.exists_run_inputMoves rfl frames, ?_, ?_⟩
  · intro moves last run taken
    obtain ⟨typed, size, -⟩ := Stream.gets_of_run rfl taken run
    rw [same] at typed size
    exact ⟨typed, size⟩
  · intro moves last run complete
    have taken : moves.filter Move.isInput <+: inputMoves frames :=
      ⟨[], by rw [complete, List.append_nil]⟩
    obtain ⟨typed, size, inputEnd⟩ := Stream.gets_of_run rfl taken run
    have enough : (inputs frames).length ≤ (moves.filter Move.isInput).length := by
      rw [complete]
      exact Nat.le_of_lt (length_inputs_lt frames)
    rw [List.take_of_length_le enough, same] at typed size
    rw [if_pos complete] at inputEnd
    exact ⟨typed, size, inputEnd⟩

end Terminal
end SessionHub
