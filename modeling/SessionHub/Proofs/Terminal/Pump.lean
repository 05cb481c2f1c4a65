import SessionHub.Terminal.Stream

/-!
# The two pumps

A move has one of five effects: the output pump sends what it has read, closes the
connection with the program, or comes to another end; the input pump serves a frame, or
comes to an end while it types. The effects of one pump leave alone what the other has
done.
-/

namespace SessionHub
namespace Terminal

/-- The move is one of the input pump. -/
def Move.isInput : Move → Bool
  | .frame _ | .frameUntyped _ _ | .typingFailed _ _ | .inputStopped => true
  | .output _ | .outputUnsent _ | .sendFailed _ | .outputEnded | .readFailed
  | .outputStopped => false

namespace Stream

variable {stream next last : Stream}

theorem run_cons_eq_some
    {move : Move}
    {rest : List Move} :
    stream.run (move :: rest) = some last ↔
      ∃ next, stream.step move = some next ∧ next.run rest = some last :=
  Option.bind_eq_some_iff

theorem step_frame
    (going : stream.inputEnd = none)
    (frame : Option InboundFrame) :
    stream.step (.frame frame) = some (stream.take frame) := by
  rw [Stream.step, going]
  rfl

/-! ## Effects -/

/-- What a move makes of the stream. -/
inductive Effect (stream : Stream) : Move → Stream → Prop
  | put
      (going : stream.outputEnd = none)
      (bytes : List UInt8) :
      Effect stream (.output bytes) (stream.put bytes)
  | closed
      (going : stream.outputEnd = none) :
      Effect stream .outputEnded stream.close
  | outputCut
      (going : stream.outputEnd = none)
      {move : Move}
      (isOutput : move.isInput = false)
      (decoder : Text.Utf8.Decoder)
      {reason : Option EndReason}
      (notExited : reason ≠ some .ptyExited) :
      Effect stream move { stream with decoder, outputEnd := some reason }
  | taken
      (going : stream.inputEnd = none)
      (frame : Option InboundFrame) :
      Effect stream (.frame frame) (stream.take frame)
  | inputCut
      (going : stream.inputEnd = none)
      {move : Move}
      (isInput : move.isInput = true)
      (bytes : List UInt8)
      {reason : Option EndReason}
      (notExited : reason ≠ some .ptyExited) :
      Effect stream move { stream.type bytes with inputEnd := some reason }

theorem effect_of_cut
    (going : stream.outputEnd.isNone)
    {move : Move}
    (isOutput : move.isInput = false)
    {bytes : List UInt8}
    {reason : Option EndReason}
    (cut : stream.cut bytes reason = some next)
    (notExited : reason ≠ some .ptyExited) :
    Effect stream move next := by
  unfold Stream.cut at cut
  dsimp only at cut
  split at cut
  · cases cut
  · cases cut
    exact .outputCut (Option.isNone_iff_eq_none.1 going) isOutput _ notExited

theorem effect_of_takeUpTo
    (going : stream.inputEnd.isNone)
    {move : Move}
    (isInput : move.isInput = true)
    {frame : InboundFrame}
    {count : Nat}
    {reason : Option EndReason}
    (cut : stream.takeUpTo frame count reason = some next)
    (notExited : reason ≠ some .ptyExited) :
    Effect stream move next := by
  unfold Stream.takeUpTo at cut
  split at cut
  · obtain ⟨-, made⟩ := Option.ite_none_right_eq_some.1 cut
    cases made
    exact .inputCut (Option.isNone_iff_eq_none.1 going) isInput _ notExited
  · cases cut

/-- Every move that can be made has one of the effects. -/
theorem step_effect
    {move : Move}
    (step : stream.step move = some next) :
    Effect stream move next := by
  cases move with
  | output bytes =>
      obtain ⟨going, made⟩ := Option.ite_none_right_eq_some.1 step
      cases made
      exact .put (Option.isNone_iff_eq_none.1 going) bytes
  | outputEnded =>
      obtain ⟨going, made⟩ := Option.ite_none_right_eq_some.1 step
      cases made
      exact .closed (Option.isNone_iff_eq_none.1 going)
  | outputUnsent bytes =>
      obtain ⟨⟨going, -⟩, made⟩ := Option.ite_none_right_eq_some.1 step
      exact effect_of_cut going rfl made nofun
  | sendFailed bytes =>
      obtain ⟨going, made⟩ := Option.ite_none_right_eq_some.1 step
      exact effect_of_cut going rfl made nofun
  | readFailed =>
      obtain ⟨going, made⟩ := Option.ite_none_right_eq_some.1 step
      cases made
      exact .outputCut (Option.isNone_iff_eq_none.1 going) rfl _ nofun
  | outputStopped =>
      obtain ⟨⟨going, -⟩, made⟩ := Option.ite_none_right_eq_some.1 step
      cases made
      exact .outputCut (Option.isNone_iff_eq_none.1 going) rfl _ nofun
  | frame frame =>
      obtain ⟨going, made⟩ := Option.ite_none_right_eq_some.1 step
      cases made
      exact .taken (Option.isNone_iff_eq_none.1 going) frame
  | frameUntyped frame count =>
      obtain ⟨⟨going, -⟩, made⟩ := Option.ite_none_right_eq_some.1 step
      exact effect_of_takeUpTo going rfl made nofun
  | typingFailed frame count =>
      obtain ⟨going, made⟩ := Option.ite_none_right_eq_some.1 step
      exact effect_of_takeUpTo going rfl made nofun
  | inputStopped =>
      obtain ⟨⟨going, -⟩, made⟩ := Option.ite_none_right_eq_some.1 step
      cases made
      have stopped : Effect stream .inputStopped { stream.type [] with inputEnd := some none } :=
        .inputCut (Option.isNone_iff_eq_none.1 going) rfl [] nofun
      rwa [Stream.type, List.append_nil] at stopped

/-- A move of the output pump is made while the pump goes on. -/
theorem Effect.outputEnd_eq_none
    {move : Move}
    (effect : Effect stream move next)
    (isOutput : move.isInput = false) :
    stream.outputEnd = none := by
  cases effect with
  | put going | closed going | outputCut going => exact going
  | taken => cases isOutput
  | inputCut _ isInput => cases isInput.symm.trans isOutput

/-! ## The input under moves of the output pump -/

/-- The terminal got the same input. -/
structure SameInput (stream next : Stream) : Prop where
  typed : next.typed = stream.typed
  size : next.size = stream.size
  inputEnd : next.inputEnd = stream.inputEnd

theorem SameInput.trans
    (first : SameInput stream next)
    (second : SameInput next last) :
    SameInput stream last where
  typed := second.typed.trans first.typed
  size := second.size.trans first.size
  inputEnd := second.inputEnd.trans first.inputEnd

/-- The output pump does not matter to the input. -/
theorem Effect.sameInput
    {move : Move}
    (effect : Effect stream move next)
    (isOutput : move.isInput = false) :
    SameInput stream next := by
  cases effect with
  | put | closed | outputCut => exact ⟨rfl, rfl, rfl⟩
  | taken => cases isOutput
  | inputCut _ isInput => cases isInput.symm.trans isOutput

theorem sameInput_of_run
    {moves : List Move}
    (noInput : moves.filter Move.isInput = [])
    (run : stream.run moves = some last) :
    SameInput stream last := by
  induction moves generalizing stream with
  | nil =>
      cases run
      exact ⟨rfl, rfl, rfl⟩
  | cons move rest inductionHypothesis =>
      obtain ⟨next, step, run⟩ := run_cons_eq_some.1 run
      rw [List.filter_eq_nil_iff] at noInput
      have isOutput : move.isInput = false := by
        simpa using noInput move List.mem_cons_self
      have others : rest.filter Move.isInput = [] := by
        rw [List.filter_eq_nil_iff]
        intro other member
        exact noInput other (List.mem_cons_of_mem _ member)
      exact ((step_effect step).sameInput isOutput).trans (inductionHypothesis others run)

/-! ## The output under moves of the input pump -/

/-- The client was sent the same output. -/
structure SameOutput (stream next : Stream) : Prop where
  decoder : next.decoder = stream.decoder
  sent : next.sent = stream.sent
  outputEnd : next.outputEnd = stream.outputEnd

/-- The input pump does not matter to the output. -/
theorem Effect.sameOutput
    {move : Move}
    (effect : Effect stream move next)
    (isInput : move.isInput = true) :
    SameOutput stream next := by
  cases effect with
  | put | closed => cases isInput
  | outputCut _ isOutput => cases isInput.symm.trans isOutput
  | taken =>
      unfold Stream.take
      split <;> exact ⟨rfl, rfl, rfl⟩
  | inputCut => exact ⟨rfl, rfl, rfl⟩

end Stream
end Terminal
end SessionHub
