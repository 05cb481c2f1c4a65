import SessionHub.Proofs.Terminal.Pump
import SessionHub.Proofs.Utf8.Chunks

/-!
# What reaches the client

While the output pump goes on, the frames that were sent carry the text which a scan of
all the bytes read so far has settled, and the decoder holds what the scan has left. From
this state the pump ends: with the program, when it sends the rest of the text and a
closing frame, or for another reason, when what was sent is the text of a beginning of
the bytes.
-/

namespace SessionHub
namespace Terminal

open Text.Utf8 (lossy scan)

/-! ## Frames that carry a text -/

/-- The text that a frame carries. -/
def OutboundFrame.chars : OutboundFrame → List Char
  | .text content => content.toList
  | .close _ _ => []

/-- Each frame carries a text that is not empty. -/
def AreTexts (frames : List OutboundFrame) : Prop :=
  ∀ frame ∈ frames, ∃ content, frame = .text content ∧ content ≠ ""

/-- The closing frame that is sent when the program has come to its end. -/
def endFrame : OutboundFrame :=
  .close endedCode "session ended"

theorem areTexts_nil : AreTexts [] :=
  nofun

theorem AreTexts.append
    {first second : List OutboundFrame}
    (areTexts : AreTexts first)
    (areTextsToo : AreTexts second) :
    AreTexts (first ++ second) := by
  intro frame member
  rcases List.mem_append.1 member with inFirst | inSecond
  · exact areTexts frame inFirst
  · exact areTextsToo frame inSecond

namespace Stream

theorem areTexts_textFrames (text : List Char) : AreTexts (textFrames text) := by
  unfold textFrames
  split
  · exact areTexts_nil
  · next nonempty =>
    intro frame member
    refine ⟨String.ofList text, List.mem_singleton.1 member, ?_⟩
    intro isEmpty
    have nothing : text = [] := by
      rw [← String.toList_ofList (l := text), isEmpty]
      rfl
    exact nonempty (List.isEmpty_iff.2 nothing)

theorem flatMap_chars_textFrames (text : List Char) :
    (textFrames text).flatMap OutboundFrame.chars = text := by
  unfold textFrames
  split
  · next isEmpty => exact (List.isEmpty_iff.1 isEmpty).symm
  · rw [List.flatMap_singleton, OutboundFrame.chars, String.toList_ofList]

/-! ## The output pump -/

/-- The frames that were sent tell what was read. -/
inductive Transcribes (stream : Stream) (bytes : List UInt8) : Prop
  | going
      (outputEnd : stream.outputEnd = none)
      (decoder : stream.decoder = ⟨(scan bytes).2⟩)
      (areTexts : AreTexts stream.sent)
      (text : stream.sent.flatMap OutboundFrame.chars = (scan bytes).1)
  | exited
      (texts : List OutboundFrame)
      (outputEnd : stream.outputEnd = some (some .ptyExited))
      (sent : stream.sent = texts ++ [endFrame])
      (areTexts : AreTexts texts)
      (text : texts.flatMap OutboundFrame.chars = lossy bytes)
  | stopped
      (reason : Option EndReason)
      (front : List UInt8)
      (outputEnd : stream.outputEnd = some reason)
      (notExited : reason ≠ some .ptyExited)
      (areTexts : AreTexts stream.sent)
      (within : front <+: bytes)
      (text : stream.sent.flatMap OutboundFrame.chars = lossy front)

variable {stream next last : Stream}
variable {bytes : List UInt8}

theorem transcribes_start (size : WindowSize) : Transcribes { size } [] := by
  refine .going rfl ?_ areTexts_nil ?_
  · rw [Text.Utf8.scan_nil]
  · rw [Text.Utf8.scan_nil]
    rfl

theorem Transcribes.sameOutput
    (transcribes : stream.Transcribes bytes)
    (same : SameOutput stream next) :
    next.Transcribes bytes := by
  obtain ⟨decoder, sent, outputEnd⟩ := same
  cases transcribes with
  | going ended held areTexts text =>
      refine .going (outputEnd.trans ended) (decoder.trans held) ?_ ?_
      · rwa [sent]
      · rwa [sent]
  | exited texts ended isSent areTexts text =>
      exact .exited texts (outputEnd.trans ended) (sent.trans isSent) areTexts text
  | stopped reason front ended notExited areTexts within text =>
      refine .stopped reason front (outputEnd.trans ended) notExited ?_ within ?_
      · rwa [sent]
      · rwa [sent]

section Going

variable (decoder : stream.decoder = ⟨(scan bytes).2⟩)
variable (areTexts : AreTexts stream.sent)
variable (text : stream.sent.flatMap OutboundFrame.chars = (scan bytes).1)

include areTexts text

include decoder in
theorem transcribes_put
    (outputEnd : stream.outputEnd = none)
    (chunk : List UInt8) :
    (stream.put chunk).Transcribes (bytes ++ chunk) := by
  have decoded : stream.decoder.decode chunk =
      ((scan ((scan bytes).2 ++ chunk)).1, ⟨(scan ((scan bytes).2 ++ chunk)).2⟩) := by
    rw [decoder]
    rfl
  refine .going outputEnd ?_ ?_ ?_
  · change (stream.decoder.decode chunk).2 = _
    rw [decoded, Text.Utf8.scan_append bytes chunk]
  · exact areTexts.append (areTexts_textFrames _)
  · change (stream.sent ++ textFrames (stream.decoder.decode chunk).1).flatMap _ = _
    rw [List.flatMap_append, text, flatMap_chars_textFrames, decoded,
      Text.Utf8.scan_append bytes chunk]

include decoder in
theorem transcribes_close :
    stream.close.Transcribes bytes := by
  refine .exited (stream.sent ++ textFrames stream.decoder.finish.1) rfl rfl ?_ ?_
  · exact areTexts.append (areTexts_textFrames _)
  · rw [List.flatMap_append, text, flatMap_chars_textFrames, decoder]
    exact Text.Utf8.scan_append_lossy bytes

theorem transcribes_of_stopped
    (chunk : List UInt8)
    {reason : Option EndReason}
    (outputEnd : next.outputEnd = some reason)
    (notExited : reason ≠ some .ptyExited)
    (sent : next.sent = stream.sent) :
    next.Transcribes (bytes ++ chunk) := by
  obtain ⟨front, parts, textOfFront⟩ := Text.Utf8.exists_front_of_scan bytes
  refine .stopped reason front outputEnd notExited ?_ ?_ ?_
  · rwa [sent]
  · exact ⟨(scan bytes).2 ++ chunk, by rw [← List.append_assoc, ← parts]⟩
  · rw [sent, text, textOfFront]

end Going

/-- Each move adds to what was sent the text of the bytes that it reads, or ends the
output pump. -/
theorem Transcribes.step
    {move : Move}
    (transcribes : stream.Transcribes bytes)
    (step : stream.step move = some next) :
    next.Transcribes (bytes ++ move.bytesRead) := by
  have effect := step_effect step
  cases isInput : move.isInput with
  | true =>
      have nothing : move.bytesRead = [] := by
        cases move with
        | output | outputUnsent | sendFailed => cases isInput
        | _ => rfl
      rw [nothing, List.append_nil]
      exact transcribes.sameOutput (effect.sameOutput isInput)
  | false =>
      have going := effect.outputEnd_eq_none isInput
      cases transcribes with
      | exited _ outputEnd => cases going.symm.trans outputEnd
      | stopped _ _ outputEnd => cases going.symm.trans outputEnd
      | going _ decoder areTexts text =>
          cases effect with
          | put _ chunk => exact transcribes_put decoder areTexts text going chunk
          | closed =>
              rw [Move.bytesRead, List.append_nil]
              · exact transcribes_close decoder areTexts text
              all_goals exact nofun
          | outputCut _ _ _ notExited =>
              exact transcribes_of_stopped areTexts text _ rfl notExited rfl
          | taken => cases isInput
          | inputCut _ isInputToo => cases isInput.symm.trans isInputToo

theorem Transcribes.run
    {moves : List Move}
    (transcribes : stream.Transcribes bytes)
    (run : stream.run moves = some last) :
    last.Transcribes (bytes ++ moves.flatMap Move.bytesRead) := by
  induction moves generalizing stream bytes with
  | nil =>
      cases run
      rwa [List.flatMap_nil, List.append_nil]
  | cons move rest inductionHypothesis =>
      obtain ⟨next, step, run⟩ := run_cons_eq_some.1 run
      rw [List.flatMap_cons, ← List.append_assoc]
      exact inductionHypothesis (transcribes.step step) run

/-! ## How a stream ends -/

/-- The input pump never ends with the program. -/
theorem Effect.inputEnd_ne
    {move : Move}
    (effect : Effect stream move next)
    (before : stream.inputEnd ≠ some (some .ptyExited)) :
    next.inputEnd ≠ some (some .ptyExited) := by
  cases effect with
  | put | closed | outputCut => exact before
  | taken =>
      unfold Stream.take
      split
      · exact nofun
      · exact before
      · exact before
  | inputCut _ _ _ notExited => exact fun exited => notExited (Option.some.inj exited)

theorem inputEnd_ne_of_run
    {moves : List Move}
    (before : stream.inputEnd ≠ some (some .ptyExited))
    (run : stream.run moves = some last) :
    last.inputEnd ≠ some (some .ptyExited) := by
  induction moves generalizing stream with
  | nil =>
      cases run
      exact before
  | cons move rest inductionHypothesis =>
      obtain ⟨next, step, run⟩ := run_cons_eq_some.1 run
      exact inductionHypothesis ((step_effect step).inputEnd_ne before) run

/-- A connection comes to its end because the program has if the output pump says so. -/
theorem reason_eq_ptyExited_iff
    (notInput : stream.inputEnd ≠ some (some .ptyExited)) :
    stream.reason = .ptyExited ↔ stream.outputEnd = some (some .ptyExited) := by
  have output_iff : stream.outputEnd.join = some .ptyExited ↔
      stream.outputEnd = some (some .ptyExited) := by
    cases stream.outputEnd <;> simp
  have input : stream.inputEnd.join ≠ some .ptyExited := by
    intro exited
    apply notInput
    cases ended : stream.inputEnd with
    | none => simp [ended] at exited
    | some reason => simpa [ended] using exited
  unfold reason
  dsimp only
  rw [← output_iff]
  split
  · next exited => exact iff_of_true rfl exited
  · next goesOn =>
    refine iff_of_false ?_ goesOn
    cases found : stream.inputEnd.join with
    | none =>
        cases other : stream.outputEnd.join with
        | none => simp
        | some reason => simpa [other] using goesOn
    | some reason => simpa [found] using input

end Stream
end Terminal
end SessionHub
