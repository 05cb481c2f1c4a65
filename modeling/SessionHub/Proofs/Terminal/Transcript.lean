import SessionHub.Proofs.Terminal.Lookup
import SessionHub.Proofs.Terminal.Output

/-!
# What runs of the bridge send

The stream of a run is what the moves of this run make of a new stream, however the steps
of other runs come in between. Hence a run that has come to its end has sent the closing
frame of its outcome, or the transcript of its stream.
-/

namespace SessionHub
namespace Terminal

open Text.Utf8 (lossy)

/-! ## Frames of a run -/

/-- What was sent by a run that has made some moves and come out in some way. -/
def Sends (size : WindowSize) (moves : List Move) (sent : List OutboundFrame) :
    Outcome → Prop
  | .finished reason =>
      ∃ stream : Stream, Stream.run { size } moves = some stream ∧
        reason = stream.reason ∧ sent = stream.sent
  | outcome => sent = outcome.refusal

/-- What a run has sent is what the moves that it has made prescribe. -/
def Recorded (size : WindowSize) (moves : List Move) (run : Run) : Prop :=
  match run.phase with
  | .validating _ | .found | .spawning => moves = [] ∧ run.sent = []
  | .streaming stream => Stream.run { size } moves = some stream ∧ run.sent = []
  | .closing outcome | .closed outcome => Sends size moves run.sent outcome

/-- A run that is refused sends the frame of its outcome and nothing else. -/
theorem recorded_refused
    {size : WindowSize}
    {moves : List Move}
    {run : Run}
    (nothing : run.sent = [])
    {outcome : Outcome}
    (refused : ∀ reason, outcome ≠ .finished reason) :
    Recorded size moves (run.refused outcome) := by
  change Sends size moves (run.sent ++ outcome.refusal) outcome
  rw [nothing, List.nil_append]
  cases outcome with
  | finished reason => exact absurd rfl (refused reason)
  | notFound | busy | lookupFailed | spawnFailed => rfl

theorem Stream.run_concat
    {stream next last : Stream}
    {moves : List Move}
    {move : Move}
    (run : stream.run moves = some next)
    (step : next.step move = some last) :
    stream.run (moves ++ [move]) = some last := by
  induction moves generalizing stream with
  | nil =>
      cases run
      exact run_cons_eq_some.2 ⟨last, step, rfl⟩
  | cons first rest inductionHypothesis =>
      obtain ⟨second, stepFirst, run⟩ := run_cons_eq_some.1 run
      exact run_cons_eq_some.2 ⟨second, stepFirst, inductionHypothesis run⟩

namespace Bridge

variable {Runner : Type}
variable {runner : CommandRunner Runner} {bridge : Bridge Runner}

section Change

variable {index : Nat} {run next : Run} {step : Step}
variable {attached : List String} {world : World Runner}

theorem Change.movesIn_of_ne
    (change : Change runner bridge index run step next attached world)
    {other : Nat}
    (differs : other ≠ index) :
    bridge.movesIn other step = [] := by
  cases change with
  | moved move stream later phase made => exact if_neg (differs ·.1.symm)
  | _ => rfl

theorem Change.recorded
    (change : Change runner bridge index run step next attached world)
    (present : bridge.runs[index]? = some run)
    {moves : List Move}
    (recorded : Recorded bridge.firstSize moves run) :
    Recorded bridge.firstSize (moves ++ bridge.movesIn index step) next := by
  have quiet
      {later : Run}
      (recorded : Recorded bridge.firstSize moves later) :
      Recorded bridge.firstSize (moves ++ []) later := by
    rwa [List.append_nil]
  unfold Recorded at recorded
  cases change with
  | asked action later phase =>
      rw [phase] at recorded
      exact quiet recorded
  | lookedUp result phase =>
      rw [phase] at recorded
      cases result with
      | error failure => exact quiet (recorded_refused recorded.2 nofun)
      | ok isThere =>
          cases isThere with
          | false => exact quiet (recorded_refused recorded.2 nofun)
          | true => exact quiet recorded
  | refused phase held =>
      rw [phase] at recorded
      exact quiet (recorded_refused recorded.2 nofun)
  | acquired phase free =>
      rw [phase] at recorded
      exact quiet recorded
  | spawned isStarted phase =>
      rw [phase] at recorded
      obtain ⟨noMoves, nothing⟩ := recorded
      apply quiet
      cases isStarted with
      | false =>
          change Sends bridge.firstSize moves (run.sent ++ _) .spawnFailed
          rw [nothing]
          rfl
      | true =>
          rw [noMoves]
          exact ⟨rfl, nothing⟩
  | moved move stream later phase made =>
      have admits : bridge.runs[index]?.any (·.phase.admits move) = true := by
        rw [present, Option.any_some, phase, Phase.admits, made]
        rfl
      rw [phase] at recorded
      rw [movesIn, if_pos ⟨rfl, admits⟩]
      exact ⟨Stream.run_concat recorded.1 made, recorded.2⟩
  | finished stream phase ended =>
      have frames : run.frames = run.sent ++ stream.sent := by
        rw [Run.frames, phase]
        rfl
      rw [phase] at recorded
      obtain ⟨ran, nothing⟩ := recorded
      apply quiet
      refine ⟨stream, ran, rfl, ?_⟩
      rw [frames, nothing, List.nil_append]
  | released outcome phase =>
      rw [phase] at recorded
      exact quiet recorded

end Change

/-- What each run has sent is what the moves that it has made prescribe. -/
structure Keeps (bridge : Bridge Runner) (made : Nat → List Move) : Prop where
  recorded : ∀ index run, bridge.runs[index]? = some run →
    Recorded bridge.firstSize (made index) run
  fresh : ∀ index, bridge.runs[index]? = none → made index = []

theorem Progress.keeps
    {step : Step}
    {next : Bridge Runner}
    (progress : Progress runner bridge step next)
    {made : Nat → List Move}
    (keeps : Keeps bridge made) :
    Keeps next fun index => made index ++ bridge.movesIn index step := by
  cases progress with
  | idle step silent =>
      refine ⟨?_, ?_⟩
      · intro index run present
        rw [silent, List.append_nil]
        exact keeps.recorded index run present
      · intro index absent
        rw [silent, List.append_nil]
        exact keeps.fresh index absent
  | arrived session =>
      have nothing (index : Nat) : made index ++ bridge.movesIn index (.arrive session) =
          made index := List.append_nil _
      refine ⟨?_, ?_⟩
      · intro index run present
        rw [nothing]
        rcases arrive_eq_some.1 present with before | ⟨isLast, isNew⟩
        · exact keeps.recorded index run before
        · have noMoves := keeps.fresh index (by rw [isLast, List.getElem?_length])
          rw [noMoves, isNew]
          exact ⟨rfl, rfl⟩
      · intro index absent
        rw [nothing]
        apply keeps.fresh
        rw [Option.eq_none_iff_forall_ne_some] at absent ⊢
        intro run before
        exact absent run (arrive_eq_some.2 (.inl before))
  | changed index run later step attached world present change =>
      have runs_at (other : Nat) := getElem?_set_of_present present later other
      refine ⟨?_, ?_⟩
      · intro other found presentLater
        rw [runs_at] at presentLater
        split at presentLater
        · next same =>
          cases presentLater
          rw [same]
          exact change.recorded present (keeps.recorded index run present)
        · next differs =>
          rw [change.movesIn_of_ne differs, List.append_nil]
          exact keeps.recorded other found presentLater
      · intro other absent
        rw [runs_at] at absent
        split at absent
        · cases absent
        · next differs =>
          rw [change.movesIn_of_ne differs, List.append_nil]
          exact keeps.fresh other absent

theorem Keeps.steps
    {made : Nat → List Move}
    (keeps : Keeps bridge made)
    (steps : List Step) :
    Keeps (bridge.steps runner steps) fun index =>
      made index ++ movesMade runner index bridge steps := by
  induction steps generalizing bridge made with
  | nil =>
      refine ⟨?_, ?_⟩
      · intro index run present
        rw [movesMade, List.append_nil]
        exact keeps.recorded index run present
      · intro index absent
        rw [movesMade, List.append_nil]
        exact keeps.fresh index absent
  | cons step rest inductionHypothesis =>
      have progress : Progress runner bridge step (bridge.step runner step) := step_progress step
      have later := inductionHypothesis (progress.keeps keeps)
      simp only [List.append_assoc] at later
      exact later

end Bridge

/-! ## The law of frames -/

/-- After a closing frame nothing is sent. -/
def EndsOnce (frames : List OutboundFrame) : Prop :=
  ∀ before code reason after, frames = before ++ .close code reason :: after → after = []

theorem AreTexts.endsOnce
    {texts ending : List OutboundFrame}
    (areTexts : AreTexts texts)
    (short : ending.length ≤ 1) :
    EndsOnce (texts ++ ending) := by
  intro before code reason after parts
  induction texts generalizing before with
  | nil =>
      have lengths := congrArg List.length parts
      rw [List.nil_append, List.length_append, List.length_cons] at lengths
      apply List.eq_nil_of_length_eq_zero
      omega
  | cons first rest inductionHypothesis =>
      cases before with
      | nil =>
          obtain ⟨isClose, -⟩ := List.cons.inj parts
          obtain ⟨content, isText, -⟩ := areTexts first List.mem_cons_self
          rw [isText] at isClose
          cases isClose
      | cons second others =>
          have areTextsRest : AreTexts rest := fun frame member =>
            areTexts frame (List.mem_cons_of_mem _ member)
          exact inductionHypothesis areTextsRest others (List.cons.inj parts).2

theorem Stream.Transcribes.endsOnce
    {stream : Stream}
    {bytes : List UInt8}
    (transcribes : stream.Transcribes bytes) :
    EndsOnce stream.sent := by
  cases transcribes with
  | exited texts _ sent areTexts _ =>
      rw [sent]
      exact areTexts.endsOnce (Nat.le_refl 1)
  | going _ _ areTexts _ | stopped _ _ _ _ areTexts _ _ =>
      rw [← List.append_nil stream.sent]
      exact areTexts.endsOnce (Nat.zero_le 1)

/-- The frames of a run that has come to its end in some way, when it has read some bytes
from its terminal. -/
def Outcome.Prescribes (bytes : List UInt8) (frames : List OutboundFrame) : Outcome → Prop
  | .notFound => frames = [.close 4404 "session not found"]
  | .busy => frames = [.close 4409 "session already attached"]
  | .lookupFailed => frames = [.close 1011 "session lookup failed"]
  | .spawnFailed => frames = [.close 1011 "spawn failed"]
  | .finished reason => ∃ texts, AreTexts texts ∧
      if reason = .ptyExited then
        frames = texts ++ [.close 1000 "session ended"] ∧
          texts.flatMap OutboundFrame.chars = lossy bytes
      else
        frames = texts ∧ ∃ front, front <+: bytes ∧
          texts.flatMap OutboundFrame.chars = lossy front

theorem Sends.prescribes
    {size : WindowSize}
    {moves : List Move}
    {sent : List OutboundFrame}
    {outcome : Outcome}
    (sends : Sends size moves sent outcome) :
    outcome.Prescribes (moves.flatMap Move.bytesRead) sent := by
  cases outcome with
  | notFound | busy | lookupFailed | spawnFailed => exact sends
  | finished reason =>
      obtain ⟨stream, ran, rfl, rfl⟩ := sends
      have transcribes := (Stream.transcribes_start size).run ran
      rw [List.nil_append] at transcribes
      have notYet : ({ size } : Stream).inputEnd ≠ some (some .ptyExited) := nofun
      have exited_iff := Stream.reason_eq_ptyExited_iff (Stream.inputEnd_ne_of_run notYet ran)
      cases transcribes with
      | exited texts outputEnd sent areTexts text =>
          refine ⟨texts, areTexts, ?_⟩
          rw [if_pos (exited_iff.2 outputEnd)]
          exact ⟨sent, text⟩
      | going outputEnd _ areTexts text =>
          have notExited : stream.reason ≠ .ptyExited := by
            rw [Ne, exited_iff, outputEnd]
            exact nofun
          obtain ⟨front, parts, textOfFront⟩ :=
            Text.Utf8.exists_front_of_scan (moves.flatMap Move.bytesRead)
          refine ⟨stream.sent, areTexts, ?_⟩
          rw [if_neg notExited]
          exact ⟨rfl, front, ⟨_, parts.symm⟩, text.trans textOfFront⟩
      | stopped reason front outputEnd other areTexts within text =>
          have notExited : stream.reason ≠ .ptyExited := by
            rw [Ne, exited_iff, outputEnd]
            exact fun same => other (Option.some.inj same)
          refine ⟨stream.sent, areTexts, ?_⟩
          rw [if_neg notExited]
          exact ⟨rfl, front, within, text⟩

theorem Outcome.Prescribes.endsOnce
    {bytes : List UInt8}
    {frames : List OutboundFrame}
    {outcome : Outcome}
    (prescribes : outcome.Prescribes bytes frames) :
    EndsOnce frames := by
  have single (frame : OutboundFrame) : EndsOnce [frame] :=
    areTexts_nil.endsOnce (Nat.le_refl 1)
  cases outcome with
  | notFound | busy | lookupFailed | spawnFailed =>
      rw [prescribes]
      exact single _
  | finished reason =>
      obtain ⟨texts, areTexts, sent⟩ := prescribes
      split at sent
      · rw [sent.1]
        exact areTexts.endsOnce (Nat.le_refl 1)
      · rw [sent.1, ← List.append_nil texts]
        exact areTexts.endsOnce (Nat.zero_le 1)

theorem Recorded.endsOnce
    {size : WindowSize}
    {moves : List Move}
    {run : Run}
    (recorded : Recorded size moves run) :
    EndsOnce run.frames := by
  have nothing : EndsOnce [] := areTexts_nil.endsOnce (Nat.zero_le 1)
  unfold Recorded at recorded
  rw [Run.frames]
  cases phase : run.phase with
  | validating | found | spawning =>
      rw [phase] at recorded
      rw [recorded.2]
      exact nothing
  | streaming stream =>
      rw [phase] at recorded
      rw [recorded.2]
      exact ((Stream.transcribes_start size).run recorded.1).endsOnce
  | closing outcome | closed outcome =>
      rw [phase] at recorded
      change EndsOnce (run.sent ++ [])
      rw [List.append_nil]
      exact (Sends.prescribes recorded).endsOnce

theorem Recorded.prescribes
    {size : WindowSize}
    {moves : List Move}
    {run : Run}
    (recorded : Recorded size moves run)
    {outcome : Outcome}
    (closed : run.phase.outcome? = some outcome) :
    outcome.Prescribes (moves.flatMap Move.bytesRead) run.frames := by
  unfold Recorded at recorded
  rw [Run.frames]
  cases phase : run.phase with
  | closed other =>
      rw [phase] at recorded closed
      cases closed
      change outcome.Prescribes (moves.flatMap Move.bytesRead) (run.sent ++ [])
      rw [List.append_nil]
      exact Sends.prescribes recorded
  | validating | found | spawning | streaming | closing =>
      rw [phase] at closed
      cases closed

namespace Bridge

variable {Runner : Type}

/-- However the steps of several runs of the bridge come after one another, a run that has
come to its end has sent what its outcome prescribes, no run sends anything after a closing
frame, and the only commands that are run are the lookups of the runs, one for each that
has come further. -/
theorem frames_follow_outcome
    (runner : CommandRunner Runner)
    (bridge : Bridge Runner)
    (steps : List Step) :
    let first := { bridge with runs := [] }
    let last := first.steps runner steps
    (∀ (index : Nat) (run : Run), last.runs[index]? = some run →
      (∀ outcome, run.phase.outcome? = some outcome →
        outcome.Prescribes
          ((movesMade runner index first steps).flatMap Move.bytesRead) run.frames) ∧
      EndsOnce run.frames) ∧
    ∃ asked : List Nat, asked.Nodup ∧
      (∀ index : Nat, index ∈ asked ↔ ∃ run, last.runs[index]? = some run ∧ run.hasAsked = true) ∧
      last.world.calls = bridge.world.calls ++ last.lookups asked := by
  intro first last
  have keeps : Keeps first fun _ => [] := by
    refine ⟨?_, fun _ _ => rfl⟩
    intro index run present
    cases present
  have asks : Asks first bridge.world.calls [] := by
    refine ⟨List.nodup_nil, ?_, (List.append_nil _).symm, ?_⟩
    · intro index
      constructor
      · exact nofun
      · rintro ⟨run, present, -⟩
        cases present
    · intro index run present
      cases present
  refine ⟨?_, ?_⟩
  · intro index run present
    have recorded := (keeps.steps steps).recorded index run present
    refine ⟨?_, recorded.endsOnce⟩
    intro outcome closed
    exact recorded.prescribes closed
  · obtain ⟨asked, asksLast⟩ := asks.steps steps
    exact ⟨asked, asksLast.nodup, asksLast.mem_iff, asksLast.calls⟩

end Bridge
end Terminal
end SessionHub
