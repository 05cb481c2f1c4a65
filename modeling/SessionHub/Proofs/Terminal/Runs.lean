import SessionHub.Terminal.Bridge

/-!
# Steps of the bridge

A step of the bridge is idle, adds a run, or takes one run from one phase to the next.
What it does to that run, to the slots and to the world is told by `Change`, one case for
each way in which a run goes on.
-/

namespace SessionHub
namespace Terminal

/-- Whether a run in this phase can make a move. -/
def Phase.admits (phase : Phase) (move : Move) : Bool :=
  match phase with
  | .streaming stream => (stream.step move).isSome
  | _ => false

namespace Bridge

variable {Runner : Type}

/-- The moves that a run makes in a step. -/
def movesIn (bridge : Bridge Runner) (index : Nat) : Step → List Move
  | .move other move =>
      if other = index ∧ bridge.runs[index]?.any (·.phase.admits move) then [move] else []
  | _ => []

/-- The moves that a run makes in several steps. -/
def movesMade (runner : CommandRunner Runner) (index : Nat) :
    Bridge Runner → List Step → List Move
  | _, [] => []
  | bridge, step :: rest =>
      bridge.movesIn index step ++ movesMade runner index (bridge.step runner step) rest

/-- What a step makes of the run that takes it, of the slots and of the world. -/
inductive Change (runner : CommandRunner Runner) (bridge : Bridge Runner) (index : Nat)
    (run : Run) : Step → Run → List String → World Runner → Prop
  | asked
      (action : Action)
      (next : action.Answer → Job (Except SessionError Bool))
      (phase : run.phase = .validating (.step action next)) :
      Change runner bridge index run (.look index)
        { run with phase := .validating (next (bridge.world.act runner action).1) }
        bridge.attached (bridge.world.act runner action).2
  | lookedUp
      (result : Except SessionError Bool)
      (phase : run.phase = .validating (.done result)) :
      Change runner bridge index run (.look index) (run.lookedUp result)
        bridge.attached bridge.world
  | refused
      (phase : run.phase = .found)
      (held : bridge.isAttached run.session = true) :
      Change runner bridge index run (.acquire index) (run.refused .busy)
        bridge.attached bridge.world
  | acquired
      (phase : run.phase = .found)
      (free : bridge.isAttached run.session = false) :
      Change runner bridge index run (.acquire index) { run with phase := .spawning }
        (run.session :: bridge.attached) bridge.world
  | spawned
      (isStarted : Bool)
      (phase : run.phase = .spawning) :
      Change runner bridge index run (.spawn index isStarted)
        (run.spawned bridge.firstSize isStarted) bridge.attached bridge.world
  | moved
      (move : Move)
      (stream next : Stream)
      (phase : run.phase = .streaming stream)
      (made : stream.step move = some next) :
      Change runner bridge index run (.move index move) { run with phase := .streaming next }
        bridge.attached bridge.world
  | finished
      (stream : Stream)
      (phase : run.phase = .streaming stream)
      (ended : stream.isOver = true) :
      Change runner bridge index run (.finish index)
        { run with phase := .closing (.finished stream.reason), sent := run.frames }
        bridge.attached bridge.world
  | released
      (outcome : Outcome)
      (phase : run.phase = .closing outcome) :
      Change runner bridge index run (.release index) { run with phase := .closed outcome }
        (bridge.attached.filter (· ≠ run.session)) bridge.world

/-- What a step makes of the bridge. -/
inductive Progress (runner : CommandRunner Runner) (bridge : Bridge Runner) :
    Step → Bridge Runner → Prop
  | idle
      (step : Step)
      (silent : ∀ index, bridge.movesIn index step = []) :
      Progress runner bridge step bridge
  | arrived (session : String) :
      Progress runner bridge (.arrive session) (bridge.arrive session)
  | changed
      (index : Nat)
      (run next : Run)
      (step : Step)
      (attached : List String)
      (world : World Runner)
      (present : bridge.runs[index]? = some run)
      (change : Change runner bridge index run step next attached world) :
      Progress runner bridge step
        { bridge with runs := bridge.runs.set index next, attached, world }

section Step

variable {runner : CommandRunner Runner} {bridge : Bridge Runner}

/-- A run whose session is about to be looked up. -/
def newRun (bridge : Bridge Runner) (session : String) : Run where
  session := session
  phase := .validating (bridge.manager.hasSession session)

theorem arrive_eq_some
    {session : String}
    {index : Nat}
    {run : Run} :
    (bridge.arrive session).runs[index]? = some run ↔
      bridge.runs[index]? = some run ∨
        index = bridge.runs.length ∧ run = bridge.newRun session := by
  change (bridge.runs ++ [bridge.newRun session])[index]? = some run ↔ _
  rw [List.getElem?_append]
  split
  · next inside => exact (or_iff_left fun new => absurd new.1 (Nat.ne_of_lt inside)).symm
  · next beyond =>
    have absent : bridge.runs[index]? = none := List.getElem?_eq_none (Nat.not_lt.1 beyond)
    rw [List.getElem?_singleton, absent]
    have last_iff : index - bridge.runs.length = 0 ↔ index = bridge.runs.length := by omega
    simp [last_iff, eq_comm]

theorem getElem?_set_of_present
    {index : Nat}
    {run : Run}
    (present : bridge.runs[index]? = some run)
    (next : Run)
    (other : Nat) :
    (bridge.runs.set index next)[other]? =
      if other = index then some next else bridge.runs[other]? := by
  split
  · next same =>
    rw [same, List.getElem?_set_self (List.getElem?_eq_some_iff.1 present).1]
  · next differs => rw [List.getElem?_set_ne (Ne.symm differs)]

/-- No move is made in a step of a run that cannot make it. -/
theorem movesIn_eq_nil
    {index : Nat}
    {move : Move}
    (refuses : ∀ run, bridge.runs[index]? = some run → run.phase.admits move = false) :
    ∀ other, bridge.movesIn other (.move index move) = [] := by
  intro other
  apply if_neg
  rintro ⟨rfl, admits⟩
  obtain ⟨run, present, admitted⟩ := (Option.any_eq_true ..).1 admits
  rw [refuses run present] at admitted
  cases admitted

/-- A run that cannot act makes the step idle. -/
theorem progress_act
    {index : Nat}
    {step : Step}
    {action : Run → Bridge Runner}
    (absent : bridge.runs[index]? = none → ∀ other, bridge.movesIn other step = [])
    (acts : ∀ run, bridge.runs[index]? = some run → Progress runner bridge step (action run)) :
    Progress runner bridge step (bridge.act index action) := by
  unfold act
  split
  · next nobody => exact .idle step (absent nobody)
  · next run present => exact acts run present

theorem step_progress (step : Step) :
    Progress runner bridge step (bridge.step runner step) := by
  cases step with
  | arrive session => exact .arrived session
  | look index =>
      apply progress_act (fun _ _ => rfl)
      intro run present
      unfold look
      split
      · next lookup phase =>
        cases lookup with
        | done result => exact .changed index run _ _ _ _ present (.lookedUp result phase)
        | step action next =>
            exact .changed index run _ _ _ _ present (.asked action next phase)
      · exact .idle _ fun _ => rfl
  | acquire index =>
      apply progress_act (fun _ _ => rfl)
      intro run present
      unfold acquire
      split
      · next phase =>
        split
        · next held => exact .changed index run _ _ _ _ present (.refused phase held)
        · next free =>
          exact .changed index run _ _ _ _ present (.acquired phase (by simpa using free))
      · exact .idle _ fun _ => rfl
  | spawn index isStarted =>
      apply progress_act (fun _ _ => rfl)
      intro run present
      unfold spawn
      split
      · next phase => exact .changed index run _ _ _ _ present (.spawned isStarted phase)
      · exact .idle _ fun _ => rfl
  | move index move =>
      apply progress_act
      · intro nobody
        apply movesIn_eq_nil
        intro run present
        cases nobody.symm.trans present
      · intro run present
        unfold Bridge.move
        split
        · next stream phase =>
          split
          · next refused =>
            apply Progress.idle
            apply movesIn_eq_nil
            intro other presentToo
            cases present.symm.trans presentToo
            rw [phase, Phase.admits, refused]
            rfl
          · next later made =>
            exact .changed index run _ _ _ _ present (.moved move stream later phase made)
        · next notStreaming =>
          apply Progress.idle
          apply movesIn_eq_nil
          intro other presentToo
          cases present.symm.trans presentToo
          unfold Phase.admits
          split
          · next stream phase => exact absurd phase (notStreaming stream)
          · rfl
  | finish index =>
      apply progress_act (fun _ _ => rfl)
      intro run present
      unfold finish
      split
      · next stream phase =>
        split
        · next ended =>
          exact .changed index run _ _ _ _ present (.finished stream phase ended)
        · exact .idle _ fun _ => rfl
      · exact .idle _ fun _ => rfl
  | release index =>
      apply progress_act (fun _ _ => rfl)
      intro run present
      unfold release
      split
      · next outcome phase =>
        exact .changed index run _ _ _ _ present (.released outcome phase)
      · exact .idle _ fun _ => rfl

end Step

end Bridge
end Terminal
end SessionHub
