import SessionHub.Proofs.Terminal.Runs
import Mathlib.Data.List.Nodup

/-!
# What runs of the bridge ask

Of the multiplexer each run asks once whether its session is there, when it begins, and
nothing else.
-/

namespace SessionHub
namespace Terminal

/-- The command that asks whether there is a session. -/
def lookupCall (manager : SessionManager) (session : String) : CommandCall where
  argv := manager.argv ["has-session", "-t", SessionName.exactTarget session]
  limit := manager.settings.commandLimit.toNat

/-- The lookup of a session is one command, and is done as soon as this has answered. -/
theorem exists_hasSession (manager : SessionManager) (session : String) :
    ∃ next, manager.hasSession session = .step (.command (lookupCall manager session)) next ∧
      ∀ answer, (next answer).isDone = true := by
  refine ⟨_, rfl, ?_⟩
  intro answer
  cases answer <;> rfl

/-- Whether the lookup of a run is done. -/
def Run.hasAsked (run : Run) : Bool :=
  match run.phase with
  | .validating lookup => lookup.isDone
  | _ => true

namespace Bridge

variable {Runner : Type}
variable {runner : CommandRunner Runner} {bridge : Bridge Runner}

/-- The commands that look up the sessions of some runs. -/
def lookups (bridge : Bridge Runner) (asked : List Nat) : List CommandCall :=
  asked.filterMap fun index =>
    bridge.runs[index]?.map fun run => lookupCall bridge.manager run.session

/-- The commands that were run, after earlier ones, are the lookups of the runs that have
asked, each of them once. -/
structure Asks (bridge : Bridge Runner) (earlier : List CommandCall) (asked : List Nat) :
    Prop where
  nodup : asked.Nodup
  mem_iff : ∀ index : Nat, index ∈ asked ↔
    ∃ run, bridge.runs[index]? = some run ∧ run.hasAsked = true
  calls : bridge.world.calls = earlier ++ bridge.lookups asked
  waiting : ∀ (index : Nat) (run : Run), bridge.runs[index]? = some run → run.hasAsked = false →
    run.phase = .validating (bridge.manager.hasSession run.session)

theorem lookups_congr
    {next : Bridge Runner}
    {asked : List Nat}
    (manager : next.manager = bridge.manager)
    (sessions : ∀ index ∈ asked,
      next.runs[index]?.map Run.session = bridge.runs[index]?.map Run.session) :
    next.lookups asked = bridge.lookups asked := by
  unfold lookups
  rw [manager]
  apply List.filterMap_congr
  intro index member
  have same := congrArg (Option.map (lookupCall bridge.manager)) (sessions index member)
  rw [Option.map_map, Option.map_map] at same
  exact same

theorem lookups_set
    {index : Nat}
    {run next : Run}
    (present : bridge.runs[index]? = some run)
    (session : next.session = run.session)
    (attached : List String)
    (world : World Runner)
    (asked : List Nat) :
    lookups { bridge with runs := bridge.runs.set index next, attached, world } asked =
      bridge.lookups asked := by
  refine lookups_congr rfl ?_
  intro other _
  rw [getElem?_set_of_present present next other]
  split
  · next same => rw [same, present, Option.map_some, Option.map_some, session]
  · rfl

/-- What a step asks: a run that has not asked yet looks its session up, and nothing else
is asked. -/
theorem Change.asks
    {index : Nat}
    {run next : Run}
    {step : Step}
    {attached : List String}
    {world : World Runner}
    (change : Change runner bridge index run step next attached world)
    (waiting : run.hasAsked = false →
      run.phase = .validating (bridge.manager.hasSession run.session)) :
    next.session = run.session ∧ next.hasAsked = true ∧
      (run.hasAsked = true ∧ world.calls = bridge.world.calls ∨
        run.hasAsked = false ∧
          world.calls = bridge.world.calls ++ [lookupCall bridge.manager run.session]) := by
  have asked_of_phase {phase : Phase} (isPhase : run.phase = phase) :
      run.hasAsked = Run.hasAsked { run with phase } := by
    unfold Run.hasAsked
    rw [isPhase]
  cases change with
  | asked action later phase =>
      have notAsked : run.hasAsked = false := asked_of_phase phase
      have isLookup := waiting notAsked
      obtain ⟨answered, lookup, done⟩ := exists_hasSession bridge.manager run.session
      rw [phase, lookup] at isLookup
      cases isLookup
      exact ⟨rfl, done _, .inr ⟨notAsked, rfl⟩⟩
  | lookedUp result phase =>
      have hasAsked : run.hasAsked = true := asked_of_phase phase
      cases result with
      | error failure => exact ⟨rfl, rfl, .inl ⟨hasAsked, rfl⟩⟩
      | ok isThere => cases isThere <;> exact ⟨rfl, rfl, .inl ⟨hasAsked, rfl⟩⟩
  | spawned isStarted phase =>
      have hasAsked : run.hasAsked = true := asked_of_phase phase
      cases isStarted <;> exact ⟨rfl, rfl, .inl ⟨hasAsked, rfl⟩⟩
  | refused phase | acquired phase | moved _ _ _ phase | finished _ phase | released _ phase =>
      have hasAsked : run.hasAsked = true := asked_of_phase phase
      exact ⟨rfl, rfl, .inl ⟨hasAsked, rfl⟩⟩

theorem Asks.arrive
    {earlier : List CommandCall}
    {asked : List Nat}
    (asks : Asks bridge earlier asked)
    (session : String) :
    Asks (bridge.arrive session) earlier asked := by
  have notAsked : (bridge.newRun session).hasAsked = false := by
    obtain ⟨next, lookup, -⟩ := exists_hasSession bridge.manager session
    unfold newRun Run.hasAsked
    dsimp only
    rw [lookup]
    rfl
  refine ⟨asks.nodup, ?_, ?_, ?_⟩
  · intro index
    rw [asks.mem_iff]
    constructor
    · rintro ⟨run, present, hasAsked⟩
      exact ⟨run, arrive_eq_some.2 (.inl present), hasAsked⟩
    · rintro ⟨run, present, hasAsked⟩
      rcases arrive_eq_some.1 present with before | ⟨-, isNew⟩
      · exact ⟨run, before, hasAsked⟩
      · rw [isNew, notAsked] at hasAsked
        cases hasAsked
  · have same : (bridge.arrive session).lookups asked = bridge.lookups asked := by
      refine lookups_congr rfl ?_
      intro index member
      obtain ⟨run, present, -⟩ := (asks.mem_iff index).1 member
      rw [present, arrive_eq_some.2 (.inl present)]
    rw [same]
    exact asks.calls
  · intro index run present notYet
    rcases arrive_eq_some.1 present with before | ⟨-, isNew⟩
    · exact asks.waiting index run before notYet
    · rw [isNew]
      rfl

theorem Asks.change
    {index : Nat}
    {run next : Run}
    {step : Step}
    {attached : List String}
    {world : World Runner}
    (present : bridge.runs[index]? = some run)
    (change : Change runner bridge index run step next attached world)
    {earlier : List CommandCall}
    {asked : List Nat}
    (asks : Asks bridge earlier asked) :
    ∃ more,
      Asks { bridge with runs := bridge.runs.set index next, attached, world } earlier more := by
  obtain ⟨session, hasAsked, asking⟩ := change.asks (asks.waiting index run present)
  have runs_at (other : Nat) := getElem?_set_of_present present next other
  have sameLookups := lookups_set present session attached world
  have waiting (other : Nat) (found : Run)
      (presentLater : (bridge.runs.set index next)[other]? = some found)
      (notYet : found.hasAsked = false) :
      found.phase = .validating (bridge.manager.hasSession found.session) := by
    rw [runs_at] at presentLater
    split at presentLater
    · cases presentLater
      rw [hasAsked] at notYet
      cases notYet
    · exact asks.waiting other found presentLater notYet
  rcases asking with ⟨already, calls⟩ | ⟨notYet, calls⟩
  · refine ⟨asked, asks.nodup, ?_, ?_, waiting⟩
    · intro other
      rw [asks.mem_iff, runs_at]
      split
      · next same => simp [same, present, already, hasAsked]
      · rfl
    · rw [sameLookups, ← asks.calls]
      exact calls
  · have isNew : index ∉ asked := by
      intro member
      obtain ⟨found, presentToo, askedToo⟩ := (asks.mem_iff index).1 member
      cases present.symm.trans presentToo
      rw [notYet] at askedToo
      cases askedToo
    refine ⟨asked ++ [index], ?_, ?_, ?_, waiting⟩
    · rw [← List.concat_eq_append]
      exact asks.nodup.concat isNew
    · intro other
      rw [List.mem_append, List.mem_singleton, asks.mem_iff, runs_at]
      split
      · next same => simp [same, hasAsked]
      · next differs => simp [differs]
    · have one : bridge.lookups [index] = [lookupCall bridge.manager run.session] := by
        unfold lookups
        rw [List.filterMap_cons, present]
        rfl
      rw [sameLookups, lookups, List.filterMap_append]
      change world.calls = earlier ++ (bridge.lookups asked ++ bridge.lookups [index])
      rw [one, ← List.append_assoc, ← asks.calls]
      exact calls

theorem Progress.asks
    {step : Step}
    {next : Bridge Runner}
    (progress : Progress runner bridge step next)
    {earlier : List CommandCall}
    {asked : List Nat}
    (asks : Asks bridge earlier asked) :
    ∃ more, Asks next earlier more := by
  cases progress with
  | idle => exact ⟨asked, asks⟩
  | arrived session => exact ⟨asked, asks.arrive session⟩
  | changed index run later step attached world present change =>
      exact asks.change present change

theorem Asks.steps
    {earlier : List CommandCall}
    {asked : List Nat}
    (asks : Asks bridge earlier asked)
    (steps : List Step) :
    ∃ more, Asks (bridge.steps runner steps) earlier more := by
  induction steps generalizing bridge asked with
  | nil => exact ⟨asked, asks⟩
  | cons step rest inductionHypothesis =>
      have progress : Progress runner bridge step (bridge.step runner step) := step_progress step
      obtain ⟨more, asksMore⟩ := progress.asks asks
      exact inductionHypothesis asksMore

end Bridge
end Terminal
end SessionHub
