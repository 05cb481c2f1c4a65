import SessionHub.Proofs.Terminal.SlotChanges

/-!
# Slots of sessions

Whatever runs are under way, the slots that are held are those of the runs that hold one,
no two runs hold the slot of one session, and a run that is refused leaves the slots as
they are. The invariant `TracksSlots` is derived from what a step does to the slots.
-/

namespace SessionHub
namespace Terminal
namespace Bridge

variable {Runner : Type}

/-- A run holds the slot of a session. -/
def Holds (bridge : Bridge Runner) (index : Nat) (session : String) : Prop :=
  ∃ run, bridge.runs[index]? = some run ∧ run.session = session ∧ run.phase.holdsSlot = true

/-- A run has found its session and is about to ask for the slot. -/
def IsFound (bridge : Bridge Runner) (index : Nat) : Prop :=
  ∃ run, bridge.runs[index]? = some run ∧ run.phase = .found

/-- What a run does to the slots in a step. -/
def slotChangesIn (runner : CommandRunner Runner) (bridge : Bridge Runner) (index : Nat)
    (step : Step) : List SlotChange :=
  if step.run? = some index then
    slotChanges bridge.attached (bridge.step runner step).attached
  else []

/-- What a run does to the slots in several steps. -/
def slotChangesMade (runner : CommandRunner Runner) (index : Nat) :
    Bridge Runner → List Step → List SlotChange
  | _, [] => []
  | bridge, step :: rest =>
      bridge.slotChangesIn runner index step ++
        slotChangesMade runner index (bridge.step runner step) rest

/-! ## Slots and their holders -/

/-- The slots that are held are those of the runs that hold one, each of them held once, and
each run has done to the slots what its phase tells. -/
structure TracksSlots (bridge : Bridge Runner) (history : Nat → List SlotChange) : Prop where
  nodup : bridge.attached.Nodup
  mem_iff : ∀ session, session ∈ bridge.attached ↔ ∃ index, bridge.Holds index session
  unique : ∀ session index other,
    bridge.Holds index session → bridge.Holds other session → index = other
  took : ∀ (index : Nat) (run : Run), bridge.runs[index]? = some run →
    run.phase.holdsSlot = true → run.phase.tookSlot = true
  made : ∀ index run, bridge.runs[index]? = some run → history index = run.slotChanges
  fresh : ∀ index, bridge.runs[index]? = none → history index = []

section Step

variable {runner : CommandRunner Runner} {bridge : Bridge Runner}
variable {history : Nat → List SlotChange}

theorem holds_arrive_iff
    {session other : String}
    {index : Nat} :
    (bridge.arrive session).Holds index other ↔ bridge.Holds index other := by
  constructor
  · rintro ⟨run, present, isOther, holds⟩
    rcases arrive_eq_some.1 present with before | ⟨-, isNew⟩
    · exact ⟨run, before, isOther, holds⟩
    · rw [isNew] at holds
      cases holds
  · rintro ⟨run, present, isOther, holds⟩
    exact ⟨run, arrive_eq_some.2 (.inl present), isOther, holds⟩

theorem holds_iff_of_present
    {index : Nat}
    {run : Run}
    (present : bridge.runs[index]? = some run)
    (session : String) :
    bridge.Holds index session ↔ run.session = session ∧ run.phase.holdsSlot = true := by
  unfold Holds
  rw [present]
  simp

theorem holds_set_iff
    {index : Nat}
    {run next : Run}
    (present : bridge.runs[index]? = some run)
    (sameSession : next.session = run.session)
    (attached : List String)
    (world : World Runner)
    (other : Nat)
    (session : String) :
    Holds { bridge with runs := bridge.runs.set index next, attached, world } other session ↔
      if other = index then run.session = session ∧ next.phase.holdsSlot = true
      else bridge.Holds other session := by
  unfold Holds
  dsimp only
  rw [getElem?_set_of_present present]
  split
  · rw [← sameSession]
    simp
  · rfl

theorem TracksSlots.arrive
    (tracks : TracksSlots bridge history)
    (session : String) :
    TracksSlots (bridge.arrive session) history where
  nodup := tracks.nodup
  mem_iff := by
    intro other
    simp only [holds_arrive_iff]
    exact tracks.mem_iff other
  unique := by
    intro other first second
    simp only [holds_arrive_iff]
    exact tracks.unique other first second
  took := by
    intro index run present holds
    rcases arrive_eq_some.1 present with before | ⟨-, isNew⟩
    · exact tracks.took index run before holds
    · rw [isNew] at holds
      cases holds
  made := by
    intro index run present
    rcases arrive_eq_some.1 present with before | ⟨isLast, isNew⟩
    · exact tracks.made index run before
    · rw [isNew, isLast]
      exact tracks.fresh _ (List.getElem?_length _)
  fresh := by
    intro index absent
    apply tracks.fresh
    rw [Option.eq_none_iff_forall_ne_some] at absent ⊢
    intro run before
    exact absent run (arrive_eq_some.2 (.inl before))

/-- A slot that is held, though not by this run, is held by another. -/
theorem TracksSlots.exists_other_iff
    (tracks : TracksSlots bridge history)
    {index : Nat}
    {run : Run}
    (present : bridge.runs[index]? = some run)
    (session : String) :
    (∃ other, other ≠ index ∧ bridge.Holds other session) ↔
      session ∈ bridge.attached ∧
        ¬(run.session = session ∧ run.phase.holdsSlot = true) := by
  rw [← holds_iff_of_present present, tracks.mem_iff]
  constructor
  · rintro ⟨other, differs, holds⟩
    exact ⟨⟨other, holds⟩, fun own => differs (tracks.unique session other index holds own)⟩
  · rintro ⟨⟨other, holds⟩, notOwn⟩
    exact ⟨other, fun same => notOwn (same ▸ holds), holds⟩

theorem TracksSlots.change
    {index : Nat}
    {run next : Run}
    {step : Step}
    {attached : List String}
    {world : World Runner}
    (tracks : TracksSlots bridge history)
    (present : bridge.runs[index]? = some run)
    (change : Change runner bridge index run step next attached world) :
    TracksSlots { bridge with runs := bridge.runs.set index next, attached, world }
      fun other => history other ++
        if other = index then slotChanges bridge.attached attached else [] := by
  have exchange := change.exchange
  have took := tracks.took index run present
  have member (holds : run.phase.holdsSlot = true) : run.session ∈ bridge.attached :=
    (tracks.mem_iff run.session).2 ⟨index, run, present, rfl, holds⟩
  have runs_at (other : Nat) := getElem?_set_of_present present next other
  have holds_at := holds_set_iff present change.session_eq attached world
  -- Two holders of one slot can only be two that held it before.
  have notBoth
      {other : Nat}
      (differs : other ≠ index)
      (holds : next.phase.holdsSlot = true)
      (held : bridge.Holds other run.session) : False := by
    have ⟨listed, notOwn⟩ := (tracks.exists_other_iff present _).1 ⟨other, differs, held⟩
    rcases exchange.holds_or_free holds with own | free
    · exact notOwn ⟨rfl, own⟩
    · exact free listed
  refine ⟨exchange.nodup tracks.nodup, ?_, ?_, ?_, ?_, ?_⟩
  · intro session
    rw [exchange.mem_iff member, ← tracks.exists_other_iff present]
    simp only [holds_at]
    constructor
    · rintro (own | ⟨other, differs, holds⟩)
      · exact ⟨index, by rwa [if_pos rfl]⟩
      · exact ⟨other, by rwa [if_neg differs]⟩
    · rintro ⟨other, holds⟩
      split at holds
      · exact .inl holds
      · next differs => exact .inr ⟨other, differs, holds⟩
  · intro session first second holdsFirst holdsSecond
    rw [holds_at] at holdsFirst holdsSecond
    split at holdsFirst <;> split at holdsSecond
    · next isFirst isSecond => rw [isFirst, isSecond]
    · next differs =>
      exact (notBoth differs holdsFirst.2 (holdsFirst.1 ▸ holdsSecond)).elim
    · next differs _ =>
      exact (notBoth differs holdsSecond.2 (holdsSecond.1 ▸ holdsFirst)).elim
    · exact tracks.unique session first second holdsFirst holdsSecond
  · intro other found presentLater holds
    rw [runs_at] at presentLater
    split at presentLater
    · cases presentLater
      exact exchange.tookSlot_of_holds took holds
    · exact tracks.took other found presentLater holds
  · intro other found presentLater
    rw [runs_at] at presentLater
    split at presentLater
    · next same =>
      cases presentLater
      rw [if_pos same, same, tracks.made index run present]
      exact exchange.slotChanges_append change.session_eq tracks.nodup member took
    · next differs =>
      rw [if_neg differs, List.append_nil]
      exact tracks.made other found presentLater
  · intro other absent
    rw [runs_at] at absent
    split at absent
    · cases absent
    · next differs =>
      rw [if_neg differs, List.append_nil]
      exact tracks.fresh other absent

theorem Progress.tracksSlots
    {step : Step}
    {next : Bridge Runner}
    (progress : Progress runner bridge step next)
    (tracks : TracksSlots bridge history) :
    TracksSlots next fun index => history index ++
      if step.run? = some index then slotChanges bridge.attached next.attached else [] := by
  cases progress with
  | idle step silent =>
      simp only [slotChanges_self, ite_self, List.append_nil]
      exact tracks
  | arrived session =>
      simp only [Step.run?, reduceCtorEq, if_false, List.append_nil]
      exact tracks.arrive session
  | changed index run later step attached world present change =>
      simp only [change.run?_eq, Option.some.injEq, @eq_comm _ index]
      exact tracks.change present change

theorem TracksSlots.steps
    (tracks : TracksSlots bridge history)
    (runner : CommandRunner Runner)
    (steps : List Step) :
    TracksSlots (bridge.steps runner steps) fun index =>
      history index ++ slotChangesMade runner index bridge steps := by
  induction steps generalizing bridge history with
  | nil =>
      simp only [slotChangesMade, List.append_nil]
      exact tracks
  | cons step rest inductionHypothesis =>
      have progress : Progress runner bridge step (bridge.step runner step) := step_progress step
      have later := inductionHypothesis (progress.tracksSlots tracks)
      simp only [List.append_assoc] at later
      exact later

end Step

/-! ## Runs that go on -/

/-- What a run may have become. -/
structure IsLater (later run : Run) : Prop where
  session : later.session = run.session
  tookSlot : run.phase.tookSlot = true → later.phase.tookSlot = true
  closed : ∀ outcome, run.phase = .closed outcome → later = run

theorem IsLater.refl (run : Run) : IsLater run run :=
  ⟨rfl, id, fun _ _ => rfl⟩

theorem IsLater.trans
    {run later last : Run}
    (first : IsLater later run)
    (second : IsLater last later) :
    IsLater last run where
  session := second.session.trans first.session
  tookSlot took := second.tookSlot (first.tookSlot took)
  closed := by
    intro outcome phase
    have same := first.closed outcome phase
    rw [second.closed outcome (same ▸ phase), same]

section Run

variable {runner : CommandRunner Runner} {bridge : Bridge Runner}
variable {history : Nat → List SlotChange}
variable {index : Nat} {run : Run}

theorem Change.isLater
    {next : Run}
    {step : Step}
    {attached : List String}
    {world : World Runner}
    (change : Change runner bridge index run step next attached world) :
    IsLater next run where
  session := change.session_eq
  tookSlot := change.exchange.tookSlot
  closed := by
    intro outcome closed
    have notOver := change.outcome?_eq_none
    rw [closed] at notOver
    cases notOver

theorem Progress.exists_later
    {step : Step}
    {next : Bridge Runner}
    (progress : Progress runner bridge step next)
    (present : bridge.runs[index]? = some run) :
    ∃ later, next.runs[index]? = some later ∧ IsLater later run := by
  cases progress with
  | idle => exact ⟨run, present, .refl run⟩
  | arrived session => exact ⟨run, arrive_eq_some.2 (.inl present), .refl run⟩
  | changed other found later step attached world presentToo change =>
      have runs_at := getElem?_set_of_present presentToo later index
      split at runs_at
      · next same =>
        cases (same ▸ present).symm.trans presentToo
        exact ⟨later, runs_at, change.isLater⟩
      · exact ⟨run, runs_at.trans present, .refl run⟩

theorem exists_later_steps
    (runner : CommandRunner Runner)
    (present : bridge.runs[index]? = some run)
    (steps : List Step) :
    ∃ later, (bridge.steps runner steps).runs[index]? = some later ∧ IsLater later run := by
  induction steps generalizing bridge run with
  | nil => exact ⟨run, present, .refl run⟩
  | cons step rest inductionHypothesis =>
      have progress : Progress runner bridge step (bridge.step runner step) := step_progress step
      obtain ⟨next, presentNext, isNext⟩ := progress.exists_later present
      obtain ⟨later, presentLater, isLater⟩ := inductionHypothesis presentNext
      exact ⟨later, presentLater, isNext.trans isLater⟩

/-! ## Runs that are refused -/

/-- A run asks for the slot of its session and is refused if another run holds it. -/
theorem TracksSlots.busy_iff
    (tracks : TracksSlots bridge history)
    (present : bridge.runs[index]? = some run)
    (found : run.phase = .found)
    (rest : List Step)
    {last : Run}
    (presentLast : (bridge.steps runner (.acquire index :: rest)).runs[index]? = some last) :
    last.phase.outcome? = some .busy ↔
      ∃ other, other ≠ index ∧ bridge.Holds other run.session := by
  have unheld : run.phase.holdsSlot = false := by
    rw [found]
    rfl
  have held_iff := tracks.exists_other_iff present run.session
  simp only [unheld, Bool.false_eq_true, and_false, not_false_eq_true, and_true] at held_iff
  rw [held_iff]
  have step : bridge.step runner (.acquire index) = bridge.acquire index run := by
    rw [Bridge.step, act, present]
  have later
      {next : Run}
      (acquired : (bridge.acquire index run).runs[index]? = some next) :
      IsLater last next := by
    obtain ⟨found, presentToo, isLater⟩ := exists_later_steps runner acquired rest
    change ((bridge.step runner (.acquire index)).steps runner rest).runs[index]? = _
      at presentLast
    rw [step, presentToo] at presentLast
    cases presentLast
    exact isLater
  have runs_at (next : Run) : (bridge.runs.set index next)[index]? = some next := by
    rw [getElem?_set_of_present present, if_pos rfl]
  unfold acquire at later
  rw [found] at later
  dsimp only at later
  split at later
  · next held =>
    have refused : last = run.refused .busy := (later (runs_at _)).closed .busy rfl
    rw [refused]
    exact iff_of_true rfl (by simpa [isAttached] using held)
  · next free =>
    have took := (later (runs_at _)).tookSlot rfl
    refine iff_of_false ?_ (by simpa [isAttached] using free)
    intro busy
    cases phase : last.phase with
    | closed outcome =>
        rw [phase] at busy took
        cases busy
        cases took
    | validating | found | spawning | streaming | closing =>
        rw [phase] at busy
        cases busy

/-- Only by asking for the slot of its session does a run find it taken. -/
theorem Change.eq_acquire
    {next : Run}
    {step : Step}
    {attached : List String}
    {world : World Runner}
    (change : Change runner bridge index run step next attached world)
    (took : run.phase.holdsSlot = true → run.phase.tookSlot = true)
    (busy : next.phase.outcome? = some .busy) :
    step = .acquire index ∧ run.phase = .found := by
  cases change with
  | refused phase => exact ⟨rfl, phase⟩
  | lookedUp result =>
      cases result with
      | error failure => cases busy
      | ok isThere => cases isThere <;> cases busy
  | spawned isStarted => cases isStarted <;> cases busy
  | released outcome phase =>
      cases busy
      rw [phase] at took
      cases took rfl
  | asked | acquired | moved | finished => cases busy

theorem TracksSlots.exists_attempt
    (tracks : TracksSlots bridge history)
    (notYet : ∀ run, bridge.runs[index]? = some run → run.phase.outcome? ≠ some .busy)
    {steps : List Step}
    {last : Run}
    (presentLast : (bridge.steps runner steps).runs[index]? = some last)
    (busy : last.phase.outcome? = some .busy) :
    ∃ earlier later, steps = earlier ++ .acquire index :: later ∧
      (bridge.steps runner earlier).IsFound index := by
  induction steps generalizing bridge history with
  | nil => exact absurd busy (notYet last presentLast)
  | cons step rest inductionHypothesis =>
      have progress : Progress runner bridge step (bridge.step runner step) := step_progress step
      by_cases stillNot : ∀ run, (bridge.step runner step).runs[index]? = some run →
          run.phase.outcome? ≠ some .busy
      · obtain ⟨earlier, later, isRest, found⟩ :=
          inductionHypothesis (progress.tracksSlots tracks) stillNot presentLast
        exact ⟨step :: earlier, later, by rw [isRest, List.cons_append], found⟩
      · push Not at stillNot
        obtain ⟨next, presentNext, busyNext⟩ := stillNot
        refine ⟨[], rest, ?_⟩
        generalize bridge.step runner step = after at progress presentNext
        cases progress with
        | idle => exact absurd busyNext (notYet next presentNext)
        | arrived session =>
            rcases arrive_eq_some.1 presentNext with before | ⟨-, isNew⟩
            · exact absurd busyNext (notYet next before)
            · rw [isNew] at busyNext
              cases busyNext
        | changed other run later step attached world present change =>
            rw [getElem?_set_of_present present] at presentNext
            split at presentNext
            · next same =>
              cases presentNext
              cases same
              obtain ⟨isAcquire, found⟩ :=
                change.eq_acquire (tracks.took index run present) busyNext
              rw [isAcquire]
              exact ⟨rfl, run, present, found⟩
            · exact absurd busyNext (notYet next presentNext)

end Run

/-! ## The law of slots -/

/-- Whatever steps are made by whatever runs of a new bridge, the slots that are held are those
of the sessions whose slot some run holds, and no two runs hold the slot of one session. A
run that is refused never changes the slots; one that has had its slot took it once and
gave it back once, and did nothing else to the slots. When all runs are over, no slot is
held. A run finds its session busy if another run holds the slot when it asks for it, and
only then. -/
theorem slots_follow_runs
    (runner : CommandRunner Runner)
    (bridge : Bridge Runner)
    (steps : List Step) :
    let first := { bridge with attached := [], runs := [] }
    let last := first.steps runner steps
    (∀ session, last.isAttached session = true ↔ ∃ index, last.Holds index session) ∧
    (∀ session index other,
      last.Holds index session → last.Holds other session → index = other) ∧
    (∀ (index : Nat) (run : Run), last.runs[index]? = some run →
      (∀ outcome, run.phase.outcome? = some outcome →
        slotChangesMade runner index first steps =
          if outcome.tookSlot then [.taken run.session, .freed run.session] else []) ∧
      (run.phase.outcome? = some .busy →
        ∃ earlier later, steps = earlier ++ .acquire index :: later ∧
          (first.steps runner earlier).IsFound index) ∧
      ∀ earlier later, steps = earlier ++ .acquire index :: later →
        (first.steps runner earlier).IsFound index →
        (run.phase.outcome? = some .busy ↔
          ∃ other, other ≠ index ∧ (first.steps runner earlier).Holds other run.session)) ∧
    ((∀ run ∈ last.runs, run.phase.outcome?.isSome = true) → last.attached = []) := by
  intro first last
  have start : TracksSlots first fun _ => [] := by
    refine ⟨List.nodup_nil, ?_, ?_, ?_, ?_, fun _ _ => rfl⟩
    · intro session
      constructor
      · exact nofun
      · rintro ⟨index, run, present, -⟩
        cases present
    · rintro session index other ⟨run, present, -⟩
      cases present
    · intro index run present
      cases present
    · intro index run present
      cases present
  have tracks := start.steps runner steps
  refine ⟨?_, tracks.unique, ?_, ?_⟩
  · intro session
    rw [← tracks.mem_iff, isAttached, List.contains_iff_mem]
  · intro index run present
    refine ⟨?_, ?_, ?_⟩
    · intro outcome closed
      have made := tracks.made index run present
      rw [List.nil_append] at made
      rw [made, Run.slotChanges]
      cases phase : run.phase with
      | closed other =>
          rw [phase] at closed
          cases closed
          rfl
      | validating | found | spawning | streaming | closing =>
          rw [phase] at closed
          cases closed
    · intro busy
      refine start.exists_attempt ?_ present busy
      intro run absent
      cases absent
    · rintro earlier later rfl ⟨before, presentBefore, isFound⟩
      have split : last = (first.steps runner earlier).steps runner (.acquire index :: later) :=
        List.foldl_append
      rw [split] at present
      obtain ⟨found, presentToo, isLater⟩ :=
        exists_later_steps runner presentBefore (.acquire index :: later)
      cases presentToo.symm.trans present
      rw [isLater.session]
      exact (start.steps runner earlier).busy_iff presentBefore isFound later present
  · intro allClosed
    rw [List.eq_nil_iff_forall_not_mem]
    intro session held
    obtain ⟨index, run, present, -, holds⟩ := (tracks.mem_iff session).1 held
    have closed := allClosed run (List.mem_of_getElem? present)
    cases phase : run.phase with
    | closed | validating | found =>
        rw [phase] at holds
        cases holds
    | spawning | streaming | closing =>
        rw [phase] at closed
        cases closed

end Bridge
end Terminal
end SessionHub
