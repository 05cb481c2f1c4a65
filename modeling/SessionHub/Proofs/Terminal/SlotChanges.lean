import SessionHub.Proofs.Terminal.Runs
import Mathlib.Data.List.Nodup

/-!
# Changes of the slots

A run takes the slot of its session before it starts a program, and gives it back at its
very end. What a step does to the slots is told by `Exchange`: nothing, or the run takes
the slot of its own session, which was free, or gives it back.
-/

namespace SessionHub
namespace Terminal

/-- Whether a run that comes out so has had the slot of its session. -/
def Outcome.tookSlot : Outcome → Bool
  | .notFound | .busy | .lookupFailed => false
  | .spawnFailed | .finished _ => true

/-- Whether a run in this phase has, or has had, the slot of its session. -/
def Phase.tookSlot : Phase → Bool
  | .validating _ | .found => false
  | .spawning | .streaming _ => true
  | .closing outcome | .closed outcome => outcome.tookSlot

/-- The number of the run that makes a step, unless the run is new. -/
def Step.run? : Step → Option Nat
  | .arrive _ => none
  | .look run | .acquire run | .spawn run _ | .move run _ | .finish run | .release run =>
      some run

/-! ## Changes of the slots -/

/-- What may happen to the slot of a session. -/
inductive SlotChange
  | taken (session : String)
  | freed (session : String)
deriving DecidableEq, Repr

/-- What has become of the slots that were held before. -/
def slotChanges (before after : List String) : List SlotChange :=
  (after.filter (· ∉ before)).map .taken ++ (before.filter (· ∉ after)).map .freed

theorem slotChanges_self (held : List String) : slotChanges held held = [] := by
  have nothing : held.filter (· ∉ held) = [] :=
    List.filter_eq_nil_iff.2 fun session member => by simp [member]
  rw [slotChanges, nothing]
  rfl

theorem slotChanges_cons
    {held : List String}
    {session : String}
    (free : session ∉ held) :
    slotChanges held (session :: held) = [.taken session] := by
  have taken : (session :: held).filter (· ∉ held) = [session] := by
    rw [List.filter_cons_of_pos (by simp [free])]
    congr 1
    exact List.filter_eq_nil_iff.2 fun other member => by simp [member]
  have freed : held.filter (· ∉ session :: held) = [] :=
    List.filter_eq_nil_iff.2 fun other member => by simp [member]
  rw [slotChanges, taken, freed]
  rfl

theorem slotChanges_filter
    {held : List String}
    {session : String}
    (nodup : held.Nodup)
    (member : session ∈ held) :
    slotChanges held (held.filter (· ≠ session)) = [.freed session] := by
  have taken : (held.filter (· ≠ session)).filter (· ∉ held) = [] := by
    rw [List.filter_eq_nil_iff]
    intro other kept
    simp [(List.mem_filter.1 kept).1]
  have freed : held.filter (· ∉ held.filter (· ≠ session)) = [session] := by
    have isSession : held.filter (· ∉ held.filter (· ≠ session)) =
        held.filter (· == session) := by
      apply List.filter_congr
      intro other listed
      simp [listed, beq_eq_decide]
    rw [isSession, List.filter_beq, List.count_eq_one_of_mem nodup member, List.replicate_one]
  rw [slotChanges, taken, freed]
  rfl

/-- What a run that has come so far has done to the slots. -/
def Run.slotChanges (run : Run) : List SlotChange :=
  if run.phase.tookSlot then
    if run.phase.holdsSlot then [.taken run.session]
    else [.taken run.session, .freed run.session]
  else []

namespace Bridge

variable {Runner : Type}

/-- What a step of a run does to the slots. -/
inductive Exchange (run next : Run) (attached : List String) : List String → Prop
  | kept
      (took : next.phase.tookSlot = run.phase.tookSlot)
      (holds : next.phase.holdsSlot = run.phase.holdsSlot) :
      Exchange run next attached attached
  | taken
      (free : run.session ∉ attached)
      (before : run.phase.tookSlot = false ∧ run.phase.holdsSlot = false)
      (after : next.phase.tookSlot = true ∧ next.phase.holdsSlot = true) :
      Exchange run next attached (run.session :: attached)
  | freed
      (took : next.phase.tookSlot = run.phase.tookSlot)
      (before : run.phase.holdsSlot = true)
      (after : next.phase.holdsSlot = false) :
      Exchange run next attached (attached.filter (· ≠ run.session))

section Change

variable {runner : CommandRunner Runner} {bridge : Bridge Runner}
variable {index : Nat} {run next : Run} {step : Step}
variable {attached : List String} {world : World Runner}

theorem Change.run?_eq
    (change : Change runner bridge index run step next attached world) :
    step.run? = some index := by
  cases change <;> rfl

/-- A run that is over makes no step any more. -/
theorem Change.outcome?_eq_none
    (change : Change runner bridge index run step next attached world) :
    run.phase.outcome? = none := by
  cases change with
  | asked _ _ phase | lookedUp _ phase | refused phase | acquired phase | spawned _ phase
  | moved _ _ _ phase | finished _ phase | released _ phase =>
      rw [phase]
      rfl

theorem Change.session_eq
    (change : Change runner bridge index run step next attached world) :
    next.session = run.session := by
  cases change with
  | lookedUp result =>
      cases result with
      | error failure => rfl
      | ok isThere => cases isThere <;> rfl
  | spawned isStarted => cases isStarted <;> rfl
  | _ => rfl

theorem Change.exchange
    (change : Change runner bridge index run step next attached world) :
    Exchange run next bridge.attached attached := by
  have kept
      {phase : Phase}
      {later : Run}
      (isPhase : run.phase = phase)
      (took : later.phase.tookSlot = phase.tookSlot)
      (holds : later.phase.holdsSlot = phase.holdsSlot) :
      Exchange run later bridge.attached bridge.attached :=
    .kept (isPhase ▸ took) (isPhase ▸ holds)
  cases change with
  | asked action later phase => exact kept phase rfl rfl
  | lookedUp result phase =>
      cases result with
      | error failure => exact kept phase rfl rfl
      | ok isThere => cases isThere <;> exact kept phase rfl rfl
  | refused phase held => exact kept phase rfl rfl
  | acquired phase free =>
      have before : run.phase.tookSlot = false ∧ run.phase.holdsSlot = false := by
        rw [phase]
        exact ⟨rfl, rfl⟩
      exact .taken (by simpa [isAttached] using free) before ⟨rfl, rfl⟩
  | spawned isStarted phase => cases isStarted <;> exact kept phase rfl rfl
  | moved move stream later phase made => exact kept phase rfl rfl
  | finished stream phase ended => exact kept phase rfl rfl
  | released outcome phase =>
      exact .freed (by rw [phase]; rfl) (by rw [phase]; rfl) rfl

end Change

namespace Exchange

variable {run next : Run} {before after : List String}

/-- The slots that are held afterwards: that of the run, if it holds one, and those that it did
not hold before. -/
theorem mem_iff
    (exchange : Exchange run next before after)
    (member : run.phase.holdsSlot = true → run.session ∈ before)
    (session : String) :
    session ∈ after ↔
      run.session = session ∧ next.phase.holdsSlot = true ∨
        session ∈ before ∧ ¬(run.session = session ∧ run.phase.holdsSlot = true) := by
  cases exchange with
  | kept took holds =>
      rw [holds]
      constructor
      · intro held
        by_cases own : run.session = session ∧ run.phase.holdsSlot = true
        · exact .inl own
        · exact .inr ⟨held, own⟩
      · rintro (⟨rfl, own⟩ | ⟨held, -⟩)
        · exact member own
        · exact held
  | taken free unheld held =>
      rw [unheld.2, held.2, List.mem_cons, @eq_comm _ session]
      simp
  | freed took held unheld =>
      rw [held, unheld, List.mem_filter, @eq_comm _ run.session]
      simp

/-- A run holds a slot afterwards only if it held it before or nobody did. -/
theorem holds_or_free
    (exchange : Exchange run next before after)
    (holds : next.phase.holdsSlot = true) :
    run.phase.holdsSlot = true ∨ run.session ∉ before := by
  cases exchange with
  | kept took same => exact .inl (same ▸ holds)
  | taken free => exact .inr free
  | freed took held unheld => exact absurd (unheld.symm.trans holds) nofun

theorem nodup
    (exchange : Exchange run next before after)
    (nodup : before.Nodup) :
    after.Nodup := by
  cases exchange with
  | kept => exact nodup
  | taken free => exact List.nodup_cons.2 ⟨free, nodup⟩
  | freed => exact nodup.filter _

theorem tookSlot_of_holds
    (exchange : Exchange run next before after)
    (took : run.phase.holdsSlot = true → run.phase.tookSlot = true)
    (holds : next.phase.holdsSlot = true) :
    next.phase.tookSlot = true := by
  cases exchange with
  | kept sameTook sameHolds => exact sameTook ▸ took (sameHolds ▸ holds)
  | taken free unheld held => exact held.1
  | freed sameTook held unheld => exact absurd (unheld.symm.trans holds) nofun

/-- Whoever has had a slot has had it ever since. -/
theorem tookSlot
    (exchange : Exchange run next before after)
    (took : run.phase.tookSlot = true) :
    next.phase.tookSlot = true := by
  cases exchange with
  | kept same => exact same ▸ took
  | taken free unheld held => exact held.1
  | freed same => exact same ▸ took

theorem slotChanges_append
    (exchange : Exchange run next before after)
    (sameSession : next.session = run.session)
    (nodup : before.Nodup)
    (member : run.phase.holdsSlot = true → run.session ∈ before)
    (took : run.phase.holdsSlot = true → run.phase.tookSlot = true) :
    run.slotChanges ++ slotChanges before after = next.slotChanges := by
  unfold Run.slotChanges
  rw [sameSession]
  cases exchange with
  | kept sameTook sameHolds => rw [slotChanges_self, List.append_nil, sameTook, sameHolds]
  | taken free unheld held =>
      rw [slotChanges_cons free, unheld.1, held.1, held.2]
      rfl
  | freed sameTook held unheld =>
      rw [slotChanges_filter nodup (member held), sameTook, took held, held, unheld]
      rfl

end Exchange

end Bridge
end Terminal
end SessionHub
