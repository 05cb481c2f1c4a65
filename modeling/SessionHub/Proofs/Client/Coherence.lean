import SessionHub.Proofs.Client.Execution
import SessionHub.Proofs.Client.Reaction

/-!
# The controller and what it controls

The controller, the connection and the timers agree after every event: a connection is
there exactly while the controller is active, it is of the present generation and leads
to the session that was asked for last, and a timer of the present generation is there
exactly while the controller waits for it.
-/

namespace SessionHub
namespace Client

/-! ## The connection -/

/-- The generation of a connection and the session to which it leads. -/
def Connection.line (connection : Connection) : Nat × Option String :=
  (connection.generation, some connection.session)

namespace Controller

variable {controller next : Controller} {event : Event} {actions : List Action}

/-- The connection is what the controller takes it for. -/
structure Holds (controller : Controller) (connection : Option Connection) : Prop where
  detached_iff : controller.phase = .detached ↔ controller.session = none
  line_eq : connection.map Connection.line =
    if controller.isActive then some (controller.generation, controller.session) else none

namespace Holds

variable {connection : Option Connection}

theorem eq_none
    (holds : controller.Holds connection)
    (idle : controller.isActive = false) :
    connection = none := by
  have line := holds.line_eq
  rw [idle] at line
  simpa using line

theorem exists_session
    (holds : controller.Holds connection)
    (attached : controller.phase ≠ .detached) :
    ∃ session, controller.session = some session := by
  rw [Ne, holds.detached_iff] at attached
  exact Option.ne_none_iff_exists'.1 attached

/-- While the controller is active there is a connection to its session. -/
theorem exists_connection
    (holds : controller.Holds connection)
    (active : controller.isActive) :
    ∃ held, connection = some held ∧ held.generation = controller.generation ∧
      controller.session = some held.session := by
  have line := holds.line_eq
  rw [active, if_pos rfl, Option.map_eq_some_iff] at line
  obtain ⟨held, present, same⟩ := line
  rw [Connection.line, Prod.mk.injEq] at same
  exact ⟨held, present, same.1, same.2.symm⟩

/-- When a phase is released, its connection is gone. -/
theorem release_eq_none (holds : controller.Holds connection) :
    (release controller.phase).foldl connectionAfter connection = none := by
  cases phase : controller.phase with
  | attaching | connected => rfl
  | detached | reconnecting =>
      have idle : controller.isActive = false := by simp [isActive, phase]
      exact holds.eq_none idle

/-- Handing something to the connection leaves it what it was. -/
theorem handed
    (holds : controller.Holds connection)
    (outgoing : Outgoing) :
    controller.Holds (connection.map (·.handed outgoing)) where
  detached_iff := holds.detached_iff
  line_eq := by
    rw [← holds.line_eq, Option.map_map]
    rfl

/-- The connection belongs to the phase, the session and the generation. -/
theorem of_fields
    (holds : controller.Holds connection)
    (phase : next.phase = controller.phase)
    (session : next.session = controller.session)
    (generation : next.generation = controller.generation) :
    next.Holds connection where
  detached_iff := by rw [phase, session, holds.detached_iff]
  line_eq := by rw [holds.line_eq, isActive, isActive, phase, session, generation]

theorem detached : controller.detached.Holds none :=
  ⟨by simp, rfl⟩

theorem lost
    (holds : controller.Holds connection)
    (active : controller.isActive) :
    controller.lost.2.Holds none := by
  obtain ⟨session, present⟩ := holds.exists_session (controller.ne_detached active)
  exact ⟨by simp [present], rfl⟩

/-- What a reaction does to the connection is what the controller takes it for. -/
theorem react
    (holds : controller.Holds connection)
    (reaction : Reaction controller event actions next) :
    next.Holds (actions.foldl connectionAfter connection) := by
  cases reaction with
  | switchTo session =>
      rw [List.foldl_append]
      exact ⟨by simp, rfl⟩
  | detach =>
      rw [holds.release_eq_none]
      exact detached
  | opened attaching =>
      have line := holds.line_eq
      obtain ⟨session, present⟩ := holds.exists_session (by simp [attaching])
      rw [isActive, attaching] at line
      have opened : Holds
          { controller with phase := .connected, backoff := controller.backoff.reset }
          connection :=
        ⟨by simp [present], line⟩
      exact opened.handed (.resize controller.viewport)
  | closed active | connectFailed active => exact holds.lost active
  | rejected reason active =>
      rw [List.foldl_append, holds.release_eq_none]
      exact detached
  | timerFired reconnecting =>
      obtain ⟨session, present⟩ := holds.exists_session (by simp [reconnecting])
      rw [present]
      exact ⟨by simp [present], by rw [connecting_session, present]; rfl⟩
  | viewport size =>
      have same : Holds { controller with viewport := size } connection :=
        holds.of_fields rfl rfl rfl
      split
      · exact same.handed (.resize size)
      · exact same
  | input data =>
      split
      · exact holds.handed (.input data)
      · exact holds
  | output data connected => exact holds
  | ignored refused => exact holds

end Holds

/-! ## The timers -/

/-- The timers are what the controller takes them for: each is of a later generation
than those before it, none of them is ahead of the controller, and one of the present
generation is there, and will deliver its event, exactly while the controller waits. -/
structure Awaits (controller : Controller) (timers : List Timer) : Prop where
  increasing : timers.Pairwise (·.generation < ·.generation)
  generation_le : ∀ timer ∈ timers, timer.generation ≤ controller.generation
  due_iff : controller.phase = .reconnecting ↔
    ∃ timer ∈ timers, timer.generation = controller.generation
  running : ∀ timer ∈ timers, timer.generation = controller.generation →
    timer.isAborted = false

namespace Awaits

variable {timers : List Timer}

theorem generation_lt
    (awaits : controller.Awaits timers)
    (idle : controller.phase ≠ .reconnecting)
    {timer : Timer}
    (member : timer ∈ timers) :
    timer.generation < controller.generation := by
  apply Nat.lt_of_le_of_ne (awaits.generation_le timer member)
  intro present
  exact idle (awaits.due_iff.2 ⟨timer, member, present⟩)

/-- Timers that a new generation has left behind are not awaited any more. -/
theorem of_older
    (increasing : timers.Pairwise (·.generation < ·.generation))
    (older : ∀ timer ∈ timers, timer.generation < next.generation)
    (idle : next.phase ≠ .reconnecting) :
    next.Awaits timers where
  increasing := increasing
  generation_le timer member := Nat.le_of_lt (older timer member)
  due_iff := by
    constructor
    · intro waiting
      exact absurd waiting idle
    · rintro ⟨timer, member, present⟩
      exact absurd present (Nat.ne_of_lt (older timer member))
  running timer member present := absurd present (Nat.ne_of_lt (older timer member))

/-- The timers belong to the generation and to whether the controller waits. -/
theorem of_fields
    (awaits : controller.Awaits timers)
    (generation : next.generation = controller.generation)
    (waiting : next.phase = .reconnecting ↔ controller.phase = .reconnecting) :
    next.Awaits timers where
  increasing := awaits.increasing
  generation_le := by
    rw [generation]
    exact awaits.generation_le
  due_iff := by rw [waiting, generation, awaits.due_iff]
  running := by
    rw [generation]
    exact awaits.running

theorem increasing_aborted
    (increasing : timers.Pairwise (·.generation < ·.generation)) :
    (timers.map Timer.aborted).Pairwise (·.generation < ·.generation) :=
  List.pairwise_map.2 increasing

/-- A new generation leaves all timers behind, aborted or not. -/
theorem release
    (increasing : timers.Pairwise (·.generation < ·.generation))
    (generation_le : ∀ timer ∈ timers, timer.generation ≤ controller.generation)
    (grown : controller.generation < next.generation)
    (idle : next.phase ≠ .reconnecting) :
    next.Awaits ((release controller.phase).foldl timersAfter timers) := by
  have older : ∀ timer ∈ timers, timer.generation < next.generation := by
    intro timer member
    exact Nat.lt_of_le_of_lt (generation_le timer member) grown
  cases controller.phase with
  | detached | attaching | connected => exact of_older increasing older idle
  | reconnecting =>
      apply of_older (increasing_aborted increasing) _ idle
      intro timer member
      obtain ⟨origin, present, rfl⟩ := List.mem_map.1 member
      exact older origin present

/-- When the connection is lost, the new timer is the one that is awaited. -/
theorem lost
    (awaits : controller.Awaits timers)
    (idle : controller.phase ≠ .reconnecting)
    (delay : Nat) :
    controller.lost.2.Awaits
      (timers.map Timer.aborted ++ [{ generation := controller.generation, delay }]) where
  increasing := by
    rw [List.pairwise_append]
    refine ⟨increasing_aborted awaits.increasing, List.pairwise_singleton _ _, ?_⟩
    intro timer member added isAdded
    obtain ⟨origin, present, rfl⟩ := List.mem_map.1 member
    have older := awaits.generation_lt idle present
    rw [List.mem_singleton.1 isAdded]
    exact older
  generation_le := by
    intro timer member
    rcases List.mem_append.1 member with member | isAdded
    · obtain ⟨origin, present, rfl⟩ := List.mem_map.1 member
      exact awaits.generation_le origin present
    · rw [List.mem_singleton.1 isAdded]
      exact Nat.le_refl _
  due_iff := by
    constructor
    · intro _
      exact ⟨_, List.mem_append_right _ (List.mem_singleton.2 rfl), rfl⟩
    · intro _
      rfl
  running := by
    intro timer member same
    rcases List.mem_append.1 member with member | isAdded
    · obtain ⟨origin, present, rfl⟩ := List.mem_map.1 member
      have older := awaits.generation_lt idle present
      exact absurd same (Nat.ne_of_lt older)
    · rw [List.mem_singleton.1 isAdded]

/-- What a reaction does to the timers is what the controller takes them for. -/
theorem react
    (awaits : controller.Awaits timers)
    (reaction : Reaction controller event actions next)
    (notTimer : Attachment.isTimerEvent event = false) :
    next.Awaits (actions.foldl timersAfter timers) := by
  cases reaction with
  | switchTo session =>
      rw [List.foldl_append]
      exact release awaits.increasing awaits.generation_le (by simp) (by simp)
  | detach => exact release awaits.increasing awaits.generation_le (by simp) (by simp)
  | opened attaching => exact awaits.of_fields rfl (by simp [attaching])
  | closed active | connectFailed active =>
      exact awaits.lost (controller.ne_reconnecting active) controller.backoff.next.1
  | rejected reason active =>
      rw [List.foldl_append]
      exact release awaits.increasing awaits.generation_le (by simp) (by simp)
  | timerFired reconnecting => simp [Attachment.isTimerEvent] at notTimer
  | viewport size =>
      have same : Awaits { controller with viewport := size } timers :=
        awaits.of_fields rfl Iff.rfl
      split
      · exact same
      · exact same
  | input data =>
      split
      · exact awaits
      · exact awaits
  | output data connected => exact awaits
  | ignored refused => exact awaits

section Fire

variable {front back : List Timer} {timer : Timer}

theorem of_gone
    (awaits : controller.Awaits (front ++ timer :: back))
    (differs : timer.generation ≠ controller.generation) :
    controller.Awaits (front ++ back) := by
  have within : (front ++ back).Sublist (front ++ timer :: back) :=
    (List.sublist_cons_self timer back).append_left front
  refine ⟨awaits.increasing.sublist within, ?_, ?_, ?_⟩
  · intro other member
    exact awaits.generation_le other (within.subset member)
  · rw [awaits.due_iff]
    constructor
    · rintro ⟨other, member, present⟩
      have notGone : other ≠ timer := by
        rintro rfl
        exact differs present
      refine ⟨other, ?_, present⟩
      simpa [notGone] using member
    · rintro ⟨other, member, present⟩
      exact ⟨other, within.subset member, present⟩
  · intro other member
    exact awaits.running other (within.subset member)

/-- A timer delivers its event: the timers without it are what the controller takes them
for afterwards. -/
theorem fire
    (awaits : controller.Awaits (front ++ timer :: back))
    (reaction : Reaction controller (.timerFired timer.generation) actions next) :
    next.Awaits (actions.foldl timersAfter (front ++ back)) := by
  have within : (front ++ back).Sublist (front ++ timer :: back) :=
    (List.sublist_cons_self timer back).append_left front
  generalize fired : Event.timerFired timer.generation = event at reaction
  cases reaction with
  | timerFired reconnecting =>
      change controller.connecting.Awaits (front ++ back)
      apply of_older (awaits.increasing.sublist within)
      · intro other member
        exact Nat.lt_succ_of_le (awaits.generation_le other (within.subset member))
      · simp
  | ignored refused =>
      -- A timer whose event is refused cannot be the one that is awaited.
      apply awaits.of_gone
      intro present
      rw [← fired] at refused
      exact refused ⟨present, awaits.due_iff.2 ⟨timer, by simp, present⟩⟩
  | _ => simp at fired

end Fire
end Awaits
end Controller

end Client
end SessionHub
