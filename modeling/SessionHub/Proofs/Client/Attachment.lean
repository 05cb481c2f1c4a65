import SessionHub.Proofs.Client.Coherence

/-!
# The attachment follows the latest request

Whatever happens to an attachment, it stays coherent: what its controller takes the
connection and the timers for is what they are, and the session to which the connection
leads is the one that was asked for last. So nothing that is typed goes elsewhere.
-/

namespace SessionHub
namespace Client

/-- The session that an event asks for. -/
def Event.target? : Event → Option String
  | .switchTo session => some session
  | _ => none

namespace Attachment

/-- The session that a move asks for. -/
def Move.target? : Move → Option String
  | .event happened => happened.target?
  | .fire _ | .lapse _ => none

/-- The session that was asked for last. -/
def latestTarget (moves : List Move) : Option String :=
  (moves.filterMap Move.target?).getLast?

/-- The event that a move delivers to the controller, if it delivers one. -/
def delivered? (attachment : Attachment) : Move → Option Event
  | .event happened => if isTimerEvent happened then none else some happened
  | .fire index => attachment.timers[index]?.map (.timerFired ·.generation)
  | .lapse _ => none

/-- The actions that a move leads to. -/
def emitted (attachment : Attachment) (move : Move) : List Action :=
  (attachment.delivered? move).elim [] fun event => (attachment.controller.handle event).1

/-- The controller after a move. -/
def controllerAfter (attachment : Attachment) (move : Move) : Controller :=
  (attachment.delivered? move).elim attachment.controller fun event =>
    (attachment.controller.handle event).2

/-- Whether an action hands something to the connection. -/
def isHandover : Action → Bool
  | .sendInput _ | .sendResize _ => true
  | _ => false

/-- A move changes the controller and carries out the actions, and takes away at most a
timer. -/
theorem exists_step_eq
    (attachment : Attachment)
    (move : Move) :
    ∃ timers, timers.Sublist attachment.timers ∧
      attachment.step move =
        { attachment with timers, controller := attachment.controllerAfter move }.executeAll
          (attachment.emitted move) := by
  cases move with
  | event happened =>
      refine ⟨attachment.timers, List.Sublist.refl _, ?_⟩
      rw [step, controllerAfter, emitted, delivered?]
      split
      · rfl
      · rfl
  | fire index =>
      rw [step, fire, controllerAfter, emitted, delivered?]
      cases attachment.timers[index]? with
      | none => exact ⟨attachment.timers, List.Sublist.refl _, rfl⟩
      | some timer => exact ⟨attachment.timers.eraseIdx index, List.eraseIdx_sublist .., rfl⟩
  | lapse index =>
      rw [step, lapse]
      cases attachment.timers[index]? with
      | none => exact ⟨attachment.timers, List.Sublist.refl _, rfl⟩
      | some timer =>
          cases aborted : timer.isAborted with
          | true =>
              refine ⟨attachment.timers.eraseIdx index, List.eraseIdx_sublist .., ?_⟩
              simp only [aborted, if_true]
              rfl
          | false =>
              refine ⟨attachment.timers, List.Sublist.refl _, ?_⟩
              simp only [aborted, Bool.false_eq_true, if_false]
              rfl

theorem latestTarget_cons
    (move : Move)
    (moves : List Move) :
    latestTarget (move :: moves) = (latestTarget moves).or move.target? := by
  rw [latestTarget, latestTarget, List.filterMap_cons]
  cases move.target? with
  | none => exact (Option.or_none).symm
  | some session => rw [List.getLast?_cons, Option.or_some]

theorem latestTarget_append
    (moves : List Move)
    (move : Move) :
    latestTarget (moves ++ [move]) = move.target?.or (latestTarget moves) := by
  rw [latestTarget, List.filterMap_append, List.getLast?_append, latestTarget]
  congr 1
  rw [List.filterMap_cons]
  cases move.target? with
  | none => rfl
  | some session => rfl

/-- The controller and what it controls agree with each other, and with the session
`latest` that was asked for last. -/
structure IsCoherent (latest : Option String) (attachment : Attachment) : Prop where
  holds : attachment.controller.Holds attachment.connection
  awaits : attachment.controller.Awaits attachment.timers
  latest_eq : ∀ session ∈ attachment.controller.session, latest = some session
  unlimited : attachment.screen.limit = none

theorem isCoherent_start
    (backoff : Backoff)
    (viewport : Terminal.WindowSize) :
    IsCoherent none (start backoff viewport) where
  holds := ⟨by simp [start, Controller.start], rfl⟩
  awaits := {
    increasing := List.Pairwise.nil
    generation_le := by simp [start]
    due_iff := by simp [start, Controller.start]
    running := by simp [start] }
  latest_eq := by simp [start, Controller.start]
  unlimited := rfl

section Step

variable {latest : Option String} {attachment next : Attachment}

/-- After a reaction, the session is the one that was asked for last. -/
theorem latest_eq_of_reaction
    {controller successor : Controller}
    {event : Event}
    {actions : List Action}
    (latest_eq : ∀ session ∈ controller.session, latest = some session)
    (reaction : Controller.Reaction controller event actions successor) :
    ∀ session ∈ successor.session, event.target?.or latest = some session := by
  cases reaction with
  | switchTo target => simp [Event.target?]
  | detach | rejected => simp
  | opened | closed | connectFailed | timerFired | viewport | input | output =>
      exact latest_eq
  | ignored refused =>
      cases event with
      | switchTo target => exact absurd trivial refused
      | _ => exact latest_eq

/-- The timers are those before a timer, the timer itself and those after it. -/
theorem exists_parts
    {timers : List Timer}
    {index : Nat}
    {timer : Timer}
    (found : timers[index]? = some timer) :
    ∃ front back, timers = front ++ timer :: back ∧ timers.eraseIdx index = front ++ back := by
  obtain ⟨bound, rfl⟩ := List.getElem?_eq_some_iff.1 found
  refine ⟨timers.take index, timers.drop (index + 1), ?_, List.eraseIdx_eq_take_drop_succ ..⟩
  rw [List.getElem_cons_drop, List.take_append_drop]

/-- The reaction to an event can be carried out and keeps the attachment coherent, as
long as the timers that it leaves are those the controller takes them for. -/
theorem exists_handle
    (attachment : Attachment)
    {event : Event}
    (holds : attachment.controller.Holds attachment.connection)
    (latest_eq : ∀ session ∈ attachment.controller.session, latest = some session)
    (unlimited : attachment.screen.limit = none)
    (awaits : ∀ {actions successor},
      Controller.Reaction attachment.controller event actions successor →
        successor.Awaits (actions.foldl timersAfter attachment.timers)) :
    ∃ next, attachment.handle event = some next ∧
      IsCoherent (event.target?.or latest) next := by
  obtain ⟨next, handled, outcome⟩ := exists_outcome_of_handle unlimited event
  have reaction := attachment.controller.handle_reaction event
  refine ⟨next, handled, ?_, ?_, ?_, outcome.unlimited⟩
  · rw [outcome.controller, outcome.connection]
    exact holds.react reaction
  · rw [outcome.controller, outcome.timers]
    exact awaits reaction
  · rw [outcome.controller]
    exact latest_eq_of_reaction latest_eq reaction

namespace IsCoherent

theorem exists_event
    (coherent : IsCoherent latest attachment)
    (event : Event) :
    ∃ next, attachment.step (.event event) = some next ∧
      IsCoherent (event.target?.or latest) next := by
  cases fromTimer : isTimerEvent event with
  | true =>
      have noTarget : event.target? = none := by
        cases event with
        | timerFired => rfl
        | _ => cases fromTimer
      refine ⟨attachment, by rw [step, if_pos fromTimer], ?_⟩
      rw [noTarget]
      exact coherent
  | false =>
      rw [step, fromTimer, if_neg Bool.false_ne_true]
      apply exists_handle attachment coherent.holds coherent.latest_eq coherent.unlimited
      intro actions successor reaction
      exact coherent.awaits.react reaction fromTimer

theorem exists_fire
    (coherent : IsCoherent latest attachment)
    (index : Nat) :
    ∃ next, attachment.fire index = some next ∧ IsCoherent latest next := by
  cases found : attachment.timers[index]? with
  | none => exact ⟨attachment, by rw [fire, found], coherent⟩
  | some timer =>
      obtain ⟨front, back, parts, erased⟩ := exists_parts found
      have awaits := coherent.awaits
      rw [parts] at awaits
      rw [fire, found, erased]
      exact exists_handle { attachment with timers := front ++ back } coherent.holds
        coherent.latest_eq coherent.unlimited awaits.fire

theorem lapse
    (coherent : IsCoherent latest attachment)
    (index : Nat) :
    IsCoherent latest (attachment.lapse index) := by
  unfold Attachment.lapse
  split
  · exact coherent
  · next timer found =>
    split
    · next aborted =>
      obtain ⟨front, back, parts, erased⟩ := exists_parts found
      have awaits := coherent.awaits
      rw [parts] at awaits
      refine ⟨coherent.holds, ?_, coherent.latest_eq, coherent.unlimited⟩
      rw [erased]
      -- Only aborted timers go away, and the one that is awaited is not aborted.
      apply awaits.of_gone
      intro present
      have member : timer ∈ attachment.timers := List.mem_of_getElem? found
      rw [coherent.awaits.running timer member present] at aborted
      exact Bool.false_ne_true aborted
    · exact coherent

/-- A move is possible and keeps the attachment coherent. -/
theorem exists_step
    (coherent : IsCoherent latest attachment)
    (move : Move) :
    ∃ next, attachment.step move = some next ∧
      IsCoherent (move.target?.or latest) next := by
  cases move with
  | event happened => exact coherent.exists_event happened
  | fire index => exact coherent.exists_fire index
  | lapse index => exact ⟨attachment.lapse index, rfl, coherent.lapse index⟩

/-- Every run is possible and keeps the attachment coherent. -/
theorem exists_run
    (coherent : IsCoherent latest attachment)
    (moves : List Move) :
    ∃ last, attachment.run moves = some last ∧
      IsCoherent ((latestTarget moves).or latest) last := by
  induction moves generalizing latest attachment with
  | nil => exact ⟨attachment, rfl, coherent⟩
  | cons move rest inductionHypothesis =>
      obtain ⟨next, stepped, coherentNext⟩ := coherent.exists_step move
      obtain ⟨last, reached, coherentLast⟩ := inductionHypothesis coherentNext
      refine ⟨last, by rw [run, stepped, Option.bind_some, reached], ?_⟩
      rw [latestTarget_cons, Option.or_assoc]
      exact coherentLast

end IsCoherent
end Step

/-! ## What follows from coherence -/

/-- What can be seen of a coherent attachment. -/
structure FollowsLatest (latest : Option String) (attachment : Attachment) : Prop where
  detached_iff :
    attachment.controller.phase = .detached ↔ attachment.controller.session = none
  session_eq : ∀ session ∈ attachment.controller.session, latest = some session
  /-- There is no connection while the controller is detached or waits. -/
  empty : attachment.controller.phase = .detached ∨ attachment.controller.phase = .reconnecting →
    attachment.connection = none
  /-- Else there is one, of the present generation and to the session asked for last. -/
  held : attachment.controller.phase = .attaching ∨ attachment.controller.phase = .connected →
    ∃ connection, attachment.connection = some connection ∧
      connection.generation = attachment.controller.generation ∧
      attachment.controller.session = some connection.session ∧
      latest = some connection.session
  /-- A timer of the present generation is there, and is not aborted, while the controller
  waits. -/
  due_iff : attachment.controller.phase = .reconnecting ↔
    ∃ timer ∈ attachment.timers, timer.generation = attachment.controller.generation
  running : ∀ timer ∈ attachment.timers,
    timer.generation = attachment.controller.generation → timer.isAborted = false
  /-- There is only one timer of a generation, and the last one is the latest. -/
  increasing : attachment.timers.Pairwise (·.generation < ·.generation)
  generation_le : ∀ timer ∈ attachment.timers,
    timer.generation ≤ attachment.controller.generation

/-- What the actions of a move act upon: a connection is opened only to the session
`target` that was asked for last, the move included, and something is handed only to a
connection to that session. -/
structure ActsOnLatest (target : Option String) (attachment : Attachment) (move : Move) :
    Prop where
  carriesOut : ∃ timers, timers.Sublist attachment.timers ∧
    attachment.step move =
      { attachment with timers, controller := attachment.controllerAfter move }.executeAll
        (attachment.emitted move)
  connects : ∀ session generation,
    .connect session generation ∈ attachment.emitted move →
      target = some session ∧ generation = (attachment.controllerAfter move).generation
  hands : ∀ action ∈ attachment.emitted move, isHandover action →
    ∃ connection, attachment.connection = some connection ∧ target = some connection.session

variable {latest : Option String} {attachment : Attachment}

/-- Only an active controller has something handed to the connection, and not because a
session is asked for. -/
theorem isActive_of_handover
    {controller next : Controller}
    {event : Event}
    {actions : List Action}
    {action : Action}
    (reaction : Controller.Reaction controller event actions next)
    (member : action ∈ actions)
    (handover : isHandover action) :
    controller.isActive ∧ event.target? = none := by
  have notReleased : action ∉ Controller.release controller.phase := by
    intro released
    rcases Controller.eq_of_mem_release released with rfl | rfl | rfl <;> cases handover
  cases reaction with
  | switchTo session =>
      rcases List.mem_append.1 member with released | connected
      · exact absurd released notReleased
      · rw [List.mem_singleton.1 connected] at handover
        cases handover
  | detach => exact absurd member notReleased
  | opened attaching => exact ⟨controller.isActive_iff.2 (.inl attaching), rfl⟩
  | closed active | connectFailed active | rejected _ active => exact ⟨active, rfl⟩
  | timerFired reconnecting =>
      rw [List.mem_singleton.1 member] at handover
      cases handover
  | viewport | input =>
      obtain ⟨connected, _⟩ := List.mem_ite_nil_right.1 member
      exact ⟨controller.isActive_iff.2 (.inr connected), rfl⟩
  | output data connected => exact ⟨controller.isActive_iff.2 (.inr connected), rfl⟩
  | ignored refused => cases member

/-- A connection is opened to the session of the new state, for its generation. -/
theorem connect_eq
    {controller next : Controller}
    {connection : Option Connection}
    {event : Event}
    {actions : List Action}
    {session : String}
    {generation : Nat}
    (holds : controller.Holds connection)
    (reaction : Controller.Reaction controller event actions next)
    (member : .connect session generation ∈ actions) :
    next.session = some session ∧ generation = next.generation := by
  have notReleased : .connect session generation ∉ Controller.release controller.phase := by
    intro released
    rcases Controller.eq_of_mem_release released with same | same | same <;> cases same
  cases reaction with
  | switchTo target =>
      rcases List.mem_append.1 member with released | connected
      · exact absurd released notReleased
      · rw [List.mem_singleton, Action.connect.injEq] at connected
        obtain ⟨rfl, rfl⟩ := connected
        exact ⟨rfl, rfl⟩
  | detach => exact absurd member notReleased
  | closed active | connectFailed active =>
      simp [Controller.lost] at member
  | opened attaching | output data connected =>
      simp at member
  | rejected reason active =>
      simp [notReleased] at member
  | timerFired reconnecting =>
      obtain ⟨target, present⟩ := holds.exists_session (by simp [reconnecting])
      rw [List.mem_singleton, Action.connect.injEq, present] at member
      obtain ⟨rfl, rfl⟩ := member
      exact ⟨present, rfl⟩
  | viewport size | input data =>
      split at member
      · simp at member
      · cases member
  | ignored refused => cases member

theorem target?_of_delivered
    {move : Move}
    {event : Event}
    (delivered : attachment.delivered? move = some event) :
    move.target? = event.target? := by
  cases move with
  | event happened =>
      rw [delivered?] at delivered
      split at delivered
      · cases delivered
      · cases delivered
        rfl
  | fire index =>
      obtain ⟨timer, found, rfl⟩ := Option.map_eq_some_iff.1 delivered
      rfl
  | lapse index => cases delivered

theorem exists_delivered
    {move : Move}
    {action : Action}
    (member : action ∈ attachment.emitted move) :
    ∃ event, attachment.delivered? move = some event ∧
      action ∈ (attachment.controller.handle event).1 ∧
      attachment.controllerAfter move = (attachment.controller.handle event).2 := by
  rw [emitted] at member
  rw [controllerAfter]
  cases delivered : attachment.delivered? move with
  | none =>
      rw [delivered] at member
      cases member
  | some event =>
      rw [delivered] at member
      exact ⟨event, rfl, member, rfl⟩

namespace IsCoherent

theorem followsLatest (coherent : IsCoherent latest attachment) :
    FollowsLatest latest attachment where
  detached_iff := coherent.holds.detached_iff
  session_eq := coherent.latest_eq
  empty := by
    intro phase
    apply coherent.holds.eq_none
    rcases phase with phase | phase <;> rw [Controller.isActive, phase] <;> rfl
  held := by
    intro phase
    have active := attachment.controller.isActive_iff.2 phase
    obtain ⟨connection, present, generation, session⟩ :=
      coherent.holds.exists_connection active
    exact ⟨connection, present, generation, session, coherent.latest_eq _ session⟩
  due_iff := coherent.awaits.due_iff
  running := coherent.awaits.running
  increasing := coherent.awaits.increasing
  generation_le := coherent.awaits.generation_le

theorem actsOnLatest
    (coherent : IsCoherent latest attachment)
    (move : Move) :
    ActsOnLatest (move.target?.or latest) attachment move where
  carriesOut := attachment.exists_step_eq move
  connects := by
    intro session generation member
    obtain ⟨event, delivered, handled, after⟩ := exists_delivered member
    have reaction := attachment.controller.handle_reaction event
    obtain ⟨target, stamp⟩ := connect_eq coherent.holds reaction handled
    rw [target?_of_delivered delivered, after]
    exact ⟨latest_eq_of_reaction coherent.latest_eq reaction session target, stamp⟩
  hands := by
    intro action member handover
    obtain ⟨event, delivered, handled, _⟩ := exists_delivered member
    have reaction := attachment.controller.handle_reaction event
    obtain ⟨active, noTarget⟩ := isActive_of_handover reaction handled handover
    obtain ⟨connection, present, _, session⟩ := coherent.holds.exists_connection active
    rw [target?_of_delivered delivered, noTarget]
    exact ⟨connection, present, coherent.latest_eq _ session⟩

end IsCoherent

/-- Whatever happens, the attachment follows what was asked for last, and so does
whatever happens next. -/
theorem run_follows_latest
    (backoff : Backoff)
    (viewport : Terminal.WindowSize)
    (moves : List Move) :
    ∃ attachment, (start backoff viewport).run moves = some attachment ∧
      FollowsLatest (latestTarget moves) attachment ∧
      ∀ move, ActsOnLatest (latestTarget (moves ++ [move])) attachment move := by
  obtain ⟨attachment, reached, coherent⟩ :=
    (isCoherent_start backoff viewport).exists_run moves
  rw [Option.or_none] at coherent
  refine ⟨attachment, reached, coherent.followsLatest, ?_⟩
  intro move
  rw [latestTarget_append]
  exact coherent.actsOnLatest move

end Attachment
end Client
end SessionHub
