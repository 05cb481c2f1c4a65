import SessionHub.Client.Attachment

/-!
# What actions do

While the screen takes everything, every action can be carried out. What an action does
to the connection and to the timers depends on nothing else: `connectionAfter` and
`timersAfter` say it, and `Outcome` says it of several actions in turn.
-/

namespace SessionHub
namespace Client

/-- A connection with something more to be sent. -/
def Connection.handed (connection : Connection) (outgoing : Outgoing) : Connection :=
  { connection with outgoing := connection.outgoing ++ [outgoing] }

/-- A timer that has been aborted. -/
def Timer.aborted (timer : Timer) : Timer :=
  { timer with isAborted := true }

/-- The connection after an action. -/
def connectionAfter (connection : Option Connection) : Action → Option Connection
  | .connect session generation => some { generation, session }
  | .closeConnection | .scheduleReconnect _ _ => none
  | .sendResize size => connection.map (·.handed (.resize size))
  | .sendInput data => connection.map (·.handed (.input data))
  | .disposeRenderer | .cancelTimer | .render _ | .notice _ => connection

/-- The timers after an action. -/
def timersAfter (timers : List Timer) : Action → List Timer
  | .cancelTimer => timers.map Timer.aborted
  | .scheduleReconnect generation delay =>
      timers.map Timer.aborted ++ [{ generation, delay }]
  | .connect _ _ | .closeConnection | .disposeRenderer | .sendResize _ | .sendInput _
  | .render _ | .notice _ => timers

namespace Sink

theorem write_of_unlimited
    {sink : Sink}
    (unlimited : sink.limit = none)
    (data : List UInt8) :
    sink.write data = (true, { sink with pending := sink.pending ++ data }) := by
  have room : sink.hasRoom data = true := by
    rw [hasRoom, unlimited, Bool.or_true]
  rw [write, if_pos room]

end Sink

namespace Attachment

/-- An attachment has come from another one by carrying out actions. -/
structure Outcome (attachment : Attachment) (actions : List Action) (next : Attachment) :
    Prop where
  controller : next.controller = attachment.controller
  connection : next.connection = actions.foldl connectionAfter attachment.connection
  timers : next.timers = actions.foldl timersAfter attachment.timers
  unlimited : next.screen.limit = none

theorem Outcome.refl
    {attachment : Attachment}
    (unlimited : attachment.screen.limit = none) :
    Outcome attachment [] attachment :=
  ⟨rfl, rfl, rfl, unlimited⟩

theorem Outcome.cons
    {attachment next last : Attachment}
    {action : Action}
    {rest : List Action}
    (first : Outcome attachment [action] next)
    (others : Outcome next rest last) :
    Outcome attachment (action :: rest) last where
  controller := others.controller.trans first.controller
  connection := by
    rw [others.connection, first.connection]
    rfl
  timers := by
    rw [others.timers, first.timers]
    rfl
  unlimited := others.unlimited

/-- What the renderer writes changes neither the connection nor the timers. -/
theorem exists_outcome_of_written
    {attachment : Attachment}
    {action : Action}
    (result : Bool × Renderer × Sink)
    (taken : result.1 = true)
    (unlimited : result.2.2.limit = none)
    (sameConnection : connectionAfter attachment.connection action = attachment.connection)
    (sameTimers : timersAfter attachment.timers action = attachment.timers) :
    ∃ next, attachment.written result = some next ∧ Outcome attachment [action] next := by
  refine ⟨_, if_pos taken, rfl, ?_, ?_, unlimited⟩
  · exact sameConnection.symm
  · exact sameTimers.symm

theorem exists_outcome_of_execute
    {attachment : Attachment}
    (unlimited : attachment.screen.limit = none)
    (action : Action) :
    ∃ next, attachment.execute action = some next ∧ Outcome attachment [action] next := by
  cases action with
  | connect | closeConnection | cancelTimer | scheduleReconnect | sendResize | sendInput =>
      exact ⟨_, rfl, rfl, rfl, rfl, unlimited⟩
  | disposeRenderer =>
      apply exists_outcome_of_written _ _ _ rfl rfl
      · unfold Renderer.dispose
        split
        · rw [Sink.write_of_unlimited unlimited]
        · rfl
      · unfold Renderer.dispose
        split
        · rw [Sink.write_of_unlimited unlimited]
          exact unlimited
        · exact unlimited
  | render data =>
      apply exists_outcome_of_written _ _ _ rfl rfl
      · rw [Renderer.render, Sink.write_of_unlimited unlimited]
      · rw [Renderer.render, Sink.write_of_unlimited unlimited]
        exact unlimited
  | notice text =>
      apply exists_outcome_of_written _ _ _ rfl rfl
      · rw [Renderer.notice, Sink.write_of_unlimited unlimited]
      · rw [Renderer.notice, Sink.write_of_unlimited unlimited]
        exact unlimited

theorem exists_outcome_of_executeAll
    {attachment : Attachment}
    (unlimited : attachment.screen.limit = none)
    (actions : List Action) :
    ∃ next, attachment.executeAll actions = some next ∧ Outcome attachment actions next := by
  induction actions generalizing attachment with
  | nil => exact ⟨attachment, rfl, .refl unlimited⟩
  | cons action rest inductionHypothesis =>
      obtain ⟨next, executed, first⟩ := exists_outcome_of_execute unlimited action
      obtain ⟨last, executedAll, others⟩ := inductionHypothesis first.unlimited
      refine ⟨last, ?_, first.cons others⟩
      rw [executeAll, executed, Option.bind_some, executedAll]

/-- The reaction of the controller to an event is carried out. -/
theorem exists_outcome_of_handle
    {attachment : Attachment}
    (unlimited : attachment.screen.limit = none)
    (event : Event) :
    ∃ next, attachment.handle event = some next ∧
      Outcome { attachment with controller := (attachment.controller.handle event).2 }
        (attachment.controller.handle event).1 next := by
  let reacted : Attachment :=
    { attachment with controller := (attachment.controller.handle event).2 }
  have stillUnlimited : reacted.screen.limit = none := unlimited
  exact exists_outcome_of_executeAll stillUnlimited (attachment.controller.handle event).1

end Attachment
end Client
end SessionHub
