import Mathlib.Data.List.Induction
import SessionHub.Proofs.Client.Generation

/-!
# Window sizes

The controller remembers the latest size of the local window through whatever happens to the
connection. It tells this size when a connection is open, and then each new size, and it tells
none at any other time.
-/

namespace SessionHub
namespace Client

open Terminal (WindowSize)

/-- The size that an event tells of the local window. -/
def Event.viewport? : Event → Option WindowSize
  | .viewport size => some size
  | _ => none

/-- The size that an action sends. -/
def Action.resize? : Action → Option WindowSize
  | .sendResize size => some size
  | _ => none

/-- The sizes that events tell, in order. -/
def viewports (events : List Event) : List WindowSize :=
  events.filterMap Event.viewport?

/-- The sizes that actions send, in order. -/
def resizes (actions : List Action) : List WindowSize :=
  actions.filterMap Action.resize?

/-- The size of a window that had another one before some events. -/
def latestSize (initial : WindowSize) (events : List Event) : WindowSize :=
  (viewports events).getLastD initial

@[simp] theorem resizes_nil : resizes [] = [] := rfl

@[simp] theorem resizes_append (first second : List Action) :
    resizes (first ++ second) = resizes first ++ resizes second :=
  List.filterMap_append

@[simp] theorem resizes_release (phase : Phase) : resizes (Controller.release phase) = [] := by
  cases phase <;> rfl

theorem viewports_append (first second : List Event) :
    viewports (first ++ second) = viewports first ++ viewports second :=
  List.filterMap_append

theorem viewports_singleton (event : Event) : viewports [event] = event.viewport?.toList := by
  cases event <;> rfl

theorem latestSize_append
    (initial : WindowSize)
    (first second : List Event) :
    latestSize initial (first ++ second) = latestSize (latestSize initial first) second := by
  simp only [latestSize, viewports_append, List.getLastD_eq_getLast?, List.getLast?_append,
    Option.getD_or]

theorem latestSize_concat
    (initial : WindowSize)
    (events : List Event)
    (last : Event) :
    latestSize initial (events ++ [last]) = last.viewport?.getD (latestSize initial events) := by
  rw [latestSize_append, latestSize, viewports_singleton]
  cases last.viewport? <;> rfl

namespace Controller

/-! ## Steps -/

namespace Reaction

variable {controller next : Controller} {event : Event} {actions : List Action}

/-- A reaction keeps the size, unless the event tells another one. -/
theorem viewport_eq (reaction : Reaction controller event actions next) :
    next.viewport = event.viewport?.getD controller.viewport := by
  cases reaction with
  | ignored refused =>
      cases event with
      | viewport size => exact absurd trivial refused
      | _ => rfl
  | _ => rfl

/-- What a reaction sends: nothing without a connection that is open, the size at hand when one
has been opened, and then each size that the window gets. -/
theorem resizes_eq (reaction : Reaction controller event actions next) :
    resizes actions =
      if next.phase = .connected then
        if controller.phase = .connected then event.viewport?.toList else [controller.viewport]
      else [] := by
  cases reaction with
  | switchTo session =>
      rw [resizes_append, resizes_release, if_neg (by simp)]
      rfl
  | detach => rw [resizes_release, if_neg (by simp)]
  | opened attaching =>
      rw [if_pos rfl, if_neg (by simp [attaching])]
      rfl
  | closed active | connectFailed active =>
      rw [if_neg (by simp)]
      rfl
  | rejected reason active =>
      rw [resizes_append, resizes_release, if_neg (by simp)]
      rfl
  | timerFired reconnecting =>
      rw [if_neg (by simp)]
      rfl
  | viewport size | input data => split <;> rfl
  | output data connected =>
      rw [if_pos connected, if_pos connected]
      rfl
  | ignored refused =>
      cases event with
      | viewport size => exact absurd trivial refused
      | _ => split <;> rfl

/-- Only an event that opens a connection leads to the phase in which one is open. -/
theorem opened_of_connected
    (reaction : Reaction controller event actions next)
    (connected : next.phase = .connected) :
    controller.phase = .connected ∨
      ∃ generation, event = .opened generation ∧ controller.Accepts event := by
  cases reaction with
  | opened attaching => exact .inr ⟨_, rfl, rfl, attaching⟩
  | switchTo | detach | closed | connectFailed | rejected | timerFired => simp at connected
  | viewport | input | output | ignored => exact .inl connected

end Reaction

/-! ## Runs -/

section Run

variable {controller : Controller}

theorem viewport_after (controller : Controller) (events : List Event) :
    (controller.after events).viewport = latestSize controller.viewport events := by
  induction events using List.reverseRecOn with
  | nil => rfl
  | append_singleton events event inductionHypothesis =>
      rw [after_concat, ((controller.after events).handle_reaction event).viewport_eq,
        inductionHypothesis, latestSize_concat]

/-- A period in which a connection is open: it begins with an event that opens one, and lasts
through other events. -/
structure IsPeriod
    (controller : Controller)
    (earlier : List Event)
    (generation : Nat)
    (period : List Event) : Prop where
  opens : (controller.after earlier).Accepts (.opened generation)
  lasts : ∀ front, front <+: period →
    (controller.after (earlier ++ .opened generation :: front)).phase = .connected

/-- A connection that is open has been opened, and has been open since. -/
theorem exists_isPeriod
    {events : List Event}
    (apart : controller.phase ≠ .connected)
    (connected : (controller.after events).phase = .connected) :
    ∃ earlier generation period, events = earlier ++ .opened generation :: period ∧
      controller.IsPeriod earlier generation period := by
  induction events using List.reverseRecOn with
  | nil => exact absurd connected apart
  | append_singleton events event inductionHypothesis =>
      rw [after_concat] at connected
      rcases ((controller.after events).handle_reaction event).opened_of_connected connected with
        before | ⟨generation, rfl, opens⟩
      · obtain ⟨earlier, generation, period, rfl, isPeriod⟩ := inductionHypothesis before
        refine ⟨earlier, generation, period ++ [event], by simp, isPeriod.opens, ?_⟩
        intro front isFront
        rcases List.prefix_concat_iff.1 isFront with rfl | isFront
        · rw [← List.cons_append, ← List.append_assoc, after_concat]
          exact connected
        · exact isPeriod.lasts front isFront
      · refine ⟨events, generation, [], rfl, opens, fun front isFront => ?_⟩
        rw [List.prefix_nil.1 isFront, after_concat]
        exact connected

/-- In a period the size at its beginning is sent, and then each size that the window gets. -/
theorem IsPeriod.resizes_eq
    {earlier period : List Event}
    {generation : Nat}
    (isPeriod : controller.IsPeriod earlier generation period) :
    resizes ((controller.after earlier).actionsOf (.opened generation :: period)) =
      latestSize controller.viewport earlier :: viewports period := by
  induction period using List.reverseRecOn with
  | nil =>
      have connected := isPeriod.lasts [] (List.prefix_refl [])
      rw [after_concat] at connected
      have apart : (controller.after earlier).phase ≠ .connected := by
        rw [isPeriod.opens.2]
        exact nofun
      rw [actionsOf_cons, actionsOf_nil, List.append_nil,
        ((controller.after earlier).handle_reaction _).resizes_eq, if_pos connected, if_neg apart,
        viewport_after]
      rfl
  | append_singleton period event inductionHypothesis =>
      have before := isPeriod.lasts period (List.prefix_append _ _)
      have connected := isPeriod.lasts (period ++ [event]) (List.prefix_refl _)
      rw [← List.cons_append, ← List.append_assoc, after_concat] at connected
      rw [← List.cons_append, actionsOf_concat, resizes_append, ← after_append,
        inductionHypothesis ⟨isPeriod.opens, fun front isFront =>
          isPeriod.lasts front (isFront.trans (List.prefix_append _ _))⟩,
        (Controller.handle_reaction _ event).resizes_eq, if_pos connected, if_pos before,
        viewports_append, viewports_singleton, List.cons_append]

/-- The last size that is sent in a period is the latest of the whole run. -/
theorem IsPeriod.getLast?_resizes
    {earlier period : List Event}
    {generation : Nat}
    (isPeriod : controller.IsPeriod earlier generation period) :
    (resizes ((controller.after earlier).actionsOf (.opened generation :: period))).getLast? =
      some (latestSize controller.viewport (earlier ++ .opened generation :: period)) := by
  rw [isPeriod.resizes_eq, List.getLast?_cons, ← List.getLastD_eq_getLast?, latestSize_append]
  rfl

end Run

/-! ## The law of sizes -/

/-- A connection that is open knows the latest size of the window. While one is open, the size
at its beginning is sent and then each size that the window gets, and otherwise none. -/
theorem connections_know_latest_size
    (backoff : Backoff)
    (initial : WindowSize)
    (events : List Event) :
    let controller := start backoff initial
    let last := controller.after events
    (last.phase = .connected →
      ∃ earlier generation period, events = earlier ++ .opened generation :: period ∧
        controller.IsPeriod earlier generation period) ∧
    (∀ earlier generation period, events = earlier ++ .opened generation :: period →
      controller.IsPeriod earlier generation period →
        let sent := resizes ((controller.after earlier).actionsOf (.opened generation :: period))
        sent = latestSize initial earlier :: viewports period ∧
          sent.getLast? = some (latestSize initial events)) ∧
    ∀ event size, .sendResize size ∈ (last.handle event).1 →
      (last.handle event).2.phase = .connected := by
  intro controller last
  have apart : controller.phase ≠ .connected := nofun
  refine ⟨exists_isPeriod apart, ?_, fun event size isSent => ?_⟩
  · rintro earlier generation period rfl isPeriod
    exact ⟨isPeriod.resizes_eq, isPeriod.getLast?_resizes⟩
  · have sizes := (last.handle_reaction event).resizes_eq
    have isAmong : size ∈ resizes (last.handle event).1 :=
      List.mem_filterMap.2 ⟨_, isSent, rfl⟩
    by_contra elsewhere
    rw [sizes, if_neg elsewhere] at isAmong
    cases isAmong

/-- A size that the window gets while there is no connection is sent to the next one. -/
example :
    resizes ((start (.ofBounds 500 3000) ⟨80, 24⟩).actionsOf
      [.switchTo "chat-a", .opened 2, .viewport ⟨100, 40⟩, .closed 2, .viewport ⟨60, 20⟩,
        .timerFired 2, .opened 3]) =
      [⟨80, 24⟩, ⟨100, 40⟩, ⟨60, 20⟩] := by
  decide

end Controller
end Client
end SessionHub
