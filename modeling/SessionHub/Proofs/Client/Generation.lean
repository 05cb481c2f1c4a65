import SessionHub.Proofs.Client.Reaction

/-!
# Generations

The generation of a controller never goes back, and it grows by whatever ends an
attachment or begins a connection. An event that reports from an older generation is
stale: it finds no action and changes nothing, so a run is the same with and without its
stale events. Without an attachment only a request for a session leads to an action.
-/

namespace SessionHub
namespace Client

/-- The generation of the connection that an action opens. -/
def Action.connectGeneration? : Action → Option Nat
  | .connect _ generation => some generation
  | _ => none

/-- The generations of the connections that actions open, in order. -/
def connectGenerations (actions : List Action) : List Nat :=
  actions.filterMap Action.connectGeneration?

@[simp] theorem connectGenerations_nil : connectGenerations [] = [] := rfl

@[simp] theorem connectGenerations_append (first second : List Action) :
    connectGenerations (first ++ second) =
      connectGenerations first ++ connectGenerations second := by
  simp [connectGenerations]

@[simp] theorem connectGenerations_release (phase : Phase) :
    connectGenerations (Controller.release phase) = [] := by
  cases phase <;> rfl

namespace Controller

/-! ## Runs -/

/-- The actions of a run, in order. -/
def actionsOf (controller : Controller) (events : List Event) : List Action :=
  (controller.handleAll events).1.flatten

/-- The controller after a run. -/
def after (controller : Controller) (events : List Event) : Controller :=
  (controller.handleAll events).2

section Run

variable (controller : Controller) (event : Event) (rest first second : List Event)

@[simp] theorem after_nil : controller.after [] = controller := rfl

@[simp] theorem after_cons :
    controller.after (event :: rest) = (controller.handle event).2.after rest := rfl

@[simp] theorem after_append :
    controller.after (first ++ second) = (controller.after first).after second := by
  induction first generalizing controller with
  | nil => rfl
  | cons event rest inductionHypothesis =>
      rw [List.cons_append, after_cons, after_cons, inductionHypothesis]

@[simp] theorem actionsOf_nil : controller.actionsOf [] = [] := rfl

@[simp] theorem actionsOf_cons :
    controller.actionsOf (event :: rest) =
      (controller.handle event).1 ++ (controller.handle event).2.actionsOf rest := rfl

@[simp] theorem actionsOf_append :
    controller.actionsOf (first ++ second) =
      controller.actionsOf first ++ (controller.after first).actionsOf second := by
  induction first generalizing controller with
  | nil => rfl
  | cons event rest inductionHypothesis =>
      rw [List.cons_append, actionsOf_cons, actionsOf_cons, inductionHypothesis, after_cons,
        List.append_assoc]

theorem after_concat :
    controller.after (first ++ [event]) = ((controller.after first).handle event).2 :=
  controller.after_append first [event]

theorem actionsOf_concat :
    controller.actionsOf (first ++ [event]) =
      controller.actionsOf first ++ ((controller.after first).handle event).1 := by
  rw [actionsOf_append, actionsOf_cons, actionsOf_nil, List.append_nil]

end Run

/-! ## Growth -/

namespace Reaction

variable {controller next : Controller} {event : Event} {actions : List Action}

theorem generation_le (reaction : Reaction controller event actions next) :
    controller.generation ≤ next.generation := by
  cases reaction <;> simp

theorem generation_le_add_two (reaction : Reaction controller event actions next) :
    next.generation ≤ controller.generation + 2 := by
  cases reaction <;> simp

/-- The generation grows exactly by accepted events that can lead to a new one. -/
theorem generation_lt_iff (reaction : Reaction controller event actions next) :
    controller.generation < next.generation ↔
      controller.Accepts event ∧ event.entersGeneration := by
  cases reaction with
  | switchTo session => simp [Accepts, Event.entersGeneration]
  | detach => simp [Accepts, Event.entersGeneration]
  | opened attaching => simp [Event.entersGeneration]
  | closed active => simp [Event.entersGeneration]
  | connectFailed active => simp [Event.entersGeneration]
  | rejected reason active => simp [Accepts, Event.entersGeneration, active]
  | timerFired reconnecting => simp [Accepts, Event.entersGeneration, reconnecting]
  | viewport size => simp [Event.entersGeneration]
  | input data => simp [Event.entersGeneration]
  | output data connected => simp [Event.entersGeneration]
  | ignored refused => simp [refused]

/-- A connection is opened for the generation that is entered with it. -/
theorem connectGenerations_eq (reaction : Reaction controller event actions next) :
    connectGenerations actions = [] ∨
      connectGenerations actions = [next.generation] ∧
        controller.generation < next.generation := by
  cases reaction with
  | switchTo session =>
      right
      rw [connectGenerations_append, connectGenerations_release]
      exact ⟨rfl, by simp⟩
  | detach => exact .inl (connectGenerations_release _)
  | rejected reason active =>
      left
      rw [connectGenerations_append, connectGenerations_release]
      rfl
  | timerFired reconnecting => exact .inr ⟨rfl, by simp⟩
  | viewport size =>
      left
      split <;> rfl
  | input data =>
      left
      split <;> rfl
  | opened | closed | connectFailed | output | ignored => exact .inl rfl

end Reaction

theorem generation_le_after
    (controller : Controller)
    (events : List Event) :
    controller.generation ≤ (controller.after events).generation := by
  induction events generalizing controller with
  | nil => simp
  | cons event rest inductionHypothesis =>
      have first := (controller.handle_reaction event).generation_le
      exact Nat.le_trans first (inductionHypothesis _)

theorem generation_after_le
    (controller : Controller)
    (events : List Event) :
    (controller.after events).generation ≤ controller.generation + 2 * events.length := by
  induction events generalizing controller with
  | nil => simp
  | cons event rest inductionHypothesis =>
      have first := (controller.handle_reaction event).generation_le_add_two
      have others := inductionHypothesis (controller.handle event).2
      rw [after_cons, List.length_cons]
      omega

/-- Connections are opened for ever later generations. -/
theorem connectGenerations_increase
    (controller : Controller)
    (events : List Event) :
    (∀ generation ∈ connectGenerations (controller.actionsOf events),
      controller.generation < generation) ∧
    (connectGenerations (controller.actionsOf events)).Pairwise (· < ·) := by
  induction events generalizing controller with
  | nil => simp
  | cons event rest inductionHypothesis =>
      have reaction := controller.handle_reaction event
      obtain ⟨later, increase⟩ := inductionHypothesis (controller.handle event).2
      rw [actionsOf_cons, connectGenerations_append]
      rcases reaction.connectGenerations_eq with none | ⟨one, grown⟩
      · rw [none, List.nil_append]
        refine ⟨?_, increase⟩
        intro generation opened
        exact Nat.lt_of_le_of_lt reaction.generation_le (later generation opened)
      · rw [one, List.singleton_append]
        refine ⟨?_, List.pairwise_cons.2 ⟨later, increase⟩⟩
        intro generation opened
        rcases List.mem_cons.1 opened with rfl | opened
        · exact grown
        · exact Nat.lt_trans grown (later generation opened)

/-! ## Stale events -/

/-- An event is stale if it reports from an older generation. -/
def IsStale (controller : Controller) (event : Event) : Prop :=
  ∃ generation ∈ event.stamp?, generation < controller.generation

instance (controller : Controller) (event : Event) : Decidable (controller.IsStale event) :=
  inferInstanceAs (Decidable (∃ generation ∈ event.stamp?, _))

theorem IsStale.not_accepts
    {controller : Controller}
    {event : Event}
    (stale : controller.IsStale event) :
    ¬controller.Accepts event := by
  obtain ⟨generation, stamp, older⟩ := stale
  have differs : generation ≠ controller.generation := Nat.ne_of_lt older
  cases event <;> simp_all [Event.stamp?, Accepts]

theorem Reaction.eq_of_not_accepts
    {controller next : Controller}
    {event : Event}
    {actions : List Action}
    (reaction : Reaction controller event actions next)
    (refused : ¬controller.Accepts event) :
    actions = [] ∧ next = controller := by
  cases reaction with
  | ignored refused => exact ⟨rfl, rfl⟩
  | switchTo | detach | viewport | input => simp [Accepts] at refused
  | opened possible | closed possible | connectFailed possible | rejected _ possible
  | timerFired possible | output _ possible => exact absurd ⟨rfl, possible⟩ refused

/-- A stale event finds no action and changes nothing. -/
theorem IsStale.handle_eq
    {controller : Controller}
    {event : Event}
    (stale : controller.IsStale event) :
    controller.handle event = ([], controller) := by
  have reaction := controller.handle_reaction event
  obtain ⟨silent, unchanged⟩ := reaction.eq_of_not_accepts stale.not_accepts
  exact Prod.ext silent unchanged

/-- What is stale once stays stale. -/
theorem IsStale.after
    {controller : Controller}
    {event : Event}
    (stale : controller.IsStale event)
    (events : List Event) :
    (controller.after events).IsStale event := by
  obtain ⟨generation, stamp, older⟩ := stale
  exact ⟨generation, stamp, Nat.lt_of_lt_of_le older (controller.generation_le_after events)⟩

/-- The events of a run that are not stale when they arrive. -/
def withoutStale (controller : Controller) : List Event → List Event
  | [] => []
  | event :: rest =>
      let others := (controller.handle event).2.withoutStale rest
      if controller.IsStale event then others else event :: others

/-- A run is the same with and without its stale events. -/
theorem run_withoutStale
    (controller : Controller)
    (events : List Event) :
    controller.actionsOf (controller.withoutStale events) = controller.actionsOf events ∧
      controller.after (controller.withoutStale events) = controller.after events := by
  induction events generalizing controller with
  | nil => exact ⟨rfl, rfl⟩
  | cons event rest inductionHypothesis =>
      obtain ⟨actions, last⟩ := inductionHypothesis (controller.handle event).2
      rw [withoutStale, actionsOf_cons, after_cons]
      split
      · next stale =>
        rw [stale.handle_eq] at actions last ⊢
        exact ⟨actions, last⟩
      · next fresh =>
        rw [actionsOf_cons, after_cons, actions, last]
        exact ⟨rfl, rfl⟩

/-! ## Without an attachment -/

/-- Without an attachment nothing but a request for a session leads to an action. -/
theorem Reaction.silent
    {controller next : Controller}
    {event : Event}
    {actions : List Action}
    (reaction : Reaction controller event actions next)
    (detached : controller.phase = .detached)
    (noSwitch : event.isSwitch = false) :
    actions = [] ∧ next.phase = .detached := by
  cases reaction with
  | switchTo session => simp [Event.isSwitch] at noSwitch
  | detach => exact ⟨by rw [detached]; rfl, rfl⟩
  | viewport size => exact ⟨by rw [detached]; rfl, detached⟩
  | input data => exact ⟨by rw [detached]; rfl, detached⟩
  | ignored refused => exact ⟨rfl, detached⟩
  | closed active | connectFailed active | rejected _ active =>
      simp [isActive, detached] at active
  | opened possible | timerFired possible | output _ possible =>
      simp [detached] at possible

theorem actionsOf_eq_nil_of_detached
    {controller : Controller}
    {events : List Event}
    (detached : controller.phase = .detached)
    (noSwitch : ∀ event ∈ events, event.isSwitch = false) :
    controller.actionsOf events = [] := by
  induction events generalizing controller with
  | nil => rfl
  | cons event rest inductionHypothesis =>
      have reaction := controller.handle_reaction event
      obtain ⟨silent, stillDetached⟩ :=
        reaction.silent detached (noSwitch event List.mem_cons_self)
      rw [actionsOf_cons, silent, List.nil_append]
      apply inductionHypothesis stillDetached
      intro other member
      exact noSwitch other (List.mem_cons_of_mem event member)

/-- Whether an event gives up the attachment. -/
def GivesUp (controller : Controller) : Event → Prop
  | .detach => True
  | .rejected generation reason => controller.Accepts (.rejected generation reason)
  | _ => False

theorem phase_of_givesUp
    {controller : Controller}
    {event : Event}
    (givesUp : controller.GivesUp event) :
    (controller.handle event).2.phase = .detached := by
  cases event with
  | detach => rfl
  | rejected generation reason =>
      have accepted : generation = controller.generation ∧ controller.isActive := givesUp
      simp only [handle]
      rw [if_pos accepted]
      rfl
  | _ => exact givesUp.elim

/-! ## The law of generations -/

/-- Generations never go back, stale events count for nothing, and nothing happens
between the end of an attachment and the next request for a session. -/
theorem generations_protect
    (backoff : Backoff)
    (viewport : Terminal.WindowSize)
    (earlier later : List Event) :
    let first := (start backoff viewport).after earlier
    let last := (start backoff viewport).after (earlier ++ later)
    first.generation ≤ last.generation ∧
    first.generation ≤ 2 * earlier.length ∧
    (∀ event, first.generation < (first.handle event).2.generation ↔
      first.Accepts event ∧ event.entersGeneration) ∧
    (connectGenerations ((start backoff viewport).actionsOf earlier)).Pairwise (· < ·) ∧
    (∀ event, ∀ generation ∈ event.stamp?, generation < first.generation →
      last.handle event = ([], last)) ∧
    (start backoff viewport).actionsOf ((start backoff viewport).withoutStale earlier) =
      (start backoff viewport).actionsOf earlier ∧
    (start backoff viewport).after ((start backoff viewport).withoutStale earlier) = first ∧
    (∀ event, first.GivesUp event → (∀ other ∈ later, other.isSwitch = false) →
      (first.handle event).2.actionsOf later = []) := by
  intro first last
  have onward : last = first.after later := after_append _ earlier later
  obtain ⟨sameActions, sameEnd⟩ := run_withoutStale (start backoff viewport) earlier
  refine ⟨?_, ?_, ?_, ?_, ?_, sameActions, sameEnd, ?_⟩
  · rw [onward]
    exact first.generation_le_after later
  · have bound := generation_after_le (start backoff viewport) earlier
    rwa [show (start backoff viewport).generation = 0 from rfl, Nat.zero_add] at bound
  · intro event
    exact (first.handle_reaction event).generation_lt_iff
  · exact (connectGenerations_increase (start backoff viewport) earlier).2
  · intro event generation stamp older
    rw [onward]
    have stale : first.IsStale event := ⟨generation, stamp, older⟩
    exact (stale.after later).handle_eq
  · intro event givesUp noSwitch
    exact actionsOf_eq_nil_of_detached (phase_of_givesUp givesUp) noSwitch

end Controller
end Client
end SessionHub
