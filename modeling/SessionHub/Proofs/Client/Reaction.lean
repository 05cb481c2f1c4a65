import SessionHub.Client.Controller

/-!
# What the controller can do

`Reaction` lists the ways in which a controller reacts to an event, each with the
condition under which it does; `handle` takes one of them. What holds of runs is proved
from this list.
-/

namespace SessionHub
namespace Client

/-- The generation that an event reports from, if it reports from one. -/
def Event.stamp? : Event → Option Nat
  | .opened generation | .closed generation | .connectFailed generation
  | .rejected generation _ | .timerFired generation | .output generation _ =>
      some generation
  | .switchTo _ | .detach | .viewport _ | .input _ => none

/-- Whether an event can lead to a new generation. -/
def Event.entersGeneration : Event → Bool
  | .switchTo _ | .detach | .rejected _ _ | .timerFired _ => true
  | .opened _ | .closed _ | .connectFailed _ | .viewport _ | .input _ | .output _ _ => false

/-- Whether an event asks for a session. -/
def Event.isSwitch : Event → Bool
  | .switchTo _ => true
  | _ => false

namespace Controller

/-- Whether the controller accepts an event. What is reported must come from the present
generation and at a time when it can be expected; all else is accepted. -/
def Accepts (controller : Controller) : Event → Prop
  | .opened generation =>
      generation = controller.generation ∧ controller.phase = .attaching
  | .closed generation | .connectFailed generation | .rejected generation _ =>
      generation = controller.generation ∧ controller.isActive
  | .timerFired generation =>
      generation = controller.generation ∧ controller.phase = .reconnecting
  | .output generation _ =>
      generation = controller.generation ∧ controller.phase = .connected
  | .switchTo _ | .detach | .viewport _ | .input _ => True

/-- The controller that has just been asked for a session. -/
def attached (controller : Controller) (session : String) : Controller :=
  { controller.teardown with session := some session }.connecting

section Fields

variable (controller : Controller) (session : String)

@[simp] theorem attached_phase : (controller.attached session).phase = .attaching := rfl

@[simp] theorem attached_session :
    (controller.attached session).session = some session := rfl

@[simp] theorem attached_generation :
    (controller.attached session).generation = controller.generation + 2 := rfl

@[simp] theorem connecting_phase : controller.connecting.phase = .attaching := rfl

@[simp] theorem connecting_session : controller.connecting.session = controller.session := rfl

@[simp] theorem connecting_generation :
    controller.connecting.generation = controller.generation + 1 := rfl

@[simp] theorem detached_phase : controller.detached.phase = .detached := rfl

@[simp] theorem detached_session : controller.detached.session = none := rfl

@[simp] theorem detached_generation :
    controller.detached.generation = controller.generation + 1 := rfl

@[simp] theorem lost_phase : controller.lost.2.phase = .reconnecting := rfl

@[simp] theorem lost_session : controller.lost.2.session = controller.session := rfl

@[simp] theorem lost_generation :
    controller.lost.2.generation = controller.generation := rfl

theorem isActive_iff :
    controller.isActive ↔
      controller.phase = .attaching ∨ controller.phase = .connected := by
  simp [isActive]

theorem ne_detached (active : controller.isActive) : controller.phase ≠ .detached := by
  rcases controller.isActive_iff.1 active with phase | phase <;> simp [phase]

theorem ne_reconnecting (active : controller.isActive) :
    controller.phase ≠ .reconnecting := by
  rcases controller.isActive_iff.1 active with phase | phase <;> simp [phase]

end Fields

theorem eq_of_mem_release
    {phase : Phase}
    {action : Action}
    (member : action ∈ release phase) :
    action = .closeConnection ∨ action = .disposeRenderer ∨ action = .cancelTimer := by
  cases phase with
  | detached => cases member
  | attaching | connected =>
      rcases List.mem_cons.1 member with first | rest
      · exact .inl first
      · exact .inr (.inl (List.mem_singleton.1 rest))
  | reconnecting =>
      rcases List.mem_cons.1 member with first | rest
      · exact .inr (.inr first)
      · exact .inr (.inl (List.mem_singleton.1 rest))

/-- The ways in which a controller reacts: the event, the actions and the new state. -/
inductive Reaction (controller : Controller) : Event → List Action → Controller → Prop
  | switchTo (session : String) :
      Reaction controller (.switchTo session)
        (release controller.phase ++ [.connect session (controller.generation + 2)])
        (controller.attached session)
  | detach :
      Reaction controller .detach (release controller.phase) controller.detached
  | opened :
      controller.phase = .attaching →
      Reaction controller (.opened controller.generation)
        [.sendResize controller.viewport]
        { controller with phase := .connected, backoff := controller.backoff.reset }
  | closed :
      controller.isActive →
      Reaction controller (.closed controller.generation)
        controller.lost.1 controller.lost.2
  | connectFailed :
      controller.isActive →
      Reaction controller (.connectFailed controller.generation)
        controller.lost.1 controller.lost.2
  | rejected (reason : String) :
      controller.isActive →
      Reaction controller (.rejected controller.generation reason)
        (release controller.phase ++ [.notice ("[" ++ reason ++ "]")]) controller.detached
  | timerFired :
      controller.phase = .reconnecting →
      Reaction controller (.timerFired controller.generation)
        [.connect (controller.session.getD "") (controller.generation + 1)]
        controller.connecting
  | viewport (size : Terminal.WindowSize) :
      Reaction controller (.viewport size)
        (if controller.phase = .connected then [.sendResize size] else [])
        { controller with viewport := size }
  | input (data : List UInt8) :
      Reaction controller (.input data)
        (if controller.phase = .connected then [.sendInput data] else []) controller
  | output (data : List UInt8) :
      controller.phase = .connected →
      Reaction controller (.output controller.generation data) [.render data] controller
  | ignored {event : Event} :
      ¬controller.Accepts event → Reaction controller event [] controller

/-- The controller always takes one of the listed ways. -/
theorem handle_reaction
    (controller : Controller)
    (event : Event) :
    Reaction controller event (controller.handle event).1 (controller.handle event).2 := by
  cases event with
  | switchTo session => exact .switchTo session
  | detach => exact .detach
  | opened generation =>
      simp only [handle]
      split
      · next accepted =>
        obtain ⟨rfl, attaching⟩ := accepted
        exact .opened attaching
      · next refused => exact .ignored refused
  | closed generation =>
      simp only [handle]
      split
      · next accepted =>
        obtain ⟨rfl, active⟩ := accepted
        exact .closed active
      · next refused => exact .ignored refused
  | connectFailed generation =>
      simp only [handle]
      split
      · next accepted =>
        obtain ⟨rfl, active⟩ := accepted
        exact .connectFailed active
      · next refused => exact .ignored refused
  | rejected generation reason =>
      simp only [handle]
      split
      · next accepted =>
        obtain ⟨rfl, active⟩ := accepted
        exact .rejected reason active
      · next refused => exact .ignored refused
  | timerFired generation =>
      simp only [handle]
      split
      · next accepted =>
        obtain ⟨rfl, reconnecting⟩ := accepted
        exact .timerFired reconnecting
      · next refused => exact .ignored refused
  | viewport size => exact .viewport size
  | input data => exact .input data
  | output generation data =>
      simp only [handle]
      by_cases accepted : generation = controller.generation ∧ controller.phase = .connected
      · rw [if_pos accepted]
        obtain ⟨rfl, connected⟩ := accepted
        exact .output data connected
      · rw [if_neg accepted]
        exact .ignored accepted

end Controller
end Client
end SessionHub
