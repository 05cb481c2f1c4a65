import Mathlib.Algebra.GroupWithZero.Nat
import Mathlib.Data.List.Induction
import SessionHub.Proofs.Client.Generation

/-!
# Delays between attempts

A connection that is lost is tried again after a delay. A run ends with a span in which the
delays do not start anew: there the first of them is the least that is configured, and each
later one is twice the one before, up to the greatest. What is ignored does not count.
-/

namespace SessionHub
namespace Client

/-- Whether an event lets the delays start anew, if it is accepted. -/
def Event.restartsDelays : Event → Bool
  | .switchTo _ | .detach | .opened _ | .rejected _ _ => true
  | .closed _ | .connectFailed _ | .timerFired _ | .viewport _ | .input _ | .output _ _ => false

/-- Whether an event tells that there is no connection any more, or none yet. -/
def Event.isLoss : Event → Bool
  | .closed _ | .connectFailed _ => true
  | .switchTo _ | .detach | .opened _ | .rejected _ _ | .timerFired _ | .viewport _ | .input _
  | .output _ _ => false

/-- The delay after which an action lets the connection be tried again. -/
def Action.delay? : Action → Option Nat
  | .scheduleReconnect _ delay => some delay
  | _ => none

/-- The delays that actions ask for, in order. -/
def delays (actions : List Action) : List Nat :=
  actions.filterMap Action.delay?

@[simp] theorem delays_nil : delays [] = [] := rfl

@[simp] theorem delays_append (first second : List Action) :
    delays (first ++ second) = delays first ++ delays second :=
  List.filterMap_append

@[simp] theorem delays_release (phase : Phase) : delays (Controller.release phase) = [] := by
  cases phase <;> rfl

/-! ## Doubling -/

namespace Backoff

variable (backoff : Backoff)

/-- The delay after so many others since the delays started. -/
def nth (count : Nat) : Nat :=
  min (2 ^ count * backoff.base) backoff.greatest

/-- The backoff when so many delays have been waited since it started. -/
def waited (count : Nat) : Backoff :=
  { backoff with current := backoff.nth count }

theorem nth_succ (count : Nat) :
    min (backoff.nth count * 2) backoff.greatest = backoff.nth (count + 1) := by
  unfold nth
  rw [Nat.pow_succ, Nat.mul_right_comm]
  omega

theorem next_waited (count : Nat) :
    (backoff.waited count).next = (backoff.nth count, backoff.waited (count + 1)) := by
  rw [waited, waited, ← nth_succ]
  rfl

/-- The bounds of a backoff are in order. -/
structure IsOrdered : Prop where
  positive : 1 ≤ backoff.base
  base_le : backoff.base ≤ backoff.greatest

variable {backoff}

theorem IsOrdered.nth_zero (ordered : backoff.IsOrdered) : backoff.nth 0 = backoff.base := by
  rw [nth, Nat.pow_zero, Nat.one_mul]
  exact Nat.min_eq_left ordered.base_le

theorem IsOrdered.reset_waited
    (ordered : backoff.IsOrdered)
    (count : Nat) :
    (backoff.waited count).reset = backoff.waited 0 := by
  rw [waited, waited, ordered.nth_zero]
  rfl

theorem nth_le_succ (count : Nat) : backoff.nth count ≤ backoff.nth (count + 1) := by
  unfold nth
  rw [Nat.pow_succ, Nat.mul_right_comm]
  omega

theorem IsOrdered.one_le_nth
    (ordered : backoff.IsOrdered)
    (count : Nat) :
    1 ≤ backoff.nth count := by
  induction count with
  | zero =>
      rw [ordered.nth_zero]
      exact ordered.positive
  | succ count inductionHypothesis => exact Nat.le_trans inductionHypothesis (nth_le_succ count)

/-- After enough doublings the greatest delay is reached. -/
theorem IsOrdered.nth_eq_greatest
    (ordered : backoff.IsOrdered)
    {bits count : Nat}
    (fits : backoff.greatest ≤ 2 ^ bits)
    (enough : bits ≤ count) :
    backoff.nth count = backoff.greatest := by
  have doubled : 2 ^ bits ≤ 2 ^ count := Nat.pow_le_pow_right Nat.two_pos enough
  have grown : 2 ^ count * 1 ≤ 2 ^ count * backoff.base :=
    Nat.mul_le_mul_left _ ordered.positive
  exact Nat.min_eq_right (by omega)

theorem isOrdered_ofBounds (base greatest : Nat) : (ofBounds base greatest).IsOrdered where
  positive := by
    change 1 ≤ min (max base 1) (max greatest 1)
    omega
  base_le := Nat.min_le_right _ _

theorem ofBounds_eq_waited (base greatest : Nat) :
    ofBounds base greatest = (ofBounds base greatest).waited 0 := by
  rw [waited, (isOrdered_ofBounds base greatest).nth_zero]
  rfl

end Backoff

namespace Controller

variable {backoff : Backoff}

/-! ## Steps -/

/-- The delays start anew with an event. -/
def Restarts (controller : Controller) (event : Event) : Prop :=
  controller.Accepts event ∧ event.restartsDelays

/-- A connection is lost. -/
def Loses (controller : Controller) (event : Event) : Prop :=
  controller.Accepts event ∧ event.isLoss

namespace Reaction

variable {controller next : Controller} {event : Event} {actions : List Action}

/-- What a reaction does to the delays: it asks for the next one, or for none, and then it
leaves them as they are unless they start anew. -/
theorem backoff_cases (reaction : Reaction controller event actions next) :
    controller.Loses event ∧ actions = controller.lost.1 ∧
        next.backoff = controller.backoff.next.2 ∨
      ¬controller.Loses event ∧ delays actions = [] ∧
        (controller.Restarts event ∧ next.backoff = controller.backoff.reset ∨
          ¬controller.Restarts event ∧ next.backoff = controller.backoff) := by
  unfold Loses Restarts
  cases reaction with
  | switchTo session =>
      refine .inr ⟨by simp [Event.isLoss], ?_, .inl ⟨⟨trivial, rfl⟩, rfl⟩⟩
      rw [delays_append, delays_release]
      rfl
  | detach => exact .inr ⟨by simp [Event.isLoss], delays_release _, .inl ⟨⟨trivial, rfl⟩, rfl⟩⟩
  | opened attaching =>
      exact .inr ⟨by simp [Event.isLoss], rfl, .inl ⟨⟨⟨rfl, attaching⟩, rfl⟩, rfl⟩⟩
  | closed active | connectFailed active => exact .inl ⟨⟨⟨rfl, active⟩, rfl⟩, rfl, rfl⟩
  | rejected reason active =>
      refine .inr ⟨by simp [Event.isLoss], ?_, .inl ⟨⟨⟨rfl, active⟩, rfl⟩, rfl⟩⟩
      rw [delays_append, delays_release]
      rfl
  | timerFired | output =>
      exact .inr ⟨by simp [Event.isLoss], rfl, .inr ⟨by simp [Event.restartsDelays], rfl⟩⟩
  | viewport | input =>
      refine .inr ⟨by simp [Event.isLoss], ?_, .inr ⟨by simp [Event.restartsDelays], rfl⟩⟩
      split <;> rfl
  | ignored refused =>
      exact .inr ⟨fun loses => refused loses.1, rfl, .inr ⟨fun restarts => refused restarts.1, rfl⟩⟩

/-- What a reaction does when so many delays have been waited. -/
theorem waited_cases
    (reaction : Reaction controller event actions next)
    (ordered : backoff.IsOrdered)
    {count : Nat}
    (waited : controller.backoff = backoff.waited count) :
    controller.Loses event ∧
        actions = [.notice (lostNotice (backoff.nth count)),
          .scheduleReconnect controller.generation (backoff.nth count)] ∧
        next.backoff = backoff.waited (count + 1) ∨
      ¬controller.Loses event ∧ delays actions = [] ∧
        (controller.Restarts event ∧ next.backoff = backoff.waited 0 ∨
          ¬controller.Restarts event ∧ next.backoff = backoff.waited count) := by
  have cases := reaction.backoff_cases
  rw [lost, waited, Backoff.next_waited, ordered.reset_waited] at cases
  exact cases

end Reaction

/-! ## Runs -/

section Run

variable {controller : Controller} {events : List Event}

/-- At every point of a run some delays have been waited. -/
theorem exists_waited_after
    (ordered : backoff.IsOrdered)
    (waited : ∃ count, controller.backoff = backoff.waited count)
    (events : List Event) :
    ∃ count, (controller.after events).backoff = backoff.waited count := by
  induction events generalizing controller with
  | nil => exact waited
  | cons event rest inductionHypothesis =>
      obtain ⟨count, waited⟩ := waited
      apply inductionHypothesis
      rcases (controller.handle_reaction event).waited_cases ordered waited with
        ⟨_, _, later⟩ | ⟨_, _, ⟨_, anew⟩ | ⟨_, same⟩⟩
      · exact ⟨_, later⟩
      · exact ⟨_, anew⟩
      · exact ⟨_, same⟩

/-- The delays start anew with the end of a run: nothing has happened yet, or its last event
is one with which they do. -/
def IsFreshAfter (controller : Controller) (events : List Event) : Prop :=
  events = [] ∨
    ∃ earlier event, events = earlier ++ [event] ∧ (controller.after earlier).Restarts event

/-- The delays do not start anew in a run. -/
def IsSpan (controller : Controller) : List Event → Prop
  | [] => True
  | event :: rest => ¬controller.Restarts event ∧ (controller.handle event).2.IsSpan rest

theorem isSpan_concat_iff {last : Event} :
    controller.IsSpan (events ++ [last]) ↔
      controller.IsSpan events ∧ ¬(controller.after events).Restarts last := by
  induction events generalizing controller with
  | nil => simp [IsSpan]
  | cons event rest inductionHypothesis =>
      rw [List.cons_append, IsSpan, IsSpan, inductionHypothesis, after_cons, and_assoc]

/-- Every run ends with a span, before which the delays start anew. -/
theorem exists_span (controller : Controller) (events : List Event) :
    ∃ earlier span, events = earlier ++ span ∧ controller.IsFreshAfter earlier ∧
      (controller.after earlier).IsSpan span := by
  induction events using List.reverseRecOn with
  | nil => exact ⟨[], [], rfl, .inl rfl, trivial⟩
  | append_singleton events event inductionHypothesis =>
      obtain ⟨earlier, span, rfl, fresh, isSpan⟩ := inductionHypothesis
      by_cases restarts : (controller.after (earlier ++ span)).Restarts event
      · exact ⟨_, [], (List.append_nil _).symm, .inr ⟨_, event, rfl, restarts⟩, trivial⟩
      · rw [after_append] at restarts
        exact ⟨earlier, span ++ [event], List.append_assoc .., fresh,
          isSpan_concat_iff.2 ⟨isSpan, restarts⟩⟩

theorem not_restarts_of_loses
    {event : Event}
    (loses : controller.Loses event) :
    ¬controller.Restarts event := by
  rintro ⟨_, restarts⟩
  have isLoss := loses.2
  cases event <;> simp [Event.isLoss, Event.restartsDelays] at isLoss restarts

theorem IsFreshAfter.waited
    (fresh : controller.IsFreshAfter events)
    (ordered : backoff.IsOrdered)
    (waited : controller.backoff = backoff.waited 0) :
    (controller.after events).backoff = backoff.waited 0 := by
  rcases fresh with rfl | ⟨earlier, event, rfl, restarts⟩
  · exact waited
  · obtain ⟨count, before⟩ := exists_waited_after ordered ⟨0, waited⟩ earlier
    rw [after_append]
    rcases ((controller.after earlier).handle_reaction event).waited_cases ordered before with
      ⟨loses, _⟩ | ⟨_, _, ⟨_, anew⟩ | ⟨remains, _⟩⟩
    · exact absurd restarts (not_restarts_of_loses loses)
    · exact anew
    · exact absurd restarts remains

/-- The delays of a span follow each other without a gap. -/
theorem exists_delays_of_isSpan
    (ordered : backoff.IsOrdered)
    (waited : controller.backoff = backoff.waited 0)
    (isSpan : controller.IsSpan events) :
    ∃ count, delays (controller.actionsOf events) = (List.range count).map backoff.nth ∧
      (controller.after events).backoff = backoff.waited count := by
  induction events using List.reverseRecOn with
  | nil => exact ⟨0, rfl, waited⟩
  | append_singleton events event inductionHypothesis =>
      obtain ⟨isSpan, remains⟩ := isSpan_concat_iff.1 isSpan
      obtain ⟨count, all, now⟩ := inductionHypothesis isSpan
      rw [actionsOf_concat, after_concat, delays_append, all]
      rcases ((controller.after events).handle_reaction event).waited_cases ordered now with
        ⟨_, actions, later⟩ | ⟨_, none, ⟨restarts, _⟩ | ⟨_, same⟩⟩
      · refine ⟨count + 1, ?_, later⟩
        rw [actions, List.range_succ, List.map_append]
        rfl
      · exact absurd restarts remains
      · exact ⟨count, by rw [none, List.append_nil], same⟩

end Run

/-! ## The law of delays -/

/-- The longest time that is told in seconds of 64 bits, in whole milliseconds. -/
def longestTime : Nat :=
  UInt64.size * 1000 - 1

/-- Whenever a connection is lost, the delay that is asked for and told is the first delay,
doubled once for each delay since they last started anew, or the greatest. -/
theorem delays_double
    (base greatest : UInt64)
    (viewport : Terminal.WindowSize)
    (events : List Event) :
    let top := max greatest.toNat 1
    let first := max 1 (min base.toNat top)
    let delay (count : Nat) := min (2 ^ count * first) top
    let controller := start (.ofBounds base.toNat greatest.toNat) viewport
    let last := controller.after events
    (∃ earlier span, events = earlier ++ span ∧ controller.IsFreshAfter earlier ∧
      (controller.after earlier).IsSpan span) ∧
    (∀ earlier span, events = earlier ++ span → controller.IsFreshAfter earlier →
      (controller.after earlier).IsSpan span →
        let asked := delays ((controller.after earlier).actionsOf span)
        asked = (List.range asked.length).map delay ∧
        ∀ event, last.Loses event →
          (last.handle event).1 =
            [.notice ("[disconnected, retrying in " ++
                String.ofList (Text.natDigits (delay asked.length)) ++ "ms]"),
              .scheduleReconnect last.generation (delay asked.length)]) ∧
    (∀ event, ¬last.Loses event → delays (last.handle event).1 = []) ∧
    (∀ count, 1 ≤ delay count ∧ delay count ≤ delay (count + 1) ∧ delay count ≤ top) ∧
    (∀ count, 64 ≤ count → delay count = top) ∧
    last.backoff.current * 2 ≤ longestTime := by
  intro top first delay controller last
  let backoff := Backoff.ofBounds base.toNat greatest.toNat
  have ordered : backoff.IsOrdered := Backoff.isOrdered_ofBounds _ _
  have initially : controller.backoff = backoff.waited 0 := Backoff.ofBounds_eq_waited _ _
  have isDelay : delay = backoff.nth := by
    have isFirst : first = backoff.base := by
      change max 1 (min base.toNat top) = min (max base.toNat 1) top
      omega
    funext count
    change min (2 ^ count * first) top = _
    rw [isFirst]
    rfl
  have fits : top < 2 ^ 64 := by
    have bounded := greatest.toNat_lt
    omega
  obtain ⟨_, now⟩ := exists_waited_after ordered ⟨0, initially⟩ events
  rw [isDelay]
  refine ⟨controller.exists_span events, ?_, ?_,
    fun count => ⟨ordered.one_le_nth count, Backoff.nth_le_succ count, Nat.min_le_right _ _⟩,
    fun count enough => ordered.nth_eq_greatest (Nat.le_of_lt fits) enough, ?_⟩
  · intro earlier span split fresh isSpan asked
    obtain ⟨count, all, waited⟩ :=
      exists_delays_of_isSpan ordered (fresh.waited ordered initially) isSpan
    have isCount : asked.length = count := by
      rw [show asked = _ from all, List.length_map, List.length_range]
    rw [isCount]
    refine ⟨all, fun event loses => ?_⟩
    rw [← after_append, ← split] at waited
    rcases (last.handle_reaction event).waited_cases ordered waited with
      ⟨_, actions, _⟩ | ⟨keeps, _⟩
    · exact actions
    · exact absurd loses keeps
  · intro event keeps
    rcases (last.handle_reaction event).waited_cases ordered now with ⟨loses, _⟩ | ⟨_, none, _⟩
    · exact absurd loses keeps
    · exact none
  · have current : last.backoff.current ≤ top := by
      rw [now]
      exact Nat.min_le_right _ _
    have size : longestTime = 18446744073709551615999 := rfl
    omega

/-- Reports that come late or twice do not count among the losses. -/
example :
    delays ((start (.ofBounds 500 3000) ⟨80, 24⟩).actionsOf
      [.switchTo "chat-a", .connectFailed 2, .connectFailed 2, .timerFired 2, .closed 2,
        .closed 3, .timerFired 3, .connectFailed 4, .timerFired 4, .connectFailed 5]) =
      [500, 1000, 2000, 3000] := by
  decide

end Controller
end Client
end SessionHub
