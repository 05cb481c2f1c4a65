import SessionHub.Proofs.Broadcast.History
import SessionHub.Proofs.Session.Operation

/-!
# Subscribers

A connection that is registered globally and has room for the events that are published
receives the texts of all of them, in order, behind what waits for it already. A feed that
was just opened has room for as many as its queue holds.
-/

namespace SessionHub
namespace Broadcast
namespace Hub

variable {hub : Hub} {id : ConnectionId} {queue : List String} {room : Nat}

theorem publishAll_append (hub : Hub) (first second : List Event) :
    hub.publishAll (first ++ second) = (hub.publishAll first).publishAll second :=
  List.foldl_append

/-- A connection is registered globally, some payloads wait for its receiver, and there is room
for some more. -/
structure IsSubscribed (hub : Hub) (id : ConnectionId) (queue : List String) (room : Nat) :
    Prop where
  addressed : id ∈ hub.addressees .all
  connected : ∃ capacity, hub.connections.get? id = some ⟨capacity, queue, true⟩ ∧
    queue.length + room ≤ capacity

theorem IsSubscribed.waiting_eq
    (subscribed : hub.IsSubscribed id queue room) :
    hub.waiting id = queue := by
  obtain ⟨capacity, found, -⟩ := subscribed.connected
  rw [waiting, found]

theorem IsSubscribed.mono
    {less : Nat}
    (subscribed : hub.IsSubscribed id queue room)
    (isLess : less ≤ room) :
    hub.IsSubscribed id queue less := by
  obtain ⟨capacity, found, enough⟩ := subscribed.connected
  exact ⟨subscribed.addressed, capacity, found, by omega⟩

theorem IsSubscribed.publish
    (subscribed : hub.IsSubscribed id queue (room + 1))
    (sound : hub.IsSound)
    (event : Event) :
    (hub.publish event).2.IsSubscribed id (queue ++ [event.text]) room := by
  obtain ⟨capacity, found, enough⟩ := subscribed.connected
  have hasRoom : queue.length < capacity := by omega
  have sent : Connection.outcome ⟨capacity, queue, true⟩ = .sent := by
    simp [Connection.outcome, hasRoom]
  constructor
  · refine (sound.mem_addressees_broadcast event.text .all .all id).2 ⟨subscribed.addressed, ?_⟩
    rintro ⟨-, gone⟩
    obtain ⟨connection, isThis, closed⟩ := gone
    rw [found] at isThis
    cases isThis
    cases closed
  · refine ⟨capacity, ?_, by rw [List.length_append, List.length_singleton]; omega⟩
    have delivered := get?_broadcast event.text .all sound id
    rw [if_pos subscribed.addressed, found, Option.map_some, Connection.deliver, if_pos sent]
      at delivered
    exact delivered

/-- A subscriber with room for all events receives all of them, in their order. -/
theorem IsSubscribed.waiting_publishAll
    {events : List Event}
    (subscribed : hub.IsSubscribed id queue events.length)
    (sound : hub.IsSound) :
    (hub.publishAll events).waiting id = queue ++ events.map Event.text := by
  induction events generalizing hub queue with
  | nil =>
      rw [List.map_nil, List.append_nil]
      exact subscribed.waiting_eq
  | cons event rest inductionHypothesis =>
      have received := inductionHypothesis (subscribed.publish sound event)
        (sound.broadcast event.text .all)
      rw [List.append_assoc] at received
      exact received

/-! ## New feeds -/

theorem IsSound.openFeed (sound : hub.IsSound) (subject : Option String) :
    (hub.openFeed subject).2.IsSound := by
  rw [openFeed_eq_performAll]
  exact sound.performAll _

/-- Nothing waits for a new feed, and it has room for as many events as a queue holds. -/
theorem IsSound.isSubscribed_openFeed (sound : hub.IsSound) (subject : Option String) :
    (hub.openFeed subject).2.IsSubscribed hub.nextId [] Connection.defaultCapacity where
  addressed := (sound.mem_addressees_openFeed subject hub.nextId .all).2 (.inl ⟨rfl, .inl rfl⟩)
  connected := by
    have connections : (hub.openFeed subject).2.connections =
        (hub.connect Connection.defaultCapacity).2.connections := by
      cases subject <;> exact connections_registerGlobal _ _
    refine ⟨Connection.defaultCapacity, ?_, Nat.le_of_eq (Nat.zero_add _)⟩
    rw [connections, get?_connect, if_pos rfl]

end Hub
end Broadcast
end SessionHub
