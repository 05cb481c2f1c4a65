import SessionHub.Proofs.Broadcast.Delivery
import Mathlib.Logic.ExistsUnique

/-!
# Interleaved broadcasts

Callers of one registry of scopes take turns, in any order. A broadcast takes several: one
for its snapshot, one for each connection of the snapshot, and a last one in which it
evicts the connections that it has found dead. A receiver, once gone, never comes back.
Therefore a call evicts only connections whose receiver is gone, wherever they have moved
since its snapshot.
-/

namespace SessionHub
namespace Broadcast

/-- A broadcast to a scope that has taken its snapshot. -/
structure Call where
  payload : String
  /-- The connections to which it has yet to hand the payload. -/
  pending : List ConnectionId
  /-- The connections that it has found dead and has yet to evict. -/
  dead : List ConnectionId := []
  /-- How many have taken the payload. -/
  count : Nat := 0

/-- The call after it has handed its payload to a connection. -/
def Call.answered (call : Call) (id : ConnectionId) (delivery : Delivery) : Call where
  payload := call.payload
  pending := call.pending.erase id
  dead := if delivery = .dead then call.dead ++ [id] else call.dead
  count := if delivery = .sent then call.count + 1 else call.count

/-- What is done without interruption. Calls are numbered by their snapshots. -/
inductive Turn
  | connect (capacity : Nat)
  | register (scope : String) (id : ConnectionId)
  | unregister (id : ConnectionId)
  | snapshot (scope payload : String)
  | handOver (call : Nat) (id : ConnectionId)
  | evict (call : Nat)
  | receive (id : ConnectionId) (count : Nat)
  | dropReceiver (id : ConnectionId)
deriving DecidableEq, Repr

/-- A hub with the calls that are under way. -/
structure Traffic where
  hub : Hub
  calls : List Call := []

namespace Traffic

/-- The traffic before the first turn. -/
def start : Traffic where
  hub := .empty

variable (traffic : Traffic)

/-- A connection that was opened is put under a scope. -/
def register (scope : String) (id : ConnectionId) : Traffic :=
  if traffic.hub.IsKnown id then { traffic with hub := traffic.hub.registerScoped scope id }
  else traffic

/-- A call hands its payload to a connection of its snapshot. -/
def handOver (index : Nat) (id : ConnectionId) : Traffic :=
  match traffic.calls[index]? with
  | none => traffic
  | some call =>
      if id ∈ call.pending then
        { hub := (traffic.hub.deliver id call.payload).2
          calls := traffic.calls.set index (call.answered id (traffic.hub.outcome id)) }
      else traffic

/-- A call that has served its snapshot evicts the connections that it has found dead. -/
def evict (index : Nat) : Traffic :=
  match traffic.calls[index]? with
  | none => traffic
  | some call =>
      if call.pending = [] then
        { hub := traffic.hub.evictScoped call.dead
          calls := traffic.calls.set index { call with dead := [] } }
      else traffic

/-- The traffic after a turn. A turn that cannot be taken changes nothing. -/
def step : Turn → Traffic
  | .connect capacity => { traffic with hub := (traffic.hub.connect capacity).2 }
  | .register scope id => traffic.register scope id
  | .unregister id => { traffic with hub := traffic.hub.unregisterScoped id }
  | .snapshot scope payload =>
      { traffic with
        calls := traffic.calls ++ [{ payload, pending := traffic.hub.scopes.members scope }] }
  | .handOver index id => traffic.handOver index id
  | .evict index => traffic.evict index
  | .receive id count => { traffic with hub := (traffic.hub.receive id count).2 }
  | .dropReceiver id => { traffic with hub := traffic.hub.dropReceiver id }

/-- The traffic after several turns. -/
def run (traffic : Traffic) (turns : List Turn) : Traffic :=
  turns.foldl step traffic

theorem run_append (first second : List Turn) :
    traffic.run (first ++ second) = (traffic.run first).run second :=
  List.foldl_append

end Traffic

/-! ## Sound traffic -/

namespace Traffic

/-- What a call has yet to serve was opened, and what it has yet to evict is gone. -/
structure Covers (hub : Hub) (call : Call) : Prop where
  pending : ∀ id ∈ call.pending, hub.IsKnown id
  dead : ∀ id ∈ call.dead, hub.IsGone id

/-- The hub is sound, and covers every call that is under way. -/
structure IsSound (traffic : Traffic) : Prop where
  hub : traffic.hub.IsSound
  covers : ∀ call ∈ traffic.calls, Covers traffic.hub call

theorem Covers.later
    {earlier later : Hub}
    {call : Call}
    (covers : Covers earlier call)
    (isLater : later.IsLater earlier) :
    Covers later call where
  pending := by
    intro id member
    exact isLater.known id (covers.pending id member)
  dead := by
    intro id member
    exact isLater.gone id (covers.dead id member)

theorem Covers.answered
    {hub : Hub}
    {call : Call}
    {id : ConnectionId}
    (covers : Covers hub call)
    (known : hub.IsKnown id) :
    Covers hub (call.answered id (hub.outcome id)) where
  pending := by
    intro other member
    exact covers.pending other (List.mem_of_mem_erase member)
  dead := by
    intro other member
    unfold Call.answered at member
    dsimp only at member
    split at member
    · next dead =>
      rcases List.mem_append.1 member with earlier | found
      · exact covers.dead other earlier
      · rw [List.mem_singleton.1 found]
        exact (Hub.outcome_eq_dead_iff known).1 dead
    · exact covers.dead other member

section Step

variable {traffic : Traffic}

theorem isSound_start : start.IsSound where
  hub := Hub.isSound_empty
  covers := nofun

/-- A turn after which the calls are as they were keeps the traffic sound. -/
theorem IsSound.sameCalls
    (sound : traffic.IsSound)
    {later : Hub}
    (soundHub : later.IsSound)
    (isLater : later.IsLater traffic.hub) :
    IsSound { traffic with hub := later } where
  hub := soundHub
  covers := by
    intro call member
    exact (sound.covers call member).later isLater

/-- So does one after which one of the calls is another, if that one is covered. -/
theorem IsSound.setCall
    (sound : traffic.IsSound)
    {later : Hub}
    (soundHub : later.IsSound)
    (isLater : later.IsLater traffic.hub)
    (index : Nat)
    {call : Call}
    (covers : Covers later call) :
    IsSound { hub := later, calls := traffic.calls.set index call } where
  hub := soundHub
  covers := by
    intro other member
    rcases List.mem_or_eq_of_mem_set member with earlier | isCall
    · exact (sound.covers other earlier).later isLater
    · rw [isCall]
      exact covers

theorem IsSound.register
    (sound : traffic.IsSound)
    (scope : String)
    (id : ConnectionId) :
    (traffic.register scope id).IsSound := by
  unfold Traffic.register
  split
  · next known =>
    exact sound.sameCalls (sound.hub.registerScoped scope known) (.of_connections rfl)
  · exact sound

theorem IsSound.handOver
    (sound : traffic.IsSound)
    (index : Nat)
    (id : ConnectionId) :
    (traffic.handOver index id).IsSound := by
  unfold Traffic.handOver
  split
  · exact sound
  · next call found =>
    split
    · next member =>
      have covers := sound.covers call (List.mem_of_getElem? found)
      have isLater := traffic.hub.isLater_deliver id call.payload
      exact sound.setCall (sound.hub.update id _) isLater index
        ((covers.answered (covers.pending id member)).later isLater)
    · exact sound

theorem IsSound.evict
    (sound : traffic.IsSound)
    (index : Nat) :
    (traffic.evict index).IsSound := by
  unfold Traffic.evict
  split
  · exact sound
  · next call found =>
    split
    · have covers := sound.covers call (List.mem_of_getElem? found)
      have isLater : (traffic.hub.evictScoped call.dead).IsLater traffic.hub :=
        .of_connections rfl
      exact sound.setCall (sound.hub.evictScoped call.dead) isLater index
        ⟨(covers.later isLater).pending, nofun⟩
    · exact sound

theorem IsSound.step
    (sound : traffic.IsSound)
    (turn : Turn) :
    (traffic.step turn).IsSound := by
  cases turn with
  | connect capacity =>
      exact sound.sameCalls (sound.hub.connect capacity) (sound.hub.isLater_connect capacity)
  | register scope id => exact sound.register scope id
  | unregister id =>
      exact sound.sameCalls (sound.hub.unregisterScoped id) (.of_connections rfl)
  | snapshot scope payload =>
      refine ⟨sound.hub, ?_⟩
      intro call member
      rcases List.mem_append.1 member with earlier | added
      · exact sound.covers call earlier
      · rw [List.mem_singleton.1 added]
        exact ⟨sound.hub.known (.scope scope), nofun⟩
  | handOver index id => exact sound.handOver index id
  | evict index => exact sound.evict index
  | receive id count =>
      exact sound.sameCalls (sound.hub.update id _) (Hub.isLater_update id fun _ gone => gone)
  | dropReceiver id =>
      exact sound.sameCalls (sound.hub.update id _) (Hub.isLater_update id fun _ _ => rfl)

theorem IsSound.run
    (sound : traffic.IsSound)
    (turns : List Turn) :
    (traffic.run turns).IsSound := by
  induction turns generalizing traffic with
  | nil => exact sound
  | cons first rest inductionHypothesis => exact inductionHypothesis (sound.step first)

end Step

/-! ## What a turn does to the scopes -/

/-- How the scopes may change, and in which turn. -/
inductive Rescoped (traffic : Traffic) : Turn → ScopedRegistry → Prop
  | kept (turn : Turn) : Rescoped traffic turn traffic.hub.scopes
  | registered (scope : String) (id : ConnectionId) :
      Rescoped traffic (.register scope id) (traffic.hub.scopes.register scope id)
  | unregistered (id : ConnectionId) :
      Rescoped traffic (.unregister id) (traffic.hub.scopes.unregister id)
  | evicted (index : Nat) (ids : List ConnectionId) :
      (∀ id ∈ ids, traffic.hub.IsGone id) →
      Rescoped traffic (.evict index) (traffic.hub.scopes.evict ids)

variable {traffic : Traffic}

theorem IsSound.rescoped
    (sound : traffic.IsSound)
    (turn : Turn) :
    Rescoped traffic turn (traffic.step turn).hub.scopes := by
  cases turn with
  | connect | snapshot => exact .kept _
  | receive id | dropReceiver id =>
      have same := traffic.hub.update_scopes id
      change Rescoped traffic _ (traffic.hub.update id _).scopes
      rw [same]
      exact .kept _
  | register scope id =>
      change Rescoped traffic _ (traffic.register scope id).hub.scopes
      unfold Traffic.register
      split
      · exact .registered scope id
      · exact .kept _
  | unregister id => exact .unregistered id
  | handOver index id =>
      change Rescoped traffic _ (traffic.handOver index id).hub.scopes
      unfold Traffic.handOver
      split
      · exact .kept _
      · split
        · change Rescoped traffic _ (traffic.hub.update id _).scopes
          rw [Hub.update_scopes]
          exact .kept _
        · exact .kept _
  | evict index =>
      change Rescoped traffic _ (traffic.evict index).hub.scopes
      unfold Traffic.evict
      split
      · exact .kept _
      · next call found =>
        split
        · exact .evicted index call.dead (sound.covers call (List.mem_of_getElem? found)).dead
        · exact .kept _

/-- A connection leaves its scope only if it is unregistered, is registered under another
scope, or is evicted and its receiver is gone. -/
theorem Rescoped.leaves
    {turn : Turn}
    {scopes : ScopedRegistry}
    {scope : String}
    {id : ConnectionId}
    (rescoped : Rescoped traffic turn scopes)
    (before : traffic.hub.scopes.scopeOf id = some scope)
    (after : scopes.scopeOf id ≠ some scope) :
    turn = .unregister id ∨
      (∃ other, other ≠ scope ∧ turn = .register other id) ∨
      (∃ index, turn = .evict index) ∧ traffic.hub.IsGone id := by
  cases rescoped with
  | kept => exact absurd before after
  | registered other member =>
      rw [ScopedRegistry.scopeOf_register] at after
      split at after
      · next same =>
        refine .inr (.inl ⟨other, ?_, by rw [same]⟩)
        intro sameScope
        exact after (by rw [sameScope])
      · exact absurd before after
  | unregistered member =>
      rw [ScopedRegistry.scopeOf_unregister] at after
      split at after
      · next same => exact .inl (by rw [same])
      · exact absurd before after
  | evicted index ids gone =>
      rw [ScopedRegistry.scopeOf_evict] at after
      split at after
      · next evicted => exact .inr (.inr ⟨⟨index, rfl⟩, gone id evicted⟩)
      · exact absurd before after

/-! ## Calls that nothing interrupts -/

/-- The turns in which a call serves its snapshot hand the payload to all of it. -/
theorem run_handOver
    (hub : Hub)
    (earlier : List Call)
    (call : Call) :
    run { hub, calls := earlier ++ [call] } (call.pending.map (.handOver earlier.length)) =
      let served := hub.deliverAll call.payload call.pending
      { hub := served.2.2
        calls := earlier ++
          [{ payload := call.payload
             pending := []
             dead := call.dead ++ served.2.1
             count := call.count + served.1 }] } := by
  obtain ⟨payload, pending, dead, count⟩ := call
  induction pending generalizing hub dead count with
  | nil => simp [run, Hub.deliverAll]
  | cons id rest inductionHypothesis =>
      have handed :
          handOver { hub, calls := earlier ++ [⟨payload, id :: rest, dead, count⟩] }
              earlier.length id =
            { hub := (hub.deliver id payload).2
              calls := earlier ++
                [Call.answered ⟨payload, id :: rest, dead, count⟩ id (hub.outcome id)] } := by
        simp [handOver]
      have shortened : (id :: rest).erase id = rest := List.erase_cons_head ..
      rw [List.map_cons, run, List.foldl_cons, step, handed, Call.answered]
      dsimp only
      rw [shortened]
      have others := inductionHypothesis (hub.deliver id payload).2
        (if hub.outcome id = .dead then dead ++ [id] else dead)
        (if hub.outcome id = .sent then count + 1 else count)
      rw [run] at others
      rw [others, Hub.deliverAll_cons]
      dsimp only
      congr 4
      · split
        · rw [List.append_assoc]; rfl
        · rfl
      · split
        · omega
        · rfl

/-- The turns of a broadcast, if they come one after another, are a broadcast of the hub. -/
theorem run_broadcast
    (traffic : Traffic)
    (scope payload : String) :
    let turns := .snapshot scope payload ::
      (traffic.hub.scopes.members scope).map (.handOver traffic.calls.length) ++
        [.evict traffic.calls.length]
    (traffic.run turns).hub = (traffic.hub.broadcastScoped scope payload).2 ∧
      ((traffic.run turns).calls[traffic.calls.length]?).map Call.count =
        some (traffic.hub.broadcastScoped scope payload).1 := by
  intro turns
  have ran : traffic.run turns =
      (run { traffic with
             calls := traffic.calls ++
               [{ payload, pending := traffic.hub.scopes.members scope }] }
        ((traffic.hub.scopes.members scope).map (.handOver traffic.calls.length))).evict
          traffic.calls.length :=
    run_append _ _ [.evict traffic.calls.length]
  have served := run_handOver traffic.hub traffic.calls
    { payload, pending := traffic.hub.scopes.members scope }
  dsimp only at served
  rw [ran, served, evict]
  simp [Hub.broadcastScoped]

/-! ## The law of scopes -/

/-- Whatever turns are taken, the scopes stay consistent, and a connection whose receiver
is there stays under its scope until it is unregistered or registered under another. -/
theorem turns_keep_scopes (turns : List Turn) :
    let last := start.run turns
    let scopes := last.hub.scopes
    (∀ id, (∃ scope, scopes.reverse.get? id = some scope) ↔
      ∃! scope, ∃ ids, scopes.forward.get? scope = some ids ∧ id ∈ ids) ∧
    (∀ id scope, scopes.reverse.get? id = some scope →
      ∃ ids, scopes.forward.get? scope = some ids ∧ id ∈ ids) ∧
    (∀ scope ids, scopes.forward.get? scope = some ids → ids ≠ [] ∧ ids.Nodup) ∧
    (scopes.forward.values.map List.length).sum = scopes.reverse.size ∧
    (∀ turn id scope, scopes.reverse.get? id = some scope →
      (last.step turn).hub.scopes.reverse.get? id ≠ some scope →
      turn = .unregister id ∨
        (∃ other, other ≠ scope ∧ turn = .register other id) ∨
        (∃ index, turn = .evict index) ∧ last.hub.IsGone id) ∧
    ∀ scope payload,
      let turns := .snapshot scope payload ::
        (scopes.members scope).map (.handOver last.calls.length) ++ [.evict last.calls.length]
      (last.run turns).hub = (last.hub.broadcastScoped scope payload).2 ∧
        ((last.run turns).calls[last.calls.length]?).map Call.count =
          some (last.hub.broadcastScoped scope payload).1 := by
  intro last scopes
  have sound : last.IsSound := isSound_start.run turns
  have consistent : scopes.IsConsistent := sound.hub.consistent
  have held_iff : ∀ scope id, (∃ ids, scopes.forward.get? scope = some ids ∧ id ∈ ids) ↔
      scopes.reverse.get? id = some scope := by
    intro scope id
    rw [← scopes.mem_members_iff_exists]
    exact consistent.mem_members_iff scope id
  refine ⟨?_, ?_, ?_, consistent.sum_sizes, ?_, last.run_broadcast⟩
  · intro id
    simp only [held_iff]
    constructor
    · rintro ⟨scope, registered⟩
      refine ⟨scope, registered, ?_⟩
      intro other alsoRegistered
      exact Option.some.inj (alsoRegistered.symm.trans registered)
    · rintro ⟨scope, registered, _⟩
      exact ⟨scope, registered⟩
  · intro id scope registered
    exact (held_iff scope id).2 registered
  · intro scope ids held
    constructor
    · intro nothing
      exact consistent.nonempty scope (nothing ▸ held)
    · have nodup := consistent.nodup scope
      rwa [scopes.members_eq_getD, held, Option.getD_some] at nodup
  · intro turn id scope before after
    exact (sound.rescoped turn).leaves before after

end Traffic
end Broadcast
end SessionHub
