import SessionHub.Broadcast.Hub
import SessionHub.Proofs.Broadcast.Registry

/-!
# Delivering to several connections

A hub is sound if its registries list connections that were opened, each of them once.
Every operation keeps a hub sound. In a sound hub a broadcast hands its payload once to
each of the addressees, counts those whose queue has taken it, and evicts those whose
receiver is gone from the registry that was asked, and from no other.
-/

namespace SessionHub
namespace Broadcast

/-- To whom a payload is broadcast: to the connections that are registered globally, or
to those of a scope. -/
inductive Audience
  | all
  | scope (name : String)
deriving DecidableEq, Repr

namespace Hub

variable (hub : Hub)

/-- The connections of an audience. -/
def addressees : Audience → List ConnectionId
  | .all => hub.global
  | .scope name => hub.scopes.members name

/-- Hand a payload to an audience: how many have taken it, and the hub after it. -/
def broadcast (payload : String) : Audience → Nat × Hub
  | .all => hub.broadcastGlobal payload
  | .scope name => hub.broadcastScoped name payload

/-- The receiver of a connection takes the payloads that have waited longest, up to a
number of them. -/
def receive (id : ConnectionId) (count : Nat) : List String × Hub :=
  ((hub.waiting id).take count,
    hub.update id fun connection => { connection with queue := connection.queue.drop count })

/-- The connection was opened. -/
def IsKnown (id : ConnectionId) : Prop :=
  hub.connections.get? id ≠ none

/-- The connection was opened, and its receiver is gone. -/
def IsGone (id : ConnectionId) : Prop :=
  ∃ connection, hub.connections.get? id = some connection ∧ connection.isOpen = false

instance (id : ConnectionId) : Decidable (hub.IsKnown id) :=
  inferInstanceAs (Decidable (_ ≠ _))

/-! ## Changing one connection -/

theorem get?_update
    (id other : ConnectionId)
    (change : Connection → Connection) :
    (hub.update id change).connections.get? other =
      if other = id then (hub.connections.get? id).map change
      else hub.connections.get? other := by
  unfold update
  split
  · next unknown =>
    split
    · next same => rw [same, unknown, Option.map_none]
    · rfl
  · next connection known => rw [Table.get?_insert, known, Option.map_some]

section Update

variable (id : ConnectionId) (change : Connection → Connection)

@[simp] theorem update_global : (hub.update id change).global = hub.global := by
  unfold update
  split <;> rfl

@[simp] theorem update_scopes : (hub.update id change).scopes = hub.scopes := by
  unfold update
  split <;> rfl

@[simp] theorem update_nextId : (hub.update id change).nextId = hub.nextId := by
  unfold update
  split <;> rfl

@[simp] theorem addressees_update (audience : Audience) :
    (hub.update id change).addressees audience = hub.addressees audience := by
  cases audience with
  | all => exact hub.update_global id change
  | scope name => rw [addressees, addressees, update_scopes]

theorem isKnown_update (other : ConnectionId) :
    (hub.update id change).IsKnown other ↔ hub.IsKnown other := by
  unfold IsKnown
  rw [get?_update]
  split
  · next same => rw [same, Ne, Ne, Option.map_eq_none_iff]
  · rfl

end Update

theorem get?_connect (capacity : Nat) (id : ConnectionId) :
    (hub.connect capacity).2.connections.get? id =
      if id = hub.nextId then some { capacity } else hub.connections.get? id :=
  Table.get?_insert ..

theorem drain_eq_receive (id : ConnectionId) :
    hub.drain id = hub.receive id (hub.waiting id).length := by
  rw [drain, receive, List.take_length, Prod.mk.injEq]
  refine ⟨rfl, ?_⟩
  unfold update waiting
  cases hub.connections.get? id with
  | none => rfl
  | some connection => simp [Connection.drain]

/-! ## Sound hubs -/

/-- The registries list connections that were opened, each of them once. -/
structure IsSound : Prop where
  consistent : hub.scopes.IsConsistent
  nodup : ∀ audience, (hub.addressees audience).Nodup
  known : ∀ audience, ∀ id ∈ hub.addressees audience, hub.IsKnown id
  fresh : ∀ id, hub.IsKnown id → id < hub.nextId

theorem isSound_empty : IsSound empty where
  consistent := ScopedRegistry.isConsistent_empty
  nodup := by
    intro audience
    cases audience with
    | all => exact List.nodup_nil
    | scope name => exact ScopedRegistry.isConsistent_empty.nodup name
  known := by
    intro audience id addressed
    cases audience with
    | all => cases addressed
    | scope name => cases addressed
  fresh := by
    intro id known
    exact absurd rfl known

namespace IsSound

variable {hub : Hub}

theorem update
    (sound : hub.IsSound)
    (id : ConnectionId)
    (change : Connection → Connection) :
    (hub.update id change).IsSound where
  consistent := by
    rw [update_scopes]
    exact sound.consistent
  nodup := by
    intro audience
    rw [addressees_update]
    exact sound.nodup audience
  known := by
    intro audience other addressed
    rw [addressees_update] at addressed
    exact (hub.isKnown_update id change other).2 (sound.known audience other addressed)
  fresh := by
    intro other known
    rw [update_nextId]
    exact sound.fresh other ((hub.isKnown_update id change other).1 known)

theorem ne_nextId
    (sound : hub.IsSound)
    {id : ConnectionId}
    (known : hub.IsKnown id) :
    id ≠ hub.nextId :=
  Nat.ne_of_lt (sound.fresh id known)

theorem connect
    (sound : hub.IsSound)
    (capacity : Nat) :
    (hub.connect capacity).2.IsSound where
  consistent := sound.consistent
  nodup := sound.nodup
  known := by
    intro audience id addressed
    have known := sound.known audience id addressed
    unfold IsKnown
    rw [get?_connect, if_neg (sound.ne_nextId known)]
    exact known
  fresh := by
    intro id known
    unfold IsKnown at known
    rw [get?_connect] at known
    split at known
    · next same =>
      rw [same]
      exact Nat.lt_succ_self _
    · exact Nat.lt_succ_of_lt (sound.fresh id known)

/-- A hub in which fewer connections are registered is as sound. -/
theorem of_sublist
    (sound : hub.IsSound)
    (next : Hub)
    (consistent : next.scopes.IsConsistent)
    (fewer : ∀ audience, (next.addressees audience).Sublist (hub.addressees audience))
    (connections : next.connections = hub.connections)
    (nextId : next.nextId = hub.nextId) :
    next.IsSound where
  consistent := consistent
  nodup := by
    intro audience
    exact (fewer audience).nodup (sound.nodup audience)
  known := by
    intro audience id addressed
    unfold IsKnown
    rw [connections]
    exact sound.known audience id ((fewer audience).subset addressed)
  fresh := by
    intro id known
    unfold IsKnown at known
    rw [connections] at known
    rw [nextId]
    exact sound.fresh id known

theorem evictGlobal
    (sound : hub.IsSound)
    (ids : List ConnectionId) :
    (hub.evictGlobal ids).IsSound := by
  apply sound.of_sublist (hub.evictGlobal ids) sound.consistent _ rfl rfl
  intro audience
  cases audience with
  | all => exact List.filter_sublist
  | scope name => exact List.Sublist.refl _

theorem unregisterGlobal
    (sound : hub.IsSound)
    (id : ConnectionId) :
    (hub.unregisterGlobal id).IsSound := by
  apply sound.of_sublist (hub.unregisterGlobal id) sound.consistent _ rfl rfl
  intro audience
  cases audience with
  | all => exact List.filter_sublist
  | scope name => exact List.Sublist.refl _

theorem evictScoped
    (sound : hub.IsSound)
    (ids : List ConnectionId) :
    (hub.evictScoped ids).IsSound := by
  apply sound.of_sublist (hub.evictScoped ids) (sound.consistent.evict ids) _ rfl rfl
  intro audience
  cases audience with
  | all => exact List.Sublist.refl _
  | scope name =>
      change ((hub.scopes.evict ids).members name).Sublist (hub.scopes.members name)
      rw [sound.consistent.members_evict]
      exact List.filter_sublist

theorem unregisterScoped
    (sound : hub.IsSound)
    (id : ConnectionId) :
    (hub.unregisterScoped id).IsSound := by
  exact sound.evictScoped [id]

theorem registerGlobal
    (sound : hub.IsSound)
    {id : ConnectionId}
    (known : hub.IsKnown id) :
    (hub.registerGlobal id).IsSound := by
  unfold Hub.registerGlobal
  split
  · exact sound
  · next absent =>
    refine ⟨sound.consistent, ?_, ?_, sound.fresh⟩
    · intro audience
      cases audience with
      | all => exact List.concat_eq_append ▸ (sound.nodup .all).concat absent
      | scope name => exact sound.nodup (.scope name)
    · intro audience other addressed
      cases audience with
      | all =>
          rcases List.mem_append.1 addressed with earlier | added
          · exact sound.known .all other earlier
          · rw [List.mem_singleton.1 added]
            exact known
      | scope name => exact sound.known (.scope name) other addressed

theorem registerScoped
    (sound : hub.IsSound)
    (scope : String)
    {id : ConnectionId}
    (known : hub.IsKnown id) :
    (hub.registerScoped scope id).IsSound := by
  have consistent := sound.consistent.register scope id
  refine ⟨consistent, ?_, ?_, sound.fresh⟩
  · intro audience
    cases audience with
    | all => exact sound.nodup .all
    | scope name => exact consistent.nodup name
  · intro audience other addressed
    cases audience with
    | all => exact sound.known .all other addressed
    | scope name =>
        change other ∈ (hub.scopes.register scope id).members name at addressed
        rw [sound.consistent.members_register] at addressed
        rcases List.mem_append.1 addressed with earlier | added
        · exact sound.known (.scope name) other (List.mem_of_mem_filter earlier)
        · obtain ⟨_, isAdded⟩ := List.mem_ite_nil_right.1 added
          rw [List.mem_singleton.1 isAdded]
          exact known

end IsSound

variable {hub}

/-! ## Receivers never come back -/

/-- What was known of the connections of a hub still holds of them in a later one. -/
structure IsLater (later earlier : Hub) : Prop where
  known : ∀ id, earlier.IsKnown id → later.IsKnown id
  gone : ∀ id, earlier.IsGone id → later.IsGone id

theorem IsLater.of_connections
    {later : Hub}
    (connections : later.connections = hub.connections) :
    later.IsLater hub where
  known := by
    intro id known
    unfold IsKnown
    rw [connections]
    exact known
  gone := by
    intro id gone
    unfold IsGone
    rw [connections]
    exact gone

theorem IsLater.trans
    {last later earlier : Hub}
    (second : last.IsLater later)
    (first : later.IsLater earlier) :
    last.IsLater earlier where
  known := by
    intro id known
    exact second.known id (first.known id known)
  gone := by
    intro id gone
    exact second.gone id (first.gone id gone)

theorem isLater_update
    (id : ConnectionId)
    {change : Connection → Connection}
    (staysGone : ∀ connection, connection.isOpen = false → (change connection).isOpen = false) :
    (hub.update id change).IsLater hub where
  known := by
    intro other
    exact (hub.isKnown_update id change other).2
  gone := by
    rintro other ⟨connection, known, gone⟩
    unfold IsGone
    rw [get?_update]
    split
    · next same =>
      rw [← same, known]
      exact ⟨change connection, rfl, staysGone connection gone⟩
    · exact ⟨connection, known, gone⟩

theorem isLater_deliver
    (hub : Hub)
    (id : ConnectionId)
    (payload : String) :
    (hub.deliver id payload).2.IsLater hub := by
  apply isLater_update
  intro connection gone
  unfold Connection.deliver
  split <;> exact gone

theorem IsSound.isLater_connect
    (sound : hub.IsSound)
    (capacity : Nat) :
    (hub.connect capacity).2.IsLater hub where
  known := by
    intro id known
    unfold IsKnown
    rw [get?_connect, if_neg (sound.ne_nextId known)]
    exact known
  gone := by
    rintro id ⟨connection, known, gone⟩
    have isKnown : hub.IsKnown id := by
      unfold IsKnown
      rw [known]
      exact nofun
    refine ⟨connection, ?_, gone⟩
    rw [get?_connect, if_neg (sound.ne_nextId isKnown)]
    exact known

/-- A connection that was opened is dead if its receiver is gone. -/
theorem outcome_eq_dead_iff
    {id : ConnectionId}
    (known : hub.IsKnown id) :
    hub.outcome id = .dead ↔ hub.IsGone id := by
  unfold IsKnown at known
  unfold outcome IsGone
  cases isConnection : hub.connections.get? id with
  | none => exact absurd isConnection known
  | some connection =>
      have dead_iff : connection.outcome = .dead ↔ connection.isOpen = false := by
        unfold Connection.outcome
        cases connection.isOpen with
        | false => simp
        | true => simp only [not_true_eq_false, if_false]; split <;> simp
      simp [dead_iff]

/-! ## Handing over a payload -/

section DeliverAll

variable (hub)

/-- Handing a payload to one connection does not matter to another. -/
theorem outcome_update_of_ne
    {id other : ConnectionId}
    (differs : other ≠ id)
    (change : Connection → Connection) :
    (hub.update id change).outcome other = hub.outcome other := by
  unfold outcome
  rw [get?_update, if_neg differs]

/-- What a connection makes of a payload is told by its state before all were served. -/
theorem outcome_deliver_of_mem
    {id : ConnectionId}
    {rest : List ConnectionId}
    (absent : id ∉ rest)
    (payload : String) :
    ∀ other ∈ rest, (hub.deliver id payload).2.outcome other = hub.outcome other := by
  intro other member
  apply outcome_update_of_ne
  intro same
  exact absent (same ▸ member)

theorem deliverAll_cons
    (payload : String)
    (id : ConnectionId)
    (rest : List ConnectionId) :
    hub.deliverAll payload (id :: rest) =
      let served := (hub.deliver id payload).2.deliverAll payload rest
      (if hub.outcome id = .sent then served.1 + 1 else served.1,
        if hub.outcome id = .dead then id :: served.2.1 else served.2.1,
        served.2.2) := by
  simp only [deliverAll, deliver]
  cases hub.outcome id <;> rfl

/-- Handing a payload to several connections counts those that take it, and collects
those that are dead. -/
theorem deliverAll_report
    (payload : String)
    {ids : List ConnectionId}
    (nodup : ids.Nodup) :
    (hub.deliverAll payload ids).1 = ids.countP (hub.outcome · = .sent) ∧
      (hub.deliverAll payload ids).2.1 = ids.filter (hub.outcome · = .dead) := by
  induction ids generalizing hub with
  | nil => exact ⟨rfl, rfl⟩
  | cons id rest inductionHypothesis =>
      obtain ⟨absent, nodupRest⟩ := List.nodup_cons.1 nodup
      obtain ⟨count, dead⟩ := inductionHypothesis (hub.deliver id payload).2 nodupRest
      have asBefore := hub.outcome_deliver_of_mem absent payload
      have sameCount : rest.countP ((hub.deliver id payload).2.outcome · = .sent) =
          rest.countP (hub.outcome · = .sent) := by
        apply List.countP_congr
        intro other member
        rw [asBefore other member]
      have sameDead : rest.filter ((hub.deliver id payload).2.outcome · = .dead) =
          rest.filter (hub.outcome · = .dead) := by
        apply List.filter_congr
        intro other member
        rw [asBefore other member]
      rw [deliverAll_cons, List.countP_cons, List.filter_cons, ← sameCount, ← sameDead,
        ← count, ← dead]
      constructor
      · by_cases sent : hub.outcome id = .sent <;> simp [sent]
      · by_cases isDead : hub.outcome id = .dead <;> simp [isDead]

/-- Handing a payload to several connections changes the queues of these. -/
theorem get?_deliverAll
    (payload : String)
    {ids : List ConnectionId}
    (nodup : ids.Nodup)
    (other : ConnectionId) :
    (hub.deliverAll payload ids).2.2.connections.get? other =
      if other ∈ ids then (hub.connections.get? other).map (·.deliver payload)
      else hub.connections.get? other := by
  induction ids generalizing hub with
  | nil => rfl
  | cons id rest inductionHypothesis =>
      obtain ⟨absent, nodupRest⟩ := List.nodup_cons.1 nodup
      rw [deliverAll_cons]
      dsimp only
      rw [inductionHypothesis _ nodupRest, deliver, get?_update]
      by_cases first : other = id
      · rw [first, if_neg absent, if_pos rfl, if_pos List.mem_cons_self]
      · simp [first]

/-- Handing a payload to several connections keeps them registered. -/
theorem deliverAll_registered
    (payload : String)
    (ids : List ConnectionId) :
    (hub.deliverAll payload ids).2.2.global = hub.global ∧
      (hub.deliverAll payload ids).2.2.scopes = hub.scopes := by
  induction ids generalizing hub with
  | nil => exact ⟨rfl, rfl⟩
  | cons id rest inductionHypothesis =>
      obtain ⟨global, scopes⟩ := inductionHypothesis (hub.deliver id payload).2
      rw [deliverAll_cons]
      exact ⟨global.trans (hub.update_global ..), scopes.trans (hub.update_scopes ..)⟩

end DeliverAll

/-! ## Broadcasting -/

section Broadcast

variable (payload : String) (audience : Audience)

theorem IsSound.deliverAll
    (sound : hub.IsSound)
    (ids : List ConnectionId) :
    (hub.deliverAll payload ids).2.2.IsSound := by
  induction ids generalizing hub with
  | nil => exact sound
  | cons id rest inductionHypothesis =>
      rw [deliverAll_cons]
      exact inductionHypothesis (sound.update id _)

theorem IsSound.broadcast
    (sound : hub.IsSound) :
    (hub.broadcast payload audience).2.IsSound := by
  cases audience with
  | all => exact (sound.deliverAll payload _).evictGlobal _
  | scope name => exact (sound.deliverAll payload _).evictScoped _

theorem broadcast_count
    (sound : hub.IsSound) :
    (hub.broadcast payload audience).1 =
      (hub.addressees audience).countP (hub.outcome · = .sent) := by
  have report := (hub.deliverAll_report payload (sound.nodup audience)).1
  cases audience with
  | all => exact report
  | scope name => exact report

theorem get?_broadcast
    (sound : hub.IsSound)
    (id : ConnectionId) :
    (hub.broadcast payload audience).2.connections.get? id =
      if id ∈ hub.addressees audience then (hub.connections.get? id).map (·.deliver payload)
      else hub.connections.get? id := by
  have served := hub.get?_deliverAll payload (sound.nodup audience) id
  cases audience with
  | all => exact served
  | scope name => exact served

/-- Of those that are listed, the ones found dead are the dead. -/
theorem filter_not_mem_dead
    (ids : List ConnectionId) :
    ids.filter (· ∉ ids.filter (hub.outcome · = .dead)) =
      ids.filter (hub.outcome · ≠ .dead) := by
  apply List.filter_congr
  intro id listed
  simp [listed]

/-- After a broadcast the dead are no longer addressed, and everyone else is as before. -/
theorem addressees_broadcast
    (sound : hub.IsSound)
    (other : Audience) :
    (hub.broadcast payload audience).2.addressees other =
      if other = audience then (hub.addressees other).filter (hub.outcome · ≠ .dead)
      else hub.addressees other := by
  have found := (hub.deliverAll_report payload (sound.nodup audience)).2
  obtain ⟨global, scopes⟩ := hub.deliverAll_registered payload (hub.addressees audience)
  cases audience with
  | all =>
      cases other with
      | all =>
          rw [if_pos rfl]
          change (hub.deliverAll payload hub.global).2.2.global.filter
            (· ∉ (hub.deliverAll payload hub.global).2.1) = hub.global.filter _
          rw [addressees] at found global
          rw [found, global, filter_not_mem_dead]
      | scope name =>
          rw [if_neg nofun]
          change (hub.deliverAll payload hub.global).2.2.scopes.members name = _
          rw [addressees] at scopes
          rw [scopes, addressees]
  | scope name =>
      rw [addressees] at found global scopes
      cases other with
      | all =>
          rw [if_neg nofun]
          exact global
      | scope otherName =>
          change ((hub.deliverAll payload (hub.scopes.members name)).2.2.scopes.evict
            (hub.deliverAll payload (hub.scopes.members name)).2.1).members otherName = _
          rw [found, scopes, sound.consistent.members_evict]
          split
          · next same =>
            cases same
            exact filter_not_mem_dead _
          · next differs =>
            apply List.filter_eq_self.2
            intro id listed
            have elsewhere : id ∉ hub.scopes.members name := by
              intro alsoListed
              rw [sound.consistent.mem_members_iff] at listed alsoListed
              rw [alsoListed] at listed
              exact differs (by rw [Option.some.inj listed])
            simp [elsewhere]

end Broadcast

end Hub
end Broadcast
end SessionHub
