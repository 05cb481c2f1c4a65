import SessionHub.Proofs.Broadcast.Operation

/-!
# What connections receive

The payloads that a connection has accepted are those that its receiver has taken, in
this order, then those that were lost with the receiver, then those that still wait. A
connection accepts a payload if it is among the addressees of a broadcast, its receiver
is there, and its queue has room. Nothing else reaches it.
-/

namespace SessionHub
namespace Broadcast
namespace Hub

variable (hub : Hub)

/-- The receiver of a connection is there, and there is room in its queue. -/
def HasRoom (id : ConnectionId) : Prop :=
  ∃ connection, hub.connections.get? id = some connection ∧
    connection.isOpen = true ∧ connection.queue.length < connection.capacity

theorem hasRoom_iff (id : ConnectionId) : hub.HasRoom id ↔ hub.outcome id = .sent := by
  unfold HasRoom outcome
  cases hub.connections.get? id with
  | none => simp
  | some connection => simp [Connection.outcome]; split <;> simp_all

instance (id : ConnectionId) : Decidable (hub.HasRoom id) :=
  decidable_of_iff _ (hub.hasRoom_iff id).symm

/-! ## What an operation does to the payloads of a connection -/

section Log

variable (id : ConnectionId)

/-- The payload that an operation makes a connection accept. -/
def accepted (operation : Operation) : List String :=
  match operation.message? with
  | none => []
  | some (payload, audience) =>
      if id ∈ hub.addressees audience ∧ hub.HasRoom id then [payload] else []

/-- The payloads that the receiver of a connection takes in an operation. -/
def taken : Operation → List String
  | .receive receiver count => if id = receiver then (hub.receive id count).1 else []
  | .drain receiver => if id = receiver then (hub.drain id).1 else []
  | _ => []

/-- The payloads that are lost with the receiver of a connection. -/
def lost : Operation → List String
  | .dropReceiver receiver => if id = receiver then hub.waiting id else []
  | _ => []

/-- What is seen of several operations, one after another. -/
def log (observe : Hub → Operation → List String) : Hub → List Operation → List String
  | _, [] => []
  | hub, operation :: rest => observe hub operation ++ log observe (hub.perform operation) rest

end Log

/-! ## Payloads -/

theorem waiting_eq_getD (id : ConnectionId) :
    hub.waiting id = ((hub.connections.get? id).map Connection.queue).getD [] := by
  unfold waiting
  cases hub.connections.get? id <;> rfl

theorem waiting_of_connections
    {next : Hub}
    (same : next.connections = hub.connections)
    (id : ConnectionId) :
    next.waiting id = hub.waiting id := by
  rw [waiting_eq_getD, same, ← waiting_eq_getD]

theorem waiting_receive
    (receiver : ConnectionId)
    (count : Nat)
    (id : ConnectionId) :
    (hub.receive receiver count).2.waiting id =
      if id = receiver then (hub.waiting receiver).drop count else hub.waiting id := by
  rw [receive, waiting_eq_getD, get?_update]
  split
  · rw [waiting_eq_getD]
    cases hub.connections.get? receiver with
    | none => exact List.drop_nil.symm
    | some connection => rfl
  · rw [← waiting_eq_getD]

theorem waiting_dropReceiver (receiver id : ConnectionId) :
    (hub.dropReceiver receiver).waiting id =
      if id = receiver then [] else hub.waiting id := by
  rw [dropReceiver, waiting_eq_getD, get?_update]
  split
  · cases hub.connections.get? receiver <;> rfl
  · rw [← waiting_eq_getD]

section Payloads

variable {hub : Hub}

theorem IsSound.waiting_broadcast
    (sound : hub.IsSound)
    (payload : String)
    (audience : Audience)
    (id : ConnectionId) :
    (hub.broadcast payload audience).2.waiting id =
      if id ∈ hub.addressees audience ∧ hub.HasRoom id then hub.waiting id ++ [payload]
      else hub.waiting id := by
  rw [waiting_eq_getD, get?_broadcast payload audience sound]
  by_cases addressed : id ∈ hub.addressees audience
  · rw [if_pos addressed, waiting_eq_getD]
    simp only [addressed, true_and, hasRoom_iff]
    unfold outcome
    cases hub.connections.get? id with
    | none => rfl
    | some connection =>
        simp only [Option.map_some, Option.getD_some]
        unfold Connection.deliver
        split <;> rfl
  · rw [if_neg addressed, if_neg (addressed ·.1), ← waiting_eq_getD]

theorem IsSound.waiting_connect
    (sound : hub.IsSound)
    (capacity : Nat)
    (id : ConnectionId) :
    (hub.connect capacity).2.waiting id = hub.waiting id := by
  rw [waiting_eq_getD, waiting_eq_getD, get?_connect]
  split
  · next isNext =>
    have unknown : hub.connections.get? id = none := by
      by_contra known
      exact sound.ne_nextId known isNext
    rw [unknown]
    rfl
  · rfl

/-- What waits for a connection and what it accepts is what it then has taken or lost,
and what still waits. -/
theorem IsSound.waiting_perform
    (sound : hub.IsSound)
    (operation : Operation)
    (id : ConnectionId) :
    hub.waiting id ++ hub.accepted id operation =
      hub.taken id operation ++ hub.lost id operation ++ (hub.perform operation).waiting id := by
  have untouched
      {next : Hub}
      (same : next.waiting id = hub.waiting id) :
      hub.waiting id ++ [] = [] ++ [] ++ next.waiting id := by
    rw [same]
    exact List.append_nil _
  have carried (payload : String) (audience : Audience) :
      (hub.waiting id ++
          if id ∈ hub.addressees audience ∧ hub.HasRoom id then [payload] else []) =
        [] ++ [] ++ (hub.broadcast payload audience).2.waiting id := by
    rw [sound.waiting_broadcast]
    split
    · rfl
    · exact List.append_nil _
  have received (receiver : ConnectionId) (count : Nat) :
      hub.waiting id ++ [] =
        (if id = receiver then (hub.waiting id).take count else []) ++ [] ++
          (hub.receive receiver count).2.waiting id := by
    rw [waiting_receive]
    split
    · next same => simp [same]
    · simp
  cases operation with
  | connect capacity => exact untouched (sound.waiting_connect capacity id)
  | registerGlobal member =>
      apply untouched
      exact hub.waiting_of_connections (hub.connections_perform_registerGlobal member) id
  | registerScoped scope member =>
      apply untouched
      exact hub.waiting_of_connections (hub.connections_perform_registerScoped scope member) id
  | unregisterGlobal | unregisterScoped | closeFeed => exact untouched rfl
  | broadcast payload audience => exact carried payload audience
  | publish event => exact carried event.text .all
  | notify scope payload => exact carried (Event.notification scope payload).text (.scope scope)
  | receive receiver count => exact received receiver count
  | drain receiver =>
      have all := received receiver (hub.waiting receiver).length
      rw [← drain_eq_receive] at all
      change hub.waiting id ++ [] =
        (if id = receiver then hub.waiting id else []) ++ [] ++ (hub.drain receiver).2.waiting id
      rw [all]
      split
      · next same => rw [same, List.take_length]
      · rfl
  | dropReceiver receiver =>
      change hub.waiting id ++ [] =
        [] ++ (if id = receiver then hub.waiting id else []) ++
          (hub.dropReceiver receiver).waiting id
      rw [waiting_dropReceiver]
      split <;> simp

end Payloads

/-! ## Lost receivers -/

section Silence

variable {hub : Hub}
variable {id : ConnectionId}

/-- The receiver of a connection is gone, and nothing waits for it. -/
structure IsSilent (hub : Hub) (id : ConnectionId) : Prop where
  gone : hub.IsGone id
  nothing : hub.waiting id = []

theorem IsSilent.accepted_eq_nil
    (silent : hub.IsSilent id)
    (operation : Operation) :
    hub.accepted id operation = [] := by
  have full : ¬hub.HasRoom id := by
    rintro ⟨connection, known, isOpen, -⟩
    obtain ⟨other, alsoKnown, gone⟩ := silent.gone
    rw [Option.some.inj (known.symm.trans alsoKnown), gone] at isOpen
    cases isOpen
  unfold accepted
  split
  · rfl
  · exact if_neg (full ·.2)

/-- Nothing is seen of a silent connection, and it stays silent. -/
theorem IsSilent.perform
    (silent : hub.IsSilent id)
    (sound : hub.IsSound)
    (operation : Operation) :
    hub.taken id operation = [] ∧ hub.lost id operation = [] ∧
      (hub.perform operation).IsSilent id := by
  have account := sound.waiting_perform operation id
  rw [silent.nothing, silent.accepted_eq_nil operation] at account
  obtain ⟨seen, nothing⟩ := List.append_eq_nil_iff.1 account.symm
  obtain ⟨taken, lost⟩ := List.append_eq_nil_iff.1 seen
  exact ⟨taken, lost, (sound.isLater_perform operation).gone id silent.gone, nothing⟩

theorem IsSilent.log_eq_nil
    (silent : hub.IsSilent id)
    (sound : hub.IsSound)
    (operations : List Operation) :
    log (·.accepted id ·) hub operations = [] ∧
      log (·.taken id ·) hub operations = [] ∧
      log (·.lost id ·) hub operations = [] ∧
      (hub.performAll operations).waiting id = [] := by
  induction operations generalizing hub with
  | nil => exact ⟨rfl, rfl, rfl, silent.nothing⟩
  | cons first rest inductionHypothesis =>
      obtain ⟨taken, lost, next⟩ := silent.perform sound first
      obtain ⟨acceptedRest, takenRest, lostRest, nothing⟩ :=
        inductionHypothesis next (sound.perform first)
      refine ⟨?_, ?_, ?_, nothing⟩
      · rw [log, silent.accepted_eq_nil, acceptedRest, List.append_nil]
      · rw [log, taken, takenRest, List.append_nil]
      · rw [log, lost, lostRest, List.append_nil]

/-- A connection that loses payloads is silent from then on. -/
theorem isSilent_of_lost
    {operation : Operation}
    (loses : hub.lost id operation ≠ []) :
    (hub.perform operation).IsSilent id := by
  cases operation with
  | dropReceiver receiver =>
      rw [lost] at loses
      split at loses
      · next same =>
        rw [perform, same]
        refine ⟨?_, ?_⟩
        · unfold IsGone dropReceiver
          rw [get?_update, if_pos rfl]
          rw [same, waiting_eq_getD] at loses
          cases known : hub.connections.get? receiver with
          | none => exact absurd (by rw [known]; rfl) loses
          | some connection => exact ⟨_, rfl, rfl⟩
        · rw [waiting_dropReceiver, if_pos rfl]
      · exact absurd rfl loses
  | _ => exact absurd rfl loses

/-- What waits for a connection and what it accepts in several operations is what it takes
in them, then what it loses, then what still waits. -/
theorem IsSound.log_accepted
    (sound : hub.IsSound)
    (operations : List Operation)
    (id : ConnectionId) :
    hub.waiting id ++ log (·.accepted id ·) hub operations =
      log (·.taken id ·) hub operations ++ log (·.lost id ·) hub operations ++
        (hub.performAll operations).waiting id := by
  induction operations generalizing hub with
  | nil => exact List.append_nil _
  | cons first rest inductionHypothesis =>
      have step := sound.waiting_perform first id
      have later := inductionHypothesis (sound.perform first)
      change hub.waiting id ++ (hub.accepted id first ++ _) =
        (hub.taken id first ++ _) ++ (hub.lost id first ++ _) ++
          ((hub.perform first).performAll rest).waiting id
      by_cases loses : hub.lost id first = []
      · rw [loses, List.append_nil] at step
        rw [loses, ← List.append_assoc, step, List.append_assoc, later]
        simp only [List.append_assoc, List.nil_append]
      · have silent := isSilent_of_lost loses
        obtain ⟨accepted, taken, lost, nothing⟩ := silent.log_eq_nil (sound.perform first) rest
        rw [silent.nothing] at step
        rw [accepted, taken, lost, nothing, List.append_nil, step]
        simp only [List.append_nil]

/-- Payloads are lost only by a connection whose receiver is gone. -/
theorem IsSound.log_lost
    (sound : hub.IsSound)
    (operations : List Operation)
    (present : ¬(hub.performAll operations).IsGone id) :
    log (·.lost id ·) hub operations = [] := by
  induction operations generalizing hub with
  | nil => rfl
  | cons first rest inductionHypothesis =>
      have later := inductionHypothesis (sound.perform first) present
      by_cases loses : hub.lost id first = []
      · rw [log, loses, later, List.append_nil]
      · have gone := (isSilent_of_lost loses).gone
        exact absurd (((sound.perform first).isLater_performAll rest).gone id gone) present

end Silence

/-! ## The law of deliveries -/

section Count

variable {hub : Hub}

theorem IsSound.broadcast_count_eq
    (sound : hub.IsSound)
    (payload : String)
    (audience : Audience) :
    (hub.broadcast payload audience).1 =
      (hub.connections.keys.filter fun id =>
        (hub.broadcast payload audience).2.waiting id = hub.waiting id ++ [payload]).length := by
  rw [broadcast_count payload audience sound, List.countP_eq_length_filter]
  apply List.Perm.length_eq
  apply (List.perm_ext_iff_of_nodup ((sound.nodup audience).filter _)
    (hub.connections.distinct.filter _)).2
  intro id
  have gains : (hub.broadcast payload audience).2.waiting id = hub.waiting id ++ [payload] ↔
      id ∈ hub.addressees audience ∧ hub.HasRoom id := by
    rw [sound.waiting_broadcast]
    split
    · next accepts => exact iff_of_true rfl accepts
    · next refuses => simp [refuses]
  have isKey : id ∈ hub.addressees audience → id ∈ hub.connections.keys := by
    intro addressed
    rw [Table.mem_keys_iff, Option.isSome_iff_ne_none]
    exact sound.known audience id addressed
  rw [List.mem_filter, List.mem_filter, decide_eq_true_iff, decide_eq_true_iff, gains,
    hasRoom_iff]
  tauto

end Count

/-- Whatever is asked of a hub, each connection takes, in order and once for each
broadcast, the payloads that were broadcast to an audience of which it was a member while
its receiver was there and its queue had room. -/
theorem payloads_accounted_for (operations : List Operation) :
    let hub := empty.performAll operations
    (∀ id,
      log (·.accepted id ·) empty operations =
        log (·.taken id ·) empty operations ++ log (·.lost id ·) empty operations ++
          hub.waiting id ∧
      (¬hub.IsGone id → log (·.lost id ·) empty operations = [])) ∧
    (∀ operation id audience,
      id ∈ (hub.perform operation).addressees audience ↔
        operation.Enrolls id audience ∧ hub.IsKnown id ∨
          id ∈ hub.addressees audience ∧ ¬hub.Dismisses id audience operation) ∧
    (∀ payload audience,
      let next := (hub.broadcast payload audience).2
      (∀ id, next.waiting id =
        if id ∈ hub.addressees audience ∧ hub.HasRoom id then hub.waiting id ++ [payload]
        else hub.waiting id) ∧
      (hub.broadcast payload audience).1 = (hub.connections.keys.filter fun id =>
        next.waiting id = hub.waiting id ++ [payload]).length ∧
      (∀ id ∈ hub.addressees audience, ¬hub.IsGone id → ¬hub.HasRoom id →
        id ∈ next.addressees audience ∧ next.waiting id = hub.waiting id) ∧
      (∀ id ∈ next.addressees audience, ¬next.IsGone id) ∧
      ∀ other ≠ audience, next.addressees other = hub.addressees other) ∧
    (∀ event, hub.publish event = hub.broadcast event.text .all) ∧
    (∀ scope payload, hub.notify scope payload =
      hub.broadcast (Event.notification scope payload).text (.scope scope)) ∧
    ∀ id other audience, other ∈ (hub.closeFeed id).addressees audience ↔
      other ∈ hub.addressees audience ∧ other ≠ id := by
  intro hub
  have sound : hub.IsSound := isSound_empty.performAll operations
  refine ⟨?_, sound.mem_addressees_perform, ?_, fun _ => rfl, fun _ _ => rfl, ?_⟩
  · intro id
    exact ⟨isSound_empty.log_accepted operations id, isSound_empty.log_lost operations⟩
  · intro payload audience next
    refine ⟨sound.waiting_broadcast payload audience, sound.broadcast_count_eq payload audience,
      ?_, ?_, ?_⟩
    · intro id addressed present full
      refine ⟨?_, ?_⟩
      · rw [sound.mem_addressees_broadcast]
        exact ⟨addressed, (present ·.2)⟩
      · rw [sound.waiting_broadcast]
        exact if_neg (full ·.2)
    · intro id stays
      rw [sound.mem_addressees_broadcast] at stays
      rw [sound.isGone_broadcast]
      exact (stays.2 ⟨rfl, ·⟩)
    · intro other differs
      rw [addressees_broadcast payload audience sound, if_neg differs]
  · intro id other audience
    have members := sound.mem_addressees_perform (.closeFeed id) other audience
    simp only [Operation.Enrolls, Dismisses, false_and, false_or] at members
    exact members

end Hub
end Broadcast
end SessionHub
