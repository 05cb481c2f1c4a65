import SessionHub.Proofs.Broadcast.Delivery

/-!
# What is asked of a hub

Every operation keeps a hub sound, and none brings a receiver back. What it does to the
audiences is told by the members that it enrolls and those that it dismisses.
-/

namespace SessionHub
namespace Broadcast
namespace Hub

/-- What is asked of a hub. -/
inductive Operation
  | connect (capacity : Nat)
  | registerGlobal (id : ConnectionId)
  | unregisterGlobal (id : ConnectionId)
  | registerScoped (scope : String) (id : ConnectionId)
  | unregisterScoped (id : ConnectionId)
  | closeFeed (id : ConnectionId)
  | broadcast (payload : String) (audience : Audience)
  | publish (event : Event)
  | notify (scope : String) (payload : Json.Value)
  | receive (id : ConnectionId) (count : Nat)
  | drain (id : ConnectionId)
  | dropReceiver (id : ConnectionId)

namespace Operation

/-- The payload that an operation broadcasts, and to whom. -/
def message? : Operation → Option (String × Audience)
  | .broadcast payload audience => some (payload, audience)
  | .publish event => some (event.text, .all)
  | .notify scope payload => some ((Event.notification scope payload).text, .scope scope)
  | _ => none

/-- The operation makes a connection a member of an audience. -/
def Enrolls (id : ConnectionId) (audience : Audience) : Operation → Prop
  | .registerGlobal member => id = member ∧ audience = .all
  | .registerScoped scope member => id = member ∧ audience = .scope scope
  | _ => False

end Operation

variable (hub : Hub)

/-- The hub after an operation. Only connections that were opened can be registered. -/
def perform : Operation → Hub
  | .connect capacity => (hub.connect capacity).2
  | .registerGlobal id => if hub.IsKnown id then hub.registerGlobal id else hub
  | .unregisterGlobal id => hub.unregisterGlobal id
  | .registerScoped scope id => if hub.IsKnown id then hub.registerScoped scope id else hub
  | .unregisterScoped id => hub.unregisterScoped id
  | .closeFeed id => hub.closeFeed id
  | .broadcast payload audience => (hub.broadcast payload audience).2
  | .publish event => (hub.publish event).2
  | .notify scope payload => (hub.notify scope payload).2
  | .receive id count => (hub.receive id count).2
  | .drain id => (hub.drain id).2
  | .dropReceiver id => hub.dropReceiver id

/-- The hub after several operations. -/
def performAll (hub : Hub) (operations : List Operation) : Hub :=
  operations.foldl perform hub

/-- The operation ends the membership of a connection in an audience: it unregisters the
connection or moves it to another scope, or finds its receiver gone. -/
def Dismisses (id : ConnectionId) (audience : Audience) : Operation → Prop
  | .unregisterGlobal member => id = member ∧ audience = .all
  | .unregisterScoped member => id = member ∧ audience ≠ .all
  | .registerScoped _ member => id = member ∧ audience ≠ .all ∧ hub.IsKnown id
  | .closeFeed member => id = member
  | .broadcast _ addressed => audience = addressed ∧ hub.IsGone id
  | .publish _ => audience = .all ∧ hub.IsGone id
  | .notify scope _ => audience = .scope scope ∧ hub.IsGone id
  | _ => False

/-! ## Soundness -/

section Perform

variable {hub : Hub}

theorem IsSound.perform
    (sound : hub.IsSound)
    (operation : Operation) :
    (hub.perform operation).IsSound := by
  cases operation with
  | connect capacity => exact sound.connect capacity
  | registerGlobal id =>
      rw [Hub.perform]
      split
      · next known => exact sound.registerGlobal known
      · exact sound
  | unregisterGlobal id => exact sound.unregisterGlobal id
  | registerScoped scope id =>
      rw [Hub.perform]
      split
      · next known => exact sound.registerScoped scope known
      · exact sound
  | unregisterScoped id => exact sound.unregisterScoped id
  | closeFeed id => exact (sound.unregisterGlobal id).unregisterScoped id
  | broadcast payload audience => exact sound.broadcast payload audience
  | publish event => exact sound.broadcast event.text .all
  | notify scope payload =>
      exact sound.broadcast (Event.notification scope payload).text (.scope scope)
  | receive id | drain id | dropReceiver id => exact sound.update id _

theorem IsSound.performAll
    (sound : hub.IsSound)
    (operations : List Operation) :
    (hub.performAll operations).IsSound := by
  induction operations generalizing hub with
  | nil => exact sound
  | cons first rest inductionHypothesis => exact inductionHypothesis (sound.perform first)

end Perform

/-! ## Membership -/

section Membership

variable {hub : Hub}

theorem IsSound.isGone_broadcast
    (sound : hub.IsSound)
    (payload : String)
    (audience : Audience)
    (id : ConnectionId) :
    (hub.broadcast payload audience).2.IsGone id ↔ hub.IsGone id := by
  have sameOpen (connection : Connection) :
      (connection.deliver payload).isOpen = connection.isOpen := by
    unfold Connection.deliver
    split <;> rfl
  unfold IsGone
  rw [get?_broadcast payload audience sound]
  split
  · simp [sameOpen]
  · rfl

theorem IsSound.mem_addressees_broadcast
    (sound : hub.IsSound)
    (payload : String)
    (audience other : Audience)
    (id : ConnectionId) :
    id ∈ (hub.broadcast payload audience).2.addressees other ↔
      id ∈ hub.addressees other ∧ ¬(other = audience ∧ hub.IsGone id) := by
  rw [addressees_broadcast payload audience sound]
  split
  · next same =>
    rw [List.mem_filter, decide_eq_true_iff]
    apply and_congr_right
    intro listed
    rw [Ne, outcome_eq_dead_iff (sound.known other id listed)]
    simp [same]
  · next differs => simp [differs]

theorem mem_addressees_unregisterGlobal
    (member id : ConnectionId)
    (audience : Audience) :
    id ∈ (hub.unregisterGlobal member).addressees audience ↔
      id ∈ hub.addressees audience ∧ ¬(id = member ∧ audience = .all) := by
  cases audience with
  | all =>
      change id ∈ hub.global.filter _ ↔ id ∈ hub.global ∧ _
      simp
  | scope name => simp [addressees, unregisterGlobal]

theorem IsSound.mem_addressees_unregisterScoped
    (sound : hub.IsSound)
    (member id : ConnectionId)
    (audience : Audience) :
    id ∈ (hub.unregisterScoped member).addressees audience ↔
      id ∈ hub.addressees audience ∧ ¬(id = member ∧ audience ≠ .all) := by
  cases audience with
  | all =>
      change id ∈ hub.global ↔ id ∈ hub.global ∧ _
      simp
  | scope name =>
      change id ∈ (hub.scopes.unregister member).members name ↔ id ∈ hub.scopes.members name ∧ _
      rw [sound.consistent.members_unregister]
      simp

theorem mem_addressees_registerGlobal
    (member id : ConnectionId)
    (audience : Audience) :
    id ∈ (hub.registerGlobal member).addressees audience ↔
      (id = member ∧ audience = .all) ∨ id ∈ hub.addressees audience := by
  unfold registerGlobal
  split
  · next already =>
    constructor
    · exact .inr
    · rintro (⟨rfl, rfl⟩ | earlier)
      · exact already
      · exact earlier
  · cases audience with
    | all =>
        change id ∈ hub.global ++ [member] ↔ _ ∨ id ∈ hub.global
        simp [or_comm]
    | scope name => simp [addressees]

theorem IsSound.mem_addressees_registerScoped
    (sound : hub.IsSound)
    (scope : String)
    (member id : ConnectionId)
    (audience : Audience) :
    id ∈ (hub.registerScoped scope member).addressees audience ↔
      (id = member ∧ audience = .scope scope) ∨
        id ∈ hub.addressees audience ∧ ¬(id = member ∧ audience ≠ .all) := by
  cases audience with
  | all =>
      change id ∈ hub.global ↔ _ ∨ id ∈ hub.global ∧ _
      simp
  | scope name =>
      change id ∈ (hub.scopes.register scope member).members name ↔
        _ ∨ id ∈ hub.scopes.members name ∧ _
      rw [sound.consistent.members_register]
      by_cases sameScope : name = scope <;> simp [sameScope, or_comm]

/-- After an operation an audience has the members that it enrolls, and those that were
there before and are not dismissed. -/
theorem IsSound.mem_addressees_perform
    (sound : hub.IsSound)
    (operation : Operation)
    (id : ConnectionId)
    (audience : Audience) :
    id ∈ (hub.perform operation).addressees audience ↔
      operation.Enrolls id audience ∧ hub.IsKnown id ∨
        id ∈ hub.addressees audience ∧ ¬hub.Dismisses id audience operation := by
  have carried (payload : String) (addressed : Audience) :
      id ∈ (hub.broadcast payload addressed).2.addressees audience ↔
        False ∧ hub.IsKnown id ∨
          id ∈ hub.addressees audience ∧ ¬(audience = addressed ∧ hub.IsGone id) := by
    rw [sound.mem_addressees_broadcast]
    simp
  cases operation with
  | connect capacity =>
      change id ∈ hub.addressees audience ↔ _
      simp [Operation.Enrolls, Dismisses]
  | receive member | drain member | dropReceiver member =>
      change id ∈ (hub.update member _).addressees audience ↔ _
      simp [Operation.Enrolls, Dismisses]
  | registerGlobal member =>
      simp only [Hub.perform, Operation.Enrolls, Dismisses]
      split
      · next known =>
        rw [mem_addressees_registerGlobal]
        have isKnown : id = member → hub.IsKnown id := fun same => by rwa [same]
        tauto
      · next unknown =>
        have isUnknown : id = member → ¬hub.IsKnown id := fun same => by rwa [same]
        tauto
  | registerScoped scope member =>
      simp only [Hub.perform, Operation.Enrolls, Dismisses]
      split
      · next known =>
        rw [sound.mem_addressees_registerScoped]
        have isKnown : id = member → hub.IsKnown id := fun same => by rwa [same]
        tauto
      · next unknown =>
        have isUnknown : id = member → ¬hub.IsKnown id := fun same => by rwa [same]
        tauto
  | unregisterGlobal member =>
      rw [Hub.perform, mem_addressees_unregisterGlobal]
      simp [Operation.Enrolls, Dismisses]
  | unregisterScoped member =>
      rw [Hub.perform, sound.mem_addressees_unregisterScoped]
      simp [Operation.Enrolls, Dismisses]
  | closeFeed member =>
      rw [Hub.perform, closeFeed, (sound.unregisterGlobal member).mem_addressees_unregisterScoped,
        mem_addressees_unregisterGlobal]
      simp [Operation.Enrolls, Dismisses]
      tauto
  | broadcast payload addressed => exact carried payload addressed
  | publish event => exact carried event.text .all
  | notify scope payload => exact carried (Event.notification scope payload).text (.scope scope)

end Membership

/-! ## Receivers -/

theorem connections_registerGlobal (id : ConnectionId) :
    (hub.registerGlobal id).connections = hub.connections := by
  unfold registerGlobal
  split <;> rfl

theorem connections_perform_registerGlobal (id : ConnectionId) :
    (hub.perform (.registerGlobal id)).connections = hub.connections := by
  rw [perform]
  split
  · exact hub.connections_registerGlobal id
  · rfl

theorem connections_perform_registerScoped (scope : String) (id : ConnectionId) :
    (hub.perform (.registerScoped scope id)).connections = hub.connections := by
  rw [perform]
  split <;> rfl

section Receivers

variable {hub : Hub}

theorem IsSound.isLater_broadcast
    (sound : hub.IsSound)
    (payload : String)
    (audience : Audience) :
    (hub.broadcast payload audience).2.IsLater hub where
  known := by
    intro id known
    unfold IsKnown at known ⊢
    rw [get?_broadcast payload audience sound]
    split
    · rwa [Ne, Option.map_eq_none_iff]
    · exact known
  gone := by
    intro id gone
    exact (sound.isGone_broadcast payload audience id).2 gone

theorem IsSound.isLater_perform
    (sound : hub.IsSound)
    (operation : Operation) :
    (hub.perform operation).IsLater hub := by
  cases operation with
  | connect capacity => exact sound.isLater_connect capacity
  | registerGlobal member =>
      exact .of_connections (hub.connections_perform_registerGlobal member)
  | registerScoped scope member =>
      exact .of_connections (hub.connections_perform_registerScoped scope member)
  | unregisterGlobal | unregisterScoped | closeFeed => exact .of_connections rfl
  | broadcast payload audience => exact sound.isLater_broadcast payload audience
  | publish event => exact sound.isLater_broadcast event.text .all
  | notify scope payload =>
      exact sound.isLater_broadcast (Event.notification scope payload).text (.scope scope)
  | receive receiver | drain receiver => exact isLater_update receiver fun _ gone => gone
  | dropReceiver receiver => exact isLater_update receiver fun _ _ => rfl

theorem IsSound.isLater_performAll
    (sound : hub.IsSound)
    (operations : List Operation) :
    (hub.performAll operations).IsLater hub := by
  induction operations generalizing hub with
  | nil => exact .of_connections rfl
  | cons first rest inductionHypothesis =>
      have others := inductionHypothesis (sound.perform first)
      exact others.trans (sound.isLater_perform first)

end Receivers

/-! ## Feeds -/

theorem isKnown_connect (capacity : Nat) : (hub.connect capacity).2.IsKnown hub.nextId := by
  unfold IsKnown
  rw [get?_connect, if_pos rfl]
  exact nofun

/-- To open a feed is to connect and to register what was connected. -/
theorem openFeed_eq_performAll (subject : Option String) :
    (hub.openFeed subject).2 =
      hub.performAll
        (.connect Connection.defaultCapacity :: .registerGlobal hub.nextId ::
          subject.toList.map (.registerScoped · hub.nextId)) := by
  let opened := (hub.connect Connection.defaultCapacity).2
  have known : opened.IsKnown hub.nextId := hub.isKnown_connect _
  have registered : opened.perform (.registerGlobal hub.nextId) =
      opened.registerGlobal hub.nextId := if_pos known
  cases subject with
  | none => exact registered.symm
  | some scope =>
      have stillKnown : (opened.registerGlobal hub.nextId).IsKnown hub.nextId := by
        unfold IsKnown
        rw [connections_registerGlobal]
        exact known
      change _ = (opened.perform (.registerGlobal hub.nextId)).perform
        (.registerScoped scope hub.nextId)
      rw [registered, perform, if_pos stillKnown]
      rfl

/-- A new feed gets all events and what is sent to the scope of its subject, and no other
membership changes. -/
theorem IsSound.mem_addressees_openFeed
    {hub : Hub}
    (sound : hub.IsSound)
    (subject : Option String)
    (id : ConnectionId)
    (audience : Audience) :
    id ∈ (hub.openFeed subject).2.addressees audience ↔
      (id = hub.nextId ∧ (audience = .all ∨ ∃ scope ∈ subject, audience = .scope scope)) ∨
        id ∈ hub.addressees audience := by
  let opened := (hub.connect Connection.defaultCapacity).2
  have known : opened.IsKnown hub.nextId := hub.isKnown_connect _
  have unmoved : opened.addressees audience = hub.addressees audience := by
    cases audience <;> rfl
  have isNew : id = hub.nextId → id ∉ hub.addressees audience := by
    intro same listed
    exact sound.ne_nextId (sound.known audience id listed) same
  cases subject with
  | none =>
      change id ∈ (opened.registerGlobal hub.nextId).addressees audience ↔ _
      rw [mem_addressees_registerGlobal, unmoved]
      simp
  | some scope =>
      have registered := (sound.connect Connection.defaultCapacity).registerGlobal known
      change id ∈ ((opened.registerGlobal hub.nextId).registerScoped scope hub.nextId).addressees
        audience ↔ _
      rw [registered.mem_addressees_registerScoped, mem_addressees_registerGlobal, unmoved]
      simp only [Option.mem_some_iff, exists_eq_left']
      tauto

end Hub
end Broadcast
end SessionHub
