import SessionHub.Broadcast.Scoped
import SessionHub.Event

/-!
# The hub

Observers are connected here. Events go to all connections that are registered globally,
notifications to those of one scope. The two registries are independent; a connection
may be in both. Broadcasting hands a payload to a snapshot of the registered connections
and then evicts the dead ones from the registry that was asked.
-/

namespace SessionHub
namespace Broadcast

/-- All connections and where they are registered. -/
structure Hub where
  /-- Every connection that was ever opened. -/
  connections : Table ConnectionId Connection
  /-- The number of the next connection. -/
  nextId : ConnectionId
  /-- The connections that are registered globally. -/
  global : List ConnectionId
  scopes : ScopedRegistry

namespace Hub

/-- The hub without connections. -/
def empty : Hub :=
  ⟨.empty, 1, [], .empty⟩

/-- Change one connection. -/
def update (hub : Hub) (id : ConnectionId) (change : Connection → Connection) : Hub :=
  match hub.connections.get? id with
  | none => hub
  | some connection =>
    { hub with connections := hub.connections.insert id (change connection) }

/-- Open a connection: its number, and the hub with it. -/
def connect (hub : Hub) (capacity : Nat) : ConnectionId × Hub :=
  (hub.nextId,
    { hub with
      connections := hub.connections.insert hub.nextId { capacity }
      nextId := hub.nextId + 1 })

/-- The receiver of a connection goes away. -/
def dropReceiver (hub : Hub) (id : ConnectionId) : Hub :=
  hub.update id Connection.dropReceiver

/-- The payloads that wait for the receiver of a connection. -/
def waiting (hub : Hub) (id : ConnectionId) : List String :=
  match hub.connections.get? id with
  | none => []
  | some connection => connection.queue

/-- The receiver of a connection takes all that waits for it. -/
def drain (hub : Hub) (id : ConnectionId) : List String × Hub :=
  (hub.waiting id, hub.update id fun connection => connection.drain.2)

/-- What would become of a payload for a connection. -/
def outcome (hub : Hub) (id : ConnectionId) : Delivery :=
  match hub.connections.get? id with
  | none => .dead
  | some connection => connection.outcome

/-- Hand a payload to a connection. -/
def deliver (hub : Hub) (id : ConnectionId) (payload : String) : Delivery × Hub :=
  (hub.outcome id, hub.update id (·.deliver payload))

/-- Hand a payload to several connections: how many have taken it, which of them are
dead, and the hub after it. -/
def deliverAll (hub : Hub) (payload : String) :
    List ConnectionId → Nat × List ConnectionId × Hub
  | [] => (0, [], hub)
  | id :: rest =>
    let (delivery, hub) := hub.deliver id payload
    let (count, dead, hub) := hub.deliverAll payload rest
    match delivery with
    | .sent => (count + 1, dead, hub)
    | .dropped => (count, dead, hub)
    | .dead => (count, id :: dead, hub)

/-! ## The global registry -/

/-- Register a connection globally. -/
def registerGlobal (hub : Hub) (id : ConnectionId) : Hub :=
  if id ∈ hub.global then hub else { hub with global := hub.global ++ [id] }

/-- Take a connection out of the global registry. -/
def unregisterGlobal (hub : Hub) (id : ConnectionId) : Hub :=
  { hub with global := hub.global.filter (· ≠ id) }

/-- Take several connections out of the global registry. -/
def evictGlobal (hub : Hub) (ids : List ConnectionId) : Hub :=
  { hub with global := hub.global.filter (· ∉ ids) }

/-- Hand a payload to all connections that are registered globally: how many have taken
it, and the hub without the dead ones. -/
def broadcastGlobal (hub : Hub) (payload : String) : Nat × Hub :=
  let (count, dead, hub) := hub.deliverAll payload hub.global
  (count, hub.evictGlobal dead)

/-! ## Scopes -/

/-- Register a connection under a scope. -/
def registerScoped (hub : Hub) (scope : String) (id : ConnectionId) : Hub :=
  { hub with scopes := hub.scopes.register scope id }

/-- Take a connection out of its scope. -/
def unregisterScoped (hub : Hub) (id : ConnectionId) : Hub :=
  { hub with scopes := hub.scopes.unregister id }

/-- Take several connections out of their scopes. -/
def evictScoped (hub : Hub) (ids : List ConnectionId) : Hub :=
  { hub with scopes := hub.scopes.evict ids }

/-- Hand a payload to the connections of a scope: how many have taken it, and the hub
without the dead ones. -/
def broadcastScoped (hub : Hub) (scope payload : String) : Nat × Hub :=
  let (count, dead, hub) := hub.deliverAll payload (hub.scopes.members scope)
  (count, hub.evictScoped dead)

/-! ## Feeds -/

/-- Tell all observers of an event. -/
def publish (hub : Hub) (event : Event) : Nat × Hub :=
  hub.broadcastGlobal event.text

/-- Send a payload to the observers of a scope. -/
def notify (hub : Hub) (scope : String) (payload : Json.Value) : Nat × Hub :=
  hub.broadcastScoped scope (Event.notification scope payload).text

/-- Open a feed: a connection that is registered globally and, for a subject, under the
scope of that name. -/
def openFeed (hub : Hub) (subject : Option String) : ConnectionId × Hub :=
  let (id, hub) := hub.connect Connection.defaultCapacity
  let hub := hub.registerGlobal id
  match subject with
  | none => (id, hub)
  | some scope => (id, hub.registerScoped scope id)

/-- The end of a feed: its connection is taken out of both registries. -/
def closeFeed (hub : Hub) (id : ConnectionId) : Hub :=
  (hub.unregisterGlobal id).unregisterScoped id

end Hub
end Broadcast
end SessionHub
