import SessionHub.Broadcast.Connection
import SessionHub.Table

/-!
# Scopes

Each connection is registered under at most one scope. The registry keeps the
connections of each scope and, the other way round, the scope of each connection; every
operation changes both. A broadcast takes a snapshot of a scope first and evicts the
connections it found dead afterwards, when other operations may have come in between.
-/

namespace SessionHub
namespace Broadcast

/-- Which connections are registered under which scope. -/
structure ScopedRegistry where
  /-- The connections of each scope, none of them empty. -/
  forward : Table String (List ConnectionId)
  /-- The scope of each connection. -/
  reverse : Table ConnectionId String

namespace ScopedRegistry

/-- The registry without connections. -/
def empty : ScopedRegistry :=
  ⟨.empty, .empty⟩

/-- The connections of a scope. -/
def members (registry : ScopedRegistry) (scope : String) : List ConnectionId :=
  (registry.forward.get? scope).getD []

/-- The scope of a connection. -/
def scopeOf (registry : ScopedRegistry) (id : ConnectionId) : Option String :=
  registry.reverse.get? id

/-- How many connections a scope has. -/
def scopeSize (registry : ScopedRegistry) (scope : String) : Nat :=
  (registry.members scope).length

/-- Take a connection out of the set of a scope, and the set out of the table if nothing
is left of it. -/
def withdraw (forward : Table String (List ConnectionId)) (scope : String)
    (id : ConnectionId) : Table String (List ConnectionId) :=
  match forward.get? scope with
  | none => forward
  | some ids =>
    let left := ids.filter (· ≠ id)
    if left.isEmpty then forward.erase scope else forward.insert scope left

/-- Take a connection out of its scope. -/
def unregister (registry : ScopedRegistry) (id : ConnectionId) : ScopedRegistry :=
  match registry.scopeOf id with
  | none => registry
  | some scope => ⟨withdraw registry.forward scope id, registry.reverse.erase id⟩

/-- Put a connection under a scope, from whatever scope it had. -/
def register (registry : ScopedRegistry) (scope : String) (id : ConnectionId) :
    ScopedRegistry :=
  let moved := registry.unregister id
  ⟨moved.forward.insert scope (moved.members scope ++ [id]), moved.reverse.insert id scope⟩

/-- Take several connections out of whatever scope they have. -/
def evict (registry : ScopedRegistry) (ids : List ConnectionId) : ScopedRegistry :=
  ids.foldl unregister registry

end ScopedRegistry
end Broadcast
end SessionHub
