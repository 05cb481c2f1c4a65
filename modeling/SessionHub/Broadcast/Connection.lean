/-!
# Connections of observers

A connection has a bounded queue. The sender never waits: a payload that finds the queue
full is lost for this connection, and a connection whose receiver is gone is dead.
-/

namespace SessionHub
namespace Broadcast

/-- The number of a connection. -/
abbrev ConnectionId := Nat

/-- What becomes of a payload that is handed to a connection. -/
inductive Delivery
  /-- The queue has taken it. -/
  | sent
  /-- The queue is full, so that it is lost. -/
  | dropped
  /-- There is no receiver any more. -/
  | dead
deriving DecidableEq, Repr

/-- The queue of a connection, the oldest payload first. -/
structure Connection where
  capacity : Nat
  queue : List String := []
  /-- Whether there is a receiver. -/
  isOpen : Bool := true
deriving DecidableEq, Repr

namespace Connection

/-- How many payloads a queue holds unless said otherwise. -/
def defaultCapacity : Nat := 64

/-- What would become of a payload. -/
def outcome (connection : Connection) : Delivery :=
  if ¬connection.isOpen then .dead
  else if connection.queue.length < connection.capacity then .sent
  else .dropped

/-- Hand over a payload. -/
def deliver (connection : Connection) (payload : String) : Connection :=
  if connection.outcome = .sent then
    { connection with queue := connection.queue ++ [payload] }
  else connection

/-- Take all payloads out of the queue. -/
def drain (connection : Connection) : List String × Connection :=
  (connection.queue, { connection with queue := [] })

/-- Give up the receiver and what it has not taken. -/
def dropReceiver (connection : Connection) : Connection :=
  { connection with queue := [], isOpen := false }

end Connection
end Broadcast
end SessionHub
