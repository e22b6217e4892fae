/-
# CatalogReplica.Channel -- bounded channels

A channel holds a bounded number of items in the order in which they were
sent. After it is closed nothing can be sent any more, and what it still holds
can be received before it ends. Everyone who receives takes from the same
channel, so every item is received once.
-/

namespace CatalogReplica

/-- A bounded channel. -/
structure Channel (α : Type) where
  capacity : Nat
  items : List α := []
  isOpen : Bool := true

/-- What receiving finds. -/
inductive Received (α : Type) where
  | item (a : α)
  /-- Nothing yet. -/
  | nothing
  /-- Nothing, and there will not be anything. -/
  | ended
  deriving DecidableEq

namespace Channel

variable {α : Type}

/-- Sends an item, if the channel is open and has room. -/
def send? (c : Channel α) (a : α) : Option (Channel α) :=
  if c.isOpen && c.items.length < c.capacity then some { c with items := c.items ++ [a] }
  else none

/-- Closes the channel. -/
def close (c : Channel α) : Channel α := { c with isOpen := false }

/-- Receives the oldest item. -/
def receive (c : Channel α) : Received α × Channel α :=
  match c.items with
  | a :: rest => (.item a, { c with items := rest })
  | [] => (if c.isOpen then .nothing else .ended, c)

/-- How a channel of events is shown: not at all. -/
def shown (_ : Channel α) : String := "EventStream \x7b .. \x7d"

end Channel
end CatalogReplica
