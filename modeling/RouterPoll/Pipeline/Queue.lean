/-!
# Bounded queues

A queue between two stages. It has room for a number of items, and its receiving end may close, after which it takes no more; what is in it can still be taken out.
-/

namespace RouterPoll

structure Queue (α : Type) where
  items : List α
  capacity : Nat
  isOpen : Bool
  deriving DecidableEq

namespace Queue

variable {α : Type}

def ofCapacity (capacity : Nat) : Queue α := ⟨[], capacity, true⟩

/-- How many more items fit in. -/
def room (queue : Queue α) : Nat := queue.capacity - queue.items.length

/-- The queue with one more item behind the others, unless it is full or closed. -/
def offer? (queue : Queue α) (item : α) : Option (Queue α) :=
  if queue.isOpen && 0 < queue.room then some { queue with items := queue.items ++ [item] }
  else none

/-- The item that came first, and the queue without it. -/
def take? (queue : Queue α) : Option (α × Queue α) :=
  match queue.items with
  | [] => none
  | item :: items => some (item, { queue with items })

def close (queue : Queue α) : Queue α := { queue with isOpen := false }

end Queue

end RouterPoll
