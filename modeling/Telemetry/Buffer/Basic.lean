/-!
# Bounded buffers in partitions

A buffer holds a bounded number of items, spread over partitions that each are a queue with a
capacity of its own. Adding never waits: an item goes into the first partition with room, or is
handed back and counted as rejected. Taking starts with the first partition that holds anything.
-/
namespace Telemetry

structure Partition (α : Type) where
  capacity : Nat
  items : List α

structure Buffer (α : Type) where
  partitions : List (Partition α)
  capacity : Nat
  count : Nat
  rejected : Nat

inductive BufferError
  | noPartitions
deriving DecidableEq

def BufferError.message : BufferError → String
  | noPartitions => "partition count must be greater than 0"

namespace Buffer

variable {α : Type}

/-- The capacities of at most `slots` partitions of the given size that make up `remaining`; the last
one is smaller where the size does not divide it. -/
def layout (size : Nat) : Nat → Nat → List Nat
  | 0, _ => []
  | slots + 1, remaining =>
    if remaining = 0 then []
    else min remaining size :: layout size slots (remaining - min remaining size)

/-- The size that each of the partitions is offered, so that together they have room for all. -/
def share (capacity partitions : Nat) : Nat := (capacity + partitions - 1) / partitions

/-- An empty buffer, once there is room for the list of its partitions. -/
def new (capacity partitions : Nat) : Except BufferError (Buffer α) :=
  if partitions = 0 then .error .noPartitions
  else .ok
    { partitions := (layout (share capacity partitions) partitions capacity).map (⟨·, []⟩)
      capacity := capacity
      count := 0
      rejected := 0 }

def isEmpty (b : Buffer α) : Bool := b.count == 0

/-- The partitions with the item in the first one that has room. -/
def place (a : α) : List (Partition α) → Option (List (Partition α))
  | [] => none
  | p :: ps =>
    if p.items.length < p.capacity then some ({ p with items := p.items ++ [a] } :: ps)
    else (place a ps).map (p :: ·)

/-- The buffer afterwards, and the item if it is handed back. -/
def add (b : Buffer α) (a : α) : Buffer α × Option α :=
  match place a b.partitions with
  | some ps => ({ b with partitions := ps, count := b.count + 1 }, none)
  | none => ({ b with rejected := b.rejected + 1 }, some a)

/-- Adds items until one is handed back; the number of those that were accepted. -/
def addAll (b : Buffer α) : List α → Buffer α × Nat
  | [] => (b, 0)
  | a :: rest =>
    match b.add a with
    | (b, none) =>
      let (b, n) := b.addAll rest
      (b, n + 1)
    | (b, some _) => (b, 0)

/-- A new buffer with as many of the items as it takes. -/
def ofItems (capacity partitions : Nat) (items : List α) : Except BufferError (Buffer α) :=
  (new capacity partitions).map fun b => (b.addAll items).1

/-- The first item of the first partition that holds any. -/
def pick : List (Partition α) → Option (α × List (Partition α))
  | [] => none
  | p :: ps =>
    match p.items with
    | a :: rest => some (a, { p with items := rest } :: ps)
    | [] => (pick ps).map fun r => (r.1, p :: r.2)

def take (b : Buffer α) : Buffer α × Option α :=
  match pick b.partitions with
  | some (a, ps) => ({ b with partitions := ps, count := b.count - 1 }, some a)
  | none => (b, none)

/-- Empties the partitions one after the other, taking what each held off the counter. -/
def clear : List (Partition α) → Nat → List α × List (Partition α) × Nat
  | [], n => ([], [], n)
  | p :: ps, n =>
    let (items, ps, n) := clear ps (n - p.items.length)
    (p.items ++ items, { p with items := [] } :: ps, n)

def drain (b : Buffer α) : Buffer α × List α :=
  let (items, ps, n) := clear b.partitions b.count
  ({ b with partitions := ps, count := n }, items)

/-- Everything that is held, partition by partition. -/
def snapshot (b : Buffer α) : List α := b.partitions.flatMap (·.items)

def text (b : Buffer α) : String :=
  s!"PartitionedBuffer \x7b capacity: {b.capacity}, partition_count: {b.partitions.length}, " ++
    s!"count: {b.count}, rejected: {b.rejected} \x7d"

end Buffer

end Telemetry
