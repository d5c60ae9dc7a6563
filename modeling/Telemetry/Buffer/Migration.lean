import Telemetry.Buffer.Basic
import Telemetry.Log.Notice

/-!
# Moving into another buffer

Items move one at a time into a new buffer of another layout, until the old one is empty or the new
one is full. What does not fit stays where it was.
-/
namespace Telemetry.Buffer

variable {α : Type}

structure Migration (α : Type) where
  target : Buffer α
  source : Buffer α
  moved : Nat
  /-- An item that the target handed back and the source did not take again. -/
  lost : Option α

/-- Moves items as long as there is fuel. The room is looked at before an item is taken out. -/
def moveItems (target source : Buffer α) (moved : Nat) : Nat → Migration α
  | 0 => ⟨target, source, moved, none⟩
  | fuel + 1 =>
    if target.count < target.capacity then
      match source.take with
      | (source, none) => ⟨target, source, moved, none⟩
      | (source, some a) =>
        match target.add a with
        | (target, none) => moveItems target source (moved + 1) fuel
        | (target, some a) =>
          let (source, lost) := source.add a
          ⟨target, source, moved, lost⟩
    else ⟨target, source, moved, none⟩

/-- Every move fills a place, so the capacity of the new buffer is fuel enough. -/
def migrate (capacity partitions : Nat) (source : Buffer α) :
    Except BufferError (Migration α) :=
  (new capacity partitions).map fun target => moveItems target source 0 capacity

def Migration.notices (m : Migration α) : List Notice :=
  (if m.lost.isSome then [.itemLost] else []) ++ [.migrated m.moved m.source.count]

end Telemetry.Buffer
