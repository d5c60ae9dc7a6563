import Telemetry.Buffer.Migration

/-!
# Room for partitions

Before a buffer is laid out it asks for a list with room for all partitions that are wanted, also where its
capacity takes fewer of them. No piece of memory is large enough for some numbers of partitions. The
program then ends, which is no error that is returned. That memory runs out before is left aside.
-/
namespace Telemetry.Buffer

variable {α β : Type}

/-- Why there is no buffer: it was refused, or the program ended. -/
inductive BuildFault
  | refused (e : BufferError)
  | overflow
deriving DecidableEq

def BuildFault.message : BuildFault → String
  | refused e => e.message
  | overflow => "capacity overflow"

/-- The bytes of the largest piece of memory. -/
def greatestPiece : Nat := 0x7fffffffffffffff

/-- The bytes of a partition, which is a queue under a lock and a capacity. -/
def partitionBytes : Nat := 48

def greatestPartitions : Nat := greatestPiece / partitionBytes

/-- What is made if there is room for the partitions. -/
def granted (partitions : Nat) (made : Except BufferError β) : Except BuildFault β :=
  if greatestPartitions < partitions then .error .overflow else made.mapError .refused

def build (capacity partitions : Nat) : Except BuildFault (Buffer α) :=
  granted partitions (new capacity partitions)

def buildOfItems (capacity partitions : Nat) (items : List α) : Except BuildFault (Buffer α) :=
  granted partitions (ofItems capacity partitions items)

def buildFrom (capacity partitions : Nat) (source : Buffer α) : Except BuildFault (Migration α) :=
  granted partitions (migrate capacity partitions source)

end Telemetry.Buffer
