import Telemetry.Buffer.Basic

/-!
# Waiting for items

A taker that finds nothing waits. It is woken by every item that is added to its buffer and by being
cancelled, and looks again when it is polled. Being cancelled comes first: a cancelled taker leaves
without an item even if there are some. An item leaves its buffer only when a taker returns with it.
-/
namespace Telemetry

/-- A taker that has not returned yet; `buffer` is the position of its buffer. -/
structure Taker (ι : Type) where
  id : ι
  buffer : Nat
  cancelled : Bool
  woken : Bool

/-- Buffers side by side, and the takers that wait at them, in the order in which they came. -/
structure Pool (α ι : Type) where
  buffers : List (Buffer α)
  takers : List (Taker ι)

/-- What becomes of a taker when it is polled. -/
inductive Poll (α : Type)
  | taken (a : α)
  | cancelled
  | pending

namespace Pool

variable {α ι : Type}

def empty : Pool α ι := ⟨[], []⟩

/-- Takes in a buffer; its position is the number of buffers before it. -/
def openBuffer (p : Pool α ι) (b : Buffer α) : Pool α ι := { p with buffers := p.buffers ++ [b] }

def wake (buffer : Nat) (ts : List (Taker ι)) : List (Taker ι) :=
  ts.map fun t => if t.buffer = buffer then { t with woken := true } else t

/-- Replaces a buffer to which nothing was added. -/
def store (p : Pool α ι) (i : Nat) (b : Buffer α) : Pool α ι :=
  { p with buffers := p.buffers.set i b }

/-- Replaces a buffer to which items were added. -/
def storeAdded (p : Pool α ι) (i : Nat) (b : Buffer α) : Pool α ι :=
  { p.store i b with takers := wake i p.takers }

/-- The item is handed back if it is not accepted; only an accepted one wakes the takers. -/
def add (p : Pool α ι) (i : Nat) (a : α) : Pool α ι × Option α :=
  match p.buffers[i]? with
  | none => (p, some a)
  | some b =>
    match b.add a with
    | (b, none) => (p.storeAdded i b, none)
    | (b, some a) => (p.store i b, some a)

def addAll (p : Pool α ι) (i : Nat) (as : List α) : Pool α ι × Nat :=
  match p.buffers[i]? with
  | none => (p, 0)
  | some b =>
    match b.addAll as with
    | (b, 0) => (p.store i b, 0)
    | (b, n + 1) => (p.storeAdded i b, n + 1)

def take (p : Pool α ι) (i : Nat) : Pool α ι × Option α :=
  match p.buffers[i]? with
  | none => (p, none)
  | some b =>
    let (b, a) := b.take
    (p.store i b, a)

def drain (p : Pool α ι) (i : Nat) : Pool α ι × List α :=
  match p.buffers[i]? with
  | none => (p, [])
  | some b =>
    let (b, as) := b.drain
    (p.store i b, as)

/-- Polls one taker. -/
def attempt (buffers : List (Buffer α)) (t : Taker ι) : List (Buffer α) × Poll α :=
  if t.cancelled then (buffers, .cancelled)
  else match buffers[t.buffer]? with
    | none => (buffers, .pending)
    | some b =>
      match b.take with
      | (b, some a) => (buffers.set t.buffer b, .taken a)
      | (_, none) => (buffers, .pending)

/-- A new taker is polled at once, and stays if it finds nothing. -/
def wait (p : Pool α ι) (id : ι) (i : Nat) (cancelled : Bool) : Pool α ι × Poll α :=
  let t : Taker ι := ⟨id, i, cancelled, false⟩
  match attempt p.buffers t with
  | (buffers, .pending) => (⟨buffers, p.takers ++ [t]⟩, .pending)
  | (buffers, r) => (⟨buffers, p.takers⟩, r)

/-- Polls the takers that have been woken: the buffers and the waiting takers afterwards, and those
that returned. -/
def pollTakers (buffers : List (Buffer α)) :
    List (Taker ι) → List (Buffer α) × List (Taker ι) × List (ι × Poll α)
  | [] => (buffers, [], [])
  | t :: ts =>
    if t.woken then
      match attempt buffers t with
      | (buffers, .pending) =>
        let (buffers, waiting, returned) := pollTakers buffers ts
        (buffers, { t with woken := false } :: waiting, returned)
      | (buffers, r) =>
        let (buffers, waiting, returned) := pollTakers buffers ts
        (buffers, waiting, (t.id, r) :: returned)
    else
      let (buffers, waiting, returned) := pollTakers buffers ts
      (buffers, t :: waiting, returned)

def poll (p : Pool α ι) : Pool α ι × List (ι × Poll α) :=
  let (buffers, waiting, returned) := pollTakers p.buffers p.takers
  (⟨buffers, waiting⟩, returned)

/-- Cancels the first waiting taker of that name. -/
def cancel [DecidableEq ι] (p : Pool α ι) (id : ι) : Pool α ι :=
  { p with takers := cancelFirst p.takers }
where
  cancelFirst : List (Taker ι) → List (Taker ι)
    | [] => []
    | t :: ts =>
      if t.id = id then { t with cancelled := true, woken := true } :: ts
      else t :: cancelFirst ts

end Pool

end Telemetry
