import Telemetry.Proofs.Buffer.Operations

/-!
# The books of a buffer

A buffer is asked to add, to take, to be drained, to be read or to be moved from, in any order. Its
counters always agree with what it holds, an item is handed back exactly if the buffer is full, and
the log of all movements accounts for every item: first in, first out in each partition.
-/
namespace Telemetry.Buffer

variable {α : Type} {b : Buffer α}

/-- What a buffer can be asked for; it is the source of a move. -/
inductive Request (α : Type)
  | add (a : α)
  | addAll (as : List α)
  | take
  | drain
  | snapshot
  | migrate (capacity partitions : Nat)

inductive Answer (α : Type)
  | added (back : Option α)
  | addedAll (accepted : Nat)
  | taken (a : Option α)
  | drained (as : List α)
  | seen (as : List α)
  | migrated (target : Except BufferError (Buffer α))

/-- A request with its answer. -/
structure Dealing (α : Type) where
  request : Request α
  answer : Answer α

namespace Dealing

/-- The items that the buffer accepted. -/
def accepted : Dealing α → List α
  | ⟨.add a, .added none⟩ => [a]
  | ⟨.addAll as, .addedAll n⟩ => as.take n
  | _ => []

/-- The items that the buffer gave away; those that were moved are in the new buffer. -/
def released : Dealing α → List α
  | ⟨_, .taken a⟩ => a.toList
  | ⟨_, .drained as⟩ => as
  | ⟨_, .migrated (.ok target)⟩ => target.snapshot
  | _ => []

/-- How many single adds handed their item back; of a list, the one at which it ended early. -/
def refusals : Dealing α → Nat
  | ⟨.add _, .added (some _)⟩ => 1
  | ⟨.addAll as, .addedAll n⟩ => if n < as.length then 1 else 0
  | _ => 0

end Dealing

def serve (b : Buffer α) : Request α → Buffer α × Answer α
  | .add a => let (b, back) := b.add a; (b, .added back)
  | .addAll as => let (b, n) := b.addAll as; (b, .addedAll n)
  | .take => let (b, a) := b.take; (b, .taken a)
  | .drain => let (b, as) := b.drain; (b, .drained as)
  | .snapshot => (b, .seen b.snapshot)
  | .migrate capacity partitions =>
    match migrate capacity partitions b with
    | .ok m => (m.source, .migrated (.ok m.target))
    | .error e => (b, .migrated (.error e))

/-- The movements by which a request is met. -/
def log (b : Buffer α) : Request α → List (Movement α)
  | .add a => b.addLog a
  | .addAll as => b.addAllLog as
  | .take => b.takeLog
  | .drain => b.drainLog
  | .snapshot => []
  | .migrate capacity partitions =>
    match migrate capacity partitions b with
    | .ok m => b.takesLog m.moved
    | .error _ => []

/-- Meets one request after the other. -/
def serveAll (b : Buffer α) : List (Request α) → Buffer α × List (Dealing α)
  | [] => (b, [])
  | r :: rs =>
    let (b, answer) := b.serve r
    let (b, dealings) := b.serveAll rs
    (b, ⟨r, answer⟩ :: dealings)

def logAll (b : Buffer α) : List (Request α) → List (Movement α)
  | [] => []
  | r :: rs => b.log r ++ (b.serve r).1.logAll rs

/-- The dealings and the log say all that happened between two states of a buffer. -/
structure Books (b : Buffer α) (ds : List (Dealing α)) (log : List (Movement α))
    (b' : Buffer α) : Prop where
  explains : b.Explains log b'
  tidy : b.Tidy → b'.Tidy
  capacity : b'.capacity = b.capacity
  rejected : b'.rejected = b.rejected + (ds.map Dealing.refusals).sum
  entered : entered log = ds.flatMap Dealing.accepted
  left : left log = ds.flatMap Dealing.released

theorem Books.refl (b : Buffer α) : b.Books [] [] b :=
  ⟨Explains.refl b, id, rfl, rfl, rfl, rfl⟩

theorem Books.trans {b b' b'' : Buffer α} {ds ds' : List (Dealing α)} {log log' : List (Movement α)}
    (h : b.Books ds log b') (h' : b'.Books ds' log' b'') :
    b.Books (ds ++ ds') (log ++ log') b'' where
  explains := h.explains.trans h'.explains
  tidy := h'.tidy ∘ h.tidy
  capacity := h'.capacity.trans h.capacity
  rejected := by
    rw [h'.rejected, h.rejected, List.map_append, List.sum_append, Nat.add_assoc]
  entered := by
    rw [entered_append, h.entered, h'.entered, List.flatMap_append]
  left := by
    rw [left_append, h.left, h'.left, List.flatMap_append]

theorem books_add (b : Buffer α) (a : α) :
    b.Books [⟨.add a, .added (b.add a).2⟩] (b.addLog a) (b.add a).1 := by
  have hexplains := explains_add b a
  have htidy := fun h : b.Tidy => h.add a
  cases hplace : place a b.partitions with
  | none =>
    rw [add_of_full hplace] at hexplains htidy ⊢
    rw [addLog, roomAt?_eq_none hplace] at hexplains ⊢
    exact ⟨hexplains, htidy, rfl, rfl, rfl, rfl⟩
  | some ps =>
    obtain ⟨i, hroom, _, _⟩ := place_cases hplace
    rw [add_of_place hplace] at hexplains htidy ⊢
    rw [addLog, hroom] at hexplains ⊢
    exact ⟨hexplains, htidy, rfl, rfl, rfl, rfl⟩

theorem books_addAll (b : Buffer α) (as : List α) :
    b.Books [⟨.addAll as, .addedAll (b.addAll as).2⟩] (b.addAllLog as) (b.addAll as).1 where
  explains := explains_addAll b as
  tidy := fun h => h.addAll as
  capacity := (addAll_only_accepts b as).1
  rejected := rejected_addAll b as
  entered := by
    rw [entered_addAllLog, List.flatMap_singleton]
    rfl
  left := (addAll_only_accepts b as).2

theorem books_take (b : Buffer α) : b.Books [⟨.take, .taken b.take.2⟩] b.takeLog b.take.1 := by
  obtain ⟨hcapacity, hrejected, hentered, hleft⟩ := take_only_releases b
  refine ⟨explains_take b, fun h => h.take, hcapacity, hrejected, hentered, ?_⟩
  rw [hleft, List.flatMap_singleton]
  rfl

theorem books_drain (b : Buffer α) :
    b.Books [⟨.drain, .drained b.drain.2⟩] b.drainLog b.drain.1 where
  explains := explains_drain b
  tidy := Tidy.drain
  capacity := by rw [drain_eq]
  rejected := by
    rw [drain_eq]
    rfl
  entered := (clearLog_only_releases 0 b.partitions).1
  left := by
    rw [drainLog, (clearLog_only_releases 0 b.partitions).2, drain_eq, List.flatMap_singleton]
    rfl

theorem books_migrate (b : Buffer α) (capacity : Nat) {partitions : Nat} (h : 0 < partitions) :
    ∃ m, migrate capacity partitions b = .ok m ∧
      b.Books [⟨.migrate capacity partitions, .migrated (.ok m.target)⟩] (b.takesLog m.moved)
        m.source := by
  obtain ⟨target, hnew, htidy, _, _, hempty⟩ := tidy_new (α := α) capacity h
  obtain ⟨n, hmoved, hsource, _, hitems⟩ := moveItems_eq htidy
    (packed_of_held_eq_nil hempty) b 0 capacity
  refine ⟨moveItems target b 0 capacity, by rw [migrate, hnew]; rfl, ?_⟩
  obtain ⟨hcapacity, hrejected, hentered⟩ := takes_only_releases b n
  rw [Nat.zero_add] at hmoved
  rw [hempty, List.nil_append] at hitems
  rw [hmoved, hsource]
  refine ⟨explains_takes b n, fun htidy => htidy.takes n, hcapacity, hrejected, hentered, ?_⟩
  rw [List.flatMap_singleton, ← hitems]
  rfl

theorem books_serve (b : Buffer α) (r : Request α) :
    b.Books [⟨r, (b.serve r).2⟩] (b.log r) (b.serve r).1 := by
  cases r with
  | add a => exact books_add b a
  | addAll as => exact books_addAll b as
  | take => exact books_take b
  | drain => exact books_drain b
  | snapshot => exact ⟨Explains.refl b, id, rfl, rfl, rfl, rfl⟩
  | migrate capacity partitions =>
    obtain rfl | hpositive := Nat.eq_zero_or_pos partitions
    · exact ⟨Explains.refl b, id, rfl, rfl, rfl, rfl⟩
    · obtain ⟨m, hmigrate, hbooks⟩ := books_migrate b capacity hpositive
      rw [log, serve, hmigrate]
      exact hbooks

theorem books_serveAll (b : Buffer α) (rs : List (Request α)) :
    b.Books (b.serveAll rs).2 (b.logAll rs) (b.serveAll rs).1 := by
  induction rs generalizing b with
  | nil => exact Books.refl b
  | cons r rest ih => exact (books_serve b r).trans (ih (b.serve r).1)

/-- What holds of a buffer of the given capacity after any dealings, with the log of all movements. -/
structure Balanced (capacity : Nat) (b : Buffer α) (ds : List (Dealing α))
    (log : List (Movement α)) : Prop where
  bounded : ∀ p ∈ b.partitions, p.items.length ≤ p.capacity
  capacity : b.capacity = capacity
  count : b.count = b.snapshot.length
  count_le : b.count ≤ b.capacity
  /-- What is taken off the counter was on it. -/
  count_take : b.take.1.count + b.take.2.toList.length = b.count
  count_drain : b.drain.1.count + b.drain.2.length = b.count
  rejected : b.rejected = (ds.map Dealing.refusals).sum
  entered : entered log = ds.flatMap Dealing.accepted
  left : left log = ds.flatMap Dealing.released
  entered_lt : ∀ i a, Movement.entered i a ∈ log → i < b.partitions.length
  /-- First in, first out. -/
  items : ∀ i p, b.partitions[i]? = some p → leftAt i log ++ p.items = enteredAt i log
  add : ∀ a, if b.count = b.capacity then b.add a = ({ b with rejected := b.rejected + 1 }, some a)
    else (b.add a).2 = none

theorem Tidy.count_take (h : b.Tidy) : b.take.1.count + b.take.2.toList.length = b.count := by
  cases hpick : pick b.partitions with
  | none => rw [take_of_empty hpick]; rfl
  | some r =>
    obtain ⟨a, ps⟩ := r
    obtain ⟨_, _, hheld, _⟩ := pick_cases hpick
    have hcount := h.count
    rw [hheld, List.length_cons] at hcount
    rw [take_of_pick hpick, Option.toList_some, List.length_singleton]
    dsimp only
    omega

theorem Tidy.count_drain (h : b.Tidy) : b.drain.1.count + b.drain.2.length = b.count := by
  have hcount := h.count
  rw [drain_eq]
  dsimp only
  omega

/-- Whatever a buffer is asked for, its books balance. -/
theorem books_balance (capacity : Nat) {partitions : Nat} (h : 0 < partitions) :
    ∃ start : Buffer α, new capacity partitions = .ok start ∧ ∀ rs : List (Request α),
      Balanced capacity (start.serveAll rs).1 (start.serveAll rs).2 (start.logAll rs) := by
  obtain ⟨start, hnew, htidy, hcapacity, hrejected, hempty⟩ := tidy_new (α := α) capacity h
  refine ⟨start, hnew, fun rs => ?_⟩
  have hbooks := books_serveAll start rs
  generalize (start.serveAll rs).1 = b, (start.serveAll rs).2 = ds, start.logAll rs = log at hbooks ⊢
  have hb := hbooks.tidy htidy
  have hlength : b.partitions.length = start.partitions.length := by
    simpa using congrArg List.length hbooks.explains.capacities
  refine ⟨hb.bounded, hbooks.capacity.trans hcapacity, hb.count, hb.count_le, hb.count_take,
    hb.count_drain, ?_, hbooks.entered, hbooks.left, ?_, ?_, ?_⟩
  · rw [hbooks.rejected, hrejected, Nat.zero_add]
  · intro i a hmem
    rw [hlength]
    exact hbooks.explains.entered_lt i a hmem
  · intro i p hp
    have hitems := hbooks.explains.items i
    rw [itemsAt_of_held_eq_nil hempty, List.nil_append, itemsAt, hp] at hitems
    exact hitems
  · intro a
    split_ifs with hfull
    · exact add_of_full ((hb.place_eq_none_iff a).mpr hfull)
    · obtain ⟨ps, hplace⟩ := Option.ne_none_iff_exists'.mp (mt (hb.place_eq_none_iff a).mp hfull)
      rw [add_of_place hplace]

/-- Takes leave holes in the first partition, which later items fill before the others. -/
theorem books_balance_with_holes : 0 < 3 ∧ ∃ start : Buffer Nat, new 5 3 = .ok start ∧
    let rs : List (Request Nat) := [.addAll [1, 2, 3, 4], .take, .take, .take,
      .addAll [5, 6, 7, 8, 9, 10], .take, .migrate 2 1]
    Balanced 5 (start.serveAll rs).1 (start.serveAll rs).2 (start.logAll rs) ∧
      (start.serveAll rs).1.rejected = 1 ∧ (start.serveAll rs).1.snapshot = [7, 8] ∧
      leftAt 1 (start.logAll rs) = [3, 4] ∧ enteredAt 1 (start.logAll rs) = [3, 4, 7] := by
  obtain ⟨start, hnew, h⟩ := books_balance (α := Nat) 5 (show 0 < 3 by decide)
  refine ⟨by decide, start, hnew, h _, ?_⟩
  obtain rfl := Except.ok.inj ((new_eq_ok 5 (by decide)).symm.trans hnew)
  exact ⟨rfl, rfl, rfl, rfl⟩

end Telemetry.Buffer
