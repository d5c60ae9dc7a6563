import Telemetry.Proofs.Buffer.Books

/-!
# Moves between buffers

Moving goes in rounds, and a round that finds an item finds room for it as well: what was looked at
before the item was taken out is still so when it is put in. So the new buffer gets the first items in
their order, as many as it has room for, and the old one keeps the others in theirs.
-/
namespace Telemetry.Buffer

variable {α : Type} {target source : Buffer α}

/-- What a round of a move comes to. -/
inductive Round (α : Type)
  /-- There is no room, so nothing is taken out. -/
  | full
  /-- There is nothing to take out. -/
  | exhausted
  | moved (a : α)
  /-- The item was handed back, and the source took it again. -/
  | returned (a : α)
  /-- The item was handed back, and the source was full as well. -/
  | lost (a : α)

/-- A round of a move, with both buffers afterwards. -/
def round (target source : Buffer α) : Buffer α × Buffer α × Round α :=
  if target.count < target.capacity then
    match source.take with
    | (source, none) => (target, source, .exhausted)
    | (source, some a) =>
      match target.add a with
      | (target, none) => (target, source, .moved a)
      | (target, some a) =>
        match source.add a with
        | (source, none) => (target, source, .returned a)
        | (source, some a) => (target, source, .lost a)
  else (target, source, .full)

/-- The rounds of a move. The first one that moves nothing is the last one. -/
def rounds (target source : Buffer α) : Nat → List (Round α)
  | 0 => []
  | fuel + 1 =>
    match round target source with
    | (target, source, .moved a) => .moved a :: rounds target source fuel
    | (_, _, r) => [r]

/-- The next round of a move decides what becomes of it. -/
theorem moveItems_succ_eq (target source : Buffer α) (moved fuel : Nat) :
    moveItems target source moved (fuel + 1) =
      match round target source with
      | (target, source, .moved _) => moveItems target source (moved + 1) fuel
      | (target, source, .lost a) => ⟨target, source, moved, some a⟩
      | (target, source, _) => ⟨target, source, moved, none⟩ := by
  rw [moveItems, round]
  split_ifs with hroom
  · obtain ⟨source', a?⟩ := source.take
    cases a? with
    | none => rfl
    | some a =>
      dsimp only
      obtain ⟨target', back⟩ := target.add a
      cases back with
      | none => rfl
      | some a =>
        dsimp only
        obtain ⟨source'', lost⟩ := source'.add a
        cases lost <;> rfl
  · rfl

/-- The first item of the source has been taken out. -/
structure Gives (source : Buffer α) (a : α) (source' : Buffer α) : Prop where
  tidy : source'.Tidy
  held : held source.partitions = a :: held source'.partitions
  count : source.count = source'.count + 1
  rejected : source'.rejected = source.rejected

theorem Tidy.take_cases (h : source.Tidy) :
    (held source.partitions = [] ∧ source.count = 0 ∧ source.take = (source, none)) ∨
    ∃ a source', source.take = (source', some a) ∧ source.Gives a source' := by
  have htidy := h.take
  have hcount := h.count
  have hcount' := h.count_take
  cases hpick : pick source.partitions with
  | none =>
    have hempty := pick_eq_none_iff.mp hpick
    rw [hempty] at hcount
    exact Or.inl ⟨hempty, hcount, take_of_empty hpick⟩
  | some r =>
    obtain ⟨a, ps⟩ := r
    obtain ⟨_, _, hheld, _⟩ := pick_cases hpick
    rw [take_of_pick hpick] at htidy hcount'
    exact Or.inr ⟨a, _, take_of_pick hpick, htidy, hheld, hcount'.symm, rfl⟩

/-- An item has been put into the target, behind all others if no partition had been left early. -/
structure Gets (target : Buffer α) (a : α) (target' : Buffer α) : Prop where
  tidy : target'.Tidy
  packed : Packed target.partitions → Packed target'.partitions
  held : Packed target.partitions → held target'.partitions = held target.partitions ++ [a]
  count : target'.count = target.count + 1
  capacity : target'.capacity = target.capacity
  rejected : target'.rejected = target.rejected

theorem Tidy.add_cases (h : target.Tidy) (a : α) :
    (target.count = target.capacity ∧
      target.add a = ({ target with rejected := target.rejected + 1 }, some a)) ∨
    ∃ target', target.add a = (target', none) ∧ target.Gets a target' := by
  have htidy := h.add a
  cases hplace : place a target.partitions with
  | none => exact Or.inl ⟨(h.place_eq_none_iff a).mp hplace, add_of_full hplace⟩
  | some ps =>
    rw [add_of_place hplace] at htidy
    exact Or.inr ⟨_, add_of_place hplace, htidy, packed_place hplace, held_place hplace, rfl, rfl, rfl⟩

theorem Gets.room {a : α} {target' : Buffer α} (h : target.Gets a target') {room : Nat}
    (hroom : target.count + (room + 1) = target.capacity) :
    target'.count + room = target'.capacity := by
  rw [h.count, h.capacity, ← hroom, Nat.add_assoc, Nat.add_comm 1]

/-- A round that takes an item out finds room for it. -/
theorem round_cases (h : target.Tidy) (hsource : source.Tidy) :
    (target.count = target.capacity ∧ round target source = (target, source, .full)) ∨
    (target.count < target.capacity ∧ held source.partitions = [] ∧ source.count = 0 ∧
      round target source = (target, source, .exhausted)) ∨
    ∃ a target' source', target.Gets a target' ∧ source.Gives a source' ∧
      round target source = (target', source', .moved a) := by
  have hle := h.count_le
  by_cases hroom : target.count < target.capacity
  · obtain ⟨hempty, hzero, htake⟩ | ⟨a, source', htake, hgives⟩ := hsource.take_cases
    · refine Or.inr (Or.inl ⟨hroom, hempty, hzero, ?_⟩)
      rw [round, if_pos hroom, htake]
    · obtain ⟨hfull, _⟩ | ⟨target', hadd, hgets⟩ := h.add_cases a
      · exact absurd hfull (Nat.ne_of_lt hroom)
      · refine Or.inr (Or.inr ⟨a, target', source', hgets, hgives, ?_⟩)
        rw [round, if_pos hroom, htake]
        dsimp only
        rw [hadd]
  · refine Or.inl ⟨by omega, ?_⟩
    rw [round, if_neg hroom]

/-- What is so after a move that had moved so many items before. -/
structure Moved (target source : Buffer α) (moved : Nat) (m : Migration α) : Prop where
  tidy : m.target.Tidy
  tidy_source : m.source.Tidy
  held : held m.target.partitions ++ held m.source.partitions =
    held target.partitions ++ held source.partitions
  count : m.target.count = min target.capacity (target.count + source.count)
  rejected : m.target.rejected = target.rejected
  rejected_source : m.source.rejected = source.rejected
  moved : m.moved + target.count = moved + m.target.count
  lost : m.lost = none

/-- An item that is moved goes from the front of the source to the end of the target. -/
theorem Moved.of_next {target' source' : Buffer α} {m : Migration α} {moved : Nat} {a : α}
    (hpacked : Packed target.partitions) (hgets : target.Gets a target')
    (hgives : source.Gives a source') (h : target'.Moved source' (moved + 1) m) :
    target.Moved source moved m := by
  have hcount := hgets.count
  have hcount_source := hgives.count
  have htotal := h.count
  have hmoved := h.moved
  refine ⟨h.tidy, h.tidy_source, ?_, ?_, h.rejected.trans hgets.rejected,
    h.rejected_source.trans hgives.rejected, ?_, h.lost⟩
  · rw [h.held, hgets.held hpacked, hgives.held, List.append_assoc, List.singleton_append]
  · rw [hgets.capacity] at htotal
    omega
  · omega

/-- Room and items never run out between the look and the move. -/
theorem moved_moveItems (h : target.Tidy) (hpacked : Packed target.partitions)
    (hsource : source.Tidy) (moved : Nat) {room : Nat}
    (hroom : target.count + room = target.capacity) :
    target.Moved source moved (moveItems target source moved room) := by
  induction room generalizing target source moved with
  | zero => exact ⟨h, hsource, rfl, by dsimp only [moveItems]; omega, rfl, rfl, rfl, rfl⟩
  | succ room ih =>
    rw [moveItems_succ_eq]
    obtain ⟨hfull, _⟩ | ⟨_, _, hzero, hround⟩ | ⟨a, target', source', hgets, hgives, hround⟩ :=
      round_cases h hsource
    · omega
    · rw [hround]
      exact ⟨h, hsource, rfl, by dsimp only; omega, rfl, rfl, rfl, rfl⟩
    · rw [hround]
      exact .of_next hpacked hgets hgives
        (ih hgets.tidy (hgets.packed hpacked) hgives.tidy (moved + 1) (hgets.room hroom))

/-- Each round moves the next item, until there is no room or nothing left. -/
theorem rounds_eq (h : target.Tidy) (hsource : source.Tidy) {room : Nat}
    (hroom : target.count + room = target.capacity) :
    rounds target source (room + 1) = (source.snapshot.take room).map .moved ++
      [if source.count < room then .exhausted else .full] := by
  induction room generalizing target source with
  | zero =>
    have hround : round target source = (target, source, .full) := if_neg (by omega)
    rw [rounds, hround]
    rfl
  | succ room ih =>
    obtain ⟨hfull, _⟩ | ⟨_, hempty, hzero, hround⟩ | ⟨a, target', source', hgets, hgives, hround⟩ :=
      round_cases h hsource
    · omega
    · have hnone : source.snapshot = [] := hempty
      rw [rounds, hround, hnone, List.take_nil, if_pos (by omega)]
      rfl
    · have hitems : source.snapshot = a :: source'.snapshot := hgives.held
      rw [rounds, hround, hitems, hgives.count]
      dsimp only
      rw [ih hgets.tidy hgives.tidy (hgets.room hroom)]
      simp

/-! ### Moves out of any buffer -/

theorem tidy_of_new {capacity partitions : Nat} {b : Buffer α}
    (h : new capacity partitions = .ok b) : b.Tidy := by
  obtain rfl | hpositive := Nat.eq_zero_or_pos partitions
  · cases h
  · obtain ⟨b', hnew, htidy, _⟩ := tidy_new (α := α) capacity hpositive
    obtain rfl := Except.ok.inj (hnew.symm.trans h)
    exact htidy

/-- A new buffer has room for as many items as it has places. -/
theorem exists_moved {b : Buffer α} (hb : b.Tidy) (capacity : Nat) {partitions : Nat}
    (h : 0 < partitions) : ∃ target : Buffer α, new capacity partitions = .ok target ∧
      target.Tidy ∧ target.capacity = capacity ∧ target.count = 0 ∧ target.rejected = 0 ∧
      held target.partitions = [] ∧ target.Moved b 0 (moveItems target b 0 capacity) := by
  obtain ⟨target, hnew, htidy, hcapacity, hrejected, hempty⟩ := tidy_new (α := α) capacity h
  have hcount : target.count = 0 := by rw [htidy.count, hempty, List.length_nil]
  refine ⟨target, hnew, htidy, hcapacity, hcount, hrejected, hempty, ?_⟩
  exact moved_moveItems htidy (packed_of_held_eq_nil hempty) hb 0 (by omega)

/-- A buffer as it is made, empty, with items or by moving, and whatever it was asked for since. -/
inductive Reachable : Buffer α → Prop
  | new {capacity partitions : Nat} {b : Buffer α} (h : new capacity partitions = .ok b) :
      Reachable b
  | ofItems {capacity partitions : Nat} {as : List α} {b : Buffer α}
      (h : ofItems capacity partitions as = .ok b) : Reachable b
  | migrate {capacity partitions : Nat} {b : Buffer α} {m : Migration α} (hb : Reachable b)
      (h : migrate capacity partitions b = .ok m) : Reachable m.target
  | serve {b : Buffer α} (hb : Reachable b) (r : Request α) : Reachable (b.serve r).1

theorem Reachable.tidy {b : Buffer α} (h : b.Reachable) : b.Tidy := by
  induction h with
  | new h => exact tidy_of_new h
  | @ofItems capacity partitions as b h =>
    rw [Buffer.ofItems] at h
    cases hnew : Buffer.new (α := α) capacity partitions with
    | error e =>
      rw [hnew] at h
      cases h
    | ok start =>
      rw [hnew] at h
      obtain rfl := Except.ok.inj h
      exact (tidy_of_new hnew).addAll as
  | @migrate capacity partitions b m _ h ih =>
    obtain rfl | hpositive := Nat.eq_zero_or_pos partitions
    · cases h
    · obtain ⟨target, hnew, _, _, _, _, _, hmoved⟩ := exists_moved ih capacity hpositive
      rw [Buffer.migrate, hnew] at h
      obtain rfl := Except.ok.inj h
      exact hmoved.tidy
  | serve _ r ih => exact (books_serve _ r).tidy ih

theorem Reachable.serveAll {b : Buffer α} (h : b.Reachable) (rs : List (Request α)) :
    (b.serveAll rs).1.Reachable := by
  induction rs generalizing b with
  | nil => exact h
  | cons r rest ih => exact ih (h.serve r)

/-- All items are where they should be after a move into a new buffer of that capacity. -/
structure Migration.InOrder (m : Migration α) (capacity : Nat) (b : Buffer α) : Prop where
  items : m.target.snapshot ++ m.source.snapshot = b.snapshot
  length : m.target.snapshot.length = min capacity b.snapshot.length
  count : m.target.count = m.target.snapshot.length
  count_source : m.source.count = m.source.snapshot.length
  rejected : m.target.rejected = 0
  rejected_source : m.source.rejected = b.rejected
  /-- It is said how many were moved and how many are left, and never that one was lost. -/
  notices : m.notices = [.migrated m.target.count m.source.count]

theorem Moved.inOrder {b : Buffer α} {m : Migration α} (h : target.Moved b 0 m) (hb : b.Tidy)
    (hcount : target.count = 0) (hrejected : target.rejected = 0)
    (hempty : Buffer.held target.partitions = []) : m.InOrder target.capacity b := by
  have hitems := h.held
  have htotal := h.count
  have hnumber := h.moved
  rw [hempty, List.nil_append] at hitems
  refine ⟨hitems, ?_, h.tidy.count, h.tidy_source.count, h.rejected.trans hrejected,
    h.rejected_source, ?_⟩
  · have hmoved : m.target.snapshot.length = m.target.count := h.tidy.count.symm
    have hall : b.snapshot.length = b.count := hb.count.symm
    omega
  · have hmoved : m.moved = m.target.count := by omega
    rw [Migration.notices, h.lost, hmoved]
    rfl

/-- Moving out of a buffer loses no item, doubles none and keeps their order. In every round the next item
finds room, until there is no room or nothing left; none is ever handed back. Without partitions nothing
is moved. -/
theorem migration_in_order {b : Buffer α} (hb : b.Reachable) (capacity : Nat) :
    b.serve (.migrate capacity 0) = (b, .migrated (.error .noPartitions)) ∧
    ∀ partitions, 0 < partitions → ∃ target m, new capacity partitions = .ok target ∧
      migrate capacity partitions b = .ok m ∧ m.InOrder capacity b ∧
      b.serve (.migrate capacity partitions) = (m.source, .migrated (.ok m.target)) ∧
      rounds target b (capacity + 1) = (b.snapshot.take capacity).map .moved ++
        [if b.count < capacity then .exhausted else .full] := by
  refine ⟨rfl, fun partitions hpositive => ?_⟩
  obtain ⟨target, hnew, htidy, rfl, hcount, hrejected, hempty, hmoved⟩ :=
    exists_moved hb.tidy capacity hpositive
  have hmigrate : migrate target.capacity partitions b =
      .ok (moveItems target b 0 target.capacity) := by
    rw [migrate, hnew]
    rfl
  exact ⟨target, _, hnew, hmigrate, hmoved.inOrder hb.tidy hcount hrejected hempty,
    by rw [serve, hmigrate], rounds_eq htidy hb.tidy (by omega)⟩

/-- Two items left the first partition, which took another one in before the rest is moved. -/
def wornRequests : List (Request Nat) := [.addAll [1, 2, 3, 4, 5, 6], .take, .take, .add 7]

theorem migration_in_order_worn : ∃ start b : Buffer Nat, new 5 3 = .ok start ∧
    (start.serveAll wornRequests).1 = b ∧ b.Reachable ∧ b.snapshot = [7, 3, 4, 5] ∧ b.rejected = 1 ∧
    b.serve (.migrate 3 0) = (b, .migrated (.error .noPartitions)) ∧
    ∃ m, migrate 3 2 b = .ok m ∧ m.InOrder 3 b ∧ m.target.snapshot = [7, 3, 4] ∧
      m.source.snapshot = [5] ∧ m.source.rejected = 1 := by
  obtain ⟨start, hnew, _⟩ := tidy_new (α := Nat) 5 (show 0 < 3 by decide)
  have hb : (start.serveAll wornRequests).1.Reachable := (Reachable.new hnew).serveAll wornRequests
  obtain ⟨hnone, hmoves⟩ := migration_in_order hb 3
  obtain ⟨_, m, _, hmigrate, hm, _⟩ := hmoves 2 (by decide)
  obtain rfl := Except.ok.inj ((new_eq_ok 5 (by decide)).symm.trans hnew)
  obtain rfl := Except.ok.inj hmigrate
  exact ⟨_, _, hnew, rfl, hb, rfl, rfl, hnone, _, rfl, hm, rfl, rfl, rfl⟩

end Telemetry.Buffer
