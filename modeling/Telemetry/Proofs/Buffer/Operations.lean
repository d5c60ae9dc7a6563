import Telemetry.Buffer.Migration
import Telemetry.Proofs.Buffer.Movements

/-!
# Movements of single operations

For each operation of a buffer the movements that it makes, in their order. They explain how the
partitions have changed, and the counter and the capacity still agree with the partitions afterwards.
-/
namespace Telemetry.Buffer

variable {α : Type}

/-- The counter and the capacity of a buffer agree with its partitions. -/
structure Tidy (b : Buffer α) : Prop where
  bounded : Bounded b.partitions
  count : b.count = (held b.partitions).length
  room : room b.partitions = b.capacity

theorem tidy_new (capacity : Nat) {partitions : Nat} (h : 0 < partitions) :
    ∃ b : Buffer α, new capacity partitions = .ok b ∧ b.Tidy ∧ b.capacity = capacity ∧
      b.rejected = 0 ∧ held b.partitions = [] := by
  obtain ⟨b, hb, hstocked⟩ := stocked_new (α := α) capacity h
  have hfields : b.capacity = capacity ∧ b.rejected = 0 := by
    rw [new_eq_ok capacity h] at hb
    obtain rfl := Except.ok.inj hb
    exact ⟨rfl, rfl⟩
  exact ⟨b, hb, ⟨hstocked.bounded, hstocked.count, hstocked.room.trans hfields.1.symm⟩,
    hfields.1, hfields.2, hstocked.held.trans List.take_nil⟩

variable {b : Buffer α}

theorem Tidy.count_le (h : b.Tidy) : b.count ≤ b.capacity := by
  rw [h.count, ← h.room]
  exact length_held_le h.bounded

/-- An item is handed back exactly if the buffer is full. -/
theorem Tidy.place_eq_none_iff (h : b.Tidy) (a : α) :
    place a b.partitions = none ↔ b.count = b.capacity := by
  rw [Buffer.place_eq_none_iff h.bounded, h.room, h.count]

/-- The movement of an item that is added. -/
def addLog (b : Buffer α) (a : α) : List (Movement α) :=
  ((roomAt? b.partitions).map (.entered · a)).toList

theorem explains_add (b : Buffer α) (a : α) : b.Explains (b.addLog a) (b.add a).1 := by
  cases hplace : place a b.partitions with
  | none =>
    rw [add_of_full hplace, addLog, roomAt?_eq_none hplace]
    exact ⟨(Explains.refl b).items, rfl, fun _ _ h => nomatch h⟩
  | some ps =>
    obtain ⟨i, hroom, hlt, hitems⟩ := place_cases hplace
    rw [add_of_place hplace, addLog, hroom]
    refine ⟨fun j => ?_, capacities_place hplace, fun j c hmem => ?_⟩
    · rw [hitems j]
      by_cases hj : j = i
      · simp [leftAt, enteredAt, Movement.leftAt?, Movement.enteredAt?, hj]
      · simp [leftAt, enteredAt, Movement.leftAt?, Movement.enteredAt?, hj, Ne.symm hj]
    · obtain rfl : j = i := by simpa using (And.left (by simpa using hmem))
      exact hlt

theorem Tidy.add (h : b.Tidy) (a : α) : (b.add a).1.Tidy := by
  cases hplace : place a b.partitions with
  | none =>
    rw [add_of_full hplace]
    exact ⟨h.bounded, h.count, h.room⟩
  | some ps =>
    have hlength := (held_place_perm hplace).length_eq
    rw [add_of_place hplace]
    exact ⟨bounded_place hplace h.bounded, by rw [hlength, List.length_cons, h.count],
      (room_place hplace).trans h.room⟩

theorem take_of_pick {a : α} {ps : List (Partition α)} (h : pick b.partitions = some (a, ps)) :
    b.take = ({ b with partitions := ps, count := b.count - 1 }, some a) := by
  rw [take, h]

theorem take_of_empty (h : pick b.partitions = none) : b.take = (b, none) := by
  rw [take, h]

/-- The movement of the item that is taken. -/
def takeLog (b : Buffer α) : List (Movement α) :=
  (b.take.2.bind fun a => (stockAt? b.partitions).map (.left · a)).toList

theorem explains_take (b : Buffer α) : b.Explains b.takeLog b.take.1 := by
  cases hpick : pick b.partitions with
  | none =>
    rw [takeLog, take_of_empty hpick]
    exact Explains.refl b
  | some r =>
    obtain ⟨a, ps⟩ := r
    obtain ⟨i, hstock, _, hitems⟩ := pick_cases hpick
    rw [takeLog, take_of_pick hpick, hstock]
    refine ⟨fun j => ?_, capacities_pick hpick, fun j c hmem => by simp at hmem⟩
    rw [hitems j]
    by_cases hj : j = i
    · simp [leftAt, enteredAt, Movement.leftAt?, Movement.enteredAt?, hj]
    · simp [leftAt, enteredAt, Movement.leftAt?, Movement.enteredAt?, hj, Ne.symm hj]

theorem Tidy.take (h : b.Tidy) : b.take.1.Tidy := by
  cases hpick : pick b.partitions with
  | none =>
    rw [take_of_empty hpick]
    exact h
  | some r =>
    obtain ⟨a, ps⟩ := r
    obtain ⟨_, _, hheld, _⟩ := pick_cases hpick
    have hcount := h.count
    rw [hheld, List.length_cons] at hcount
    rw [take_of_pick hpick]
    refine ⟨bounded_pick hpick h.bounded, ?_, (room_of_capacities (capacities_pick hpick)).trans h.room⟩
    dsimp only
    omega

theorem take_only_releases (b : Buffer α) :
    b.take.1.capacity = b.capacity ∧ b.take.1.rejected = b.rejected ∧ entered b.takeLog = [] ∧
      left b.takeLog = b.take.2.toList := by
  cases hpick : pick b.partitions with
  | none =>
    rw [takeLog, take_of_empty hpick]
    exact ⟨rfl, rfl, rfl, rfl⟩
  | some r =>
    obtain ⟨a, ps⟩ := r
    obtain ⟨i, hstock, _, _⟩ := pick_cases hpick
    rw [takeLog, take_of_pick hpick, hstock]
    exact ⟨rfl, rfl, rfl, rfl⟩

/-- The movements of all items when the partitions from a position on are emptied one after the other. -/
def clearLog : Nat → List (Partition α) → List (Movement α)
  | _, [] => []
  | i, p :: ps => p.items.map (.left i) ++ clearLog (i + 1) ps

def drainLog (b : Buffer α) : List (Movement α) := clearLog 0 b.partitions

theorem enteredAt_clearLog (i n : Nat) (ps : List (Partition α)) :
    enteredAt i (clearLog n ps) = [] := by
  induction ps generalizing n with
  | nil => rfl
  | cons p rest ih =>
    have hhead : (p.items.map (Movement.left n)).filterMap (Movement.enteredAt? i) = [] := by
      simp [Movement.enteredAt?]
    rw [clearLog, enteredAt_append, ih, List.append_nil]
    exact hhead

theorem leftAt_clearLog (i n : Nat) (ps : List (Partition α)) :
    leftAt i (clearLog n ps) = if n ≤ i then itemsAt ps (i - n) else [] := by
  induction ps generalizing n with
  | nil => simp [leftAt, clearLog]
  | cons p rest ih =>
    have hhead : leftAt i (p.items.map (Movement.left n)) = if n = i then p.items else [] := by
      by_cases hn : n = i <;> simp [leftAt, Function.comp_def, Movement.leftAt?, hn]
    rw [clearLog, leftAt_append, hhead, ih]
    obtain hlt | rfl | hgt := Nat.lt_trichotomy n i
    · rw [if_neg (by omega), if_pos (by omega), if_pos (by omega),
        show i - n = (i - (n + 1)) + 1 by omega, itemsAt_cons_succ, List.nil_append]
    · rw [if_pos rfl, if_neg (by omega), if_pos (Nat.le_refl n), Nat.sub_self, List.append_nil]
      rfl
    · rw [if_neg (by omega), if_neg (by omega), if_neg (by omega), List.nil_append]

theorem clearLog_only_releases (n : Nat) (ps : List (Partition α)) :
    entered (clearLog n ps) = [] ∧ left (clearLog n ps) = held ps := by
  induction ps generalizing n with
  | nil => exact ⟨rfl, rfl⟩
  | cons p rest ih =>
    obtain ⟨hentered, hleft⟩ := ih (n + 1)
    have hhead : entered (p.items.map (Movement.left n)) = [] ∧
        left (p.items.map (Movement.left n)) = p.items := by
      simp [entered, left, Function.comp_def, Movement.entered?, Movement.left?]
    rw [clearLog, entered_append, left_append, hentered, hleft, hhead.1, hhead.2, held_cons]
    exact ⟨rfl, rfl⟩

theorem explains_drain (b : Buffer α) : b.Explains b.drainLog b.drain.1 := by
  rw [drain_eq]
  refine ⟨fun i => ?_, ?_, fun i a hmem => ?_⟩
  · rw [drainLog, leftAt_clearLog, enteredAt_clearLog, itemsAt_emptied, if_pos (Nat.zero_le i),
      Nat.sub_zero]
  · rw [emptied, List.map_map]
    rfl
  · have hentered : a ∈ enteredAt i b.drainLog :=
      List.mem_filterMap.mpr ⟨.entered i a, hmem, if_pos rfl⟩
    rw [drainLog, enteredAt_clearLog] at hentered
    cases hentered

theorem Tidy.drain (h : b.Tidy) : b.drain.1.Tidy := by
  rw [drain_eq]
  refine ⟨bounded_emptied _, ?_, (room_emptied _).trans h.room⟩
  dsimp only
  rw [held_emptied, h.count, Nat.sub_self]
  rfl

/-- The movements of the items that are added one after the other, until one is handed back. -/
def addAllLog (b : Buffer α) : List α → List (Movement α)
  | [] => []
  | a :: as =>
    b.addLog a ++
      match b.add a with
      | (b, none) => b.addAllLog as
      | (_, some _) => []

theorem addAll_cons_of_place {a : α} {as : List α} {ps : List (Partition α)}
    (h : place a b.partitions = some ps) :
    b.addAll (a :: as) = (((b.add a).1.addAll as).1, ((b.add a).1.addAll as).2 + 1) ∧
      b.addAllLog (a :: as) = b.addLog a ++ (b.add a).1.addAllLog as := by
  rw [addAll, addAllLog, add_of_place h]
  exact ⟨rfl, rfl⟩

theorem addAll_cons_of_full {a : α} {as : List α} (h : place a b.partitions = none) :
    b.addAll (a :: as) = ((b.add a).1, 0) ∧ b.addAllLog (a :: as) = [] := by
  rw [addAll, addAllLog, add_of_full h, addLog, roomAt?_eq_none h]
  exact ⟨rfl, rfl⟩

theorem explains_addAll (b : Buffer α) (as : List α) :
    b.Explains (b.addAllLog as) (b.addAll as).1 := by
  induction as generalizing b with
  | nil => exact Explains.refl b
  | cons a rest ih =>
    cases hplace : place a b.partitions with
    | none =>
      have hadd := explains_add b a
      rw [addLog, roomAt?_eq_none hplace] at hadd
      rw [(addAll_cons_of_full hplace).1, (addAll_cons_of_full hplace).2]
      exact hadd
    | some ps =>
      rw [(addAll_cons_of_place hplace).1, (addAll_cons_of_place hplace).2]
      exact (explains_add b a).trans (ih (b.add a).1)

theorem Tidy.addAll (h : b.Tidy) (as : List α) : (b.addAll as).1.Tidy := by
  induction as generalizing b with
  | nil => exact h
  | cons a rest ih =>
    cases hplace : place a b.partitions with
    | none =>
      rw [(addAll_cons_of_full hplace).1]
      exact h.add a
    | some ps =>
      rw [(addAll_cons_of_place hplace).1]
      exact ih (h.add a)

theorem entered_addAllLog (b : Buffer α) (as : List α) :
    entered (b.addAllLog as) = as.take (b.addAll as).2 := by
  induction as generalizing b with
  | nil => rfl
  | cons a rest ih =>
    cases hplace : place a b.partitions with
    | none =>
      rw [(addAll_cons_of_full hplace).1, (addAll_cons_of_full hplace).2]
      rfl
    | some ps =>
      obtain ⟨i, hroom, _, _⟩ := place_cases hplace
      rw [(addAll_cons_of_place hplace).1, (addAll_cons_of_place hplace).2, entered_append, ih,
        addLog, hroom]
      rfl

theorem rejected_addAll (b : Buffer α) (as : List α) :
    (b.addAll as).1.rejected = b.rejected + if (b.addAll as).2 < as.length then 1 else 0 := by
  induction as generalizing b with
  | nil => rfl
  | cons a rest ih =>
    cases hplace : place a b.partitions with
    | none =>
      rw [(addAll_cons_of_full hplace).1, add_of_full hplace]
      simp
    | some ps =>
      rw [(addAll_cons_of_place hplace).1, ih, add_of_place hplace]
      simp

theorem addAll_only_accepts (b : Buffer α) (as : List α) :
    (b.addAll as).1.capacity = b.capacity ∧ left (b.addAllLog as) = [] := by
  induction as generalizing b with
  | nil => exact ⟨rfl, rfl⟩
  | cons a rest ih =>
    cases hplace : place a b.partitions with
    | none =>
      rw [(addAll_cons_of_full hplace).1, (addAll_cons_of_full hplace).2, add_of_full hplace]
      exact ⟨rfl, rfl⟩
    | some ps =>
      obtain ⟨i, hroom, _, _⟩ := place_cases hplace
      obtain ⟨hcapacity, hleft⟩ := ih (b.add a).1
      rw [(addAll_cons_of_place hplace).1, (addAll_cons_of_place hplace).2, left_append, hleft,
        addLog, hroom]
      refine ⟨hcapacity.trans ?_, rfl⟩
      rw [add_of_place hplace]

/-- The buffer after a number of items were taken, one after the other. -/
def takes (b : Buffer α) : Nat → Buffer α
  | 0 => b
  | n + 1 => b.take.1.takes n

def takesLog (b : Buffer α) : Nat → List (Movement α)
  | 0 => []
  | n + 1 => b.takeLog ++ b.take.1.takesLog n

theorem explains_takes (b : Buffer α) (n : Nat) : b.Explains (b.takesLog n) (b.takes n) := by
  induction n generalizing b with
  | zero => exact Explains.refl b
  | succ n ih => exact (explains_take b).trans (ih b.take.1)

theorem Tidy.takes (h : b.Tidy) (n : Nat) : (b.takes n).Tidy := by
  induction n generalizing b with
  | zero => exact h
  | succ n ih => exact ih h.take

theorem takes_only_releases (b : Buffer α) (n : Nat) :
    (b.takes n).capacity = b.capacity ∧ (b.takes n).rejected = b.rejected ∧
      entered (b.takesLog n) = [] := by
  induction n generalizing b with
  | zero => exact ⟨rfl, rfl, rfl⟩
  | succ n ih =>
    obtain ⟨hcapacity, hrejected, hentered, _⟩ := take_only_releases b
    obtain ⟨hcapacity', hrejected', hentered'⟩ := ih b.take.1
    refine ⟨hcapacity'.trans hcapacity, hrejected'.trans hrejected, ?_⟩
    rw [takesLog, entered_append, hentered, hentered']
    rfl

theorem moveItems_succ {target source : Buffer α} {a : α} {ps qs : List (Partition α)}
    (hroom : target.count < target.capacity) (hpick : pick source.partitions = some (a, ps))
    (hplace : place a target.partitions = some qs) (moved fuel : Nat) :
    moveItems target source moved (fuel + 1) =
      moveItems (target.add a).1 source.take.1 (moved + 1) fuel := by
  rw [moveItems, if_pos hroom, take_of_pick hpick]
  dsimp only
  rw [add_of_place hplace]

/-- Items are moved by taking them one after the other; the new buffer holds them in that order, and
none is lost. -/
theorem moveItems_eq {target : Buffer α} (htidy : target.Tidy)
    (hpacked : Packed target.partitions) (source : Buffer α) (moved fuel : Nat) :
    let m := moveItems target source moved fuel
    ∃ n, m.moved = moved + n ∧ m.source = source.takes n ∧ m.lost = none ∧
      held m.target.partitions = held target.partitions ++ left (source.takesLog n) := by
  induction fuel generalizing target source moved with
  | zero => exact ⟨0, rfl, rfl, rfl, (List.append_nil _).symm⟩
  | succ fuel ih =>
    by_cases hroom : target.count < target.capacity
    · cases hpick : pick source.partitions with
      | none =>
        rw [moveItems, if_pos hroom, take_of_empty hpick]
        exact ⟨0, rfl, rfl, rfl, (List.append_nil _).symm⟩
      | some r =>
        obtain ⟨a, ps⟩ := r
        have hsome : place a target.partitions ≠ none := fun hnone =>
          absurd ((htidy.place_eq_none_iff a).mp hnone) (Nat.ne_of_lt hroom)
        obtain ⟨qs, hplace⟩ := Option.ne_none_iff_exists'.mp hsome
        have hpacked' : Packed (target.add a).1.partitions := by
          rw [add_of_place hplace]
          exact packed_place hplace hpacked
        have hheld : held (target.add a).1.partitions = held target.partitions ++ [a] := by
          rw [add_of_place hplace]
          exact held_place hplace hpacked
        obtain ⟨n, hmoved, hsource, hlost, hitems⟩ :=
          ih (htidy.add a) hpacked' source.take.1 (moved + 1)
        rw [moveItems_succ hroom hpick hplace]
        refine ⟨n + 1, by omega, hsource, hlost, ?_⟩
        rw [hitems, hheld, List.append_assoc, takesLog, left_append, (take_only_releases source).2.2.2,
          take_of_pick hpick]
        rfl
    · rw [moveItems, if_neg hroom]
      exact ⟨0, rfl, rfl, rfl, (List.append_nil _).symm⟩

end Telemetry.Buffer
