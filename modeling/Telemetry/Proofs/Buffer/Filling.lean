import Telemetry.Proofs.Buffer.Partitions
import Telemetry.Intake

/-!
# Filling a buffer

What a buffer holds is the first part of what it was offered since it was last emptied, as far as
its capacity goes; all the rest was rejected. This does not depend on how the capacity is divided.
-/
namespace Telemetry.Buffer

variable {α : Type}

/-- A buffer that was offered these items since it was last empty, when it had rejected as many
items as `earlier` says. -/
structure Stocked (b : Buffer α) (capacity earlier : Nat) (offered : List α) : Prop where
  bounded : Bounded b.partitions
  packed : Packed b.partitions
  room : room b.partitions = capacity
  count : b.count = (held b.partitions).length
  held : held b.partitions = offered.take capacity
  rejected : b.rejected = earlier + (offered.length - capacity)

theorem new_eq_ok (capacity : Nat) {partitions : Nat} (h : 0 < partitions) :
    (new capacity partitions : Except BufferError (Buffer α)) = .ok
      { partitions := (layout (share capacity partitions) partitions capacity).map (⟨·, []⟩)
        capacity := capacity
        count := 0
        rejected := 0 } :=
  if_neg (Nat.ne_of_gt h)

theorem held_map_empty (sizes : List Nat) :
    Buffer.held (sizes.map fun n => (⟨n, []⟩ : Partition α)) = [] := by
  rw [Buffer.held, List.flatMap_map]
  exact List.flatMap_eq_nil_iff.mpr fun _ _ => rfl

theorem room_map_empty (sizes : List Nat) :
    Buffer.room (sizes.map fun n => (⟨n, []⟩ : Partition α)) = sizes.sum := by
  rw [Buffer.room, List.map_map]
  exact congrArg List.sum (List.map_id sizes)

theorem stocked_new (capacity : Nat) {partitions : Nat} (h : 0 < partitions) :
    ∃ b : Buffer α, new capacity partitions = .ok b ∧ b.Stocked capacity 0 [] := by
  have hheld := held_map_empty (α := α) (layout (share capacity partitions) partitions capacity)
  refine ⟨_, new_eq_ok capacity h, ?_, packed_of_held_eq_nil hheld, ?_, ?_, ?_, ?_⟩
  · intro p hp
    obtain ⟨n, _, rfl⟩ := List.mem_map.mp hp
    exact Nat.zero_le n
  · rw [room_map_empty]
    exact sum_layout (le_mul_share capacity h)
  · rw [hheld]
    rfl
  · rw [hheld, List.take_nil]
  · simp

variable {b : Buffer α} {capacity earlier : Nat} {offered : List α}

theorem Stocked.length_held (h : b.Stocked capacity earlier offered) :
    (Buffer.held b.partitions).length = min capacity offered.length := by
  rw [h.held, List.length_take]

/-- As long as an item finds room, all items before it did. -/
theorem Stocked.add (h : b.Stocked capacity earlier offered) (a : α) :
    (b.add a).1.Stocked capacity earlier (offered ++ [a]) := by
  have hlength := h.length_held
  rw [Buffer.add]
  cases hplace : place a b.partitions with
  | none =>
    have hfull := (place_eq_none_iff h.bounded).mp hplace
    rw [h.room] at hfull
    refine ⟨h.bounded, h.packed, h.room, h.count, ?_, ?_⟩
    · rw [List.take_append_of_le_length (by omega)]
      exact h.held
    · have hrejected := h.rejected
      rw [List.length_append, List.length_singleton]
      dsimp only
      omega
  | some ps =>
    have hheld := held_place hplace h.packed
    have hle := length_held_le (bounded_place hplace h.bounded)
    rw [room_place hplace, h.room, hheld, List.length_append, List.length_singleton] at hle
    refine ⟨bounded_place hplace h.bounded, packed_place hplace h.packed, ?_, ?_, ?_, ?_⟩
    · exact (room_place hplace).trans h.room
    · dsimp only
      rw [hheld, List.length_append, h.count]
      rfl
    · dsimp only
      rw [hheld, h.held, List.take_of_length_le (by omega), List.take_of_length_le]
      rw [List.length_append, List.length_singleton]
      omega
    · have hrejected := h.rejected
      rw [List.length_append, List.length_singleton]
      dsimp only
      omega

theorem Stocked.offer (h : b.Stocked capacity earlier offered) (as : List α) :
    (b.offer as).Stocked capacity earlier (offered ++ as) := by
  induction as generalizing b offered with
  | nil =>
    rw [List.append_nil]
    exact h
  | cons a rest ih =>
    have hrest := ih (h.add a)
    rw [List.append_assoc] at hrest
    exact hrest

theorem drain_eq (b : Buffer α) :
    b.drain = ({ b with partitions := emptied b.partitions
                        count := b.count - (Buffer.held b.partitions).length },
      Buffer.held b.partitions) := by
  rw [drain, clear_eq]

theorem Stocked.drained (h : b.Stocked capacity earlier offered) :
    b.drain.2 = offered.take capacity := by
  rw [drain_eq]
  exact h.held

/-- A drained buffer starts anew, with all that it rejected before as earlier rejections. -/
theorem Stocked.drain (h : b.Stocked capacity earlier offered) :
    b.drain.1.Stocked capacity b.rejected [] := by
  have hheld := held_emptied b.partitions
  rw [drain_eq]
  refine ⟨bounded_emptied _, packed_of_held_eq_nil hheld, ?_, ?_, ?_, ?_⟩
  · exact (room_emptied _).trans h.room
  · dsimp only
    rw [hheld, h.count, Nat.sub_self]
    rfl
  · dsimp only
    rw [hheld, List.take_nil]
  · simp

end Telemetry.Buffer
