import Telemetry.Harvest.Station
import Telemetry.Proofs.Buffer.Filling
import Mathlib.Algebra.Order.Floor.Div

/-!
# Layouts

A capacity is laid out in partitions of one size, the least with which the wanted number of partitions
makes up the capacity. What does not fill a partition goes into one more, so only the last one may be
smaller, none is without room, and there may be fewer of them than were wanted.
-/
namespace Telemetry.Buffer

variable {α : Type} {size slots remaining : Nat}

theorem layout_zero (size slots : Nat) : layout size slots 0 = [] := by cases slots <;> rfl

/-- Partitions of the full size as far as they go, and one for the rest if there is any. -/
theorem layout_eq_replicate (hsize : 0 < size) (h : remaining ≤ slots * size) :
    layout size slots remaining = List.replicate (remaining / size) size ++
      if remaining % size = 0 then [] else [remaining % size] := by
  induction slots generalizing remaining with
  | zero =>
    obtain rfl : remaining = 0 := by omega
    rw [layout_zero, Nat.zero_div, Nat.zero_mod, if_pos rfl]
    rfl
  | succ slots ih =>
    rw [Nat.succ_mul] at h
    by_cases hzero : remaining = 0
    · rw [hzero, layout_zero, Nat.zero_div, Nat.zero_mod, if_pos rfl]
      rfl
    rw [layout, if_neg hzero]
    rcases Nat.lt_or_ge remaining size with hlt | hge
    · rw [Nat.min_eq_left hlt.le, Nat.sub_self, layout_zero, Nat.div_eq_of_lt hlt,
        Nat.mod_eq_of_lt hlt, if_neg hzero]
      rfl
    · rw [Nat.min_eq_right hge, ih (by omega), Nat.div_eq_sub_div hsize hge,
        Nat.mod_eq_sub_mod hge, List.replicate_succ, List.cons_append]

theorem length_layout (hsize : 0 < size) (h : remaining ≤ slots * size) :
    (layout size slots remaining).length = remaining ⌈/⌉ size := by
  have hdiv := Nat.div_add_mod remaining size
  rw [layout_eq_replicate hsize h, List.length_append, List.length_replicate]
  split_ifs with hrest
  · rw [hrest, Nat.add_zero] at hdiv
    calc remaining / size + 0 = (size • (remaining / size)) ⌈/⌉ size :=
          (smul_ceilDiv hsize (remaining / size)).symm
      _ = remaining ⌈/⌉ size := by rw [smul_eq_mul, hdiv]
  · have hmod := Nat.mod_lt remaining hsize
    have hless : remaining % size - 1 < size := by omega
    have hnext : remaining + size - 1 = remaining % size - 1 + size * (remaining / size + 1) := by
      rw [Nat.mul_succ]
      omega
    rw [Nat.ceilDiv_eq_add_pred_div, hnext, Nat.add_mul_div_left _ _ hsize,
      Nat.div_eq_of_lt hless, Nat.zero_add]
    rfl

theorem mem_layout (hsize : 0 < size) (h : remaining ≤ slots * size) {n : Nat}
    (hn : n ∈ layout size slots remaining) : 0 < n ∧ n ≤ size := by
  rw [layout_eq_replicate hsize h] at hn
  rcases List.mem_append.mp hn with hfull | hlast
  · obtain rfl := List.eq_of_mem_replicate hfull
    exact ⟨hsize, le_rfl⟩
  · split_ifs at hlast with hrest
    · cases hlast
    · obtain rfl := List.mem_singleton.mp hlast
      exact ⟨Nat.pos_of_ne_zero hrest, (Nat.mod_lt remaining hsize).le⟩

theorem mem_dropLast_layout (hsize : 0 < size) (h : remaining ≤ slots * size) {n : Nat}
    (hn : n ∈ (layout size slots remaining).dropLast) : n = size := by
  rw [layout_eq_replicate hsize h] at hn
  split_ifs at hn with hrest
  · rw [List.append_nil] at hn
    exact List.eq_of_mem_replicate (List.mem_of_mem_dropLast hn)
  · rw [List.dropLast_concat] at hn
    exact List.eq_of_mem_replicate hn

/-- These are the capacities of so many partitions at most that make up a capacity. -/
structure LaidOut (capacity partitions : Nat) (sizes : List Nat) : Prop where
  positive : ∀ n ∈ sizes, 0 < n
  total : sizes.sum = capacity
  full : ∀ n ∈ sizes.dropLast, n = capacity ⌈/⌉ partitions
  last : ∀ n ∈ sizes.getLast?, n ≤ capacity ⌈/⌉ partitions
  length : sizes.length = capacity ⌈/⌉ (capacity ⌈/⌉ partitions)
  length_le : sizes.length ≤ partitions
  eq_nil_iff : sizes = [] ↔ capacity = 0

theorem laidOut_layout (capacity : Nat) {partitions : Nat} (h : 0 < partitions) :
    LaidOut capacity partitions (layout (share capacity partitions) partitions capacity) := by
  rcases Nat.eq_zero_or_pos capacity with rfl | hcapacity
  · rw [layout_zero]
    exact ⟨by simp, rfl, by simp, by simp, by simp, h.le, by simp⟩
  · have hle := le_mul_share capacity h
    have hsize : 0 < share capacity partitions := Nat.pos_of_mul_pos_left (hcapacity.trans_le hle)
    have hlength := length_layout hsize hle
    refine ⟨fun n hn => (mem_layout hsize hle hn).1, sum_layout hle,
      fun n hn => mem_dropLast_layout hsize hle hn,
      fun n hn => (mem_layout hsize hle (List.mem_of_getLast? hn)).2, hlength, ?_, ?_⟩
    · rw [hlength, ceilDiv_le_iff_le_mul hsize, Nat.mul_comm]
      exact hle
    · rw [← List.length_eq_zero_iff, hlength, ← Nat.le_zero, ceilDiv_le_iff_le_mul hsize,
        Nat.mul_zero, Nat.le_zero]

theorem granted_of_le {β : Type} {partitions : Nat} (h : partitions ≤ greatestPartitions)
    (made : Except BufferError β) : granted partitions made = made.mapError .refused :=
  if_neg (Nat.not_lt.mpr h)

theorem granted_of_lt {β : Type} {partitions : Nat} (h : greatestPartitions < partitions)
    (made : Except BufferError β) : granted partitions made = .error .overflow := if_pos h

/-- Room that is asked for twice is there twice or not at all. -/
theorem granted_bind {β γ : Type} (partitions : Nat) (made : Except BufferError β)
    (next : β → Except BufferError γ) :
    (granted partitions made >>= fun b => granted partitions (next b)) =
      granted partitions (made >>= next) := by
  rcases Nat.lt_or_ge greatestPartitions partitions with hlt | hle
  · rw [granted_of_lt hlt, granted_of_lt hlt]
    rfl
  · simp only [granted_of_le hle]
    cases made <;> rfl

theorem granted_map {β γ : Type} (partitions : Nat) (made : Except BufferError β) (f : β → γ) :
    (granted partitions made).map f = granted partitions (made.map f) := by
  rw [granted, granted]
  split_ifs
  · rfl
  · cases made <;> rfl

theorem granted_bind_pure {β γ : Type} (partitions : Nat) (made : Except BufferError β) (f : β → γ) :
    (granted partitions made >>= fun b => pure (f b)) =
      granted partitions (made >>= fun b => pure (f b)) := by
  rw [granted, granted]
  split_ifs
  · rfl
  · cases made <;> rfl

/-- Whatever capacity is laid out in whatever number of partitions, these make it up exactly, each with
some of it. A buffer gets them if there is room for the list of all that were wanted; where there cannot
be, laying out is never begun. -/
theorem build_lays_out (capacity : Nat) {partitions : Nat} (h : 0 < partitions) :
    let sizes := layout (share capacity partitions) partitions capacity
    LaidOut capacity partitions sizes ∧
      (partitions ≤ greatestPartitions → ∃ b : Buffer α, build capacity partitions = .ok b ∧
        b.capacity = capacity ∧ b.partitions.map (·.capacity) = sizes) ∧
      (greatestPartitions < partitions →
        (build capacity partitions : Except BuildFault (Buffer α)) = .error .overflow) := by
  refine ⟨laidOut_layout capacity h, fun hle => ?_, fun hlt => granted_of_lt hlt _⟩
  have hbuild : (build capacity partitions : Except BuildFault (Buffer α)) = .ok
      { partitions := (layout (share capacity partitions) partitions capacity).map (⟨·, []⟩)
        capacity := capacity
        count := 0
        rejected := 0 } := by
    rw [build, granted_of_le hle, new_eq_ok capacity h]
    rfl
  exact ⟨_, hbuild, rfl, List.map_map.trans (List.map_id _)⟩

/-- Six partitions are wanted and five make up the capacity. As many as a machine word can say make it
up as well, but no list is that long. -/
theorem build_lays_out_fewer : 0 < 6 ∧ LaidOut 9 6 [2, 2, 2, 2, 1] ∧
    (∃ b : Buffer Nat, build 9 6 = .ok b ∧ b.partitions.map (·.capacity) = [2, 2, 2, 2, 1]) ∧
    (build 9 18446744073709551615 : Except BuildFault (Buffer Nat)) = .error .overflow := by
  obtain ⟨hlaidOut, hroom, _⟩ := build_lays_out (α := Nat) 9 (show 0 < 6 by decide)
  obtain ⟨b, hbuild, _, hsizes⟩ := hroom (by decide)
  obtain ⟨_, _, hnoRoom⟩ := build_lays_out (α := Nat) 9 (show 0 < 18446744073709551615 by decide)
  exact ⟨by decide, hlaidOut, ⟨b, hbuild, hsizes⟩, hnoRoom (by decide)⟩

end Telemetry.Buffer

namespace Telemetry

open Buffer (granted granted_bind granted_bind_pure granted_map)

/-- All buffers have the same number of partitions, so there is room for all of them or for none. -/
theorem RecordBuffers.build_eq_granted (s : BufferSizes) :
    RecordBuffers.build s = granted s.partitions (RecordBuffers.ofSizes s) := by
  simp only [RecordBuffers.build, Buffer.build, granted_bind_pure, granted_bind]
  rfl

theorem Station.build_eq_granted (s : BufferSizes) :
    Station.build s = granted s.partitions (Station.ofSizes s) := by
  rw [Station.build, Intake.build, RecordBuffers.build_eq_granted, granted_map, granted_map]
  rfl

end Telemetry
