import Telemetry.Buffer.Basic
import Mathlib.Algebra.GroupWithZero.Nat
import Mathlib.Data.List.Basic

/-!
# Partitions

The capacities of the partitions make up the capacity of the buffer. A partition never holds more
than it has room for, and an item is handed back only if all of them are full. Where items are only
added, they fill one partition after the other, so they are held in the order in which they came.
-/
namespace Telemetry.Buffer

variable {α : Type}

theorem sum_layout {size slots remaining : Nat} (h : remaining ≤ slots * size) :
    (layout size slots remaining).sum = remaining := by
  induction slots generalizing remaining with
  | zero =>
    rw [layout, List.sum_nil]
    omega
  | succ slots ih =>
    rw [layout]
    split_ifs with hr
    · rw [hr, List.sum_nil]
    · rw [Nat.succ_mul] at h
      rw [List.sum_cons, ih (by omega)]
      omega

theorem le_mul_share (capacity : Nat) {partitions : Nat} (h : 0 < partitions) :
    capacity ≤ partitions * share capacity partitions := by
  have hdiv := Nat.div_add_mod (capacity + partitions - 1) partitions
  have hmod := Nat.mod_lt (capacity + partitions - 1) h
  rw [share]
  omega

/-- Everything in the partitions, one after the other. -/
def held (ps : List (Partition α)) : List α := ps.flatMap (·.items)

/-- How many items the partitions have room for in all. -/
def room (ps : List (Partition α)) : Nat := (ps.map (·.capacity)).sum

def Bounded (ps : List (Partition α)) : Prop := ∀ p ∈ ps, p.items.length ≤ p.capacity

/-- Behind a partition that is not full nothing is held. -/
def Packed : List (Partition α) → Prop
  | [] => True
  | p :: ps => (p.items.length < p.capacity → held ps = []) ∧ Packed ps

@[simp] theorem held_nil : held ([] : List (Partition α)) = [] := rfl

theorem held_cons (p : Partition α) (ps : List (Partition α)) :
    held (p :: ps) = p.items ++ held ps := List.flatMap_cons

@[simp] theorem room_nil : room ([] : List (Partition α)) = 0 := rfl

theorem room_cons (p : Partition α) (ps : List (Partition α)) :
    room (p :: ps) = p.capacity + room ps := rfl

theorem bounded_cons {p : Partition α} {ps : List (Partition α)} :
    Bounded (p :: ps) ↔ p.items.length ≤ p.capacity ∧ Bounded ps := List.forall_mem_cons

theorem length_held_le {ps : List (Partition α)} (h : Bounded ps) :
    (held ps).length ≤ room ps := by
  induction ps with
  | nil => exact Nat.le_refl 0
  | cons p rest ih =>
    obtain ⟨hp, hrest⟩ := bounded_cons.mp h
    have hle := ih hrest
    rw [held_cons, room_cons, List.length_append]
    omega

theorem place_cons (a : α) (p : Partition α) (ps : List (Partition α)) :
    place a (p :: ps) = if p.items.length < p.capacity then
      some ({ p with items := p.items ++ [a] } :: ps) else (place a ps).map (p :: ·) := by
  rw [place]

theorem place_eq_none_iff {a : α} {ps : List (Partition α)} (h : Bounded ps) :
    place a ps = none ↔ (held ps).length = room ps := by
  induction ps with
  | nil => simp [place]
  | cons p rest ih =>
    obtain ⟨hp, hrest⟩ := bounded_cons.mp h
    have hle := length_held_le hrest
    rw [place_cons, held_cons, room_cons, List.length_append]
    split_ifs with hlt
    · simp only [false_iff]
      omega
    · rw [Option.map_eq_none_iff, ih hrest]
      omega

theorem bounded_place {a : α} {ps qs : List (Partition α)} (h : place a ps = some qs)
    (hb : Bounded ps) : Bounded qs := by
  induction ps generalizing qs with
  | nil => cases h
  | cons p rest ih =>
    obtain ⟨hp, hrest⟩ := bounded_cons.mp hb
    rw [place_cons] at h
    split_ifs at h with hlt
    · obtain rfl := Option.some.inj h
      rw [bounded_cons, List.length_append, List.length_singleton]
      exact ⟨hlt, hrest⟩
    · obtain ⟨rs, hrs, rfl⟩ := Option.map_eq_some_iff.mp h
      exact bounded_cons.mpr ⟨hp, ih hrs hrest⟩

theorem room_place {a : α} {ps qs : List (Partition α)} (h : place a ps = some qs) :
    room qs = room ps := by
  induction ps generalizing qs with
  | nil => cases h
  | cons p rest ih =>
    rw [place_cons] at h
    split_ifs at h with hlt
    · obtain rfl := Option.some.inj h
      rfl
    · obtain ⟨rs, hrs, rfl⟩ := Option.map_eq_some_iff.mp h
      rw [room_cons, room_cons, ih hrs]

theorem held_place {a : α} {ps qs : List (Partition α)} (h : place a ps = some qs)
    (hp : Packed ps) : held qs = held ps ++ [a] := by
  induction ps generalizing qs with
  | nil => cases h
  | cons p rest ih =>
    rw [place_cons] at h
    split_ifs at h with hlt
    · obtain rfl := Option.some.inj h
      rw [held_cons, held_cons, hp.1 hlt, List.append_nil, List.append_nil]
    · obtain ⟨rs, hrs, rfl⟩ := Option.map_eq_some_iff.mp h
      rw [held_cons, held_cons, ih hrs hp.2, List.append_assoc]

theorem packed_place {a : α} {ps qs : List (Partition α)} (h : place a ps = some qs)
    (hp : Packed ps) : Packed qs := by
  induction ps generalizing qs with
  | nil => cases h
  | cons p rest ih =>
    rw [place_cons] at h
    split_ifs at h with hlt
    · obtain rfl := Option.some.inj h
      exact ⟨fun _ => hp.1 hlt, hp.2⟩
    · obtain ⟨rs, hrs, rfl⟩ := Option.map_eq_some_iff.mp h
      exact ⟨fun hroom => absurd hroom hlt, ih hrs hp.2⟩

/-- The partitions with nothing in them. -/
def emptied (ps : List (Partition α)) : List (Partition α) := ps.map ({ · with items := [] })

theorem clear_eq (ps : List (Partition α)) (n : Nat) :
    clear ps n = (held ps, emptied ps, n - (held ps).length) := by
  induction ps generalizing n with
  | nil => rfl
  | cons p rest ih =>
    rw [clear, ih, held_cons, List.length_append, Nat.sub_add_eq]
    rfl

theorem held_emptied (ps : List (Partition α)) : held (emptied ps) = [] := by
  rw [held, emptied, List.flatMap_map]
  exact List.flatMap_eq_nil_iff.mpr fun _ _ => rfl

theorem room_emptied (ps : List (Partition α)) : room (emptied ps) = room ps := by
  rw [room, emptied, List.map_map]
  rfl

theorem bounded_emptied (ps : List (Partition α)) : Bounded (emptied ps) := by
  intro p hp
  obtain ⟨q, _, rfl⟩ := List.mem_map.mp hp
  exact Nat.zero_le _

theorem packed_of_held_eq_nil {ps : List (Partition α)} (h : held ps = []) : Packed ps := by
  induction ps with
  | nil => trivial
  | cons p rest ih =>
    rw [held_cons] at h
    have hrest := (List.append_eq_nil_iff.mp h).2
    exact ⟨fun _ => hrest, ih hrest⟩

end Telemetry.Buffer
