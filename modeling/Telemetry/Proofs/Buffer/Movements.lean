import Telemetry.Proofs.Buffer.Filling

/-!
# Movements of items

Every item enters a partition at its end and leaves it at its front. A log of such movements explains
how one state of a buffer became another: in each partition, what left it followed by what it holds
now is what it held before followed by what entered it.
-/
namespace Telemetry.Buffer

variable {α : Type}

/-- What happens to an item, with the position of the partition. -/
inductive Movement (α : Type)
  | entered (position : Nat) (a : α)
  | left (position : Nat) (a : α)

namespace Movement

def entered? : Movement α → Option α
  | entered _ a => some a
  | left _ _ => none

def left? : Movement α → Option α
  | entered _ _ => none
  | left _ a => some a

def enteredAt? (i : Nat) : Movement α → Option α
  | entered j a => if j = i then some a else none
  | left _ _ => none

def leftAt? (i : Nat) : Movement α → Option α
  | entered _ _ => none
  | left j a => if j = i then some a else none

end Movement

/-- All items that entered a partition, in their order. -/
def entered (log : List (Movement α)) : List α := log.filterMap Movement.entered?

/-- All items that left a partition, in their order. -/
def left (log : List (Movement α)) : List α := log.filterMap Movement.left?

/-- The items that entered the partition at a position, in their order. -/
def enteredAt (i : Nat) (log : List (Movement α)) : List α := log.filterMap (Movement.enteredAt? i)

/-- The items that left the partition at a position, in their order. -/
def leftAt (i : Nat) (log : List (Movement α)) : List α := log.filterMap (Movement.leftAt? i)

theorem entered_append (log log' : List (Movement α)) :
    entered (log ++ log') = entered log ++ entered log' := List.filterMap_append

theorem left_append (log log' : List (Movement α)) :
    left (log ++ log') = left log ++ left log' := List.filterMap_append

theorem enteredAt_append (i : Nat) (log log' : List (Movement α)) :
    enteredAt i (log ++ log') = enteredAt i log ++ enteredAt i log' := List.filterMap_append

theorem leftAt_append (i : Nat) (log log' : List (Movement α)) :
    leftAt i (log ++ log') = leftAt i log ++ leftAt i log' := List.filterMap_append

/-- What the partition at a position holds. -/
def itemsAt (ps : List (Partition α)) (i : Nat) : List α := (ps[i]?.map (·.items)).getD []

@[simp] theorem itemsAt_nil (i : Nat) : itemsAt ([] : List (Partition α)) i = [] := rfl

@[simp] theorem itemsAt_cons_zero (p : Partition α) (ps : List (Partition α)) :
    itemsAt (p :: ps) 0 = p.items := rfl

@[simp] theorem itemsAt_cons_succ (p : Partition α) (ps : List (Partition α)) (i : Nat) :
    itemsAt (p :: ps) (i + 1) = itemsAt ps i := by
  simp [itemsAt]

theorem itemsAt_of_held_eq_nil {ps : List (Partition α)} (h : held ps = []) (i : Nat) :
    itemsAt ps i = [] := by
  cases hp : ps[i]? with
  | none => rw [itemsAt, hp]; rfl
  | some p =>
    rw [itemsAt, hp]
    exact List.flatMap_eq_nil_iff.mp h p (List.mem_of_getElem? hp)

theorem itemsAt_emptied (ps : List (Partition α)) (i : Nat) : itemsAt (emptied ps) i = [] :=
  itemsAt_of_held_eq_nil (held_emptied ps) i

/-- The first partition that has room. -/
def roomAt? (ps : List (Partition α)) : Option Nat :=
  ps.findIdx? fun p => decide (p.items.length < p.capacity)

/-- The first partition that holds anything. -/
def stockAt? (ps : List (Partition α)) : Option Nat := ps.findIdx? fun p => !p.items.isEmpty

theorem place_cases {a : α} {ps qs : List (Partition α)} (h : place a ps = some qs) :
    ∃ i, roomAt? ps = some i ∧ i < ps.length ∧
      ∀ j, itemsAt qs j = if j = i then itemsAt ps j ++ [a] else itemsAt ps j := by
  induction ps generalizing qs with
  | nil => cases h
  | cons p rest ih =>
    rw [place_cons] at h
    split_ifs at h with hlt
    · obtain rfl := Option.some.inj h
      refine ⟨0, by simp [roomAt?, List.findIdx?_cons, hlt], Nat.zero_lt_succ _, fun j => ?_⟩
      cases j <;> simp
    · obtain ⟨rs, hrs, rfl⟩ := Option.map_eq_some_iff.mp h
      obtain ⟨i, hi, hlength, hitems⟩ := ih hrs
      have hroom : roomAt? (p :: rest) = (roomAt? rest).map (· + 1) := by
        simp [roomAt?, List.findIdx?_cons, hlt]
      refine ⟨i + 1, by rw [hroom, hi]; rfl, Nat.succ_lt_succ hlength, fun j => ?_⟩
      cases j with
      | zero => simp
      | succ j => simpa using hitems j

theorem roomAt?_eq_none {a : α} {ps : List (Partition α)} (h : place a ps = none) :
    roomAt? ps = none := by
  induction ps with
  | nil => rfl
  | cons p rest ih =>
    rw [place_cons] at h
    split_ifs at h with hlt
    have hrest := ih (Option.map_eq_none_iff.mp h)
    simpa [roomAt?, List.findIdx?_cons, hlt] using hrest

theorem capacities_place {a : α} {ps qs : List (Partition α)} (h : place a ps = some qs) :
    qs.map (·.capacity) = ps.map (·.capacity) := by
  induction ps generalizing qs with
  | nil => cases h
  | cons p rest ih =>
    rw [place_cons] at h
    split_ifs at h with hlt
    · obtain rfl := Option.some.inj h
      rfl
    · obtain ⟨rs, hrs, rfl⟩ := Option.map_eq_some_iff.mp h
      rw [List.map_cons, List.map_cons, ih hrs]

theorem held_place_perm {a : α} {ps qs : List (Partition α)} (h : place a ps = some qs) :
    (held qs).Perm (a :: held ps) := by
  induction ps generalizing qs with
  | nil => cases h
  | cons p rest ih =>
    rw [place_cons] at h
    split_ifs at h with hlt
    · obtain rfl := Option.some.inj h
      rw [held_cons, held_cons, List.append_assoc]
      exact List.perm_middle
    · obtain ⟨rs, hrs, rfl⟩ := Option.map_eq_some_iff.mp h
      rw [held_cons, held_cons]
      exact ((ih hrs).append_left p.items).trans List.perm_middle

/-- An item is taken from the front of the first partition that holds any; it comes before all that
is held afterwards. -/
theorem pick_cases {a : α} {ps qs : List (Partition α)} (h : pick ps = some (a, qs)) :
    ∃ i, stockAt? ps = some i ∧ held ps = a :: held qs ∧
      ∀ j, itemsAt ps j = if j = i then a :: itemsAt qs j else itemsAt qs j := by
  induction ps generalizing qs with
  | nil => cases h
  | cons p rest ih =>
    obtain ⟨capacity, items⟩ := p
    cases items with
    | cons b items =>
      obtain ⟨rfl, rfl⟩ := Prod.mk.inj (Option.some.inj h)
      refine ⟨0, by simp [stockAt?, List.findIdx?_cons], rfl, fun j => ?_⟩
      cases j <;> simp
    | nil =>
      obtain ⟨⟨b, rs⟩, hrs, heq⟩ := Option.map_eq_some_iff.mp h
      obtain ⟨rfl, rfl⟩ := Prod.mk.inj heq
      obtain ⟨i, hi, hheld, hitems⟩ := ih hrs
      have hstock : stockAt? (⟨capacity, []⟩ :: rest) = (stockAt? rest).map (· + 1) := by
        simp [stockAt?, List.findIdx?_cons]
      refine ⟨i + 1, by rw [hstock, hi]; rfl, hheld, fun j => ?_⟩
      cases j with
      | zero => simp
      | succ j => simpa using hitems j

theorem pick_eq_none_iff {ps : List (Partition α)} : pick ps = none ↔ held ps = [] := by
  induction ps with
  | nil => exact ⟨fun _ => rfl, fun _ => rfl⟩
  | cons p rest ih =>
    obtain ⟨capacity, items⟩ := p
    cases items with
    | cons b items =>
      rw [held_cons]
      exact ⟨fun h => (nomatch h), fun h => (nomatch h)⟩
    | nil =>
      rw [held_cons, List.nil_append, ← ih]
      exact Option.map_eq_none_iff

theorem capacities_pick {a : α} {ps qs : List (Partition α)} (h : pick ps = some (a, qs)) :
    qs.map (·.capacity) = ps.map (·.capacity) := by
  induction ps generalizing qs with
  | nil => cases h
  | cons p rest ih =>
    obtain ⟨capacity, items⟩ := p
    cases items with
    | cons b items =>
      obtain ⟨rfl, rfl⟩ := Prod.mk.inj (Option.some.inj h)
      rfl
    | nil =>
      obtain ⟨⟨b, rs⟩, hrs, heq⟩ := Option.map_eq_some_iff.mp h
      obtain ⟨rfl, rfl⟩ := Prod.mk.inj heq
      rw [List.map_cons, List.map_cons, ih hrs]

theorem bounded_pick {a : α} {ps qs : List (Partition α)} (h : pick ps = some (a, qs))
    (hb : Bounded ps) : Bounded qs := by
  induction ps generalizing qs with
  | nil => cases h
  | cons p rest ih =>
    obtain ⟨capacity, items⟩ := p
    obtain ⟨hp, hrest⟩ := bounded_cons.mp hb
    cases items with
    | cons b items =>
      obtain ⟨rfl, rfl⟩ := Prod.mk.inj (Option.some.inj h)
      exact bounded_cons.mpr ⟨Nat.le_of_succ_le hp, hrest⟩
    | nil =>
      obtain ⟨⟨b, rs⟩, hrs, heq⟩ := Option.map_eq_some_iff.mp h
      obtain ⟨rfl, rfl⟩ := Prod.mk.inj heq
      exact bounded_cons.mpr ⟨hp, ih hrs hrest⟩

theorem room_of_capacities {ps qs : List (Partition α)}
    (h : qs.map (·.capacity) = ps.map (·.capacity)) : room qs = room ps := congrArg List.sum h

theorem add_of_place {b : Buffer α} {a : α} {ps : List (Partition α)} (h : place a b.partitions = some ps) :
    b.add a = ({ b with partitions := ps, count := b.count + 1 }, none) := by
  rw [add, h]

theorem add_of_full {b : Buffer α} {a : α} (h : place a b.partitions = none) :
    b.add a = ({ b with rejected := b.rejected + 1 }, some a) := by
  rw [add, h]

/-- The log tells how the one buffer became the other. -/
structure Explains (b : Buffer α) (log : List (Movement α)) (b' : Buffer α) : Prop where
  items : ∀ i, leftAt i log ++ itemsAt b'.partitions i = itemsAt b.partitions i ++ enteredAt i log
  capacities : b'.partitions.map (·.capacity) = b.partitions.map (·.capacity)
  entered_lt : ∀ i a, Movement.entered i a ∈ log → i < b.partitions.length

theorem Explains.refl (b : Buffer α) : b.Explains [] b :=
  ⟨fun _ => (List.append_nil _).symm, rfl, fun _ _ h => nomatch h⟩

theorem Explains.trans {b b' b'' : Buffer α} {log log' : List (Movement α)}
    (h : b.Explains log b') (h' : b'.Explains log' b'') : b.Explains (log ++ log') b'' := by
  refine ⟨fun i => ?_, h'.capacities.trans h.capacities, fun i a hmem => ?_⟩
  · calc leftAt i (log ++ log') ++ itemsAt b''.partitions i
      _ = leftAt i log ++ (leftAt i log' ++ itemsAt b''.partitions i) := by
        rw [leftAt_append, List.append_assoc]
      _ = leftAt i log ++ (itemsAt b'.partitions i ++ enteredAt i log') := by rw [h'.items]
      _ = itemsAt b.partitions i ++ enteredAt i log ++ enteredAt i log' := by
        rw [← List.append_assoc, h.items]
      _ = itemsAt b.partitions i ++ enteredAt i (log ++ log') := by
        rw [enteredAt_append, List.append_assoc]
  · have hlength : b'.partitions.length = b.partitions.length := by
      simpa using congrArg List.length h.capacities
    obtain hmem | hmem := List.mem_append.mp hmem
    · exact h.entered_lt i a hmem
    · exact hlength ▸ h'.entered_lt i a hmem

end Telemetry.Buffer
