import Telemetry.Forest.Time
import Mathlib.Data.List.Basic

/-!
# Trees in pre-order

A walk hands out the subtrees of its tree in pre-order. Labels, searches and relabellings
are read off that list, so that later arguments about trees are arguments about lists.
-/
namespace Telemetry.Tree

variable {α β : Type}

theorem subtreesAll_eq_flatMap (ts : List (Tree α)) : subtreesAll ts = ts.flatMap subtrees := by
  induction ts with
  | nil => rfl
  | cons t rest ih => rw [subtreesAll, ih, List.flatMap_cons]

theorem mapAll_eq_map (f : α → β) (ts : List (Tree α)) : mapAll f ts = ts.map (map f) := by
  induction ts with
  | nil => rfl
  | cons t rest ih => rw [mapAll, ih, List.map_cons]

theorem length_subtrees (t : Tree α) : t.subtrees.length = t.size := by
  refine @Tree.rec α (fun t => t.subtrees.length = t.size)
    (fun ts => (subtreesAll ts).length = sizeAll ts) ?_ rfl ?_ t
  · intro a ts ih
    rw [subtrees, List.length_cons, ih, size]
  · intro t ts iht ihts
    rw [subtreesAll, List.length_append, iht, ihts, sizeAll]

/-- The labels of all nodes in pre-order. -/
def labels (t : Tree α) : List α := t.subtrees.map label

theorem length_labels (t : Tree α) : t.labels.length = t.size := by
  rw [labels, List.length_map, length_subtrees]

@[simp] theorem label_node (a : α) (ts : List (Tree α)) : (node a ts).label = a := rfl

@[simp] theorem children_node (a : α) (ts : List (Tree α)) : (node a ts).children = ts := rfl

theorem subtrees_node (a : α) (ts : List (Tree α)) :
    (node a ts).subtrees = node a ts :: ts.flatMap subtrees := by
  rw [subtrees, subtreesAll_eq_flatMap]

namespace Walk

/-- All that is still to come: the trees on the stack in pre-order, from the top down. -/
def pending (w : Walk α) : List (Tree α) := w.stack.flatMap subtrees

/-- A call hands out the first tree that is to come, and the others stay to come. -/
theorem next_of_pending (w : Walk α) :
    w.next.1 = w.pending.head? ∧ w.next.2.pending = w.pending.tail := by
  obtain ⟨_ | ⟨⟨a, ts⟩, rest⟩⟩ := w
  · exact ⟨rfl, rfl⟩
  · have hpending : pending ⟨node a ts :: rest⟩ = node a ts :: pending ⟨ts ++ rest⟩ := by
      simp only [pending, List.flatMap_cons, List.flatMap_append, subtrees_node, List.cons_append]
    rw [next_cons, hpending]
    exact ⟨rfl, rfl⟩

theorem toList_eq_pending (w : Walk α) : w.toList = w.pending := by
  induction w using toList.induct with
  | case1 w later hnext =>
    have hhead := w.next_of_pending.1
    rw [hnext] at hhead
    rw [toList, hnext, List.head?_eq_none_iff.mp hhead.symm]
  | case2 w t later hnext ih =>
    obtain ⟨hhead, htail⟩ := w.next_of_pending
    rw [hnext] at hhead htail
    rw [toList, hnext]
    dsimp only
    rw [ih, htail]
    exact List.cons_head?_tail hhead.symm

end Walk

theorem nodes_eq_subtrees (t : Tree α) : t.nodes = t.subtrees := by
  rw [nodes, Walk.toList_eq_pending, Walk.pending, walk, List.flatMap_singleton]

theorem labels_node (a : α) (ts : List (Tree α)) :
    (node a ts).labels = a :: ts.flatMap labels := by
  simp only [labels, subtrees_node, List.map_cons, label_node, List.map_flatMap]
  rfl

theorem map_node (f : α → β) (a : α) (ts : List (Tree α)) :
    (node a ts).map f = node (f a) (ts.map (map f)) := by
  rw [map, mapAll_eq_map]

@[simp] theorem label_map (f : α → β) (t : Tree α) : (t.map f).label = f t.label := by
  obtain ⟨a, ts⟩ := t
  rw [map_node, label_node, label_node]

@[simp] theorem children_map (f : α → β) (t : Tree α) :
    (t.map f).children = t.children.map (map f) := by
  obtain ⟨a, ts⟩ := t
  rw [map_node, children_node, children_node]

/-- A fact about a tree that its children pass on to it holds of every tree. -/
theorem induct {P : Tree α → Prop} (h : ∀ a ts, (∀ t ∈ ts, P t) → P (node a ts)) (t : Tree α) :
    P t := by
  refine @Tree.rec α P (fun ts => ∀ t ∈ ts, P t) h ?_ ?_ t
  · intro t ht
    cases ht
  · intro t rest iht ihrest u hu
    rcases List.mem_cons.mp hu with rfl | hu
    · exact iht
    · exact ihrest u hu

theorem map_map {γ : Type} (f : α → β) (g : β → γ) (t : Tree α) :
    (t.map f).map g = t.map fun a => g (f a) := by
  induction t using induct with
  | h a ts ih =>
    rw [map_node, map_node, map_node, List.map_map]
    exact congrArg _ (List.map_congr_left ih)

theorem self_mem_subtrees (t : Tree α) : t ∈ t.subtrees := by
  obtain ⟨a, ts⟩ := t
  rw [subtrees_node]
  exact List.mem_cons_self

theorem label_mem_labels (t : Tree α) : t.label ∈ t.labels :=
  List.mem_map_of_mem t.self_mem_subtrees

theorem subtrees_map (f : α → β) (t : Tree α) : (t.map f).subtrees = t.subtrees.map (map f) := by
  induction t using induct with
  | h a ts ih =>
    rw [map_node, subtrees_node, subtrees_node, List.map_cons, map_node, List.map_flatMap,
      List.flatMap_map]
    congr 1
    exact List.flatMap_congr ih

theorem labels_map (f : α → β) (t : Tree α) : (t.map f).labels = t.labels.map f := by
  simp only [labels, subtrees_map, List.map_map, Function.comp_def, label_map]

theorem anyLabelAll_eq_any (p : α → Bool) (ts : List (Tree α)) :
    anyLabelAll p ts = ts.any (anyLabel p) := by
  induction ts with
  | nil => rfl
  | cons t rest ih => rw [anyLabelAll, ih, List.any_cons]

theorem anyLabel_iff {p : α → Bool} (t : Tree α) :
    t.anyLabel p = true ↔ ∃ a ∈ t.labels, p a = true := by
  induction t using induct with
  | h a ts ih =>
    rw [anyLabel, anyLabelAll_eq_any, labels_node, Bool.or_eq_true, List.any_eq_true]
    constructor
    · rintro (ha | ⟨t, ht, hp⟩)
      · exact ⟨a, List.mem_cons_self, ha⟩
      · obtain ⟨b, hb, hpb⟩ := (ih t ht).mp hp
        exact ⟨b, List.mem_cons_of_mem _ (List.mem_flatMap.mpr ⟨t, ht, hb⟩), hpb⟩
    · rintro ⟨b, hb, hp⟩
      rcases List.mem_cons.mp hb with rfl | hb
      · exact Or.inl hp
      · obtain ⟨t, ht, hbt⟩ := List.mem_flatMap.mp hb
        exact Or.inr ⟨t, ht, (ih t ht).mpr ⟨b, hbt, hp⟩⟩

theorem anyLabelAll_beq_iff [DecidableEq α] {a : α} (ts : List (Tree α)) :
    anyLabelAll (· == a) ts = true ↔ a ∈ ts.flatMap labels := by
  simp only [anyLabelAll_eq_any, List.any_eq_true, anyLabel_iff, beq_iff_eq, exists_eq_right,
    List.mem_flatMap]

end Telemetry.Tree

namespace Telemetry.Forest

theorem nodes_eq_flatMap_subtrees (f : Forest) : f.nodes = f.roots.flatMap Tree.subtrees :=
  List.flatMap_congr fun t _ => t.nodes_eq_subtrees

theorem labels_nodes (f : Forest) : f.nodes.map Tree.label = f.roots.flatMap Tree.labels := by
  rw [nodes_eq_flatMap_subtrees, List.map_flatMap]
  rfl

theorem isEmpty_iff_size (f : Forest) : f.isEmpty = true ↔ f.size = 0 := by
  rw [isEmpty, List.isEmpty_iff, size, List.length_eq_zero_iff, nodes_eq_flatMap_subtrees,
    List.flatMap_eq_nil_iff]
  constructor
  · intro h t ht
    rw [h] at ht
    cases ht
  · intro h
    apply List.eq_nil_iff_forall_not_mem.mpr
    intro t ht
    exact List.ne_nil_of_mem t.self_mem_subtrees (h t ht)

end Telemetry.Forest
