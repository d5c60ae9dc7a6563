import Telemetry.Proofs.Forest.Kept
import Telemetry.Proofs.Forest.Preorder
import Mathlib.Data.Fintype.Card

/-!
# Lines of descent

Kept links lead from a root down to other spans until they meet another root. Since no child is kept
by two parents, a span is met on at most one line and at one distance from the roots. So a tree
grown from a root meets each of its spans once, and no line is longer than the list of spans.
-/
namespace Telemetry.Forest

variable {spans : List Span} {roots : List (Fin spans.length)}

/-- Kept links lead from the first position to the second in so many steps, into no root. -/
inductive Descends (roots : List (Fin spans.length)) :
    Nat → Fin spans.length → Fin spans.length → Prop
  | here (i : Fin spans.length) : Descends roots 0 i i
  | down {k : Nat} {i c j : Fin spans.length} (hc : c ∈ kept spans i) (hr : c ∉ roots)
      (h : Descends roots k c j) : Descends roots (k + 1) i j

namespace Descends

variable {k k' : Nat} {r r' i j c : Fin spans.length}

theorem trans {m : Nat} (h : Descends roots k r i) (h' : Descends roots m i j) :
    Descends roots (k + m) r j := by
  induction h with
  | here i => rwa [Nat.zero_add]
  | down hc hr _ ih =>
    rw [Nat.add_right_comm]
    exact down hc hr (ih h')

theorem snoc (h : Descends roots k r i) (hc : c ∈ kept spans i) (hr : c ∉ roots) :
    Descends roots (k + 1) r c := h.trans (down hc hr (here c))

theorem last (h : Descends roots (k + 1) r j) :
    ∃ i, Descends roots k r i ∧ j ∈ kept spans i ∧ j ∉ roots := by
  induction k generalizing r with
  | zero =>
    obtain _ | ⟨hc, hr, h⟩ := h
    cases h
    exact ⟨r, here r, hc, hr⟩
  | succ k ih =>
    obtain _ | ⟨hc, hr, h⟩ := h
    obtain ⟨i, hi, hj⟩ := ih h
    exact ⟨i, down hc hr hi, hj⟩

theorem start_unique (h : Descends roots k r j) (h' : Descends roots k r' j) : r = r' := by
  induction k generalizing j with
  | zero =>
    cases h
    cases h'
    rfl
  | succ k ih =>
    obtain ⟨i, hi, hj, _⟩ := h.last
    obtain ⟨i', hi', hj', _⟩ := h'.last
    obtain rfl := kept_parent_unique hj hj'
    exact ih hi hi'

theorem length_unique (hr : r ∈ roots) (hr' : r' ∈ roots) (h : Descends roots k r j)
    (h' : Descends roots k' r' j) : k = k' := by
  induction k generalizing k' j with
  | zero =>
    cases h
    cases k' with
    | zero => rfl
    | succ k' =>
      obtain ⟨_, _, _, hn⟩ := h'.last
      exact absurd hr hn
  | succ k ih =>
    obtain ⟨i, hi, hj, hn⟩ := h.last
    cases k' with
    | zero =>
      cases h'
      exact absurd hr' hn
    | succ k' =>
      obtain ⟨i', hi', hj', _⟩ := h'.last
      obtain rfl := kept_parent_unique hj hj'
      rw [ih hi hi']

theorem cut (h : Descends roots k r j) {m : Nat} (hm : m ≤ k) : ∃ i, Descends roots m r i := by
  induction k generalizing j with
  | zero =>
    obtain rfl := Nat.le_zero.mp hm
    exact ⟨j, h⟩
  | succ k ih =>
    rcases Nat.le_succ_iff.mp hm with hm | rfl
    · obtain ⟨i, hi, _⟩ := h.last
      exact ih hi hm
    · exact ⟨j, h⟩

/-- The positions on a line of descent are distinct, and there are only so many. -/
theorem length_lt (hr : r ∈ roots) (h : Descends roots k r j) : k < spans.length := by
  choose f hf using fun m : Fin (k + 1) => h.cut (Nat.le_of_lt_succ m.isLt)
  have hinj : Function.Injective f := by
    intro a b hab
    have hb := hf b
    rw [← hab] at hb
    exact Fin.ext (length_unique hr hr (hf a) hb)
  have hcard := Fintype.card_le_of_injective f hinj
  simp only [Fintype.card_fin] at hcard
  omega

end Descends

@[simp] theorem label_grow (fuel : Nat) (i : Fin spans.length) :
    (grow spans roots fuel i).label = i := by
  cases fuel <;> rfl

theorem mem_kept_filter {i c : Fin spans.length} :
    c ∈ (kept spans i).filter (!roots.contains ·) ↔ c ∈ kept spans i ∧ c ∉ roots := by
  rw [List.mem_filter, Bool.not_eq_true', ← Bool.not_eq_true, List.contains_iff_mem]

theorem labels_grow_succ (fuel : Nat) (i : Fin spans.length) :
    (grow spans roots (fuel + 1) i).labels = i ::
      ((kept spans i).filter (!roots.contains ·)).flatMap fun c =>
        (grow spans roots fuel c).labels := by
  rw [grow, Tree.labels_node, List.flatMap_map]

theorem mem_labels_grow {fuel : Nat} {i j : Fin spans.length} :
    j ∈ (grow spans roots fuel i).labels ↔ ∃ k ≤ fuel, Descends roots k i j := by
  induction fuel generalizing i with
  | zero =>
    rw [grow, Tree.labels_node, List.flatMap_nil, List.mem_singleton]
    constructor
    · rintro rfl
      exact ⟨0, Nat.le_refl 0, .here j⟩
    · rintro ⟨k, hk, h⟩
      obtain rfl := Nat.le_zero.mp hk
      cases h
      rfl
  | succ fuel ih =>
    rw [labels_grow_succ, List.mem_cons, List.mem_flatMap]
    constructor
    · rintro (rfl | ⟨c, hc, hj⟩)
      · exact ⟨0, Nat.zero_le _, .here j⟩
      · obtain ⟨k, hk, h⟩ := ih.mp hj
        obtain ⟨hc, hr⟩ := mem_kept_filter.mp hc
        exact ⟨k + 1, Nat.succ_le_succ hk, .down hc hr h⟩
    · rintro ⟨k, hk, h⟩
      obtain _ | ⟨hc, hr, h⟩ := h
      · exact Or.inl rfl
      · exact Or.inr ⟨_, mem_kept_filter.mpr ⟨hc, hr⟩, ih.mpr ⟨_, Nat.le_of_succ_le_succ hk, h⟩⟩

theorem mem_labels_grow_root {r j : Fin spans.length} (hr : r ∈ roots) :
    j ∈ (grow spans roots spans.length r).labels ↔ ∃ k, Descends roots k r j := by
  rw [mem_labels_grow]
  constructor
  · rintro ⟨k, _, h⟩
    exact ⟨k, h⟩
  · rintro ⟨k, h⟩
    exact ⟨k, (h.length_lt hr).le, h⟩

/-- Below a root the distance to the root tells a span from its descendants, and siblings have no
descendant in common. -/
theorem nodup_labels_grow {r : Fin spans.length} (hr : r ∈ roots) {m fuel : Nat}
    {i : Fin spans.length} (h : Descends roots m r i) :
    (grow spans roots fuel i).labels.Nodup := by
  induction fuel generalizing m i with
  | zero =>
    rw [grow, Tree.labels_node, List.flatMap_nil]
    exact List.nodup_singleton i
  | succ fuel ih =>
    rw [labels_grow_succ, List.nodup_cons, List.nodup_flatMap]
    refine ⟨?_, ?_, ?_⟩
    · intro hmem
      obtain ⟨c, hc, hi⟩ := List.mem_flatMap.mp hmem
      obtain ⟨hc, hn⟩ := mem_kept_filter.mp hc
      obtain ⟨k, _, hk⟩ := mem_labels_grow.mp hi
      have := Descends.length_unique hr hr h ((h.snoc hc hn).trans hk)
      omega
    · intro c hc
      obtain ⟨hc, hn⟩ := mem_kept_filter.mp hc
      exact ih (h.snoc hc hn)
    · apply (nodup_kept.filter _).imp_of_mem
      intro c d hc hd hne
      obtain ⟨hc, hcn⟩ := mem_kept_filter.mp hc
      obtain ⟨hd, hdn⟩ := mem_kept_filter.mp hd
      intro j hjc hjd
      obtain ⟨k, _, hk⟩ := mem_labels_grow.mp hjc
      obtain ⟨k', _, hk'⟩ := mem_labels_grow.mp hjd
      have hlen := Descends.length_unique hr hr ((h.snoc hc hcn).trans hk)
        ((h.snoc hd hdn).trans hk')
      obtain rfl : k = k' := by omega
      exact hne (hk.start_unique hk')

/-- As much fuel as there are spans below a root is enough: no child is left out. -/
theorem children_of_mem_grow {r : Fin spans.length} (hr : r ∈ roots) {m fuel : Nat}
    {i : Fin spans.length} (h : Descends roots m r i) (hfuel : spans.length ≤ m + fuel)
    {t : Tree (Fin spans.length)} (ht : t ∈ (grow spans roots fuel i).subtrees) :
    t.children.map Tree.label = (kept spans t.label).filter (!roots.contains ·) := by
  induction fuel generalizing m i with
  | zero =>
    have := h.length_lt hr
    omega
  | succ fuel ih =>
    rw [grow, Tree.subtrees_node, List.mem_cons] at ht
    rcases ht with rfl | ht
    · rw [Tree.children_node, Tree.label_node, List.map_map]
      exact (List.map_congr_left fun c _ => label_grow fuel c).trans (List.map_id _)
    · obtain ⟨u, hu, ht⟩ := List.mem_flatMap.mp ht
      obtain ⟨c, hc, rfl⟩ := List.mem_map.mp hu
      obtain ⟨hc, hn⟩ := mem_kept_filter.mp hc
      exact ih (h.snoc hc hn) (by omega) ht

end Telemetry.Forest
