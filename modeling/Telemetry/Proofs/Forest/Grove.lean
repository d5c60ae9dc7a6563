import Telemetry.Proofs.Forest.Descent

/-!
# Planting

Planting keeps a grove settled: no span grows twice, children grow where their parents do, and every
span that is not a root grows below its parent. Since each span is planted in its turn unless it
grows already, the forest has every span of the list on exactly one node, whatever the links are.
-/
namespace Telemetry.Forest.Grove

variable {spans : List Span} {g : Grove spans} {i j : Fin spans.length}

/-- The labels of all trees planted so far. -/
def labels (g : Grove spans) : List (Fin spans.length) := g.trees.flatMap Tree.labels

theorem covers_iff : g.covers i = true ↔ i ∈ g.labels := Tree.anyLabelAll_beq_iff g.trees

theorem mem_labels_of_mem_roots (h : i ∈ g.roots) : i ∈ g.labels := by
  obtain ⟨t, ht, rfl⟩ := List.mem_map.mp h
  exact List.mem_flatMap.mpr ⟨t, ht, t.label_mem_labels⟩

theorem mem_labels_of_mem_subtrees {t u : Tree (Fin spans.length)} (ht : t ∈ g.trees)
    (hu : u ∈ t.subtrees) : u.label ∈ g.labels :=
  List.mem_flatMap.mpr ⟨t, ht, List.mem_map_of_mem hu⟩

structure Settled (g : Grove spans) : Prop where
  nodup : g.labels.Nodup
  down : ∀ i ∈ g.labels, ∀ c ∈ kept spans i, c ∈ g.labels
  up : ∀ c ∈ g.labels, c ∉ g.roots → ∃ i ∈ g.labels, c ∈ kept spans i
  children : ∀ t ∈ g.trees, ∀ u ∈ t.subtrees,
    u.children.map Tree.label = (kept spans u.label).filter (!g.roots.contains ·)

theorem settled_empty : (⟨[], 0⟩ : Grove spans).Settled where
  nodup := List.nodup_nil
  down _ h := absurd h List.not_mem_nil
  up _ h := absurd h List.not_mem_nil
  children _ h := absurd h List.not_mem_nil

variable {promote : Bool}

theorem plant_of_mem (h : i ∈ g.labels) : g.plant promote i = g := by
  rw [plant, if_pos (covers_iff.mpr h)]

theorem plant_of_not_mem (h : i ∉ g.labels) : g.plant promote i =
    { trees := g.trees ++ [grow spans (g.roots ++ [i]) spans.length i]
      promoted := g.promoted + if promote then 1 else 0 } := by
  rw [plant, if_neg (fun hc => h (covers_iff.mp hc))]

theorem roots_plant (h : i ∉ g.labels) : (g.plant promote i).roots = g.roots ++ [i] := by
  rw [plant_of_not_mem h, roots, List.map_append, List.map_singleton, label_grow]
  rfl

theorem mem_labels_plant (h : i ∉ g.labels) : j ∈ (g.plant promote i).labels ↔
    j ∈ g.labels ∨ ∃ k, Descends (g.roots ++ [i]) k i j := by
  rw [plant_of_not_mem h, labels, List.flatMap_append, List.flatMap_singleton, List.mem_append,
    mem_labels_grow_root (List.mem_append_right _ List.mem_cons_self)]
  rfl

/-- What a new root reaches did not grow before. -/
theorem Settled.not_mem_of_descends (hg : g.Settled) (h : i ∉ g.labels) {k : Nat}
    (hk : Descends (g.roots ++ [i]) k i j) : j ∉ g.labels := by
  induction k generalizing j with
  | zero =>
    cases hk
    exact h
  | succ k ih =>
    obtain ⟨p, hp, hj, hn⟩ := hk.last
    intro hmem
    obtain ⟨q, hq, hjq⟩ := hg.up j hmem (fun hr => hn (List.mem_append_left _ hr))
    obtain rfl := kept_parent_unique hj hjq
    exact ih hp hq

theorem Settled.plant (hg : g.Settled) (i : Fin spans.length) : (g.plant promote i).Settled := by
  by_cases h : i ∈ g.labels
  · rwa [plant_of_mem h]
  have hi : i ∈ g.roots ++ [i] := List.mem_append_right _ List.mem_cons_self
  refine ⟨?_, ?_, ?_, ?_⟩
  · rw [plant_of_not_mem h, labels, List.flatMap_append, List.flatMap_singleton]
    apply hg.nodup.append (nodup_labels_grow hi (.here i))
    intro j hj hgrow
    obtain ⟨k, hk⟩ := (mem_labels_grow_root hi).mp hgrow
    exact hg.not_mem_of_descends h hk hj
  · intro p hp c hc
    rw [mem_labels_plant h] at hp ⊢
    rcases hp with hp | ⟨k, hk⟩
    · exact Or.inl (hg.down p hp c hc)
    by_cases hr : c ∈ g.roots ++ [i]
    · rcases List.mem_append.mp hr with hr | hr
      · exact Or.inl (mem_labels_of_mem_roots hr)
      · obtain rfl := List.mem_singleton.mp hr
        exact Or.inr ⟨0, .here c⟩
    · exact Or.inr ⟨k + 1, hk.snoc hc hr⟩
  · intro c hc hn
    rw [roots_plant h] at hn
    rcases (mem_labels_plant h).mp hc with hc | ⟨k, hk⟩
    · obtain ⟨p, hp, hcp⟩ := hg.up c hc (fun hr => hn (List.mem_append_left _ hr))
      exact ⟨p, (mem_labels_plant h).mpr (Or.inl hp), hcp⟩
    · cases k with
      | zero =>
        cases hk
        exact absurd hi hn
      | succ k =>
        obtain ⟨p, hp, hcp, _⟩ := hk.last
        exact ⟨p, (mem_labels_plant h).mpr (Or.inr ⟨k, hp⟩), hcp⟩
  · intro t ht u hu
    rw [roots_plant h]
    rw [plant_of_not_mem h, List.mem_append, List.mem_singleton] at ht
    rcases ht with ht | rfl
    · rw [hg.children t ht u hu]
      apply List.filter_congr
      intro c hc
      have hci : c ≠ i := by
        rintro rfl
        exact h (hg.down _ (mem_labels_of_mem_subtrees ht hu) c hc)
      simp [hci]
    · exact children_of_mem_grow hi (.here i) (Nat.le_add_left _ _) hu

theorem Settled.foldl_plant (hg : g.Settled) (l : List (Fin spans.length)) :
    (l.foldl (Grove.plant promote) g).Settled := by
  induction l generalizing g with
  | nil => exact hg
  | cons i rest ih => exact ih (hg.plant i)

theorem subset_labels_plant (i : Fin spans.length) : g.labels ⊆ (g.plant promote i).labels := by
  intro j hj
  by_cases h : i ∈ g.labels
  · rwa [plant_of_mem h]
  · exact (mem_labels_plant h).mpr (Or.inl hj)

theorem self_mem_labels_plant (i : Fin spans.length) : i ∈ (g.plant promote i).labels := by
  by_cases h : i ∈ g.labels
  · rwa [plant_of_mem h]
  · exact (mem_labels_plant h).mpr (Or.inr ⟨0, .here i⟩)

theorem subset_labels_foldl_plant (l : List (Fin spans.length)) :
    g.labels ⊆ (l.foldl (plant promote) g).labels := by
  induction l generalizing g with
  | nil => exact fun _ h => h
  | cons i rest ih => exact List.Subset.trans (subset_labels_plant i) ih

theorem mem_labels_foldl_plant {l : List (Fin spans.length)} (h : j ∈ l) :
    j ∈ (l.foldl (plant promote) g).labels := by
  induction l generalizing g with
  | nil => cases h
  | cons i rest ih =>
    rcases List.mem_cons.mp h with rfl | h
    · exact subset_labels_foldl_plant rest (self_mem_labels_plant j)
    · exact ih h

theorem foldl_plant_of_covered {l : List (Fin spans.length)} (h : ∀ i ∈ l, i ∈ g.labels) :
    l.foldl (plant promote) g = g := by
  induction l with
  | nil => rfl
  | cons i rest ih =>
    rw [List.foldl_cons, plant_of_mem (h i List.mem_cons_self)]
    exact ih fun j hj => h j (List.mem_cons_of_mem i hj)

theorem promoted_foldl_plant (l : List (Fin spans.length)) :
    (l.foldl (plant false) g).promoted = g.promoted := by
  induction l generalizing g with
  | nil => rfl
  | cons i rest ih =>
    rw [List.foldl_cons, ih]
    by_cases h : i ∈ g.labels
    · rw [plant_of_mem h]
    · rw [plant_of_not_mem h]
      rfl

/-- Spans without a parent grow below nothing, so each of them becomes a root in its turn. -/
theorem Settled.roots_foldl_plant (hg : g.Settled) {l : List (Fin spans.length)}
    (hparent : ∀ i ∈ l, parent? spans i = none) (hnodup : (g.roots ++ l).Nodup) :
    (l.foldl (Grove.plant promote) g).roots = g.roots ++ l := by
  induction l generalizing g with
  | nil => rw [List.append_nil, List.foldl_nil]
  | cons i rest ih =>
    have hi : i ∉ g.labels := by
      intro hi
      have hn : i ∉ g.roots := fun hr =>
        (List.nodup_append.mp hnodup).2.2 i hr i List.mem_cons_self rfl
      obtain ⟨p, _, hp⟩ := hg.up i hi hn
      have hparent := hparent i List.mem_cons_self
      rw [parent_of_mem_kept hp] at hparent
      cases hparent
    have hroots : (g.plant promote i).roots ++ rest = g.roots ++ i :: rest := by
      rw [roots_plant hi, List.append_assoc, List.singleton_append]
    rw [List.foldl_cons, ih (hg.plant i) (fun j hj => hparent j (List.mem_cons_of_mem i hj))
      (hroots ▸ hnodup), hroots]

end Grove

theorem settled_grove (spans : List Span) : (grove spans).Settled :=
  (Grove.settled_empty.foldl_plant _).foldl_plant _

theorem labels_grove_perm (spans : List Span) :
    (grove spans).labels.Perm (List.finRange spans.length) := by
  rw [List.perm_ext_iff_of_nodup (settled_grove spans).nodup (List.nodup_finRange _)]
  intro i
  exact ⟨fun _ => List.mem_finRange i, fun h => Grove.mem_labels_foldl_plant h⟩

theorem labels_roots_ofSpans (spans : List Span) :
    (ofSpans spans).roots.map Tree.label = (grove spans).roots.map spans.get := by
  rw [ofSpans, List.map_map, Grove.roots, List.map_map]
  exact List.map_congr_left fun t _ => t.label_map spans.get

theorem labels_nodes_ofSpans (spans : List Span) :
    (ofSpans spans).nodes.map Tree.label = (grove spans).labels.map spans.get := by
  rw [labels_nodes, ofSpans, List.flatMap_map, Grove.labels, List.map_flatMap]
  exact List.flatMap_congr fun t _ => t.labels_map spans.get

theorem nodes_ofSpans_perm (spans : List Span) :
    ((ofSpans spans).nodes.map Tree.label).Perm spans := by
  rw [labels_nodes_ofSpans]
  exact ((labels_grove_perm spans).map _).trans (by rw [List.map_get_finRange])

/-- A node stands for a span, and its children for the kept children that are not roots. -/
theorem labels_of_mem_nodes {spans : List Span} {n : Tree Span} (hn : n ∈ (ofSpans spans).nodes) :
    ∃ i, n.label = spans.get i ∧ n.children.map Tree.label =
      ((kept spans i).filter (!(grove spans).roots.contains ·)).map spans.get := by
  rw [nodes_eq_flatMap_subtrees, ofSpans, List.flatMap_map] at hn
  obtain ⟨t, ht, hn⟩ := List.mem_flatMap.mp hn
  rw [Tree.subtrees_map] at hn
  obtain ⟨u, hu, rfl⟩ := List.mem_map.mp hn
  refine ⟨u.label, u.label_map spans.get, ?_⟩
  rw [← (settled_grove spans).children t ht u hu, Tree.children_map, List.map_map, List.map_map]
  exact List.map_congr_left fun v _ => v.label_map spans.get

theorem size_ofSpans (spans : List Span) : (ofSpans spans).size = spans.length := by
  rw [size, ← (nodes_ofSpans_perm spans).length_eq, List.length_map]

/-- Every position of the list, however the spans are linked, is the label of exactly one node of
exactly one tree. -/
theorem ofSpans_covers_once (spans : List Span) :
    (∃ trees : List (Tree (Fin spans.length)),
      (ofSpans spans).roots = trees.map (Tree.map spans.get) ∧
      ((trees.flatMap Tree.nodes).map Tree.label).Perm (List.finRange spans.length)) ∧
    ((ofSpans spans).nodes.map Tree.label).Perm spans ∧
    (ofSpans spans).size = spans.length ∧
    ((ofSpans spans).isEmpty = true ↔ spans = []) := by
  refine ⟨⟨(grove spans).trees, rfl, ?_⟩, nodes_ofSpans_perm spans, size_ofSpans spans, ?_⟩
  · have hlabels : ((grove spans).trees.flatMap Tree.nodes).map Tree.label =
        (grove spans).labels := by
      rw [List.map_flatMap, Grove.labels]
      exact List.flatMap_congr fun t _ => by rw [Tree.nodes_eq_subtrees, Tree.labels]
    rw [hlabels]
    exact labels_grove_perm spans
  · rw [isEmpty_iff_size, size_ofSpans, List.length_eq_zero_iff]

end Telemetry.Forest
