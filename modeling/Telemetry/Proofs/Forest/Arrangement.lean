import Telemetry.Proofs.Forest.Grove
import Telemetry.Proofs.Forest.Identified
import Mathlib.Logic.Relation

/-!
# The forest that the links describe

The spans without a parent are the first roots, and each span that no root before it reaches is one
more; below a root stand the children that are kept and are not roots themselves. Where no two spans
share an identifier, this tells the forest, however the links run: it is arranged like that, and no other
forest is.
-/
namespace Telemetry

/-- Kept links lead from one of the spans to another, in any number of steps. -/
def Span.Reaches (spans : List Span) : Span → Span → Prop :=
  Relation.ReflTransGen fun p c => p ∈ spans ∧ c ∈ spans ∧ p.Keeps c

namespace Forest

/-- Of a list of spans those become roots, one after the other, that no root before them reaches. -/
inductive Promotes (spans : List Span) : List Span → List Span → List Span → Prop
  | done (roots : List Span) : Promotes spans roots [] []
  | reached {roots rest promoted : List Span} {s : Span} (h : ∃ r ∈ roots, Span.Reaches spans r s)
      (hrest : Promotes spans roots rest promoted) : Promotes spans roots (s :: rest) promoted
  | unreached {roots rest promoted : List Span} {s : Span}
      (h : ¬ ∃ r ∈ roots, Span.Reaches spans r s)
      (hrest : Promotes spans (roots ++ [s]) rest promoted) :
      Promotes spans roots (s :: rest) (s :: promoted)

/-- The forest is the one that the links of the spans describe, with the spans that were promoted. -/
structure Arrangement (spans : List Span) (f : Forest) (promoted : List Span) : Prop where
  promotes : Promotes spans (spans.filter (·.Parentless spans)) spans promoted
  roots : f.roots.map Tree.label = spans.filter (·.Parentless spans) ++ promoted
  children : ∀ n ∈ f.nodes, ∀ c, c ∈ n.children.map Tree.label ↔
    c ∈ spans ∧ n.label.Keeps c ∧ c ∉ f.roots.map Tree.label
  order : ∀ n ∈ f.nodes, (n.children.map Tree.label).Pairwise fun c d =>
    n.label.children.idxOf c.id < n.label.children.idxOf d.id
  inconsistencies : f.inconsistencies = spans.countP (·.UnfitParent spans) +
    (spans.map (Span.strayEntries spans)).sum + promoted.length

/-! ### No other forest is arranged like that -/

theorem Promotes.unique {spans roots rest promoted promoted' : List Span}
    (h : Promotes spans roots rest promoted) (h' : Promotes spans roots rest promoted') :
    promoted = promoted' := by
  induction h generalizing promoted' with
  | done => cases h'; rfl
  | reached hreached _ ih =>
    cases h' with
    | reached _ hrest => exact ih hrest
    | unreached hnot _ => exact absurd hreached hnot
  | unreached hnot _ ih =>
    cases h' with
    | reached hreached _ => exact absurd hreached hnot
    | unreached _ hrest => rw [ih hrest]

end Forest

/-- Trees agree if their roots do and nodes with one label have children with the same labels. -/
theorem Tree.eq_of_children {α : Type} {t u : Tree α} (hlabel : t.label = u.label)
    (hchildren : ∀ m ∈ t.subtrees, ∀ n ∈ u.subtrees, m.label = n.label →
      m.children.map label = n.children.map label) : t = u := by
  induction t using induct generalizing u with
  | h a ts ih =>
    obtain ⟨b, us⟩ := u
    obtain rfl : a = b := hlabel
    have hlabels : ts.map label = us.map label :=
      hchildren _ (self_mem_subtrees _) _ (self_mem_subtrees _) rfl
    have hall : ts = us := by
      apply eq_of_map_eq hlabels
      intro t ht u hu hlabel
      apply ih t ht hlabel
      intro m hm n hn
      apply hchildren
      · rw [subtrees_node]
        exact List.mem_cons_of_mem _ (List.mem_flatMap.mpr ⟨t, ht, hm⟩)
      · rw [subtrees_node]
        exact List.mem_cons_of_mem _ (List.mem_flatMap.mpr ⟨u, hu, hn⟩)
    rw [hall]

namespace Forest

theorem Arrangement.unique {spans promoted promoted' : List Span} {f g : Forest}
    (hf : Arrangement spans f promoted) (hg : Arrangement spans g promoted') : f = g := by
  obtain rfl := hf.promotes.unique hg.promotes
  have hlabels : f.roots.map Tree.label = g.roots.map Tree.label := by
    rw [hf.roots, hg.roots]
  have hchildren : ∀ m ∈ f.nodes, ∀ n ∈ g.nodes, m.label = n.label →
      m.children.map Tree.label = n.children.map Tree.label := by
    intro m hm n hn hlabel
    have horder := hf.order m hm
    rw [hlabel] at horder
    apply eq_of_mem_of_pairwise_lt _ horder (hg.order n hn)
    intro c
    rw [hf.children m hm, hg.children n hn, hlabel, hlabels]
  have hroots : f.roots = g.roots := by
    apply eq_of_map_eq hlabels
    intro t ht u hu hlabel
    apply Tree.eq_of_children hlabel
    intro m hm n hn
    apply hchildren
    · rw [nodes_eq_flatMap_subtrees]
      exact List.mem_flatMap.mpr ⟨t, ht, hm⟩
    · rw [nodes_eq_flatMap_subtrees]
      exact List.mem_flatMap.mpr ⟨u, hu, hn⟩
  have hcount : f.inconsistencies = g.inconsistencies := by
    rw [hf.inconsistencies, hg.inconsistencies]
  obtain ⟨roots, count⟩ := f
  obtain ⟨roots', count'⟩ := g
  obtain rfl : roots = roots' := hroots
  obtain rfl : count = count' := hcount
  rfl

/-! ### What the roots reach -/

section Described

variable {spans : List Span} {g : Grove spans} {i j : Fin spans.length}

/-- Kept links between positions. -/
abbrev KeptPath (spans : List Span) : Fin spans.length → Fin spans.length → Prop :=
  Relation.ReflTransGen fun i c => c ∈ kept spans i

theorem keptPath_of_mem_labels {t : Tree (Fin spans.length)}
    (ht : ∀ u ∈ t.subtrees, u.children.map Tree.label =
      (kept spans u.label).filter (!g.roots.contains ·)) :
    ∀ j ∈ t.labels, KeptPath spans t.label j := by
  induction t using Tree.induct with
  | h i ts ih =>
    intro j hj
    rw [Tree.labels_node, List.mem_cons] at hj
    rcases hj with rfl | hj
    · exact .refl
    · obtain ⟨t, hmem, hj⟩ := List.mem_flatMap.mp hj
      have hchildren := ht _ (Tree.self_mem_subtrees _)
      have hkept : t.label ∈ kept spans i := by
        have hlabel : t.label ∈ ts.map Tree.label := List.mem_map_of_mem hmem
        rw [Tree.children_node, Tree.label_node] at hchildren
        rw [hchildren] at hlabel
        exact (mem_kept_filter.mp hlabel).1
      apply Relation.ReflTransGen.head hkept
      apply ih t hmem _ j hj
      intro u hu
      apply ht
      rw [Tree.subtrees_node]
      exact List.mem_cons_of_mem _ (List.mem_flatMap.mpr ⟨t, hmem, hu⟩)

/-- A grove covers what its roots reach. -/
theorem Grove.Settled.mem_labels_iff (hg : g.Settled) :
    j ∈ g.labels ↔ ∃ r ∈ g.roots, KeptPath spans r j := by
  constructor
  · intro hj
    obtain ⟨t, ht, hj⟩ := List.mem_flatMap.mp hj
    exact ⟨t.label, List.mem_map_of_mem ht, keptPath_of_mem_labels (hg.children t ht) j hj⟩
  · rintro ⟨r, hr, hpath⟩
    induction hpath with
    | refl => exact Grove.mem_labels_of_mem_roots hr
    | tail _ hc ih => exact hg.down _ ih _ hc

variable (hid : (spans.map Span.id).Nodup)
include hid

theorem reaches_get_iff :
    Span.Reaches spans (spans.get i) (spans.get j) ↔ KeptPath spans i j := by
  constructor
  · intro h
    have hpath : ∀ s, Span.Reaches spans (spans.get i) s →
        ∃ c, spans.get c = s ∧ KeptPath spans i c := by
      intro s hs
      induction hs with
      | refl => exact ⟨i, rfl, .refl⟩
      | tail _ hlink ih =>
        obtain ⟨p, rfl, hp⟩ := ih
        obtain ⟨_, hmem, hkeeps⟩ := hlink
        obtain ⟨c, rfl⟩ := List.get_of_mem hmem
        exact ⟨c, rfl, hp.tail ((mem_kept_iff hid).mpr hkeeps)⟩
    obtain ⟨c, hc, hpath⟩ := hpath _ h
    obtain rfl := eq_of_id_get hid (congrArg Span.id hc)
    exact hpath
  · intro h
    induction h with
    | refl => exact .refl
    | tail _ hc ih =>
      exact ih.tail ⟨List.get_mem .., List.get_mem .., (mem_kept_iff hid).mp hc⟩

theorem Grove.Settled.mem_labels_iff_reaches (hg : g.Settled) :
    j ∈ g.labels ↔ ∃ r ∈ g.roots.map spans.get, Span.Reaches spans r (spans.get j) := by
  rw [hg.mem_labels_iff]
  constructor
  · rintro ⟨r, hr, hpath⟩
    exact ⟨_, List.mem_map_of_mem hr, (reaches_get_iff hid).mpr hpath⟩
  · rintro ⟨s, hs, hreaches⟩
    obtain ⟨r, hr, rfl⟩ := List.mem_map.mp hs
    exact ⟨r, hr, (reaches_get_iff hid).mp hreaches⟩

/-- Planting the spans of a list in turn promotes those that no root before them reaches. -/
theorem Grove.Settled.promotes_foldl_plant (hg : g.Settled) (l : List (Fin spans.length)) :
    ∃ new : List (Fin spans.length),
      (l.foldl (Grove.plant true) g).roots = g.roots ++ new ∧
      (l.foldl (Grove.plant true) g).promoted = g.promoted + new.length ∧
      Promotes spans (g.roots.map spans.get) (l.map spans.get) (new.map spans.get) := by
  induction l generalizing g with
  | nil => exact ⟨[], by simp, rfl, .done _⟩
  | cons i rest ih =>
    by_cases hi : i ∈ g.labels
    · obtain ⟨new, hroots, hpromoted, hpromotes⟩ := ih hg
      rw [List.foldl_cons, Grove.plant_of_mem hi]
      exact ⟨new, hroots, hpromoted, .reached ((hg.mem_labels_iff_reaches hid).mp hi) hpromotes⟩
    · have hplanted : (g.plant true i).Settled := hg.plant i
      obtain ⟨new, hroots, hpromoted, hpromotes⟩ := ih hplanted
      rw [Grove.roots_plant hi] at hroots hpromotes
      refine ⟨i :: new, ?_, ?_, ?_⟩
      · rw [List.foldl_cons, hroots, List.append_assoc]
        rfl
      · have hone : (g.plant true i).promoted = g.promoted + 1 := by
          rw [Grove.plant_of_not_mem hi]
          rfl
        rw [List.foldl_cons, hpromoted, hone, List.length_cons]
        omega
      · rw [List.map_append] at hpromotes
        apply Promotes.unreached _ hpromotes
        rwa [← hg.mem_labels_iff_reaches hid]

theorem map_get_withoutParent :
    (withoutParent spans).map spans.get = spans.filter (·.Parentless spans) := by
  rw [withoutParent, filter_eq_map_get spans]
  apply congrArg (List.map spans.get)
  apply List.filter_congr
  intro i _
  rw [Bool.eq_iff_iff, Option.isNone_iff_eq_none, parent?_eq_none_iff hid, decide_eq_true_eq]

theorem exists_promoted : ∃ new : List (Fin spans.length),
    (grove spans).roots = withoutParent spans ++ new ∧ (grove spans).promoted = new.length ∧
      Promotes spans (spans.filter (·.Parentless spans)) spans (new.map spans.get) := by
  have hsettled : ((withoutParent spans).foldl (Grove.plant false) ⟨[], 0⟩).Settled :=
    Grove.settled_empty.foldl_plant _
  have hfirst : ((withoutParent spans).foldl (Grove.plant false) ⟨[], 0⟩).roots =
      withoutParent spans := by
    rw [Grove.settled_empty.roots_foldl_plant]
    · rfl
    · intro i hi
      exact Option.isNone_iff_eq_none.mp (List.mem_filter.mp hi).2
    · exact (List.nodup_finRange _).filter _
  obtain ⟨new, hroots, hpromoted, hpromotes⟩ :=
    hsettled.promotes_foldl_plant hid (List.finRange spans.length)
  rw [hfirst] at hroots hpromotes
  rw [map_get_withoutParent hid, List.map_get_finRange] at hpromotes
  rw [Grove.promoted_foldl_plant, Nat.zero_add] at hpromoted
  exact ⟨new, hroots, hpromoted, hpromotes⟩

/-! ### The forest of the spans -/

theorem arrangement_ofSpans :
    ∃ promoted, Arrangement spans (ofSpans spans) promoted := by
  obtain ⟨new, hroots, hpromoted, hpromotes⟩ := exists_promoted hid
  have hlabels : (ofSpans spans).roots.map Tree.label =
      spans.filter (·.Parentless spans) ++ new.map spans.get := by
    rw [labels_roots_ofSpans, hroots, List.map_append, map_get_withoutParent hid]
  have hroot {c : Fin spans.length} :
      spans.get c ∈ (ofSpans spans).roots.map Tree.label ↔ c ∈ (grove spans).roots := by
    rw [labels_roots_ofSpans]
    constructor
    · intro h
      obtain ⟨d, hd, heq⟩ := List.mem_map.mp h
      obtain rfl := eq_of_id_get hid (congrArg Span.id heq)
      exact hd
    · exact List.mem_map_of_mem
  refine ⟨new.map spans.get, hpromotes, hlabels, ?_, ?_, ?_⟩
  · intro n hn s
    obtain ⟨i, hlabel, hchildren⟩ := labels_of_mem_nodes hn
    rw [hchildren, hlabel]
    constructor
    · intro h
      obtain ⟨c, hc, rfl⟩ := List.mem_map.mp h
      obtain ⟨hkept, hnot⟩ := mem_kept_filter.mp hc
      exact ⟨List.get_mem .., (mem_kept_iff hid).mp hkept, fun h => hnot (hroot.mp h)⟩
    · rintro ⟨hs, hkeeps, hnot⟩
      obtain ⟨c, rfl⟩ := List.get_of_mem hs
      apply List.mem_map_of_mem
      exact mem_kept_filter.mpr ⟨(mem_kept_iff hid).mpr hkeeps, fun h => hnot (hroot.mpr h)⟩
  · intro n hn
    obtain ⟨i, hlabel, hchildren⟩ := labels_of_mem_nodes hn
    rw [hchildren, hlabel, List.pairwise_map]
    exact pairwise_kept.filter _
  · rw [ofSpans, strayCount_eq hid, hpromoted, List.length_map]

end Described

/-- The forest of spans with different identifiers is the one forest that is arranged as their links
say. -/
theorem eq_ofSpans_iff_arranged (spans : List Span) (hid : (spans.map Span.id).Nodup)
    (f : Forest) : f = ofSpans spans ↔ ∃ promoted, Arrangement spans f promoted := by
  obtain ⟨promoted, harranged⟩ := arrangement_ofSpans hid
  constructor
  · rintro rfl
    exact ⟨promoted, harranged⟩
  · rintro ⟨promoted', hf⟩
    exact hf.unique harranged

/-- Repeated, unknown and own entries, parents that are unknown or do not list the span, and a circle
with a tail that comes before it. -/
def tangled : List Span :=
  let span (id : Nat) (parent : Option Nat) (children : List Nat) : Span :=
    { Span.unfinished id "span" .custom 0 with parent := parent, children := children }
  [span 0 none [1, 9, 1, 0], span 1 (some 0) [2], span 2 (some 0) [], span 3 (some 3) [3],
    span 4 (some 9) [], span 7 (some 5) [], span 6 (some 5) [5], span 5 (some 6) [7, 6, 7]]

theorem eq_ofSpans_iff_arranged_tangled :
    (tangled.map Span.id).Nodup ∧ ∃ promoted, Arrangement tangled (ofSpans tangled) promoted ∧
      promoted.map Span.id = [2, 7, 6] ∧
      (ofSpans tangled).roots.map (·.label.id) = [0, 3, 4, 2, 7, 6] ∧
      (ofSpans tangled).nodes.map (fun n => n.children.map (·.label.id)) =
        [[1], [], [], [], [], [], [5], []] ∧
      (ofSpans tangled).inconsistencies = 11 := by
  have hid : (tangled.map Span.id).Nodup := by decide
  obtain ⟨promoted, harranged⟩ := (eq_ofSpans_iff_arranged tangled hid (ofSpans tangled)).mp rfl
  have hroots : (ofSpans tangled).roots.map (·.label.id) = [0, 3, 4, 2, 7, 6] := by
    decide +kernel
  have hpromoted : promoted.map Span.id = [2, 7, 6] := by
    have hlabels := congrArg (List.map Span.id) harranged.roots
    rw [List.map_map, List.map_append] at hlabels
    exact List.append_cancel_left (hlabels.symm.trans hroots)
  exact ⟨hid, promoted, harranged, hpromoted, hroots, by decide +kernel, by decide +kernel⟩

end Forest

end Telemetry
