import Telemetry.Forest.Build
import Telemetry.Proofs.Forest.Grove
import Mathlib

/-!
# The loops build the forest

The stack follows the links of a tree from the root down, so met the latest first its positions come in
post-order, and in that order each position finds the trees of its children in their slots. That nothing
below a new root was visited before, other roots apart, holds because no child is kept by two parents. So
the loops build the forest that is defined by recursion.
-/
namespace Telemetry

namespace Tree

variable {α : Type}

mutual

/-- The labels in post-order. -/
def postorder : Tree α → List α
  | node a ts => postorderAll ts ++ [a]

def postorderAll : List (Tree α) → List α
  | [] => []
  | t :: ts => postorder t ++ postorderAll ts

end

theorem postorderAll_eq_flatMap (ts : List (Tree α)) : postorderAll ts = ts.flatMap postorder := by
  induction ts with
  | nil => rfl
  | cons t rest ih => rw [postorderAll, ih, List.flatMap_cons]

theorem postorder_node (a : α) (ts : List (Tree α)) :
    (node a ts).postorder = ts.flatMap postorder ++ [a] := by
  rw [postorder, postorderAll_eq_flatMap]

theorem sizeAll_reverse (ts : List (Tree α)) : sizeAll ts.reverse = sizeAll ts := by
  induction ts with
  | nil => rfl
  | cons t rest ih =>
    rw [List.reverse_cons, sizeAll_append, ih]
    simp only [sizeAll]
    omega

end Tree

namespace Forest

section

variable {n : Nat} {next : Fin n → List (Fin n)} {roots : List (Fin n)}

/-- The children of each node are what comes next after its label, roots apart, and no label is on two
nodes. -/
structure Follows (next : Fin n → List (Fin n)) (roots : List (Fin n)) (ts : List (Tree (Fin n))) :
    Prop where
  children : ∀ t ∈ ts, ∀ u ∈ t.subtrees,
    u.children.map Tree.label = (next u.label).filter (!roots.contains ·)
  nodup : (ts.flatMap Tree.labels).Nodup

theorem mem_labels_of_mem_map {ts : List (Tree (Fin n))} {j : Fin n} (h : j ∈ ts.map Tree.label) :
    j ∈ ts.flatMap Tree.labels := by
  obtain ⟨t, ht, rfl⟩ := List.mem_map.mp h
  exact List.mem_flatMap.mpr ⟨t, ht, t.label_mem_labels⟩

namespace Follows

variable {a : Fin n} {cs ts us : List (Tree (Fin n))}

theorem of_append (h : Follows next roots (ts ++ us)) :
    Follows next roots ts ∧ Follows next roots us := by
  have hnodup := h.nodup
  rw [List.flatMap_append, List.nodup_append] at hnodup
  exact ⟨⟨fun t ht => h.children t (List.mem_append_left us ht), hnodup.1⟩,
    ⟨fun t ht => h.children t (List.mem_append_right ts ht), hnodup.2.1⟩⟩

theorem perm (h : Follows next roots ts) (hperm : ts.Perm us) : Follows next roots us where
  children u hu := h.children u (hperm.mem_iff.mpr hu)
  nodup := (hperm.flatMap_right _).nodup_iff.mp h.nodup

theorem nodup_below (h : Follows next roots (.node a cs :: ts)) :
    a ∉ (cs ++ ts).flatMap Tree.labels ∧ ((cs ++ ts).flatMap Tree.labels).Nodup := by
  rw [← List.nodup_cons, List.flatMap_append, ← List.cons_append, ← Tree.labels_node,
    ← List.flatMap_cons]
  exact h.nodup

/-- The children of a node follow in its place. -/
theorem below (h : Follows next roots (.node a cs :: ts)) : Follows next roots (cs ++ ts) where
  children t ht u hu := by
    rcases List.mem_append.mp ht with ht | ht
    · refine h.children _ List.mem_cons_self u ?_
      rw [Tree.subtrees_node]
      exact List.mem_cons_of_mem _ (List.mem_flatMap.mpr ⟨t, ht, hu⟩)
    · exact h.children t (List.mem_cons_of_mem _ ht) u hu
  nodup := h.nodup_below.2

theorem labels_children (h : Follows next roots (.node a cs :: ts)) :
    cs.map Tree.label = (next a).filter (!roots.contains ·) :=
  h.children _ List.mem_cons_self _ (Tree.self_mem_subtrees _)

theorem mem_children_iff (h : Follows next roots (.node a cs :: ts)) {c : Fin n} :
    c ∈ cs.map Tree.label ↔ c ∈ next a ∧ c ∉ roots := by
  rw [h.labels_children, List.mem_filter, Bool.not_eq_true', ← Bool.not_eq_true,
    List.contains_iff_mem]

/-- The children are new on the stack. -/
theorem not_mem_stack (h : Follows next roots (.node a cs :: ts)) {c : Fin n}
    (hc : c ∈ cs.map Tree.label) : c ∉ (Tree.node a cs :: ts).map Tree.label := by
  have hbelow := h.below.nodup
  have hlabel := mem_labels_of_mem_map hc
  rw [List.flatMap_append] at hbelow
  rw [List.map_cons, List.mem_cons, Tree.label_node]
  rintro (rfl | hts)
  · refine h.nodup_below.1 ?_
    rw [List.flatMap_append]
    exact List.mem_append_left _ hlabel
  · exact (List.nodup_append.mp hbelow).2.2 c hlabel c (mem_labels_of_mem_map hts) rfl

end Follows

theorem get_set_self {α : Type} (v : Vector α n) (i : Fin n) (x : α) :
    (v.set i x i.isLt).get i = x := Vector.getElem_set_self i.isLt

theorem get_set_of_ne {α : Type} (v : Vector α n) {i j : Fin n} (h : i ≠ j) (x : α) :
    (v.set i x i.isLt).get j = v.get j :=
  Vector.getElem_set_ne i.isLt j.isLt fun heq => h (Fin.ext heq)

theorem set_true_iff (visited : Vector Bool n) (i j : Fin n) :
    (visited.set i true i.isLt).get j = true ↔ j = i ∨ visited.get j = true := by
  by_cases h : i = j
  · rw [← h, get_set_self]
    simp
  · rw [get_set_of_ne _ h, or_iff_right (Ne.symm h)]

theorem visited_stackNew (visited : Vector Bool n) (stack cs : List (Fin n)) (j : Fin n) :
    (stackNew visited stack cs).1.get j = true ↔ visited.get j = true ∨ j ∈ cs := by
  induction cs generalizing visited stack with
  | nil => simp [stackNew]
  | cons c cs ih =>
    rw [stackNew, List.mem_cons]
    split_ifs with hc
    · rw [ih]
      refine ⟨Or.imp_right .inr, ?_⟩
      rintro (hold | rfl | hj)
      · exact .inl hold
      · exact .inl hc
      · exact .inr hj
    · rw [ih, set_true_iff, or_assoc]
      exact or_left_comm

theorem stack_stackNew (visited : Vector Bool n) (stack : List (Fin n)) {cs : List (Fin n)}
    (h : cs.Nodup) : (stackNew visited stack cs).2 =
      (cs.filter fun c => !visited.get c).reverse ++ stack := by
  induction cs generalizing visited stack with
  | nil => rfl
  | cons c cs ih =>
    rw [List.nodup_cons] at h
    rw [stackNew]
    cases hc : visited.get c with
    | true =>
      rw [if_pos rfl, ih _ _ h.2, List.filter_cons_of_neg (by simp [hc])]
    | false =>
      have hothers : (cs.filter fun d => !(visited.set c true c.isLt).get d) =
          cs.filter fun d => !visited.get d := by
        refine List.filter_congr fun d hd => ?_
        have hne : c ≠ d := fun heq => h.1 (heq ▸ hd)
        rw [get_set_of_ne _ hne]
      rw [if_neg Bool.false_ne_true, ih _ _ h.2, hothers, List.filter_cons_of_pos (by simp [hc]),
        List.reverse_cons, List.append_assoc, List.singleton_append]

/-- All roots were visited, and of all that is below the stack only the stack itself. -/
structure Flagged (roots : List (Fin n)) (visited : Vector Bool n) (ts : List (Tree (Fin n))) :
    Prop where
  roots : ∀ c ∈ roots, visited.get c = true
  labels : ∀ j ∈ ts.flatMap Tree.labels, visited.get j = true ↔ j ∈ ts.map Tree.label

theorem mem_labels_reverse_append {cs ts : List (Tree (Fin n))} {j : Fin n} :
    j ∈ (cs.reverse ++ ts).flatMap Tree.labels ↔ j ∈ (cs ++ ts).flatMap Tree.labels :=
  (((List.reverse_perm cs).append_right ts).flatMap_right _).mem_iff

namespace Flagged

variable {visited : Vector Bool n} {a j : Fin n} {cs ts : List (Tree (Fin n))}
  (h : Flagged roots visited (.node a cs :: ts)) (hfollows : Follows next roots (.node a cs :: ts))
include h hfollows

theorem visited_below_iff (hj : j ∈ (cs ++ ts).flatMap Tree.labels) :
    visited.get j = true ↔ j ∈ ts.map Tree.label := by
  have hne : j ≠ a := fun heq => hfollows.nodup_below.1 (heq ▸ hj)
  have hlabel : j ∈ (Tree.node a cs :: ts).flatMap Tree.labels := by
    rw [List.flatMap_cons, Tree.labels_node, List.cons_append, ← List.flatMap_append]
    exact List.mem_cons_of_mem a hj
  rw [h.labels j hlabel, List.map_cons, List.mem_cons, Tree.label_node, or_iff_right hne]

/-- Of what comes next only roots can have been visited, as there is no other way to the children. -/
theorem visited_next_iff (hj : j ∈ next a) : visited.get j = true ↔ j ∈ roots := by
  refine ⟨fun hvisited => by_contra fun hroot => ?_, h.roots j⟩
  have hchild := hfollows.mem_children_iff.mpr ⟨hj, hroot⟩
  have hbelow : j ∈ (cs ++ ts).flatMap Tree.labels := by
    rw [List.flatMap_append]
    exact List.mem_append_left _ (mem_labels_of_mem_map hchild)
  refine hfollows.not_mem_stack hchild ?_
  rw [List.map_cons]
  exact List.mem_cons_of_mem _ ((h.visited_below_iff hfollows hbelow).mp hvisited)

/-- A node on top of the stack makes way for its children. -/
theorem stack_step (hnext : (next a).Nodup) :
    (stackNew visited (ts.map Tree.label) (next a)).2 = (cs.reverse ++ ts).map Tree.label := by
  have hunmet : (next a).filter (fun c => !visited.get c) = cs.map Tree.label := by
    rw [hfollows.labels_children]
    refine List.filter_congr fun c hc => ?_
    rw [Bool.eq_iff_iff, Bool.not_eq_true', Bool.not_eq_true', ← Bool.not_eq_true,
      ← Bool.not_eq_true, List.contains_iff_mem, h.visited_next_iff hfollows hc]
  rw [stack_stackNew _ _ hnext, hunmet, List.map_append, List.map_reverse]

theorem step : Flagged roots (stackNew visited (ts.map Tree.label) (next a)).1 (cs.reverse ++ ts) where
  roots c hc := (visited_stackNew ..).mpr (.inl (h.roots c hc))
  labels j hj := by
    have hold := h.visited_below_iff hfollows (mem_labels_reverse_append.mp hj)
    rw [visited_stackNew, List.map_append, List.mem_append, List.map_reverse, List.mem_reverse,
      hfollows.mem_children_iff, hold]
    constructor
    · rintro (hstack | hc)
      · exact .inr hstack
      · by_cases hroot : j ∈ roots
        · exact .inr (hold.mp (h.roots j hroot))
        · exact .inl ⟨hc, hroot⟩
    · rintro (⟨hc, _⟩ | hstack)
      · exact .inr hc
      · exact .inl hstack

/-- After the step and what follows it, the node and all below it are visited. -/
theorem visited_step : ((stackNew visited (ts.map Tree.label) (next a)).1.get j = true ∨
    j ∈ (cs.reverse ++ ts).flatMap Tree.labels) ↔
      visited.get j = true ∨ j ∈ (Tree.node a cs :: ts).flatMap Tree.labels := by
  have hself : visited.get a = true :=
    (h.labels a (mem_labels_of_mem_map List.mem_cons_self)).mpr List.mem_cons_self
  rw [visited_stackNew, mem_labels_reverse_append, List.flatMap_cons, Tree.labels_node,
    List.cons_append, List.mem_cons, ← List.flatMap_append]
  constructor
  · rintro ((hold | hc) | hj)
    · exact .inl hold
    · by_cases hroot : j ∈ roots
      · exact .inl (h.roots j hroot)
      · have hchild := mem_labels_of_mem_map (hfollows.mem_children_iff.mpr ⟨hc, hroot⟩)
        rw [List.flatMap_append]
        exact .inr (.inr (List.mem_append_left _ hchild))
    · exact .inr (.inr hj)
  · rintro (hold | rfl | hj)
    · exact .inl (.inl hold)
    · exact .inl (.inl hself)
    · exact .inr hj

end Flagged

/-- The slots after trees were put into those of their labels. -/
def placed (slots : Slots n) (ts : List (Tree (Fin n))) : Slots n :=
  ts.foldl (fun slots t => slots.set t.label (some t) t.label.isLt) slots

theorem getElem_placed (slots : Slots n) {ts : List (Tree (Fin n))} {j : Fin n}
    (h : j ∉ ts.map Tree.label) : (placed slots ts).get j = slots.get j := by
  induction ts generalizing slots with
  | nil => rfl
  | cons t rest ih =>
    rw [List.map_cons, List.mem_cons, not_or] at h
    exact (ih _ h.2).trans (get_set_of_ne slots (Ne.symm h.1) _)

theorem set_placed (slots : Slots n) {ts : List (Tree (Fin n))} {j : Fin n}
    (h : j ∉ ts.map Tree.label) (x : Option (Tree (Fin n))) :
    (placed slots ts).set j x j.isLt = placed (slots.set j x j.isLt) ts := by
  induction ts generalizing slots with
  | nil => rfl
  | cons t rest ih =>
    rw [List.map_cons, List.mem_cons, not_or] at h
    have hne : t.label.val ≠ j.val := fun heq => h.1 (Fin.ext heq.symm)
    have hcomm : (slots.set t.label (some t) t.label.isLt).set j x j.isLt =
        (slots.set j x j.isLt).set t.label (some t) t.label.isLt := Vector.set_comm _ _ hne
    exact (ih _ h.2).trans (congrArg (placed · rest) hcomm)

theorem set_none_of_empty {slots : Slots n} {j : Fin n} (h : slots.get j = none) :
    slots.set j none j.isLt = slots := by
  rw [← h]
  exact Vector.set_getElem_self _

theorem takeTrees_placed {slots : Slots n} (hroots : ∀ c ∈ roots, slots.get c = none)
    {cs : List (Fin n)} {ts : List (Tree (Fin n))} (hcs : cs.Nodup)
    (hlabels : ts.map Tree.label = cs.filter (!roots.contains ·))
    (hempty : ∀ c ∈ ts.map Tree.label, slots.get c = none) :
    takeTrees (placed slots ts) cs = (ts, slots) := by
  induction cs generalizing ts with
  | nil =>
    obtain rfl := List.map_eq_nil_iff.mp hlabels
    rfl
  | cons c cs ih =>
    rw [List.nodup_cons] at hcs
    by_cases hroot : c ∈ roots
    · rw [List.filter_cons_of_neg (by simpa using hroot)] at hlabels
      have hc : c ∉ ts.map Tree.label := by
        rw [hlabels]
        exact fun hmem => hcs.1 (List.mem_filter.mp hmem).1
      have hnone : (placed slots ts).get c = none :=
        (getElem_placed slots hc).trans (hroots c hroot)
      rw [takeTrees, set_none_of_empty hnone, ih hcs.2 hlabels hempty, hnone]
      rfl
    · rw [List.filter_cons_of_pos (by simpa using hroot)] at hlabels
      obtain ⟨t, ts, rfl, rfl, hrest⟩ := List.map_eq_cons_iff.mp hlabels
      rw [List.map_cons, List.forall_mem_cons] at hempty
      have hc : t.label ∉ ts.map Tree.label := by
        rw [hrest]
        exact fun hmem => hcs.1 (List.mem_filter.mp hmem).1
      have hsome : (placed slots (t :: ts)).get t.label = some t :=
        (getElem_placed _ hc).trans (get_set_self slots _ _)
      have htaken : (placed slots (t :: ts)).set t.label none t.label.isLt =
          placed slots ts := by
        have hfirst : placed slots (t :: ts) =
            placed (slots.set t.label (some t) t.label.isLt) ts := rfl
        rw [hfirst, set_placed _ hc, Vector.set_set, set_none_of_empty hempty.1]
      rw [takeTrees, htaken, ih hcs.2 hrest hempty.2, hsome]
      rfl

variable (hnext : ∀ i, (next i).Nodup)
include hnext

/-- All that is below the stack is met once, and visited afterwards. -/
theorem explore_eq {visited : Vector Bool n} {ts : List (Tree (Fin n))} (h : Flagged roots visited ts)
    (hfollows : Follows next roots ts) (met : List (Fin n)) :
    (explore next visited met (ts.map Tree.label)).2 =
        ts.reverse.flatMap Tree.postorder ++ met ∧
      ∀ j : Fin n, (explore next visited met (ts.map Tree.label)).1.get j = true ↔
        visited.get j = true ∨ j ∈ ts.flatMap Tree.labels := by
  induction hsize : Tree.sizeAll ts using Nat.strongRecOn generalizing ts visited met with
  | _ size ih =>
    match ts with
    | [] =>
      rw [List.map_nil, explore]
      simp
    | .node a cs :: ts =>
      have hbelow : Follows next roots (cs.reverse ++ ts) :=
        hfollows.below.perm ((List.reverse_perm cs).symm.append_right ts)
      have hless : Tree.sizeAll (cs.reverse ++ ts) < size := by
        rw [← hsize, Tree.sizeAll_append, Tree.sizeAll_reverse, Tree.sizeAll, Tree.size]
        omega
      obtain ⟨hmet, hvisited⟩ := ih _ hless (h.step hfollows) hbelow (a :: met) rfl
      rw [List.map_cons, Tree.label_node, explore, h.stack_step hfollows (hnext a)]
      refine ⟨?_, fun j => (hvisited j).trans (h.visited_step hfollows)⟩
      rw [hmet]
      simp [Tree.postorder_node]

/-- A position finds the trees of its children. -/
theorem fill_placed {slots : Slots n} (hroots : ∀ c ∈ roots, slots.get c = none) {a : Fin n}
    {cs ts : List (Tree (Fin n))} (h : Follows next roots (.node a cs :: ts))
    (hempty : ∀ j ∈ cs.flatMap Tree.labels, slots.get j = none) :
    fill next (placed slots cs) a =
      slots.set a (some (.node a cs)) a.isLt := by
  have htake : takeTrees (placed slots cs) (next a) = (cs, slots) :=
    takeTrees_placed hroots (hnext a) h.labels_children fun c hc =>
      hempty c (mem_labels_of_mem_map hc)
  rw [fill, htake]

/-- In post-order each position is filled in after all that is below it. -/
theorem foldl_fill {slots : Slots n} (hroots : ∀ c ∈ roots, slots.get c = none)
    {ts : List (Tree (Fin n))} (h : Follows next roots ts)
    (hbelow : ∀ j ∈ ts.flatMap Tree.labels, j ∉ roots ∧ slots.get j = none) :
    (ts.flatMap Tree.postorder).foldl (fill next) slots = placed slots ts := by
  induction hsize : Tree.sizeAll ts using Nat.strongRecOn generalizing ts slots with
  | _ size ih =>
    match ts with
    | [] => rfl
    | .node a cs :: ts =>
      rw [Tree.sizeAll, Tree.size] at hsize
      rw [List.flatMap_cons, Tree.labels_node, List.cons_append, List.forall_mem_cons,
        List.forall_mem_append] at hbelow
      obtain ⟨⟨haroot, _⟩, hcsbelow, htsbelow⟩ := hbelow
      obtain ⟨hcs, hts⟩ := h.below.of_append
      have hchildren := ih _ (by omega) hroots hcs hcsbelow rfl
      have hfill := fill_placed hnext hroots h fun j hj => (hcsbelow j hj).2
      have hother {j : Fin n} (hj : j ≠ a) :
          (slots.set a (some (.node a cs)) a.isLt).get j = slots.get j :=
        get_set_of_ne slots (Ne.symm hj) _
      have hrest := ih (Tree.sizeAll ts) (by omega)
        (fun c hc => (hother fun heq => haroot (heq ▸ hc)).trans (hroots c hc)) hts
        (fun j hj => ⟨(htsbelow j hj).1, (hother fun heq => ?_).trans (htsbelow j hj).2⟩) rfl
      · rw [List.flatMap_cons, Tree.postorder_node, List.foldl_append, List.foldl_append,
          hchildren, List.foldl_cons, List.foldl_nil, hfill, hrest]
        rfl
      · refine h.nodup_below.1 ?_
        rw [List.flatMap_append]
        exact List.mem_append_right _ (heq ▸ hj)

/-- A root is the last to be filled in. -/
theorem foldl_fill_root {slots : Slots n} (hempty : ∀ j : Fin n, slots.get j = none) {a : Fin n}
    {cs : List (Tree (Fin n))} (h : Follows next roots [.node a cs])
    (hbelow : ∀ j ∈ cs.flatMap Tree.labels, j ∉ roots) :
    (Tree.node a cs).postorder.foldl (fill next) slots =
      slots.set a (some (.node a cs)) a.isLt := by
  have hroots : ∀ c ∈ roots, slots.get c = none := fun c _ => hempty c
  have hchildren := foldl_fill hnext hroots h.below.of_append.1 fun j hj => ⟨hbelow j hj, hempty j⟩
  rw [Tree.postorder_node, List.foldl_append, hchildren, List.foldl_cons, List.foldl_nil,
    fill_placed hnext hroots h fun j _ => hempty j]

end

variable {spans : List Span} {g : Grove spans}

/-- As far as the grove was planted, the site was visited, and no tree was left in a slot. -/
structure Site.Mirrors (w : Site spans.length) (g : Grove spans) : Prop where
  visited : ∀ i : Fin spans.length, w.visited.get i = true ↔ i ∈ g.labels
  slots : ∀ i : Fin spans.length, w.slots.get i = none
  roots : w.roots = g.trees
  promoted : w.promoted = g.promoted

theorem mirrors_empty : (Site.empty spans.length).Mirrors ⟨[], 0⟩ where
  visited i := by simp [Site.empty, Grove.labels]
  slots i := Vector.get_replicate _ _ i
  roots := rfl
  promoted := rfl

theorem follows_grow {roots : List (Fin spans.length)} {i : Fin spans.length} (hi : i ∈ roots) :
    Follows (kept spans) roots [grow spans roots spans.length i] where
  children t ht u hu := by
    rw [List.mem_singleton.mp ht] at hu
    exact children_of_mem_grow hi (.here i) (Nat.le_add_left _ _) hu
  nodup := by
    rw [List.flatMap_singleton]
    exact nodup_labels_grow hi (.here i)

theorem exists_grow_eq (roots : List (Fin spans.length)) (fuel : Nat) (i : Fin spans.length) :
    ∃ cs, grow spans roots fuel i = .node i cs := by
  cases fuel with
  | zero => exact ⟨_, rfl⟩
  | succ fuel => exact ⟨_, rfl⟩

theorem not_mem_roots_of_grow {roots : List (Fin spans.length)} {i : Fin spans.length}
    {cs : List (Tree (Fin spans.length))} (hi : i ∈ roots)
    (htree : grow spans roots spans.length i = .node i cs) :
    ∀ j ∈ cs.flatMap Tree.labels, j ∉ roots := by
  intro j hj
  have hmem : j ∈ (grow spans roots spans.length i).labels := by
    rw [htree, Tree.labels_node]
    exact List.mem_cons_of_mem i hj
  obtain ⟨k, hk⟩ := (mem_labels_grow_root hi).mp hmem
  cases k with
  | zero =>
    cases hk
    have hnot := (htree ▸ follows_grow hi).nodup_below.1
    rw [List.append_nil] at hnot
    exact absurd hj hnot
  | succ k =>
    obtain ⟨_, _, _, hnot⟩ := hk.last
    exact hnot

/-- Nothing below a new root was visited before but other roots. -/
theorem Site.Mirrors.flagged {w : Site spans.length} (h : w.Mirrors g) (hg : g.Settled)
    {i : Fin spans.length} (hi : i ∉ g.labels) : Flagged (g.roots ++ [i])
      (w.visited.set i true i.isLt) [grow spans (g.roots ++ [i]) spans.length i] where
  roots c hc := by
    rw [set_true_iff, h.visited]
    rcases List.mem_append.mp hc with hc | hc
    · exact .inr (Grove.mem_labels_of_mem_roots hc)
    · exact .inl (List.mem_singleton.mp hc)
  labels j hj := by
    rw [List.flatMap_singleton] at hj
    obtain ⟨k, hk⟩ := (mem_labels_grow_root (List.mem_append_right _ List.mem_cons_self)).mp hj
    rw [set_true_iff, h.visited, or_iff_left (hg.not_mem_of_descends hi hk), List.map_singleton,
      label_grow, List.mem_singleton]

/-- From a new root all that is below it is visited, and its tree comes into its slot alone. -/
theorem Site.Mirrors.explored {w : Site spans.length} (h : w.Mirrors g) (hg : g.Settled)
    {i : Fin spans.length} (hi : i ∉ g.labels) :
    let explored := explore (kept spans) (w.visited.set i true i.isLt) [] [i]
    let tree := grow spans (g.roots ++ [i]) spans.length i
    (∀ j, explored.1.get j = true ↔ j ∈ g.labels ∨ j ∈ tree.labels) ∧
      explored.2.foldl (fill (kept spans)) w.slots = w.slots.set i (some tree) i.isLt := by
  have hroot : i ∈ g.roots ++ [i] := List.mem_append_right _ List.mem_cons_self
  have hnext : ∀ j : Fin spans.length, (kept spans j).Nodup := fun _ => nodup_kept
  have hflagged := h.flagged hg hi
  have hfollows := follows_grow hroot
  obtain ⟨cs, htree⟩ := exists_grow_eq (g.roots ++ [i]) spans.length i
  rw [htree] at hflagged hfollows ⊢
  obtain ⟨hmet, hvisited⟩ := explore_eq hnext hflagged hfollows []
  rw [List.reverse_singleton, List.flatMap_singleton, List.append_nil] at hmet
  refine ⟨fun j => (hvisited j).trans ?_, ?_⟩
  · have hself : i ∈ (Tree.node i cs).labels := Tree.label_mem_labels _
    rw [set_true_iff, h.visited, List.flatMap_singleton]
    constructor
    · rintro ((rfl | hold) | hnew)
      · exact .inr hself
      · exact .inl hold
      · exact .inr hnew
    · exact Or.imp_left .inr
  · rw [← foldl_fill_root hnext h.slots hfollows (not_mem_roots_of_grow hroot htree), ← hmet]
    rfl

theorem Site.Mirrors.start {w : Site spans.length} (h : w.Mirrors g) (hg : g.Settled)
    (promote : Bool) (i : Fin spans.length) :
    (w.start (kept spans) promote i).Mirrors (g.plant promote i) := by
  by_cases hi : i ∈ g.labels
  · rw [Site.start, if_pos ((h.visited i).mpr hi), Grove.plant_of_mem hi]
    exact h
  obtain ⟨hvisited, hfilled⟩ := h.explored hg hi
  rw [Grove.plant_of_not_mem hi, Site.start, if_neg fun hold => hi ((h.visited i).mp hold)]
  dsimp only
  rw [hfilled]
  constructor
  case visited =>
    intro j
    rw [Grove.labels, List.flatMap_append, List.flatMap_singleton, List.mem_append]
    exact hvisited j
  case slots =>
    intro j
    rw [Vector.set_set, set_none_of_empty (h.slots i)]
    exact h.slots j
  case roots =>
    rw [get_set_self, h.roots]
    rfl
  case promoted => exact congrArg (· + _) h.promoted

theorem Site.Mirrors.foldl_start {w : Site spans.length} (h : w.Mirrors g) (hg : g.Settled)
    (promote : Bool) (l : List (Fin spans.length)) :
    (l.foldl (Site.start (kept spans) promote) w).Mirrors (l.foldl (Grove.plant promote) g) := by
  induction l generalizing w g with
  | nil => exact h
  | cons i rest ih => exact ih (h.start hg promote i) (hg.plant i)

theorem mirrors_site (spans : List Span) : (site spans).Mirrors (grove spans) :=
  (mirrors_empty.foldl_start Grove.settled_empty false _).foldl_start
    (Grove.settled_empty.foldl_plant _) true _

/-- The loops build the forest, whatever the spans and their links are. -/
theorem build_eq_ofSpans (spans : List Span) : build spans = ofSpans spans := by
  rw [build, ofSpans, (mirrors_site spans).roots, (mirrors_site spans).promoted]

end Forest

end Telemetry
