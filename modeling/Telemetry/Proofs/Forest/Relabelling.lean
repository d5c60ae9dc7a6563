import Telemetry.Proofs.Forest.Grove

/-!
# Spans with the same links

Only the links of the spans decide how the forest is put together. Where two lists of spans have the
same links at the same places, their forests have the same shape, and what can be read off the nodes
agrees as far as it agrees on the spans.
-/
namespace Telemetry

/-- All that the links of a span consist of. -/
def Span.links (s : Span) : Nat × Option Nat × List Nat := (s.id, s.parent, s.children)

namespace Forest

variable {xs ys : List Span}

theorem length_eq_of_links (h : xs.map Span.links = ys.map Span.links) :
    xs.length = ys.length := by
  simpa using congrArg List.length h

/-- The same place in the other list. -/
def shift (h : xs.map Span.links = ys.map Span.links) : Fin xs.length → Fin ys.length :=
  Fin.cast (length_eq_of_links h)

variable (h : xs.map Span.links = ys.map Span.links)
include h

theorem shift_injective : Function.Injective (shift h) := Fin.cast_injective _

theorem get_shift {β : Type} {F : Span → β} (hF : xs.map F = ys.map F) (i : Fin xs.length) :
    F (ys.get (shift h i)) = F (xs.get i) := by
  have hi := congrArg (fun l => l[(i : Nat)]?) hF
  have hlt : (i : Nat) < ys.length := length_eq_of_links h ▸ i.isLt
  have hget : F (ys.get ⟨i, hlt⟩) = F (xs.get i) := by simpa [hlt] using hi.symm
  exact hget

theorem id_shift (i : Fin xs.length) : (ys.get (shift h i)).id = (xs.get i).id :=
  congrArg (·.1) (get_shift h h i)

theorem parent_shift (i : Fin xs.length) : (ys.get (shift h i)).parent = (xs.get i).parent :=
  congrArg (·.2.1) (get_shift h h i)

theorem children_shift (i : Fin xs.length) :
    (ys.get (shift h i)).children = (xs.get i).children :=
  congrArg (·.2.2) (get_shift h h i)

theorem map_shift_finRange : (List.finRange xs.length).map (shift h) = List.finRange ys.length := by
  apply List.ext_getElem
  · simpa using length_eq_of_links h
  · intro i hi hi'
    simp [shift]

/-! ### Links -/

theorem position?_shift (id : Nat) : position? ys id = (position? xs id).map (shift h) := by
  induction xs generalizing ys with
  | nil =>
    cases ys with
    | nil => rfl
    | cons y rest => cases h
  | cons x xs ih =>
    cases ys with
    | nil => cases h
    | cons y ys =>
      have hrest : xs.map Span.links = ys.map Span.links := (List.cons.inj h).2
      have hid : y.id = x.id := congrArg (·.1) (List.cons.inj h).1.symm
      rw [position?, position?, ih hrest, hid]
      cases position? xs id with
      | some i => rfl
      | none =>
        by_cases hx : x.id = id
        · simp only [Option.map_none, if_pos hx]
          rfl
        · simp only [Option.map_none, if_neg hx]

theorem parent?_shift (i : Fin xs.length) :
    parent? ys (shift h i) = (parent? xs i).map (shift h) := by
  unfold parent?
  rw [parent_shift h, id_shift h]
  cases (xs.get i).parent with
  | none => rfl
  | some p =>
    by_cases hself : p = (xs.get i).id
    · simp only [if_pos hself, Option.map_none]
    · simp only [if_neg hself, position?_shift h]

theorem hasStrayParent_shift (i : Fin xs.length) :
    hasStrayParent ys (shift h i) = hasStrayParent xs i := by
  unfold hasStrayParent
  rw [parent_shift h, parent?_shift h, Option.isNone_map]

theorem child?_shift (i : Fin xs.length) (entry : Nat) :
    child? ys (shift h i) entry = (child? xs i entry).map (shift h) := by
  unfold child?
  rw [position?_shift h]
  cases position? xs entry with
  | none => rfl
  | some c =>
    have hparent : (parent? ys (shift h c) == some (shift h i)) = (parent? xs c == some i) := by
      rw [parent?_shift h, Bool.eq_iff_iff, beq_iff_eq, beq_iff_eq, ← Option.map_some,
        (Option.map_injective (shift_injective h)).eq_iff]
    rw [Option.map_some, Option.filter_some, Option.filter_some, hparent]
    cases parent? xs c == some i <;> rfl

theorem contains_shift (l : List (Fin xs.length)) (i : Fin xs.length) :
    (l.map (shift h)).contains (shift h i) = l.contains i := by
  rw [Bool.eq_iff_iff, List.contains_iff_mem, List.contains_iff_mem,
    List.mem_map_of_injective (shift_injective h)]

theorem siftFrom_shift (i : Fin xs.length) (met : List (Fin xs.length)) (entries : List Nat) :
    siftFrom ys (shift h i) (met.map (shift h)) entries =
      ((siftFrom xs i met entries).1.map (shift h), (siftFrom xs i met entries).2) := by
  induction entries generalizing met with
  | nil => rfl
  | cons entry rest ih =>
    rw [siftFrom, siftFrom, child?_shift h]
    cases child? xs i entry with
    | none =>
      dsimp only [Option.map_none]
      rw [ih]
    | some c =>
      have hcontains := contains_shift h met c
      have hsnoc : met.map (shift h) ++ [shift h c] = (met ++ [c]).map (shift h) := by simp
      dsimp only [Option.map_some]
      rw [hcontains, hsnoc, ih, ih]
      cases met.contains c <;> rfl

theorem sift_shift (i : Fin xs.length) :
    sift ys (shift h i) = ((sift xs i).1.map (shift h), (sift xs i).2) := by
  unfold sift
  rw [children_shift h]
  exact siftFrom_shift h i [] _

theorem kept_shift (i : Fin xs.length) : kept ys (shift h i) = (kept xs i).map (shift h) := by
  unfold kept
  rw [sift_shift h]

theorem strayCount_congr : strayCount xs = strayCount ys := by
  have hparents : (List.finRange ys.length).countP (hasStrayParent ys) =
      (List.finRange xs.length).countP (hasStrayParent xs) := by
    rw [← map_shift_finRange h, List.countP_map]
    exact List.countP_congr fun i _ => by rw [Function.comp_apply, hasStrayParent_shift h]
  have hentries : (List.finRange ys.length).map (fun i => (sift ys i).2) =
      (List.finRange xs.length).map fun i => (sift xs i).2 := by
    rw [← map_shift_finRange h, List.map_map]
    exact List.map_congr_left fun i _ => by rw [Function.comp_apply, sift_shift h]
  rw [strayCount, strayCount, hparents, hentries]

/-! ### Trees -/

theorem grow_shift (roots : List (Fin xs.length)) (fuel : Nat) (i : Fin xs.length) :
    grow ys (roots.map (shift h)) fuel (shift h i) = (grow xs roots fuel i).map (shift h) := by
  induction fuel generalizing i with
  | zero =>
    rw [grow, grow, Tree.map_node]
    rfl
  | succ fuel ih =>
    have hchildren : (kept ys (shift h i)).filter (!(roots.map (shift h)).contains ·) =
        ((kept xs i).filter (!roots.contains ·)).map (shift h) := by
      rw [kept_shift h, List.filter_map]
      congr 2
      funext c
      rw [Function.comp_apply, contains_shift h]
    rw [grow, grow, Tree.map_node, hchildren, List.map_map, List.map_map]
    congr 1
    exact List.map_congr_left fun c _ => ih c

/-- The grove with the places of the other list. -/
def Grove.shift (g : Grove xs) : Grove ys := ⟨g.trees.map (Tree.map (Forest.shift h)), g.promoted⟩

theorem Grove.roots_shift (g : Grove xs) : (g.shift h).roots = g.roots.map (Forest.shift h) := by
  rw [Grove.roots, Grove.shift, Grove.roots, List.map_map, List.map_map]
  exact List.map_congr_left fun t _ => t.label_map _

theorem Grove.covers_shift (g : Grove xs) (i : Fin xs.length) :
    (g.shift h).covers (Forest.shift h i) = g.covers i := by
  have hlabels : (g.shift h).labels = g.labels.map (Forest.shift h) := by
    rw [Grove.labels, Grove.shift, Grove.labels, List.flatMap_map, List.map_flatMap]
    exact List.flatMap_congr fun t _ => t.labels_map _
  rw [Bool.eq_iff_iff, Grove.covers_iff, Grove.covers_iff, hlabels,
    List.mem_map_of_injective (shift_injective h)]

theorem Grove.plant_shift (promote : Bool) (g : Grove xs) (i : Fin xs.length) :
    (g.shift h).plant promote (Forest.shift h i) = (g.plant promote i).shift h := by
  unfold Grove.plant
  rw [Grove.covers_shift h]
  cases g.covers i with
  | true => rfl
  | false =>
    have hroots : (g.shift h).roots ++ [Forest.shift h i] =
        (g.roots ++ [i]).map (Forest.shift h) := by
      rw [Grove.roots_shift h, List.map_append, List.map_singleton]
    have hgrow := grow_shift h (g.roots ++ [i]) xs.length i
    rw [← hroots] at hgrow
    have hlength := length_eq_of_links h
    simp only [Bool.false_eq_true, if_false, Grove.shift, List.map_append, List.map_singleton,
      ← hgrow, ← hlength]

theorem Grove.foldl_plant_shift (promote : Bool) (l : List (Fin xs.length)) (g : Grove xs) :
    (l.map (Forest.shift h)).foldl (Grove.plant promote) (g.shift h) =
      (l.foldl (Grove.plant promote) g).shift h := by
  induction l generalizing g with
  | nil => rfl
  | cons i rest ih => rw [List.map_cons, List.foldl_cons, Grove.plant_shift h, ih, List.foldl_cons]

theorem map_shift_withoutParent : (withoutParent xs).map (shift h) = withoutParent ys := by
  rw [withoutParent, withoutParent, ← map_shift_finRange h, List.filter_map]
  congr 2
  funext i
  rw [Function.comp_apply, parent?_shift h, Option.isNone_map]

theorem grove_shift : (grove xs).shift h = grove ys := by
  rw [grove, grove, ← map_shift_finRange h, ← map_shift_withoutParent h,
    ← Grove.foldl_plant_shift h, ← Grove.foldl_plant_shift h]
  rfl

/-! ### Forests -/

theorem inconsistencies_congr : (ofSpans xs).inconsistencies = (ofSpans ys).inconsistencies := by
  rw [ofSpans, ofSpans, strayCount_congr h, ← grove_shift h]
  rfl

/-- What can be read off the trees agrees where it agrees on the spans. -/
theorem map_roots_congr {β : Type} {F : Span → β} (hF : xs.map F = ys.map F) :
    (ofSpans xs).roots.map (Tree.map F) = (ofSpans ys).roots.map (Tree.map F) := by
  have hlabels : (fun i => F (ys.get (shift h i))) = fun i => F (xs.get i) :=
    funext fun i => get_shift h hF i
  rw [ofSpans, ofSpans, ← grove_shift h, Grove.shift, List.map_map, List.map_map, List.map_map]
  apply List.map_congr_left
  intro t _
  simp only [Function.comp_apply, Tree.map_map, hlabels]

theorem map_label_nodes_congr {β : Type} {F : Span → β} (hF : xs.map F = ys.map F) :
    (ofSpans xs).nodes.map (fun t => F t.label) = (ofSpans ys).nodes.map fun t => F t.label := by
  have hlabels (f : Forest) :
      f.nodes.map (fun t => F t.label) = (f.roots.map (Tree.map F)).flatMap Tree.labels := by
    rw [List.flatMap_map]
    simp only [Tree.labels_map]
    rw [← List.map_flatMap, ← labels_nodes, List.map_map]
    rfl
  rw [hlabels, hlabels, map_roots_congr h hF]

end Forest

end Telemetry
