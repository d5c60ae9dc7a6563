import Telemetry.Intake
import Telemetry.Proofs.Forest.Grove
import Telemetry.Proofs.Transaction.Soundness
import Mathlib.Algebra.BigOperators.Group.List.Basic

/-!
# Forests of completed transactions

Where the links are sound, the forest is the one that the parent links describe: its roots are the
spans without a parent, no span is promoted, and a stray entry is left behind by each move of a
child and by nothing else.
-/
namespace Telemetry.Transaction

open Forest

variable {spans : List Span} {moved : Nat}

theorem getElem?_get (i : Fin spans.length) : spans[(i : Nat)]? = some (spans.get i) :=
  List.getElem?_eq_getElem i.isLt

theorem get_eq_of_getElem? {i : Fin spans.length} {s : Span} (hs : spans[(i : Nat)]? = some s) :
    spans.get i = s :=
  Option.some.inj ((getElem?_get i).symm.trans hs)

theorem under_iff_parent_get {i : Fin spans.length} {p : Nat} :
    Under spans i p ↔ (spans.get i).parent = some p := under_of_getElem? (getElem?_get i)

theorem Sound.id_get (h : Sound spans moved) (i : Fin spans.length) : (spans.get i).id = i :=
  h.ids i _ (getElem?_get i)

theorem Sound.position?_iff (h : Sound spans moved) {id : Nat} {i : Fin spans.length} :
    position? spans id = some i ↔ i = id := by
  rw [position?_eq_some_iff, h.id_get]
  intro i j hij
  rw [h.id_get, h.id_get] at hij
  exact Fin.ext hij

theorem Sound.parent?_iff (h : Sound spans moved) {i p : Fin spans.length} :
    parent? spans i = some p ↔ (spans.get i).parent = some (p : Nat) := by
  rw [parent?, h.id_get]
  cases hp : (spans.get i).parent with
  | none => simp
  | some q =>
    have hself : q ≠ i := by
      rintro rfl
      exact h.acyclic i (.single (under_iff_parent_get.mpr hp))
    rw [Option.some.injEq]
    dsimp only
    rw [if_neg hself, h.position?_iff]
    exact eq_comm

theorem Sound.parent?_isSome (h : Sound spans moved) (i : Fin spans.length) :
    (parent? spans i).isSome = (spans.get i).parent.isSome := by
  cases hp : (spans.get i).parent with
  | none =>
    rw [parent?, hp]
    rfl
  | some p =>
    have hlt : p < spans.length := h.closed i p (under_iff_parent_get.mpr hp)
    rw [h.parent?_iff (p := ⟨p, hlt⟩) |>.mpr hp]
    rfl

theorem Sound.mem_kept_iff (h : Sound spans moved) {i c : Fin spans.length} :
    c ∈ kept spans i ↔ parent? spans c = some i := by
  rw [mem_kept]
  refine ⟨fun hc => hc.2, fun hc => ⟨?_, hc⟩⟩
  obtain ⟨_, q, hq, hmem⟩ := h.linked c _ i (getElem?_get c) (h.parent?_iff.mp hc)
  obtain rfl := get_eq_of_getElem? hq
  exact ⟨c, hmem, h.position?_iff.mpr rfl⟩

/-! ### Every span grows below a span without a parent -/

theorem Sound.mem_labels_of_climbs (h : Sound spans moved) {g : Grove spans} (hg : g.Settled)
    (hroots : ∀ i ∈ withoutParent spans, i ∈ g.labels) {cursor : Option Nat} {n : Nat} {b : Bool}
    (hclimb : Climbs spans spans.length cursor n b) :
    ∀ i : Fin spans.length, cursor = some (i : Nat) → i ∈ g.labels := by
  induction hclimb with
  | passedRoot => exact fun i hi => nomatch hi
  | met =>
    intro i hi
    have := i.isLt
    have := Option.some.inj hi
    omega
  | @up j n s b _ hs _ ih =>
    intro i hi
    obtain rfl := Option.some.inj hi
    obtain rfl := get_eq_of_getElem? hs
    cases hp : parent? spans i with
    | none =>
      apply hroots i
      rw [withoutParent, List.mem_filter, hp]
      exact ⟨List.mem_finRange i, rfl⟩
    | some p => exact hg.down p (ih p (h.parent?_iff.mp hp)) i (h.mem_kept_iff.mpr hp)

/-- The grove after the spans without a parent have been planted. -/
theorem Sound.grove_eq (h : Sound spans moved) :
    grove spans = (withoutParent spans).foldl (Grove.plant false) ⟨[], 0⟩ := by
  rw [grove]
  apply Grove.foldl_plant_of_covered
  intro i _
  obtain ⟨n, _, hclimb⟩ := climbs_closesCycle h.acyclic h.closed i.isLt spans.length
  exact h.mem_labels_of_climbs (Grove.settled_empty.foldl_plant _)
    (fun j hj => Grove.mem_labels_foldl_plant hj) hclimb i rfl

theorem Sound.promoted_grove (h : Sound spans moved) : (grove spans).promoted = 0 := by
  rw [h.grove_eq, Grove.promoted_foldl_plant]

theorem Sound.roots_grove (h : Sound spans moved) : (grove spans).roots = withoutParent spans := by
  rw [h.grove_eq, Grove.settled_empty.roots_foldl_plant]
  · rfl
  · intro i hi
    exact Option.isNone_iff_eq_none.mp (List.mem_filter.mp hi).2
  · exact (List.nodup_finRange _).filter _

theorem Sound.labels_roots (h : Sound spans moved) :
    (ofSpans spans).roots.map Tree.label = spans.filter (·.parent.isNone) := by
  have hparent (i : Fin spans.length) :
      (parent? spans i).isNone = (spans.get i).parent.isNone := by
    rw [← Option.not_isSome, ← Option.not_isSome, h.parent?_isSome]
  rw [labels_roots_ofSpans, h.roots_grove, withoutParent, filter_eq_map_get spans]
  exact congrArg (List.map spans.get) (List.filter_congr fun i _ => hparent i)

/-- No kept child is a root. -/
theorem Sound.kept_filter (h : Sound spans moved) (i : Fin spans.length) :
    (kept spans i).filter (!(grove spans).roots.contains ·) = kept spans i := by
  rw [List.filter_eq_self]
  intro c hc
  have hroot : c ∉ (grove spans).roots := by
    rw [h.roots_grove, withoutParent, List.mem_filter, parent_of_mem_kept hc]
    exact fun hroot => Bool.false_ne_true hroot.2
  simpa using hroot

theorem Sound.labels_children (h : Sound spans moved) {n : Tree Span}
    (hn : n ∈ (ofSpans spans).nodes) :
    (n.children.map Tree.label).Perm (spans.filter (·.parent == some n.label.id)) := by
  obtain ⟨i, hlabel, hchildren⟩ := labels_of_mem_nodes hn
  have hkept : (kept spans i).Perm
      ((List.finRange spans.length).filter fun c => (spans.get c).parent == some (i : Nat)) := by
    rw [List.perm_ext_iff_of_nodup nodup_kept ((List.nodup_finRange _).filter _)]
    intro c
    rw [h.mem_kept_iff, List.mem_filter, beq_iff_eq, ← h.parent?_iff]
    exact ⟨fun hc => ⟨List.mem_finRange c, hc⟩, fun hc => hc.2⟩
  rw [hchildren, h.kept_filter, hlabel, h.id_get, filter_eq_map_get spans]
  exact hkept.map spans.get

/-! ### Stray entries -/

/-- Each span with a parent is kept by that parent and by no other span. -/
theorem Sound.total_kept (h : Sound spans moved) :
    ((List.finRange spans.length).map fun i => (kept spans i).length).sum = linkCount spans := by
  have hnodup : ((List.finRange spans.length).flatMap (kept spans)).Nodup := by
    rw [List.nodup_flatMap]
    refine ⟨fun i _ => nodup_kept, ?_⟩
    apply (List.nodup_finRange spans.length).imp
    intro i j hij c hi hj
    exact hij (kept_parent_unique hi hj)
  have hperm : ((List.finRange spans.length).flatMap (kept spans)).Perm
      ((List.finRange spans.length).filter fun c => (spans.get c).parent.isSome) := by
    rw [List.perm_ext_iff_of_nodup hnodup ((List.nodup_finRange _).filter _)]
    intro c
    rw [List.mem_flatMap, List.mem_filter, ← h.parent?_isSome, Option.isSome_iff_exists]
    simp only [h.mem_kept_iff, List.mem_finRange, true_and]
  rw [← List.length_flatMap, hperm.length_eq, linkCount, List.countP_eq_length_filter,
    filter_eq_map_get spans, List.length_map]

theorem Sound.strayCount_eq (h : Sound spans moved) : strayCount spans = moved := by
  have hparents : (List.finRange spans.length).countP (hasStrayParent spans) = 0 := by
    rw [List.countP_eq_zero]
    intro i _
    rw [hasStrayParent, ← h.parent?_isSome, ← Option.not_isSome, Bool.and_not_self]
    exact Bool.false_ne_true
  have hentries : entryCount spans =
      ((List.finRange spans.length).map fun i => (spans.get i).children.length).sum := by
    rw [entryCount, map_eq_map_get spans]
  have hsplit : ((List.finRange spans.length).map fun i => (kept spans i).length).sum +
      ((List.finRange spans.length).map fun i => (sift spans i).2).sum = entryCount spans := by
    rw [← List.sum_map_add, hentries]
    exact congrArg List.sum (List.map_congr_left fun i _ => length_kept_add_stray)
  rw [h.total_kept, h.counted] at hsplit
  rw [strayCount, hparents, Nat.zero_add]
  exact Nat.add_left_cancel hsplit

theorem Sound.inconsistencies_eq (h : Sound spans moved) :
    (ofSpans spans).inconsistencies = moved := by
  rw [ofSpans, h.promoted_grove, h.strayCount_eq, Nat.add_zero]

/-! ### Completion -/

theorem step_complete_eq {t t' : Transaction} {duration : Duration} {s : Snapshot}
    (h : t.step (.complete duration) = (t', .completed s)) :
    t.completed = false ∧ s = t.snapshot duration := by
  rw [step] at h
  split_ifs at h with hdone
  · cases h
  · cases h
    exact ⟨Bool.not_eq_true _ ▸ hdone, rfl⟩

theorem report_outcome (i : Intake) (rules : ReportRules) (s : Snapshot) (hspans : s.spans ≠ [])
    (hflag : s.ignored = false) (hname : (rules.naming.nameOf s.name).ignored = false) :
    (i.report rules s).2 = .reported (ofSpans s.spans).inconsistencies := by
  have hempty : s.spans.isEmpty = false := List.isEmpty_eq_false_iff.mpr hspans
  have hexamine : rules.examine s = .report (rules.report s (rules.naming.nameOf s.name)) := by
    simp [ReportRules.examine, hflag, hempty, hname]
  rw [Intake.report, hexamine]
  rfl

/-- The forest of a completed transaction is the one that the final parent links describe, and what
it counts as inconsistent is how often a child was moved; so is what a report of it tells. -/
theorem ofSpans_of_completed (name : TransactionName) (guid : String) (now : Instant)
    (ops : List Operation) (duration : Duration) (t : Transaction) (s : Snapshot)
    (h : ((start name guid now).run ops).1.step (.complete duration) = (t, .completed s)) :
    (ofSpans s.spans).roots.map Tree.label = s.spans.filter (·.parent.isNone) ∧
    ((ofSpans s.spans).nodes.map Tree.label).Perm s.spans ∧
    (∀ i (hi : i < s.spans.length), s.spans[i].id = i) ∧
    (∀ n ∈ (ofSpans s.spans).nodes,
      (n.children.map Tree.label).Perm (s.spans.filter (·.parent == some n.label.id))) ∧
    (grove s.spans).promoted = 0 ∧
    (ofSpans s.spans).inconsistencies = s.moved ∧
    ∀ (i : Intake) (rules : ReportRules), s.spans ≠ [] → s.ignored = false →
      (rules.naming.nameOf s.name).ignored = false → (i.report rules s).2 = .reported s.moved := by
  obtain ⟨hopen, rfl⟩ := step_complete_eq h
  have hsound : Sound _ _ := Sound.run (t := start name guid now) sound_nil hopen
  refine ⟨hsound.labels_roots, nodes_ofSpans_perm _, ?_, ?_, hsound.promoted_grove,
    hsound.inconsistencies_eq, ?_⟩
  · exact fun i hi => hsound.id_get ⟨i, hi⟩
  · exact fun n hn => hsound.labels_children hn
  · intro i rules hspans hflag hname
    rw [report_outcome i rules _ hspans hflag hname]
    exact congrArg Outcome.reported hsound.inconsistencies_eq

theorem ofSpans_of_movedBack :
    let t := ((start ⟨.web, "Uri", "users"⟩ "guid" .epoch).run movedBack).1
    let s := t.snapshot (.ofMillis 9)
    (t.step (.complete (.ofMillis 9))) = (t.close, .completed s) ∧
    s.spans.length = 3 ∧ (ofSpans s.spans).roots.map Tree.label = s.spans.filter (·.parent.isNone) ∧
    (grove s.spans).promoted = 0 ∧ (ofSpans s.spans).inconsistencies = 2 := by
  have h :=
    ofSpans_of_completed ⟨.web, "Uri", "users"⟩ "guid" .epoch movedBack (.ofMillis 9) _ _ rfl
  exact ⟨rfl, rfl, h.1, h.2.2.2.2.1, h.2.2.2.2.2.1⟩

end Telemetry.Transaction
