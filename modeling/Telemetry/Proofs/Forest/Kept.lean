import Telemetry.Forest.Links
import Mathlib.Data.List.FinRange

/-!
# Kept links

A kept link joins a parent to a child that names it, once for each child, and no child is kept by
two parents. Entries that are not kept are stray, and both together make up the list of the parent.
-/
namespace Telemetry

theorem eraseDups_of_nodup {α : Type} [BEq α] [LawfulBEq α] {l : List α} (h : l.Nodup) :
    l.eraseDups = l := by
  induction l with
  | nil => rfl
  | cons a rest ih =>
    rw [List.nodup_cons] at h
    have hrest : rest.filter (fun b => !b == a) = rest := by
      rw [List.filter_eq_self]
      intro b hb
      simpa using fun heq : b = a => h.1 (heq ▸ hb)
    rw [List.eraseDups_cons, hrest, ih h.2]

namespace Forest

variable {spans : List Span}

theorem id_of_position? {id : Nat} {i : Fin spans.length} (h : position? spans id = some i) :
    (spans.get i).id = id := by
  induction spans with
  | nil => cases h
  | cons s rest ih =>
    rw [position?] at h
    cases hr : position? rest id with
    | some j =>
      rw [hr] at h
      obtain rfl := Option.some.inj h
      exact ih hr
    | none =>
      rw [hr] at h
      dsimp only at h
      split_ifs at h with hs
      obtain rfl := Option.some.inj h
      exact hs

theorem position?_isSome {i : Fin spans.length} :
    (position? spans (spans.get i).id).isSome = true := by
  induction spans with
  | nil => exact i.elim0
  | cons s rest ih =>
    rw [position?]
    cases hr : position? rest ((s :: rest).get i).id with
    | some j => rfl
    | none =>
      cases i using Fin.cases with
      | zero => simp
      | succ j =>
        have hj : (position? rest ((s :: rest).get j.succ).id).isSome = true := ih
        rw [hr] at hj
        cases hj

/-- Where identifiers differ, the position of one is where it stands. -/
theorem position?_eq_some_iff (hid : ∀ i j : Fin spans.length,
    (spans.get i).id = (spans.get j).id → i = j) {id : Nat} {i : Fin spans.length} :
    position? spans id = some i ↔ (spans.get i).id = id := by
  constructor
  · exact id_of_position?
  · rintro rfl
    obtain ⟨j, hj⟩ := Option.isSome_iff_exists.mp (position?_isSome (i := i))
    rw [hj, hid j i (id_of_position? hj)]

theorem child?_eq_some_iff {i c : Fin spans.length} {entry : Nat} :
    child? spans i entry = some c ↔ position? spans entry = some c ∧ parent? spans c = some i := by
  rw [child?, Option.filter_eq_some_iff, beq_iff_eq]

variable {i c : Fin spans.length}

theorem mem_siftFrom (met : List (Fin spans.length)) (entries : List Nat) :
    c ∈ (siftFrom spans i met entries).1 ↔
      c ∈ met ∨ ∃ e ∈ entries, child? spans i e = some c := by
  fun_induction siftFrom spans i met entries with
  | case1 met => simp
  | case2 met e rest d hd hmet r ih =>
    rw [ih]
    have hdm : d ∈ met := List.contains_iff_mem.mp hmet
    simp only [List.mem_cons, exists_eq_or_imp, hd, Option.some.injEq]
    grind
  | case3 met e rest d hd hmet ih =>
    rw [ih]
    simp only [List.mem_append, List.mem_cons, List.not_mem_nil, or_false, exists_eq_or_imp, hd,
      Option.some.injEq]
    grind
  | case4 met e rest hd r ih =>
    rw [ih]
    simp only [List.mem_cons, exists_eq_or_imp, hd, reduceCtorEq, false_or]

theorem nodup_siftFrom {met : List (Fin spans.length)} (hmet : met.Nodup) (entries : List Nat) :
    (siftFrom spans i met entries).1.Nodup := by
  fun_induction siftFrom spans i met entries with
  | case1 met => exact hmet
  | case2 met e rest d hd hc r ih => exact ih hmet
  | case3 met e rest d hd hc ih =>
    have hdm : d ∉ met := fun hm => hc (List.contains_iff_mem.mpr hm)
    exact ih (List.nodup_append_comm.mp (List.nodup_cons.mpr ⟨hdm, hmet⟩))
  | case4 met e rest hd r ih => exact ih hmet

theorem length_siftFrom (met : List (Fin spans.length)) (entries : List Nat) :
    (siftFrom spans i met entries).1.length + (siftFrom spans i met entries).2 =
      met.length + entries.length := by
  fun_induction siftFrom spans i met entries with
  | case1 met => rfl
  | case2 met e rest d hd hc r ih =>
    have hr : r.1.length + r.2 = met.length + rest.length := ih
    change r.1.length + (r.2 + 1) = _
    rw [List.length_cons]
    omega
  | case3 met e rest d hd hc ih =>
    rw [ih, List.length_append, List.length_singleton, List.length_cons]
    omega
  | case4 met e rest hd r ih =>
    have hr : r.1.length + r.2 = met.length + rest.length := ih
    change r.1.length + (r.2 + 1) = _
    rw [List.length_cons]
    omega

theorem nodup_kept : (kept spans i).Nodup := nodup_siftFrom List.nodup_nil _

theorem mem_kept : c ∈ kept spans i ↔
    (∃ e ∈ (spans.get i).children, position? spans e = some c) ∧ parent? spans c = some i := by
  rw [kept, sift, mem_siftFrom]
  simp only [List.not_mem_nil, false_or, child?_eq_some_iff]
  grind

theorem parent_of_mem_kept (h : c ∈ kept spans i) : parent? spans c = some i := (mem_kept.mp h).2

theorem kept_parent_unique {j : Fin spans.length} (hi : c ∈ kept spans i)
    (hj : c ∈ kept spans j) : i = j :=
  Option.some.inj ((parent_of_mem_kept hi).symm.trans (parent_of_mem_kept hj))

/-- Of the entries that stand for a child only the first for each child counts. -/
theorem ids_siftFrom (met : List (Fin spans.length))
    (hmet : ∀ d ∈ met, position? spans (spans.get d).id = some d)
    (hnodup : (met.map fun d => (spans.get d).id).Nodup) (entries : List Nat) :
    (siftFrom spans i met entries).1.map (fun d => (spans.get d).id) =
      (met.map (fun d => (spans.get d).id) ++
        entries.filter fun e => (child? spans i e).isSome).eraseDups := by
  fun_induction siftFrom spans i met entries with
  | case1 met =>
    rw [List.filter_nil, List.append_nil, eraseDups_of_nodup hnodup]
  | case2 met e rest d hd hc r ih =>
    have hmem : e ∈ met.map fun d => (spans.get d).id := by
      rw [← id_of_position? (child?_eq_some_iff.mp hd).1]
      exact List.mem_map_of_mem (List.contains_iff_mem.mp hc)
    rw [List.filter_cons_of_pos (by rw [hd]; rfl), List.eraseDups_append, List.cons_removeAll,
      List.contains_iff_mem.mpr hmem, if_neg (by simp), ← List.eraseDups_append]
    exact ih hmet hnodup
  | case3 met e rest d hd hc ih =>
    have hposition := (child?_eq_some_iff.mp hd).1
    have hid := id_of_position? hposition
    have hmet' : ∀ d' ∈ met ++ [d], position? spans (spans.get d').id = some d' := by
      intro d' hd'
      rcases List.mem_append.mp hd' with hold | hnew
      · exact hmet d' hold
      · rw [List.mem_singleton.mp hnew, hid, hposition]
    have hnew : (spans.get d).id ∉ met.map fun d => (spans.get d).id := by
      intro hmem
      obtain ⟨d', hd', heq⟩ := List.mem_map.mp hmem
      have hsame := hmet d' hd'
      rw [heq, hid, hposition] at hsame
      exact hc (List.contains_iff_mem.mpr (Option.some.inj hsame ▸ hd'))
    have hnodup' : ((met ++ [d]).map fun d => (spans.get d).id).Nodup := by
      rw [List.map_append]
      exact List.nodup_append_comm.mp (List.nodup_cons.mpr ⟨hnew, hnodup⟩)
    rw [ih hmet' hnodup', List.filter_cons_of_pos (by rw [hd]; rfl), List.map_append,
      List.append_assoc, List.map_singleton, hid]
    rfl
  | case4 met e rest hd r ih =>
    rw [List.filter_cons_of_neg (by rw [hd]; simp)]
    exact ih hmet hnodup

/-- The children that are kept, in the order of the first entry for each. -/
theorem ids_kept : (kept spans i).map (fun d => (spans.get d).id) =
    ((spans.get i).children.filter fun e => (child? spans i e).isSome).eraseDups :=
  ids_siftFrom [] (fun _ h => nomatch h) List.nodup_nil _

theorem length_kept_add_stray :
    (kept spans i).length + (sift spans i).2 = (spans.get i).children.length := by
  rw [kept, sift, length_siftFrom, List.length_nil, Nat.zero_add]

end Forest

end Telemetry
