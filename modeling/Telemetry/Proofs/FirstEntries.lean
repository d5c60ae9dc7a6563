import Mathlib.Data.List.NodupEquivFin
import Mathlib.Data.List.Range

/-!
# Lists that are told by their order

A list is told by its members and a strict order in which they stand. Without its repetitions a list
stands in the order of first entries, and there are as many of these as there are places at which an
entry is met first.
-/
namespace Telemetry

theorem eq_of_map_eq {α β : Type} {f : α → β} {l l' : List α} (h : l.map f = l'.map f)
    (heq : ∀ a ∈ l, ∀ b ∈ l', f a = f b → a = b) : l = l' := by
  induction l generalizing l' with
  | nil => exact (List.map_eq_nil_iff.mp h.symm).symm
  | cons a rest ih =>
    cases l' with
    | nil => cases h
    | cons b rest' =>
      rw [List.map_cons, List.map_cons, List.cons.injEq] at h
      have hhead := heq a List.mem_cons_self b List.mem_cons_self h.1
      have hrest := ih h.2 fun c hc d hd =>
        heq c (List.mem_cons_of_mem a hc) d (List.mem_cons_of_mem b hd)
      rw [hhead, hrest]

theorem nodup_of_pairwise_lt {α : Type} {key : α → Nat} {l : List α}
    (h : l.Pairwise fun a b => key a < key b) : l.Nodup := by
  apply h.imp
  rintro a b hab rfl
  omega

/-- Lists with the same members in the same strict order are equal. -/
theorem eq_of_mem_of_pairwise_lt {α : Type} {key : α → Nat} {l l' : List α}
    (hmem : ∀ a, a ∈ l ↔ a ∈ l') (hl : l.Pairwise fun a b => key a < key b)
    (hl' : l'.Pairwise fun a b => key a < key b) : l = l' := by
  apply List.Perm.eq_of_pairwise _ hl hl'
  · rw [List.perm_ext_iff_of_nodup (nodup_of_pairwise_lt hl) (nodup_of_pairwise_lt hl')]
    exact hmem
  · intro a b _ _ hab hba
    omega

section FirstEntries

variable {α : Type} [DecidableEq α]

/-- Without repetitions the entries stand in the order in which each is met first. -/
theorem pairwise_eraseDups_filter (q : α → Bool) (l : List α) :
    (l.filter q).eraseDups.Pairwise fun a b => l.idxOf a < l.idxOf b := by
  induction l generalizing q with
  | nil => exact List.Pairwise.nil
  | cons x rest ih =>
    have hshift {r : α → Bool} (hr : ∀ a, r a = true → a ≠ x) :
        (rest.filter r).eraseDups.Pairwise
          fun a b => (x :: rest).idxOf a < (x :: rest).idxOf b := by
      apply (ih r).imp_of_mem
      intro a b ha hb hab
      have hax := hr a (List.mem_filter.mp (List.mem_eraseDups.mp ha)).2
      have hbx := hr b (List.mem_filter.mp (List.mem_eraseDups.mp hb)).2
      rw [List.idxOf_cons_ne _ hax.symm, List.idxOf_cons_ne _ hbx.symm]
      omega
    by_cases hq : q x = true
    · rw [List.filter_cons_of_pos hq, List.eraseDups_cons, List.filter_filter, List.pairwise_cons]
      refine ⟨?_, hshift fun a ha => by simp_all⟩
      intro b hb
      have hbx : b ≠ x := by
        have := (List.mem_filter.mp (List.mem_eraseDups.mp hb)).2
        simp_all
      rw [List.idxOf_cons_self, List.idxOf_cons_ne _ hbx.symm]
      omega
    · rw [List.filter_cons_of_neg hq]
      apply hshift
      rintro a ha rfl
      exact hq ha

theorem countP_first_entries (q : α → Bool) (l : List α) :
    l.zipIdx.countP (fun e => q e.1 && l.idxOf e.1 == e.2) =
      (l.filter q).eraseDups.length := by
  have hentries : l.zipIdx.Nodup := by
    apply List.Nodup.of_map Prod.snd
    rw [List.zipIdx_map_snd]
    exact List.nodup_range'
  have hfirst : ((l.filter q).eraseDups.map fun a => (a, l.idxOf a)).Nodup :=
    (nodup_of_pairwise_lt (pairwise_eraseDups_filter q l)).map fun a b h => congrArg Prod.fst h
  have hperm : (l.zipIdx.filter fun e => q e.1 && l.idxOf e.1 == e.2).Perm
      ((l.filter q).eraseDups.map fun a => (a, l.idxOf a)) := by
    rw [List.perm_ext_iff_of_nodup (hentries.filter _) hfirst]
    rintro ⟨a, n⟩
    rw [List.mem_filter, List.mem_zipIdx_iff_getElem?, List.mem_map]
    constructor
    · rintro ⟨hget, hq⟩
      rw [Bool.and_eq_true, beq_iff_eq] at hq
      refine ⟨a, ?_, by rw [hq.2]⟩
      rw [List.mem_eraseDups, List.mem_filter]
      exact ⟨List.mem_of_getElem? hget, hq.1⟩
    · rintro ⟨b, hb, heq⟩
      rw [List.mem_eraseDups, List.mem_filter] at hb
      cases heq
      exact ⟨List.getElem?_idxOf hb.1, by simp [hb.2]⟩
  rw [List.countP_eq_length_filter, hperm.length_eq, List.length_map]

end FirstEntries

end Telemetry
