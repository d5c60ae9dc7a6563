import Telemetry.Duration
import Mathlib.Algebra.GroupWithZero.Nat
import Mathlib.Data.List.FinRange

/-!
# Sums and counts over lists

What becomes of a sum or a count when one entry of the list is changed, how lengths add up, and what one
more entry brings. A sum of durations is the sum of their nanoseconds up to the cut.
-/
namespace Telemetry

theorem sum_map_modify {α : Type} (g : α → Nat) (f : α → α) {l : List α} {i : Nat} {a : α}
    (h : l[i]? = some a) :
    ((l.modify i f).map g).sum + g a = (l.map g).sum + g (f a) := by
  induction l generalizing i with
  | nil => cases h
  | cons b rest ih =>
    cases i with
    | zero =>
      obtain rfl := Option.some.inj h
      rw [List.modify_zero_cons, List.map_cons, List.map_cons, List.sum_cons, List.sum_cons]
      omega
    | succ i =>
      have hi := ih (i := i) h
      rw [List.modify_succ_cons, List.map_cons, List.map_cons, List.sum_cons, List.sum_cons]
      omega

theorem countP_modify {α : Type} (q : α → Bool) (f : α → α) {l : List α} {i : Nat} {a : α}
    (h : l[i]? = some a) :
    (l.modify i f).countP q + (q a).toNat = l.countP q + (q (f a)).toNat := by
  induction l generalizing i with
  | nil => cases h
  | cons b rest ih =>
    cases i with
    | zero =>
      obtain rfl := Option.some.inj h
      rw [List.modify_zero_cons, List.countP_cons, List.countP_cons]
      cases q b <;> cases q (f b) <;> simp
    | succ i =>
      have hi := ih (i := i) h
      rw [List.modify_succ_cons, List.countP_cons, List.countP_cons]
      omega

theorem sum_map_flatMap {α β : Type} (g : β → Nat) (f : α → List β) (l : List α) :
    ((l.flatMap f).map g).sum = (l.map fun a => ((f a).map g).sum).sum := by
  rw [List.map_flatMap, List.flatMap_def, List.sum_flatten, List.map_map]
  rfl

theorem filterMap_concat {α β : Type} (g : α → Option β) (l : List α) (a : α) :
    (l ++ [a]).filterMap g = l.filterMap g ++ (g a).toList := by
  rw [List.filterMap_append]
  cases h : g a <;> simp [h]

theorem map_eq_map_get {α β : Type} (l : List α) (f : α → β) :
    l.map f = (List.finRange l.length).map fun i => f (l.get i) := by
  conv_lhs => rw [← List.map_get_finRange l, List.map_map]
  rfl

theorem countP_eq_countP_get {α : Type} (l : List α) (q : α → Bool) :
    l.countP q = (List.finRange l.length).countP fun i => q (l.get i) := by
  conv_lhs => rw [← List.map_get_finRange l, List.countP_map]
  rfl

theorem filter_eq_map_get {α : Type} (l : List α) (q : α → Bool) :
    l.filter q = ((List.finRange l.length).filter fun i => q (l.get i)).map l.get := by
  conv_lhs => rw [← List.map_get_finRange l, List.filter_map]
  rfl

/-- Sorted by a key, the entries of a list are all in the group of their key and in no other. -/
theorem flatMap_filter_perm {α β : Type} [DecidableEq β] (key : α → β) {ks : List β}
    (hks : ks.Nodup) {l : List α} (hl : ∀ a ∈ l, key a ∈ ks) :
    (ks.flatMap fun k => l.filter (key · = k)).Perm l := by
  induction ks generalizing l with
  | nil =>
    have hnil : l = [] := List.eq_nil_iff_forall_not_mem.2 fun a ha => nomatch hl a ha
    rw [hnil]
    exact .refl _
  | cons k rest ih =>
    obtain ⟨hk, hrest⟩ := List.nodup_cons.1 hks
    let others := l.filter fun a => !decide (key a = k)
    have hothers : ∀ k' ∈ rest, l.filter (key · = k') = others.filter (key · = k') := by
      intro k' hk'
      rw [List.filter_filter]
      refine List.filter_congr fun a _ => ?_
      have hne : k' ≠ k := fun h => hk (h ▸ hk')
      by_cases ha : key a = k' <;> simp [ha, hne]
    have hmem : ∀ a ∈ others, key a ∈ rest := by
      intro a ha
      obtain ⟨hal, hne⟩ := List.mem_filter.1 ha
      exact (List.mem_cons.1 (hl a hal)).resolve_left (by simpa using hne)
    rw [List.flatMap_cons, List.flatMap_congr hothers]
    exact ((ih hrest hmem).append_left _).trans (List.filter_append_perm (key · = k) l)

namespace Duration

theorem nanos_foldl_add (ds : List Duration) (a : Duration) :
    (ds.foldl (· + ·) a).nanos = min (a.nanos + (ds.map nanos).sum) greatestNanos := by
  induction ds generalizing a with
  | nil => simpa using (Nat.min_eq_left a.nanos_le).symm
  | cons d rest ih =>
    rw [List.foldl_cons, ih, nanos_add, List.map_cons, List.sum_cons]
    omega

/-- Cutting after each step is the same as cutting once at the end. -/
theorem nanos_sum (ds : List Duration) :
    (sum ds).nanos = min (ds.map nanos).sum greatestNanos := by
  rw [sum, nanos_foldl_add, nanos_zero, Nat.zero_add]

end Duration

end Telemetry
