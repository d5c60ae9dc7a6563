import Telemetry.Metric.Table
import Telemetry.Proofs.Counting
import Mathlib.Order.Bounds.Basic

/-!
# Sums of timings

A timing sums up others if its calls and times are the sums of theirs, the times up to the cut, and its
shortest and longest call are the extremes of theirs. Merging more calls into one of the parts, or
adding them as a part, shows in the sum as merging the same calls into it.
-/
namespace Telemetry

namespace Duration

instance : LinearOrder Duration where
  le_refl a := Nat.le_refl a.nanos
  le_trans _ _ _ := Nat.le_trans
  le_antisymm _ _ hab hba := Duration.ext (Nat.le_antisymm hab hba)
  le_total a b := Nat.le_total a.nanos b.nanos
  lt_iff_le_not_ge _ _ := Nat.lt_iff_le_and_not_ge
  toDecidableLE := inferInstance

theorem sum_perm {ds es : List Duration} (h : ds.Perm es) : sum ds = sum es :=
  Duration.ext (by rw [nanos_sum, nanos_sum, (h.map nanos).sum_nat])

theorem sum_cons (d : Duration) (ds : List Duration) : sum (d :: ds) = sum ds + d := by
  refine Duration.ext ?_
  rw [nanos_add, nanos_sum, nanos_sum, List.map_cons, List.sum_cons]
  omega

theorem sum_singleton (d : Duration) : sum [d] = d := by
  refine Duration.ext ?_
  have hle := d.nanos_le
  rw [nanos_sum, List.map_singleton, List.sum_cons, List.sum_nil]
  omega

theorem sum_append (ds es : List Duration) : sum (ds ++ es) = sum ds + sum es := by
  refine Duration.ext ?_
  simp only [nanos_add, nanos_sum, List.map_append, List.sum_append]
  omega

theorem sum_flatMap {α : Type} (f : α → List Duration) (l : List α) :
    sum (l.flatMap f) = sum (l.map fun a => sum (f a)) := by
  induction l with
  | nil => rfl
  | cons a rest ih =>
    rw [List.flatMap_cons, sum_append, ih, List.map_cons, sum_cons]
    exact Duration.ext (by rw [nanos_add, nanos_add, Nat.add_comm])

protected theorem add_zero (d : Duration) : d + 0 = d :=
  Duration.ext (by rw [nanos_add, nanos_zero, Nat.add_zero, Nat.min_eq_left d.nanos_le])

/-- The cut makes no difference to the order in which durations are added. -/
theorem add_add (a b c : Duration) : a + b + c = a + (b + c) := by
  refine Duration.ext ?_
  simp only [nanos_add]
  omega

end Duration

section Extremes

variable {α : Type} [LinearOrder α] {s : Set α} {t u v : α}

/-- The least of some elements after one of them has been lowered. -/
theorem isLeast_insert_min (h : IsLeast (insert v s) t) (u : α) :
    IsLeast (insert (min v u) s) (min t u) := by
  have htv : t ≤ v := h.2 (Set.mem_insert v s)
  refine ⟨?_, ?_⟩
  · rcases le_total u t with hut | htu
    · rw [min_eq_right hut, min_eq_right (hut.trans htv)]
      exact Set.mem_insert u s
    · rw [min_eq_left htu]
      rcases h.1 with rfl | hts
      · exact Set.mem_insert_iff.2 (Or.inl (min_eq_left htu).symm)
      · exact Set.mem_insert_of_mem _ hts
  · rintro d (rfl | hd)
    · exact le_min ((min_le_left t u).trans htv) (min_le_right t u)
    · exact (min_le_left t u).trans (h.2 (Set.mem_insert_of_mem v hd))

theorem isGreatest_insert_max (h : IsGreatest (insert v s) t) (u : α) :
    IsGreatest (insert (max v u) s) (max t u) :=
  isLeast_insert_min (α := αᵒᵈ) h u

end Extremes

namespace Metric.Timing

theorem merge_of_called {a b : Timing} (ha : 0 < a.count) (hb : 0 < b.count) :
    a.merge b = ⟨a.count + b.count, a.total + b.total, a.exclusive + b.exclusive,
      min a.least b.least, max a.greatest b.greatest, a.sumOfSquares + b.sumOfSquares⟩ := by
  rw [merge, if_neg ha.ne', if_neg hb.ne']

/-- The timing tells of all calls of the others together, each of which has some. -/
structure SumsUp (t : Timing) (ts : List Timing) : Prop where
  called : ∀ u ∈ ts, 0 < u.count
  count : t.count = (ts.map (·.count)).sum
  total : t.total = .sum (ts.map (·.total))
  exclusive : t.exclusive = .sum (ts.map (·.exclusive))
  least : IsLeast {d | d ∈ ts.map (·.least)} t.least
  greatest : IsGreatest {d | d ∈ ts.map (·.greatest)} t.greatest

theorem setOf_mem_map_cons (field : Timing → Duration) (u : Timing) (ts : List Timing) :
    {d | d ∈ (u :: ts).map field} = insert (field u) {d | d ∈ ts.map field} := by
  ext d
  rw [List.map_cons, Set.mem_ofPred, List.mem_cons, Set.mem_insert_iff, Set.mem_ofPred]

namespace SumsUp

variable {t u v : Timing} {ts us : List Timing}

theorem perm (h : t.SumsUp ts) (hperm : ts.Perm us) : t.SumsUp us where
  called v hv := h.called v (hperm.mem_iff.2 hv)
  count := by rw [h.count, (hperm.map _).sum_nat]
  total := by rw [h.total, Duration.sum_perm (hperm.map _)]
  exclusive := by rw [h.exclusive, Duration.sum_perm (hperm.map _)]
  least := by simpa only [(hperm.map _).mem_iff] using h.least
  greatest := by simpa only [(hperm.map _).mem_iff] using h.greatest

theorem singleton (hu : 0 < u.count) : u.SumsUp [u] where
  called := by simpa using hu
  count := by simp
  total := (Duration.sum_singleton u.total).symm
  exclusive := (Duration.sum_singleton u.exclusive).symm
  least := by simp
  greatest := by simp

theorem count_pos (h : t.SumsUp ts) : 0 < t.count := by
  cases ts with
  | nil => cases h.least.1
  | cons v rest =>
    have hv := h.called v List.mem_cons_self
    rw [h.count, List.map_cons, List.sum_cons]
    omega

/-- One more part. -/
theorem cons (h : t.SumsUp ts) (hu : 0 < u.count) : (t.merge u).SumsUp (u :: ts) := by
  rw [merge_of_called h.count_pos hu]
  refine ⟨List.forall_mem_cons.2 ⟨hu, h.called⟩, ?_, ?_, ?_, ?_, ?_⟩
  · rw [h.count, List.map_cons, List.sum_cons, Nat.add_comm]
  · rw [h.total, List.map_cons, Duration.sum_cons]
  · rw [h.exclusive, List.map_cons, Duration.sum_cons]
  · rw [setOf_mem_map_cons, min_comm]
    exact h.least.insert u.least
  · rw [setOf_mem_map_cons, max_comm]
    exact h.greatest.insert u.greatest

/-- More calls in one of the parts. -/
theorem grow (h : t.SumsUp (v :: ts)) (hu : 0 < u.count) :
    (t.merge u).SumsUp (v.merge u :: ts) := by
  have hv : 0 < v.count := h.called v List.mem_cons_self
  have hrest : ∀ w ∈ ts, 0 < w.count := fun w hw => h.called w (List.mem_cons_of_mem v hw)
  have hleast := h.least
  have hgreatest := h.greatest
  rw [setOf_mem_map_cons] at hleast hgreatest
  rw [merge_of_called h.count_pos hu, merge_of_called hv hu]
  refine ⟨List.forall_mem_cons.2 ⟨Nat.add_pos_left hv _, hrest⟩, ?_, ?_, ?_, ?_, ?_⟩
  · simp only [h.count, List.map_cons, List.sum_cons]
    omega
  · simp only [h.total, List.map_cons, Duration.sum_cons, Duration.add_add]
  · simp only [h.exclusive, List.map_cons, Duration.sum_cons, Duration.add_add]
  · rw [setOf_mem_map_cons]
    exact isLeast_insert_min hleast u.least
  · rw [setOf_mem_map_cons]
    exact isGreatest_insert_max hgreatest u.greatest

end SumsUp

end Metric.Timing

namespace Metric.Data

/-- What is there is the timing that the parts sum up to, or nothing if there are no parts. -/
inductive Sums : Option Data → List Data → Prop
  | none : Sums .none []
  | timing {t : Timing} {ts : List Timing} (h : t.SumsUp ts) :
      Sums (some (.timing t)) (ts.map .timing)

/-- Calls that come into one of the parts, or as a part of their own, come into the sum. -/
theorem Sums.merge {found part : Option Data} {before after : List Data}
    (h : Sums found (before ++ part.toList ++ after)) {new : Option Data}
    (hnew : ∀ d ∈ new, ∃ u : Timing, d = .timing u ∧ 0 < u.count) :
    Sums (found.merge Data.merge new)
      (before ++ (part.merge Data.merge new).toList ++ after) := by
  cases new with
  | none => rwa [Option.merge_none_right, Option.merge_none_right]
  | some d =>
    obtain ⟨u, rfl, hu⟩ := hnew d rfl
    generalize hds : before ++ part.toList ++ after = ds at h
    cases h with
    | none =>
      obtain ⟨rfl, rfl, rfl⟩ : before = [] ∧ part = Option.none ∧ after = [] := by simpa using hds
      exact Sums.timing (Timing.SumsUp.singleton hu)
    | @timing t ts hsum =>
      obtain ⟨_, ts₃, rfl, hfront, rfl⟩ := List.map_eq_append_iff.1 hds.symm
      obtain ⟨ts₁, ts₂, rfl, rfl, hpart⟩ := List.map_eq_append_iff.1 hfront
      cases part with
      | none =>
        obtain rfl := List.map_eq_nil_iff.1 hpart
        rw [List.append_nil] at hsum
        have hmore : (t.merge u).SumsUp (ts₁ ++ u :: ts₃) :=
          (hsum.cons hu).perm List.perm_middle.symm
        simpa [Data.merge] using Sums.timing hmore
      | some e =>
        obtain ⟨v, rfl, rfl⟩ := List.map_eq_singleton_iff.1 hpart
        rw [List.append_assoc, List.singleton_append] at hsum
        have hmore : (t.merge u).SumsUp (ts₁ ++ v.merge u :: ts₃) :=
          ((hsum.perm List.perm_middle).grow hu).perm List.perm_middle.symm
        simpa [Data.merge] using Sums.timing hmore

end Metric.Data

end Telemetry
