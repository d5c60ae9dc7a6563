import Telemetry.Proofs.Metric.Shares
import Telemetry.Proofs.Metric.Sums

/-!
# Tallies of errors and zones

A statistic tells of a number of calls if they are its count, and of the cases of Apdex if it has those
in each zone and their least and greatest target. Whoever merges two statistics has the calls and the
cases of both.
-/
namespace Telemetry.Metric

/-- A transaction with a target, before its zone is settled. -/
structure Case where
  duration : Duration
  target : Duration
  failed : Bool
deriving DecidableEq

namespace Case

def Satisfying (k : Case) : Prop := k.failed = false ∧ k.duration.nanos ≤ k.target.nanos

/-- Four times the target is meant without a cut. -/
def Tolerating (k : Case) : Prop :=
  k.failed = false ∧ k.target.nanos < k.duration.nanos ∧ k.duration.nanos ≤ 4 * k.target.nanos

instance : DecidablePred Satisfying := fun k =>
  inferInstanceAs (Decidable (k.failed = false ∧ k.duration.nanos ≤ k.target.nanos))

instance : DecidablePred Tolerating := fun k =>
  inferInstanceAs (Decidable (k.failed = false ∧ k.target.nanos < k.duration.nanos ∧
    k.duration.nanos ≤ 4 * k.target.nanos))

def zone (k : Case) : Zone := .classify k.duration k.target k.failed

variable {k : Case}

/-- No duration is beyond the cut, so it makes no difference. -/
theorem le_scale_iff (d target : Duration) (n : Nat) :
    d ≤ target.scale n ↔ d.nanos ≤ n * target.nanos := by
  rw [Duration.le_iff, Duration.nanos_scale, Nat.le_min, and_iff_left d.nanos_le]

theorem satisfying_iff : k.Satisfying ↔ k.zone = .satisfying := by
  rw [Satisfying, ← Duration.le_iff, zone, Zone.classify]
  split_ifs with hfailed hle <;> simp_all

theorem tolerating_iff : k.Tolerating ↔ k.zone = .tolerating := by
  rw [Tolerating, ← le_scale_iff, ← Duration.lt_iff, zone, Zone.classify]
  split_ifs with hfailed hle hscale <;> simp_all

end Case

namespace Apdex

/-- The statistic has every one of the cases once, in the zone where it belongs. -/
structure Judges (a : Apdex) (ks : List Case) : Prop where
  satisfying : a.satisfying = ks.countP fun k => k.Satisfying
  tolerating : a.tolerating = ks.countP fun k => k.Tolerating
  frustrating : a.frustrating = ks.countP fun k => ¬ k.Satisfying ∧ ¬ k.Tolerating
  total : a.total = ks.length
  least : IsLeast {t | ∃ k ∈ ks, k.target = t} a.least
  greatest : IsGreatest {t | ∃ k ∈ ks, k.target = t} a.greatest

variable {a b : Apdex} {ks js : List Case}

theorem judges_once (k : Case) : (once k.zone k.target).Judges [k] := by
  have hleast : (once k.zone k.target).least = k.target := by cases k.zone <;> rfl
  have hgreatest : (once k.zone k.target).greatest = k.target := by cases k.zone <;> rfl
  refine ⟨?_, ?_, ?_, total_once _ _, ?_, ?_⟩
  · simp only [List.countP_singleton, Case.satisfying_iff]
    cases k.zone <;> rfl
  · simp only [List.countP_singleton, Case.tolerating_iff]
    cases k.zone <;> rfl
  · simp only [List.countP_singleton, Case.satisfying_iff, Case.tolerating_iff]
    cases k.zone <;> rfl
  · simp [hleast]
  · simp [hgreatest]

theorem Judges.total_pos (h : a.Judges ks) : 0 < a.total := by
  obtain ⟨k, hk, _⟩ := h.least.1
  rw [h.total]
  exact List.length_pos_of_mem hk

theorem setOf_target_append (ks js : List Case) :
    {t | ∃ k ∈ ks ++ js, k.target = t} =
      {t | ∃ k ∈ ks, k.target = t} ∪ {t | ∃ k ∈ js, k.target = t} := by
  ext t
  simp only [Set.mem_union, Set.mem_ofPred_eq, List.mem_append, or_and_right, exists_or]

theorem Judges.merge (ha : a.Judges ks) (hb : b.Judges js) : (a.merge b).Judges (ks ++ js) := by
  have htotal := total_merge a b
  rw [Apdex.merge, if_neg ha.total_pos.ne'] at htotal ⊢
  refine ⟨?_, ?_, ?_, ?_, ?_, ?_⟩
  · rw [List.countP_append, ha.satisfying, hb.satisfying]
  · rw [List.countP_append, ha.tolerating, hb.tolerating]
  · rw [List.countP_append, ha.frustrating, hb.frustrating]
  · rw [htotal, List.length_append, ha.total, hb.total]
  · rw [setOf_target_append]
    exact ha.least.union hb.least
  · rw [setOf_target_append]
    exact ha.greatest.union hb.greatest

end Apdex

namespace Data

/-- What is there has just so many calls; nothing is there if that is none. -/
inductive Tells : Option Data → Nat → Prop
  | none : Tells none 0
  | timing {t : Timing} (h : 0 < t.count) : Tells (some (.timing t)) t.count

/-- What is there has just these cases; nothing is there without any. -/
inductive Judged : Option Data → List Case → Prop
  | none : Judged none []
  | apdex {a : Apdex} {ks : List Case} (h : a.Judges ks) : Judged (some (.apdex a)) ks

variable {found new : Option Data}

theorem Tells.merge {m n : Nat} (h : Tells found m) (h' : Tells new n) :
    Tells (found.merge Data.merge new) (m + n) := by
  cases h with
  | none => rwa [Option.merge_none_left, Nat.zero_add]
  | @timing t ht =>
    cases h' with
    | none => exact .timing ht
    | @timing u hu =>
      rw [← Timing.count_merge]
      exact .timing (by rw [Timing.count_merge]; exact Nat.add_pos_left ht _)

theorem Tells.count_eq {n : Nat} (h : Tells found n) : (found.map Data.count).getD 0 = n := by
  cases h <;> rfl

theorem Judged.merge {ks js : List Case} (h : Judged found ks) (h' : Judged new js) :
    Judged (found.merge Data.merge new) (ks ++ js) := by
  cases h with
  | none => rwa [Option.merge_none_left, List.nil_append]
  | apdex ha =>
    cases h' with
    | none =>
      rw [List.append_nil]
      exact .apdex ha
    | apdex hb => exact .apdex (ha.merge hb)

end Data

namespace Stats

open Contribution

variable {runtimePrefix : String} {f : Forest} {c : Context}

/-- Without a target all data are timings. -/
theorem timing_of_no_target (htarget : c.target = none) {topic : Topic} {d : Data}
    (h : Has c topic d) : ∃ t, d = .timing t := by
  cases h with
  | once | calls => exact ⟨_, rfl⟩
  | zone hzone => cases htarget.symm.trans hzone

theorem ne_apdex_of_no_target (htarget : c.target = none) (x : String) (a : Apdex) :
    (ofForest runtimePrefix f c).overall.get? x ≠ some (.apdex a) ∧
      (ofForest runtimePrefix f c).own.get? x ≠ some (.apdex a) := by
  have hmerged {cs : List Contribution} (hcs : ∀ k ∈ cs, k ∈ all runtimePrefix f c) :
      Data.mergeAll none (cs.map (·.data)) ≠ some (.apdex a) := by
    intro ha
    have htiming : ∀ d ∈ Data.mergeAll none (cs.map (·.data)), ∃ t, d = .timing t := by
      refine Data.mergeAll_induction ?_ ?_ (by simp)
      · rintro _ _ ⟨t, rfl⟩ ⟨u, rfl⟩
        exact ⟨_, rfl⟩
      · intro d hd
        obtain ⟨k, hk, rfl⟩ := List.mem_map.1 hd
        obtain ⟨_, hhas⟩ := has_of_mem_all (hcs k hk)
        exact timing_of_no_target htarget hhas
    obtain ⟨t, ht⟩ := htiming _ ha
    cases ht
  rw [ofForest, overall_ofContributions, own_ofContributions]
  exact ⟨hmerged fun k hk => (List.mem_filter.1 hk).1,
    hmerged fun k hk => (List.mem_filter.1 (List.mem_filter.1 hk).1).1⟩

end Stats

end Telemetry.Metric
