import Telemetry.Proofs.Metric.Figures

/-!
# Merges of Apdex statistics

Among statistics that have transactions merging is associative and commutative, and a statistic without
any leaves no trace when others are merged into it. It is not neutral on the other side: its targets read
as zero, so whatever it is merged into has zero for its least target from then on. But for that, a
statistic depends only on the transactions that went into it.
-/
namespace Telemetry.Metric.Apdex

theorem figures_injective : Function.Injective figures := by
  rintro ⟨⟩ ⟨⟩ h
  simpa [figures, and_assoc] using h

theorem none_merge (a : Apdex) : none.merge a = a := if_pos rfl

variable {a b c : Apdex}

theorem merge_comm (ha : 0 < a.total) (hb : 0 < b.total) : a.merge b = b.merge a :=
  figures_injective (by rw [figures_merge ha, figures_merge hb, add_comm])

theorem merge_assoc (hb : 0 < b.total) (a c : Apdex) :
    (a.merge b).merge c = a.merge (b.merge c) := by
  by_cases ha : a.total = 0
  · have hpass (d : Apdex) : a.merge d = d := if_pos ha
    rw [hpass, hpass]
  · have hpos : 0 < a.total := Nat.pos_of_ne_zero ha
    have hab : 0 < (a.merge b).total := by
      rw [total_merge]
      omega
    apply figures_injective
    rw [figures_merge hab, figures_merge hpos, figures_merge hpos, figures_merge hb, add_assoc]

/-- The statistic, with zero for its least target if that was lost. -/
def losing (lost : Bool) (a : Apdex) : Apdex := if lost then { a with least := 0 } else a

theorem total_losing (lost : Bool) (a : Apdex) : (a.losing lost).total = a.total := by
  cases lost <;> rfl

theorem losing_losing (lost : Bool) (a : Apdex) : (a.losing lost).losing true = a.losing true := by
  cases lost <;> rfl

theorem losing_eq_iff : a.losing true = a ↔ a.least = 0 := by
  constructor
  · intro h
    rw [← h]
    rfl
  · intro h
    rw [losing, if_pos rfl, ← h]

/-- Whatever the least target was, it is lost. -/
theorem merge_none (ha : 0 < a.total) : a.merge none = a.losing true := by
  apply figures_injective
  rw [figures_merge ha]
  refine Spread.ext rfl ?_ ?_
  · exact min_eq_right (Nat.zero_le a.least.nanos)
  · exact max_eq_left (Nat.zero_le a.greatest.nanos)

/-- A least target that was lost on either side does not come back. -/
theorem merge_losing (ha : 0 < a.total) (b : Apdex) (lost lost' : Bool) :
    (a.losing lost).merge (b.losing lost') = (a.merge b).losing (lost || lost') := by
  have hleft (d : Duration) : min 0 d = 0 := min_eq_left (Nat.zero_le d.nanos)
  have hright (d : Duration) : min d 0 = 0 := min_eq_right (Nat.zero_le d.nanos)
  rw [Apdex.merge, if_neg (by rw [total_losing]; exact ha.ne'), Apdex.merge, if_neg ha.ne']
  cases lost <;> cases lost' <;> simp [losing, hleft, hright]

/-- The statistic tells of all transactions of the others together, each of which has some. -/
structure SumsUp (a : Apdex) (as : List Apdex) : Prop where
  judged : ∀ b ∈ as, 0 < b.total
  satisfying : a.satisfying = (as.map (·.satisfying)).sum
  tolerating : a.tolerating = (as.map (·.tolerating)).sum
  frustrating : a.frustrating = (as.map (·.frustrating)).sum
  least : IsLeast {d | d ∈ as.map (·.least)} a.least
  greatest : IsGreatest {d | d ∈ as.map (·.greatest)} a.greatest

namespace SumsUp

variable {as bs : List Apdex}

theorem singleton (ha : 0 < a.total) : a.SumsUp [a] where
  judged := by simpa using ha
  satisfying := by simp
  tolerating := by simp
  frustrating := by simp
  least := by simp
  greatest := by simp

theorem perm (h : a.SumsUp as) (hperm : as.Perm bs) : a.SumsUp bs where
  judged b hb := h.judged b (hperm.mem_iff.2 hb)
  satisfying := by rw [h.satisfying, (hperm.map _).sum_nat]
  tolerating := by rw [h.tolerating, (hperm.map _).sum_nat]
  frustrating := by rw [h.frustrating, (hperm.map _).sum_nat]
  least := by simpa only [(hperm.map _).mem_iff] using h.least
  greatest := by simpa only [(hperm.map _).mem_iff] using h.greatest

theorem unique (ha : a.SumsUp as) (hb : b.SumsUp as) : a = b := by
  apply figures_injective
  refine Spread.ext ?_ (ha.least.unique hb.least) (ha.greatest.unique hb.greatest)
  simp only [figures, ha.satisfying, ha.tolerating, ha.frustrating, hb.satisfying, hb.tolerating,
    hb.frustrating]

theorem total_pos (h : a.SumsUp as) : 0 < a.total := by
  cases as with
  | nil => cases h.least.1
  | cons b rest =>
    have hb : 0 < b.total := h.judged b List.mem_cons_self
    simp only [total, h.satisfying, h.tolerating, h.frustrating, List.map_cons, List.sum_cons] at hb ⊢
    omega

theorem merge (ha : a.SumsUp as) (hb : b.SumsUp bs) : (a.merge b).SumsUp (as ++ bs) := by
  have hunion (field : Apdex → Duration) : {d | d ∈ (as ++ bs).map field} =
      {d | d ∈ as.map field} ∪ {d | d ∈ bs.map field} := by
    ext d
    simp only [List.map_append, List.mem_append, Set.mem_ofPred_eq, Set.mem_union]
  rw [Apdex.merge, if_neg ha.total_pos.ne']
  refine ⟨List.forall_mem_append.2 ⟨ha.judged, hb.judged⟩, ?_, ?_, ?_, ?_, ?_⟩
  · rw [ha.satisfying, hb.satisfying, List.map_append, List.sum_append]
  · rw [ha.tolerating, hb.tolerating, List.map_append, List.sum_append]
  · rw [ha.frustrating, hb.frustrating, List.map_append, List.sum_append]
  · rw [hunion]
    exact ha.least.union hb.least
  · rw [hunion]
    exact ha.greatest.union hb.greatest

end SumsUp

/-- How a statistic comes about: without transactions, with one, or as one is merged into another. -/
inductive Making
  | none
  | once (zone : Zone) (target : Duration)
  | merge (kept taken : Making)

namespace Making

def result : Making → Apdex
  | none => .none
  | once zone target => .once zone target
  | merge kept taken => kept.result.merge taken.result

/-- The statistics with a transaction that went in, from left to right. -/
def members : Making → List Apdex
  | none => []
  | once zone target => [.once zone target]
  | merge kept taken => kept.members ++ taken.members

/-- Whether a statistic without transactions was ever merged into one that had some. -/
def diluted : Making → Bool
  | none | once .. => false
  | merge kept taken => kept.diluted || taken.diluted ||
      !kept.members.isEmpty && taken.members.isEmpty

variable {m k j : Making}

theorem of_no_members (h : m.members = []) : m.result = .none ∧ m.diluted = false := by
  induction m with
  | none => exact ⟨rfl, rfl⟩
  | once zone target => cases h
  | merge kept taken ihkept ihtaken =>
    obtain ⟨hkept, htaken⟩ := List.append_eq_nil_iff.1 h
    obtain ⟨hkept', hundiluted⟩ := ihkept hkept
    obtain ⟨htaken', hundiluted'⟩ := ihtaken htaken
    refine ⟨?_, ?_⟩
    · rw [result, hkept', htaken', none_merge]
    · rw [diluted, hundiluted, hundiluted', hkept]
      rfl

/-- What the members come to, but for the least target if that was lost. -/
theorem exists_sum (h : m.members ≠ []) :
    ∃ whole : Apdex, whole.SumsUp m.members ∧ m.result = whole.losing m.diluted := by
  induction m with
  | none => exact absurd rfl h
  | once zone target =>
    exact ⟨.once zone target, .singleton (by rw [total_once]; exact Nat.one_pos), rfl⟩
  | merge kept taken ihkept ihtaken =>
    by_cases hkept : kept.members = []
    · obtain ⟨hnone, hundiluted⟩ := of_no_members hkept
      have htaken : taken.members ≠ [] := by simpa [members, hkept] using h
      obtain ⟨whole, hwhole, hresult⟩ := ihtaken htaken
      refine ⟨whole, by simpa [members, hkept] using hwhole, ?_⟩
      have hdiluted : (merge kept taken).diluted = taken.diluted := by
        simp [diluted, hundiluted, hkept]
      rw [result, hnone, none_merge, hresult, hdiluted]
    · obtain ⟨whole, hwhole, hresult⟩ := ihkept hkept
      by_cases htaken : taken.members = []
      · refine ⟨whole, by simpa [members, htaken] using hwhole, ?_⟩
        have hdiluted : (merge kept taken).diluted = true := by simp [diluted, hkept, htaken]
        have hpos : 0 < kept.result.total := by
          rw [hresult, total_losing]
          exact hwhole.total_pos
        rw [result, (of_no_members htaken).1, merge_none hpos, hdiluted, hresult, losing_losing]
      · obtain ⟨other, hother, hresult'⟩ := ihtaken htaken
        refine ⟨whole.merge other, hwhole.merge hother, ?_⟩
        have hdiluted : (merge kept taken).diluted = (kept.diluted || taken.diluted) := by
          simp [diluted, htaken]
        rw [result, hresult, hresult', hdiluted, merge_losing hwhole.total_pos]

theorem total_pos (h : m.members ≠ []) : 0 < m.result.total := by
  obtain ⟨whole, hwhole, hresult⟩ := exists_sum h
  rw [hresult, total_losing]
  exact hwhole.total_pos

theorem result_eq_of_perm (hperm : m.members.Perm k.members) (hdiluted : m.diluted = k.diluted) :
    m.result = k.result := by
  by_cases hm : m.members = []
  · have hk : k.members = [] := by simpa [hm] using hperm
    rw [(of_no_members hm).1, (of_no_members hk).1]
  · have hk : k.members ≠ [] := fun hnone => hm (by simpa [hnone] using hperm)
    obtain ⟨whole, hwhole, hresult⟩ := exists_sum hm
    obtain ⟨other, hother, hresult'⟩ := exists_sum hk
    rw [hresult, hresult', (hwhole.perm hperm).unique hother, hdiluted]

theorem merge_none_iff : m.result.merge .none = m.result ↔ m.members = [] ∨ m.result.least = 0 := by
  by_cases hm : m.members = []
  · rw [(of_no_members hm).1, none_merge]
    exact iff_of_true rfl (.inl hm)
  · rw [merge_none (total_pos hm), or_iff_right hm, losing_eq_iff]

theorem merge_comm (h : m.members = [] ↔ k.members = []) :
    m.result.merge k.result = k.result.merge m.result := by
  by_cases hm : m.members = []
  · rw [(of_no_members hm).1, (of_no_members (h.1 hm)).1]
  · exact Apdex.merge_comm (total_pos hm) (total_pos (hm ∘ h.2))

theorem merge_assoc (h : m.members = [] ∨ k.members ≠ []) :
    (m.result.merge k.result).merge j.result = m.result.merge (k.result.merge j.result) := by
  obtain hm | hk := h
  · rw [(of_no_members hm).1, none_merge, none_merge]
  · exact Apdex.merge_assoc (total_pos hk) _ _

/-- The lost target only goes unnoticed if it was zero anyway. -/
theorem sumsUp_iff (h : m.members ≠ []) :
    m.result.SumsUp m.members ↔ m.diluted = false ∨ 0 ∈ m.members.map (·.least) := by
  obtain ⟨whole, hwhole, hresult⟩ := exists_sum h
  cases hdiluted : m.diluted with
  | false =>
    rw [hdiluted] at hresult
    exact iff_of_true (hresult ▸ hwhole) (.inl rfl)
  | true =>
    rw [hdiluted] at hresult
    rw [or_iff_right Bool.noConfusion]
    constructor
    · intro hsums
      have hleast : m.result.least = 0 := by rw [hresult]; rfl
      exact hleast ▸ hsums.least.1
    · intro hzero
      have hleast : whole.least = 0 := le_antisymm (hwhole.least.2 hzero) (Nat.zero_le _)
      rwa [hresult, losing_eq_iff.2 hleast]

end Making

/-- Merging is a commutative monoid but for one side: a statistic without transactions is neutral only on
the left. What merges come to in any order and grouping are the sums and the extreme targets of all
members, and as soon as a statistic without transactions was merged into another, the least target is
zero instead. -/
theorem merges_sum_up_unless_diluted (m k j : Making) :
    none.merge m.result = m.result ∧
    (m.result.merge none = m.result ↔ m.members = [] ∨ m.result.least = 0) ∧
    ((m.members = [] ↔ k.members = []) → m.result.merge k.result = k.result.merge m.result) ∧
    (m.members = [] ∨ k.members ≠ [] →
      (m.result.merge k.result).merge j.result = m.result.merge (k.result.merge j.result)) ∧
    (m.members = [] → m.result = none) ∧
    (m.members ≠ [] →
      (m.result.SumsUp m.members ↔ m.diluted = false ∨ 0 ∈ m.members.map (·.least))) ∧
    (m.diluted = true → m.result.least = 0 ∧
      ∃ target, { m.result with least := target }.SumsUp m.members) ∧
    (m.members.Perm k.members → m.diluted = k.diluted → m.result = k.result) := by
  refine ⟨none_merge _, Making.merge_none_iff, Making.merge_comm, Making.merge_assoc,
    fun hm => (Making.of_no_members hm).1, Making.sumsUp_iff, fun hdiluted => ?_,
    Making.result_eq_of_perm⟩
  have hm : m.members ≠ [] := by
    intro hm
    rw [(Making.of_no_members hm).2] at hdiluted
    cases hdiluted
  obtain ⟨whole, hwhole, hresult⟩ := Making.exists_sum hm
  rw [hresult, hdiluted]
  exact ⟨rfl, whole.least, hwhole⟩

theorem merges_sum_up_unless_diluted_twoTargets :
    let first := Making.once .satisfying (.ofMillis 500)
    let second := Making.once .frustrating (.ofSeconds 2)
    let m := Making.merge (.merge .none first) second
    let k := Making.merge second (.merge .none first)
    m.members ≠ [] ∧ m.diluted = false ∧ m.result.SumsUp m.members ∧
      m.result.merge k.result = k.result.merge m.result ∧
      (m.result.merge k.result).merge first.result = m.result.merge (k.result.merge first.result) ∧
      m.members.Perm k.members ∧ m.diluted = k.diluted ∧ m.result = k.result ∧
      (Making.merge m .none).diluted = true ∧ (Making.merge m .none).result.least = 0 := by
  intro first second m k
  have hm : m.members ≠ [] := by decide
  have hk : k.members ≠ [] := by decide
  have hmk : m.members.Perm k.members := by decide
  have hlate : (Making.merge m .none).diluted = true := rfl
  obtain ⟨-, -, hcomm, hassoc, -, hsums, -, hperm⟩ := merges_sum_up_unless_diluted m k first
  obtain ⟨-, -, -, -, -, -, hlost, -⟩ := merges_sum_up_unless_diluted (.merge m .none) k first
  exact ⟨hm, rfl, (hsums hm).2 (.inl rfl), hcomm (iff_of_false hm hk), hassoc (.inr hk), hmk, rfl,
    hperm hmk rfl, hlate, (hlost hlate).1⟩

/-- Merged into another, a statistic without transactions breaks all three laws. -/
theorem late_none_loses_least :
    let a := once .satisfying (.ofMillis 500)
    let b := once .frustrating (.ofSeconds 2)
    a.merge none ≠ a ∧ a.merge none ≠ none.merge a ∧
      (a.merge none).merge b ≠ a.merge (none.merge b) := by
  decide

end Telemetry.Metric.Apdex
