import Telemetry.Proofs.Metric.Lookup
import Telemetry.Proofs.Metric.Topics

/-!
# What a transaction has under each name

Nodes may share a name, and what they contribute is merged. Of every other topic a transaction has at
most one contribution under a name, and its metrics have just that there. Under a name there is only
data of the kind that its topic asks for, so no data of another transaction is ever dropped.
-/
namespace Telemetry.Metric

namespace Topic

theorem sameKind_of_suits {topic : Topic} {a b : Data} (ha : topic.suits a = true)
    (hb : topic.suits b = true) : a.sameKind b = true := by
  cases a <;> cases b <;> simp_all [suits, Data.sameKind]

theorem suits_merge {topic : Topic} {a : Data} (ha : topic.suits a = true) (b : Data) :
    topic.suits (a.merge b) = true := by
  cases a <;> cases b <;> exact ha

end Topic

namespace Table

/-- The calls or transactions under a name. -/
def count (t : Table) (x : String) : Nat := ((t.get? x).map Data.count).getD 0

/-- Every name has data of the kind that its topic asks for. -/
def Suited (t : Table) : Prop := ∀ x d, t.get? x = some d → (Topic.ofName x).suits d = true

theorem suited_empty : empty.Suited := fun _ _ h => nomatch h

variable {t u : Table}

theorem Suited.topic_eq_apdex (ht : t.Suited) {x : String} {a : Apdex}
    (h : t.get? x = some (.apdex a)) : Topic.ofName x = .apdex :=
  of_decide_eq_true (ht x _ h)

theorem Suited.addTable (ht : t.Suited) (hu : u.Suited) : (t.addTable u).Suited := by
  intro x d hd
  rw [get?_addTable] at hd
  exact Data.merge_induction (p := fun d => (Topic.ofName x).suits d = true)
    (fun _ b ha _ => Topic.suits_merge ha b) (ht x) (hu x) d hd

/-- Nothing that comes in is dropped, so counts add up. -/
theorem Suited.count_addTable (ht : t.Suited) (hu : u.Suited) (x : String) :
    (t.addTable u).count x = t.count x + u.count x := by
  rw [count, count, count, get?_addTable]
  cases hkept : t.get? x with
  | none => rw [Option.merge_none_left]; simp
  | some kept =>
    cases hnew : u.get? x with
    | none => rw [Option.merge_none_right]; simp
    | some e => exact Data.count_merge (Topic.sameKind_of_suits (ht x _ hkept) (hu x _ hnew))

end Table

namespace Contribution

theorem filter_entry (x : String) (cs : List Contribution) :
    ((cs.map entry).filter (·.1 = x)).map Prod.snd = (under x cs).map (·.data) := by
  rw [List.filter_map, List.map_map]
  rfl

end Contribution

namespace Stats

open Contribution

theorem overall_ofContributions (scope x : String) (cs : List Contribution) :
    (ofContributions scope cs).overall.get? x =
      Data.mergeAll none ((under x cs).map (·.data)) := by
  show (Table.ofList (cs.map entry)).get? x = _
  rw [Table.get?_ofList, filter_entry]

theorem own_ofContributions (scope x : String) (cs : List Contribution) :
    (ofContributions scope cs).own.get? x =
      Data.mergeAll none (((under x cs).filter (·.inScope)).map (·.data)) := by
  show (Table.ofList (ownEntries cs)).get? x = _
  rw [ownEntries, Table.get?_ofList, filter_entry, under, under, List.filter_filter,
    List.filter_filter]
  simp only [Bool.and_comm]

theorem scope_ofForest (runtimePrefix : String) (f : Forest) (c : Context) :
    (ofForest runtimePrefix f c).scope = c.name.full := rfl

variable {runtimePrefix : String} {f : Forest} {c : Context}

theorem suits_of_merged {x : String} {cs : List Contribution}
    (hcs : ∀ k ∈ cs, k ∈ part runtimePrefix f c (Topic.ofName x)) :
    ∀ d ∈ Data.mergeAll none (cs.map (·.data)), (Topic.ofName x).suits d = true := by
  refine Data.mergeAll_induction (p := fun d => (Topic.ofName x).suits d = true)
    (fun _ b ha _ => Topic.suits_merge ha b) ?_ (by simp)
  intro d hd
  obtain ⟨k, hk, rfl⟩ := List.mem_map.1 hd
  exact suits_of_mem (hcs k hk)

/-- The only contribution under a name stands there as it was made. -/
theorem overall_of_mem
    (hname : c.name.family = MetricName.webFamily ∨ c.name.family = MetricName.otherFamily)
    {topic : Topic} (halone : topic.Alone runtimePrefix) {k : Contribution}
    (hk : k ∈ part runtimePrefix f c topic) (htopic : Topic.ofName k.name = topic)
    (hnodup : ((part runtimePrefix f c topic).map (·.name)).Nodup) :
    (ofForest runtimePrefix f c).overall.get? k.name = some k.data := by
  subst htopic
  rw [ofForest, overall_ofContributions, under_all_of_alone hname halone, under_of_mem hnodup hk]
  rfl

/-- All that is contributed under the names of nodes also counts within the scope. -/
theorem get?_of_node (hfirst : firstPart runtimePrefix ∉ reservedParts)
    (hname : c.name.family = MetricName.webFamily ∨ c.name.family = MetricName.otherFamily)
    {x : String} (hx : Topic.ofName x = .node) :
    (ofForest runtimePrefix f c).own.get? x =
      Data.mergeAll none ((under x (ofNodes runtimePrefix f)).map (·.data)) ∧
    (ofForest runtimePrefix f c).overall.get? x =
      Data.mergeAll none ((under x (ofNodes runtimePrefix f)).map (·.data)) := by
  have hunder : under x (all runtimePrefix f c) = under x (ofNodes runtimePrefix f) := by
    rw [under_all_of_alone hname (Topic.alone_of_reserved hfirst _), hx, part]
  have hscope : (under x (ofNodes runtimePrefix f)).filter (·.inScope) =
      under x (ofNodes runtimePrefix f) := by
    rw [List.filter_eq_self]
    intro k hk
    obtain ⟨t, _, rfl⟩ := List.mem_map.1 (List.mem_filter.1 hk).1
    rfl
  rw [ofForest, own_ofContributions, overall_ofContributions, hunder, hscope]
  exact ⟨rfl, rfl⟩

/-- Where all contributions of a topic have the same data and no nodes have its names, the data stands
under each of these. -/
theorem overall_of_alone {topic : Topic} (halone : topic.Alone runtimePrefix)
    (hname : c.name.Regular) {x : String} (hx : Topic.ofName x = topic) (htopic : topic ≠ .node)
    {d : Data} (hdata : ∀ k ∈ part runtimePrefix f c topic, k.data = d) :
    (ofForest runtimePrefix f c).overall.get? x =
      if x ∈ (part runtimePrefix f c topic).map (·.name) then some d else none := by
  subst hx
  by_cases hmem : x ∈ (part runtimePrefix f c (Topic.ofName x)).map (·.name)
  · obtain ⟨k, hk, rfl⟩ := List.mem_map.1 hmem
    have hnodup : ((part runtimePrefix f c (Topic.ofName k.name)).map (·.name)).Nodup :=
      nodup_names hname htopic
    rw [if_pos hmem, overall_of_mem hname.family halone hk rfl hnodup, hdata k hk]
  · rw [if_neg hmem, ofForest, overall_ofContributions, under_all_of_alone hname.family halone,
      under_of_notMem hmem]
    rfl

theorem overall_errors_of_alone (halone : Topic.Alone runtimePrefix .errors)
    (hname : c.name.Regular) {x : String} (hx : Topic.ofName x = .errors) :
    (ofForest runtimePrefix f c).overall.get? x =
      if c.errorReported ∧ x ∈ c.name.errorNames then some (.timing (.calls 1)) else none := by
  rw [overall_of_alone halone hname hx (by decide) (data_ofErrors c), part, names_ofErrors]
  cases c.errorReported <;> simp

theorem overall_apdex_of_alone (halone : Topic.Alone runtimePrefix .apdex)
    (hname : c.name.Regular) {x : String} (hx : Topic.ofName x = .apdex) :
    (ofForest runtimePrefix f c).overall.get? x = if x ∈ c.name.apdexNames
      then c.target.map fun target =>
        .apdex (.once (.classify c.duration target c.errorReported) target)
      else none := by
  cases htarget : c.target with
  | some target =>
    rw [overall_of_alone halone hname hx (by decide) (data_ofApdex htarget), part, names_ofApdex,
      htarget]
    rfl
  | none =>
    have hnone : ∀ k ∈ part runtimePrefix f c .apdex, k.data = default := by
      rw [part, ofApdex, htarget]
      simp
    rw [overall_of_alone halone hname hx (by decide) hnone, part, ofApdex, htarget]
    simp

variable (hfirst : firstPart runtimePrefix ∉ reservedParts) (hname : c.name.Regular)
include hfirst hname

theorem overall_ofForest (x : String) :
    (ofForest runtimePrefix f c).overall.get? x = Data.mergeAll none
      ((under x (part runtimePrefix f c (Topic.ofName x))).map (·.data)) := by
  rw [ofForest, overall_ofContributions, under_all hfirst hname]

theorem own_ofForest (x : String) :
    (ofForest runtimePrefix f c).own.get? x = Data.mergeAll none
      (((under x (part runtimePrefix f c (Topic.ofName x))).filter (·.inScope)).map (·.data)) := by
  rw [ofForest, own_ofContributions, under_all hfirst hname]

theorem suited_overall : (ofForest runtimePrefix f c).overall.Suited := by
  intro x d hd
  rw [overall_ofForest hfirst hname] at hd
  exact suits_of_merged (fun k hk => (List.mem_filter.1 hk).1) d hd

theorem suited_own : (ofForest runtimePrefix f c).own.Suited := by
  intro x d hd
  rw [own_ofForest hfirst hname] at hd
  exact suits_of_merged (fun k hk => (List.mem_filter.1 (List.mem_filter.1 hk).1).1) d hd

theorem own_of_node {x : String} (hx : Topic.ofName x = .node) :
    (ofForest runtimePrefix f c).own.get? x = (ofForest runtimePrefix f c).overall.get? x := by
  obtain ⟨hown, hoverall⟩ := get?_of_node hfirst hname.family hx (f := f)
  rw [hown, hoverall]

theorem called_of_node {x : String} (hx : Topic.ofName x = .node) :
    ∀ d ∈ (ofForest runtimePrefix f c).overall.get? x,
      ∃ u : Timing, d = .timing u ∧ 0 < u.count := by
  rw [overall_ofForest hfirst hname, hx]
  refine Data.mergeAll_induction ?_ ?_ (by simp)
  · rintro _ _ ⟨u, rfl, hu⟩ ⟨v, rfl, _⟩
    refine ⟨u.merge v, rfl, ?_⟩
    rw [Timing.count_merge]
    omega
  · intro d hd
    obtain ⟨k, hk, rfl⟩ := List.mem_map.1 hd
    obtain ⟨t, _, rfl⟩ := List.mem_map.1 (List.mem_filter.1 hk).1
    exact ⟨_, rfl, Nat.one_pos⟩

theorem overall_duration {x : String} (hx : Topic.ofName x = .duration) :
    (ofForest runtimePrefix f c).overall.get? x =
      if x ∈ c.name.durationNames then some (.timing (.once c.duration c.duration)) else none := by
  rw [overall_of_alone (Topic.alone_of_reserved hfirst _) hname hx (by decide) (data_ofDuration c), part,
    names_ofDuration]

theorem overall_totalTime {x : String} (hx : Topic.ofName x = .totalTime) :
    (ofForest runtimePrefix f c).overall.get? x = if x ∈ c.name.totalTimeNames
      then some (.timing (.once f.totalExclusive f.totalExclusive)) else none := by
  rw [overall_of_alone (Topic.alone_of_reserved hfirst _) hname hx (by decide) (data_ofTotalTime c f), part,
    names_ofTotalTime]

theorem overall_errors {x : String} (hx : Topic.ofName x = .errors) :
    (ofForest runtimePrefix f c).overall.get? x =
      if c.errorReported ∧ x ∈ c.name.errorNames then some (.timing (.calls 1)) else none :=
  overall_errors_of_alone (Topic.alone_of_reserved hfirst _) hname hx

theorem overall_apdex_of_target {target : Duration} (htarget : c.target = some target) {x : String}
    (hx : Topic.ofName x = .apdex) : (ofForest runtimePrefix f c).overall.get? x =
      if x ∈ c.name.apdexNames
      then some (.apdex (.once (.classify c.duration target c.errorReported) target)) else none := by
  rw [overall_apdex_of_alone (Topic.alone_of_reserved hfirst _) hname hx, htarget]
  rfl

theorem overall_apdex_of_no_target (htarget : c.target = none) {x : String}
    (hx : Topic.ofName x = .apdex) : (ofForest runtimePrefix f c).overall.get? x = none := by
  rw [overall_apdex_of_alone (Topic.alone_of_reserved hfirst _) hname hx, htarget]
  split <;> rfl

/-- Within its own scope a transaction counts once under its name. -/
theorem own_full : (ofForest runtimePrefix f c).own.get? c.name.full =
    some (.timing (.once c.duration c.duration)) := by
  have hmem : within c.name.full (.timing (.once c.duration c.duration)) ∈
      part runtimePrefix f c .duration := List.mem_append_right _ List.mem_cons_self
  have hunder : under c.name.full (part runtimePrefix f c .duration) = [_] :=
    under_of_mem (nodup_names hname (by decide)) hmem
  rw [own_ofForest hfirst hname, Topic.ofName_full hname, hunder]
  rfl

/-- Zones do not count within scopes. -/
theorem own_ne_apdex (x : String) (a : Apdex) :
    (ofForest runtimePrefix f c).own.get? x ≠ some (.apdex a) := by
  intro ha
  have htopic := (suited_own hfirst hname).topic_eq_apdex ha
  have hcommon : ∀ k ∈ ofApdex c, k.inScope = false := by
    unfold ofApdex
    split <;> simp [common]
  have hnone : (under x (ofApdex c)).filter (·.inScope) = [] := by
    rw [List.filter_eq_nil_iff]
    intro k hk
    rw [hcommon k (List.mem_filter.1 hk).1]
    exact Bool.false_ne_true
  rw [own_ofForest hfirst hname, htopic, part, hnone] at ha
  cases ha

end Stats

end Telemetry.Metric
