import Telemetry.Proofs.Metric.Collecting
import Telemetry.Proofs.Metric.Sums

/-!
# Metrics that fit together

The same calls are counted within scopes and overall, and the same transactions under several names.
Whatever a station was asked for, the metrics that it delivers agree: overall a node has what all scopes
have of it, a transaction has in its own scope what it has overall, and all counts of transactions are
the same.
-/
namespace Telemetry

open Telemetry.Metric

namespace Metric

variable {runtimePrefix : String} {f : Forest} {c : Context}

namespace Stats

variable (hfirst : firstPart runtimePrefix ∉ reservedParts) (hname : c.name.Regular)
include hfirst hname

theorem overall_full {n : MetricName} (hn : n.Regular) :
    (ofForest runtimePrefix f c).overall.get? n.full = if n.full = c.name.full
      then some (.timing (.once c.duration c.duration)) else none := by
  rw [overall_duration hfirst hname (Topic.ofName_full hn)]
  simp only [hn.full_mem_durationNames]

/-- Web transactions count under two names alike, all others under a third. -/
theorem overall_families :
    (ofForest runtimePrefix f c).overall.get? "HttpDispatcher" =
      (ofForest runtimePrefix f c).overall.get? "WebTransaction" ∧
    (ofForest runtimePrefix f c).overall.count "WebTransaction" +
      (ofForest runtimePrefix f c).overall.count "OtherTransaction/all" = 1 := by
  have hget {x : String} (hx : Topic.ofName x = .duration) :=
    overall_duration hfirst hname (f := f) hx
  have hfull := c.name.slash_mem_full
  have hweb : "WebTransaction" ≠ c.name.full := (ne_of_slash hfull (by decide)).symm
  have hdispatcher : "HttpDispatcher" ≠ c.name.full := (ne_of_slash hfull (by decide)).symm
  have hother : "OtherTransaction/all" ≠ c.name.full := hname.full_ne_all.symm
  rw [Table.count, Table.count, hget (by decide), hget (by decide), hget (by decide),
    MetricName.durationNames]
  cases c.name.isWeb <;> simp [hweb, hdispatcher, hother, Data.count, Timing.once]

end Stats

/-- What holds of the metrics of any number of transactions. -/
structure Aggregate.Coherent (a : Aggregate) : Prop where
  nodes : ∀ x, Topic.ofName x = .node → Data.Sums (a.overall? x) (a.across x)
  scopes : ∀ scope ∈ a.scopes.keys, ∃ n : MetricName, n.Regular ∧ n.full = scope ∧
    (a.inScope? scope scope).isSome
  own : ∀ n : MetricName, n.Regular → a.inScope? n.full n.full = a.overall? n.full
  suited : a.overall.Suited
  ownCalls : a.ownCalls = a.transactions
  families : a.overall.count "WebTransaction" + a.overall.count "OtherTransaction/all" =
    a.transactions
  dispatcher : a.overall? "HttpDispatcher" = a.overall? "WebTransaction"

namespace Aggregate

theorem coherent_empty : empty.Coherent where
  nodes _ _ := .none
  scopes _ h := nomatch h
  own _ _ := rfl
  suited := Table.suited_empty
  ownCalls := rfl
  families := rfl
  dispatcher := rfl

variable {a : Aggregate}

theorem count_scopeTable_self {x : String} (h : a.inScope? x x = a.overall? x) :
    (a.scopeTable x).count x = a.overall.count x := by
  rw [count_scopeTable, h]
  rfl

theorem Coherent.own_collect (h : a.Coherent) (hfirst : firstPart runtimePrefix ∉ reservedParts)
    (hname : c.name.Regular) {n : MetricName} (hn : n.Regular) :
    (a.collect (.ofForest runtimePrefix f c)).inScope? n.full n.full =
      (a.collect (.ofForest runtimePrefix f c)).overall? n.full := by
  rw [inScope?_collect, overall?_collect, h.own n hn, Stats.scope_ofForest,
    Stats.overall_full hfirst hname hn]
  by_cases hfull : n.full = c.name.full
  · rw [if_pos hfull, if_pos hfull, hfull, Stats.own_full hfirst hname]
  · rw [if_neg hfull, if_neg hfull, Option.merge_none_right]

theorem Coherent.collect (h : a.Coherent) (hfirst : firstPart runtimePrefix ∉ reservedParts)
    (hname : c.name.Regular) : (a.collect (.ofForest runtimePrefix f c)).Coherent := by
  have hnew := Stats.suited_overall hfirst hname (f := f)
  have hfull := Stats.overall_full hfirst hname (f := f) hname
  rw [if_pos rfl] at hfull
  obtain ⟨hdispatcher, hfamilies⟩ := Stats.overall_families hfirst hname (f := f)
  have hcount (x : String) : (a.collect (.ofForest runtimePrefix f c)).overall.count x =
      a.overall.count x + (Stats.ofForest runtimePrefix f c).overall.count x :=
    h.suited.count_addTable hnew x
  have hown {n : MetricName} (hn : n.Regular) := h.own_collect hfirst hname (f := f) hn
  refine ⟨?_, ?_, fun n hn => hown hn, h.suited.addTable hnew, ?_, ?_, ?_⟩
  · intro x hx
    obtain ⟨before, after, hold, hacross⟩ := a.across_collect (.ofForest runtimePrefix f c) x
    have hnodes := h.nodes x hx
    rw [hold] at hnodes
    rw [hacross, overall?_collect, Stats.own_of_node hfirst hname hx]
    exact hnodes.merge (Stats.called_of_node hfirst hname hx)
  · intro scope hscope
    rcases Dict.mem_keys_insert.1 hscope with rfl | hknown
    · refine ⟨c.name, hname, rfl, ?_⟩
      rw [Stats.scope_ofForest, hown hname, overall?_collect, hfull]
      simp
    · obtain ⟨n, hn, rfl, hsome⟩ := h.scopes scope hknown
      rw [h.own n hn] at hsome
      refine ⟨n, hn, rfl, ?_⟩
      rw [hown hn, overall?_collect]
      simp [hsome]
  · have hcalls := a.ownCalls_collect (.ofForest runtimePrefix f c)
    rw [Stats.scope_ofForest, count_scopeTable_self (h.own _ hname),
      count_scopeTable_self (hown hname), hcount, h.ownCalls] at hcalls
    have hone : (Stats.ofForest runtimePrefix f c).overall.count c.name.full = 1 := by
      rw [Table.count, hfull]
      rfl
    show _ = a.transactions + 1
    omega
  · show _ = a.transactions + 1
    rw [hcount, hcount, ← h.families]
    omega
  · rw [overall?_collect, overall?_collect, h.dispatcher, hdispatcher]

end Aggregate

end Metric

namespace Station

/-- The metrics of a harvest agree with each other, whatever the station was asked for since it had
none, as long as the runtime prefix does not start like another metric name. Overall each node has
the sum of what the scopes have of it; each scope has under its own name what is there overall; and the
calls there, like those of web and other transactions together, are as many as the transactions. -/
theorem harvested_metrics_agree {μ : Type} [ErrorMaker μ] (rules : ReportRules NamingRules μ)
    (hfirst : firstPart rules.runtimePrefix ∉ reservedParts) (buffers : RecordBuffers)
    (told : Drops) (ds : List Demand) :
    let start : Station := ⟨⟨.empty, buffers⟩, told⟩
    let a := (start.serveAll rules ds).1.harvest.2.metrics
    (∀ spanName, let name := Contribution.nodeName rules.runtimePrefix spanName
      Data.Sums (a.overall? name) (a.scopes.keys.filterMap (a.inScope? · name))) ∧
    (∀ scope ∈ a.scopes.keys, ∃ t : Timing, a.inScope? scope scope = some (.timing t) ∧
      a.overall? scope = some (.timing t)) ∧
    (a.scopes.keys.map fun scope => (a.scopeTable scope).count scope).sum = a.transactions ∧
    a.overall.count "WebTransaction" + a.overall.count "OtherTransaction/all" = a.transactions ∧
    a.overall? "HttpDispatcher" = a.overall? "WebTransaction" := by
  intro start a
  have h : a.Coherent := by
    rw [show a = _ from metrics_harvest _]
    exact aggregate_serveAll Aggregate.coherent_empty
      (fun a s ha => ha.collect hfirst (rules.naming.regular_nameOf s.name))
      Aggregate.coherent_empty ds
  clear_value a
  refine ⟨?_, ?_, h.ownCalls, h.families, h.dispatcher⟩
  · intro spanName
    exact h.nodes _ (Contribution.topic_nodeName hfirst spanName)
  · intro scope hscope
    obtain ⟨n, hn, rfl, hsome⟩ := h.scopes scope hscope
    rw [h.own n hn] at hsome ⊢
    obtain ⟨d, hd⟩ := Option.isSome_iff_exists.1 hsome
    have hsuits := h.suited n.full d hd
    rw [Topic.ofName_full hn] at hsuits
    cases d with
    | timing t => exact ⟨t, hd, hd⟩
    | apdex ap => cases hsuits

def nightly : Snapshot :=
  ((Transaction.start ⟨.other, "Custom", "nightly"⟩ "guid" .epoch).create "request" .method 0).snapshot
    (.ofMillis 5)

/-- The metrics of three transactions in two scopes that come after a harvest. -/
def sharedNode : Aggregate :=
  (serveAll (.ofSettings .standard) ⟨⟨.empty, .noRoom⟩, .none⟩ [.report nightly, .harvest,
    .report oneSpan, .report nightly, .report oneSpan]).1.harvest.2.metrics

theorem harvested_metrics_agree_sharedNode :
    let name := Contribution.nodeName "Rust" "request"
    let parts := sharedNode.scopes.keys.filterMap (sharedNode.inScope? · name)
    firstPart "Rust" ∉ reservedParts ∧ Data.Sums (sharedNode.overall? name) parts ∧
      parts.map Data.count = [2, 1] ∧ sharedNode.overall.count name = 3 ∧
      sharedNode.transactions = 3 := by
  have hfirst : firstPart "Rust" ∉ reservedParts := by decide
  obtain ⟨hnodes, _⟩ := harvested_metrics_agree (.ofSettings .standard) hfirst .noRoom .none
    [.report nightly, .harvest, .report oneSpan, .report nightly, .report oneSpan]
  exact ⟨hfirst, hnodes "request", by decide +kernel, by decide +kernel, by decide +kernel⟩

end Station

end Telemetry
