import Telemetry.Proofs.Metric.NodeTimings

/-!
# Metrics that are prescribed

Beside the timings of its nodes a transaction has metrics that are prescribed by its category, its queue
time, its target, whether an error is reported and who called it. Whatever it is called, they have names
of their own, so each has what is prescribed for it and nothing else, and there are no further metrics.
-/
namespace Telemetry.Metric

/-- The metrics of a transaction as a whole, where `exclusive` is the time of all its nodes. -/
def prescribed (n : TransactionName) (c : Context) (exclusive : Duration) : List (String × Data) :=
  let own := n.group ++ "/" ++ n.name
  let duration := Data.timing (.once c.duration c.duration)
  let totalTime := Data.timing (.once exclusive exclusive)
  let call := Data.timing (.calls 1)
  (match n.category with
    | .web => [("WebTransaction", duration), ("HttpDispatcher", duration),
        ("WebTransaction/" ++ own, duration), ("WebTransactionTotalTime", totalTime),
        ("WebTransactionTotalTime/" ++ own, totalTime)]
    | .other => [("OtherTransaction/all", duration), ("OtherTransaction/" ++ own, duration),
        ("OtherTransactionTotalTime", totalTime), ("OtherTransactionTotalTime/" ++ own, totalTime)]) ++
  (match c.queueTime with
    | some queued => [("WebFrontend/QueueTime", Data.timing (.once queued queued))]
    | none => []) ++
  (match c.target with
    | some target =>
      let zone := Data.apdex (.once (.classify c.duration target c.errorReported) target)
      [("ApdexAll", zone), ("Apdex", zone), ("Apdex/" ++ own, zone)]
    | none => []) ++
  (match c.errorReported, n.category with
    | true, .web => [("Errors/all", call), ("Errors/allWeb", call),
        ("Errors/WebTransaction/" ++ own, call)]
    | true, .other => [("Errors/all", call), ("Errors/allOther", call),
        ("Errors/OtherTransaction/" ++ own, call)]
    | false, _ => []) ++
  (match c.referrer with
    | some caller => [("ClientApplication/" ++ caller ++ "/all", duration)]
    | none => [])

namespace Contribution

/-- The topics that are not about single nodes. -/
def wholeTopics : List Topic := [.duration, .totalTime, .queueTime, .apdex, .errors, .caller]

/-- What a transaction contributes as a whole. -/
def besides (f : Forest) (c : Context) : List Contribution :=
  ofDuration c ++ ofTotalTime c f ++ ofQueueTime c ++ ofApdex c ++ ofErrors c ++ ofReferrer c

variable {runtimePrefix : String} {f : Forest} {c : Context}

theorem all_eq_append : all runtimePrefix f c = ofNodes runtimePrefix f ++ besides f c := by
  simp [all, besides]

theorem besides_eq_flatMap (runtimePrefix : String) :
    besides f c = wholeTopics.flatMap (part runtimePrefix f c) := by
  simp [besides, wholeTopics, part]

/-- All names come out as they are prescribed. -/
theorem entries_besides {rules : NamingRules} {n : TransactionName} (hc : c.name = rules.nameOf n) :
    (besides f c).map entry = prescribed n c f.totalExclusive := by
  have hfamily : c.name.family = n.category.family := by
    rw [hc]
    rfl
  have hunprefixed : c.name.unprefixed = n.group ++ "/" ++ n.name := by
    rw [hc]
    rfl
  have hweb : c.name.isWeb = (n.category.family == MetricName.webFamily) := by
    rw [MetricName.isWeb, hfamily]
  have hfull : c.name.full = n.category.family ++ "/" ++ (n.group ++ "/" ++ n.name) := by
    rw [MetricName.full, hfamily, hunprefixed]
  -- The fixed parts of the name of an error have to stand together to be one text.
  have herror : "Errors/" ++ c.name.full =
      "Errors/" ++ (n.category.family ++ "/") ++ (n.group ++ "/" ++ n.name) := by
    simp only [hfull, String.append_assoc]
  have hqueue : (ofQueueTime c).map entry = (match c.queueTime with
      | some queued => [("WebFrontend/QueueTime", Data.timing (.once queued queued))]
      | none => []) := by
    cases h : c.queueTime <;> simp [ofQueueTime, h, common, entry]
  have hcaller : (ofReferrer c).map entry = (match c.referrer with
      | some caller => [("ClientApplication/" ++ caller ++ "/all",
          Data.timing (.once c.duration c.duration))]
      | none => []) := by
    cases h : c.referrer <;> simp [ofReferrer, h, common, entry]
  cases hcategory : n.category <;> cases htarget : c.target <;> cases hreported : c.errorReported <;>
    simp [besides, prescribed, ofDuration, ofTotalTime, ofApdex, ofErrors, ↓herror, hweb, hfull,
      hunprefixed, hcategory, htarget, hreported, hqueue, hcaller, common, within, entry,
      Category.family, MetricName.webFamily, MetricName.otherFamily]

theorem exists_part_of_besides (runtimePrefix : String) {k : Contribution}
    (hk : k ∈ besides f c) : ∃ topic, topic ≠ .node ∧ k ∈ part runtimePrefix f c topic := by
  rw [besides_eq_flatMap runtimePrefix] at hk
  obtain ⟨topic, htopic, hk⟩ := List.mem_flatMap.1 hk
  refine ⟨topic, ?_, hk⟩
  rintro rfl
  exact absurd htopic (by decide)

section

variable (hfirst : firstPart runtimePrefix ∉ reservedParts) (hname : c.name.Regular)
include hfirst hname

/-- A name tells its topic. -/
theorem disjoint_names {topic topic' : Topic} (hne : topic ≠ topic') :
    List.Disjoint ((part runtimePrefix f c topic).map (·.name))
      ((part runtimePrefix f c topic').map (·.name)) := by
  intro x hx hx'
  obtain ⟨k, hk, rfl⟩ := List.mem_map.1 hx
  obtain ⟨k', hk', hsame⟩ := List.mem_map.1 hx'
  apply hne
  rw [← topic_of_mem hfirst hname.family hk, ← hsame, topic_of_mem hfirst hname.family hk']

theorem nodup_names_besides : ((besides f c).map (·.name)).Nodup := by
  rw [besides_eq_flatMap runtimePrefix, List.map_flatMap, List.nodup_flatMap]
  constructor
  · intro topic htopic
    refine nodup_names hname ?_
    rintro rfl
    exact absurd htopic (by decide)
  · have hdistinct : wholeTopics.Pairwise (· ≠ ·) := by decide
    exact hdistinct.imp fun hne => disjoint_names hfirst hname hne

theorem nodeName_ne_of_besides {k : Contribution} (hk : k ∈ besides f c) (name : String) :
    nodeName runtimePrefix name ≠ k.name := by
  obtain ⟨topic, htopic, hk⟩ := exists_part_of_besides runtimePrefix hk
  intro hsame
  rw [← topic_of_mem hfirst hname.family hk, ← hsame, topic_nodeName hfirst] at htopic
  exact htopic rfl

end

end Contribution

namespace Stats

open Contribution

theorem overall_of_besides {runtimePrefix : String} {f : Forest} {c : Context}
    (hfirst : firstPart runtimePrefix ∉ reservedParts) (hname : c.name.Regular) {k : Contribution}
    (hk : k ∈ besides f c) : (ofForest runtimePrefix f c).overall.get? k.name = some k.data ∧
      k.data.count = 1 := by
  obtain ⟨topic, htopic, hk⟩ := exists_part_of_besides runtimePrefix hk
  exact ⟨overall_of_mem hname.family (Topic.alone_of_reserved hfirst topic) hk
    (topic_of_mem hfirst hname.family hk) (nodup_names hname htopic), (has_of_mem hk).count_eq⟩

/-- The metrics that are prescribed for a transaction have names of their own, whatever its group, its
name and its caller are: each tells of one call, just as prescribed. With the names of its nodes these are
all names overall. Within its scope there are its nodes and the transaction itself. -/
theorem prescribed_metrics_stand_alone {runtimePrefix : String}
    (hfirst : firstPart runtimePrefix ∉ reservedParts) (rules : NamingRules) (n : TransactionName)
    (f : Forest) {c : Context} (hc : c.name = rules.nameOf n) :
    let s := ofForest runtimePrefix f c
    let whole := prescribed n c f.totalExclusive
    (whole.map Prod.fst).Nodup ∧
    (∀ e ∈ whole, s.overall.get? e.1 = some e.2 ∧ e.2.count = 1 ∧
      ∀ name, nodeName runtimePrefix name ≠ e.1) ∧
    s.own.get? c.name.full = some (.timing (.once c.duration c.duration)) ∧
    (∀ x, x ∈ s.overall.keys ↔
      (∃ t ∈ f.nodes, nodeName runtimePrefix t.label.name = x) ∨ x ∈ whole.map Prod.fst) ∧
    ∀ x, x ∈ s.own.keys ↔
      (∃ t ∈ f.nodes, nodeName runtimePrefix t.label.name = x) ∨ x = c.name.full := by
  intro s whole
  have hname : c.name.Regular := hc ▸ rules.regular_nameOf n
  have hwhole : whole = (besides f c).map entry := (entries_besides hc).symm
  have hnames : whole.map Prod.fst = (besides f c).map (·.name) := by
    rw [hwhole, List.map_map]
    rfl
  refine ⟨?_, fun e he => ?_, own_full hfirst hname, fun x => ?_, fun x => mem_keys_own⟩
  · rw [hnames]
    exact nodup_names_besides hfirst hname
  · rw [hwhole] at he
    obtain ⟨k, hk, rfl⟩ := List.mem_map.1 he
    obtain ⟨hget, hcount⟩ := overall_of_besides hfirst hname hk
    exact ⟨hget, hcount, nodeName_ne_of_besides hfirst hname hk⟩
  · rw [mem_keys_overall, all_eq_append, List.map_append, List.mem_append, hnames, ofNodes,
      List.map_map, List.mem_map]
    rfl

/-- A transaction without a name of its own, in a group that is called like the metric of all. -/
theorem prescribed_metrics_stand_alone_groupAll :
    let rules := NamingRules.new none
    let n : TransactionName := ⟨.other, "all", ""⟩
    let f := Forest.ofSpans [(Span.unfinished 0 "all" .method 0).finish (.ofMillis 70)]
    let c : Context :=
      ⟨rules.nameOf n, .ofMillis 90, some (.ofMillis 5), some (.ofMillis 50), true, some "all"⟩
    let s := ofForest "Rust" f c
    let whole := prescribed n c f.totalExclusive
    firstPart "Rust" ∉ reservedParts ∧ c.name = rules.nameOf n ∧
    whole.map Prod.fst = ["OtherTransaction/all", "OtherTransaction/all/", "OtherTransactionTotalTime",
      "OtherTransactionTotalTime/all/", "WebFrontend/QueueTime", "ApdexAll", "Apdex", "Apdex/all/",
      "Errors/all", "Errors/allOther", "Errors/OtherTransaction/all/", "ClientApplication/all/all"] ∧
    (∀ e ∈ whole, s.overall.get? e.1 = some e.2 ∧ e.2.count = 1 ∧
      ∀ name, nodeName "Rust" name ≠ e.1) ∧
    s.own.keys = ["Rust/all", "OtherTransaction/all/"] := by
  intro rules n f c s whole
  have hfirst : firstPart "Rust" ∉ reservedParts := by decide
  have hc : c.name = rules.nameOf n := rfl
  obtain ⟨-, halone, -⟩ := prescribed_metrics_stand_alone hfirst rules n f hc
  exact ⟨hfirst, hc, by decide +kernel, halone, by decide +kernel⟩

end Stats

end Telemetry.Metric
