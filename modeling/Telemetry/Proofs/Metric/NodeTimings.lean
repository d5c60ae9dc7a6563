import Telemetry.Proofs.Forest.Grove
import Telemetry.Proofs.Metric.Replays

/-!
# Timings of nodes

The nodes of a forest are timed by the names of their spans: each name has one timing, which tells of all
spans of that name. Every span is in exactly one node, so the calls of all names are as many as the spans,
and the exclusive times of all names add up to the total time of the transaction.
-/
namespace Telemetry

/-- The nodes whose spans have the name. -/
def Forest.named (f : Forest) (name : String) : List (Tree Span) :=
  f.nodes.filter (·.label.name = name)

theorem Forest.labels_named_perm (spans : List Span) (name : String) :
    (((ofSpans spans).named name).map Tree.label).Perm (spans.filter (·.name = name)) := by
  have hperm := (nodes_ofSpans_perm spans).filter (·.name = name)
  rwa [List.filter_map] at hperm

namespace Metric

/-- Whether a name is of the form that names of nodes have under the runtime prefix. -/
def NodeName (runtimePrefix x : String) : Prop := (runtimePrefix ++ "/").toList <+: x.toList

instance (runtimePrefix : String) : DecidablePred (NodeName runtimePrefix) := fun x =>
  inferInstanceAs (Decidable ((runtimePrefix ++ "/").toList <+: x.toList))

theorem nodeName_iff {runtimePrefix x : String} :
    NodeName runtimePrefix x ↔ ∃ name, Contribution.nodeName runtimePrefix name = x := by
  constructor
  · rintro ⟨rest, hrest⟩
    refine ⟨String.ofList rest, ?_⟩
    rw [← String.toList_inj, Contribution.nodeName, String.toList_append, String.toList_ofList, hrest]
  · rintro ⟨name, rfl⟩
    exact ⟨name.toList, (String.toList_append).symm⟩

theorem nodeName_injective (runtimePrefix : String) :
    Function.Injective (Contribution.nodeName runtimePrefix) :=
  fun _ _ h => (String.append_right_inj _).1 h

/-- The exclusive time under a name, zero if there is no timing. -/
def Table.exclusive (t : Table) (x : String) : Duration :=
  match t.get? x with
  | some (.timing u) => u.exclusive
  | _ => 0

/-- The timing tells of all spans of the name, each with the exclusive time that it has in the forest. -/
structure Timing.OfSpans (spans : List Span) (name : String) (t : Timing) : Prop where
  count : t.count = spans.countP (·.name = name)
  total : t.total = .sum ((spans.filter (·.name = name)).map Span.inclusive)
  exclusive : t.exclusive = .sum (((Forest.ofSpans spans).named name).map Tree.exclusive)
  least : IsLeast {d | ∃ s ∈ spans, s.name = name ∧ s.inclusive = d} t.least
  greatest : IsGreatest {d | ∃ s ∈ spans, s.name = name ∧ s.inclusive = d} t.greatest

theorem Timing.Recaps.count_of_once {α : Type} {as : List α} {total exclusive : α → Duration}
    {t : Timing} (h : t.Recaps (as.map fun a => .once (total a) (exclusive a))) :
    t.count = as.length := by
  have hone : (as.map fun a => Timing.once (total a) (exclusive a)).map (·.count) =
      as.map fun _ => 1 := List.map_map
  rw [h.count, hone, List.map_const', List.sum_replicate_nat, Nat.mul_one]

theorem Timing.Recaps.ofSpans {spans : List Span} {name : String} {t : Timing}
    (h : t.Recaps (((Forest.ofSpans spans).named name).map fun n => .once n.inclusive n.exclusive))
    (hnamed : (Forest.ofSpans spans).named name ≠ []) : t.OfSpans spans name := by
  have hlabels := Forest.labels_named_perm spans name
  have hcount : t.count = ((Forest.ofSpans spans).named name).length :=
    h.count_of_once
  have hcalled : 0 < t.count := hcount ▸ List.length_pos_of_ne_nil hnamed
  have hamong (field : Timing → Duration)
      (hfield : ∀ n : Tree Span, field (.once n.inclusive n.exclusive) = n.inclusive) :
      among field (((Forest.ofSpans spans).named name).map fun n => .once n.inclusive n.exclusive) =
        {d | ∃ s ∈ spans, s.name = name ∧ s.inclusive = d} := by
    have hspan (s : Span) : (s ∈ spans ∧ s.name = name) ↔
        ∃ n ∈ (Forest.ofSpans spans).named name, n.label = s := by
      rw [← List.mem_map, hlabels.mem_iff, List.mem_filter, decide_eq_true_iff]
    ext d
    constructor
    · rintro ⟨_, hu, -, rfl⟩
      obtain ⟨n, hn, rfl⟩ := List.mem_map.1 hu
      obtain ⟨hs, hsname⟩ := (hspan n.label).2 ⟨n, hn, rfl⟩
      exact ⟨n.label, hs, hsname, (hfield n).symm⟩
    · rintro ⟨s, hs, hsname, rfl⟩
      obtain ⟨n, hn, rfl⟩ := (hspan s).1 ⟨hs, hsname⟩
      exact ⟨_, List.mem_map_of_mem hn, Nat.one_pos, hfield n⟩
  refine ⟨?_, ?_, ?_, ?_, ?_⟩
  · rw [hcount, List.countP_eq_length_filter, ← hlabels.length_eq, List.length_map]
  · rw [h.total, List.map_map, ← Duration.sum_perm (hlabels.map Span.inclusive), List.map_map]
    rfl
  · rw [h.exclusive, List.map_map]
    rfl
  · rw [← hamong (·.least) fun _ => rfl]
    exact h.least hcalled
  · rw [← hamong (·.greatest) fun _ => rfl]
    exact h.greatest hcalled

namespace Contribution

variable (runtimePrefix : String) (f : Forest) (c : Context)

theorem filter_inScope : (all runtimePrefix f c).filter (·.inScope) =
    ofNodes runtimePrefix f ++ [within c.name.full (.timing (.once c.duration c.duration))] := by
  have hnodes : (ofNodes runtimePrefix f).filter (·.inScope) = ofNodes runtimePrefix f := by
    simp [ofNodes, ofNode, within]
  have hcommon {cs : List Contribution} (h : ∀ k ∈ cs, k.inScope = false) :
      cs.filter (·.inScope) = [] := by simpa using h
  have hduration : (ofDuration c).filter (·.inScope) =
      [within c.name.full (.timing (.once c.duration c.duration))] := by
    unfold ofDuration
    split <;> rfl
  have hapdex : ∀ k ∈ ofApdex c, k.inScope = false := by
    unfold ofApdex
    split <;> simp [common]
  have herrors : ∀ k ∈ ofErrors c, k.inScope = false := by
    unfold ofErrors
    split <;> simp [common]
  rw [all]
  simp only [List.filter_append, hnodes, hduration, hcommon hapdex, hcommon herrors]
  simp [ofTotalTime, ofQueueTime, ofReferrer, common, hcommon]

theorem data_under_nodeName (name : String) :
    (under (nodeName runtimePrefix name) (ofNodes runtimePrefix f)).map (·.data) =
      ((f.named name).map fun t => Timing.once t.inclusive t.exclusive).map Data.timing := by
  have hsame (t : Tree Span) : decide ((ofNode runtimePrefix t).name = nodeName runtimePrefix name) =
      decide (t.label.name = name) := by
    simp only [ofNode, within, (nodeName_injective runtimePrefix).eq_iff]
  rw [under, ofNodes, List.filter_map, List.map_map, List.map_map, Forest.named]
  simp only [Function.comp_def, hsame]
  rfl

end Contribution

namespace Stats

open Contribution

variable {runtimePrefix : String} {f : Forest} {c : Context} {x : String}

theorem mem_keys_overall : x ∈ (ofForest runtimePrefix f c).overall.keys ↔
    x ∈ (all runtimePrefix f c).map (·.name) := by
  show x ∈ (Table.ofList ((all runtimePrefix f c).map entry)).keys ↔ _
  rw [Table.mem_keys_ofList, List.map_map]
  rfl

/-- Within the scope of a transaction there are only nodes and the transaction itself. -/
theorem mem_keys_own : x ∈ (ofForest runtimePrefix f c).own.keys ↔
    (∃ t ∈ f.nodes, nodeName runtimePrefix t.label.name = x) ∨ x = c.name.full := by
  show x ∈ (Table.ofList (ownEntries (all runtimePrefix f c))).keys ↔ _
  rw [Table.mem_keys_ofList, ownEntries, filter_inScope, List.map_map, List.map_append,
    List.mem_append, ofNodes, List.map_map, List.mem_map, List.map_singleton, List.mem_singleton]
  rfl

section

variable (hfirst : firstPart runtimePrefix ∉ reservedParts)
  (hname : c.name.family = MetricName.webFamily ∨ c.name.family = MetricName.otherFamily)
include hfirst hname

theorem overall_of_totalTimeNames (hx : x ∈ c.name.totalTimeNames) :
    (ofForest runtimePrefix f c).overall.get? x =
      some (.timing (.once f.totalExclusive f.totalExclusive)) := by
  obtain ⟨k, hk, rfl⟩ := List.mem_map.1 (names_ofTotalTime c f ▸ hx)
  rw [← data_ofTotalTime c f k hk]
  exact overall_of_mem hname (Topic.alone_of_reserved hfirst .totalTime) hk
    (Topic.ofName_totalTimeNames hx) c.name.nodup_totalTimeNames

theorem nodeName_of_mem_keys_own (hx : x ∈ (ofForest runtimePrefix f c).own.keys)
    (hnode : NodeName runtimePrefix x) : ∃ t ∈ f.nodes, nodeName runtimePrefix t.label.name = x := by
  refine (mem_keys_own.1 hx).resolve_right ?_
  rintro rfl
  obtain ⟨name, hfull⟩ := nodeName_iff.1 hnode
  have htopic := topic_nodeName hfirst name
  rw [hfull, Topic.ofName_full_of_family hname] at htopic
  cases htopic

theorem mem_nodeNames : x ∈ (ofForest runtimePrefix f c).own.keys.filter (NodeName runtimePrefix ·) ↔
    ∃ t ∈ f.nodes, nodeName runtimePrefix t.label.name = x := by
  rw [List.mem_filter, decide_eq_true_iff]
  constructor
  · rintro ⟨hx, hnode⟩
    exact nodeName_of_mem_keys_own hfirst hname hx hnode
  · rintro ⟨t, ht, rfl⟩
    exact ⟨mem_keys_own.2 (.inl ⟨t, ht, rfl⟩), nodeName_iff.2 ⟨t.label.name, rfl⟩⟩

/-- Under the name of a node there is one timing for all nodes with that name. -/
theorem timing_of_named {name : String} (hnamed : f.named name ≠ []) :
    ∃ t, (ofForest runtimePrefix f c).own.get? (nodeName runtimePrefix name) = some (.timing t) ∧
      t.Recaps ((f.named name).map fun t => .once t.inclusive t.exclusive) := by
  obtain ⟨hown, -⟩ := get?_of_node hfirst hname (topic_nodeName hfirst name) (f := f)
  rw [hown, data_under_nodeName]
  refine Data.Recaps.of_timings (Data.Recaps.none.mergeAll ?_) (by simpa using hnamed)
  simp only [List.map_map, List.forall_mem_map]
  exact fun t _ => .once _ _

/-- The timing under a name tells of just the spans that have it. -/
theorem timing_of_span {spans : List Span} {s : Span} (hs : s ∈ spans) :
    ∃ t, (ofForest runtimePrefix (.ofSpans spans) c).own.get? (nodeName runtimePrefix s.name) =
      some (.timing t) ∧ t.OfSpans spans s.name := by
  have hlabels := Forest.labels_named_perm spans s.name
  have hnamed : (Forest.ofSpans spans).named s.name ≠ [] := by
    intro hnone
    have hmem : s ∈ spans.filter (·.name = s.name) := List.mem_filter.2 ⟨hs, by simp⟩
    rw [hnone] at hlabels
    exact List.not_mem_nil (hlabels.mem_iff.2 hmem)
  obtain ⟨t, hget, hrecaps⟩ := timing_of_named hfirst hname hnamed
  exact ⟨t, hget, hrecaps.ofSpans hnamed⟩

/-- What the timing under the name of a node says in numbers. -/
theorem count_and_exclusive_of_node {t : Tree Span} (ht : t ∈ f.nodes)
    (hx : nodeName runtimePrefix t.label.name = x) :
    let ns := f.nodes.filter fun n => nodeName runtimePrefix n.label.name = x
    (ofForest runtimePrefix f c).own.count x = ns.length ∧
      (ofForest runtimePrefix f c).own.exclusive x = .sum (ns.map Tree.exclusive) := by
  subst hx
  intro ns
  have hns : ns = f.named t.label.name := by
    simp only [ns, Forest.named, (nodeName_injective runtimePrefix).eq_iff]
  have hnamed : f.named t.label.name ≠ [] :=
    List.ne_nil_of_mem (List.mem_filter.2 ⟨ht, by simp⟩)
  obtain ⟨u, hget, hrecaps⟩ := timing_of_named hfirst hname hnamed
  rw [hns]
  constructor
  · have hcount : (ofForest runtimePrefix f c).own.count (nodeName runtimePrefix t.label.name) =
        u.count := by
      rw [Table.count, hget]
      rfl
    exact hcount.trans hrecaps.count_of_once
  · have hexclusive : (ofForest runtimePrefix f c).own.exclusive
        (nodeName runtimePrefix t.label.name) = u.exclusive := by rw [Table.exclusive, hget]
    rw [hexclusive, hrecaps.exclusive, List.map_map]
    rfl

/-- The nodes fall into groups by their names, so the timings of all groups tell of each node once. -/
theorem sums_over_nodeNames :
    let s := ofForest runtimePrefix f c
    let names := s.own.keys.filter (NodeName runtimePrefix ·)
    (names.map s.own.count).sum = f.nodes.length ∧
      .sum (names.map s.own.exclusive) = f.totalExclusive := by
  intro s names
  let key := fun n : Tree Span => nodeName runtimePrefix n.label.name
  have hgroups : (names.flatMap fun x => f.nodes.filter (key · = x)).Perm f.nodes :=
    flatMap_filter_perm key (s.own.nodup.filter _) fun n hn =>
      (mem_nodeNames hfirst hname).2 ⟨n, hn, rfl⟩
  have hnumbers : ∀ x ∈ names, s.own.count x = (f.nodes.filter (key · = x)).length ∧
      s.own.exclusive x = .sum ((f.nodes.filter (key · = x)).map Tree.exclusive) := by
    intro x hx
    obtain ⟨n, hn, hkey⟩ := (mem_nodeNames hfirst hname).1 hx
    exact count_and_exclusive_of_node hfirst hname hn hkey
  constructor
  · rw [List.map_congr_left fun x hx => (hnumbers x hx).1, ← List.length_flatMap,
      hgroups.length_eq]
  · rw [List.map_congr_left fun x hx => (hnumbers x hx).2, ← Duration.sum_flatMap,
      ← List.map_flatMap, Duration.sum_perm (hgroups.map Tree.exclusive)]
    rfl

end

/-- In the scope of a transaction each name that spans have stands once among the names of nodes, with
one timing that tells of just these spans, and overall it stands alike. All calls together are as many as
the spans, and all exclusive times together are the total time, under both names that it has. -/
theorem nodes_timed_by_name (hfirst : firstPart runtimePrefix ∉ reservedParts) (spans : List Span)
    (hname : c.name.family = MetricName.webFamily ∨ c.name.family = MetricName.otherFamily) :
    let s := ofForest runtimePrefix (.ofSpans spans) c
    let names := s.own.keys.filter (NodeName runtimePrefix ·)
    names.Nodup ∧
    (∀ x, x ∈ names ↔ ∃ span ∈ spans, nodeName runtimePrefix span.name = x) ∧
    (∀ span ∈ spans, ∃ t, s.own.get? (nodeName runtimePrefix span.name) = some (.timing t) ∧
      t.OfSpans spans span.name) ∧
    (∀ x, NodeName runtimePrefix x → s.overall.get? x = s.own.get? x) ∧
    (names.map s.own.count).sum = spans.length ∧
    ∃ t, (∀ x ∈ c.name.totalTimeNames, s.overall.get? x = some (.timing t)) ∧
      t.total = .sum (names.map s.own.exclusive) := by
  intro s names
  obtain ⟨hcounts, hexclusive⟩ := sums_over_nodeNames hfirst hname (f := .ofSpans spans)
  refine ⟨s.own.nodup.filter _, fun x => ?_, fun span hspan => timing_of_span hfirst hname hspan,
    fun x hx => ?_, hcounts.trans (Forest.size_ofSpans spans), _,
    fun x hx => overall_of_totalTimeNames hfirst hname hx, hexclusive.symm⟩
  · have hlabels {span : Span} : span ∈ (Forest.ofSpans spans).nodes.map Tree.label ↔ span ∈ spans :=
      (Forest.nodes_ofSpans_perm spans).mem_iff
    simp only [← hlabels, List.mem_map, exists_exists_and_eq_and]
    exact mem_nodeNames hfirst hname
  · obtain ⟨name, rfl⟩ := nodeName_iff.1 hx
    obtain ⟨hown, hoverall⟩ :=
      get?_of_node hfirst hname (topic_nodeName hfirst name) (f := .ofSpans spans)
    exact hoverall.trans hown.symm

/-- A request that runs two queries one after the other. -/
def twoQueries : List Span :=
  let spans := [(Span.unfinished 0 "request" .method 0).finish (.ofMillis 90),
    (Span.unfinished 1 "query" .datastore (.ofMillis 10)).finish (.ofMillis 30),
    (Span.unfinished 2 "query" .datastore (.ofMillis 40)).finish (.ofMillis 70)]
  Span.adopt (Span.adopt spans 0 1) 0 2

theorem nodes_timed_by_name_twoQueries :
    let name : MetricName := ⟨MetricName.webFamily, "Uri/orders", false⟩
    let c : Context := ⟨name, .ofMillis 90, none, none, false, none⟩
    let s := ofForest "Rust" (.ofSpans twoQueries) c
    let names := s.own.keys.filter (NodeName "Rust" ·)
    firstPart "Rust" ∉ reservedParts ∧
    (c.name.family = MetricName.webFamily ∨ c.name.family = MetricName.otherFamily) ∧
    names = ["Rust/request", "Rust/query"] ∧ names.map s.own.count = [1, 2] ∧
    names.map s.own.exclusive = [.ofMillis 40, .ofMillis 50] ∧
    (names.map s.own.count).sum = twoQueries.length ∧
    ∃ t, (∀ x ∈ c.name.totalTimeNames, s.overall.get? x = some (.timing t)) ∧
      t.total = .sum (names.map s.own.exclusive) := by
  intro name c s names
  have hfirst : firstPart "Rust" ∉ reservedParts := by decide
  have hname : c.name.family = MetricName.webFamily ∨ c.name.family = MetricName.otherFamily :=
    .inl rfl
  obtain ⟨-, -, -, -, hcounts, htotal⟩ := nodes_timed_by_name hfirst twoQueries hname
  exact ⟨hfirst, hname, by decide +kernel, by decide +kernel, by decide +kernel, hcounts, htotal⟩

end Stats

end Metric

end Telemetry
