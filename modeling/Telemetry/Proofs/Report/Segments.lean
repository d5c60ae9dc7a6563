import Telemetry.Proofs.Entries
import Telemetry.Proofs.Forest.Grove
import Telemetry.Record.Trace

/-!
# Segments of a trace

The trace of a transaction shows its forest node for node. Its root has the trees of the forest below it
in their order, and in every tree each node has become a segment that tells of the span of that node.
-/
namespace Telemetry

namespace Tree

variable {α β : Type}

/-- Trees of one shape, whose labels are related place by place. -/
inductive Mirrors (R : α → β → Prop) : Tree α → Tree β → Prop
  | node {a : α} {b : β} {ts : List (Tree α)} {us : List (Tree β)} (hlabel : R a b)
      (hchildren : List.Forall₂ (Mirrors R) ts us) : Mirrors R (node a ts) (node b us)

theorem mirrors_map {R : α → β → Prop} {f : α → β} (h : ∀ a, R a (f a)) (t : Tree α) :
    Mirrors R t (t.map f) := by
  induction t using induct with
  | h a ts ih =>
    rw [map_node]
    refine .node (h a) ?_
    rw [List.forall₂_map_right_iff, List.forall₂_same]
    exact ih

end Tree

/-- The segment tells of the span: its name, the time from its start until it ended, cut at the greatest
duration, and those of its attributes that traces may show. -/
structure Segment.Shows (s : Span) (g : Segment) : Prop where
  name : g.name = s.name
  start : g.start = s.start
  stop : g.stop.nanos = min (s.start.nanos + s.inclusive.nanos) greatestNanos
  start_le : g.start ≤ g.stop
  parameters : ∀ key v, g.parameters.get? key = some v ↔ ∃ a, s.attributes.get? key = some a ∧
    a.destinations.contains .transactionTrace = true ∧ a.value = v

theorem Segment.shows_ofSpan (s : Span) : Shows s (ofSpan s) where
  name := rfl
  start := rfl
  stop := rfl
  start_le := by
    have hcut := s.start.nanos_le
    show s.start.nanos ≤ min (s.start.nanos + s.inclusive.nanos) greatestNanos
    omega
  parameters key v := by
    have hget : s.traceParameters.get? key =
        ((s.attributes.get? key).filter (·.destinations.contains .transactionTrace)).map (·.value) :=
      Dict.get?_ofList_filter s.attributes
        (fun a => a.destinations.contains .transactionTrace) SpanAttribute.value key
    show s.traceParameters.get? key = some v ↔ _
    simp only [hget, Option.map_eq_some_iff, Option.filter_eq_some_iff, and_assoc]

namespace TransactionTrace

theorem root_of_ofForest? {s : Snapshot} {f : Forest} {name : MetricName} {t : TransactionTrace}
    (h : ofForest? s f name = some t) :
    t.root = .node (rootSegment s.duration) (f.roots.map (Tree.map Segment.ofSpan)) := by
  rw [ofForest?] at h
  split_ifs at h
  obtain rfl := Option.some.inj h
  rfl

/-- Every tree of the forest is mirrored below the root. -/
theorem mirrors_roots (f : Forest) :
    List.Forall₂ (Tree.Mirrors Segment.Shows) f.roots (f.roots.map (Tree.map Segment.ofSpan)) := by
  rw [List.forall₂_map_right_iff, List.forall₂_same]
  exact fun t _ => Tree.mirrors_map Segment.shows_ofSpan t

theorem labels_roots (f : Forest) :
    (f.roots.map (Tree.map Segment.ofSpan)).flatMap Tree.labels =
      (f.nodes.map Tree.label).map Segment.ofSpan := by
  rw [Forest.labels_nodes, List.flatMap_map, List.map_flatMap]
  exact List.flatMap_congr fun t _ => t.labels_map Segment.ofSpan

/-- The first tree below the root mirrors the primary one. -/
theorem mirrors_primary {f : Forest} (h : f.isEmpty = false) :
    ∃ primary first, f.primary? = some primary ∧
      (f.roots.map (Tree.map Segment.ofSpan)).head? = some first ∧
      primary.Mirrors Segment.Shows first := by
  cases hroots : f.roots with
  | nil =>
    rw [Forest.isEmpty, hroots] at h
    cases h
  | cons primary rest =>
    have hprimary : f.primary? = some primary := by
      rw [Forest.primary?, hroots]
      rfl
    exact ⟨primary, _, hprimary, rfl, Tree.mirrors_map Segment.shows_ofSpan primary⟩

theorem exists_ofForest? {s : Snapshot} {f : Forest} (name : MetricName) (h : f.isEmpty = false) :
    ∃ t, ofForest? s f name = some t :=
  ⟨_, if_neg (by rw [h]; exact Bool.false_ne_true)⟩

/-- However the spans are linked, their trace shows their forest: below the root there are its trees in
their order, the primary one first, with a segment for each node, and all segments in pre-order are those
of the nodes as the forest lists them, which are the spans, each once. -/
theorem trace_mirrors_forest (s : Snapshot) (name : MetricName) (h : s.spans ≠ []) :
    let f := Forest.ofSpans s.spans
    ∃ t, ofForest? s f name = some t ∧ t.segmentCount = s.spans.length + 1 ∧
      List.Forall₂ (Tree.Mirrors Segment.Shows) f.roots t.root.children ∧
      (∃ primary first, f.primary? = some primary ∧ t.root.children.head? = some first ∧
        primary.Mirrors Segment.Shows first) ∧
      ∃ segments, t.root.labels = rootSegment s.duration :: segments ∧
        List.Forall₂ Segment.Shows (f.nodes.map Tree.label) segments ∧
        (f.nodes.map Tree.label).Perm s.spans := by
  intro f
  have hperm : (f.nodes.map Tree.label).Perm s.spans := Forest.nodes_ofSpans_perm s.spans
  have hempty : f.isEmpty = false := by
    rw [← Bool.not_eq_true, Forest.isEmpty_iff_size, Forest.size_ofSpans, List.length_eq_zero_iff]
    exact h
  obtain ⟨t, htrace⟩ := exists_ofForest? (s := s) name hempty
  have hroot := root_of_ofForest? htrace
  have hlabels : t.root.labels =
      rootSegment s.duration :: (f.nodes.map Tree.label).map Segment.ofSpan := by
    rw [hroot, Tree.labels_node, labels_roots]
  refine ⟨t, htrace, ?_, ?_, ?_, _, hlabels, ?_, hperm⟩
  · rw [segmentCount, ← Tree.length_labels, hlabels, List.length_cons, List.length_map,
      hperm.length_eq]
  · rw [hroot]
    exact mirrors_roots f
  · rw [hroot]
    exact mirrors_primary hempty
  · rw [List.forall₂_map_right_iff, List.forall₂_same]
    exact fun s _ => Segment.shows_ofSpan s

/-- Two spans without a parent, one of which has a child, and two that name each other as the parent, one
of which starts so late that its end is cut. -/
def crossed : Snapshot where
  name := ⟨.web, "Uri", "orders"⟩
  guid := "guid"
  startTime := .epoch
  duration := .ofMillis 90
  spans :=
    let query := (Span.unfinished 1 "query" .datastore (.ofMillis 10)).finish (.ofMillis 30)
    let spans := [(Span.unfinished 0 "request" .method 0).finish (.ofMillis 90),
      (query.tag "table" ⟨.text "orders", .only .transactionTrace⟩).tag "user" ⟨.int 7, .none⟩,
      Span.unfinished 2 "circle" .custom 0,
      { Span.unfinished 3 "late" .custom .greatest with duration := some (.ofMillis 1) },
      Span.unfinished 4 "stray" .custom (.ofMillis 5)]
    Span.adopt (Span.adopt (Span.adopt spans 0 1) 2 3) 3 2
  facts := .none
  ignored := false
  moved := 0

theorem trace_mirrors_forest_crossed :
    let f := Forest.ofSpans crossed.spans
    let name : MetricName := ⟨MetricName.webFamily, "Uri/orders", false⟩
    crossed.spans ≠ [] ∧ ∃ t, ofForest? crossed f name = some t ∧ t.segmentCount = 6 ∧
      List.Forall₂ (Tree.Mirrors Segment.Shows) f.roots t.root.children ∧
      (∃ primary first, f.primary? = some primary ∧ t.root.children.head? = some first ∧
        primary.Mirrors Segment.Shows first) ∧
      t.root.children.map (·.label.name) = ["request", "stray", "circle"] ∧
      t.root.labels.map (fun g => (g.name, g.stop, g.parameters.keys)) =
        [("ROOT", .ofMillis 90, []), ("request", .ofMillis 90, []), ("query", .ofMillis 30, ["table"]),
          ("stray", .ofMillis 5, []), ("circle", 0, []), ("late", .greatest, [])] := by
  intro f name
  have hspans : crossed.spans ≠ [] := by decide
  obtain ⟨t, htrace, hcount, hmirrors, hprimary, _⟩ := trace_mirrors_forest crossed name hspans
  refine ⟨hspans, t, htrace, hcount, hmirrors, hprimary, ?_⟩
  rw [root_of_ofForest? htrace]
  decide +kernel

end TransactionTrace

end Telemetry
