import Telemetry.Proofs.Entries
import Telemetry.Proofs.Forest.Relabelling
import Telemetry.Proofs.Harvest.Deliveries

/-!
# Where attributes go

An attribute of a transaction shows in the records that it is tagged for and nowhere else. Attributes
of spans show in the transaction trace if they are tagged for it, and the statements of datastore spans
make up the SQL traces. All else is the same for transactions that only differ in their attributes.
-/
namespace Telemetry

open Telemetry.Metric

/-- The attributes that may reach the destination, with all their tags. -/
def Attributes.keeping (as : Attributes) (d : Destination) : Attributes :=
  ⟨as.entries.filter (·.destinations.contains d)⟩

namespace Span

/-- The span without its attributes. -/
def bare (s : Span) : Span := { s with attributes := .empty }

/-- The value under the key, if transaction traces may show it. -/
def shown? (s : Span) (key : String) : Option Attribute.Value :=
  ((s.attributes.get? key).filter (·.destinations.contains .transactionTrace)).map (·.value)

/-- The text under the key of statements, if the span is of a datastore. -/
def ran? (s : Span) : Option String :=
  if s.kind = .datastore then (s.attributes.get? "sql").bind (·.value.asText?) else none

end Span

namespace Snapshot

/-- The transaction without those of its own attributes that may not reach the destination. -/
def keeping (s : Snapshot) (d : Destination) : Snapshot :=
  { s with facts := { s.facts with attributes := s.facts.attributes.keeping d } }

/-- The transaction without any attributes, its own or those of its spans. -/
def bare (s : Snapshot) : Snapshot :=
  { s with
    spans := s.spans.map Span.bare
    facts := { s.facts with attributes := .empty } }

end Snapshot

/-- What attributes are tagged with to reach the records of a kind. SQL traces take no attributes of
transactions. -/
def RecordKind.destination? : RecordKind → Option Destination
  | trace => some .transactionTrace
  | event => some .transactionEvent
  | errorTrace => some .errorTrace
  | errorEvent => some .errorEvent
  | sqlTrace => none

/-- All that can be read off a segment; the order of its parameters is not part of it. -/
def Segment.reading (s : Segment) :
    Duration × Duration × String × (String → Option Attribute.Value) :=
  (s.start, s.stop, s.name, s.parameters.get?)

/-- The same traces, except that parameters may come in another order. -/
def TransactionTrace.Alike (t u : TransactionTrace) : Prop :=
  { t with root := u.root } = u ∧ t.root.map Segment.reading = u.root.map Segment.reading

theorem Attributes.routed_keeping (as : Attributes) (d : Destination) :
    (as.keeping d).routed (.only d) = as.routed (.only d) := by
  unfold routed keeping
  simp only [Destinations.meets_only, List.filter_filter, Bool.and_self]

theorem Attributes.routed_congr {as bs : Attributes} {d : Destination}
    (h : as.keeping d = bs.keeping d) : as.routed (.only d) = bs.routed (.only d) := by
  rw [← routed_keeping, h, routed_keeping]

theorem Span.get?_traceParameters (s : Span) : s.traceParameters.get? = s.shown? :=
  funext fun key => Dict.get?_ofList_filter s.attributes
    (fun a => a.destinations.contains .transactionTrace) SpanAttribute.value key

/-- What is made of two parts agrees where the parts do. -/
theorem map_congr_of_parts {α β γ δ : Type} {f : α → β} {g : α → γ} {xs ys : List α}
    (hf : xs.map f = ys.map f) (hg : xs.map g = ys.map g) (make : β → γ → δ) :
    xs.map (fun a => make (f a) (g a)) = ys.map fun a => make (f a) (g a) := by
  have hparts (l : List α) : l.map (fun a => make (f a) (g a)) =
      ((l.map f).zip (l.map g)).map fun e => make e.1 e.2 := by
    rw [List.zip_map', List.map_map]
    rfl
  rw [hparts, hparts, hf, hg]

/-! ### Forests without attributes -/

def Tree.bare : Tree Span → Tree Span := Tree.map Span.bare

theorem Tree.inclusive_bare (t : Tree Span) : t.bare.inclusive = t.inclusive := by
  rw [inclusive, bare, label_map]
  rfl

theorem Tree.exclusive_bare (t : Tree Span) : t.bare.exclusive = t.exclusive := by
  have hchildren : t.bare.children.map inclusive = t.children.map inclusive := by
    rw [bare, children_map, List.map_map]
    exact List.map_congr_left fun c _ => c.inclusive_bare
  rw [exclusive, exclusive, hchildren, inclusive_bare]

namespace Forest

def bare (f : Forest) : Forest := { f with roots := f.roots.map Tree.bare }

theorem nodes_bare (f : Forest) : f.bare.nodes = f.nodes.map Tree.bare := by
  rw [nodes_eq_flatMap_subtrees, nodes_eq_flatMap_subtrees, bare, List.flatMap_map,
    List.map_flatMap]
  exact List.flatMap_congr fun t _ => t.subtrees_map Span.bare

theorem totalExclusive_bare (f : Forest) : f.bare.totalExclusive = f.totalExclusive := by
  rw [totalExclusive, nodes_bare, List.map_map, totalExclusive]
  congr 1
  exact List.map_congr_left fun t _ => t.exclusive_bare

theorem isEmpty_bare (f : Forest) : f.bare.isEmpty = f.isEmpty := List.isEmpty_map

theorem ofNodes_bare (runtimePrefix : String) (f : Forest) :
    Contribution.ofNodes runtimePrefix f.bare = Contribution.ofNodes runtimePrefix f := by
  rw [Contribution.ofNodes, nodes_bare, List.map_map]
  apply List.map_congr_left
  intro t _
  rw [Function.comp_apply, Contribution.ofNode, Contribution.ofNode, Tree.inclusive_bare,
    Tree.exclusive_bare, Tree.bare, Tree.label_map]
  rfl

theorem stats_bare (runtimePrefix : String) (f : Forest) (c : Context) :
    Stats.ofForest runtimePrefix f.bare c = Stats.ofForest runtimePrefix f c := by
  unfold Stats.ofForest Contribution.all Contribution.ofTotalTime
  rw [ofNodes_bare, totalExclusive_bare]

variable {xs ys : List Span} (h : xs.map Span.bare = ys.map Span.bare)
include h

theorem links_of_bare : xs.map Span.links = ys.map Span.links := by
  have hlinks := congrArg (List.map Span.links) h
  rw [List.map_map, List.map_map] at hlinks
  exact hlinks

theorem bare_ofSpans : (ofSpans xs).bare = (ofSpans ys).bare := by
  have hroots := map_roots_congr (links_of_bare h) h
  have hcount := inconsistencies_congr (links_of_bare h)
  unfold bare
  exact congr (congrArg Forest.mk hroots) hcount

theorem map_readings_congr (hshown : xs.map Span.shown? = ys.map Span.shown?) :
    (ofSpans xs).roots.map (Tree.map fun s => (Segment.ofSpan s).reading) =
      (ofSpans ys).roots.map (Tree.map fun s => (Segment.ofSpan s).reading) := by
  have hreading : (fun s : Span => (Segment.ofSpan s).reading) = fun s =>
      (s.bare.start, s.bare.start + s.bare.inclusive, s.bare.name, s.shown?) := by
    funext s
    rw [← s.get?_traceParameters]
    rfl
  rw [hreading]
  exact map_roots_congr (links_of_bare h) (map_congr_of_parts h hshown fun b shown =>
    (b.start, b.start + b.inclusive, b.name, shown))

/-- Of its spans a SQL trace only shows what they ran and what they are without attributes. -/
theorem collect_congr (hran : xs.map Span.ran? = ys.map Span.ran?) (runtimePrefix : String)
    (name : MetricName) (uri : Option String) :
    SqlTrace.collect runtimePrefix name uri (ofSpans xs) =
      SqlTrace.collect runtimePrefix name uri (ofSpans ys) := by
  have hcollect (f : Forest) : SqlTrace.collect runtimePrefix name uri f =
      (f.nodes.map fun t => (t.label.bare, t.label.ran?)).foldl (fun traces e =>
        e.2.elim traces fun statement =>
          SqlTrace.count (.first runtimePrefix name uri statement (.node e.1 [])) traces) [] := by
    rw [List.foldl_map, SqlTrace.collect]
    congr 1
    funext traces t
    have hstatement : SqlTrace.statement? t = t.label.ran? := rfl
    rw [hstatement]
    cases t.label.ran? <;> rfl
  rw [hcollect, hcollect, map_label_nodes_congr (links_of_bare h)
    (map_congr_of_parts h hran Prod.mk)]

end Forest

/-! ### Reports -/

def ErrorTrace.withAttributes (t : ErrorTrace) (as : AttributeSet) : ErrorTrace :=
  { t with attributes := as }

namespace ReportRules

variable (rules : ReportRules) (s : Snapshot) (name : MetricName)

theorem errorTrace?_bare : rules.errorTrace? s name = (rules.errorTrace? s.bare name).map
    (·.withAttributes (s.facts.attributes.routed (.only .errorTrace))) := by
  simp only [errorTrace?, ErrorRules.trace?_eq, ErrorRules.trace?]
  split_ifs
  · rw [Option.map_map]
    rfl
  · rfl

theorem context_bare : rules.context s name = rules.context s.bare name := by
  have herror : (rules.errorTrace? s name).isSome = (rules.errorTrace? s.bare name).isSome := by
    rw [errorTrace?_bare, Option.isSome_map]
  unfold context
  rw [herror]
  rfl

/-- Error events do not look at the attributes of error traces. -/
theorem errorEvent_bare : (rules.errorTrace? s name).map (Event.ofError s) =
    (rules.errorTrace? s.bare name).map fun e =>
      Event.withFacts (s.facts.attributes.routed (.only .errorEvent)) (Event.errorFacts s.bare e) := by
  rw [errorTrace?_bare, Option.map_map]
  rfl

variable {s} {t : Snapshot} (h : s.bare = t.bare)
include h

theorem spans_of_bare : s.spans.map Span.bare = t.spans.map Span.bare :=
  congrArg Snapshot.spans h

/-- The attributes have no say in whether a transaction is reported. -/
theorem examine_cases_of_bare :
    (∃ name, rules.examine s = .report (rules.report s name) ∧
      rules.examine t = .report (rules.report t name)) ∨
    rules.examine s = rules.examine t ∧ ∀ r, rules.examine s ≠ .report r := by
  have hignored : t.ignored = s.ignored := (congrArg Snapshot.ignored h).symm
  have hempty : t.spans.isEmpty = s.spans.isEmpty := by
    have hspans := congrArg List.isEmpty (spans_of_bare h)
    rw [List.isEmpty_map, List.isEmpty_map] at hspans
    exact hspans.symm
  have hname : t.name = s.name := (congrArg Snapshot.name h).symm
  unfold examine
  rw [hignored, hempty, hname]
  split_ifs
  · exact Or.inr ⟨rfl, fun r hr => nomatch hr⟩
  · exact Or.inr ⟨rfl, fun r hr => nomatch hr⟩
  · dsimp only
    split_ifs
    · exact Or.inr ⟨rfl, fun r hr => nomatch hr⟩
    · exact Or.inl ⟨_, rfl, rfl⟩

theorem offers_cases_of_bare (k : RecordKind) :
    (∃ name, rules.offers k s = k.records (rules.report s name) ∧
      rules.offers k t = k.records (rules.report t name)) ∨
    rules.offers k s = [] ∧ rules.offers k t = [] := by
  unfold offers
  obtain ⟨name, hs, ht⟩ | ⟨hsame, hnot⟩ := rules.examine_cases_of_bare h
  · rw [hs, ht]
    exact Or.inl ⟨name, rfl, rfl⟩
  · rw [← hsame]
    cases hexamine : rules.examine s with
    | report r => exact absurd hexamine (hnot r)
    | flagged | empty | unwanted => exact Or.inr ⟨rfl, rfl⟩

theorem context_congr : rules.context s name = rules.context t name := by
  rw [context_bare, h, ← context_bare]

theorem stats_congr : (rules.report s name).stats = (rules.report t name).stats := by
  show Stats.ofForest _ _ _ = Stats.ofForest _ _ _
  rw [← Forest.stats_bare, Forest.bare_ofSpans (spans_of_bare h), Forest.stats_bare,
    rules.context_congr name h]

theorem inconsistencies_congr :
    (rules.report s name).inconsistencies = (rules.report t name).inconsistencies :=
  Forest.inconsistencies_congr (Forest.links_of_bare (spans_of_bare h))

theorem report_congr (i : Intake) :
    (i.report rules s).2 = (i.report rules t).2 ∧
      (i.report rules s).1.aggregate = (i.report rules t).1.aggregate := by
  unfold Intake.report
  obtain ⟨name, hs, ht⟩ | ⟨hsame, hnot⟩ := rules.examine_cases_of_bare h
  · rw [hs, ht]
    have hstats := rules.stats_congr name h
    have hcount := rules.inconsistencies_congr name h
    exact ⟨congrArg Outcome.reported hcount, congrArg i.aggregate.collect hstats⟩
  · rw [← hsame]
    cases hexamine : rules.examine s with
    | report r => exact absurd hexamine (hnot r)
    | flagged | empty | unwanted => exact ⟨rfl, rfl⟩

theorem event_congr (hkept : s.facts.attributes.keeping .transactionEvent =
    t.facts.attributes.keeping .transactionEvent) :
    (rules.report s name).event = (rules.report t name).event := by
  have htotal : (Forest.ofSpans s.spans).totalExclusive =
      (Forest.ofSpans t.spans).totalExclusive := by
    rw [← Forest.totalExclusive_bare, Forest.bare_ofSpans (spans_of_bare h),
      Forest.totalExclusive_bare]
  have hcontext := rules.context_congr name h
  have hfacts : Event.transactionFacts s = Event.transactionFacts t := by
    show Event.transactionFacts s.bare = Event.transactionFacts t.bare
    rw [h]
  show rules.event? s _ _ = rules.event? t _ _
  unfold event? Event.ofTransaction
  rw [hcontext, htotal, Attributes.routed_congr hkept, hfacts]

theorem errorTrace_congr (hkept : s.facts.attributes.keeping .errorTrace =
    t.facts.attributes.keeping .errorTrace) :
    (rules.report s name).errorTrace = (rules.report t name).errorTrace := by
  show rules.errorTrace? s name = rules.errorTrace? t name
  rw [errorTrace?_bare, h, Attributes.routed_congr hkept, ← errorTrace?_bare]

theorem errorEvent_congr (hkept : s.facts.attributes.keeping .errorEvent =
    t.facts.attributes.keeping .errorEvent) :
    (rules.report s name).errorEvent = (rules.report t name).errorEvent := by
  show (if _ then (rules.errorTrace? s name).map (Event.ofError s) else none) =
    if _ then (rules.errorTrace? t name).map (Event.ofError t) else none
  rw [errorEvent_bare, h, Attributes.routed_congr hkept, ← errorEvent_bare]

theorem sqlTraces_congr (hran : s.spans.map Span.ran? = t.spans.map Span.ran?) :
    (rules.report s name).sqlTraces = (rules.report t name).sqlTraces := by
  have huri : s.facts.uri = t.facts.uri := congrArg (·.facts.uri) h
  have hcollect := Forest.collect_congr (spans_of_bare h) hran rules.runtimePrefix name s.facts.uri
  show (if _ then SqlTrace.collect _ _ s.facts.uri _ else []) =
    if _ then SqlTrace.collect _ _ t.facts.uri _ else []
  rw [hcollect, huri]

theorem ofForest?_congr (hkept : s.facts.attributes.keeping .transactionTrace =
    t.facts.attributes.keeping .transactionTrace) (f : Forest) :
    TransactionTrace.ofForest? s f name = TransactionTrace.ofForest? t f name := by
  have hbare (s : Snapshot) : TransactionTrace.ofForest? s f name =
      (TransactionTrace.ofForest? s.bare f name).map fun u =>
        { u with attributes := s.facts.attributes.routed (.only .transactionTrace) } := by
    unfold TransactionTrace.ofForest?
    split_ifs <;> rfl
  rw [hbare s, hbare t, h, Attributes.routed_congr hkept]

theorem trace_congr (hspans : s.spans = t.spans)
    (hkept : s.facts.attributes.keeping .transactionTrace =
      t.facts.attributes.keeping .transactionTrace) :
    (rules.report s name).trace = (rules.report t name).trace := by
  show (if _ then TransactionTrace.ofForest? s _ _ else none) =
    if _ then TransactionTrace.ofForest? t _ _ else none
  rw [ofForest?_congr name h hkept, hspans]

theorem trace_alike (hshown : s.spans.map Span.shown? = t.spans.map Span.shown?)
    (hkept : s.facts.attributes.keeping .transactionTrace =
      t.facts.attributes.keeping .transactionTrace) :
    List.Forall₂ TransactionTrace.Alike (rules.report s name).trace.toList
      (rules.report t name).trace.toList := by
  have hempty : (Forest.ofSpans s.spans).isEmpty = (Forest.ofSpans t.spans).isEmpty := by
    rw [← Forest.isEmpty_bare, Forest.bare_ofSpans (spans_of_bare h), Forest.isEmpty_bare]
  have hreadings := Forest.map_readings_congr (spans_of_bare h) hshown
  show List.Forall₂ _ (Option.toList (if _ then TransactionTrace.ofForest? s _ _ else none))
    (Option.toList (if _ then TransactionTrace.ofForest? t _ _ else none))
  rw [ofForest?_congr name h hkept]
  unfold TransactionTrace.ofForest?
  rw [hempty]
  split_ifs
  · exact List.Forall₂.nil
  · refine List.Forall₂.cons ⟨rfl, ?_⟩ List.Forall₂.nil
    rw [Tree.map_node, Tree.map_node, List.map_map, List.map_map]
    simp only [Function.comp_def, Tree.map_map]
    rw [hreadings]
  · exact List.Forall₂.nil

/-- The attributes that may reach the records of a kind decide about them, if the spans are the
same. -/
theorem records_congr {k : RecordKind} {d : Destination} (hk : k.destination? = some d)
    (hspans : k = .trace → s.spans = t.spans)
    (hkept : s.facts.attributes.keeping d = t.facts.attributes.keeping d) :
    k.records (rules.report s name) = k.records (rules.report t name) := by
  cases k with
  | trace =>
    cases hk
    exact congrArg Option.toList (rules.trace_congr name h (hspans rfl) hkept)
  | event =>
    cases hk
    exact congrArg Option.toList (rules.event_congr name h hkept)
  | errorTrace =>
    cases hk
    exact congrArg Option.toList (rules.errorTrace_congr name h hkept)
  | errorEvent =>
    cases hk
    exact congrArg Option.toList (rules.errorEvent_congr name h hkept)
  | sqlTrace => cases hk

theorem offers_congr {k : RecordKind} (hrecords : ∀ name,
    k.records (rules.report s name) = k.records (rules.report t name)) :
    rules.offers k s = rules.offers k t := by
  obtain ⟨name, hs, ht⟩ | ⟨hs, ht⟩ := rules.offers_cases_of_bare h k
  · rw [hs, ht, hrecords]
  · rw [hs, ht]

end ReportRules

/-- A record only shows attributes of the transaction that are tagged for it. Metrics, SQL traces and
the outcome are the same for transactions that are the same without their attributes; of the attributes
of spans only the transaction trace shows any, and only those tagged for it, while SQL traces depend on
what datastore spans ran. -/
theorem ReportRules.attributes_reach_only_their_records (rules : ReportRules) (s t : Snapshot) :
    (∀ k d, RecordKind.destination? k = some d → s.keeping d = t.keeping d →
      rules.offers k s = rules.offers k t) ∧
    (s.bare = t.bare →
      (∀ i : Intake, (i.report rules s).2 = (i.report rules t).2 ∧
        (i.report rules s).1.aggregate = (i.report rules t).1.aggregate) ∧
      (∀ k d, RecordKind.destination? k = some d → k ≠ .trace →
        s.facts.attributes.keeping d = t.facts.attributes.keeping d →
        rules.offers k s = rules.offers k t) ∧
      (s.facts.attributes.keeping .transactionTrace = t.facts.attributes.keeping .transactionTrace →
        s.spans.map Span.shown? = t.spans.map Span.shown? →
        List.Forall₂ TransactionTrace.Alike (rules.offers .trace s) (rules.offers .trace t)) ∧
      (s.spans.map Span.ran? = t.spans.map Span.ran? →
        rules.offers .sqlTrace s = rules.offers .sqlTrace t)) := by
  refine ⟨fun k d hk hkeeping => ?_, fun h => ⟨rules.report_congr h, ?_, ?_, ?_⟩⟩
  · have h : s.bare = t.bare := by
      show (s.keeping d).bare = (t.keeping d).bare
      rw [hkeeping]
    have hspans : s.spans = t.spans := by
      show (s.keeping d).spans = (t.keeping d).spans
      rw [hkeeping]
    have hkept : s.facts.attributes.keeping d = t.facts.attributes.keeping d :=
      congrArg (·.facts.attributes) hkeeping
    exact rules.offers_congr h fun name => rules.records_congr name h hk (fun _ => hspans) hkept
  · intro k d hk htrace hkept
    exact rules.offers_congr h fun name =>
      rules.records_congr name h hk (fun heq => absurd heq htrace) hkept
  · intro hkept hshown
    obtain ⟨name, hs, ht⟩ | ⟨hs, ht⟩ := rules.offers_cases_of_bare h .trace
    · rw [hs, ht]
      exact rules.trace_alike name h hshown hkept
    · rw [hs, ht]
      exact List.Forall₂.nil
  · intro hran
    exact rules.offers_congr h fun name => rules.sqlTraces_congr name h hran

namespace Station

/-- A failed purchase with one query. -/
def purchase (own : List Attribute) (query : Dict String SpanAttribute) : Snapshot :=
  { oneSpan with
    spans := [{ Span.unfinished 0 "select" .datastore 0 with attributes := query }]
    facts := { Facts.none with status := some 500, attributes := ⟨own⟩ } }

def tier (value : String) (tags : Destinations) : Attribute := ⟨.user, "tier", .text value, tags⟩

/-- The first value may reach both traces and the event of the transaction. -/
def openly : List Attribute := [tier "gold" (.ofMask 7), tier "free" (.only .errorEvent)]

def covertly : List Attribute :=
  [tier "silver" (.only .errorEvent), tier "gold" (.ofMask 7), tier "none" (.only .javascriptAgent)]

def query : Dict String SpanAttribute :=
  ((Dict.empty.insert "sql" ⟨.text "select 1", .none⟩).insert "rows"
    ⟨.int 3, .only .transactionTrace⟩).insert "host" ⟨.text "alpha", .none⟩

def queryElsewhere : Dict String SpanAttribute :=
  ((Dict.empty.insert "host" ⟨.text "beta", .only .transactionEvent⟩).insert "rows"
    ⟨.int 3, .ofMask 7⟩).insert "sql" ⟨.text "select 1", .only .errorEvent⟩

/-- Only `"rows"` may be shown, whatever stands beside it. -/
theorem shown?_purchase : (purchase openly query).spans.map Span.shown? =
    (purchase covertly queryElsewhere).spans.map Span.shown? := by
  show [Span.shown? _] = [Span.shown? _]
  congr 1
  funext key
  by_cases hhost : key = "host"
  · rw [hhost]
    rfl
  · by_cases hrows : key = "rows"
    · rw [hrows]
      rfl
    · simp only [Span.shown?, query, queryElsewhere, Dict.get?_insert, if_neg hhost, if_neg hrows]
      split_ifs <;> rfl

theorem attributes_reach_only_their_records_purchase :
    let rules := ReportRules.ofSettings .standard
    let s := purchase openly query
    let t := purchase covertly queryElsewhere
    (s.keeping .transactionEvent = (purchase covertly query).keeping .transactionEvent ∧
      rules.offers .event s = rules.offers .event (purchase covertly query)) ∧
    s.bare = t.bare ∧
    (∀ i : Intake, (i.report rules s).2 = (i.report rules t).2 ∧
      (i.report rules s).1.aggregate = (i.report rules t).1.aggregate) ∧
    rules.offers .errorTrace s = rules.offers .errorTrace t ∧
    List.Forall₂ TransactionTrace.Alike (rules.offers .trace s) (rules.offers .trace t) ∧
    rules.offers .sqlTrace s = rules.offers .sqlTrace t ∧
    (rules.offers .errorEvent s).map (fun e => (e.user.get? "tier").bind (·.asText?)) =
      [some "free"] ∧
    (rules.offers .errorEvent t).map (fun e => (e.user.get? "tier").bind (·.asText?)) =
      [some "silver"] ∧
    (rules.offers .trace s).length = 1 ∧ (rules.offers .event s).length = 1 ∧
    (rules.offers .errorTrace s).length = 1 ∧ (rules.offers .sqlTrace s).length = 1 := by
  intro rules s t
  have hbare : s.bare = t.bare := rfl
  have hkeeping : s.keeping .transactionEvent =
      (purchase covertly query).keeping .transactionEvent := rfl
  have hevent := (rules.attributes_reach_only_their_records s (purchase covertly query)).1
    .event .transactionEvent rfl hkeeping
  obtain ⟨hintake, hrecord, htrace, hsql⟩ :=
    (rules.attributes_reach_only_their_records s t).2 hbare
  have herror := hrecord .errorTrace .errorTrace rfl (by decide) rfl
  refine ⟨⟨hkeeping, hevent⟩, hbare, hintake, herror, htrace rfl shown?_purchase, hsql rfl, ?_⟩
  decide +kernel

end Station

end Telemetry
