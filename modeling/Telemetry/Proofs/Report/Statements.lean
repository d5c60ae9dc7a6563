import Telemetry.Proofs.Forest.Grove
import Telemetry.Proofs.Metric.Sums
import Telemetry.Record.SqlTrace

/-!
# Statements of a transaction

The spans of a forest are visited one after the other, and each one that ran a statement is counted in
the trace of that statement. So the traces group the spans by what they ran: one trace for each
statement, in the order in which the statements are met, that sums up all spans that ran it.
-/
namespace Telemetry

theorem Attribute.Value.asText?_eq_some_iff {v : Attribute.Value} {x : String} :
    v.asText? = some x ↔ v = .text x := by
  cases v <;> simp [asText?]

namespace Span

/-- The span is one of a datastore, and has the statement as a text among its attributes. -/
def Ran (s : Span) (x : String) : Prop :=
  s.kind = .datastore ∧ ∃ a, s.attributes.get? statementKey = some a ∧ a.value = .text x

/-- The span ran some statement. -/
def Queried (s : Span) : Prop := ∃ x, s.Ran x

theorem ran_iff {s : Span} {x : String} :
    s.Ran x ↔ (if s.kind = .datastore then s.statement? else none) = some x := by
  by_cases hkind : s.kind = .datastore
  · simp [Ran, hkind, statement?, Option.bind_eq_some_iff,
      Attribute.Value.asText?_eq_some_iff]
  · simp [Ran, hkind]

instance (s : Span) (x : String) : Decidable (s.Ran x) := decidable_of_iff _ ran_iff.symm

theorem queried_iff {s : Span} :
    s.Queried ↔ (if s.kind = .datastore then s.statement? else none).isSome = true := by
  simp only [Queried, ran_iff, Option.isSome_iff_exists]

instance : DecidablePred Queried := fun _ => decidable_of_iff _ queried_iff.symm

theorem Ran.unique {s : Span} {x y : String} (hx : s.Ran x) (hy : s.Ran y) : x = y :=
  Option.some.inj ((ran_iff.mp hx).symm.trans (ran_iff.mp hy))

end Span

namespace SqlTrace

variable {runtimePrefix : String} {name : MetricName} {uri : Option String}

/-- What the visit of one span changes. -/
def visit (runtimePrefix : String) (name : MetricName) (uri : Option String)
    (ts : List SqlTrace) (s : Span) : List SqlTrace :=
  match statement? (.node s []) with
  | some x => count (first runtimePrefix name uri x (.node s [])) ts
  | none => ts

theorem collect_eq_foldl (f : Forest) : collect runtimePrefix name uri f =
    (f.nodes.map Tree.label).foldl (visit runtimePrefix name uri) [] := by
  rw [List.foldl_map]
  rfl

theorem visit_of_ran {s : Span} {x : String} (h : s.Ran x) (ts : List SqlTrace) :
    visit runtimePrefix name uri ts s =
      count (first runtimePrefix name uri x (.node s [])) ts := by
  have hx : statement? (.node s []) = some x := Span.ran_iff.mp h
  rw [visit, hx]

theorem visit_of_not_queried {s : Span} (h : ¬ s.Queried) (ts : List SqlTrace) :
    visit runtimePrefix name uri ts s = ts := by
  cases hx : statement? (.node s []) with
  | none => rw [visit, hx]
  | some x => exact absurd ⟨x, Span.ran_iff.mpr hx⟩ h

/-- A call is counted in the first trace of its statement, or in a new one that comes last. -/
theorem count_cases (start : SqlTrace) (ts : List SqlTrace) :
    (∃ before t after, ts = before ++ t :: after ∧ t.statement = start.statement ∧
      count start ts = before ++ t.record start.total :: after) ∨
    start.statement ∉ ts.map (·.statement) ∧ count start ts = ts ++ [start] := by
  induction ts with
  | nil => exact Or.inr ⟨List.not_mem_nil, rfl⟩
  | cons u rest ih =>
    by_cases hu : u.statement = start.statement
    · exact Or.inl ⟨[], u, rest, rfl, hu, if_pos hu⟩
    · obtain ⟨before, t, after, hrest, ht, hcount⟩ | ⟨hnew, hcount⟩ := ih
      · refine Or.inl ⟨u :: before, t, after, congrArg (u :: ·) hrest, ht, ?_⟩
        rw [count, if_neg hu, hcount]
        rfl
      · refine Or.inr ⟨?_, by rw [count, if_neg hu, hcount]; rfl⟩
        rw [List.map_cons, List.mem_cons, not_or]
        exact ⟨Ne.symm hu, hnew⟩

/-- The trace tells of just these spans. -/
structure SumsUp (t : SqlTrace) (spans : List Span) : Prop where
  calls : t.calls = spans.length
  total : t.total = .sum (spans.map Span.inclusive)
  least : IsLeast {d | d ∈ spans.map Span.inclusive} t.least
  greatest : IsGreatest {d | d ∈ spans.map Span.inclusive} t.greatest

theorem sumsUp_first (x : String) (s : Span) :
    (first runtimePrefix name uri x (.node s [])).SumsUp [s] where
  calls := rfl
  total := (Duration.sum_singleton s.inclusive).symm
  least := by
    simp [first, Tree.inclusive]
  greatest := by
    simp [first, Tree.inclusive]

theorem SumsUp.record {t : SqlTrace} {spans : List Span} (h : t.SumsUp spans) (s : Span) :
    (t.record s.inclusive).SumsUp (spans ++ [s]) := by
  have hmore : {d | d ∈ (spans ++ [s]).map Span.inclusive} =
      insert s.inclusive {d | d ∈ spans.map Span.inclusive} := by
    ext d
    simp [or_comm, eq_comm]
  refine ⟨?_, ?_, ?_, ?_⟩
  · rw [List.length_append, ← h.calls]
    rfl
  · rw [List.map_append, List.map_singleton, Duration.sum_append, Duration.sum_singleton, ← h.total]
    rfl
  · rw [hmore]
    show IsLeast _ (min t.least s.inclusive)
    rw [min_comm]
    exact h.least.insert s.inclusive
  · rw [hmore]
    show IsGreatest _ (max t.greatest s.inclusive)
    rw [max_comm]
    exact h.greatest.insert s.inclusive

theorem SumsUp.perm {t : SqlTrace} {xs ys : List Span} (h : t.SumsUp xs) (hperm : xs.Perm ys) :
    t.SumsUp ys where
  calls := h.calls.trans hperm.length_eq
  total := h.total.trans (Duration.sum_perm (hperm.map _))
  least := by simpa only [(hperm.map _).mem_iff] using h.least
  greatest := by simpa only [(hperm.map _).mem_iff] using h.greatest

section Concat

variable {s : Span} {x : String}

theorem filter_concat_of_ran (h : s.Ran x) (visited : List Span) :
    (visited ++ [s]).filter (·.Ran x) = visited.filter (·.Ran x) ++ [s] := by
  rw [List.filter_append, List.filter_cons_of_pos (by simpa using h), List.filter_nil]

theorem filter_concat_of_not_ran (h : ¬ s.Ran x) (visited : List Span) :
    (visited ++ [s]).filter (·.Ran x) = visited.filter (·.Ran x) := by
  rw [List.filter_append, List.filter_cons_of_neg (by simpa using h), List.filter_nil,
    List.append_nil]

theorem exists_ran_concat (visited : List Span) :
    (∃ u ∈ visited ++ [s], u.Ran x) ↔ (∃ u ∈ visited, u.Ran x) ∨ s.Ran x := by
  simp [or_and_right, exists_or]

theorem countP_concat_of_ran (h : s.Ran x) (visited : List Span) :
    (visited ++ [s]).countP (·.Queried) = visited.countP (·.Queried) + 1 := by
  have hs : s.Queried := ⟨x, h⟩
  rw [List.countP_append, List.countP_singleton, if_pos (by simpa using hs)]

end Concat

/-- The trace tells of all spans that ran its statement, and is named for the first of them. -/
structure Told (runtimePrefix : String) (visited : List Span) (t : SqlTrace) : Prop where
  sums : t.SumsUp (visited.filter (·.Ran t.statement))
  named : ∃ s, visited.find? (·.Ran t.statement) = some s ∧
    t.metricName = Metric.Contribution.nodeName runtimePrefix s.name

namespace Told

variable {visited : List Span} {t : SqlTrace} {s : Span}

theorem named_concat (h : t.Told runtimePrefix visited) (s : Span) :
    ∃ u, (visited ++ [s]).find? (·.Ran t.statement) = some u ∧
      t.metricName = Metric.Contribution.nodeName runtimePrefix u.name := by
  obtain ⟨u, hu, hname⟩ := h.named
  exact ⟨u, by rw [List.find?_append, hu, Option.some_or], hname⟩

theorem other (h : t.Told runtimePrefix visited) (hs : ¬ s.Ran t.statement) :
    t.Told runtimePrefix (visited ++ [s]) where
  sums := by
    rw [filter_concat_of_not_ran hs]
    exact h.sums
  named := h.named_concat s

theorem record (h : t.Told runtimePrefix visited) (hs : s.Ran t.statement) :
    (t.record s.inclusive).Told runtimePrefix (visited ++ [s]) where
  sums := by
    show SumsUp _ ((visited ++ [s]).filter (·.Ran t.statement))
    rw [filter_concat_of_ran hs]
    exact h.sums.record s
  named := h.named_concat s

theorem first {x : String} (hs : s.Ran x) (hnew : ∀ u ∈ visited, ¬ u.Ran x) :
    (SqlTrace.first runtimePrefix name uri x (.node s [])).Told runtimePrefix (visited ++ [s]) where
  sums := by
    have hnone : visited.filter (·.Ran x) = [] := by simpa using hnew
    show SumsUp _ ((visited ++ [s]).filter (·.Ran x))
    rw [filter_concat_of_ran hs, hnone]
    exact sumsUp_first x s
  named := by
    have hnone : visited.find? (·.Ran x) = none := by simpa using hnew
    refine ⟨s, ?_, rfl⟩
    show (visited ++ [s]).find? (·.Ran x) = some s
    rw [List.find?_append, hnone, Option.none_or, List.find?_singleton, if_pos (by simpa using hs)]

end Told

/-- Where the statement is met first. -/
def firstRun (visited : List Span) (x : String) : Nat := visited.findIdx (·.Ran x)

theorem firstRun_lt_iff {visited : List Span} {x : String} :
    firstRun visited x < visited.length ↔ ∃ s ∈ visited, s.Ran x := by
  simp [firstRun, List.findIdx_lt_length]

theorem firstRun_concat {visited : List Span} {x : String} (h : ∃ s ∈ visited, s.Ran x) (s : Span) :
    firstRun (visited ++ [s]) x = firstRun visited x := by
  have hlt := firstRun_lt_iff.mpr h
  unfold firstRun at hlt ⊢
  rw [List.findIdx_append, if_pos hlt]

theorem length_le_firstRun_concat {visited : List Span} {x : String}
    (h : ∀ u ∈ visited, ¬ u.Ran x) (s : Span) : visited.length ≤ firstRun (visited ++ [s]) x := by
  have hle : ¬ firstRun visited x < visited.length := fun hlt => by
    obtain ⟨u, hu, hran⟩ := firstRun_lt_iff.mp hlt
    exact h u hu hran
  unfold firstRun at hle ⊢
  rw [List.findIdx_append, if_neg hle]
  exact Nat.le_add_left _ _

/-- The traces group the spans that were visited by the statements that they ran. -/
structure Groups (runtimePrefix : String) (visited : List Span) (ts : List SqlTrace) : Prop where
  mem : ∀ x, x ∈ ts.map (·.statement) ↔ ∃ s ∈ visited, s.Ran x
  ordered : (ts.map (·.statement)).Pairwise fun x y => firstRun visited x < firstRun visited y
  told : ∀ t ∈ ts, t.Told runtimePrefix visited
  calls : (ts.map (·.calls)).sum = visited.countP (·.Queried)

namespace Groups

variable {visited : List Span} {ts : List SqlTrace} {s : Span}

theorem nil : Groups runtimePrefix [] [] := ⟨by simp, .nil, by simp, rfl⟩

theorem nodup (h : Groups runtimePrefix visited ts) : (ts.map (·.statement)).Nodup := by
  apply h.ordered.imp
  rintro x y hlt rfl
  exact Nat.lt_irrefl _ hlt

/-- One more span leaves those statements in their order that were met before. -/
theorem ordered_concat (h : Groups runtimePrefix visited ts) (s : Span) :
    (ts.map (·.statement)).Pairwise fun x y =>
      firstRun (visited ++ [s]) x < firstRun (visited ++ [s]) y := by
  apply h.ordered.imp_of_mem
  intro x y hx hy hlt
  rwa [firstRun_concat ((h.mem x).mp hx), firstRun_concat ((h.mem y).mp hy)]

theorem skip (h : Groups runtimePrefix visited ts) (hs : ¬ s.Queried) :
    Groups runtimePrefix (visited ++ [s]) ts where
  mem x := by
    rw [h.mem, exists_ran_concat, or_iff_left fun hx => hs ⟨x, hx⟩]
  ordered := h.ordered_concat s
  told t ht := (h.told t ht).other fun hran => hs ⟨_, hran⟩
  calls := by
    rw [h.calls, List.countP_append, List.countP_singleton, if_neg (by simpa using hs), Nat.add_zero]

/-- The statements differ, so a span that ran the one of a trace ran that of no other trace. -/
theorem not_ran_of_mem {before after : List SqlTrace} {t u : SqlTrace}
    (h : Groups runtimePrefix visited (before ++ t :: after)) (hs : s.Ran t.statement)
    (hu : u ∈ before ∨ u ∈ after) : ¬ s.Ran u.statement := fun hran => by
  have hdistinct := h.nodup
  rw [List.map_append, List.map_cons, List.nodup_middle, List.nodup_cons, ← List.map_append]
    at hdistinct
  exact hdistinct.1 (List.mem_map.mpr ⟨u, List.mem_append.mpr hu, hran.unique hs⟩)

/-- A statement that was met before has one trace, which takes up the span. -/
theorem again {before after : List SqlTrace} {t : SqlTrace}
    (h : Groups runtimePrefix visited (before ++ t :: after)) (hs : s.Ran t.statement) :
    Groups runtimePrefix (visited ++ [s]) (before ++ t.record s.inclusive :: after) := by
  have hstatements : (before ++ t.record s.inclusive :: after).map (·.statement) =
      (before ++ t :: after).map (·.statement) := by
    rw [List.map_append, List.map_append]
    rfl
  have ht : t ∈ before ++ t :: after := List.mem_append_right before List.mem_cons_self
  refine ⟨fun x => ?_, ?_, fun u hu => ?_, ?_⟩
  · rw [hstatements, exists_ran_concat, h.mem, iff_self_or]
    intro hx
    rw [← h.mem, ← hs.unique hx]
    exact List.mem_map_of_mem ht
  · rw [hstatements]
    exact h.ordered_concat s
  · rw [List.mem_append, List.mem_cons] at hu
    obtain hu | rfl | hu := hu
    · exact (h.told u (by simp [hu])).other (h.not_ran_of_mem hs (.inl hu))
    · exact (h.told t ht).record hs
    · exact (h.told u (by simp [hu])).other (h.not_ran_of_mem hs (.inr hu))
  · have hcalls := h.calls
    rw [countP_concat_of_ran hs, ← hcalls]
    simp only [List.map_append, List.map_cons, List.sum_append, List.sum_cons]
    show _ + (t.calls + 1 + _) = _
    omega

/-- A statement that is met for the first time gets a trace, which comes last. -/
theorem concat {x : String} (h : Groups runtimePrefix visited ts) (hs : s.Ran x)
    (hnew : x ∉ ts.map (·.statement)) :
    Groups runtimePrefix (visited ++ [s])
      (ts ++ [SqlTrace.first runtimePrefix name uri x (.node s [])]) := by
  have hfirst : ∀ u ∈ visited, ¬ u.Ran x := fun u hu hran => hnew ((h.mem x).mpr ⟨u, hu, hran⟩)
  refine ⟨fun y => ?_, ?_, fun u hu => ?_, ?_⟩
  · have hy : s.Ran y ↔ y = x := ⟨fun hy => hy.unique hs, fun hy => hy ▸ hs⟩
    rw [exists_ran_concat, hy, List.map_append, List.mem_append, h.mem, List.map_singleton,
      List.mem_singleton]
    rfl
  · rw [List.map_append, List.map_singleton, List.pairwise_append]
    refine ⟨h.ordered_concat s, List.pairwise_singleton _ _, ?_⟩
    intro y hy z hz
    obtain rfl : z = x := List.mem_singleton.mp hz
    have hmet := (h.mem y).mp hy
    calc firstRun (visited ++ [s]) y = firstRun visited y := firstRun_concat hmet s
      _ < visited.length := firstRun_lt_iff.mpr hmet
      _ ≤ firstRun (visited ++ [s]) z := length_le_firstRun_concat hfirst s
  · rw [List.mem_append, List.mem_singleton] at hu
    obtain hu | rfl := hu
    · refine (h.told u hu).other fun hran => hnew ?_
      rw [hs.unique hran]
      exact List.mem_map_of_mem hu
    · exact Told.first hs hfirst
  · rw [countP_concat_of_ran hs, ← h.calls, List.map_append, List.sum_append]
    rfl

/-- What the visit of one span preserves. -/
theorem visit (h : Groups runtimePrefix visited ts) (s : Span) :
    Groups runtimePrefix (visited ++ [s]) (SqlTrace.visit runtimePrefix name uri ts s) := by
  by_cases hs : s.Queried
  · obtain ⟨x, hx⟩ := hs
    rw [visit_of_ran hx]
    obtain ⟨before, t, after, rfl, ht, hcount⟩ | ⟨hnew, hcount⟩ :=
      count_cases (SqlTrace.first runtimePrefix name uri x (.node s [])) ts
    · obtain rfl : t.statement = x := ht
      rw [hcount]
      exact h.again hx
    · rw [hcount]
      exact h.concat hx hnew
  · rw [visit_of_not_queried hs]
    exact h.skip hs

/-- The traces of all visits, by induction on the spans from the last one. -/
theorem visits (visited : List Span) : Groups runtimePrefix visited
    (visited.foldl (SqlTrace.visit runtimePrefix name uri) []) := by
  induction visited using List.reverseRecOn with
  | nil => exact nil
  | append_singleton visited s ih =>
    rw [List.foldl_append]
    exact ih.visit s

end Groups

/-- Spans that ran no statement leave no sign in the traces. -/
theorem foldl_visit_filter (visited : List Span) :
    (visited.filter (·.Queried)).foldl (visit runtimePrefix name uri) [] =
      visited.foldl (visit runtimePrefix name uri) [] := by
  rw [List.foldl_filter]
  congr
  funext ts s
  split_ifs with hs
  · rfl
  · rw [visit_of_not_queried (by simpa using hs)]

/-- However the spans are linked, the traces group those that ran a statement by what they ran. Each
statement has one trace, and the traces come in the order in which the forest first meets their
statements. A trace sums up all spans that ran its statement, and is named for the first of them. So the
calls of all traces are as many as these spans, and no trace depends on the other ones. -/
theorem statements_grouped (runtimePrefix : String) (name : MetricName) (uri : Option String)
    (spans : List Span) :
    let visited := (Forest.ofSpans spans).nodes.map Tree.label
    let traces := collect runtimePrefix name uri (Forest.ofSpans spans)
    (traces.map (·.statement)).Nodup ∧
      (∀ x, x ∈ traces.map (·.statement) ↔ ∃ s ∈ spans, s.Ran x) ∧
      (traces.map (·.statement)).Pairwise (fun x y => firstRun visited x < firstRun visited y) ∧
      (∀ t ∈ traces, t.SumsUp (spans.filter (·.Ran t.statement)) ∧
        ∃ s, visited.find? (·.Ran t.statement) = some s ∧
          t.metricName = Metric.Contribution.nodeName runtimePrefix s.name) ∧
      (traces.map (·.calls)).sum = spans.countP (·.Queried) ∧
      ∀ f : Forest, (f.nodes.map Tree.label).filter (·.Queried) = visited.filter (·.Queried) →
        collect runtimePrefix name uri f = traces := by
  intro visited traces
  have hperm : visited.Perm spans := Forest.nodes_ofSpans_perm spans
  have hcollect : traces = visited.foldl (visit runtimePrefix name uri) [] := collect_eq_foldl _
  have h : Groups runtimePrefix visited traces := hcollect ▸ Groups.visits visited
  refine ⟨h.nodup, fun x => ?_, h.ordered, fun t ht => ⟨?_, (h.told t ht).named⟩, ?_, fun f hf => ?_⟩
  · rw [h.mem]
    simp only [hperm.mem_iff]
  · exact (h.told t ht).sums.perm (hperm.filter _)
  · rw [h.calls, hperm.countP_eq]
  · rw [collect_eq_foldl, ← foldl_visit_filter, hf, foldl_visit_filter, ← hcollect]

/-- The second of two calls takes longer, and the span after them has a number in place of a statement. -/
example :
    let query := fun id name x took =>
      (((Span.unfinished id name .datastore 0).finish (.ofMillis took)).tag Span.statementKey
        ⟨.text x, .none⟩)
    let spans := [query 0 "orders" "select" 20, query 1 "users" "insert" 5, query 2 "users" "select" 30,
      (Span.unfinished 3 "odd" .datastore 0).tag Span.statementKey ⟨.int 7, .none⟩,
      { query 4 "method" "select" 1 with kind := .method }]
    (collect "Rust" ⟨MetricName.webFamily, "Uri/orders", false⟩ none (Forest.ofSpans spans)).map
        (fun t => (t.statement, t.metricName, t.calls, t.total, t.least, t.greatest)) =
      [("select", "Rust/orders", 2, .ofMillis 50, .ofMillis 20, .ofMillis 30),
        ("insert", "Rust/users", 1, .ofMillis 5, .ofMillis 5, .ofMillis 5)] := by
  decide +kernel

end SqlTrace

end Telemetry
