import Telemetry.Proofs.Metric.Gathering

/-!
# Well-formed statistics

A timing has calls, and its times are in proportion to each other and to their number; a statistic of
Apdex has transactions. All contributions of a transaction are of that sort and merging keeps them so,
also where sums are cut and where contributions of different topics meet under one name. Nothing is asked
of the runtime prefix or of the names.
-/
namespace Telemetry.Metric

structure Timing.WellFormed (t : Timing) : Prop where
  called : 1 ≤ t.count
  exclusive_le_total : t.exclusive ≤ t.total
  least_le_greatest : t.least ≤ t.greatest
  greatest_le_total : t.greatest ≤ t.total
  total_le : t.total.nanos ≤ t.count * t.greatest.nanos
  /-- All calls take at least as long as the shortest, unless the sum was cut. -/
  le_total : min greatestNanos (t.count * t.least.nanos) ≤ t.total.nanos

structure Apdex.WellFormed (a : Apdex) : Prop where
  judged : 1 ≤ a.total
  least_le_greatest : a.least ≤ a.greatest

def Data.WellFormed : Data → Prop
  | timing t => t.WellFormed
  | apdex a => a.WellFormed

def Table.WellFormed (t : Table) : Prop := ∀ x d, t.get? x = some d → d.WellFormed

/-- All statistics are well formed, and no scope is without any. -/
structure Aggregate.WellFormed (a : Aggregate) : Prop where
  overall : a.overall.WellFormed
  own : ∀ scope t, a.scopes.get? scope = some t → t.WellFormed ∧ t.isEmpty = false

/-! ### Merging -/

theorem Timing.WellFormed.merge {t u : Timing} (ht : t.WellFormed) (hu : u.WellFormed) :
    (t.merge u).WellFormed := by
  rw [merge_of_called ht.called hu.called]
  have hcut := t.total.nanos_le
  have hcut' := u.total.nanos_le
  have hexclusive := (Duration.le_iff _ _).1 ht.exclusive_le_total
  have hexclusive' := (Duration.le_iff _ _).1 hu.exclusive_le_total
  have hleast := (Duration.le_iff _ _).1 ht.least_le_greatest
  have hgreatest := (Duration.le_iff _ _).1 ht.greatest_le_total
  have hgreatest' := (Duration.le_iff _ _).1 hu.greatest_le_total
  refine ⟨Nat.le_add_right_of_le ht.called, ?_, ?_, ?_, ?_, ?_⟩
  · simp only [Duration.le_iff, Duration.nanos_add]
    omega
  · simp only [Duration.le_iff, Duration.nanos_min, Duration.nanos_max]
    omega
  · simp only [Duration.le_iff, Duration.nanos_max, Duration.nanos_add]
    omega
  · -- The bounds of both parts add up once they are stated with the extreme of the whole.
    simp only [Duration.nanos_max, Duration.nanos_add, Nat.add_mul]
    have hle := Nat.mul_le_mul_left t.count (Nat.le_max_left t.greatest.nanos u.greatest.nanos)
    have hle' := Nat.mul_le_mul_left u.count (Nat.le_max_right t.greatest.nanos u.greatest.nanos)
    have htotal := ht.total_le
    have htotal' := hu.total_le
    omega
  · simp only [Duration.nanos_min, Duration.nanos_add, Nat.add_mul]
    have hle := Nat.mul_le_mul_left t.count (Nat.min_le_left t.least.nanos u.least.nanos)
    have hle' := Nat.mul_le_mul_left u.count (Nat.min_le_right t.least.nanos u.least.nanos)
    have htotal := ht.le_total
    have htotal' := hu.le_total
    omega

theorem Apdex.WellFormed.merge {a : Apdex} (ha : a.WellFormed) (b : Apdex) :
    (a.merge b).WellFormed := by
  have htotal := total_merge a b
  have hjudged := ha.judged
  refine ⟨by omega, ?_⟩
  rw [Apdex.merge, if_neg (by omega)]
  exact (min_le_left _ _).trans (ha.least_le_greatest.trans (le_max_left _ _))

/-- Of two statistics of different kinds the first one stays. -/
theorem Data.WellFormed.merge {a b : Data} (ha : a.WellFormed) (hb : b.WellFormed) :
    (a.merge b).WellFormed := by
  cases a <;> cases b
  · exact Timing.WellFormed.merge ha hb
  · exact ha
  · exact ha
  · exact Apdex.WellFormed.merge ha _

namespace Table

variable {t u v : Table}

theorem wellFormed_empty : empty.WellFormed := fun _ _ h => nomatch h

theorem isEmpty_eq_false_iff : t.isEmpty = false ↔ ∃ x, (t.get? x).isSome := by
  obtain ⟨entries, nodup⟩ := t
  cases entries with
  | nil => simp [Dict.isEmpty, Dict.get?, Dict.find]
  | cons e rest => exact ⟨fun _ => ⟨e.1, by simp [Dict.get?, Dict.find]⟩, fun _ => rfl⟩

theorem Absorbs.wellFormed (h : t.Absorbs u v) (ht : t.WellFormed) (hu : u.WellFormed) :
    v.WellFormed := by
  intro x
  rw [h.get?_eq]
  exact Data.merge_induction (fun _ _ => Data.WellFormed.merge) (ht x) (hu x)

theorem Absorbs.isEmpty_eq_false (h : t.Absorbs u v) (hu : u.isEmpty = false) :
    v.isEmpty = false := by
  obtain ⟨x, hx⟩ := isEmpty_eq_false_iff.1 hu
  refine isEmpty_eq_false_iff.2 ⟨x, ?_⟩
  rw [h.get?_eq]
  obtain ⟨d, hd⟩ := Option.isSome_iff_exists.1 hx
  rw [hd]
  cases t.get? x <;> rfl

end Table

/-! ### What a transaction contributes -/

theorem Timing.wellFormed_once {total exclusive : Duration} (h : exclusive ≤ total) :
    (once total exclusive).WellFormed where
  called := le_rfl
  exclusive_le_total := h
  least_le_greatest := le_rfl
  greatest_le_total := le_rfl
  total_le := (Nat.one_mul _).ge
  le_total := (Nat.min_le_right _ _).trans (Nat.one_mul _).le

theorem Timing.wellFormed_calls : (calls 1).WellFormed where
  called := le_rfl
  exclusive_le_total := le_rfl
  least_le_greatest := le_rfl
  greatest_le_total := le_rfl
  total_le := Nat.zero_le _
  le_total := Nat.min_le_right _ _

theorem Apdex.wellFormed_once (zone : Zone) (target : Duration) :
    (once zone target).WellFormed where
  judged := (total_once zone target).ge
  least_le_greatest := by cases zone <;> exact le_rfl

theorem Contribution.Has.wellFormed {c : Context} {topic : Topic} {d : Data}
    (h : Contribution.Has c topic d) : d.WellFormed := by
  cases h with
  | once _ h => exact Timing.wellFormed_once h
  | calls => exact Timing.wellFormed_calls
  | zone => exact Apdex.wellFormed_once _ _

namespace Table

theorem wellFormed_ofList {es : List (String × Data)} (h : ∀ e ∈ es, e.2.WellFormed) :
    (ofList es).WellFormed := by
  intro x
  rw [get?_ofList]
  refine Data.mergeAll_induction (fun _ _ => Data.WellFormed.merge) ?_ (by simp)
  intro d hd
  obtain ⟨e, he, rfl⟩ := List.mem_map.1 hd
  exact h e (List.mem_filter.1 he).1

theorem isEmpty_ofList {es : List (String × Data)} (h : es ≠ []) : (ofList es).isEmpty = false := by
  obtain ⟨e, rest, rfl⟩ := List.exists_cons_of_ne_nil h
  refine isEmpty_eq_false_iff.2 ⟨e.1, ?_⟩
  rw [get?_ofList, List.filter_cons_of_pos (by simp)]
  have hfirst : (some e.2).isSome := rfl
  exact Data.isSome_mergeAll hfirst _

end Table

/-- What a transaction has within its scope is never nothing, since it counts there by its name. -/
structure Stats.WellFormed (s : Stats) : Prop where
  own : s.own.WellFormed ∧ s.own.isEmpty = false
  overall : s.overall.WellFormed

theorem Stats.wellFormed_ofForest (runtimePrefix : String) (f : Forest) (c : Context) :
    (ofForest runtimePrefix f c).WellFormed := by
  have hdata : ∀ k ∈ Contribution.all runtimePrefix f c, k.data.WellFormed := by
    intro k hk
    obtain ⟨_, hhas⟩ := Contribution.has_of_mem_all hk
    exact hhas.wellFormed
  refine ⟨⟨Table.wellFormed_ofList fun e he => ?_, Table.isEmpty_ofList ?_⟩,
    Table.wellFormed_ofList fun e he => ?_⟩
  · obtain ⟨k, hk, rfl⟩ := List.mem_map.1 he
    exact hdata k (List.mem_filter.1 hk).1
  · have hname : Contribution.within c.name.full (.timing (.once c.duration c.duration)) ∈
        (Contribution.all runtimePrefix f c).filter (·.inScope) := by
      simp [Contribution.all, Contribution.ofDuration, Contribution.within]
    exact List.ne_nil_of_mem (List.mem_map_of_mem hname)
  · obtain ⟨k, hk, rfl⟩ := List.mem_map.1 he
    exact hdata k hk

/-! ### Collecting -/

theorem Scopes.Absorb.wellFormed {scopes after : Dict String Table} {own : List (String × Table)}
    (h : Absorb scopes own after)
    (hscopes : ∀ scope t, scopes.get? scope = some t → t.WellFormed ∧ t.isEmpty = false)
    (hown : ∀ e ∈ own, e.2.WellFormed ∧ e.2.isEmpty = false) :
    ∀ scope t, after.get? scope = some t → t.WellFormed ∧ t.isEmpty = false := by
  induction h with
  | nil => exact hscopes
  | @cons scopes after name u t rest habsorbs _ ih =>
    rw [List.forall_mem_cons] at hown
    have hbefore : (table scopes name).WellFormed := by
      rw [table]
      cases hget : scopes.get? name with
      | none => exact Table.wellFormed_empty
      | some v => exact (hscopes name v hget).1
    refine ih (fun scope v hv => ?_) hown.2
    rw [Dict.get?_insert] at hv
    split_ifs at hv with hscope
    · obtain rfl := Option.some.inj hv
      exact ⟨habsorbs.wellFormed hbefore hown.1.1, habsorbs.isEmpty_eq_false hown.1.2⟩
    · exact hscopes scope v hv

namespace Aggregate

variable {a b : Aggregate} {s : Stats}

theorem wellFormed_empty : empty.WellFormed := ⟨Table.wellFormed_empty, fun _ _ h => nomatch h⟩

theorem WellFormed.collects (h : a.WellFormed) (hs : s.WellFormed) (hcollects : a.Collects s b) :
    b.WellFormed where
  overall := hcollects.overall.wellFormed h.overall hs.overall
  own := hcollects.scopes.wellFormed h.own (by simpa using hs.own)

theorem Serves.wellFormed {ds : List Demand} {snapshots : List Aggregate} {last : Aggregate}
    (h : Serves a ds snapshots last) (ha : a.WellFormed)
    (hds : ∀ s ∈ collected ds, s.WellFormed) :
    (∀ b ∈ snapshots, b.WellFormed) ∧ last.WellFormed := by
  induction h with
  | done => exact ⟨by simp, ha⟩
  | @collect a b last s rest snapshots hcollects _ ih =>
    have hsplit : collected (.collect s :: rest) = s :: collected rest := rfl
    rw [hsplit, List.forall_mem_cons] at hds
    exact ih (ha.collects hds.1 hcollects) hds.2
  | harvest _ ih =>
    obtain ⟨hrest, hlast⟩ := ih wellFormed_empty hds
    exact ⟨List.forall_mem_cons.2 ⟨ha, hrest⟩, hlast⟩

/-- Every statistic that is ever handed out is well formed and no scope is empty, whatever the runtime
prefix is, whatever names, targets and errors the transactions are given, and however tables are read and
harvests fall. So are the metrics of a station under any rules. -/
theorem harvested_metrics_wellFormed {runtimePrefix : String} {ds : List Demand}
    (hds : ∀ s ∈ collected ds, ∃ (f : Forest) (c : Context), s = .ofForest runtimePrefix f c) :
    (∃ snapshots last, Serves .empty ds snapshots last) ∧
    (∀ snapshots last, Serves .empty ds snapshots last → ∀ a ∈ snapshots, a.WellFormed) ∧
    ∀ (ν μ : Type) [NameService ν] [ErrorMaker μ] (rules : ReportRules ν μ)
      (buffers : RecordBuffers) (told : Drops) (demands : List Telemetry.Demand),
      (Station.serveAll rules ⟨⟨.empty, buffers⟩, told⟩ demands).1.harvest.2.metrics.WellFormed := by
  refine ⟨exists_serves .empty ds, fun snapshots last hserves => ?_,
    fun ν μ _ _ rules buffers told demands => ?_⟩
  · refine (hserves.wellFormed wellFormed_empty fun s hs => ?_).1
    obtain ⟨f, c, rfl⟩ := hds s hs
    exact Stats.wellFormed_ofForest runtimePrefix f c
  · rw [Station.metrics_harvest]
    refine Station.aggregate_serveAll wellFormed_empty (fun a s ha => ?_) wellFormed_empty demands
    exact ha.collects (Stats.wellFormed_ofForest ..) (a.collects_collect _)

/-- A transaction without end, with an error and with a node that bears the name of a count of errors. -/
def endless : Stats :=
  .ofForest "Errors" (.ofSpans [(Span.unfinished 0 "all" .method 0).finish .greatest])
    ⟨⟨MetricName.webFamily, "Uri/orders", false⟩, .greatest, none, some 0, true, some "shop"⟩

theorem harvested_metrics_wellFormed_endless :
    let ds : List Demand := [.collect endless, .collect endless, .harvest, .harvest, .collect endless]
    (∀ s ∈ collected ds, ∃ (f : Forest) (c : Context), s = .ofForest "Errors" f c) ∧
    endless.overall.count "Errors/all" = 2 ∧
    ∃ snapshots last, Serves .empty ds snapshots last ∧ ∀ a ∈ snapshots, a.WellFormed := by
  intro ds
  have hds : ∀ s ∈ collected ds, ∃ (f : Forest) (c : Context), s = .ofForest "Errors" f c := by
    have hone : ∃ (f : Forest) (c : Context), endless = .ofForest "Errors" f c := ⟨_, _, rfl⟩
    show ∀ s ∈ [endless, endless, endless], _
    simp only [List.forall_mem_cons]
    exact ⟨hone, hone, hone, by simp⟩
  obtain ⟨⟨snapshots, last, hserves⟩, hwellFormed, _⟩ := harvested_metrics_wellFormed hds
  exact ⟨hds, by decide +kernel, snapshots, last, hserves, hwellFormed snapshots last hserves⟩

end Aggregate

end Telemetry.Metric
