import Telemetry.Proofs.Metric.Collecting
import Telemetry.Proofs.Metric.Figures
import Mathlib.Data.List.Forall2

/-!
# Gathered metrics

Tables may be read in any order, transactions may end in any order, and harvests may fall anywhere
between them. If what the harvests hand out is merged afterwards, the metrics come to the same in all
cases, since their figures are the sums of what the transactions have.
-/
namespace Telemetry.Metric

namespace Table

variable {t u v : Table}

/-- `t` turns into `v` as the statistics of `u` come in, one after the other in some order. -/
def Absorbs (t u v : Table) : Prop := ∃ es, es.Perm u.entries ∧ v = t.addAll es

theorem absorbs_addTable (t u : Table) : t.Absorbs u (t.addTable u) := ⟨u.entries, .refl _, rfl⟩

/-- Under each name at most one statistic comes in, so no order of them matters. -/
theorem Absorbs.get?_eq (h : t.Absorbs u v) (x : String) :
    v.get? x = (t.get? x).merge Data.merge (u.get? x) := by
  obtain ⟨es, hperm, rfl⟩ := h
  have hunder := (hperm.filter (·.1 = x)).map Prod.snd
  rw [filter_eq_find x u.nodup] at hunder
  have hsame : (es.filter (·.1 = x)).map Prod.snd = (Dict.find x u.entries).toList := by
    cases hfind : Dict.find x u.entries with
    | none =>
      rw [hfind] at hunder
      exact hunder.eq_nil
    | some d =>
      rw [hfind] at hunder
      exact List.perm_singleton.1 hunder
  rw [← get?_addTable, addTable, get?_addAll, get?_addAll, hsame, filter_eq_find x u.nodup]

theorem Absorbs.admitted (h : t.Absorbs u v) (ht : t.Admitted) (hu : u.Admitted) :
    v.Admitted := by
  intro x
  rw [h.get?_eq]
  exact Topic.admits_merge (ht x) (hu x)

theorem Absorbs.figures_eq (h : t.Absorbs u v) (ht : t.Admitted) (hu : u.Admitted) :
    v.figures = t.figures + u.figures := by
  funext x
  rw [figures, h.get?_eq]
  exact Topic.figures_merge (ht x) (hu x)

end Table

namespace Scopes

/-- The table of a scope, empty if there is none. -/
def table (scopes : Dict String Table) (scope : String) : Table := (scopes.get? scope).getD .empty

/-- Tables come into their scopes one after the other. -/
inductive Absorb : Dict String Table → List (String × Table) → Dict String Table → Prop
  | nil {scopes : Dict String Table} : Absorb scopes [] scopes
  | cons {scopes after : Dict String Table} {scope : String} {u t : Table}
      {rest : List (String × Table)} (h : (table scopes scope).Absorbs u t)
      (hrest : Absorb (scopes.insert scope t) rest after) :
      Absorb scopes ((scope, u) :: rest) after

/-- The figures that tables bring into a scope. -/
def brought (scope : String) (own : List (String × Table)) : String → Figures :=
  (own.map fun e => if e.1 = scope then e.2.figures else 0).sum

variable {scopes after : Dict String Table} {own own' : List (String × Table)}

theorem brought_cons (scope : String) (e : String × Table) (own : List (String × Table)) :
    brought scope (e :: own) = (if e.1 = scope then e.2.figures else 0) + brought scope own :=
  List.sum_cons

theorem brought_append (scope : String) (own own' : List (String × Table)) :
    brought scope (own ++ own') = brought scope own + brought scope own' := by
  rw [brought, List.map_append, List.sum_append]
  rfl

theorem brought_perm (scope : String) (h : own.Perm own') :
    brought scope own = brought scope own' := (h.map _).sum_eq

theorem brought_of_nodup (scope : String) (hnodup : (own.map Prod.fst).Nodup) :
    brought scope own = ((Dict.find scope own).getD .empty).figures := by
  induction own with
  | nil => rfl
  | cons e rest ih =>
    obtain ⟨name, u⟩ := e
    rw [List.map_cons, List.nodup_cons] at hnodup
    rw [brought_cons, ih hnodup.2, Dict.find]
    by_cases hname : name = scope
    · subst hname
      rw [if_pos rfl, if_pos rfl, Dict.find_eq_none_iff.2 hnodup.1]
      exact add_zero _
    · rw [if_neg hname, if_neg hname, zero_add]

theorem table_insert (scope x : String) (t : Table) :
    table (scopes.insert scope t) x = if x = scope then t else table scopes x := by
  rw [table, Dict.get?_insert, table]
  split <;> rfl

theorem Absorb.total (scopes : Dict String Table) (own : List (String × Table)) :
    ∃ after, Absorb scopes own after := by
  induction own generalizing scopes with
  | nil => exact ⟨scopes, .nil⟩
  | cons e rest ih =>
    obtain ⟨after, hrest⟩ := ih (scopes.insert e.1 ((table scopes e.1).addTable e.2))
    exact ⟨after, .cons (Table.absorbs_addTable _ _) hrest⟩

theorem Absorb.mem_keys (h : Absorb scopes own after) (scope : String) :
    scope ∈ after.keys ↔ scope ∈ scopes.keys ∨ scope ∈ own.map Prod.fst := by
  induction h with
  | nil => simp
  | cons _ _ ih =>
    rw [ih, Dict.mem_keys_insert, List.map_cons, List.mem_cons, or_assoc, or_left_comm]

theorem admitted_insert (hscopes : ∀ x, (table scopes x).Admitted) {t : Table} (ht : t.Admitted)
    (scope x : String) : (table (scopes.insert scope t) x).Admitted := by
  rw [table_insert]
  split
  · exact ht
  · exact hscopes x

theorem Absorb.admitted (h : Absorb scopes own after) (hscopes : ∀ x, (table scopes x).Admitted)
    (hown : ∀ e ∈ own, e.2.Admitted) (scope : String) : (table after scope).Admitted := by
  induction h with
  | nil => exact hscopes scope
  | @cons scopes _ name _ t _ habsorbs _ ih =>
    rw [List.forall_mem_cons] at hown
    have ht : t.Admitted := habsorbs.admitted (hscopes name) hown.1
    exact ih (admitted_insert hscopes ht name) hown.2

theorem Absorb.figures_eq (h : Absorb scopes own after) (hscopes : ∀ x, (table scopes x).Admitted)
    (hown : ∀ e ∈ own, e.2.Admitted) (scope : String) :
    (table after scope).figures = (table scopes scope).figures + brought scope own := by
  induction h with
  | nil => exact (add_zero _).symm
  | @cons scopes _ name u t rest habsorbs _ ih =>
    rw [List.forall_mem_cons] at hown
    have ht : t.Admitted := habsorbs.admitted (hscopes name) hown.1
    rw [ih (admitted_insert hscopes ht name) hown.2, table_insert, brought_cons, ← add_assoc]
    by_cases hname : name = scope
    · subst hname
      rw [if_pos rfl, if_pos rfl, habsorbs.figures_eq (hscopes name) hown.1]
    · rw [if_neg (Ne.symm hname), if_neg hname, add_zero]

end Scopes

namespace Aggregate

/-- `a` turns into `b` as tables for some scopes, one for all and some transactions come in. -/
structure Absorbs (a : Aggregate) (own : List (String × Table)) (overall : Table)
    (transactions : Nat) (b : Aggregate) : Prop where
  scopes : Scopes.Absorb a.scopes own b.scopes
  overall : a.overall.Absorbs overall b.overall
  transactions : b.transactions = a.transactions + transactions

/-- `a` turns into `b` as the metrics of a transaction are collected. -/
def Collects (a : Aggregate) (s : Stats) (b : Aggregate) : Prop :=
  a.Absorbs [(s.scope, s.own)] s.overall 1 b

/-- `a` turns into `b` as `c` is merged into it, scope by scope in some order. -/
def Merges (a c b : Aggregate) : Prop :=
  ∃ own, own.Perm c.scopes.entries ∧ a.Absorbs own c.overall c.transactions b

inductive Demand
  | collect (s : Stats)
  | harvest

/-- What an aggregate hands out as it serves demands, and what it is in the end. A harvest takes
everything out. -/
inductive Serves : Aggregate → List Demand → List Aggregate → Aggregate → Prop
  | done {a : Aggregate} : Serves a [] [] a
  | collect {a b last : Aggregate} {s : Stats} {rest : List Demand} {snapshots : List Aggregate}
      (h : a.Collects s b) (hrest : Serves b rest snapshots last) :
      Serves a (.collect s :: rest) snapshots last
  | harvest {a last : Aggregate} {rest : List Demand} {snapshots : List Aggregate}
      (hrest : Serves .empty rest snapshots last) :
      Serves a (.harvest :: rest) (a :: snapshots) last

/-- `a` is what aggregates come to that are merged in their order, two at a time. -/
inductive Combines : List Aggregate → Aggregate → Prop
  | none : Combines [] .empty
  | one (a : Aggregate) : Combines [a] a
  | merge {as bs : List Aggregate} {a b c : Aggregate} (ha : Combines as a) (hb : Combines bs b)
      (h : a.Merges b c) : Combines (as ++ bs) c

/-- The metrics of the transactions that are to be collected. -/
def collected (ds : List Demand) : List Stats :=
  ds.filterMap fun
    | .collect s => some s
    | .harvest => none

/-- Equal in everything but sums of squares and orders of entries. -/
structure Alike (a b : Aggregate) : Prop where
  scopes : ∀ scope, scope ∈ a.scopes.keys ↔ scope ∈ b.scopes.keys
  own : ∀ scope x, (a.inScope? scope x).map Data.withoutSquares =
    (b.inScope? scope x).map Data.withoutSquares
  overall : ∀ x, (a.overall? x).map Data.withoutSquares = (b.overall? x).map Data.withoutSquares
  transactions : a.transactions = b.transactions

/-- What a transaction brings into its scope. -/
def ownTable (s : Stats) : String × Table := (s.scope, s.own)

/-- The aggregate has just what the transactions have together. -/
structure Covers (a : Aggregate) (ss : List Stats) : Prop where
  scopes : ∀ scope, scope ∈ a.scopes.keys ↔ scope ∈ (ss.map ownTable).map Prod.fst
  own : ∀ scope, (a.scopeTable scope).figures = Scopes.brought scope (ss.map ownTable)
  overall : a.overall.figures = (ss.map (·.overall.figures)).sum
  transactions : a.transactions = ss.length
  ownAdmitted : ∀ scope, (a.scopeTable scope).Admitted
  overallAdmitted : a.overall.Admitted

variable {a b c : Aggregate} {s : Stats} {ss ts : List Stats}

theorem covers_empty : empty.Covers [] where
  scopes _ := Iff.rfl
  own _ := rfl
  overall := rfl
  transactions := rfl
  ownAdmitted _ := Table.admitted_empty
  overallAdmitted := Table.admitted_empty

theorem collects_collect (a : Aggregate) (s : Stats) : a.Collects s (a.collect s) where
  scopes := .cons (Table.absorbs_addTable _ _) .nil
  overall := Table.absorbs_addTable _ _
  transactions := rfl

theorem exists_merges (a c : Aggregate) : ∃ b, a.Merges c b := by
  obtain ⟨scopes, hscopes⟩ := Scopes.Absorb.total a.scopes c.scopes.entries
  exact ⟨⟨scopes, a.overall.addTable c.overall, a.transactions + c.transactions⟩,
    c.scopes.entries, .refl _, hscopes, Table.absorbs_addTable _ _, rfl⟩

theorem exists_serves (a : Aggregate) (ds : List Demand) :
    ∃ snapshots last, Serves a ds snapshots last := by
  induction ds generalizing a with
  | nil => exact ⟨[], a, .done⟩
  | cons d rest ih =>
    cases d with
    | collect s =>
      obtain ⟨snapshots, last, hrest⟩ := ih (a.collect s)
      exact ⟨snapshots, last, .collect (a.collects_collect s) hrest⟩
    | harvest =>
      obtain ⟨snapshots, last, hrest⟩ := ih .empty
      exact ⟨a :: snapshots, last, .harvest hrest⟩

theorem exists_combines (as : List Aggregate) : ∃ a, Combines as a := by
  induction as with
  | nil => exact ⟨.empty, .none⟩
  | cons a rest ih =>
    obtain ⟨b, hb⟩ := ih
    obtain ⟨c, hc⟩ := a.exists_merges b
    exact ⟨c, .merge (.one a) hb hc⟩

theorem Covers.perm (h : a.Covers ss) (hperm : ss.Perm ts) : a.Covers ts where
  scopes scope := by rw [h.scopes, ((hperm.map _).map _).mem_iff]
  own scope := by rw [h.own, Scopes.brought_perm scope (hperm.map _)]
  overall := by rw [h.overall, (hperm.map _).sum_eq]
  transactions := by rw [h.transactions, hperm.length_eq]
  ownAdmitted := h.ownAdmitted
  overallAdmitted := h.overallAdmitted

/-- Figures determine all that is compared. -/
theorem Covers.alike (ha : a.Covers ss) (hb : b.Covers ss) : a.Alike b where
  scopes scope := by rw [ha.scopes, hb.scopes]
  own scope x := by
    rw [← get?_scopeTable, ← get?_scopeTable]
    exact Data.withoutSquares_of_figures
      (congrFun ((ha.own scope).trans (hb.own scope).symm) x)
  overall x := Data.withoutSquares_of_figures (congrFun (ha.overall.trans hb.overall.symm) x)
  transactions := by rw [ha.transactions, hb.transactions]

/-- What comes in covers the transactions whose figures it has. -/
theorem Covers.absorb (h : a.Covers ss) {own : List (String × Table)} {overall : Table} {n : Nat}
    (habsorbs : a.Absorbs own overall n b) (hadmitted : ∀ e ∈ own, e.2.Admitted)
    (hoverallAdmitted : overall.Admitted)
    (hscopes : ∀ scope, scope ∈ own.map Prod.fst ↔ scope ∈ (ts.map ownTable).map Prod.fst)
    (hown : ∀ scope, Scopes.brought scope own = Scopes.brought scope (ts.map ownTable))
    (hoverall : overall.figures = (ts.map (·.overall.figures)).sum) (hn : n = ts.length) :
    b.Covers (ss ++ ts) where
  scopes scope := by
    rw [habsorbs.scopes.mem_keys, h.scopes, hscopes, List.map_append, List.map_append,
      List.mem_append]
  own scope := by
    rw [List.map_append, Scopes.brought_append, ← h.own, ← hown]
    exact habsorbs.scopes.figures_eq h.ownAdmitted hadmitted scope
  overall := by
    rw [habsorbs.overall.figures_eq h.overallAdmitted hoverallAdmitted, h.overall, hoverall,
      List.map_append, List.sum_append]
  transactions := by rw [habsorbs.transactions, h.transactions, hn, List.length_append]
  ownAdmitted := habsorbs.scopes.admitted h.ownAdmitted hadmitted
  overallAdmitted := habsorbs.overall.admitted h.overallAdmitted hoverallAdmitted

theorem Covers.collect (h : a.Covers ss) (hs : s.Admitted) (hcollects : a.Collects s b) :
    b.Covers (ss ++ [s]) :=
  h.absorb hcollects (by simpa using hs.own) hs.overall (fun _ => Iff.rfl) (fun _ => rfl)
    (List.sum_singleton).symm rfl

theorem Covers.merge (ha : a.Covers ss) (hc : c.Covers ts) (hmerges : a.Merges c b) :
    b.Covers (ss ++ ts) := by
  obtain ⟨own, hperm, habsorbs⟩ := hmerges
  refine ha.absorb habsorbs (fun e he => ?_) hc.overallAdmitted (fun scope => ?_) (fun scope => ?_)
    hc.overall hc.transactions
  · have hget : c.scopes.get? e.1 = some e.2 :=
      Dict.find_of_mem c.scopes.nodup (hperm.mem_iff.1 he)
    have htable := hc.ownAdmitted e.1
    rwa [scopeTable, hget] at htable
  · rw [← hc.scopes, (hperm.map _).mem_iff]
    rfl
  · rw [Scopes.brought_perm scope hperm, Scopes.brought_of_nodup scope c.scopes.nodup, ← hc.own]
    rfl

theorem Covers.foldl_collect (h : a.Covers ss) (hts : ∀ s ∈ ts, s.Admitted) :
    (ts.foldl Aggregate.collect a).Covers (ss ++ ts) := by
  induction ts generalizing a ss with
  | nil => rwa [List.append_nil]
  | cons s rest ih =>
    rw [List.forall_mem_cons] at hts
    have hnext := ih (h.collect hts.1 (a.collects_collect s)) hts.2
    rwa [List.append_assoc] at hnext

/-- The snapshots and what is left cover the transactions in parts, one after the other. -/
theorem Serves.covers {ds : List Demand} {snapshots : List Aggregate} {last : Aggregate}
    (h : Serves a ds snapshots last) (ha : a.Covers ss) (hds : ∀ s ∈ collected ds, s.Admitted) :
    ∃ parts : List (List Stats), parts.flatten = ss ++ collected ds ∧
      List.Forall₂ (fun part b => b.Covers part) parts (snapshots ++ [last]) := by
  induction h generalizing ss with
  | done => exact ⟨[ss], by simp [collected], .cons ha .nil⟩
  | @collect a b last s rest snapshots hcollects _ ih =>
    have hsplit : collected (.collect s :: rest) = s :: collected rest := rfl
    rw [hsplit, List.forall_mem_cons] at hds
    obtain ⟨parts, hparts, hcovers⟩ := ih (ha.collect hds.1 hcollects) hds.2
    exact ⟨parts, by rw [hparts, hsplit, List.append_assoc]; rfl, hcovers⟩
  | harvest _ ih =>
    obtain ⟨parts, hparts, hcovers⟩ := ih covers_empty hds
    exact ⟨ss :: parts, by rw [List.flatten_cons, hparts]; rfl, .cons ha hcovers⟩

theorem Combines.covers {as : List Aggregate} (h : Combines as c) {parts : List (List Stats)}
    (hparts : List.Forall₂ (fun part b => b.Covers part) parts as) : c.Covers parts.flatten := by
  induction h generalizing parts with
  | none =>
    cases hparts
    exact covers_empty
  | one a =>
    obtain ⟨part, _, ha, hnil, rfl⟩ := List.forall₂_cons_right_iff.1 hparts
    cases hnil
    simpa using ha
  | @merge as bs _ _ _ _ _ hmerges iha ihb =>
    have hsplit : parts.flatten = (parts.take as.length).flatten ++ (parts.drop as.length).flatten := by
      rw [← List.flatten_append, List.take_append_drop]
    rw [hsplit]
    exact (iha (List.forall₂_take_append parts as bs hparts)).merge
      (ihb (List.forall₂_drop_append parts as bs hparts)) hmerges

/-- Metrics come to the same whatever the order in which transactions are collected and their tables
are read, wherever harvests fall and however what they hand out is merged afterwards. Without a harvest
before the last one, there is nothing to merge. -/
theorem gathered_alike {runtimePrefix : String} (hfirst : firstPart runtimePrefix ∉ reservedParts)
    {ss : List Stats} (hss : ∀ s ∈ ss, ∃ (f : Forest) (c : Context),
      (c.name.family = MetricName.webFamily ∨ c.name.family = MetricName.otherFamily) ∧
        s = .ofForest runtimePrefix f c)
    {ds : List Demand} (hds : (collected ds).Perm ss) :
    (∃ snapshots last whole, Serves .empty ds snapshots last ∧
      Combines (snapshots ++ [last]) whole) ∧
    ∀ snapshots last whole, Serves .empty ds snapshots last →
      Combines (snapshots ++ [last]) whole → whole.Alike (ss.foldl Aggregate.collect .empty) := by
  have hadmitted : ∀ s ∈ ss, s.Admitted := by
    intro s hs
    obtain ⟨f, c, hfamily, rfl⟩ := hss s hs
    exact Stats.admitted_ofForest hfirst f hfamily
  constructor
  · obtain ⟨snapshots, last, hserves⟩ := exists_serves .empty ds
    obtain ⟨whole, hcombines⟩ := exists_combines (snapshots ++ [last])
    exact ⟨snapshots, last, whole, hserves, hcombines⟩
  · intro snapshots last whole hserves hcombines
    obtain ⟨parts, hparts, hcovers⟩ := hserves.covers covers_empty
      fun s hs => hadmitted s (hds.mem_iff.1 hs)
    have hwhole : whole.Covers (collected ds) := by
      have hcovered := hcombines.covers hcovers
      rwa [hparts] at hcovered
    exact (hwhole.perm hds).alike (covers_empty.foldl_collect hadmitted)

/-- The metrics of a web transaction with a single node. -/
def order (duration : Duration) (failed : Bool) : Stats :=
  .ofForest "Rust" (.ofSpans [.unfinished 0 "request" .method 0])
    ⟨⟨MetricName.webFamily, "Uri/orders", false⟩, duration, some (.ofMillis 3), some (.ofMillis 100),
      failed, none⟩

theorem gathered_alike_orders :
    let fast := order (.ofMillis 40) false
    let slow := order (.ofMillis 500) false
    let broken := order (.ofMillis 7) true
    let ds : List Demand :=
      [.collect broken, .harvest, .harvest, .collect slow, .collect fast, .harvest]
    let collectedAtOnce := [fast, slow, broken].foldl Aggregate.collect .empty
    firstPart "Rust" ∉ reservedParts ∧
    (∀ s ∈ [fast, slow, broken], ∃ (f : Forest) (c : Context),
      (c.name.family = MetricName.webFamily ∨ c.name.family = MetricName.otherFamily) ∧
        s = .ofForest "Rust" f c) ∧
    (collected ds).Perm [fast, slow, broken] ∧
    collectedAtOnce.overall.count "Apdex" = 3 ∧
    ∃ snapshots last whole, Serves .empty ds snapshots last ∧
      Combines (snapshots ++ [last]) whole ∧ whole.Alike collectedAtOnce := by
  intro fast slow broken ds collectedAtOnce
  have hfirst : firstPart "Rust" ∉ reservedParts := by decide
  have hss : ∀ s ∈ [fast, slow, broken], ∃ (f : Forest) (c : Context),
      (c.name.family = MetricName.webFamily ∨ c.name.family = MetricName.otherFamily) ∧
        s = .ofForest "Rust" f c := by
    simp only [List.forall_mem_cons]
    exact ⟨⟨_, _, .inl rfl, rfl⟩, ⟨_, _, .inl rfl, rfl⟩, ⟨_, _, .inl rfl, rfl⟩, by simp⟩
  have hds : (collected ds).Perm [fast, slow, broken] :=
    (List.reverse_perm [fast, slow, broken])
  obtain ⟨⟨snapshots, last, whole, hserves, hcombines⟩, halike⟩ := gathered_alike hfirst hss hds
  exact ⟨hfirst, hss, hds, by decide +kernel, snapshots, last, whole, hserves, hcombines,
    halike snapshots last whole hserves hcombines⟩

end Aggregate

end Telemetry.Metric
