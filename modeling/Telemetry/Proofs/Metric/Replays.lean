import Telemetry.Proofs.Metric.ApdexMerges
import Telemetry.Proofs.Metric.Gathering

/-!
# Tables as accounts of what was merged

What a table has under a name accounts for the data that came in under it and for nothing else: the first
decides on the kind, data of the other kind is dropped, and the rest adds up. So as long as no name is
used with both kinds, it makes no difference whether data is merged into a table at once or first into
another table that is merged into it afterwards.
-/
namespace Telemetry.Metric

namespace Timing

/-- What the timings with calls among some have in a field. -/
def among (field : Timing → Duration) (ts : List Timing) : Set Duration :=
  {d | ∃ u ∈ ts, 0 < u.count ∧ field u = d}

/-- The timing tells of the calls of all others together. Those without calls are not among the extremes,
and if there are no calls at all, everything is zero. -/
structure Recaps (t : Timing) (ts : List Timing) : Prop where
  count : t.count = (ts.map (·.count)).sum
  total : t.total = .sum (ts.map (·.total))
  exclusive : t.exclusive = .sum (ts.map (·.exclusive))
  least : 0 < t.count → IsLeast (among (·.least) ts) t.least
  greatest : 0 < t.count → IsGreatest (among (·.greatest) ts) t.greatest
  idle : t.count = 0 → t.total = 0 ∧ t.exclusive = 0 ∧ t.least = 0 ∧ t.greatest = 0

variable {t u : Timing} {ts us : List Timing} (field : Timing → Duration)

theorem among_append : among field (ts ++ us) = among field ts ∪ among field us := by
  ext d
  simp only [among, List.mem_append, or_and_right, exists_or, Set.mem_union, Set.mem_ofPred_eq]

theorem among_eq_empty (h : (ts.map (·.count)).sum = 0) : among field ts = ∅ := by
  ext d
  simp only [among, Set.mem_ofPred_eq, Set.mem_empty_iff_false, iff_false]
  rintro ⟨u, hu, hcalled, -⟩
  have hzero : u.count = 0 := List.sum_eq_zero_iff_forall_eq_nat.1 h _ (List.mem_map_of_mem hu)
  omega

namespace Recaps

theorem once (total exclusive : Duration) :
    (Timing.once total exclusive).Recaps [.once total exclusive] where
  count := rfl
  total := (Duration.sum_singleton total).symm
  exclusive := (Duration.sum_singleton exclusive).symm
  least _ := by simp [among, Timing.once]
  greatest _ := by simp [among, Timing.once]
  idle h := absurd h Nat.one_ne_zero

theorem calls (n : Nat) : (Timing.calls n).Recaps [.calls n] where
  count := by simp
  total := (Duration.sum_singleton 0).symm
  exclusive := (Duration.sum_singleton 0).symm
  least h := by simp [among, h]
  greatest h := by simp [among, h]
  idle _ := ⟨rfl, rfl, rfl, rfl⟩

theorem perm (h : t.Recaps ts) (hperm : ts.Perm us) : t.Recaps us where
  count := by rw [h.count, (hperm.map _).sum_nat]
  total := by rw [h.total, Duration.sum_perm (hperm.map _)]
  exclusive := by rw [h.exclusive, Duration.sum_perm (hperm.map _)]
  least := by simpa only [among, hperm.mem_iff] using h.least
  greatest := by simpa only [among, hperm.mem_iff] using h.greatest
  idle := h.idle

/-- Timings without any calls add nothing. -/
theorem append_idle (h : t.Recaps ts) (h' : u.Recaps us) (hu : u.count = 0) :
    t.Recaps (ts ++ us) := by
  have hidle : (us.map (·.count)).sum = 0 := h'.count ▸ hu
  have hnone (field : Timing → Duration) : among field (ts ++ us) = among field ts := by
    rw [among_append, among_eq_empty field hidle, Set.union_empty]
  obtain ⟨htotal, hexclusive, -⟩ := h'.idle hu
  refine ⟨?_, ?_, ?_, ?_, ?_, h.idle⟩
  · rw [List.map_append, List.sum_append, hidle, Nat.add_zero, h.count]
  · rw [List.map_append, Duration.sum_append, ← h'.total, htotal, Duration.add_zero, h.total]
  · rw [List.map_append, Duration.sum_append, ← h'.exclusive, hexclusive, Duration.add_zero,
      h.exclusive]
  · rw [hnone]
    exact h.least
  · rw [hnone]
    exact h.greatest

theorem merge (h : t.Recaps ts) (h' : u.Recaps us) : (t.merge u).Recaps (ts ++ us) := by
  rcases Nat.eq_zero_or_pos t.count with ht | ht
  · have hpass : t.merge u = u := if_pos ht
    rw [hpass]
    exact (h'.append_idle h ht).perm List.perm_append_comm
  rcases Nat.eq_zero_or_pos u.count with hu | hu
  · have hpass : t.merge u = t := by rw [Timing.merge, if_neg ht.ne', if_pos hu]
    rw [hpass]
    exact h.append_idle h' hu
  · rw [merge_of_called ht hu]
    refine ⟨?_, ?_, ?_, fun _ => ?_, fun _ => ?_, fun hzero => ?_⟩
    · rw [List.map_append, List.sum_append, ← h.count, ← h'.count]
    · rw [List.map_append, Duration.sum_append, ← h.total, ← h'.total]
    · rw [List.map_append, Duration.sum_append, ← h.exclusive, ← h'.exclusive]
    · rw [among_append]
      exact (h.least ht).union (h'.least hu)
    · rw [among_append]
      exact (h.greatest ht).union (h'.greatest hu)
    · have hsum : t.count + u.count = 0 := hzero
      omega

/-- Nothing is left open but the sum of squares. -/
theorem unique (h : t.Recaps ts) (h' : u.Recaps ts) :
    ({ t with sumOfSquares := 0.0 } : Timing) = { u with sumOfSquares := 0.0 } := by
  have hcount : t.count = u.count := h.count.trans h'.count.symm
  have hextremes : t.least = u.least ∧ t.greatest = u.greatest := by
    rcases Nat.eq_zero_or_pos t.count with ht | ht
    · obtain ⟨-, -, hleast, hgreatest⟩ := h.idle ht
      obtain ⟨-, -, hleast', hgreatest'⟩ := h'.idle (hcount ▸ ht)
      exact ⟨hleast.trans hleast'.symm, hgreatest.trans hgreatest'.symm⟩
    · have hu : 0 < u.count := hcount ▸ ht
      exact ⟨(h.least ht).unique (h'.least hu), (h.greatest ht).unique (h'.greatest hu)⟩
  rw [hcount, h.total, h.exclusive, h'.total, h'.exclusive, hextremes.1, hextremes.2]

end Recaps

end Timing

namespace Data

/-- What is merged into tables: one timed call, a number of calls, or one transaction in its zone. -/
inductive Single : Data → Prop
  | once (total exclusive : Duration) : Single (.timing (.once total exclusive))
  | calls (n : Nat) : Single (.timing (.calls n))
  | zone (zone : Zone) (target : Duration) : Single (.apdex (.once zone target))

def timing? : Data → Option Timing
  | timing t => some t
  | apdex _ => none

def apdex? : Data → Option Apdex
  | timing _ => none
  | apdex a => some a

/-- What is there accounts for the data that came in, as far as it is of the kind of the first. -/
inductive Recaps : Option Data → List Data → Prop
  | none : Recaps none []
  | timing {t u : Timing} {ds : List Data} (h : t.Recaps ((timing u :: ds).filterMap timing?)) :
      Recaps (some (timing t)) (timing u :: ds)
  | apdex {a b : Apdex} {ds : List Data} (h : a.SumsUp ((apdex b :: ds).filterMap apdex?)) :
      Recaps (some (apdex a)) (apdex b :: ds)

variable {found new : Option Data} {ds es : List Data}

theorem Single.recaps {d : Data} (h : d.Single) : Recaps (some d) [d] := by
  cases h with
  | once total exclusive => exact .timing (.once total exclusive)
  | calls n => exact .timing (.calls n)
  | zone zone target =>
    exact .apdex (.singleton (by rw [Apdex.total_once]; exact Nat.one_pos))

theorem filterMap_timing? {b : Apdex} (h : ∀ d ∈ ds, sameKind (apdex b) d = true) :
    ds.filterMap timing? = [] := by
  rw [List.filterMap_eq_nil_iff]
  intro d hd
  cases d with
  | timing t => cases h _ hd
  | apdex a => rfl

theorem filterMap_apdex? {t : Timing} (h : ∀ d ∈ ds, sameKind (timing t) d = true) :
    ds.filterMap apdex? = [] := by
  rw [List.filterMap_eq_nil_iff]
  intro d hd
  cases d with
  | timing u => rfl
  | apdex a => cases h _ hd

/-- Data that is all of one kind comes in as a whole or is dropped as a whole. -/
theorem Recaps.merge (h : Recaps found ds) (h' : Recaps new es)
    (hes : ∀ d ∈ es, ∀ e ∈ es, d.sameKind e = true) :
    Recaps (found.merge Data.merge new) (ds ++ es) := by
  cases h with
  | none => rwa [Option.merge_none_left]
  | @timing t u ds h =>
    cases h' with
    | none =>
      rw [List.append_nil]
      exact .timing h
    | @timing v w es h' =>
      have hboth := h.merge h'
      rw [← List.filterMap_append] at hboth
      exact Recaps.timing hboth
    | @apdex a b es h' =>
      have hdropped := filterMap_timing? (hes _ List.mem_cons_self)
      rw [← List.append_nil (List.filterMap timing? _), ← hdropped, ← List.filterMap_append] at h
      exact Recaps.timing h
  | @apdex a b ds h =>
    cases h' with
    | none =>
      rw [List.append_nil]
      exact .apdex h
    | @timing t u es h' =>
      have hdropped := filterMap_apdex? (hes _ List.mem_cons_self)
      rw [← List.append_nil (List.filterMap apdex? _), ← hdropped, ← List.filterMap_append] at h
      exact Recaps.apdex h
    | @apdex c e es h' =>
      have hboth := h.merge h'
      rw [← List.filterMap_append] at hboth
      exact Recaps.apdex hboth

theorem Recaps.mergeAll (h : Recaps found ds) (hes : ∀ d ∈ es, d.Single) :
    Recaps (Data.mergeAll found es) (ds ++ es) := by
  induction es generalizing found ds with
  | nil => rwa [List.append_nil]
  | cons d rest ih =>
    rw [List.forall_mem_cons] at hes
    have hself : d.sameKind d = true := by cases d <;> rfl
    have hnext := ih (h.merge hes.1.recaps (by simpa using hself)) hes.2
    rwa [List.append_assoc] at hnext

theorem filterMap_timing?_map (ts : List Timing) : (ts.map timing).filterMap timing? = ts := by
  rw [List.filterMap_map]
  exact List.filterMap_some

/-- Of timings alone there is an account that tells of all of them. -/
theorem Recaps.of_timings {ts : List Timing} (h : Recaps found (ts.map Data.timing))
    (hts : ts ≠ []) : ∃ t, found = some (Data.timing t) ∧ t.Recaps ts := by
  obtain ⟨u, rest, rfl⟩ := List.exists_cons_of_ne_nil hts
  cases h with
  | @timing t _ _ h =>
    refine ⟨t, rfl, ?_⟩
    rw [← filterMap_timing?_map (u :: rest)]
    exact h

theorem Recaps.unique (h : Recaps found ds) (h' : Recaps new ds) :
    found.map withoutSquares = new.map withoutSquares := by
  cases h with
  | none =>
    cases h'
    rfl
  | timing h =>
    cases h' with
    | timing h' => exact congrArg (some ∘ Data.timing) (h.unique h')
  | apdex h =>
    cases h' with
    | apdex h' => rw [h.unique h']

end Data

namespace Table

/-- The data that comes in under a name. -/
def under (x : String) (es : List (String × Data)) : List Data :=
  (es.filter (·.1 = x)).map Prod.snd

/-- No name is used with both kinds. -/
def Unmixed (es : List (String × Data)) : Prop :=
  ∀ e ∈ es, ∀ e' ∈ es, e.1 = e'.1 → e.2.sameKind e'.2 = true

variable {es fs : List (String × Data)} {t : Table} {x : String}

theorem mem_under {d : Data} : d ∈ under x es ↔ (x, d) ∈ es := by
  simp [under]

theorem under_append : under x (es ++ fs) = under x es ++ under x fs := by
  rw [under, List.filter_append, List.map_append]
  rfl

theorem recaps_ofList (hes : ∀ e ∈ es, e.2.Single) (x : String) :
    Data.Recaps ((ofList es).get? x) (under x es) := by
  rw [get?_ofList]
  exact Data.Recaps.none.mergeAll fun d hd => hes _ (mem_under.1 hd)

theorem Absorbs.recaps (h : (ofList es).Absorbs (ofList fs) t) (hes : ∀ e ∈ es, e.2.Single)
    (hfs : ∀ e ∈ fs, e.2.Single) (hunmixed : Unmixed fs) (x : String) :
    Data.Recaps (t.get? x) (under x (es ++ fs)) := by
  rw [h.get?_eq, under_append]
  refine (recaps_ofList hes x).merge (recaps_ofList hfs x) fun d hd e he => ?_
  exact hunmixed _ (mem_under.1 hd) _ (mem_under.1 he) rfl

/-- Under a name there is an account of the data that came in under it, on which alone it depends: of the
kind of the first, with all data of that kind added up and the rest dropped. A table that is merged into
another, in whatever order its statistics are read, changes it as all that went into that table would have
done, as long as that used no name with both kinds. -/
theorem merges_account_for_names (hes : ∀ e ∈ es, e.2.Single) (hfs : ∀ e ∈ fs, e.2.Single) :
    (∀ x, Data.Recaps ((ofList es).get? x) (under x es)) ∧
    (∀ x, (ofList es).get? x = (ofList (es.filter (·.1 = x))).get? x) ∧
    (ofList es).Absorbs (ofList fs) ((ofList es).addTable (ofList fs)) ∧
    (Unmixed fs → ∀ t, (ofList es).Absorbs (ofList fs) t → ∀ x,
      (t.get? x).map Data.withoutSquares =
        ((ofList (es ++ fs)).get? x).map Data.withoutSquares) := by
  refine ⟨recaps_ofList hes, fun x => ?_, absorbs_addTable _ _, fun hunmixed t ht x => ?_⟩
  · rw [get?_ofList, get?_ofList, List.filter_filter]
    simp only [Bool.and_self]
  · have hboth : ∀ e ∈ es ++ fs, e.2.Single := List.forall_mem_append.2 ⟨hes, hfs⟩
    exact (ht.recaps hes hfs hunmixed x).unique (recaps_ofList hboth x)

/-- A name that is used with both kinds, and timings without calls. -/
def mixedEntries : List (String × Data) :=
  [("Apdex", .apdex (.once .satisfying (.ofMillis 500))), ("Apdex", .timing (.calls 1)),
    ("Rust/query", .timing (.calls 0)), ("Rust/query", .timing (.once (.ofMillis 40) (.ofMillis 10)))]

def plainEntries : List (String × Data) :=
  [("Rust/query", .timing (.once (.ofMillis 7) (.ofMillis 7))), ("Rust/query", .timing (.calls 0)),
    ("Apdex", .apdex (.once .frustrating (.ofSeconds 2)))]

theorem merges_account_for_names_backwards :
    let t := (ofList mixedEntries).addAll (ofList plainEntries).entries.reverse
    (∀ e ∈ mixedEntries, e.2.Single) ∧ (∀ e ∈ plainEntries, e.2.Single) ∧ Unmixed plainEntries ∧
    (ofList mixedEntries).Absorbs (ofList plainEntries) t ∧
    Data.Recaps ((ofList mixedEntries).get? "Apdex") (under "Apdex" mixedEntries) ∧
    (t.get? "Apdex").map Data.count = some 2 ∧ (t.get? "Rust/query").map Data.count = some 2 ∧
    ∀ x, (t.get? x).map Data.withoutSquares =
      ((ofList (mixedEntries ++ plainEntries)).get? x).map Data.withoutSquares := by
  intro t
  have hmixed : ∀ e ∈ mixedEntries, e.2.Single := by
    simp only [mixedEntries, List.forall_mem_cons]
    exact ⟨.zone _ _, .calls 1, .calls 0, .once _ _, by simp⟩
  have hplain : ∀ e ∈ plainEntries, e.2.Single := by
    simp only [plainEntries, List.forall_mem_cons]
    exact ⟨.once _ _, .calls 0, .zone _ _, by simp⟩
  have hunmixed : Unmixed plainEntries := by
    simp [Unmixed, plainEntries, Data.sameKind]
  have habsorbs : (ofList mixedEntries).Absorbs (ofList plainEntries) t := ⟨_, List.reverse_perm _, rfl⟩
  obtain ⟨hrecaps, -, -, halike⟩ := merges_account_for_names hmixed hplain
  exact ⟨hmixed, hplain, hunmixed, habsorbs, hrecaps "Apdex", by decide +kernel,
    by decide +kernel, halike hunmixed t habsorbs⟩

end Table

end Telemetry.Metric
