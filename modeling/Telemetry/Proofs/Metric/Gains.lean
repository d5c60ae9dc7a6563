import Telemetry.Proofs.Metric.Collecting
import Telemetry.Proofs.Metric.Replays
import Mathlib.Data.List.Induction

/-!
# What an aggregate gains

An aggregate that has collected the metrics of transactions has one more transaction for each of them,
and under each name an account of what was there before and of what each of them brought, once and
nothing else. In a scope it is what the transactions of that scope brought there.
-/
namespace Telemetry.Metric

theorem Timing.Recaps.self {t : Timing} {ts : List Timing} (h : t.Recaps ts) : t.Recaps [t] where
  count := by simp
  total := (Duration.sum_singleton t.total).symm
  exclusive := (Duration.sum_singleton t.exclusive).symm
  least hcalled := by simp [among, hcalled]
  greatest hcalled := by simp [among, hcalled]
  idle := h.idle

namespace Data

/-- What is there is of the kind of the first and counts all data of that kind. -/
inductive Tallies : Option Data → List Data → Prop
  | empty : Tallies none []
  | kept {d first : Data} {rest : List Data} (kind : first.sameKind d = true)
      (count : d.count = (((first :: rest).filter first.sameKind).map Data.count).sum) :
      Tallies (some d) (first :: rest)

/-- The data tells of itself and of nothing else. -/
def Whole (d : Data) : Prop := Recaps (some d) [d]

/-- What is there tallies the data, whatever it is, and tells of all of it together, as far as it is of
the kind of the first, if it is whole. -/
structure Accounts (found : Option Data) (ds : List Data) : Prop where
  tallies : Tallies found ds
  recaps : (∀ d ∈ ds, d.Whole) → Recaps found ds

variable {found : Option Data} {ds : List Data}

theorem sameKind_self (d : Data) : d.sameKind d = true := by
  cases d <;> rfl

theorem sameKind_congr {a b : Data} (h : a.sameKind b = true) (c : Data) :
    a.sameKind c = b.sameKind c := by
  cases a <;> cases b <;> cases c <;> first | rfl | cases h

theorem sameKind_merge (a b c : Data) : c.sameKind (a.merge b) = c.sameKind a := by
  cases a <;> cases b <;> cases c <;> rfl

theorem merge_of_not_sameKind {a b : Data} (h : a.sameKind b = false) : a.merge b = a := by
  cases a <;> cases b <;> first | rfl | cases h

/-- Data of the other kind is dropped. -/
theorem Tallies.snoc (h : Tallies found ds) (d : Data) :
    Tallies (found.merge Data.merge (some d)) (ds ++ [d]) := by
  cases h with
  | empty => exact .kept (sameKind_self d) (by simp [sameKind_self])
  | @kept a first rest hkind hcount =>
    have hsame : first.sameKind d = a.sameKind d := sameKind_congr hkind d
    have hmerged : (a.merge d).count =
        (((first :: rest ++ [d]).filter first.sameKind).map Data.count).sum := by
      rw [List.filter_append, List.map_append, List.sum_append, ← hcount]
      cases hd : a.sameKind d with
      | true => simp [count_merge hd, hsame, hd]
      | false => simp [merge_of_not_sameKind hd, hsame, hd]
    exact .kept ((sameKind_merge a d first).trans hkind) hmerged

namespace Accounts

theorem toList (found : Option Data) : Accounts found found.toList := by
  cases found with
  | none => exact ⟨.empty, fun _ => .none⟩
  | some d => exact ⟨Tallies.empty.snoc d, fun hwhole => hwhole d List.mem_cons_self⟩

theorem merge (h : Accounts found ds) (new : Option Data) :
    Accounts (found.merge Data.merge new) (ds ++ new.toList) := by
  cases new with
  | none => simpa using h
  | some d =>
    refine ⟨h.tallies.snoc d, fun hwhole => ?_⟩
    rw [List.forall_mem_append] at hwhole
    have hd : d.Whole := hwhole.2 d List.mem_cons_self
    exact (h.recaps hwhole.1).merge hd (by simp [sameKind_self])

end Accounts

theorem Recaps.whole {d : Data} (h : Recaps (some d) ds) : d.Whole := by
  cases h with
  | timing h => exact .timing h.self
  | apdex h => exact .apdex (.singleton h.total_pos)

end Data

theorem Contribution.Has.single {c : Context} {topic : Topic} {d : Data} (h : Has c topic d) :
    d.Single := by
  cases h with
  | once => exact .once _ _
  | calls => exact .calls 1
  | zone => exact .zone _ _

theorem Table.whole_ofList {es : List (String × Data)} (hes : ∀ e ∈ es, e.2.Single) {x : String}
    {d : Data} (h : (ofList es).get? x = some d) : d.Whole := by
  have hrecaps := recaps_ofList hes x
  rw [h] at hrecaps
  exact hrecaps.whole

/-- All that a transaction brings is whole. -/
theorem Stats.whole_ofForest {runtimePrefix : String} {f : Forest} {c : Context} {x : String}
    {d : Data} (h : (ofForest runtimePrefix f c).own.get? x = some d ∨
      (ofForest runtimePrefix f c).overall.get? x = some d) : d.Whole := by
  have hsingle : ∀ k ∈ Contribution.all runtimePrefix f c, k.data.Single := by
    intro k hk
    obtain ⟨_, hhas⟩ := Contribution.has_of_mem_all hk
    exact hhas.single
  rcases h with hown | hoverall
  · refine Table.whole_ofList (fun e he => ?_) hown
    obtain ⟨k, hk, rfl⟩ := List.mem_map.mp he
    exact hsingle k (List.mem_filter.mp hk).1
  · refine Table.whole_ofList (fun e he => ?_) hoverall
    obtain ⟨k, hk, rfl⟩ := List.mem_map.mp he
    exact hsingle k hk

namespace Aggregate

/-- The later aggregate has what the earlier has and what the transactions brought. -/
structure Gains (earlier : Aggregate) (ss : List Stats) (later : Aggregate) : Prop where
  transactions : later.transactions = earlier.transactions + ss.length
  scopes : ∀ scope, scope ∈ later.scopes.keys ↔
    scope ∈ earlier.scopes.keys ∨ scope ∈ ss.map (·.scope)
  overall : ∀ x, Data.Accounts (later.overall? x)
    ((earlier.overall? x).toList ++ ss.filterMap (·.overall.get? x))
  inScope : ∀ scope x, Data.Accounts (later.inScope? scope x)
    ((earlier.inScope? scope x).toList ++
      (ss.filter (·.scope = scope)).filterMap (·.own.get? x))

variable {a b : Aggregate} {ss : List Stats}

theorem Gains.refl (a : Aggregate) : a.Gains [] a where
  transactions := rfl
  scopes _ := by simp
  overall x := by simpa using Data.Accounts.toList (a.overall? x)
  inScope scope x := by simpa using Data.Accounts.toList (a.inScope? scope x)

/-- One more transaction is one more datum at most under each name. -/
theorem Gains.collect (h : a.Gains ss b) (s : Stats) : a.Gains (ss ++ [s]) (b.collect s) where
  transactions := by
    rw [List.length_append, ← Nat.add_assoc, ← h.transactions]
    rfl
  scopes scope := by
    have hkeys : scope ∈ (b.collect s).scopes.keys ↔ scope = s.scope ∨ scope ∈ b.scopes.keys :=
      Dict.mem_keys_insert ..
    rw [hkeys, h.scopes, List.map_append, List.mem_append, List.map_singleton,
      List.mem_singleton, or_comm, or_assoc]
  overall x := by
    have hmore := (h.overall x).merge (s.overall.get? x)
    rw [overall?_collect, List.filterMap_append, ← List.append_assoc]
    exact hmore
  inScope scope x := by
    rw [inScope?_collect, List.filter_append, List.filterMap_append, ← List.append_assoc]
    by_cases hscope : scope = s.scope
    · rw [if_pos hscope, List.filter_cons_of_pos (by simpa using hscope.symm)]
      have hmore := (h.inScope scope x).merge (s.own.get? x)
      exact hmore
    · rw [if_neg hscope, List.filter_cons_of_neg (by simpa using Ne.symm hscope)]
      simpa using h.inScope scope x

theorem gains_foldl (a : Aggregate) (ss : List Stats) : a.Gains ss (ss.foldl collect a) := by
  induction ss using List.reverseRec with
  | nil => exact .refl a
  | append_singleton init s ih =>
    rw [List.foldl_append]
    exact ih.collect s

end Aggregate

end Telemetry.Metric
