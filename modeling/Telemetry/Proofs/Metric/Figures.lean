import Telemetry.Proofs.Metric.Shares
import Telemetry.Proofs.Metric.Sums
import Mathlib.Algebra.BigOperators.Group.List.Basic
import Mathlib.Algebra.Group.Pi.Basic
import Mathlib.Algebra.Group.Prod
import Mathlib.Algebra.Group.WithOne.Basic

/-!
# Figures of metrics

The figures under a name are all that its statistic says but for the sum of squares. They form a
commutative monoid, and merging adds them as long as every statistic has calls and those under one name
are of one kind. All that transactions contribute is of that sort.
-/
namespace Telemetry

instance : AddCommSemigroup Duration where
  add_assoc := Duration.add_add
  add_comm a b := Duration.ext (by simp only [Duration.nanos_add, Nat.add_comm])

namespace Metric

/-- Sums of some amounts with the least and the greatest of some durations. -/
@[ext]
structure Spread (A : Type) where
  sums : A
  least : Duration
  greatest : Duration

instance {A : Type} [AddCommSemigroup A] : AddCommSemigroup (Spread A) where
  add s t := ⟨s.sums + t.sums, min s.least t.least, max s.greatest t.greatest⟩
  add_assoc _ _ _ := Spread.ext (add_assoc _ _ _) (min_assoc _ _ _) (max_assoc _ _ _)
  add_comm _ _ := Spread.ext (add_comm _ _) (min_comm _ _) (max_comm _ _)

def Timing.figures (t : Timing) : Spread (Nat × Duration × Duration) :=
  ⟨(t.count, t.total, t.exclusive), t.least, t.greatest⟩

def Apdex.figures (a : Apdex) : Spread (Nat × Nat × Nat) :=
  ⟨(a.satisfying, a.tolerating, a.frustrating), a.least, a.greatest⟩

/-- What timings say together, and apart from it what Apdex statistics say. -/
abbrev Figures : Type :=
  WithZero (Spread (Nat × Duration × Duration)) × WithZero (Spread (Nat × Nat × Nat))

namespace Data

/-- The statistic but for the sum of squares, which rounding makes depend on the order. -/
def withoutSquares : Data → Data
  | timing t => timing { t with sumOfSquares := 0.0 }
  | apdex a => apdex a

def figures : Option Data → Figures
  | none => 0
  | some (timing t) => (t.figures, 0)
  | some (apdex a) => (0, a.figures)

theorem withoutSquares_of_figures {found other : Option Data} (h : figures found = figures other) :
    found.map withoutSquares = other.map withoutSquares := by
  rcases found with _ | ⟨t⟩ | ⟨a⟩ <;> rcases other with _ | ⟨u⟩ | ⟨b⟩ <;>
    obtain ⟨htiming, hapdex⟩ := Prod.ext_iff.1 h
  · rfl
  · exact absurd htiming.symm (WithZero.coe_ne_zero)
  · exact absurd hapdex.symm (WithZero.coe_ne_zero)
  · exact absurd htiming (WithZero.coe_ne_zero)
  · have hfigures : t.figures = u.figures := WithZero.coe_inj.1 htiming
    simp_all [Timing.figures, withoutSquares]
  · exact absurd htiming (WithZero.coe_ne_zero)
  · exact absurd hapdex (WithZero.coe_ne_zero)
  · exact absurd hapdex (WithZero.coe_ne_zero)
  · have hfigures : a.figures = b.figures := WithZero.coe_inj.1 hapdex
    cases a
    cases b
    simp_all [Apdex.figures]

end Data

/-- Whether the topic asks for data of this kind, and the data tells of anything at all. -/
def Topic.Admits (topic : Topic) (d : Data) : Prop := topic.suits d = true ∧ 0 < d.count

theorem Timing.figures_merge {a b : Timing} (ha : 0 < a.count) (hb : 0 < b.count) :
    (a.merge b).figures = a.figures + b.figures := by
  rw [merge_of_called ha hb]
  rfl

theorem Apdex.figures_merge {a : Apdex} (ha : 0 < a.total) (b : Apdex) :
    (a.merge b).figures = a.figures + b.figures := by
  rw [merge, if_neg ha.ne']
  rfl

namespace Topic

variable {topic : Topic} {found new : Option Data}

theorem Admits.merge {a b : Data} (ha : topic.Admits a) (hb : topic.Admits b) :
    topic.Admits (a.merge b) := by
  refine ⟨suits_merge ha.1 b, ?_⟩
  rw [Data.count_merge (sameKind_of_suits ha.1 hb.1)]
  exact Nat.add_pos_left ha.2 _

theorem admits_merge (hfound : ∀ d ∈ found, topic.Admits d) (hnew : ∀ d ∈ new, topic.Admits d) :
    ∀ d ∈ found.merge Data.merge new, topic.Admits d :=
  Data.merge_induction (fun _ _ => Admits.merge) hfound hnew

/-- With nothing empty and nothing of another kind, merging is addition. -/
theorem figures_merge (hfound : ∀ d ∈ found, topic.Admits d) (hnew : ∀ d ∈ new, topic.Admits d) :
    Data.figures (found.merge Data.merge new) = Data.figures found + Data.figures new := by
  cases found with
  | none => rw [Option.merge_none_left, Data.figures, zero_add]
  | some a =>
    cases new with
    | none => rw [Option.merge_none_right, Data.figures, add_zero]
    | some b =>
      obtain ⟨hsuits, hcalled⟩ := hfound a rfl
      obtain ⟨hsuits', hcalled'⟩ := hnew b rfl
      have hkind := sameKind_of_suits hsuits hsuits'
      cases a <;> cases b
      · exact Prod.ext (congrArg WithZero.coe (Timing.figures_merge hcalled hcalled')) (add_zero 0).symm
      · cases hkind
      · cases hkind
      · exact Prod.ext (add_zero 0).symm (congrArg WithZero.coe (Apdex.figures_merge hcalled _))

end Topic

namespace Table

/-- The figures under every name. -/
def figures (t : Table) (x : String) : Figures := Data.figures (t.get? x)

/-- No statistic is empty or of a kind that its name does not ask for. -/
def Admitted (t : Table) : Prop := ∀ x, ∀ d ∈ t.get? x, (Topic.ofName x).Admits d

theorem admitted_empty : empty.Admitted := fun _ _ h => nomatch h

theorem admitted_ofList {es : List (String × Data)}
    (h : ∀ e ∈ es, (Topic.ofName e.1).Admits e.2) : (ofList es).Admitted := by
  intro x
  rw [get?_ofList]
  refine Data.mergeAll_induction (fun _ _ => Topic.Admits.merge) ?_ (by simp)
  intro d hd
  obtain ⟨e, he, rfl⟩ := List.mem_map.1 hd
  obtain ⟨hmem, hname⟩ := List.mem_filter.1 he
  rw [← of_decide_eq_true hname]
  exact h e hmem

end Table

namespace Contribution

variable {runtimePrefix : String} {f : Forest} {c : Context} {topic : Topic}

theorem Has.count_eq {d : Data} (h : Has c topic d) : d.count = 1 := by
  cases h with
  | once | calls => rfl
  | zone => exact Apdex.total_once _ _

theorem admits_of_mem (hfirst : firstPart runtimePrefix ∉ reservedParts)
    (hname : c.name.family = MetricName.webFamily ∨ c.name.family = MetricName.otherFamily)
    {k : Contribution} (hk : k ∈ all runtimePrefix f c) : (Topic.ofName k.name).Admits k.data := by
  rw [all_eq_flatMap] at hk
  obtain ⟨topic, _, hk⟩ := List.mem_flatMap.1 hk
  rw [topic_of_mem hfirst hname hk]
  exact ⟨suits_of_mem hk, by rw [(has_of_mem hk).count_eq]; exact Nat.one_pos⟩

end Contribution

namespace Stats

open Contribution

/-- Every statistic of the transaction is one that its name admits. -/
structure Admitted (s : Stats) : Prop where
  own : s.own.Admitted
  overall : s.overall.Admitted

theorem admitted_ofForest {runtimePrefix : String} (hfirst : firstPart runtimePrefix ∉ reservedParts)
    (f : Forest) {c : Context}
    (hname : c.name.family = MetricName.webFamily ∨ c.name.family = MetricName.otherFamily) :
    (ofForest runtimePrefix f c).Admitted where
  own := Table.admitted_ofList fun _ he => by
    obtain ⟨k, hk, rfl⟩ := List.mem_map.1 he
    exact admits_of_mem hfirst hname (List.mem_filter.1 hk).1
  overall := Table.admitted_ofList fun _ he => by
    obtain ⟨k, hk, rfl⟩ := List.mem_map.1 he
    exact admits_of_mem hfirst hname hk

end Stats

end Metric

end Telemetry
