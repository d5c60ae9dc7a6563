import Telemetry.Transaction.Step
import Mathlib.Data.List.Perm.Subperm
import Mathlib.Logic.Relation

/-!
# Ancestors of spans

Following parent links leads from a span to its ancestors. Where no way up comes back to its start,
the search for a cycle ends after at most as many spans as there are, and it finds a span exactly
when that span is an ancestor. Giving a span a new parent that is not below it makes no loop.
-/
namespace Telemetry.Transaction

open Relation

variable {spans : List Span}

/-- The first span names the second as its parent. -/
def Under (spans : List Span) (c p : Nat) : Prop := parentOf spans c = some p

def Acyclic (spans : List Span) : Prop := ∀ i, ¬ TransGen (Under spans) i i

/-- Every parent link leads to a span of the list. -/
def Closed (spans : List Span) : Prop := ∀ c p, Under spans c p → p < spans.length

/-- The way up from a cursor, one existing span after the other, until it meets the target or passes
a span without a parent. The last two arguments are the number of spans on it and whether the
target was met. -/
inductive Climbs (spans : List Span) (target : Nat) : Option Nat → Nat → Bool → Prop
  | passedRoot : Climbs spans target none 0 false
  | met : Climbs spans target (some target) 1 true
  | up {i n : Nat} {s : Span} {b : Bool} (hi : i ≠ target) (hs : spans[i]? = some s)
      (h : Climbs spans target s.parent n b) : Climbs spans target (some i) (n + 1) b

theorem under_of_getElem? {i p : Nat} {s : Span} (hs : spans[i]? = some s) :
    Under spans i p ↔ s.parent = some p := by
  rw [Under, parentOf, hs, Option.bind_some]

theorem Under.exists_span {c p : Nat} (h : Under spans c p) :
    ∃ s : Span, spans[c]? = some s ∧ s.parent = some p := Option.bind_eq_some_iff.mp h

theorem Under.lt_length {c p : Nat} (h : Under spans c p) : c < spans.length := by
  obtain ⟨s, hs, _⟩ := h.exists_span
  exact (List.getElem?_eq_some_iff.mp hs).1

theorem Climbs.met_iff {target n : Nat} {cursor : Option Nat} {b : Bool}
    (h : Climbs spans target cursor n b) :
    b = true ↔ ∃ i, cursor = some i ∧ ReflTransGen (Under spans) i target := by
  induction h with
  | passedRoot => simp
  | met => exact ⟨fun _ => ⟨target, rfl, .refl⟩, fun _ => rfl⟩
  | @up i n s b hi hs _ ih =>
    rw [ih]
    constructor
    · rintro ⟨p, hp, hup⟩
      exact ⟨i, rfl, hup.head ((under_of_getElem? hs).mpr hp)⟩
    · rintro ⟨j, hj, hup⟩
      obtain rfl := Option.some.inj hj
      rcases hup.cases_head with rfl | ⟨p, hp, hup⟩
      · exact absurd rfl hi
      · exact ⟨p, (under_of_getElem? hs).mp hp, hup⟩

/-- Distinct spans, from each of which the way up leads to one and the same span. -/
structure Passed (spans : List Span) (passed : List Nat) (i : Nat) : Prop where
  nodup : passed.Nodup
  below : ∀ v ∈ passed, v < spans.length ∧ TransGen (Under spans) v i

theorem Passed.length_lt (ha : Acyclic spans) {passed : List Nat} {i : Nat}
    (h : Passed spans passed i) (hi : i < spans.length) : passed.length < spans.length := by
  have hnodup : (i :: passed).Nodup :=
    List.nodup_cons.mpr ⟨fun hmem => ha i (h.below i hmem).2, h.nodup⟩
  have hsubset : i :: passed ⊆ List.range spans.length := by
    intro v hv
    rcases List.mem_cons.mp hv with rfl | hv
    · exact List.mem_range.mpr hi
    · exact List.mem_range.mpr (h.below v hv).1
  have hle := (hnodup.subperm hsubset).length_le
  rw [List.length_cons, List.length_range] at hle
  omega

theorem Passed.up (ha : Acyclic spans) {passed : List Nat} {i p : Nat} (h : Passed spans passed i)
    (hp : Under spans i p) : Passed spans (i :: passed) p where
  nodup := List.nodup_cons.mpr ⟨fun hmem => ha i (h.below i hmem).2, h.nodup⟩
  below := by
    intro v hv
    rcases List.mem_cons.mp hv with rfl | hv
    · exact ⟨hp.lt_length, .single hp⟩
    · exact ⟨(h.below v hv).1, (h.below v hv).2.tail hp⟩

/-- Fuel for the spans that have not been passed yet is never used up. -/
theorem climbs_of_passed (ha : Acyclic spans) (hc : Closed spans) {target fuel i : Nat}
    {passed : List Nat} (h : Passed spans passed i) (hi : i < spans.length)
    (hfuel : spans.length = fuel + passed.length) :
    ∃ n ≤ fuel, Climbs spans target (some i) n (climbMeets spans target fuel (some i)) := by
  have hlt := h.length_lt ha hi
  induction fuel generalizing i passed with
  | zero => omega
  | succ fuel ih =>
    rw [climbMeets]
    by_cases hit : i = target
    · subst hit
      rw [beq_self_eq_true, Bool.true_or]
      exact ⟨1, by omega, .met⟩
    have hs : spans[i]? = some spans[i] := List.getElem?_eq_getElem hi
    rw [beq_eq_false_iff_ne.mpr hit, Bool.false_or, parentOf, hs, Option.bind_some]
    cases hp : spans[i].parent with
    | none =>
      refine ⟨1, by omega, .up hit hs ?_⟩
      rw [hp]
      cases fuel <;> exact .passedRoot
    | some p =>
      have hup : Under spans i p := (under_of_getElem? hs).mpr hp
      have hpassed := h.up ha hup
      obtain ⟨n, hn, hclimb⟩ := ih hpassed (hc i p hup)
        (by rw [List.length_cons]; omega) (hpassed.length_lt ha (hc i p hup))
      rw [← hp] at hclimb ⊢
      exact ⟨n + 1, by omega, .up hit hs hclimb⟩

theorem climbs_closesCycle (ha : Acyclic spans) (hc : Closed spans) {parent : Nat}
    (hp : parent < spans.length) (child : Nat) :
    ∃ n ≤ spans.length,
      Climbs spans child (some parent) n (closesCycle spans parent child) :=
  climbs_of_passed ha hc ⟨List.nodup_nil, fun _ h => absurd h List.not_mem_nil⟩ hp rfl

theorem closesCycle_iff (ha : Acyclic spans) (hc : Closed spans) {parent : Nat}
    (hp : parent < spans.length) (child : Nat) :
    closesCycle spans parent child = true ↔ ReflTransGen (Under spans) parent child := by
  obtain ⟨n, _, h⟩ := climbs_closesCycle ha hc hp child
  rw [h.met_iff]
  simp

/-! ### A new parent -/

variable {spans' : List Span} {parent child : Nat}

/-- A way up after the change either does not use the new link or goes on from it. -/
theorem way_up_after (hup : ∀ i p, Under spans' i p → Under spans i p ∨ i = child ∧ p = parent)
    {x y : Nat} (h : ReflTransGen (Under spans') x y) :
    ReflTransGen (Under spans) x y ∨
      ReflTransGen (Under spans) x child ∧ ReflTransGen (Under spans) parent y := by
  induction h with
  | refl => exact Or.inl .refl
  | @tail y z _ hyz ih =>
    rcases hup y z hyz with hold | ⟨rfl, rfl⟩
    · rcases ih with ih | ⟨hx, hy⟩
      · exact Or.inl (ih.tail hold)
      · exact Or.inr ⟨hx, hy.tail hold⟩
    · rcases ih with ih | ⟨hx, _⟩
      · exact Or.inr ⟨ih, .refl⟩
      · exact Or.inr ⟨hx, .refl⟩

theorem Acyclic.of_under (ha : Acyclic spans)
    (hup : ∀ i p, Under spans' i p → Under spans i p) : Acyclic spans' :=
  fun i h => ha i (TransGen.mono hup _ _ h)

theorem Acyclic.of_new_parent (ha : Acyclic spans)
    (hup : ∀ i p, Under spans' i p → Under spans i p ∨ i = child ∧ p = parent)
    (hn : ¬ ReflTransGen (Under spans) parent child) : Acyclic spans' := by
  intro i h
  obtain ⟨w, hiw, hwi⟩ := TransGen.head'_iff.mp h
  rcases hup i w hiw with hold | ⟨rfl, rfl⟩
  · rcases way_up_after hup hwi with hwi | ⟨hwc, hpi⟩
    · exact ha i (TransGen.head' hold hwi)
    · exact hn ((hpi.tail hold).trans hwc)
  · rcases way_up_after hup hwi with hwi | ⟨hwi, _⟩
    · exact hn hwi
    · exact hn hwi

end Telemetry.Transaction
