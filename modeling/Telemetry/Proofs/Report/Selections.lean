import Telemetry.Proofs.Entries
import Telemetry.Attribute
import Mathlib.Algebra.GroupWithZero.Nat
import Mathlib.Data.List.Induction

/-!
# Attributes selected for destinations

Under each key of a class, a selection shows the value that was added last for one of the wanted
destinations, however the attributes were put together. So the selection from an extended collection
is that of the extension on top of that of the collection, and whatever is selected for two sets of
destinations together is selected for one of them alone.
-/
namespace Telemetry

namespace Destinations

theorem testBit_toMask (a : Destinations) (d : Destination) :
    a.toMask.testBit d.bit = a.contains d := by
  simp only [toMask, Destination.all, List.map_cons, List.map_nil]
  -- there are 32 sets with five bits each
  cases d <;> cases a.contains .transactionTrace <;> cases a.contains .transactionEvent <;>
    cases a.contains .errorTrace <;> cases a.contains .javascriptAgent <;>
    cases a.contains .errorEvent <;> rfl

/-- A mask stands for the destinations whose bits it has. -/
theorem ofMask_toMask (a : Destinations) : ofMask a.toMask = a :=
  congrArg Destinations.mk (funext a.testBit_toMask)

/-- Of a mask the bits of destinations are kept, and no others. -/
theorem toMask_ofMask (mask : Nat) : (ofMask mask).toMask = mask % 2 ^ 5 := by
  have hsame : ofMask mask = ofMask (mask % 2 ^ 5) := by
    refine congrArg Destinations.mk (funext fun d => ?_)
    have hbit : d.bit < 5 := by cases d <;> decide
    rw [Nat.testBit_mod_two_pow, decide_eq_true hbit, Bool.true_and]
  have hall : ∀ n : Fin (2 ^ 5), (ofMask n.val).toMask = n.val := by decide
  rw [hsame]
  exact hall ⟨mask % 2 ^ 5, Nat.mod_lt mask (by decide)⟩

theorem ofMask_or (m n : Nat) : ofMask (m ||| n) = (ofMask m).union (ofMask n) := by
  simp only [ofMask, union, Nat.testBit_or]

end Destinations

/-- The attribute may stand under the key of the class in what one of the destinations gets. -/
def Attribute.Suits (a : Attribute) (wanted : Destinations) (c : Attribute.Class) (key : String) :
    Prop :=
  a.classified = c ∧ a.key = key ∧ ∃ d, a.destinations.contains d = true ∧ wanted.contains d = true

namespace Attribute

variable {a : Attribute} {wanted : Destinations} {c : Class} {key : String}

theorem suits_iff : a.Suits wanted c key ↔
    a.classified = c ∧ a.key = key ∧ a.destinations.meets wanted = true := by
  rw [Suits, Destinations.meets_iff]

instance : Decidable (a.Suits wanted c key) := decidable_of_iff _ suits_iff.symm

theorem suits_union (wanted' : Destinations) :
    a.Suits (wanted.union wanted') c key ↔ a.Suits wanted c key ∨ a.Suits wanted' c key := by
  have hcontains (d : Destination) : (wanted.union wanted').contains d = true ↔
      wanted.contains d = true ∨ wanted'.contains d = true := Bool.or_eq_true_iff
  simp only [Suits, hcontains, and_or_left, exists_or]

end Attribute

namespace Attributes

/-- The value of the last attribute that suits. -/
def latest? (as : Attributes) (wanted : Destinations) (c : Attribute.Class) (key : String) :
    Option Attribute.Value :=
  (as.entries.reverse.find? fun a => a.Suits wanted c key).map (·.value)

variable {wanted : Destinations} {c : Attribute.Class} {key : String}

theorem latest?_extend (as bs : Attributes) : (as.extend bs).latest? wanted c key =
    (bs.latest? wanted c key).or (as.latest? wanted c key) := by
  rw [latest?, extend, List.reverse_append, List.find?_append, Option.map_or]
  rfl

theorem latest?_add (as : Attributes) (a : Attribute) : (as.add a).latest? wanted c key =
    if a.Suits wanted c key then some a.value else as.latest? wanted c key := by
  rw [latest?, add, List.reverse_append, List.reverse_singleton, List.singleton_append,
    List.find?_cons]
  by_cases h : a.Suits wanted c key
  · rw [if_pos h, decide_eq_true h]
    rfl
  · rw [if_neg h, decide_eq_false h]
    rfl

theorem routed_add (as : Attributes) (a : Attribute) : (as.add a).routed wanted =
    if a.destinations.meets wanted then (as.routed wanted).insert a else as.routed wanted := by
  rw [routed, add, List.filter_append, List.foldl_append]
  split_ifs with h
  · rw [List.filter_singleton, h]
    rfl
  · rw [List.filter_singleton, Bool.eq_false_iff.mpr h]
    rfl

theorem get?_routed (as : Attributes) (wanted : Destinations) (c : Attribute.Class) (key : String) :
    ((as.routed wanted).part c).get? key = as.latest? wanted c key := by
  obtain ⟨entries⟩ := as
  induction entries using List.reverseRecOn with
  | nil => exact congrArg (·.get? key) (AttributeSet.part_empty c)
  | append_singleton earlier a ih =>
    show ((((⟨earlier⟩ : Attributes).add a).routed wanted).part c).get? key =
      ((⟨earlier⟩ : Attributes).add a).latest? wanted c key
    rw [routed_add, latest?_add, ← ih]
    by_cases hmeets : a.destinations.meets wanted
    · rw [if_pos hmeets, AttributeSet.part_insert]
      by_cases hclass : a.classified = c
      · rw [if_pos hclass, Dict.get?_insert]
        simp only [Attribute.suits_iff, hclass, hmeets, eq_comm, and_true, true_and]
      · have hnot : ¬ a.Suits wanted c key := fun h => hclass h.1
        rw [if_neg hclass, if_neg hnot]
    · have hnot : ¬ a.Suits wanted c key := fun h => hmeets (Attribute.suits_iff.mp h).2.2
      rw [if_neg hmeets, if_neg hnot]

theorem latest?_eq_some_iff {as : Attributes} {v : Attribute.Value} :
    as.latest? wanted c key = some v ↔ ∃ before a after, as.entries = before ++ a :: after ∧
      a.Suits wanted c key ∧ a.value = v ∧ ∀ b ∈ after, ¬ b.Suits wanted c key := by
  simp only [latest?, Option.map_eq_some_iff, List.find?_eq_some_iff_append, decide_eq_true_eq,
    Bool.not_eq_true', decide_eq_false_iff_not]
  constructor
  · rintro ⟨a, ⟨hsuits, after, before, hreverse, hafter⟩, hv⟩
    refine ⟨before.reverse, a, after.reverse, ?_, hsuits, hv, ?_⟩
    · rw [← List.reverse_inj, hreverse]
      simp
    · simpa using hafter
  · rintro ⟨before, a, after, hentries, hsuits, hv, hafter⟩
    refine ⟨a, ⟨hsuits, after.reverse, before.reverse, ?_, ?_⟩, hv⟩
    · rw [hentries]
      simp
    · simpa using hafter

theorem latest?_eq_none_iff {as : Attributes} :
    as.latest? wanted c key = none ↔ ∀ a ∈ as.entries, ¬ a.Suits wanted c key := by
  simp [latest?]

theorem mem_keys_routed {as : Attributes} :
    key ∈ ((as.routed wanted).part c).keys ↔ ∃ a ∈ as.entries, a.Suits wanted c key := by
  rw [← not_iff_not, ← Dict.get?_eq_none_iff, get?_routed, latest?_eq_none_iff]
  simp only [not_exists, not_and]

/-- The last that suits either of two sets of destinations is the last that suits one of them. -/
theorem latest?_union (as : Attributes) (wanted wanted' : Destinations) (c : Attribute.Class)
    (key : String) :
    as.latest? (wanted.union wanted') c key = as.latest? wanted c key ∨
      as.latest? (wanted.union wanted') c key = as.latest? wanted' c key := by
  cases hlatest : as.latest? (wanted.union wanted') c key with
  | none =>
    have hnone (a : Attribute) (ha : a ∈ as.entries) : ¬ a.Suits wanted c key := fun hsuits =>
      latest?_eq_none_iff.mp hlatest a ha ((Attribute.suits_union wanted').mpr (Or.inl hsuits))
    exact Or.inl (latest?_eq_none_iff.mpr hnone).symm
  | some v =>
    obtain ⟨before, a, after, hentries, hsuits, hv, hafter⟩ := latest?_eq_some_iff.mp hlatest
    simp only [Attribute.suits_union, not_or] at hsuits hafter
    refine hsuits.imp (fun h => ?_) fun h => ?_
    · exact (latest?_eq_some_iff.mpr
        ⟨before, a, after, hentries, h, hv, fun b hb => (hafter b hb).1⟩).symm
    · exact (latest?_eq_some_iff.mpr
        ⟨before, a, after, hentries, h, hv, fun b hb => (hafter b hb).2⟩).symm

/-- How attributes are put together. -/
inductive Making
  | empty
  | add (m : Making) (a : Attribute)
  | extend (m n : Making)

namespace Making

def result : Making → Attributes
  | empty => .empty
  | add m a => m.result.add a
  | extend m n => m.result.extend n.result

/-- All that was added, the latest last. What an extension brings is added when it is brought. -/
def added : Making → List Attribute
  | empty => []
  | add m a => m.added ++ [a]
  | extend m n => m.added ++ n.added

theorem entries_result (m : Making) : m.result.entries = m.added := by
  induction m with
  | empty => rfl
  | add m a ih => rw [result, Attributes.add, added, ih]
  | extend m n ihm ihn => rw [result, Attributes.extend, added, ihm, ihn]

end Making

/-- A selection has the latest of the attributes that suit, extensions go over what was there before,
and two masks together select what one of them does. -/
theorem selections_show_latest (m : Making) :
    (∀ wanted c key,
      (key ∈ ((m.result.routed wanted).part c).keys ↔ ∃ a ∈ m.added, a.Suits wanted c key) ∧
      ∀ v, ((m.result.routed wanted).part c).get? key = some v ↔
        ∃ before a after, m.added = before ++ a :: after ∧ a.Suits wanted c key ∧ a.value = v ∧
          ∀ b ∈ after, ¬ b.Suits wanted c key) ∧
    (∀ (n : Making) wanted c key, (((m.extend n).result.routed wanted).part c).get? key =
      (((n.result.routed wanted).part c).get? key).or
        (((m.result.routed wanted).part c).get? key)) ∧
    ∀ (i j : Nat) c key,
      let both := (m.result.routed (.ofMask (i ||| j))).part c
      let one := (m.result.routed (.ofMask i)).part c
      let other := (m.result.routed (.ofMask j)).part c
      (key ∈ both.keys ↔ key ∈ one.keys ∨ key ∈ other.keys) ∧
        (both.get? key = one.get? key ∨ both.get? key = other.get? key) := by
  refine ⟨fun wanted c key => ⟨?_, fun v => ?_⟩, fun n wanted c key => ?_,
    fun i j c key => ⟨?_, ?_⟩⟩
  · rw [mem_keys_routed, m.entries_result]
  · rw [get?_routed, latest?_eq_some_iff, m.entries_result]
  · rw [get?_routed, get?_routed, get?_routed]
    exact latest?_extend m.result n.result
  · rw [mem_keys_routed, mem_keys_routed, mem_keys_routed, Destinations.ofMask_or]
    simp only [Attribute.suits_union, and_or_left, exists_or]
  · rw [get?_routed, get?_routed, get?_routed, Destinations.ofMask_or]
    exact m.result.latest?_union _ _ c key

end Attributes

end Telemetry
