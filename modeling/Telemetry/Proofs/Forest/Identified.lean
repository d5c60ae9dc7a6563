import Telemetry.Proofs.Counting
import Telemetry.Proofs.FirstEntries
import Telemetry.Proofs.Forest.Kept

/-!
# Spans with different identifiers

Where no two spans share an identifier, the links can be read without positions: a span keeps another
one if it lists that one and is named by it. What the positions tell of parents, kept children and stray
entries is the same.
-/
namespace Telemetry

namespace Span

variable (spans : List Span)

/-- The parent is the span itself or none of the spans. -/
def UnfitParent (s : Span) : Prop := ∃ p ∈ s.parent, p = s.id ∨ p ∉ spans.map Span.id

instance : DecidablePred (UnfitParent spans) := fun s =>
  inferInstanceAs (Decidable (∃ p ∈ s.parent, p = s.id ∨ p ∉ spans.map Span.id))

def Parentless (s : Span) : Prop := s.parent = none ∨ s.UnfitParent spans

instance : DecidablePred (Parentless spans) := fun s =>
  inferInstanceAs (Decidable (s.parent = none ∨ s.UnfitParent spans))

/-- A span keeps another one as its child if it lists that one and is named by it. -/
def Keeps (p c : Span) : Prop := c.id ≠ p.id ∧ c.id ∈ p.children ∧ c.parent = some p.id

instance (p c : Span) : Decidable (p.Keeps c) :=
  inferInstanceAs (Decidable (c.id ≠ p.id ∧ c.id ∈ p.children ∧ c.parent = some p.id))

def KeptEntry (p : Span) (entry : Nat) : Prop := ∃ c ∈ spans, c.id = entry ∧ p.Keeps c

instance (p : Span) : DecidablePred (KeptEntry spans p) := fun entry =>
  inferInstanceAs (Decidable (∃ c ∈ spans, c.id = entry ∧ p.Keeps c))

/-- The entries in the list of a span that are not the first one for a child that is kept. -/
def strayEntries (p : Span) : Nat :=
  p.children.zipIdx.countP fun e => ¬ (p.KeptEntry spans e.1 ∧ p.children.idxOf e.1 = e.2)

end Span

namespace Forest

variable {spans : List Span} {i j c : Fin spans.length}

/-- The kept children stand in the order of their first entries. -/
theorem pairwise_kept : (kept spans i).Pairwise fun c d =>
    (spans.get i).children.idxOf (spans.get c).id <
      (spans.get i).children.idxOf (spans.get d).id := by
  have hids := pairwise_eraseDups_filter (fun e => (child? spans i e).isSome) (spans.get i).children
  rw [← ids_kept, List.pairwise_map] at hids
  exact hids

variable (hid : (spans.map Span.id).Nodup)
include hid

theorem eq_of_id_get (h : (spans.get i).id = (spans.get j).id) : i = j := by
  have hspans : spans.Nodup := hid.of_map Span.id
  apply List.nodup_iff_injective_get.mp hspans
  exact List.inj_on_of_nodup_map hid (List.get_mem ..) (List.get_mem ..) h

theorem position?_iff {id : Nat} : position? spans id = some i ↔ (spans.get i).id = id :=
  position?_eq_some_iff fun _ _ h => eq_of_id_get hid h

theorem position?_eq_none_iff {id : Nat} : position? spans id = none ↔ id ∉ spans.map Span.id := by
  constructor
  · intro hnone hmem
    obtain ⟨s, hs, rfl⟩ := List.mem_map.mp hmem
    obtain ⟨i, rfl⟩ := List.get_of_mem hs
    rw [(position?_iff hid).mpr rfl] at hnone
    cases hnone
  · intro hmem
    cases hposition : position? spans id with
    | none => rfl
    | some i =>
      apply absurd _ hmem
      rw [← (position?_iff hid).mp hposition]
      exact List.mem_map_of_mem (List.get_mem ..)

theorem parent?_iff :
    parent? spans i = some j ↔ (spans.get i).parent = some (spans.get j).id ∧ i ≠ j := by
  unfold parent?
  cases hparent : (spans.get i).parent with
  | none => simp
  | some p =>
    by_cases hself : p = (spans.get i).id
    · simp only [hself, if_pos, Option.some.injEq]
      constructor
      · intro h
        cases h
      · rintro ⟨hij, hne⟩
        exact absurd (eq_of_id_get hid hij) hne
    · simp only [if_neg hself, position?_iff hid, Option.some.injEq]
      constructor
      · rintro rfl
        refine ⟨rfl, ?_⟩
        rintro rfl
        exact hself rfl
      · rintro ⟨rfl, _⟩
        rfl

theorem parent?_eq_none_iff : parent? spans i = none ↔ (spans.get i).Parentless spans := by
  unfold parent? Span.Parentless Span.UnfitParent
  cases hparent : (spans.get i).parent with
  | none => simp
  | some p =>
    by_cases hself : p = (spans.get i).id
    · simp [hself]
    · simp only [if_neg hself, position?_eq_none_iff hid]
      constructor
      · intro hunknown
        exact Or.inr ⟨p, rfl, Or.inr hunknown⟩
      · rintro (hnone | ⟨q, hq, hown | hunknown⟩)
        · cases hnone
        · obtain rfl := Option.some.inj hq
          exact absurd hown hself
        · obtain rfl := Option.some.inj hq
          exact hunknown

theorem hasStrayParent_iff : hasStrayParent spans i = true ↔ (spans.get i).UnfitParent spans := by
  have hunset : (spans.get i).UnfitParent spans → (spans.get i).parent.isSome = true := by
    rintro ⟨p, hp, _⟩
    rw [Option.mem_def.mp hp]
    rfl
  unfold hasStrayParent
  rw [Bool.and_eq_true, Option.isNone_iff_eq_none, parent?_eq_none_iff hid, Span.Parentless]
  constructor
  · rintro ⟨hsome, hnone | hunfit⟩
    · rw [hnone] at hsome
      cases hsome
    · exact hunfit
  · intro hunfit
    exact ⟨hunset hunfit, Or.inr hunfit⟩

theorem mem_kept_iff : c ∈ kept spans i ↔ (spans.get i).Keeps (spans.get c) := by
  rw [mem_kept, parent?_iff hid]
  constructor
  · rintro ⟨⟨e, he, hposition⟩, hparent, hne⟩
    refine ⟨fun h => hne (eq_of_id_get hid h), ?_, hparent⟩
    rwa [(position?_iff hid).mp hposition]
  · rintro ⟨hne, hlisted, hparent⟩
    refine ⟨⟨_, hlisted, (position?_iff hid).mpr rfl⟩, hparent, ?_⟩
    rintro rfl
    exact hne rfl

theorem isSome_child?_iff {entry : Nat} (hentry : entry ∈ (spans.get i).children) :
    (child? spans i entry).isSome = true ↔ (spans.get i).KeptEntry spans entry := by
  rw [Option.isSome_iff_exists]
  constructor
  · rintro ⟨c, hc⟩
    obtain ⟨hposition, hparent⟩ := child?_eq_some_iff.mp hc
    refine ⟨spans.get c, List.get_mem .., (position?_iff hid).mp hposition, ?_⟩
    exact (mem_kept_iff hid).mp (mem_kept.mpr ⟨⟨entry, hentry, hposition⟩, hparent⟩)
  · rintro ⟨s, hs, rfl, hkeeps⟩
    obtain ⟨c, rfl⟩ := List.get_of_mem hs
    refine ⟨c, child?_eq_some_iff.mpr ⟨(position?_iff hid).mpr rfl, ?_⟩⟩
    exact parent_of_mem_kept ((mem_kept_iff hid).mpr hkeeps)

/-- All entries but the first for each kept child are stray. -/
theorem stray_eq : (sift spans i).2 = (spans.get i).strayEntries spans := by
  have hkept : (kept spans i).length = (spans.get i).children.zipIdx.countP
      fun e => (spans.get i).KeptEntry spans e.1 ∧ (spans.get i).children.idxOf e.1 = e.2 := by
    have hlength : (kept spans i).length =
        ((kept spans i).map fun d => (spans.get d).id).length := (List.length_map _).symm
    rw [hlength, ids_kept, ← countP_first_entries]
    apply List.countP_congr
    rintro ⟨e, n⟩ hmem
    have he : e ∈ (spans.get i).children :=
      List.mem_of_getElem? (List.mem_zipIdx_iff_getElem?.mp hmem)
    simp only [Bool.and_eq_true, beq_iff_eq, decide_eq_true_eq, isSome_child?_iff hid he]
  have hsplit := List.length_eq_countP_add_countP
    (fun e : Nat × Nat => decide ((spans.get i).KeptEntry spans e.1 ∧
      (spans.get i).children.idxOf e.1 = e.2)) (l := (spans.get i).children.zipIdx)
  have hentries := length_kept_add_stray (i := i)
  rw [List.length_zipIdx] at hsplit
  simp only [decide_eq_true_eq] at hsplit
  unfold Span.strayEntries
  omega

theorem strayCount_eq : strayCount spans =
    spans.countP (·.UnfitParent spans) + (spans.map (Span.strayEntries spans)).sum := by
  have hparents : (List.finRange spans.length).countP (hasStrayParent spans) =
      spans.countP (·.UnfitParent spans) := by
    rw [countP_eq_countP_get spans]
    apply List.countP_congr
    intro i _
    rw [hasStrayParent_iff hid, decide_eq_true_eq]
  have hentries : (List.finRange spans.length).map (fun i => (sift spans i).2) =
      spans.map (Span.strayEntries spans) := by
    rw [map_eq_map_get spans]
    exact List.map_congr_left fun i _ => stray_eq hid
  rw [strayCount, hparents, hentries]
  rfl

end Forest

end Telemetry
