import Telemetry.Dict
import Mathlib.Data.List.Nodup

/-!
# Keys of a `Dict`

What insertions do to keys and look-ups: a key that is inserted keeps its place or comes last, and of
entries with distinct keys that are inserted one after the other each is found afterwards.
-/
namespace Telemetry.Dict

variable {α β : Type} [DecidableEq α]

/-- All other keys stay around the one that is inserted, which may be new. -/
theorem keys_insert (d : Dict α β) (k : α) (v : β) :
    ∃ before after, k ∉ before ∧ k ∉ after ∧ (d.insert k v).keys = before ++ k :: after ∧
      (d.keys = before ++ k :: after ∨ d.get? k = none ∧ d.keys = before ++ after) := by
  obtain ⟨l, hnodup⟩ := d
  show ∃ before after, k ∉ before ∧ k ∉ after ∧ (put k v l).map Prod.fst = before ++ k :: after ∧
    (l.map Prod.fst = before ++ k :: after ∨ find k l = none ∧ l.map Prod.fst = before ++ after)
  induction l with
  | nil => exact ⟨[], [], by simp, by simp, rfl, Or.inr ⟨rfl, rfl⟩⟩
  | cons e rest ih =>
    obtain ⟨a, b⟩ := e
    rw [List.map_cons, List.nodup_cons] at hnodup
    by_cases ha : a = k
    · subst ha
      refine ⟨[], rest.map Prod.fst, by simp, hnodup.1, ?_, Or.inl rfl⟩
      rw [put, if_pos rfl]
      rfl
    · obtain ⟨before, after, hbefore, hafter, hput, hkeys⟩ := ih hnodup.2
      refine ⟨a :: before, after, by simp [Ne.symm ha, hbefore], hafter, ?_, ?_⟩
      · rw [put, if_neg ha, List.map_cons, hput]
        rfl
      · rw [find, if_neg ha, List.map_cons]
        rcases hkeys with hknown | ⟨hnone, hnew⟩
        · exact Or.inl (by rw [hknown]; rfl)
        · exact Or.inr ⟨hnone, by rw [hnew]; rfl⟩

theorem find_of_mem {l : List (α × β)} (hnodup : (l.map Prod.fst).Nodup) {k : α} {v : β}
    (hmem : (k, v) ∈ l) : find k l = some v := by
  induction l with
  | nil => cases hmem
  | cons e rest ih =>
    rw [List.map_cons, List.nodup_cons] at hnodup
    rcases List.mem_cons.1 hmem with rfl | hrest
    · rw [find, if_pos rfl]
    · have hne : e.1 ≠ k := fun h => hnodup.1 (h ▸ List.mem_map_of_mem hrest)
      rw [find, if_neg hne, ih hnodup.2 hrest]

theorem mem_of_find {l : List (α × β)} {k : α} {v : β} (h : find k l = some v) : (k, v) ∈ l := by
  induction l with
  | nil => cases h
  | cons e rest ih =>
    obtain ⟨a, b⟩ := e
    by_cases ha : a = k
    · rw [find, if_pos ha] at h
      rw [← ha, ← Option.some.inj h]
      exact List.mem_cons_self
    · rw [find, if_neg ha] at h
      exact List.mem_cons_of_mem _ (ih h)

variable (d : Dict α β)

theorem insertAll_cons (e : α × β) (es : List (α × β)) :
    d.insertAll (e :: es) = (d.insert e.1 e.2).insertAll es := rfl

theorem get?_insertAll_of_notMem {es : List (α × β)} {x : α} (hx : x ∉ es.map Prod.fst) :
    (d.insertAll es).get? x = d.get? x := by
  induction es generalizing d with
  | nil => rfl
  | cons e rest ih =>
    rw [List.map_cons, List.mem_cons, not_or] at hx
    rw [insertAll_cons, ih _ hx.2, get?_insert, if_neg hx.1]

theorem get?_insertAll_of_mem {es : List (α × β)} (hnodup : (es.map Prod.fst).Nodup) {k : α}
    {v : β} (hmem : (k, v) ∈ es) : (d.insertAll es).get? k = some v := by
  induction es generalizing d with
  | nil => cases hmem
  | cons e rest ih =>
    rw [List.map_cons, List.nodup_cons] at hnodup
    rw [insertAll_cons]
    rcases List.mem_cons.1 hmem with heq | hrest
    · subst heq
      rw [get?_insertAll_of_notMem _ hnodup.1, get?_insert, if_pos rfl]
    · exact ih _ hnodup.2 hrest

theorem put_of_notMem {k : α} {v : β} {l : List (α × β)} (h : k ∉ l.map Prod.fst) :
    put k v l = l ++ [(k, v)] := by
  induction l with
  | nil => rfl
  | cons e rest ih =>
    rw [List.map_cons, List.mem_cons, not_or] at h
    rw [put, if_neg (Ne.symm h.1), ih h.2]
    rfl

/-- New keys go to the end in their order. -/
theorem entries_insertAll {es : List (α × β)} (h : ((d.entries ++ es).map Prod.fst).Nodup) :
    (d.insertAll es).entries = d.entries ++ es := by
  induction es generalizing d with
  | nil => rw [List.append_nil]; rfl
  | cons e rest ih =>
    rw [List.map_append, List.map_cons] at h
    have hnew : e.1 ∉ d.entries.map Prod.fst := fun hmem =>
      (List.nodup_append.mp h).2.2 e.1 hmem e.1 List.mem_cons_self rfl
    have hinsert : (d.insert e.1 e.2).entries = d.entries ++ [e] := put_of_notMem hnew
    rw [insertAll_cons, ih, hinsert, List.append_assoc, List.singleton_append]
    rwa [hinsert, List.append_assoc, List.map_append]

theorem entries_ofList {es : List (α × β)} (h : (es.map Prod.fst).Nodup) :
    (ofList es : Dict α β).entries = es := entries_insertAll empty h

theorem eq_of_entries {κ ν : Type} {d d' : Dict κ ν} (h : d.entries = d'.entries) : d = d' := by
  cases d
  cases d'
  congr

theorem ofList_eq_iff {es : List (α × β)} (h : (es.map Prod.fst).Nodup) :
    ofList es = d ↔ es = d.entries := by
  constructor
  · rintro rfl
    exact (entries_ofList h).symm
  · intro hes
    exact eq_of_entries ((entries_ofList h).trans hes)

/-- Entries that are picked by their values, and changed, are found under the keys they had. -/
theorem get?_ofList_filter {γ : Type} (p : β → Bool) (f : β → γ) (k : α) :
    (ofList ((d.entries.filter fun e => p e.2).map fun e => (e.1, f e.2))).get? k =
      ((d.get? k).filter p).map f := by
  have hkeys : (((d.entries.filter fun e => p e.2).map fun e => (e.1, f e.2)).map
      Prod.fst).Nodup := by
    rw [List.map_map]
    exact d.nodup.sublist (List.filter_sublist.map _)
  have hmem (v : β) (hv : (k, v) ∈ d.entries) (hp : p v = true) :
      (k, f v) ∈ (d.entries.filter fun e => p e.2).map fun e => (e.1, f e.2) :=
    List.mem_map.mpr ⟨(k, v), List.mem_filter.mpr ⟨hv, hp⟩, rfl⟩
  by_cases hk : ∃ v, (k, v) ∈ d.entries ∧ p v = true
  · obtain ⟨v, hv, hp⟩ := hk
    have hget : d.get? k = some v := find_of_mem d.nodup hv
    rw [ofList, get?_insertAll_of_mem _ hkeys (hmem v hv hp), hget, Option.filter_some, if_pos hp,
      Option.map_some]
  · have hnot : k ∉ ((d.entries.filter fun e => p e.2).map fun e => (e.1, f e.2)).map
        Prod.fst := by
      intro hin
      simp only [List.map_map, List.mem_map, List.mem_filter] at hin
      obtain ⟨⟨a, v⟩, ⟨hv, hp⟩, rfl⟩ := hin
      exact hk ⟨v, hv, hp⟩
    rw [ofList, get?_insertAll_of_notMem _ hnot, get?_empty]
    cases hget : d.get? k with
    | none => rfl
    | some v =>
      have hp : ¬ p v = true := fun hp => hk ⟨v, mem_of_find hget, hp⟩
      rw [Option.filter_some, if_neg hp, Option.map_none]

end Telemetry.Dict
