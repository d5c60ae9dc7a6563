import Telemetry.Metric.Table
import Telemetry.Proofs.Entries

/-!
# Metric tables by look-up

What a table has under a name is the merge, in order, of all that came in under that name, and what
two tables have under a name is merged when one is merged into the other.
-/
namespace Telemetry.Metric

namespace Data

/-- Merges data one after the other into what is there. -/
def mergeAll (found : Option Data) (ds : List Data) : Option Data :=
  ds.foldl (fun found d => found.merge merge (some d)) found

/-- What merging keeps holds of what is there after a merge. -/
theorem merge_induction {p : Data → Prop} (hmerge : ∀ a b, p a → p b → p (a.merge b))
    {found new : Option Data} (hfound : ∀ d ∈ found, p d) (hnew : ∀ d ∈ new, p d) :
    ∀ d ∈ found.merge merge new, p d := by
  cases found with
  | none => rwa [Option.merge_none_left]
  | some a =>
    cases new with
    | none => rwa [Option.merge_none_right]
    | some b =>
      intro d hd
      obtain rfl := Option.some.inj hd
      exact hmerge a b (hfound a rfl) (hnew b rfl)

/-- What merging keeps holds of the merge of all data of which it holds. -/
theorem mergeAll_induction {p : Data → Prop} (hmerge : ∀ a b, p a → p b → p (a.merge b))
    {ds : List Data} (hds : ∀ d ∈ ds, p d) {found : Option Data} (hfound : ∀ d ∈ found, p d) :
    ∀ d ∈ mergeAll found ds, p d := by
  induction ds generalizing found with
  | nil => exact hfound
  | cons e rest ih =>
    rw [List.forall_mem_cons] at hds
    exact ih hds.2 (merge_induction hmerge hfound (by simpa using hds.1))

theorem isSome_mergeAll {found : Option Data} (h : found.isSome) (ds : List Data) :
    (mergeAll found ds).isSome := by
  induction ds generalizing found with
  | nil => exact h
  | cons e rest ih =>
    obtain ⟨d, rfl⟩ := Option.isSome_iff_exists.1 h
    exact ih rfl

theorem count_merge {a b : Data} (h : a.sameKind b = true) :
    (a.merge b).count = a.count + b.count := by
  cases a <;> cases b
  · exact Timing.count_merge _ _
  · cases h
  · cases h
  · exact Apdex.total_merge _ _

end Data

namespace Table

variable (t u : Table) (x : String)

theorem get?_add_eq_merge (name : String) (d : Data) :
    (t.add name d).get? x =
      if name = x then (t.get? x).merge Data.merge (some d) else t.get? x := by
  rw [get?_add]
  by_cases h : name = x
  · subst h
    rw [if_pos rfl, if_pos rfl]
    cases t.get? name <;> rfl
  · rw [if_neg (Ne.symm h), if_neg h]

theorem get?_addAll (es : List (String × Data)) :
    (t.addAll es).get? x =
      Data.mergeAll (t.get? x) ((es.filter (·.1 = x)).map Prod.snd) := by
  induction es generalizing t with
  | nil => rfl
  | cons e rest ih =>
    have hstep : (t.addAll (e :: rest)).get? x = ((t.add e.1 e.2).addAll rest).get? x := rfl
    rw [hstep, ih, get?_add_eq_merge]
    by_cases he : e.1 = x
    · rw [if_pos he, List.filter_cons_of_pos (by simpa using he)]
      rfl
    · rw [if_neg he, List.filter_cons_of_neg (by simpa using he)]

theorem get?_ofList (es : List (String × Data)) :
    (ofList es).get? x = Data.mergeAll none ((es.filter (·.1 = x)).map Prod.snd) :=
  get?_addAll empty x es

theorem mem_keys_addAll {es : List (String × Data)} :
    x ∈ (t.addAll es).keys ↔ x ∈ t.keys ∨ x ∈ es.map Prod.fst := by
  induction es generalizing t with
  | nil => simp [addAll]
  | cons e rest ih =>
    have hstep : (t.addAll (e :: rest)).keys = ((t.add e.1 e.2).addAll rest).keys := rfl
    rw [hstep, ih, add, Dict.alter, Dict.mem_keys_insert, List.map_cons, List.mem_cons, or_assoc,
      or_left_comm]

theorem mem_keys_ofList {es : List (String × Data)} :
    x ∈ (ofList es).keys ↔ x ∈ es.map Prod.fst := by
  rw [ofList, mem_keys_addAll]
  simp [empty, Dict.empty, Dict.keys]

theorem filter_eq_find {es : List (String × Data)} (hnodup : (es.map Prod.fst).Nodup) :
    (es.filter (·.1 = x)).map Prod.snd = (Dict.find x es).toList := by
  induction es with
  | nil => rfl
  | cons e rest ih =>
    obtain ⟨name, d⟩ := e
    rw [List.map_cons, List.nodup_cons] at hnodup
    by_cases hname : name = x
    · subst hname
      have hrest : Dict.find name rest = none := Dict.find_eq_none_iff.2 hnodup.1
      rw [List.filter_cons_of_pos (by simp), List.map_cons, ih hnodup.2, hrest, Dict.find, if_pos rfl]
      rfl
    · rw [List.filter_cons_of_neg (by simpa using hname), ih hnodup.2, Dict.find, if_neg hname]

/-- The names of a table are distinct, so each of its statistics is merged in once. -/
theorem get?_addTable :
    (t.addTable u).get? x = (t.get? x).merge Data.merge (u.get? x) := by
  rw [addTable, get?_addAll, filter_eq_find x u.nodup]
  show Data.mergeAll (t.get? x) (u.get? x).toList = _
  cases u.get? x with
  | none => cases t.get? x <;> rfl
  | some d => rfl

end Table

end Telemetry.Metric
