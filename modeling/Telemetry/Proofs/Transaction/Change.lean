import Telemetry.Proofs.Transaction.Ancestry

/-!
# What an operation does to the spans

Before completion an operation adds a span, touches one without changing its links, links a finished
child to a parent that is not below it, or leaves the spans as they were. Only a link that takes the
child from another parent is counted.
-/
namespace Telemetry.Transaction

variable {spans : List Span}

/-- What linking does to the span at position `i`. -/
def relink (parent child i : Nat) (s : Span) : Span :=
  { s with
    parent := if child = i then some parent else s.parent
    children := if parent = i then s.children ++ [child] else s.children }

theorem parent_relink (parent child i : Nat) (s : Span) :
    (relink parent child i s).parent = if child = i then some parent else s.parent := rfl

theorem children_relink (parent child i : Nat) (s : Span) : (relink parent child i s).children =
    if parent = i then s.children ++ [child] else s.children := rfl

theorem getElem?_link (spans : List Span) (parent child i : Nat) :
    (Transaction.link spans parent child)[i]? = spans[i]?.map (relink parent child i) := by
  rw [Transaction.link, List.getElem?_modify, List.getElem?_modify]
  cases spans[i]? with
  | none => rfl
  | some s =>
    rw [Option.map_eq_map, Option.map_eq_map, Option.map_some, Option.map_some, Option.map_some,
      relink]
    split_ifs <;> rfl

/-- The second span has the identifier and the links of the first and has ended if that has. -/
structure Alike (s s' : Span) : Prop where
  id : s'.id = s.id
  parent : s'.parent = s.parent
  children : s'.children = s.children
  ended : s.ended = true → s'.ended = true

/-! ### Spans before and after -/

theorem getElem?_created {i : Nat} {s new : Span} (hs : (spans ++ [new])[i]? = some s) :
    spans[i]? = some s ∨ i = spans.length ∧ s = new := by
  rw [List.getElem?_append] at hs
  split_ifs at hs with hi
  · exact Or.inl hs
  · rw [List.getElem?_singleton] at hs
    split_ifs at hs with hlast
    exact Or.inr ⟨by omega, (Option.some.inj hs).symm⟩

theorem getElem?_before_created {i : Nat} {s : Span} (new : Span) (hs : spans[i]? = some s) :
    (spans ++ [new])[i]? = some s := by
  rwa [List.getElem?_append_left (List.getElem?_eq_some_iff.mp hs).1]

theorem Alike.refl (s : Span) : Alike s s := ⟨rfl, rfl, rfl, fun h => h⟩

theorem alike_after_touch {i j : Nat} {f : Span → Span} {s : Span} (hf : ∀ s, Alike s (f s))
    (hs : spans[j]? = some s) : ∃ s', (spans.modify i f)[j]? = some s' ∧ Alike s s' := by
  rw [List.getElem?_modify, hs]
  refine ⟨_, rfl, ?_⟩
  split_ifs
  · exact hf s
  · exact .refl s

theorem alike_before_touch {i j : Nat} {f : Span → Span} {s' : Span} (hf : ∀ s, Alike s (f s))
    (hs' : (spans.modify i f)[j]? = some s') : ∃ s, spans[j]? = some s ∧ Alike s s' := by
  have hj := (List.getElem?_eq_some_iff.mp hs').1
  rw [List.length_modify] at hj
  have hs : spans[j]? = some spans[j] := List.getElem?_eq_getElem hj
  obtain ⟨s'', hs'', halike⟩ := alike_after_touch (i := i) hf hs
  obtain rfl := Option.some.inj (hs''.symm.trans hs')
  exact ⟨spans[j], hs, halike⟩

theorem getElem?_after_link (parent child : Nat) {i : Nat} {s : Span} (hs : spans[i]? = some s) :
    (Transaction.link spans parent child)[i]? = some (relink parent child i s) := by
  rw [getElem?_link, hs, Option.map_some]

theorem getElem?_before_link {parent child i : Nat} {s' : Span}
    (hs' : (Transaction.link spans parent child)[i]? = some s') :
    ∃ s, spans[i]? = some s ∧ relink parent child i s = s' := by
  rw [getElem?_link] at hs'
  exact Option.map_eq_some_iff.mp hs'

/-- A parent that is not below the child closes no loop. -/
theorem Acyclic.link (ha : Acyclic spans) (hc : Closed spans) {parent child : Nat}
    (hp : parent < spans.length) (hcycle : closesCycle spans parent child = false) :
    Acyclic (link spans parent child) := by
  have hn : ¬ Relation.ReflTransGen (Under spans) parent child := by
    rw [← closesCycle_iff ha hc hp, hcycle]
    exact Bool.false_ne_true
  apply ha.of_new_parent _ hn
  intro i p hip
  obtain ⟨s', hs', hp'⟩ := hip.exists_span
  obtain ⟨s, hs, rfl⟩ := getElem?_before_link hs'
  rw [parent_relink] at hp'
  split_ifs at hp' with hi
  · exact Or.inr ⟨hi.symm, (Option.some.inj hp').symm⟩
  · exact Or.inl ((under_of_getElem? hs).mpr hp')

/-! ### Changes -/

/-- What one operation can do to the spans and to the count of moves before completion. -/
inductive Change (spans : List Span) (moved : Nat) : List Span → Nat → Prop
  | none : Change spans moved spans moved
  | create (name : String) (kind : SpanKind) (start : Duration) :
    Change spans moved (spans ++ [.unfinished spans.length name kind start]) moved
  | touch (i : Nat) (f : Span → Span) (hf : ∀ s, Alike s (f s)) :
    Change spans moved (spans.modify i f) moved
  | link {parent child : Nat} {q s : Span} (hq : spans[parent]? = some q)
    (hs : spans[child]? = some s) (hended : s.ended = true)
    (hcycle : closesCycle spans parent child = false) (hnew : s.parent ≠ some parent) :
    Change spans moved (link spans parent child) (moved + s.parent.isSome.toNat)

theorem registerFault_eq_none {parent child : Nat} (h : registerFault spans parent child = .none) :
    ∃ q s, spans[parent]? = some q ∧ spans[child]? = some s ∧ s.ended = true ∧
      closesCycle spans parent child = false := by
  rw [registerFault] at h
  cases hq : spans[parent]? with
  | none => simp [hq] at h
  | some q =>
    cases hs : spans[child]? with
    | none => simp [hq, hs] at h
    | some s =>
      simp only [hq, hs, Option.isNone_some, Bool.false_eq_true, if_false] at h
      split_ifs at h with hended hcycle
      exact ⟨q, s, rfl, rfl, by simpa using hended, by simpa using hcycle⟩

/-- A registration without fault links the spans unless they are linked already. -/
theorem register_eq {t : Transaction} {parent child : Nat} {s : Span}
    (hfault : registerFault t.spans parent child = .none) (hs : t.spans[child]? = some s) :
    t.register parent child = .ok (if s.parent = some parent then t
      else { t with
        spans := link t.spans parent child
        moved := t.moved + s.parent.isSome.toNat }) := by
  simp only [register, hfault, parentOf, hs, Option.bind_some]
  cases hp : s.parent with
  | none => simp
  | some earlier =>
    simp only [Option.some.injEq]
    split_ifs <;> rfl

theorem change_register {t u : Transaction} {parent child : Nat}
    (h : t.register parent child = .ok u) : Change t.spans t.moved u.spans u.moved := by
  cases hfault : registerFault t.spans parent child with
  | some e =>
    rw [register, hfault] at h
    cases h
  | none =>
    obtain ⟨q, s, hq, hs, hended, hcycle⟩ := registerFault_eq_none hfault
    rw [register_eq hfault hs] at h
    obtain rfl := Except.ok.inj h
    split_ifs with hsame
    · exact .none
    · exact .link hq hs hended hcycle hsame

theorem finish_eq {t u : Transaction} {span : Nat} {time : Duration}
    (h : t.finish span time = .ok u) :
    u = { t with spans := t.spans.modify span (·.finish time) } := by
  rw [finish] at h
  cases hs : t.spans[span]? with
  | none =>
    rw [hs] at h
    cases h
  | some s =>
    rw [hs] at h
    dsimp only at h
    split_ifs at h with hended
    exact (Except.ok.inj h).symm

theorem tag_eq {t u : Transaction} {span : Nat} {key : String} {a : SpanAttribute}
    (h : t.tag span key a = .ok u) :
    u = { t with spans := t.spans.modify span (·.tag key a) } := by
  rw [tag] at h
  cases hs : t.spans[span]? with
  | none =>
    rw [hs] at h
    cases h
  | some s =>
    rw [hs] at h
    exact (Except.ok.inj h).symm

theorem alike_finish (time : Duration) (s : Span) : Alike s (s.finish time) :=
  ⟨rfl, rfl, rfl, fun _ => rfl⟩

theorem alike_tag (key : String) (a : SpanAttribute) (s : Span) : Alike s (s.tag key a) :=
  ⟨rfl, rfl, rfl, fun h => h⟩

theorem change_finish {t u : Transaction} {span : Nat} {time : Duration}
    (h : t.finish span time = .ok u) : Change t.spans t.moved u.spans u.moved := by
  rw [finish_eq h]
  exact .touch span _ (alike_finish time)

theorem change_tag {t u : Transaction} {span : Nat} {key : String} {a : SpanAttribute}
    (h : t.tag span key a = .ok u) : Change t.spans t.moved u.spans u.moved := by
  rw [tag_eq h]
  exact .touch span _ (alike_tag key a)

theorem change_settle {t : Transaction} {r : Except SpanError Transaction}
    (h : ∀ u, r = .ok u → Change t.spans t.moved u.spans u.moved) :
    Change t.spans t.moved (t.settle r).1.spans (t.settle r).1.moved := by
  cases r with
  | ok u => exact h u rfl
  | error e => exact .none

theorem change_step {t : Transaction} {op : Operation} (h : (t.step op).1.completed = false) :
    Change t.spans t.moved (t.step op).1.spans (t.step op).1.moved := by
  rw [step] at h ⊢
  split_ifs at h ⊢ with hdone
  · cases op <;> exact .none
  · cases op with
    | create name kind start => exact .create name kind start
    | finish span time => exact change_settle fun u hu => change_finish hu
    | register parent child => exact change_settle fun u hu => change_register hu
    | tag span key a => exact change_settle fun u hu => change_tag hu
    | note fact =>
      rw [stepOpen]
      cases t.facts.add? fact <;> exact .none
    | ignore => exact .none
    | complete duration => cases h

end Telemetry.Transaction
