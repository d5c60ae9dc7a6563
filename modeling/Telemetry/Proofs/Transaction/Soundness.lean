import Telemetry.Proofs.Counting
import Telemetry.Proofs.Transaction.Change

/-!
# Sound transactions

Parent links, lists of children and the count of moved children are kept apart, but before
completion they always agree: links make no loop, each link has its entry in the list of the parent,
entries name ended spans that have a parent, and the surplus of entries over links is the count of
moves.
-/
namespace Telemetry.Transaction

open Relation

variable {spans spans' : List Span} {moved moved' : Nat}

/-- How many entries the lists of children have in all. -/
def entryCount (spans : List Span) : Nat := (spans.map (·.children.length)).sum

/-- How many spans have a parent. -/
def linkCount (spans : List Span) : Nat := spans.countP (·.parent.isSome)

structure Sound (spans : List Span) (moved : Nat) : Prop where
  ids : ∀ (i : Nat) (s : Span), spans[i]? = some s → s.id = i
  acyclic : Acyclic spans
  linked : ∀ (c : Nat) (s : Span) (p : Nat), spans[c]? = some s → s.parent = some p →
    s.ended = true ∧ ∃ q : Span, spans[p]? = some q ∧ c ∈ q.children
  listed : ∀ (p : Nat) (q : Span) (c : Nat), spans[p]? = some q → c ∈ q.children →
    ∃ s : Span, spans[c]? = some s ∧ s.ended = true ∧ s.parent.isSome = true
  counted : entryCount spans = linkCount spans + moved

theorem Sound.closed (h : Sound spans moved) : Closed spans := by
  intro c p hcp
  obtain ⟨s, hs, hp⟩ := hcp.exists_span
  obtain ⟨_, q, hq, _⟩ := h.linked c s p hs hp
  exact (List.getElem?_eq_some_iff.mp hq).1

theorem sound_nil : Sound [] 0 where
  ids _ _ h := nomatch h
  acyclic i h := by
    obtain ⟨_, hi, _⟩ := TransGen.head'_iff.mp h
    cases hi
  linked _ _ _ h := nomatch h
  listed _ _ _ h := nomatch h
  counted := rfl

/-! ### Every change keeps the links sound -/

theorem entryCount_modify {f : Span → Span} {i : Nat}
    (hf : ∀ s, (f s).children.length = s.children.length) :
    entryCount (spans.modify i f) = entryCount spans := by
  cases hi : spans[i]? with
  | none => rw [List.modify_eq_self (List.getElem?_eq_none_iff.mp hi)]
  | some s =>
    have htotal := sum_map_modify (·.children.length) f hi
    rw [hf s] at htotal
    exact Nat.add_right_cancel htotal

theorem linkCount_modify {f : Span → Span} {i : Nat}
    (hf : ∀ s, (f s).parent.isSome = s.parent.isSome) :
    linkCount (spans.modify i f) = linkCount spans := by
  cases hi : spans[i]? with
  | none => rw [List.modify_eq_self (List.getElem?_eq_none_iff.mp hi)]
  | some s =>
    have hcount := countP_modify (·.parent.isSome) f hi
    rw [hf s] at hcount
    exact Nat.add_right_cancel hcount

theorem Sound.create (h : Sound spans moved) (name : String) (kind : SpanKind) (start : Duration) :
    Sound (spans ++ [.unfinished spans.length name kind start]) moved := by
  refine ⟨?_, ?_, ?_, ?_, ?_⟩
  · intro i s hs
    rcases getElem?_created hs with hs | ⟨rfl, rfl⟩
    · exact h.ids i s hs
    · rfl
  · apply h.acyclic.of_under
    intro i p hip
    obtain ⟨s, hs, hp⟩ := hip.exists_span
    rcases getElem?_created hs with hs | ⟨rfl, rfl⟩
    · exact (under_of_getElem? hs).mpr hp
    · cases hp
  · intro c s p hs hp
    rcases getElem?_created hs with hs | ⟨rfl, rfl⟩
    · obtain ⟨hended, q, hq, hmem⟩ := h.linked c s p hs hp
      exact ⟨hended, q, getElem?_before_created _ hq, hmem⟩
    · cases hp
  · intro p q c hq hmem
    rcases getElem?_created hq with hq | ⟨rfl, rfl⟩
    · obtain ⟨s, hs, hended, hp⟩ := h.listed p q c hq hmem
      exact ⟨s, getElem?_before_created _ hs, hended, hp⟩
    · cases hmem
  · have hcounted := h.counted
    simp only [entryCount, linkCount, List.map_append, List.sum_append,
      List.countP_append] at hcounted ⊢
    rw [hcounted]
    rfl

theorem Sound.touch (h : Sound spans moved) (i : Nat) {f : Span → Span}
    (hf : ∀ s, Alike s (f s)) : Sound (spans.modify i f) moved := by
  refine ⟨?_, ?_, ?_, ?_, ?_⟩
  · intro j s' hs'
    obtain ⟨s, hs, ha⟩ := alike_before_touch hf hs'
    exact ha.id.trans (h.ids j s hs)
  · apply h.acyclic.of_under
    intro j p hjp
    obtain ⟨s', hs', hp⟩ := hjp.exists_span
    obtain ⟨s, hs, ha⟩ := alike_before_touch hf hs'
    exact (under_of_getElem? hs).mpr (ha.parent.symm.trans hp)
  · intro c s' p hs' hp
    obtain ⟨s, hs, ha⟩ := alike_before_touch hf hs'
    obtain ⟨hended, q, hq, hmem⟩ := h.linked c s p hs (ha.parent.symm.trans hp)
    obtain ⟨q', hq', hb⟩ := alike_after_touch hf hq
    exact ⟨ha.ended hended, q', hq', hb.children.symm ▸ hmem⟩
  · intro p q' c hq' hmem
    obtain ⟨q, hq, hb⟩ := alike_before_touch hf hq'
    obtain ⟨s, hs, hended, hp⟩ := h.listed p q c hq (hb.children ▸ hmem)
    obtain ⟨s', hs', ha⟩ := alike_after_touch hf hs
    exact ⟨s', hs', ha.ended hended, ha.parent.symm ▸ hp⟩
  · rw [entryCount_modify fun s => congrArg _ (hf s).children,
      linkCount_modify fun s => congrArg _ (hf s).parent, h.counted]

/-- A new link adds one entry. -/
theorem entryCount_link {parent child : Nat} {q : Span} (hq : spans[parent]? = some q) :
    entryCount (Transaction.link spans parent child) = entryCount spans + 1 := by
  have hq' : ∃ q', (spans.modify child (·.linkTo parent))[parent]? = some q' := by
    rw [List.getElem?_modify, hq]
    exact ⟨_, rfl⟩
  obtain ⟨q', hq'⟩ := hq'
  have hadd := sum_map_modify (·.children.length) (·.listChild child) hq'
  have hkeep : entryCount (spans.modify child (·.linkTo parent)) = entryCount spans :=
    entryCount_modify fun _ => rfl
  rw [Span.listChild, List.length_append, List.length_singleton] at hadd
  rw [Transaction.link, ← hkeep, entryCount, entryCount]
  omega

/-- A new link adds a child with a parent, unless the child had one already. -/
theorem linkCount_link {parent child : Nat} {s : Span} (hs : spans[child]? = some s) :
    linkCount (Transaction.link spans parent child) + s.parent.isSome.toNat =
      linkCount spans + 1 := by
  have hkeep : linkCount (Transaction.link spans parent child) =
      linkCount (spans.modify child (·.linkTo parent)) := linkCount_modify fun _ => rfl
  rw [hkeep]
  exact countP_modify (·.parent.isSome) (·.linkTo parent) hs

theorem Sound.link (h : Sound spans moved) {parent child : Nat} {q s : Span}
    (hq : spans[parent]? = some q) (hs : spans[child]? = some s) (hended : s.ended = true)
    (hcycle : closesCycle spans parent child = false) :
    Sound (link spans parent child) (moved + s.parent.isSome.toNat) := by
  refine ⟨?_, ?_, ?_, ?_, ?_⟩
  · intro i r' hr'
    obtain ⟨r, hr, rfl⟩ := getElem?_before_link hr'
    exact h.ids i r hr
  · exact h.acyclic.link h.closed (List.getElem?_eq_some_iff.mp hq).1 hcycle
  · intro c r' p hr' hp
    obtain ⟨r, hr, rfl⟩ := getElem?_before_link hr'
    rw [parent_relink] at hp
    split_ifs at hp with hc
    · -- The child itself: its parent is the new one, which lists it last.
      subst hc
      obtain rfl := Option.some.inj hp
      obtain rfl := Option.some.inj (hs.symm.trans hr)
      exact ⟨hended, _, getElem?_after_link _ _ hq, by simp [children_relink]⟩
    · obtain ⟨hrended, t, ht, hmem⟩ := h.linked c r p hr hp
      refine ⟨hrended, _, getElem?_after_link _ _ ht, ?_⟩
      rw [children_relink]
      split_ifs
      · exact List.mem_append_left _ hmem
      · exact hmem
  · intro p t' c ht' hmem
    obtain ⟨t, ht, rfl⟩ := getElem?_before_link ht'
    have hc : c ∈ t.children ∨ c = child := by
      rw [children_relink] at hmem
      split_ifs at hmem
      · simpa using hmem
      · exact Or.inl hmem
    rcases hc with hc | rfl
    · obtain ⟨r, hr, hrended, hrp⟩ := h.listed p t c ht hc
      refine ⟨_, getElem?_after_link _ _ hr, hrended, ?_⟩
      rw [parent_relink]
      split_ifs
      · rfl
      · exact hrp
    · exact ⟨_, getElem?_after_link _ _ hs, hended, by simp [parent_relink]⟩
  · have hcounted := h.counted
    have hentries : entryCount (Transaction.link spans parent child) = entryCount spans + 1 :=
      entryCount_link hq
    have hlinks : linkCount (Transaction.link spans parent child) + s.parent.isSome.toNat =
        linkCount spans + 1 := linkCount_link hs
    omega

theorem Sound.change (h : Sound spans moved) (hc : Change spans moved spans' moved') :
    Sound spans' moved' := by
  cases hc with
  | none => exact h
  | create name kind start => exact h.create name kind start
  | touch i f hf => exact h.touch i hf
  | link hq hs hended hcycle _ => exact h.link hq hs hended hcycle

/-! ### Runs -/

theorem completed_step {t : Transaction} (h : t.completed = true) (op : Operation) :
    (t.step op).1.completed = true := by
  rw [step, if_pos h]
  cases op <;> exact h

theorem completed_run {t : Transaction} (h : t.completed = true) (ops : List Operation) :
    (t.run ops).1.completed = true := by
  induction ops generalizing t with
  | nil => exact h
  | cons op rest ih => exact ih (completed_step h op)

theorem open_of_run {t : Transaction} (ops : List Operation)
    (hopen : (t.run ops).1.completed = false) : t.completed = false := by
  by_contra hdone
  rw [Bool.not_eq_false] at hdone
  exact Bool.false_ne_true (hopen.symm.trans (completed_run hdone ops))

theorem Sound.run {t : Transaction} (h : Sound t.spans t.moved) {ops : List Operation}
    (hopen : (t.run ops).1.completed = false) :
    Sound (t.run ops).1.spans (t.run ops).1.moved := by
  induction ops generalizing t with
  | nil => exact h
  | cons op rest ih =>
    have hstep : (t.step op).1.completed = false := open_of_run rest hopen
    exact ih (h.change (change_step hstep)) hopen

theorem register_refused_cycle_iff {t : Transaction} (hopen : t.completed = false)
    {parent child : Nat} {q s : Span} (hq : t.spans[parent]? = some q)
    (hs : t.spans[child]? = some s) (hended : s.ended = true) :
    (t.step (.register parent child)).2 = .refused (.cycle parent child) ↔
      closesCycle t.spans parent child = true := by
  rw [step, hopen, if_neg Bool.false_ne_true, stepOpen]
  cases hcycle : closesCycle t.spans parent child with
  | true =>
    have hfault : registerFault t.spans parent child = some (.cycle parent child) := by
      simp [registerFault, hq, hs, hended, hcycle]
    simp [register, hfault, settle]
  | false =>
    have hfault : registerFault t.spans parent child = none := by
      simp [registerFault, hq, hs, hended, hcycle]
    simp [register_eq hfault hs, settle]

/-- Before completion the links are sound, the search for a cycle ends after at most as many steps
as there are spans and looks at existing spans only, and exactly an ancestor or the parent itself
is refused as its child. -/
theorem sound_of_run_open (name : TransactionName) (guid : String) (now : Instant)
    (ops : List Operation) (hopen : ((start name guid now).run ops).1.completed = false) :
    let t := ((start name guid now).run ops).1
    Sound t.spans t.moved ∧
    (∀ parent < t.spans.length, ∀ child, ∃ n ≤ t.spans.length,
      Climbs t.spans child (some parent) n (closesCycle t.spans parent child)) ∧
    ∀ (parent child : Nat) (q s : Span), t.spans[parent]? = some q → t.spans[child]? = some s →
      s.ended = true →
      ((t.step (.register parent child)).2 = .refused (.cycle parent child) ↔
        ReflTransGen (Under t.spans) parent child) := by
  intro t
  have hsound : Sound t.spans t.moved := Sound.run sound_nil hopen
  refine ⟨hsound, ?_, ?_⟩
  · intro parent hp child
    exact climbs_closesCycle hsound.acyclic hsound.closed hp child
  · intro parent child q s hq hs hended
    have hp := (List.getElem?_eq_some_iff.mp hq).1
    rw [register_refused_cycle_iff hopen hq hs hended,
      closesCycle_iff hsound.acyclic hsound.closed hp]

/-- A child leaves its parent for another and comes back, and the other becomes its sibling. -/
def movedBack : List Operation :=
  [.create "request" .method 0, .create "render" .method 0, .create "query" .datastore 0,
    .finish 1 (.ofMillis 5), .finish 2 (.ofMillis 3), .register 0 2, .register 1 2, .register 0 2,
    .register 0 1]

theorem sound_of_movedBack :
    let t := ((start ⟨.web, "Uri", "users"⟩ "guid" .epoch).run movedBack).1
    t.completed = false ∧ t.moved = 2 ∧ Sound t.spans t.moved :=
  ⟨rfl, rfl, (sound_of_run_open ⟨.web, "Uri", "users"⟩ "guid" .epoch movedBack rfl).1⟩

end Telemetry.Transaction
