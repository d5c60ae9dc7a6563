import Telemetry.Proofs.Transaction.Forest
import Telemetry.Proofs.Transaction.Runs

/-!
# The order of children

A registration that changes the parent link of the child is logged. The last entry for a child tells
its parent, and the entries under a parent are what that parent lists. A node has the children that stay
with it in the order of the first entry for each, which is the order of the last entries unless one of
them left for another parent and came back.
-/
namespace Telemetry.Transaction

open Forest

/-- The parent and the child of a registration that changes the parent link of the child. -/
def relinked? (t : Transaction) : Operation → Option (Nat × Nat)
  | .register parent child =>
    if parentOf (t.step (.register parent child)).1.spans child = parentOf t.spans child then none
    else some (parent, child)
  | _ => none

/-- The registrations of a run that change parent links, in order. -/
def registrations (t : Transaction) : List Operation → List (Nat × Nat)
  | [] => []
  | op :: ops => (t.relinked? op).toList ++ (t.step op).1.registrations ops

/-- The last entry for each child, in order. -/
def lastOfEach : List (Nat × Nat) → List (Nat × Nat)
  | [] => []
  | r :: rest => if r.2 ∈ rest.map Prod.snd then lastOfEach rest else r :: lastOfEach rest

/-- The children whose last registration is under the parent, in the order of these. -/
def inLastOrder (log : List (Nat × Nat)) (parent : Nat) : List Nat :=
  ((lastOfEach log).filter (·.1 = parent)).map Prod.snd

/-- The same children, once for each time that they were registered under the parent. -/
def arrivals (log : List (Nat × Nat)) (parent : Nat) : List Nat :=
  (log.filter fun r => r.1 = parent ∧ r ∈ lastOfEach log).map Prod.snd

/-! ### Last entries -/

theorem lastOfEach_append (log : List (Nat × Nat)) (r : Nat × Nat) :
    lastOfEach (log ++ [r]) = (lastOfEach log).filter (·.2 ≠ r.2) ++ [r] := by
  induction log with
  | nil => rfl
  | cons a rest ih =>
    rw [List.cons_append, lastOfEach, lastOfEach, ih]
    by_cases hrest : a.2 ∈ rest.map Prod.snd
    · rw [if_pos (by simp_all), if_pos hrest]
    · by_cases hlast : a.2 = r.2
      · rw [if_pos (by simp [hlast]), if_neg hrest, List.filter_cons_of_neg (by simpa using hlast)]
      · rw [if_neg (by simp_all), if_neg hrest, List.filter_cons_of_pos (by simpa using hlast),
          List.cons_append]

theorem mem_lastOfEach_append {log : List (Nat × Nat)} {parent child p c : Nat} :
    (p, c) ∈ lastOfEach (log ++ [(parent, child)]) ↔
      if child = c then parent = p else (p, c) ∈ lastOfEach log := by
  rw [lastOfEach_append, List.mem_append, List.mem_filter, List.mem_singleton, Prod.mk.injEq]
  split_ifs with hc
  · subst hc
    simp [eq_comm]
  · simp [Ne.symm hc]

theorem lastOfEach_sublist (log : List (Nat × Nat)) : (lastOfEach log).Sublist log := by
  induction log with
  | nil => exact .refl _
  | cons a rest ih =>
    rw [lastOfEach]
    split_ifs
    · exact ih.cons a
    · exact ih.cons_cons a

theorem inLastOrder_sublist (log : List (Nat × Nat)) (parent : Nat) :
    (inLastOrder log parent).Sublist (arrivals log parent) := by
  have hfilter : (lastOfEach log).filter (·.1 = parent) =
      (lastOfEach log).filter fun r => r.1 = parent ∧ r ∈ lastOfEach log :=
    List.filter_congr fun r hr => by simp [hr]
  rw [inLastOrder, hfilter]
  exact ((lastOfEach_sublist log).filter _).map _

theorem mem_inLastOrder {log : List (Nat × Nat)} {parent c : Nat} (hc : c ∈ arrivals log parent) :
    c ∈ inLastOrder log parent := by
  obtain ⟨r, hr, rfl⟩ := List.mem_map.mp hc
  obtain ⟨_, hr⟩ := List.mem_filter.mp hr
  obtain ⟨hparent, hlast⟩ := of_decide_eq_true hr
  exact List.mem_map_of_mem (List.mem_filter.mpr ⟨hlast, decide_eq_true hparent⟩)

/-- Where no child comes back, first and last entries are in the same order. -/
theorem inLastOrder_eq_arrivals {log : List (Nat × Nat)} {parent : Nat}
    (hnodup : (arrivals log parent).Nodup) : inLastOrder log parent = arrivals log parent := by
  have hsublist := inLastOrder_sublist log parent
  refine hsublist.eq_of_length (le_antisymm hsublist.length_le ?_)
  exact (hnodup.subperm fun c hc => mem_inLastOrder hc).length_le

/-! ### Logs -/

/-- The log tells the lists of children and the parent links. -/
structure Logged (spans : List Span) (log : List (Nat × Nat)) : Prop where
  children : ∀ (p : Nat) (q : Span), spans[p]? = some q →
    q.children = (log.filter (·.1 = p)).map Prod.snd
  parents : ∀ p c, parentOf spans c = some p ↔ (p, c) ∈ lastOfEach log
  known : ∀ r ∈ log, r.1 < spans.length

variable {spans : List Span} {log : List (Nat × Nat)}

theorem logged_nil : Logged [] [] where
  children _ _ h := nomatch h
  parents _ _ := ⟨fun h => (nomatch h), fun h => (nomatch h)⟩
  known _ h := nomatch h

theorem parentOf_created {new : Span} (hnew : new.parent = none) (c : Nat) :
    parentOf (spans ++ [new]) c = parentOf spans c := by
  rw [parentOf, parentOf, List.getElem?_append]
  split_ifs with hc
  · rfl
  · rw [List.getElem?_eq_none (Nat.not_lt.mp hc), List.getElem?_singleton]
    split_ifs
    · exact hnew
    · rfl

theorem parentOf_touch {i : Nat} {f : Span → Span} (hf : ∀ s, Alike s (f s)) (c : Nat) :
    parentOf (spans.modify i f) c = parentOf spans c := by
  rw [parentOf, parentOf, List.getElem?_modify]
  cases spans[c]? with
  | none => rfl
  | some s =>
    show (if i = c then f s else s).parent = s.parent
    split_ifs
    · exact (hf s).parent
    · rfl

theorem parentOf_link {parent child : Nat} (hchild : child < spans.length) (c : Nat) :
    parentOf (link spans parent child) c =
      if child = c then some parent else parentOf spans c := by
  rw [parentOf, getElem?_link, Option.bind_map, parentOf]
  by_cases hc : child = c
  · subst hc
    rw [List.getElem?_eq_getElem hchild, if_pos rfl, Option.bind_some]
    exact if_pos rfl
  · rw [if_neg hc]
    exact Option.bind_congr fun s _ => if_neg hc

theorem Logged.create (h : Logged spans log) (name : String) (kind : SpanKind) (start : Duration) :
    Logged (spans ++ [.unfinished spans.length name kind start]) log where
  children p q hq := by
    rcases getElem?_created hq with hold | ⟨rfl, rfl⟩
    · exact h.children p q hold
    · have hnone : log.filter (·.1 = spans.length) = [] := by
        rw [List.filter_eq_nil_iff]
        intro r hr
        have hlt := h.known r hr
        simp only [decide_eq_true_eq]
        omega
      rw [hnone]
      rfl
  parents p c := by rw [parentOf_created rfl, h.parents]
  known r hr := by
    rw [List.length_append]
    exact Nat.lt_add_right _ (h.known r hr)

theorem Logged.touch (h : Logged spans log) (i : Nat) {f : Span → Span} (hf : ∀ s, Alike s (f s)) :
    Logged (spans.modify i f) log where
  children p q' hq' := by
    obtain ⟨q, hq, ha⟩ := alike_before_touch hf hq'
    rw [ha.children, h.children p q hq]
  parents p c := by rw [parentOf_touch hf, h.parents]
  known r hr := by
    rw [List.length_modify]
    exact h.known r hr

theorem Logged.link (h : Logged spans log) {parent child : Nat} (hparent : parent < spans.length)
    (hchild : child < spans.length) :
    Logged (link spans parent child) (log ++ [(parent, child)]) where
  children p q' hq' := by
    obtain ⟨q, hq, rfl⟩ := getElem?_before_link hq'
    rw [children_relink, h.children p q hq, List.filter_append, List.map_append]
    by_cases hp : parent = p <;> simp [hp]
  parents p c := by
    rw [parentOf_link hchild, mem_lastOfEach_append]
    split_ifs
    · exact Option.some_inj
    · exact h.parents p c
  known r hr := by
    rw [Transaction.link, List.length_modify, List.length_modify]
    rcases List.mem_append.mp hr with hold | hnew
    · exact h.known r hold
    · rw [List.mem_singleton.mp hnew]
      exact hparent

/-! ### Runs -/

variable {t : Transaction}

/-- A registration links the spans or leaves them as they are. -/
theorem step_register (hopen : t.completed = false) (parent child : Nat) :
    (t.step (.register parent child)).1.spans = t.spans ∨
    parent < t.spans.length ∧ child < t.spans.length ∧ parentOf t.spans child ≠ some parent ∧
      (t.step (.register parent child)).1.spans = link t.spans parent child := by
  rw [step_open hopen, stepOpen]
  cases hfault : registerFault t.spans parent child with
  | some e =>
    rw [register, hfault]
    exact Or.inl rfl
  | none =>
    obtain ⟨q, s, hq, hs, _, _⟩ := registerFault_eq_none hfault
    rw [register_eq hfault hs]
    split_ifs with hsame
    · exact Or.inl rfl
    · refine Or.inr ⟨(List.getElem?_eq_some_iff.mp hq).1, (List.getElem?_eq_some_iff.mp hs).1, ?_, rfl⟩
      rw [parentOf, hs]
      exact hsame

theorem Logged.register (h : Logged t.spans log) (hopen : t.completed = false)
    (parent child : Nat) : Logged (t.step (.register parent child)).1.spans
      (log ++ (t.relinked? (.register parent child)).toList) := by
  rw [relinked?]
  rcases step_register hopen parent child with hsame | ⟨hparent, hchild, hnew, hlink⟩
  · rw [hsame, if_pos rfl, Option.toList_none, List.append_nil]
    exact h
  · rw [hlink, parentOf_link hchild, if_pos rfl, if_neg (Ne.symm hnew)]
    exact h.link hparent hchild

theorem Logged.settle (h : Logged t.spans log) {r : Except SpanError Transaction}
    (hr : ∀ u, r = .ok u → Logged u.spans log) : Logged (t.settle r).1.spans log := by
  cases r with
  | ok u => exact hr u rfl
  | error e => exact h

theorem Logged.step (h : Logged t.spans log) {op : Operation}
    (hopen : (t.step op).1.completed = false) :
    Logged (t.step op).1.spans (log ++ (t.relinked? op).toList) := by
  have ht : t.completed = false := open_of_run [op] hopen
  have hnone {spans' : List Span} (h' : Logged spans' log) : Logged spans' (log ++ []) := by
    rwa [List.append_nil]
  cases op with
  | register parent child => exact h.register ht parent child
  | create name kind start =>
    rw [step_open ht]
    exact hnone (h.create name kind start)
  | finish span time =>
    rw [step_open ht]
    refine hnone (h.settle fun u hu => ?_)
    rw [finish_eq hu]
    exact h.touch span (alike_finish time)
  | tag span key a =>
    rw [step_open ht]
    refine hnone (h.settle fun u hu => ?_)
    rw [tag_eq hu]
    exact h.touch span (alike_tag key a)
  | note fact =>
    rw [step_open ht, stepOpen]
    cases t.facts.add? fact <;> exact hnone h
  | ignore =>
    rw [step_open ht]
    exact hnone h
  | complete duration =>
    rw [step_open ht] at hopen
    cases hopen

theorem Logged.run (h : Logged t.spans log) {ops : List Operation}
    (hopen : (t.run ops).1.completed = false) :
    Logged (t.run ops).1.spans (log ++ t.registrations ops) := by
  induction ops generalizing t log with
  | nil => rwa [registrations, List.append_nil]
  | cons op rest ih =>
    rw [registrations, ← List.append_assoc]
    exact ih (h.step (open_of_run rest hopen)) hopen

/-! ### Nodes -/

theorem Sound.child?_isSome {moved : Nat} (h : Sound spans moved) (i : Fin spans.length) (e : Nat) :
    (child? spans i e).isSome = true ↔ parentOf spans e = some (i : Nat) := by
  rw [Option.isSome_iff_exists]
  constructor
  · rintro ⟨c, hc⟩
    obtain ⟨hposition, hparent⟩ := child?_eq_some_iff.mp hc
    rw [← h.position?_iff.mp hposition, parentOf, getElem?_get]
    exact h.parent?_iff.mp hparent
  · intro he
    obtain ⟨s, hs, hp⟩ := Option.bind_eq_some_iff.mp he
    have hlt : e < spans.length := (List.getElem?_eq_some_iff.mp hs).1
    refine ⟨⟨e, hlt⟩, child?_eq_some_iff.mpr ⟨h.position?_iff.mpr rfl, h.parent?_iff.mpr ?_⟩⟩
    rwa [get_eq_of_getElem? (i := ⟨e, hlt⟩) hs]

theorem Logged.ids_children (h : Logged spans log) {moved : Nat} (hsound : Sound spans moved)
    {n : Tree Span} (hn : n ∈ (ofSpans spans).nodes) :
    n.children.map (·.label.id) = (arrivals log n.label.id).eraseDups := by
  obtain ⟨i, hlabel, hchildren⟩ := labels_of_mem_nodes hn
  have hids : n.children.map (·.label.id) = (kept spans i).map fun d => (spans.get d).id := by
    rw [hsound.kept_filter] at hchildren
    have hmap := congrArg (List.map Span.id) hchildren
    rwa [List.map_map, List.map_map] at hmap
  have hentries : ((spans.get i).children.filter fun e => (child? spans i e).isSome) =
      arrivals log i := by
    rw [h.children i _ (getElem?_get i), List.filter_map, List.filter_filter, arrivals]
    refine congrArg _ (List.filter_congr fun ⟨p, c⟩ _ => ?_)
    rw [Bool.eq_iff_iff]
    simp only [Function.comp_apply, Bool.and_eq_true, decide_eq_true_eq, hsound.child?_isSome,
      h.parents]
    constructor
    · rintro ⟨hlast, rfl⟩
      exact ⟨rfl, hlast⟩
    · rintro ⟨rfl, hlast⟩
      exact ⟨hlast, rfl⟩
  rw [hids, ids_kept, hentries, hlabel, hsound.id_get]

/-- The children of a node are in the order in which they were first registered under it. This is also
the order of the registrations that gave them their parent, as long as none of them comes back. -/
theorem children_in_order_of_registration (name : TransactionName) (guid : String) (now : Instant)
    (ops : List Operation) (duration : Duration) (t : Transaction) (s : Snapshot)
    (h : ((start name guid now).run ops).1.step (.complete duration) = (t, .completed s)) :
    let log := (start name guid now).registrations ops
    ∀ n ∈ (ofSpans s.spans).nodes,
      n.children.map (·.label.id) = (arrivals log n.label.id).eraseDups ∧
      ((arrivals log n.label.id).Nodup →
        n.children.map (·.label.id) = inLastOrder log n.label.id) := by
  obtain ⟨hopen, rfl⟩ := step_complete_eq h
  intro log n hn
  have hsound : Sound _ _ := Sound.run (t := start name guid now) sound_nil hopen
  have hlogged : Logged _ log := Logged.run (t := start name guid now) logged_nil hopen
  have hids := hlogged.ids_children hsound hn
  refine ⟨hids, fun hnodup => ?_⟩
  rw [hids, eraseDups_of_nodup hnodup, inLastOrder_eq_arrivals hnodup]

/-- A child moves below one of its siblings and stays there. -/
def movedAway : List Operation :=
  [.create "request" .method 0, .create "render" .method 0, .create "connect" .external 0,
    .create "query" .datastore 0, .finish 1 (.ofMillis 5), .finish 2 (.ofMillis 3),
    .finish 3 (.ofMillis 2), .register 0 3, .register 0 2, .register 1 3, .register 0 1]

theorem children_in_order_of_registration_movedAway :
    let t := ((start ⟨.web, "Uri", "users"⟩ "guid" .epoch).run movedAway).1
    let s := t.snapshot (.ofMillis 9)
    let log := (start ⟨.web, "Uri", "users"⟩ "guid" .epoch).registrations movedAway
    t.step (.complete (.ofMillis 9)) = (t.close, .completed s) ∧
    log = [(0, 3), (0, 2), (1, 3), (0, 1)] ∧ (arrivals log 0).Nodup ∧
    ∃ n ∈ (ofSpans s.spans).nodes, n.label.id = 0 ∧
      n.children.map (·.label.id) = inLastOrder log 0 ∧ inLastOrder log 0 = [2, 1] := by
  intro t s log
  have hnodup : (arrivals log 0).Nodup := by decide
  have hnode : ∃ n ∈ (ofSpans s.spans).nodes, n.label.id = 0 := by decide +kernel
  obtain ⟨n, hn, hid⟩ := hnode
  have hchildren := children_in_order_of_registration ⟨.web, "Uri", "users"⟩ "guid" .epoch
    movedAway (.ofMillis 9) _ s rfl n hn
  rw [hid] at hchildren
  exact ⟨rfl, rfl, hnodup, n, hn, hid, hchildren.2 hnodup, rfl⟩

/-- A child leaves its parent and comes back after another child has been registered there. -/
def overtaken : List Operation :=
  [.create "request" .method 0, .create "returning" .method 0, .create "sibling" .method 0,
    .finish 1 (.ofMillis 3), .finish 2 (.ofMillis 7), .register 0 1, .register 2 1, .register 0 2,
    .register 0 1]

/-- The child that came back keeps the place that it had before it left. -/
theorem not_inLastOrder_overtaken :
    let t := ((start ⟨.web, "Uri", "users"⟩ "guid" .epoch).run overtaken).1
    let s := t.snapshot (.ofMillis 9)
    let log := (start ⟨.web, "Uri", "users"⟩ "guid" .epoch).registrations overtaken
    t.step (.complete (.ofMillis 9)) = (t.close, .completed s) ∧
    inLastOrder log 0 = [2, 1] ∧
    ¬ ∀ n ∈ (ofSpans s.spans).nodes,
      n.children.map (·.label.id) = inLastOrder log n.label.id :=
  ⟨rfl, rfl, by decide +kernel⟩

end Telemetry.Transaction
