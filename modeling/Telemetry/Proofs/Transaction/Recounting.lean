import Mathlib.Data.List.Induction
import Telemetry.Proofs.Transaction.Readings

/-!
# Snapshots recount the calls

Up to completion the spans of a transaction and its moves are what the log of the calls says. So the
snapshot can be read off the log, and the log also settles which registrations are accepted.
-/
namespace Telemetry.Transaction

open Relation

/-- The span is what the calls say about span `i`. -/
structure Recounted (ops : List Operation) (links : List (Nat × Nat)) (i : Nat) (s : Span) :
    Prop where
  id : s.id = i
  begun : (begun ops)[i]? = some (s.name, s.kind, s.start)
  duration : s.duration.map (fun d => (d.nanos : Int)) =
    (firstEnd i ops).map fun time => max 0 ((time.nanos : Int) - s.start.nanos)
  attributes : ∀ key, s.attributes.get? key = lastTag i key ops
  parent : s.parent = lastParent links i
  children : s.children =
    ((withEarlier [] links).filter fun e => e.1 ≠ some i ∧ e.2.1 = i).map (·.2.2)

/-- The registrations that take a child away from another parent. -/
def departures (links : List (Nat × Nat)) : Nat :=
  (withEarlier [] links).countP fun e => e.1.isSome && e.1 != some e.2.1

/-- The spans and the moves are what the calls say. -/
structure Recounts (ops : List Operation) (links : List (Nat × Nat)) (spans : List Span)
    (moved : Nat) : Prop where
  length : spans.length = (begun ops).length
  recounted : ∀ (i : Nat) (s : Span), spans[i]? = some s → Recounted ops links i s
  known : ∀ r ∈ links, r.1 < spans.length ∧ r.2 < spans.length
  moved : moved = departures links

variable {ops : List Operation} {op : Operation} {links : List (Nat × Nat)} {i : Nat} {s : Span}
  {links' : List (Nat × Nat)} {spans spans' : List Span} {moved moved' : Nat} {t : Transaction}

theorem recounts_nil : Recounts [] [] [] 0 where
  length := rfl
  recounted _ _ h := nomatch h
  known _ h := nomatch h
  moved := rfl

theorem Recounts.lt_length (h : Recounts ops links spans moved) (hs : spans[i]? = some s) :
    i < (Transaction.begun ops).length :=
  h.length ▸ (List.getElem?_eq_some_iff.mp hs).1

/-! ### One more call on a span -/

theorem Recounted.concat (h : Recounted ops links i s) (hi : i < (Transaction.begun ops).length)
    {duration : Option Duration} {attributes : Dict String SpanAttribute}
    (hduration : duration.map (fun d => (d.nanos : Int)) =
      ((firstEnd i ops).or (op.endOf? i)).map fun time =>
        max 0 ((time.nanos : Int) - s.start.nanos))
    (hattributes : ∀ key, attributes.get? key = (op.tagOf? i key).or (lastTag i key ops)) :
    Recounted (ops ++ [op]) links i { s with duration := duration, attributes := attributes } where
  id := h.id
  begun := by rw [begun_concat, List.getElem?_append_left hi, h.begun]
  duration := by rw [firstEnd_concat hi, hduration]
  attributes key := by rw [lastTag_concat hi, hattributes]
  parent := h.parent
  children := h.children

/-- A call that says nothing about the span. -/
theorem Recounted.quiet (h : Recounted ops links i s) (hi : i < (Transaction.begun ops).length)
    (hend : op.endOf? i = none) (htag : ∀ key, op.tagOf? i key = none) :
    Recounted (ops ++ [op]) links i s := by
  refine h.concat hi ?_ fun key => ?_
  · rw [hend, Option.or_none, h.duration]
  · rw [htag, Option.none_or, h.attributes]

theorem Recounted.ended_eq (h : Recounted ops links i s) : s.ended = (firstEnd i ops).isSome := by
  have hduration := congrArg Option.isSome h.duration
  rwa [Option.isSome_map, Option.isSome_map] at hduration

/-- The first end gives the duration. -/
theorem Recounted.finish (h : Recounted ops links i s) (hi : i < (Transaction.begun ops).length)
    (hopen : s.ended = false) (time : Duration) :
    Recounted (ops ++ [.finish i time]) links i (s.finish time) := by
  have hnever : firstEnd i ops = none := by
    rw [← Option.not_isSome_iff_eq_none, ← h.ended_eq, hopen]
    exact Bool.false_ne_true
  refine h.concat hi ?_ h.attributes
  rw [hnever, Option.none_or, Operation.endOf?, if_pos rfl, Option.map_some, Option.map_some,
    Duration.nanos_sub]
  congr 1
  omega

/-- A later one does not. -/
theorem Recounted.finish_again (h : Recounted ops links i s)
    (hi : i < (Transaction.begun ops).length) (hended : s.ended = true) (time : Duration) :
    Recounted (ops ++ [.finish i time]) links i s := by
  obtain ⟨first, hfirst⟩ := Option.isSome_iff_exists.mp (h.ended_eq ▸ hended)
  refine h.concat hi ?_ h.attributes
  rw [h.duration, hfirst, Option.some_or]

theorem Recounted.tag (h : Recounted ops links i s) (hi : i < (Transaction.begun ops).length)
    (key : String) (a : SpanAttribute) :
    Recounted (ops ++ [.tag i key a]) links i (s.tag key a) := by
  refine h.concat hi ?_ fun k => ?_
  · rw [h.duration]
    exact congrArg (Option.map _) (Option.or_none ..).symm
  · rw [Dict.get?_insert, h.attributes, Operation.tagOf?]
    by_cases hk : k = key
    · simp [hk]
    · simp [hk, Ne.symm hk]

/-- The present parent of a child may be registered again, which changes nothing. -/
theorem Recounted.link (h : Recounted ops links i s) (parent child : Nat) :
    Recounted ops (links ++ [(parent, child)]) i
      (if lastParent links child = some parent then s else relink parent child i s) := by
  split_ifs with hsame
  · refine ⟨h.id, h.begun, h.duration, h.attributes, ?_, ?_⟩
    · rw [lastParent_concat, h.parent]
      split_ifs with hi
      · rw [← hi, hsame]
      · rfl
    · rw [withEarlier_concat, List.nil_append, hsame, List.filter_append, h.children]
      simp
  · refine ⟨h.id, h.begun, h.duration, h.attributes, ?_, ?_⟩
    · rw [lastParent_concat, parent_relink, h.parent]
    · rw [withEarlier_concat, List.nil_append, List.filter_append, List.map_append, ← h.children,
        children_relink]
      by_cases hi : parent = i
      · subst hi
        simp [hsame]
      · simp [hi]

/-! ### One more call on all spans -/

/-- A call after which each span is what `g` makes of it. -/
theorem Recounts.map (h : Recounts ops links spans moved) (hbegun : op.begun? = none)
    {g : Nat → Span → Span} (hspans : ∀ i, spans'[i]? = spans[i]?.map (g i))
    (hg : ∀ i s, spans[i]? = some s → Recounted ops links i s →
      Recounted (ops ++ [op]) links' i (g i s))
    (hknown : ∀ r ∈ links', r.1 < spans.length ∧ r.2 < spans.length)
    (hmoved : moved' = departures links') : Recounts (ops ++ [op]) links' spans' moved' := by
  have hlength : spans'.length = spans.length := by
    have hnone : ∀ i, spans'.length ≤ i ↔ spans.length ≤ i := by
      intro i
      rw [← List.getElem?_eq_none_iff, hspans, Option.map_eq_none_iff, List.getElem?_eq_none_iff]
    exact le_antisymm ((hnone _).mpr le_rfl) ((hnone _).mp le_rfl)
  refine ⟨?_, ?_, ?_, hmoved⟩
  · rw [begun_concat, hbegun, Option.toList_none, List.append_nil, hlength, h.length]
  · intro i s' hs'
    rw [hspans] at hs'
    obtain ⟨s, hs, rfl⟩ := Option.map_eq_some_iff.mp hs'
    exact hg i s hs (h.recounted i s hs)
  · rw [hlength]
    exact hknown

theorem Recounts.quiet (h : Recounts ops links spans moved) (hbegun : op.begun? = none)
    (hend : ∀ i, op.endOf? i = none) (htag : ∀ i key, op.tagOf? i key = none) :
    Recounts (ops ++ [op]) links spans moved := by
  have hid : ∀ i : Nat, spans[i]? = spans[i]?.map id := fun _ => Option.map_id'.symm
  exact h.map hbegun hid (fun i s hs hr => hr.quiet (h.lt_length hs) (hend i) (htag i)) h.known
    h.moved

/-- Nothing is said yet about a span that has just been begun. -/
theorem Recounts.recounted_new (h : Recounts ops links spans moved) (name : String)
    (kind : SpanKind) (start : Duration) :
    Recounted (ops ++ [.create name kind start]) links spans.length
      (.unfinished spans.length name kind start) := by
  have hsince : sinceBegun spans.length (ops ++ [.create name kind start]) = [] := by
    rw [sinceBegun_concat, if_neg (h.length ▸ Nat.lt_irrefl _)]
  have hchildren : (withEarlier [] links).filter
      (fun e => e.1 ≠ some spans.length ∧ e.2.1 = spans.length) = [] := by
    rw [List.filter_eq_nil_iff]
    intro e he
    have hlink : e.2 ∈ links := by
      rw [← map_snd_withEarlier [] links]
      exact List.mem_map_of_mem he
    rw [decide_eq_true_eq]
    exact fun hunder => (h.known e.2 hlink).1.ne hunder.2
  refine ⟨rfl, ?_, ?_, fun key => ?_, ?_, ?_⟩
  · rw [begun_concat, h.length]
    simp [Operation.begun?, Span.unfinished]
  · rw [firstEnd, hsince]
    rfl
  · rw [lastTag, hsince]
    rfl
  · rw [lastParent_eq_none fun r hr => (h.known r hr).2.ne]
    rfl
  · rw [hchildren]
    rfl

theorem Recounts.create (h : Recounts ops links spans moved) (name : String) (kind : SpanKind)
    (start : Duration) : Recounts (ops ++ [.create name kind start]) links
      (spans ++ [.unfinished spans.length name kind start]) moved where
  length := by simp [begun_concat, Operation.begun?, h.length]
  recounted i s hs := by
    rcases getElem?_created hs with hs | ⟨rfl, rfl⟩
    · exact (h.recounted i s hs).quiet (h.lt_length hs) rfl fun _ => rfl
    · exact h.recounted_new name kind start
  known r hr := by
    rw [List.length_append]
    exact ⟨Nat.lt_add_right _ (h.known r hr).1, Nat.lt_add_right _ (h.known r hr).2⟩
  moved := h.moved

theorem moved_settle {r : Except SpanError Transaction} (hr : ∀ u, r = .ok u → u.moved = t.moved) :
    (t.settle r).1.moved = t.moved := by
  cases r with
  | ok u => exact hr u rfl
  | error e => rfl

/-- Only the first end of a span counts. -/
theorem getElem?_finish (t : Transaction) (j : Nat) (time : Duration) (i : Nat) :
    (t.settle (t.finish j time)).1.spans[i]? =
      t.spans[i]?.map fun s => if j = i ∧ s.ended = false then s.finish time else s := by
  have hkeep (hj : ∀ s, t.spans[j]? = some s → s.ended = true) : t.spans[i]? =
      t.spans[i]?.map fun s => if j = i ∧ s.ended = false then s.finish time else s := by
    cases hi : t.spans[i]? with
    | none => rfl
    | some s =>
      rw [Option.map_some, if_neg]
      rintro ⟨rfl, hopen⟩
      exact Bool.false_ne_true (hopen.symm.trans (hj s hi))
  rw [finish]
  cases hj : t.spans[j]? with
  | none =>
    refine hkeep fun s hs => ?_
    cases hj.symm.trans hs
  | some s =>
    dsimp only
    split_ifs with hended
    · exact hkeep fun s' hs' => Option.some.inj (hj.symm.trans hs') ▸ hended
    · show (t.spans.modify j (·.finish time))[i]? = _
      rw [List.getElem?_modify]
      cases hi : t.spans[i]? with
      | none => rfl
      | some s' =>
        by_cases hij : j = i
        · subst hij
          obtain rfl := Option.some.inj (hj.symm.trans hi)
          simp [hended]
        · simp [hij]

theorem Recounts.finish (h : Recounts ops links t.spans t.moved) (j : Nat) (time : Duration) :
    Recounts (ops ++ [.finish j time]) links (t.settle (t.finish j time)).1.spans
      (t.settle (t.finish j time)).1.moved := by
  rw [moved_settle fun u hu => by rw [finish_eq hu]]
  refine h.map rfl (getElem?_finish t j time) (fun i s hs hr => ?_) h.known h.moved
  have hi := h.lt_length hs
  split_ifs with hfirst
  · obtain ⟨rfl, hopen⟩ := hfirst
    exact hr.finish hi hopen time
  · by_cases hj : j = i
    · subst hj
      exact hr.finish_again hi (by simpa using hfirst) time
    · exact hr.quiet hi (if_neg hj) fun _ => rfl

theorem getElem?_tag (t : Transaction) (j : Nat) (key : String) (a : SpanAttribute) (i : Nat) :
    (t.settle (t.tag j key a)).1.spans[i]? =
      t.spans[i]?.map fun s => if j = i then s.tag key a else s := by
  rw [tag]
  cases hj : t.spans[j]? with
  | none =>
    show t.spans[i]? = _
    cases hi : t.spans[i]? with
    | none => rfl
    | some s =>
      rw [Option.map_some, if_neg]
      rintro rfl
      cases hj.symm.trans hi
  | some s => exact List.getElem?_modify ..

theorem Recounts.tag (h : Recounts ops links t.spans t.moved) (j : Nat) (key : String)
    (a : SpanAttribute) :
    Recounts (ops ++ [.tag j key a]) links (t.settle (t.tag j key a)).1.spans
      (t.settle (t.tag j key a)).1.moved := by
  rw [moved_settle fun u hu => by rw [tag_eq hu]]
  refine h.map rfl (getElem?_tag t j key a) (fun i s hs hr => ?_) h.known h.moved
  split_ifs with hj
  · exact hj ▸ hr.tag (h.lt_length hs) key a
  · exact hr.quiet (h.lt_length hs) rfl fun _ => if_neg fun hand => hj hand.1

/-! ### Registrations -/

/-- The calls say of every span, also of those that are not begun, what its parent is. -/
theorem Recounts.parentOf_eq (h : Recounts ops links spans moved) (c : Nat) :
    parentOf spans c = lastParent links c := by
  rw [parentOf]
  cases hc : spans[c]? with
  | some s => exact (h.recounted c s hc).parent
  | none =>
    rw [List.getElem?_eq_none_iff] at hc
    exact (lastParent_eq_none fun r hr => ((h.known r hr).2.trans_le hc).ne).symm

/-- The calls that allow a registration: both spans are begun, the child is ended, and it is neither
the parent nor above it. -/
structure Allows (ops : List Operation) (links : List (Nat × Nat)) (parent child : Nat) : Prop where
  parent_begun : parent < (begun ops).length
  child_begun : child < (begun ops).length
  ended : (firstEnd child ops).isSome
  not_above : ¬ ReflTransGen (fun c p => lastParent links c = some p) parent child

theorem Recounts.registerFault_eq_none_iff (h : Recounts ops links spans moved)
    (hsound : Sound spans moved) {parent child : Nat} :
    registerFault spans parent child = none ↔ Allows ops links parent child := by
  have hunder : Under spans = fun c p => lastParent links c = some p := by
    funext c p
    rw [Under, h.parentOf_eq]
  constructor
  · intro hfault
    obtain ⟨q, s, hq, hs, hended, hcycle⟩ := registerFault_eq_none hfault
    have hparent := (List.getElem?_eq_some_iff.mp hq).1
    refine ⟨h.lt_length hq, h.lt_length hs, (h.recounted child s hs).ended_eq ▸ hended, ?_⟩
    rw [← hunder, ← closesCycle_iff hsound.acyclic hsound.closed hparent, hcycle]
    exact Bool.false_ne_true
  · rintro ⟨hparent, hchild, hended, hnot⟩
    rw [← h.length] at hparent hchild
    have hs := List.getElem?_eq_getElem hchild
    rw [← (h.recounted child _ hs).ended_eq] at hended
    have hcycle : closesCycle spans parent child = false := by
      rw [← Bool.not_eq_true, closesCycle_iff hsound.acyclic hsound.closed hparent, hunder]
      exact hnot
    simp [registerFault, List.getElem?_eq_getElem hparent, hs, hended, hcycle]

theorem departures_concat (links : List (Nat × Nat)) (parent child : Nat) :
    departures (links ++ [(parent, child)]) = departures links +
      if lastParent links child = some parent then 0
      else (lastParent links child).isSome.toNat := by
  rw [departures, withEarlier_concat, List.nil_append, List.countP_append, List.countP_singleton,
    departures]
  cases lastParent links child with
  | none => rfl
  | some p => by_cases hp : p = parent <;> simp [hp]

theorem settle_register {parent child : Nat} (hfault : registerFault t.spans parent child = none)
    (hs : t.spans[child]? = some s) :
    (t.settle (t.register parent child)).2 = .done ∧
    (∀ i, (t.settle (t.register parent child)).1.spans[i]? =
      t.spans[i]?.map fun r => if s.parent = some parent then r else relink parent child i r) ∧
    (t.settle (t.register parent child)).1.moved =
      t.moved + if s.parent = some parent then 0 else s.parent.isSome.toNat := by
  rw [register_eq hfault hs]
  by_cases hsame : s.parent = some parent
  · simp only [if_pos hsame]
    exact ⟨rfl, fun _ => Option.map_id'.symm, rfl⟩
  · simp only [if_neg hsame]
    exact ⟨rfl, fun i => getElem?_link .., rfl⟩

theorem Recounts.register (h : Recounts ops links t.spans t.moved) (parent child : Nat) :
    Recounts (ops ++ [.register parent child])
      (links ++ accepted [(.register parent child, (t.settle (t.register parent child)).2)])
      (t.settle (t.register parent child)).1.spans (t.settle (t.register parent child)).1.moved := by
  cases hfault : registerFault t.spans parent child with
  | some e =>
    rw [Transaction.register, hfault]
    show Recounts (ops ++ [.register parent child]) (links ++ []) t.spans t.moved
    rw [List.append_nil]
    exact h.quiet rfl (fun _ => rfl) fun _ _ => rfl
  | none =>
    obtain ⟨q, s, hq, hs, _, _⟩ := registerFault_eq_none hfault
    have hparent : lastParent links child = s.parent := (h.recounted child s hs).parent.symm
    have hknown : ∀ r ∈ links ++ [(parent, child)],
        r.1 < t.spans.length ∧ r.2 < t.spans.length := by
      intro r hr
      rcases List.mem_append.mp hr with hr | hr
      · exact h.known r hr
      · rw [List.mem_singleton.mp hr]
        exact ⟨(List.getElem?_eq_some_iff.mp hq).1, (List.getElem?_eq_some_iff.mp hs).1⟩
    -- A child that is registered under its present parent gets one more link and keeps its span.
    obtain ⟨hdone, hspans, hmoved⟩ := settle_register hfault hs
    rw [hdone]
    rw [← hparent] at hspans hmoved
    refine h.map rfl hspans (fun i r hr hrec => ?_) hknown ?_
    · exact (hrec.quiet (h.lt_length hr) rfl fun _ => rfl).link parent child
    · rw [hmoved, h.moved]
      exact (departures_concat links parent child).symm

/-! ### Runs -/

theorem Recounts.step (h : Recounts ops links t.spans t.moved) (hopen : t.completed = false)
    (hop : op.isComplete = false) :
    Recounts (ops ++ [op]) (links ++ accepted [(op, (t.step op).2)]) (t.step op).1.spans
      (t.step op).1.moved := by
  rw [step_open hopen]
  have hnone {spans' : List Span} {moved' : Nat} (h' : Recounts (ops ++ [op]) links spans' moved') :
      Recounts (ops ++ [op]) (links ++ []) spans' moved' := by
    rwa [List.append_nil]
  cases op with
  | register parent child => exact h.register parent child
  | create name kind start => exact hnone (h.create name kind start)
  | finish j time => exact hnone (h.finish j time)
  | tag j key a => exact hnone (h.tag j key a)
  | note fact =>
    rw [stepOpen]
    cases t.facts.add? fact <;> exact hnone (h.quiet rfl (fun _ => rfl) fun _ _ => rfl)
  | ignore => exact hnone (h.quiet rfl (fun _ => rfl) fun _ _ => rfl)
  | complete => cases hop

theorem zip_answers_concat (t : Transaction) (ops : List Operation) (op : Operation) :
    (ops ++ [op]).zip (t.run (ops ++ [op])).2 =
      ops.zip (t.run ops).2 ++ [(op, ((t.run ops).1.step op).2)] := by
  rw [run_concat, List.zip_append (length_answers t ops).symm]
  rfl

theorem Recounts.run (name : TransactionName) (guid : String) (now : Instant)
    {ops : List Operation} (hops : ∀ op ∈ ops, op.isComplete = false) :
    let t := start name guid now
    Recounts ops (accepted (ops.zip (t.run ops).2)) (t.run ops).1.spans (t.run ops).1.moved := by
  intro t
  induction ops using List.reverseRecOn with
  | nil => exact recounts_nil
  | append_singleton ops op ih =>
    rw [List.forall_mem_append, List.forall_mem_singleton] at hops
    rw [zip_answers_concat, accepted_append, run_concat]
    exact (ih hops.1).step (open_run rfl hops.1) hops.2

theorem frame_run (name : TransactionName) (guid : String) (now : Instant)
    {ops : List Operation} (hops : ∀ op ∈ ops, op.isComplete = false) :
    let t := ((start name guid now).run ops).1
    t.name = name ∧ t.guid = guid ∧ t.startTime = now ∧
      t.facts = Facts.firstGiven (ops.filterMap Operation.fact?) ∧
      t.ignored = ops.any Operation.isIgnore := by
  induction ops using List.reverseRecOn with
  | nil => exact ⟨rfl, rfl, rfl, rfl, rfl⟩
  | append_singleton ops op ih =>
    rw [List.forall_mem_append, List.forall_mem_singleton] at hops
    obtain ⟨hname, hguid, hnow, hfacts, hignored⟩ := ih hops.1
    rw [run_concat, step_frame (open_run rfl hops.1) hops.2]
    refine ⟨hname, hguid, hnow, ?_, ?_⟩
    · rw [filterMap_concat, hfacts]
      cases op.fact? with
      | none => rw [Option.toList_none, List.append_nil, List.foldl_nil]
      | some fact => exact (Facts.firstGiven_concat _ fact).symm
    · rw [List.any_append, hignored, List.any_cons, List.any_nil, Bool.or_false, Bool.or_comm]

/-- A registration is accepted exactly when the calls before it allow it. -/
theorem registered_iff (name : TransactionName) (guid : String) (now : Instant)
    {ops : List Operation} (hops : ∀ op ∈ ops, op.isComplete = false) (parent child : Nat) :
    let t := start name guid now
    ((t.run ops).1.step (.register parent child)).2 = .done ↔
      Allows ops (accepted (ops.zip (t.run ops).2)) parent child := by
  intro t
  have hopen : (t.run ops).1.completed = false := open_run rfl hops
  have hrecounts := Recounts.run name guid now hops
  rw [← hrecounts.registerFault_eq_none_iff (Sound.run sound_nil hopen), step_open hopen, stepOpen]
  cases hfault : registerFault (t.run ops).1.spans parent child with
  | some e =>
    rw [register, hfault]
    constructor <;> intro h <;> cases h
  | none =>
    obtain ⟨_, s, _, hs, _, _⟩ := registerFault_eq_none hfault
    exact ⟨fun _ => rfl, fun _ => (settle_register hfault hs).1⟩

/-- The snapshot is what the calls say: as many spans as were begun, each with its first end, its last
parent and what was written last under each key, the facts that were given first, and how often a child
was taken from another parent. Which registrations are accepted is up to the calls before them. -/
theorem snapshot_recounts_calls (name : TransactionName) (guid : String) (now : Instant)
    (ops : List Operation) (hops : ∀ op ∈ ops, op.isComplete = false) (duration : Duration) :
    let t := start name guid now
    let calls := ops.zip (t.run ops).2
    ∃ s, (t.run (ops ++ [.complete duration])).2 = (t.run ops).2 ++ [.completed s] ∧
      s.name = name ∧ s.guid = guid ∧ s.startTime = now ∧ s.duration = duration ∧
      s.spans.length = (begun ops).length ∧
      (∀ i span, s.spans[i]? = some span → Recounted ops (accepted calls) i span) ∧
      s.facts = Facts.firstGiven (ops.filterMap Operation.fact?) ∧
      s.ignored = ops.any Operation.isIgnore ∧
      s.moved = departures (accepted calls) ∧
      ∀ i parent child, ops[i]? = some (.register parent child) →
        ((t.run ops).2[i]? = some .done ↔
          Allows (ops.take i) (accepted (calls.take i)) parent child) := by
  intro t calls
  have hrecounts : Recounts ops (accepted calls) _ _ := Recounts.run name guid now hops
  obtain ⟨hname, hguid, hnow, hfacts, hignored⟩ := frame_run name guid now hops
  refine ⟨(t.run ops).1.snapshot duration, ?_, hname, hguid, hnow, rfl, hrecounts.length,
    hrecounts.recounted, hfacts, hignored, hrecounts.moved, fun i parent child hi => ?_⟩
  · rw [run_concat, step_open (open_run rfl hops)]
    rfl
  · have hbefore : ∀ op ∈ ops.take i, op.isComplete = false :=
      fun op hop => hops op (List.mem_of_mem_take hop)
    have hcalls : calls.take i = (ops.take i).zip (t.run (ops.take i)).2 := by
      rw [← take_answers]
      exact List.take_zipWith
    rw [getElem?_answers, hi, Option.map_some, Option.some_inj, hcalls]
    exact registered_iff name guid now hbefore parent child

/-- The second span is ended before it starts and again after that, and the third moves below it. Span 0
cannot come under span 2, first because it has not ended and then because it is above it. -/
def restless : List Operation :=
  [.create "request" .method 0, .create "render" .method (.ofMillis 5), .finish 1 (.ofMillis 2),
    .finish 1 (.ofMillis 9), .register 0 1, .tag 2 "sql" ⟨.text "BEGIN", .none⟩,
    .create "query" .datastore (.ofMillis 1), .finish 2 (.ofMillis 4), .register 0 2, .register 1 2,
    .register 2 0, .tag 2 "sql" ⟨.text "SELECT 1", .none⟩,
    .tag 2 "sql" ⟨.text "COMMIT", .only .errorTrace⟩, .finish 0 (.ofMillis 9), .register 2 0,
    .note (.uri "/users"), .note (.uri "/login"), .ignore]

theorem snapshot_recounts_calls_restless :
    let t := start ⟨.web, "Uri", "users"⟩ "guid" .epoch
    let links := [(0, 1), (0, 2), (1, 2)]
    (∀ op ∈ restless, op.isComplete = false) ∧
    accepted (restless.zip (t.run restless).2) = links ∧
    ∃ s, (t.run (restless ++ [.complete (.ofMillis 9)])).2 = (t.run restless).2 ++ [.completed s] ∧
      s.spans.length = 3 ∧
      (∀ i span, s.spans[i]? = some span → Recounted restless links i span) ∧
      firstEnd 1 restless = some (.ofMillis 2) ∧ lastParent links 2 = some 1 ∧
      s.facts.uri = some "/users" ∧ s.ignored = true ∧ s.moved = 1 ∧
      ¬ Allows (restless.take 14) links 2 0 := by
  intro t links
  have hops : ∀ op ∈ restless, op.isComplete = false := by decide
  obtain ⟨s, hs, _, _, _, _, hlength, hspans, hfacts, hignored, hmoved, haccepted⟩ :=
    snapshot_recounts_calls ⟨.web, "Uri", "users"⟩ "guid" .epoch restless hops (.ofMillis 9)
  refine ⟨hops, rfl, s, hs, hlength, hspans, rfl, rfl, ?_, hignored, hmoved, fun hallows => ?_⟩
  · rw [hfacts]
    rfl
  · cases (haccepted 14 2 0 rfl).mpr hallows

end Telemetry.Transaction
