import Telemetry.Proofs.Transaction.Runs

/-!
# Refused operations

An operation that is refused leaves the transaction as it was, so a run without some of the operations
that were refused in it gives all others the same answers. The first completion succeeds and no other
does. After it only the mark to ignore is still taken, and spans and facts stay as they are.
-/
namespace Telemetry

/-- Whether the operation was turned down. -/
def Answer.isRefusal : Answer → Bool
  | refused _ | noted false | failed _ => true
  | created _ | done | noted true | completed _ => false

/-- What every completed transaction answers. -/
def Operation.lateAnswer : Operation → Answer
  | create .. | finish .. | register .. | tag .. => .refused .transactionCompleted
  | note _ => .noted false
  | ignore => .done
  | complete _ => .failed .alreadyCompleted

/-- The list without the entries at some positions. -/
def without {α : Type} (gone : Nat → Bool) : List α → List α
  | [] => []
  | a :: rest =>
    let kept := without (fun i => gone (i + 1)) rest
    if gone 0 then kept else a :: kept

namespace Transaction

variable {t : Transaction} {op : Operation}

theorem settle_of_isRefusal {r : Except SpanError Transaction}
    (h : (t.settle r).2.isRefusal = true) : (t.settle r).1 = t := by
  cases r with
  | ok u => cases h
  | error e => rfl

theorem step_of_isRefusal (h : (t.step op).2.isRefusal = true) : (t.step op).1 = t := by
  rw [step] at h ⊢
  split_ifs at h ⊢ with hdone
  · cases op with
    | ignore => cases h
    | _ => rfl
  · cases op with
    | finish | register | tag => exact settle_of_isRefusal h
    | note fact =>
      rw [stepOpen] at h ⊢
      cases hadd : t.facts.add? fact with
      | none => rfl
      | some facts =>
        rw [hadd] at h
        cases h
    | create | ignore | complete => cases h

theorem run_without (t : Transaction) {ops : List Operation} {gone : Nat → Bool}
    (h : ∀ i a, (t.run ops).2[i]? = some a → gone i = true → a.isRefusal = true) :
    t.run (without gone ops) = ((t.run ops).1, without gone (t.run ops).2) := by
  induction ops generalizing t gone with
  | nil => rfl
  | cons op rest ih =>
    have hrest : (t.step op).1.run (without (fun i => gone (i + 1)) rest) = _ :=
      ih (t.step op).1 fun i a => h (i + 1) a
    rw [run_cons, without, without]
    by_cases hgone : gone 0 = true
    · rw [if_pos hgone, if_pos hgone, ← hrest, step_of_isRefusal (h 0 _ rfl hgone)]
    · rw [if_neg hgone, if_neg hgone, run_cons, hrest]

/-! ### After completion -/

theorem step_of_completed (h : t.completed = true) (op : Operation) :
    (t.step op).2 = op.lateAnswer ∧ (t.step op).1.spans = t.spans ∧
      (t.step op).1.facts = t.facts := by
  rw [step, if_pos h]
  cases op <;> exact ⟨rfl, rfl, rfl⟩

theorem run_of_completed (h : t.completed = true) (ops : List Operation) :
    (t.run ops).1.spans = t.spans ∧ (t.run ops).1.facts = t.facts := by
  induction ops generalizing t with
  | nil => exact ⟨rfl, rfl⟩
  | cons op rest ih =>
    obtain ⟨_, hspans, hfacts⟩ := step_of_completed h op
    obtain ⟨hspans', hfacts'⟩ := ih (completed_step h op)
    exact ⟨hspans'.trans hspans, hfacts'.trans hfacts⟩

/-- A completion that succeeds completes the transaction. -/
theorem completed_of_snapshot {s : Snapshot} (h : (t.step op).2 = .completed s) :
    (t.step op).1.completed = true := by
  by_contra hopen
  rw [Bool.not_eq_true] at hopen
  rw [step_open (open_of_run [op] hopen)] at h hopen
  have hsettle {r : Except SpanError Transaction} : (t.settle r).2 ≠ .completed s := by
    cases r <;> exact nofun
  cases op with
  | create | ignore => cases h
  | finish | register | tag => exact hsettle h
  | note fact =>
    rw [stepOpen] at h
    cases hadd : t.facts.add? fact <;> rw [hadd] at h <;> cases h
  | complete => cases hopen

/-- Whatever a run does after a completion that has succeeded comes too late. -/
theorem late_of_completed {ops : List Operation} {i : Nat} {s : Snapshot}
    (h : (t.run ops).2[i]? = some (.completed s)) {j : Nat} (hij : i < j) :
    (t.run ops).2[j]? = ops[j]?.map Operation.lateAnswer ∧
    (t.run (ops.take j)).1.spans = (t.run (ops.take (i + 1))).1.spans ∧
    (t.run (ops.take j)).1.facts = (t.run (ops.take (i + 1))).1.facts := by
  rw [getElem?_answers] at h
  obtain ⟨op, hop, hanswer⟩ := Option.map_eq_some_iff.mp h
  have hdone : (t.run (ops.take (i + 1))).1.completed = true := by
    rw [List.take_add_one, hop, Option.toList_some, run_concat]
    exact completed_of_snapshot hanswer
  obtain ⟨k, rfl⟩ := Nat.exists_eq_add_of_lt hij
  have hsplit : (t.run (ops.take (i + k + 1))).1 =
      ((t.run (ops.take (i + 1))).1.run ((ops.drop (i + 1)).take k)).1 := by
    rw [Nat.add_right_comm, List.take_add, run_append]
  rw [getElem?_answers, hsplit]
  refine ⟨?_, run_of_completed hdone _⟩
  exact congrArg (Option.map · _) (funext fun op => (step_of_completed (completed_run hdone _) op).1)

/-- What is refused leaves no trace: without any of the operations that were refused in it, a run
answers all others alike, the one with the snapshot included, and ends alike. Exactly the first
completion succeeds, and what comes after it is refused and changes neither spans nor facts. -/
theorem refused_without_trace (t : Transaction) (hopen : t.completed = false)
    (ops : List Operation) :
    (∀ gone : Nat → Bool,
      (∀ i a, (t.run ops).2[i]? = some a → gone i = true → a.isRefusal = true) →
      t.run (without gone ops) = ((t.run ops).1, without gone (t.run ops).2)) ∧
    (∀ i s, (t.run ops).2[i]? = some (.completed s) →
      (∀ j s', (t.run ops).2[j]? = some (.completed s') → j = i) ∧
      ∀ j, i < j →
        (t.run ops).2[j]? = ops[j]?.map Operation.lateAnswer ∧
        (t.run (ops.take j)).1.spans = (t.run (ops.take (i + 1))).1.spans ∧
        (t.run (ops.take j)).1.facts = (t.run (ops.take (i + 1))).1.facts) ∧
    ∀ before after duration, ops = before ++ .complete duration :: after →
      (∀ op ∈ before, op.isComplete = false) →
      (t.run ops).2[before.length]? = some (.completed ((t.run before).1.snapshot duration)) := by
  have honce {i j : Nat} {s s' : Snapshot} (hi : (t.run ops).2[i]? = some (.completed s))
      (hj : (t.run ops).2[j]? = some (.completed s')) : ¬ i < j := by
    intro hij
    rw [(late_of_completed hi hij).1] at hj
    obtain ⟨op, _, hlate⟩ := Option.map_eq_some_iff.mp hj
    cases op <;> cases hlate
  refine ⟨fun gone => run_without t, fun i s hi => ⟨fun j s' hj => ?_, fun j hij => ?_⟩, ?_⟩
  · exact le_antisymm (Nat.le_of_not_lt (honce hi hj)) (Nat.le_of_not_lt (honce hj hi))
  · exact late_of_completed hi hij
  · rintro before after duration rfl hbefore
    rw [getElem?_answers, List.getElem?_append_right le_rfl, Nat.sub_self, List.take_left,
      List.getElem?_cons_zero, Option.map_some, step_open (open_run hopen hbefore)]
    rfl

/-- A request that is refused eight operations, among them a second completion. -/
def stubborn : List Operation :=
  [.create "request" .method 0, .finish 3 0, .register 0 0, .note (.status 200), .finish 0 (.ofMillis 4),
    .note (.status 500), .finish 0 (.ofMillis 6), .register 0 0, .complete (.ofMillis 5),
    .create "late" .method 0, .note (.uri "/late"), .ignore, .complete (.ofMillis 9)]

theorem refused_without_trace_stubborn :
    let t := start ⟨.web, "Uri", "users"⟩ "guid" .epoch
    let gone : Nat → Bool := fun i => [1, 2, 5, 6, 7, 9, 10, 12].contains i
    t.completed = false ∧
    (∀ i a, (t.run stubborn).2[i]? = some a → gone i = true → a.isRefusal = true) ∧
    without gone stubborn = [.create "request" .method 0, .note (.status 200),
      .finish 0 (.ofMillis 4), .complete (.ofMillis 5), .ignore] ∧
    t.run (without gone stubborn) = ((t.run stubborn).1, without gone (t.run stubborn).2) ∧
    (∃ s, (t.run stubborn).2[8]? = some (.completed s) ∧ s.facts.status = some 200) ∧
    (t.run stubborn).2[12]? = some (.failed .alreadyCompleted) := by
  intro t gone
  have hrefused : ∀ i ∈ [1, 2, 5, 6, 7, 9, 10, 12],
      ((t.run stubborn).2.map Answer.isRefusal)[i]? = some true := by decide
  have hgone : ∀ i a, (t.run stubborn).2[i]? = some a → gone i = true → a.isRefusal = true := by
    intro i a ha hi
    have hsome := hrefused i (List.contains_iff_mem.mp hi)
    rw [List.getElem?_map, ha] at hsome
    exact Option.some.inj hsome
  obtain ⟨hwithout, hlate, hfirst⟩ := refused_without_trace t rfl stubborn
  have hsnapshot := hfirst (stubborn.take 8) (stubborn.drop 9) (.ofMillis 5) rfl (by decide)
  refine ⟨rfl, hgone, rfl, hwithout gone hgone, ⟨_, hsnapshot, rfl⟩, ?_⟩
  exact ((hlate 8 _ hsnapshot).2 12 (by decide)).1

end Transaction

end Telemetry
