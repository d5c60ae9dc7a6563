import Telemetry.Proofs.Transaction.Soundness

/-!
# Runs in parts

A run of one list of operations after another, and the state in which each answer of a run is given.
Before completion an operation on spans changes nothing but spans and moves, and what all others do to
the rest of the transaction does not depend on the spans.
-/
namespace Telemetry

namespace Operation

def isComplete : Operation → Bool
  | complete _ => true
  | _ => false

def isIgnore : Operation → Bool
  | ignore => true
  | _ => false

def fact? : Operation → Option Fact
  | note fact => some fact
  | _ => none

end Operation

/-- The facts after one more is given, which may be one too many. -/
def Facts.hear (f : Facts) (fact : Fact) : Facts := (f.add? fact).getD f

namespace Transaction

variable {t u : Transaction} {op : Operation}

theorem run_cons (t : Transaction) (op : Operation) (ops : List Operation) : t.run (op :: ops) =
    (((t.step op).1.run ops).1, (t.step op).2 :: ((t.step op).1.run ops).2) := rfl

theorem run_append (t : Transaction) (xs ys : List Operation) : t.run (xs ++ ys) =
    (((t.run xs).1.run ys).1, (t.run xs).2 ++ ((t.run xs).1.run ys).2) := by
  induction xs generalizing t with
  | nil => rfl
  | cons op rest ih => rw [List.cons_append, run_cons, ih, run_cons, List.cons_append]

theorem run_concat (t : Transaction) (ops : List Operation) (op : Operation) :
    t.run (ops ++ [op]) = (((t.run ops).1.step op).1, (t.run ops).2 ++ [((t.run ops).1.step op).2]) :=
  run_append t ops [op]

theorem length_answers (t : Transaction) (ops : List Operation) :
    (t.run ops).2.length = ops.length := by
  induction ops generalizing t with
  | nil => rfl
  | cons op rest ih => rw [run_cons, List.length_cons, ih, List.length_cons]

/-- Each answer is given in the state that the operations before it lead to. -/
theorem getElem?_answers (t : Transaction) (ops : List Operation) (i : Nat) :
    (t.run ops).2[i]? = ops[i]?.map fun op => ((t.run (ops.take i)).1.step op).2 := by
  induction ops generalizing t i with
  | nil => rfl
  | cons op rest ih =>
    cases i with
    | zero => rfl
    | succ i => exact ih (t.step op).1 i

theorem take_answers (t : Transaction) (ops : List Operation) (i : Nat) :
    (t.run ops).2.take i = (t.run (ops.take i)).2 := by
  induction ops generalizing t i with
  | nil => rw [List.take_nil]; exact List.take_nil
  | cons op rest ih =>
    cases i with
    | zero => rfl
    | succ i => exact congrArg _ (ih (t.step op).1 i)

theorem step_open (hopen : t.completed = false) (op : Operation) : t.step op = t.stepOpen op := by
  rw [step, hopen, if_neg Bool.false_ne_true]

/-! ### All but the spans -/

theorem register_frame {parent child : Nat} (h : t.register parent child = .ok u) :
    u = { t with spans := u.spans, moved := u.moved } := by
  cases hfault : registerFault t.spans parent child with
  | some e =>
    rw [register, hfault] at h
    cases h
  | none =>
    obtain ⟨_, s, _, hs, _, _⟩ := registerFault_eq_none hfault
    rw [register_eq hfault hs] at h
    obtain rfl := Except.ok.inj h
    split_ifs <;> rfl

theorem settle_frame {r : Except SpanError Transaction}
    (h : ∀ u, r = .ok u → u = { t with spans := u.spans, moved := u.moved }) :
    (t.settle r).1 = { t with spans := (t.settle r).1.spans, moved := (t.settle r).1.moved } := by
  cases r with
  | ok u => exact h u rfl
  | error e => rfl

theorem step_frame (hopen : t.completed = false) (h : op.isComplete = false) :
    (t.step op).1 = { t with
      spans := (t.step op).1.spans
      moved := (t.step op).1.moved
      facts := op.fact?.toList.foldl Facts.hear t.facts
      ignored := op.isIgnore || t.ignored } := by
  rw [step_open hopen]
  cases op with
  | create | ignore => rfl
  | finish span time =>
    exact settle_frame fun u hu => by rw [finish_eq hu]
  | register => exact settle_frame fun u hu => register_frame hu
  | tag span key a =>
    exact settle_frame fun u hu => by rw [tag_eq hu]
  | note fact =>
    show _ = { t with
      spans := (t.stepOpen (.note fact)).1.spans
      moved := (t.stepOpen (.note fact)).1.moved
      facts := t.facts.hear fact }
    rw [stepOpen, Facts.hear]
    cases t.facts.add? fact <;> rfl
  | complete => cases h

theorem open_step (hopen : t.completed = false) (h : op.isComplete = false) :
    (t.step op).1.completed = false :=
  (congrArg completed (step_frame hopen h)).trans hopen

/-- Only a completion completes. -/
theorem open_run (hopen : t.completed = false) {ops : List Operation}
    (hops : ∀ op ∈ ops, op.isComplete = false) : (t.run ops).1.completed = false := by
  induction ops generalizing t with
  | nil => exact hopen
  | cons op rest ih =>
    rw [List.forall_mem_cons] at hops
    exact ih (open_step hopen hops.1) hops.2

end Transaction

end Telemetry
