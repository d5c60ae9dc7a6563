import Telemetry.Proofs.Transaction.Runs

/-!
# What a log of calls says

A log has the calls on a transaction in order, each with its answer. It says by itself which spans were
begun, when a span was first ended, what was last written under a key of it, which parent was last
accepted for it and which facts were given first. Each reading is given with what one more call does
to it.
-/
namespace Telemetry

namespace Operation

/-- The name, the kind and the start of a new span. -/
def begun? : Operation → Option (String × SpanKind × Duration)
  | create name kind start => some (name, kind, start)
  | _ => none

/-- The time at which span `i` is to end. -/
def endOf? (i : Nat) : Operation → Option Duration
  | finish j time => if j = i then some time else none
  | _ => none

/-- What is to be written under a key of span `i`. -/
def tagOf? (i : Nat) (key : String) : Operation → Option SpanAttribute
  | tag j k a => if j = i ∧ k = key then some a else none
  | _ => none

end Operation

namespace Fact

@[simp] def uri? : Fact → Option String
  | uri s => some s
  | _ => none

@[simp] def status? : Fact → Option Nat
  | status code => some code
  | _ => none

@[simp] def queueTime? : Fact → Option Duration
  | queueTime d => some d
  | _ => none

@[simp] def referrer? : Fact → Option String
  | referrer s => some s
  | _ => none

@[simp] def error? : Fact → Option NoticedError
  | error e => some e
  | _ => none

@[simp] def tagged? : Fact → Option Attribute
  | tagged a => some a
  | _ => none

end Fact

namespace Facts

/-- The first of each kind of fact that can be given once, and all errors and attributes. -/
def firstGiven (fs : List Fact) : Facts where
  uri := fs.findSome? Fact.uri?
  status := fs.findSome? Fact.status?
  queueTime := fs.findSome? Fact.queueTime?
  referrer := fs.findSome? Fact.referrer?
  errors := fs.filterMap Fact.error?
  attributes := ⟨fs.filterMap Fact.tagged?⟩

theorem hear_eq (f : Facts) (fact : Fact) : f.hear fact =
    { uri := f.uri.or fact.uri?
      status := f.status.or fact.status?
      queueTime := f.queueTime.or fact.queueTime?
      referrer := f.referrer.or fact.referrer?
      errors := f.errors ++ fact.error?.toList
      attributes := ⟨f.attributes.entries ++ fact.tagged?.toList⟩ } := by
  obtain ⟨uri, status, queueTime, referrer, errors, attributes⟩ := f
  cases fact with
  | uri => cases uri <;> simp [hear, add?]
  | status => cases status <;> simp [hear, add?]
  | queueTime => cases queueTime <;> simp [hear, add?]
  | referrer => cases referrer <;> simp [hear, add?]
  | error => simp [hear, add?]
  | tagged => simp [hear, add?, Attributes.add]

theorem firstGiven_concat (fs : List Fact) (fact : Fact) :
    firstGiven (fs ++ [fact]) = (firstGiven fs).hear fact := by
  rw [hear_eq, firstGiven, filterMap_concat, filterMap_concat]
  simp only [List.findSome?_append, List.findSome?_singleton]
  rfl

end Facts

namespace Transaction

/-- An operation and what it was answered. -/
abbrev Call := Operation × Answer

/-- The spans that are begun, in order. -/
def begun (ops : List Operation) : List (String × SpanKind × Duration) :=
  ops.filterMap Operation.begun?

/-- What comes after the beginning of span `i`. -/
def sinceBegun : Nat → List Operation → List Operation
  | _, [] => []
  | 0, .create .. :: rest => rest
  | i + 1, .create .. :: rest => sinceBegun i rest
  | i, _ :: rest => sinceBegun i rest

/-- The first time at which span `i` is to end. -/
def firstEnd (i : Nat) (ops : List Operation) : Option Duration :=
  (sinceBegun i ops).findSome? (Operation.endOf? i)

/-- What is written last under a key of span `i`. -/
def lastTag (i : Nat) (key : String) (ops : List Operation) : Option SpanAttribute :=
  ((sinceBegun i ops).filterMap (Operation.tagOf? i key)).getLast?

/-- The parent and the child of each registration that is accepted, in order. -/
def accepted (calls : List Call) : List (Nat × Nat) :=
  calls.filterMap fun
    | (.register parent child, .done) => some (parent, child)
    | _ => none

/-- The parent under which a child is registered last. -/
def lastParent (links : List (Nat × Nat)) (child : Nat) : Option Nat :=
  ((links.filter (·.2 = child)).getLast?).map Prod.fst

/-- Each registration with the parent that the child had before it; `known` are those before all. -/
def withEarlier (known : List (Nat × Nat)) : List (Nat × Nat) → List (Option Nat × Nat × Nat)
  | [] => []
  | r :: rest => (lastParent known r.2, r) :: withEarlier (known ++ [r]) rest

variable {ops : List Operation} {i : Nat}

theorem begun_concat (ops : List Operation) (op : Operation) :
    begun (ops ++ [op]) = begun ops ++ op.begun?.toList := filterMap_concat _ ops op

/-- Nothing comes after the beginning of a span that is not begun. -/
theorem sinceBegun_concat (i : Nat) (ops : List Operation) (op : Operation) :
    sinceBegun i (ops ++ [op]) =
      if i < (begun ops).length then sinceBegun i ops ++ [op] else [] := by
  induction ops generalizing i with
  | nil => cases op <;> cases i <;> rfl
  | cons a rest ih =>
    cases a with
    | create =>
      cases i with
      | zero => rfl
      | succ i =>
        show sinceBegun i (rest ++ [op]) = if i + 1 < (begun rest).length + 1 then _ else []
        rw [ih i]
        simp only [Nat.add_lt_add_iff_right]
        rfl
    | _ => cases i <;> exact ih _

theorem firstEnd_concat (hi : i < (begun ops).length) (op : Operation) :
    firstEnd i (ops ++ [op]) = (firstEnd i ops).or (op.endOf? i) := by
  rw [firstEnd, sinceBegun_concat, if_pos hi, List.findSome?_append, List.findSome?_singleton]
  rfl

theorem lastTag_concat (hi : i < (begun ops).length) (key : String) (op : Operation) :
    lastTag i key (ops ++ [op]) = (op.tagOf? i key).or (lastTag i key ops) := by
  rw [lastTag, sinceBegun_concat, if_pos hi, filterMap_concat, List.getLast?_append]
  cases op.tagOf? i key <;> rfl

theorem lastParent_concat (links : List (Nat × Nat)) (r : Nat × Nat) (c : Nat) :
    lastParent (links ++ [r]) c = if r.2 = c then some r.1 else lastParent links c := by
  rw [lastParent, List.filter_append]
  by_cases h : r.2 = c
  · simp [h]
  · simp [h, lastParent]

theorem withEarlier_concat (known links : List (Nat × Nat)) (r : Nat × Nat) :
    withEarlier known (links ++ [r]) =
      withEarlier known links ++ [(lastParent (known ++ links) r.2, r)] := by
  induction links generalizing known with
  | nil => rw [List.append_nil]; rfl
  | cons a rest ih =>
    rw [List.cons_append, withEarlier, ih, withEarlier, List.append_assoc]
    rfl

theorem map_snd_withEarlier (known links : List (Nat × Nat)) :
    (withEarlier known links).map Prod.snd = links := by
  induction links generalizing known with
  | nil => rfl
  | cons a rest ih => rw [withEarlier, List.map_cons, ih]

theorem lastParent_eq_none {links : List (Nat × Nat)} {c : Nat} (h : ∀ r ∈ links, r.2 ≠ c) :
    lastParent links c = none := by
  rw [lastParent, List.filter_eq_nil_iff.mpr fun r hr => by simpa using h r hr]
  rfl

theorem accepted_append (xs ys : List Call) : accepted (xs ++ ys) = accepted xs ++ accepted ys :=
  List.filterMap_append

end Transaction

end Telemetry
