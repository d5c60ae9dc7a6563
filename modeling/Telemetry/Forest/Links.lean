import Telemetry.Span

/-!
# Links between spans

Spans name each other by identifiers, which may be missing, repeated or wrong. A link from a parent
to a child is kept if the parent lists the child and the child names the parent; everything else is
stray. Positions in the list of spans stand for the spans from here on.
-/
namespace Telemetry.Forest

/-- The last position with the given identifier. -/
def position? : (spans : List Span) → Nat → Option (Fin spans.length)
  | [], _ => none
  | s :: rest, id =>
    match position? rest id with
    | some i => some i.succ
    | none => if s.id = id then some ⟨0, Nat.zero_lt_succ rest.length⟩ else none

variable (spans : List Span)

/-- The position of the parent; a span is not its own parent. -/
def parent? (i : Fin spans.length) : Option (Fin spans.length) :=
  match (spans.get i).parent with
  | some p => if p = (spans.get i).id then none else position? spans p
  | none => none

/-- A parent link that leads to the span itself or nowhere. -/
def hasStrayParent (i : Fin spans.length) : Bool :=
  (spans.get i).parent.isSome && (parent? spans i).isNone

/-- The child that an entry in the list of `i` stands for, if the child names `i` as its parent. -/
def child? (i : Fin spans.length) (entry : Nat) : Option (Fin spans.length) :=
  (position? spans entry).filter fun c => parent? spans c == some i

/-- The children that are kept, where only the first entry for a child counts, and the number of
stray entries; `kept` are the children met before. -/
def siftFrom (i : Fin spans.length) (kept : List (Fin spans.length)) :
    List Nat → List (Fin spans.length) × Nat
  | [] => (kept, 0)
  | entry :: rest =>
    match child? spans i entry with
    | some c =>
      if kept.contains c then
        let r := siftFrom i kept rest
        (r.1, r.2 + 1)
      else siftFrom i (kept ++ [c]) rest
    | none =>
      let r := siftFrom i kept rest
      (r.1, r.2 + 1)

def sift (i : Fin spans.length) : List (Fin spans.length) × Nat :=
  siftFrom spans i [] (spans.get i).children

/-- The kept children in the order of their first entries. -/
def kept (i : Fin spans.length) : List (Fin spans.length) := (sift spans i).1

/-- How many links of the spans are stray. -/
def strayCount : Nat :=
  (List.finRange spans.length).countP (hasStrayParent spans) +
    ((List.finRange spans.length).map fun i => (sift spans i).2).foldr (· + ·) 0

end Telemetry.Forest
