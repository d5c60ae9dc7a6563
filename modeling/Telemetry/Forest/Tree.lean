/-!
# Trees

A tree has a label and a list of children, which are trees again. The nodes of a tree are given by
their subtrees: `subtrees` lists them in pre-order by recursion, and a `Walk` hands them out one by one
from a stack of the trees that are still to come.
-/
namespace Telemetry

inductive Tree (α : Type)
  | node (label : α) (children : List (Tree α))

namespace Tree

variable {α β : Type}

def label : Tree α → α
  | node a _ => a

def children : Tree α → List (Tree α)
  | node _ ts => ts

mutual

def size : Tree α → Nat
  | node _ ts => sizeAll ts + 1

def sizeAll : List (Tree α) → Nat
  | [] => 0
  | t :: ts => size t + sizeAll ts

end

mutual

/-- The tree itself, followed by the subtrees of its children. -/
def subtrees : Tree α → List (Tree α)
  | node a ts => node a ts :: subtreesAll ts

def subtreesAll : List (Tree α) → List (Tree α)
  | [] => []
  | t :: ts => subtrees t ++ subtreesAll ts

end

mutual

/-- Whether some node has a label of that kind. -/
def anyLabel (p : α → Bool) : Tree α → Bool
  | node a ts => p a || anyLabelAll p ts

def anyLabelAll (p : α → Bool) : List (Tree α) → Bool
  | [] => false
  | t :: ts => anyLabel p t || anyLabelAll p ts

end

mutual

def map (f : α → β) : Tree α → Tree β
  | node a ts => node (f a) (mapAll f ts)

def mapAll (f : α → β) : List (Tree α) → List (Tree β)
  | [] => []
  | t :: ts => map f t :: mapAll f ts

end

mutual

/-- The subtrees in pre-order, each with its distance from the root plus `depth`. -/
def outline (depth : Nat) : Tree α → List (Nat × Tree α)
  | node a ts => (depth, node a ts) :: outlineAll (depth + 1) ts

def outlineAll (depth : Nat) : List (Tree α) → List (Nat × Tree α)
  | [] => []
  | t :: ts => outline depth t ++ outlineAll depth ts

end

@[simp] theorem sizeAll_append (ts us : List (Tree α)) :
    sizeAll (ts ++ us) = sizeAll ts + sizeAll us := by
  induction ts with
  | nil => simp [sizeAll]
  | cons t rest ih => simp only [List.cons_append, sizeAll, ih]; omega

theorem size_eq (t : Tree α) : t.size = sizeAll t.children + 1 := by
  cases t; rfl

/-- A walk keeps the trees that are still to come on a stack. The head of the list is on top. -/
structure Walk (α : Type) where
  stack : List (Tree α)

namespace Walk

def push (w : Walk α) (t : Tree α) : Walk α := ⟨t :: w.stack⟩

/-- Hands out the tree on top and pushes its children, the last one first, so that the first one comes
next. A walk with nothing left stays as it is. -/
def next : Walk α → Option (Tree α) × Walk α
  | ⟨[]⟩ => (none, ⟨[]⟩)
  | ⟨t :: rest⟩ => (some t, t.children.reverse.foldl push ⟨rest⟩)

theorem foldl_push_reverse (w : Walk α) (ts : List (Tree α)) :
    ts.reverse.foldl push w = ⟨ts ++ w.stack⟩ := by
  rw [List.foldl_reverse]
  induction ts with
  | nil => rfl
  | cons t rest ih => rw [List.foldr_cons, ih]; rfl

theorem next_cons (t : Tree α) (rest : List (Tree α)) :
    next ⟨t :: rest⟩ = (some t, ⟨t.children ++ rest⟩) := by
  rw [next, foldl_push_reverse]

/-- With each tree that is handed out, there is one node less to come. -/
theorem sizeAll_of_next {w later : Walk α} {t : Tree α} (h : w.next = (some t, later)) :
    sizeAll later.stack + 1 = sizeAll w.stack := by
  obtain ⟨_ | ⟨top, rest⟩⟩ := w
  · cases h
  · rw [next_cons] at h
    cases h
    rw [sizeAll_append, sizeAll, size_eq]
    omega

/-- All that the walk hands out until nothing is left. -/
def toList (w : Walk α) : List (Tree α) :=
  match _ : w.next with
  | (none, _) => []
  | (some t, later) => t :: toList later
termination_by sizeAll w.stack
decreasing_by
  have hless := sizeAll_of_next ‹w.next = _›
  omega

end Walk

/-- The walk that starts at the root. -/
def walk (t : Tree α) : Walk α := ⟨[t]⟩

/-- The nodes of one tree, as they are visited. -/
def nodes (t : Tree α) : List (Tree α) := t.walk.toList

end Tree

end Telemetry
