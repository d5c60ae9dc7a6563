import Telemetry.Forest.Assembly

/-!
# Building a forest in loops

`build` puts the forest together step by step. From each position in its turn, unless it was visited, the
kept links are followed with a stack, on which no position is put twice. Then, the last visited first,
each position takes the trees of its children out of their slots, and its own tree goes into its slot. The
tree of the position in turn becomes a root.
-/
namespace Telemetry.Forest

section

variable {n : Nat}

/-- Marks the positions that were not visited and puts them on the stack, the last one on top. -/
def stackNew (visited : Vector Bool n) (stack : List (Fin n)) :
    List (Fin n) → Vector Bool n × List (Fin n)
  | [] => (visited, stack)
  | c :: cs =>
    if visited.get c then stackNew visited stack cs
    else stackNew (visited.set c true c.isLt) (c :: stack) cs

/-- Each position that is put on the stack is one that was not visited. -/
theorem count_stackNew (visited : Vector Bool n) (stack cs : List (Fin n)) :
    (stackNew visited stack cs).1.count false + (stackNew visited stack cs).2.length =
      visited.count false + stack.length := by
  induction cs generalizing visited stack with
  | nil => rfl
  | cons c cs ih =>
    rw [stackNew]
    cases hc : visited.get c with
    | true => exact ih visited stack
    | false =>
      have hmem : false ∈ visited := hc ▸ Vector.getElem_mem c.isLt
      have hpos : 0 < visited.count false := Vector.count_pos_iff.mpr hmem
      have hset : (visited.set c true c.isLt).count false = visited.count false - 1 := by
        rw [Vector.count_set, show visited[c.val] = false from hc]
        rfl
      rw [if_neg Bool.false_ne_true, ih, hset, List.length_cons]
      omega

/-- Follows the links from the positions on the stack. The positions that were met come with the latest
first, after those met before. -/
def explore (next : Fin n → List (Fin n)) (visited : Vector Bool n) (met : List (Fin n)) :
    List (Fin n) → Vector Bool n × List (Fin n)
  | [] => (visited, met)
  | i :: stack =>
    explore next (stackNew visited stack (next i)).1 (i :: met) (stackNew visited stack (next i)).2
termination_by stack => visited.count false + stack.length
decreasing_by
  rw [count_stackNew, List.length_cons]
  omega

/-- The trees that no parent has taken yet. -/
abbrev Slots (n : Nat) := Vector (Option (Tree (Fin n))) n

/-- Takes trees out of their slots, where there are any. -/
def takeTrees (slots : Slots n) : List (Fin n) → List (Tree (Fin n)) × Slots n
  | [] => ([], slots)
  | c :: cs =>
    let (trees, rest) := takeTrees (slots.set c none c.isLt) cs
    ((slots.get c).toList ++ trees, rest)

def fill (next : Fin n → List (Fin n)) (slots : Slots n) (i : Fin n) : Slots n :=
  let (children, rest) := takeTrees slots (next i)
  rest.set i (some (.node i children)) i.isLt

structure Site (n : Nat) where
  visited : Vector Bool n
  slots : Slots n
  roots : List (Tree (Fin n))
  promoted : Nat

namespace Site

def empty (n : Nat) : Site n := ⟨.replicate n false, .replicate n none, [], 0⟩

/-- Makes the tree below a position a root unless the position was visited. -/
def start (next : Fin n → List (Fin n)) (promote : Bool) (w : Site n) (i : Fin n) : Site n :=
  if w.visited.get i then w
  else
    let (visited, met) := explore next (w.visited.set i true i.isLt) [] [i]
    let slots := met.foldl (fill next) w.slots
    { visited := visited
      slots := slots.set i none i.isLt
      roots := w.roots ++ (slots.get i).toList
      promoted := w.promoted + if promote then 1 else 0 }

end Site

end

variable (spans : List Span)

def site : Site spans.length :=
  (List.finRange spans.length).foldl (Site.start (kept spans) true)
    ((withoutParent spans).foldl (Site.start (kept spans) false) (.empty spans.length))

def build : Forest where
  roots := (site spans).roots.map (Tree.map spans.get)
  inconsistencies := strayCount spans + (site spans).promoted

end Telemetry.Forest
