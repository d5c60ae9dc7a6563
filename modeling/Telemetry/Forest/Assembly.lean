import Telemetry.Forest.Links
import Telemetry.Forest.Tree

/-!
# Forests of spans

The spans of a transaction make up a forest. Its first roots are the spans without a parent, in
order; then every span that no tree before it contains becomes a root, in order, so links that run in
circles lose nothing. Below a root the kept links are followed, but never into another root.
-/
namespace Telemetry

structure Forest where
  roots : List (Tree Span)
  /-- Stray links, and spans that became roots although they name a parent. -/
  inconsistencies : Nat

namespace Forest

variable (spans : List Span)

/-- The tree below a position, as deep as there is fuel. -/
def grow (roots : List (Fin spans.length)) : Nat → Fin spans.length → Tree (Fin spans.length)
  | 0, i => .node i []
  | fuel + 1, i => .node i (((kept spans i).filter (!roots.contains ·)).map (grow roots fuel))

/-- Trees planted so far, and how many of their roots were promoted. -/
structure Grove where
  trees : List (Tree (Fin spans.length))
  promoted : Nat

variable {spans}

def Grove.roots (g : Grove spans) : List (Fin spans.length) := g.trees.map Tree.label

def Grove.covers (g : Grove spans) (i : Fin spans.length) : Bool :=
  Tree.anyLabelAll (· == i) g.trees

/-- Makes a position a root unless a tree contains it. No path is longer than the list of spans. -/
def Grove.plant (promote : Bool) (g : Grove spans) (i : Fin spans.length) : Grove spans :=
  if g.covers i then g
  else
    { trees := g.trees ++ [grow spans (g.roots ++ [i]) spans.length i]
      promoted := g.promoted + if promote then 1 else 0 }

variable (spans)

def withoutParent : List (Fin spans.length) :=
  (List.finRange spans.length).filter fun i => (parent? spans i).isNone

def grove : Grove spans :=
  (List.finRange spans.length).foldl (Grove.plant true)
    ((withoutParent spans).foldl (Grove.plant false) ⟨[], 0⟩)

def ofSpans : Forest where
  roots := (grove spans).trees.map (Tree.map spans.get)
  inconsistencies := strayCount spans + (grove spans).promoted

end Forest

end Telemetry
