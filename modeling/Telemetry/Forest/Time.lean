import Telemetry.Forest.Assembly

/-!
# Time in a forest

The exclusive time of a node is its own time less the time of its direct children, which may overlap
or outlast it; it never falls below zero.
-/
namespace Telemetry

namespace Tree

def inclusive (t : Tree Span) : Duration := t.label.inclusive

def exclusive (t : Tree Span) : Duration :=
  t.inclusive - Duration.sum (t.children.map inclusive)

end Tree

namespace Forest

/-- The root that stands for the transaction where only one tree is wanted. -/
def primary? (f : Forest) : Option (Tree Span) := f.roots.head?

def isEmpty (f : Forest) : Bool := f.roots.isEmpty

/-- All nodes, tree by tree. -/
def nodes (f : Forest) : List (Tree Span) := f.roots.flatMap Tree.nodes

def size (f : Forest) : Nat := f.nodes.length

def totalExclusive (f : Forest) : Duration := Duration.sum (f.nodes.map Tree.exclusive)

end Forest

end Telemetry
