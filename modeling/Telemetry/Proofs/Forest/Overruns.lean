import Telemetry.Proofs.Counting
import Telemetry.Proofs.Forest.Preorder
import Mathlib.Algebra.BigOperators.Group.List.Basic

/-!
# Time shared out over the nodes

The exclusive times of all nodes share out the time of the roots. Where the children of a node take
longer than the node, the rest of their time comes on top, since no exclusive time falls below zero.
Of all the sums only the last one can be cut: children whose sum is cut leave nothing to their node
in any case.
-/
namespace Telemetry

namespace Tree

variable (t : Tree Span)

/-- The nanoseconds of the children together, without a cut. -/
def childNanos : Nat := (t.children.map fun c => c.inclusive.nanos).sum

/-- How much longer than the node its children take together. -/
def overrun : Nat := t.childNanos - t.inclusive.nanos

theorem nanos_exclusive : t.exclusive.nanos = t.inclusive.nanos - t.childNanos := by
  have hsum : (Duration.sum (t.children.map inclusive)).nanos = min t.childNanos greatestNanos := by
    rw [Duration.nanos_sum, List.map_map]
    rfl
  have hcut := t.inclusive.nanos_le
  unfold exclusive
  rw [Duration.nanos_sub, hsum]
  omega

theorem exclusive_add_childNanos :
    t.exclusive.nanos + t.childNanos = t.inclusive.nanos + t.overrun := by
  have hexclusive := t.nanos_exclusive
  unfold overrun
  omega

/-- Every node but the root is counted among the children of one other node. -/
theorem total_inclusive_subtrees : (t.subtrees.map fun n => n.inclusive.nanos).sum =
    t.inclusive.nanos + (t.subtrees.map childNanos).sum := by
  induction t using induct with
  | h a ts ih =>
    have hchildren : (ts.map fun t => (t.subtrees.map fun n => n.inclusive.nanos).sum).sum =
        (node a ts).childNanos + (ts.map fun t => (t.subtrees.map childNanos).sum).sum := by
      rw [List.map_congr_left ih, List.sum_map_add]
      rfl
    rw [subtrees_node, List.map_cons, List.map_cons, List.sum_cons, List.sum_cons, sum_map_flatMap,
      sum_map_flatMap, hchildren]

end Tree

namespace Forest

variable (f : Forest)

/-- The exclusive times of all nodes together, without a cut. -/
def exclusiveNanos : Nat := (f.nodes.map fun n => n.exclusive.nanos).sum

def rootNanos : Nat := (f.roots.map fun t => t.inclusive.nanos).sum

def overrunNanos : Nat := (f.nodes.map Tree.overrun).sum

theorem nanos_totalExclusive : f.totalExclusive.nanos = min f.exclusiveNanos greatestNanos := by
  unfold totalExclusive exclusiveNanos
  rw [Duration.nanos_sum, List.map_map]
  rfl

theorem total_inclusive_nodes : (f.nodes.map fun n => n.inclusive.nanos).sum =
    f.rootNanos + (f.nodes.map Tree.childNanos).sum := by
  have hroots : (f.roots.map fun t => (t.subtrees.map fun n => n.inclusive.nanos).sum).sum =
      f.rootNanos + (f.roots.map fun t => (t.subtrees.map Tree.childNanos).sum).sum := by
    rw [List.map_congr_left fun t _ => t.total_inclusive_subtrees, List.sum_map_add]
    rfl
  rw [nodes_eq_flatMap_subtrees, sum_map_flatMap, sum_map_flatMap, hroots]

theorem exclusiveNanos_eq : f.exclusiveNanos = f.rootNanos + f.overrunNanos := by
  have hnodes : f.exclusiveNanos + (f.nodes.map Tree.childNanos).sum =
      (f.nodes.map fun n => n.inclusive.nanos).sum + f.overrunNanos := by
    unfold exclusiveNanos overrunNanos
    rw [← List.sum_map_add, ← List.sum_map_add]
    exact congrArg List.sum (List.map_congr_left fun n _ => n.exclusive_add_childNanos)
  have hinclusive := f.total_inclusive_nodes
  omega

theorem overrunNanos_eq_zero_iff :
    f.overrunNanos = 0 ↔ ∀ n ∈ f.nodes, n.childNanos ≤ n.inclusive.nanos := by
  unfold overrunNanos
  rw [List.sum_eq_zero_iff_forall_eq_nat, List.forall_mem_map]
  simp only [Tree.overrun, Nat.sub_eq_zero_iff_le]

/-- The exclusive time of a node is exact, and all of them together are the time of the roots and the
time by which children outlast their nodes; the total is cut only once. -/
theorem exclusive_time_adds_up :
    (∀ n ∈ f.nodes,
      (n.exclusive.nanos : Int) = max 0 ((n.inclusive.nanos : Int) - (n.childNanos : Int)) ∧
      n.exclusive ≤ n.inclusive) ∧
    f.totalExclusive.nanos = min f.exclusiveNanos greatestNanos ∧
    f.exclusiveNanos = f.rootNanos + f.overrunNanos ∧
    min f.rootNanos greatestNanos ≤ f.totalExclusive.nanos ∧
    (f.exclusiveNanos = f.rootNanos ↔ ∀ n ∈ f.nodes, n.childNanos ≤ n.inclusive.nanos) := by
  have htotal := f.nanos_totalExclusive
  have hshares := f.exclusiveNanos_eq
  refine ⟨fun n _ => ?_, htotal, hshares, ?_, ?_⟩
  · have hexclusive := n.nanos_exclusive
    constructor
    · omega
    · rw [Duration.le_iff]
      omega
  · omega
  · rw [← overrunNanos_eq_zero_iff]
    omega

def lasting (duration : Option Duration) : Span :=
  { Span.unfinished 0 "span" .custom 0 with duration := duration }

/-- A span that never ended, above two that take the longest time there is. -/
def unended : Tree Span :=
  .node (lasting none) [.node (lasting (some .greatest)) [], .node (lasting (some .greatest)) []]

/-- Sums that are cut among the children and in the total, and children that outlast their node. -/
def crowded : Forest where
  roots := [.node (lasting (some .greatest)) [unended],
    .node (lasting (some (.ofMillis 2))) [.node (lasting (some (.ofMillis 3))) []]]
  inconsistencies := 0

theorem exclusive_time_adds_up_crowded :
    unended ∈ crowded.nodes ∧ unended.childNanos = 2 * greatestNanos ∧
    (unended.exclusive.nanos : Int) = max 0 (0 - 2 * (greatestNanos : Int)) ∧
    crowded.rootNanos = greatestNanos + 2000000 ∧
    crowded.overrunNanos = 2 * greatestNanos + 1000000 ∧
    crowded.exclusiveNanos = 3 * greatestNanos + 3000000 ∧
    crowded.totalExclusive.nanos = greatestNanos ∧
    ¬ ∀ n ∈ crowded.nodes, n.childNanos ≤ n.inclusive.nanos := by
  have hadd (m : Nat) : m + 2000000 + (2 * m + 1000000) = 3 * m + 3000000 := by omega
  have hcut (m : Nat) : min (3 * m + 3000000) m = m := by omega
  have hdouble : 2 * greatestNanos = 36893488147419103231999999998 := by decide
  obtain ⟨hexact, htotal, hshares, _, hiff⟩ := exclusive_time_adds_up crowded
  have hmem : unended ∈ crowded.nodes := by
    rw [nodes_eq_flatMap_subtrees]
    simp [crowded, Tree.subtrees_node, unended]
  have hchildren : unended.childNanos = 2 * greatestNanos := by
    rw [hdouble]
    decide
  have hroots : crowded.rootNanos = greatestNanos + 2000000 := by decide
  have hoverrun : crowded.overrunNanos = 2 * greatestNanos + 1000000 := by
    rw [hdouble]
    decide +kernel
  have hsum : crowded.exclusiveNanos = 3 * greatestNanos + 3000000 := by
    rw [hshares, hroots, hoverrun, hadd]
  have hexclusive := (hexact unended hmem).1
  rw [hchildren] at hexclusive
  rw [hsum, hcut] at htotal
  refine ⟨hmem, hchildren, by exact_mod_cast hexclusive, hroots, hoverrun, hsum, htotal, ?_⟩
  rw [← hiff, hsum, hroots]
  decide

end Forest

end Telemetry
