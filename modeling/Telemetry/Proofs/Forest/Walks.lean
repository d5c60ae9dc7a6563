import Telemetry.Proofs.Counting
import Telemetry.Proofs.Forest.Preorder

/-!
# Walks over trees

A walk can be called again and again. The trees on its stack stand for the part of the pre-order that is
still to come, so the answers to the calls are the nodes one after the other, and then nothing any more.
Equal subtrees may occur at several nodes. What tells the nodes apart is the address, which lists the
places of the children on the way from the root; a walk meets the addresses in lexicographic order.
-/
namespace Telemetry

namespace Tree

variable {α : Type}

/-! ### Calls -/

namespace Walk

/-- The answer to a call, where the calls are counted from zero. -/
def answer (w : Walk α) : Nat → Option (Tree α)
  | 0 => w.next.1
  | n + 1 => w.next.2.answer n

theorem answer_eq_getElem? (w : Walk α) (n : Nat) : w.answer n = w.pending[n]? := by
  induction n generalizing w with
  | zero => rw [answer, w.next_of_pending.1, List.head?_eq_getElem?]
  | succ n ih => rw [answer, ih, w.next_of_pending.2, List.getElem?_tail]

end Walk

theorem answer_walk (t : Tree α) (n : Nat) : t.walk.answer n = t.subtrees[n]? := by
  rw [Walk.answer_eq_getElem?, Walk.pending, walk, List.flatMap_singleton]

theorem answer_walk_eq_none_iff (t : Tree α) (n : Nat) : t.walk.answer n = none ↔ t.size ≤ n := by
  rw [answer_walk, List.getElem?_eq_none_iff, length_subtrees]

/-! ### Addresses -/

/-- The subtree at an address. -/
def subtree? : Tree α → List Nat → Option (Tree α)
  | t, [] => some t
  | t, i :: rest => t.children[i]?.bind (subtree? · rest)

mutual

/-- The addresses of the nodes in pre-order. -/
def addresses : Tree α → List (List Nat)
  | node _ ts => [] :: addressesFrom 0 ts

/-- The addresses in trees that are children, the first of them at the given place. -/
def addressesFrom (i : Nat) : List (Tree α) → List (List Nat)
  | [] => []
  | t :: ts => (addresses t).map (i :: ·) ++ addressesFrom (i + 1) ts

end

theorem addressesFrom_eq_flatMap (i : Nat) (ts : List (Tree α)) :
    addressesFrom i ts = (ts.zipIdx i).flatMap fun e => e.1.addresses.map (e.2 :: ·) := by
  induction ts generalizing i with
  | nil => rfl
  | cons t rest ih => rw [addressesFrom, ih, List.zipIdx_cons, List.flatMap_cons]

theorem addresses_node (a : α) (ts : List (Tree α)) :
    (node a ts).addresses = [] :: ts.zipIdx.flatMap fun e => e.1.addresses.map (e.2 :: ·) := by
  rw [addresses, addressesFrom_eq_flatMap]

theorem subtree?_cons_of_mem_zipIdx {ts : List (Tree α)} {e : Tree α × Nat} (h : e ∈ ts.zipIdx)
    (a : α) (rest : List Nat) : (node a ts).subtree? (e.2 :: rest) = e.1.subtree? rest := by
  rw [subtree?, children_node, List.mem_zipIdx_iff_getElem?.mp h, Option.bind_some]

theorem map_subtree?_addresses (t : Tree α) :
    t.addresses.map t.subtree? = t.subtrees.map some := by
  induction t using induct with
  | h a ts ih =>
    have hbelow : ∀ e ∈ ts.zipIdx, (e.1.addresses.map (e.2 :: ·)).map (node a ts).subtree? =
        e.1.subtrees.map some := by
      intro e he
      rw [List.map_map, ← ih e.1 (List.fst_mem_of_mem_zipIdx he)]
      exact List.map_congr_left fun rest _ => subtree?_cons_of_mem_zipIdx he a rest
    have hplaces : ts.flatMap (fun t => t.subtrees.map some) =
        ts.zipIdx.flatMap fun e => e.1.subtrees.map some := by
      conv_lhs => rw [← List.zipIdx_map_fst 0 ts, List.flatMap_map]
    rw [addresses_node, subtrees_node, List.map_cons, List.map_cons, List.map_flatMap,
      List.map_flatMap, List.flatMap_congr hbelow, hplaces]
    rfl

theorem mem_addresses_iff {t : Tree α} {p : List Nat} :
    p ∈ t.addresses ↔ (t.subtree? p).isSome := by
  induction t using induct generalizing p with
  | h a ts ih =>
    rw [addresses_node]
    cases p with
    | nil => simp [subtree?]
    | cons i rest =>
      simp only [List.mem_cons, reduceCtorEq, false_or, List.mem_flatMap, List.mem_map,
        List.cons.injEq]
      constructor
      · rintro ⟨e, he, q, hq, rfl, rfl⟩
        rw [subtree?_cons_of_mem_zipIdx he]
        exact (ih e.1 (List.fst_mem_of_mem_zipIdx he)).mp hq
      · intro h
        obtain ⟨u, hu⟩ := Option.isSome_iff_exists.mp h
        obtain ⟨c, hc, hrest⟩ := Option.bind_eq_some_iff.mp hu
        have he : (c, i) ∈ ts.zipIdx := List.mem_zipIdx_iff_getElem?.mpr hc
        have hmem : rest ∈ c.addresses := (ih c (List.mem_of_getElem? hc)).mpr (hrest ▸ rfl)
        exact ⟨(c, i), he, rest, hmem, rfl, rfl⟩

/-- A node comes before those below it, and those below one child before those below a later one. -/
theorem pairwise_lt_addresses (t : Tree α) : t.addresses.Pairwise (· < ·) := by
  induction t using induct with
  | h a ts ih =>
    have hplaces : ts.zipIdx.Pairwise fun e f => e.2 < f.2 := by
      have hrange := List.pairwise_lt_range' 1 (s := 0) (n := ts.length)
      rwa [← List.zipIdx_map_snd, List.pairwise_map] at hrange
    rw [addresses_node, List.pairwise_cons, List.pairwise_flatMap]
    refine ⟨?_, ?_, ?_⟩
    · intro p hp
      obtain ⟨e, _, hp⟩ := List.mem_flatMap.mp hp
      obtain ⟨rest, _, rfl⟩ := List.mem_map.mp hp
      exact List.nil_lt_cons _ _
    · intro e he
      have hbelow := ih e.1 (List.fst_mem_of_mem_zipIdx he)
      rw [List.pairwise_map]
      exact hbelow.imp fun h => List.cons_lt_cons_iff.mpr (Or.inr ⟨rfl, h⟩)
    · -- Below different children, the first entries of the addresses decide.
      refine hplaces.imp fun hlt p hp q hq => ?_
      obtain ⟨_, _, rfl⟩ := List.mem_map.mp hp
      obtain ⟨_, _, rfl⟩ := List.mem_map.mp hq
      exact List.cons_lt_cons_iff.mpr (Or.inl hlt)

example : (node 'a' [node 'b' [node 'c' []], node 'd' []]).addresses = [[], [0], [0, 0], [1]] := by
  decide

end Tree

namespace Forest

theorem size_eq_sum (f : Forest) : f.size = (f.roots.map Tree.size).sum := by
  rw [size, nodes_eq_flatMap_subtrees, List.length_flatMap]
  exact congrArg List.sum (List.map_congr_left fun t _ => t.length_subtrees)

/-- Whatever the shape of a tree, the calls to its walk answer its nodes in pre-order, as many calls as
there are nodes, and nothing from then on. Each node is answered once: their addresses ascend strictly,
and none is left out. A forest has the nodes of its trees, tree by tree. -/
theorem walks_in_preorder {α : Type} (t : Tree α) (f : Forest) :
    t.subtrees = t :: t.children.flatMap Tree.subtrees ∧
    (∀ n, t.walk.answer n = t.subtrees[n]?) ∧ (∀ n, t.walk.answer n = none ↔ t.size ≤ n) ∧
    t.nodes = t.subtrees ∧ t.nodes.map some = t.addresses.map t.subtree? ∧
    t.addresses.Pairwise (· < ·) ∧ (∀ p, p ∈ t.addresses ↔ (t.subtree? p).isSome) ∧
    f.nodes = f.roots.flatMap Tree.subtrees ∧ f.size = (f.roots.map Tree.size).sum := by
  have hrecursive : t.subtrees = t :: t.children.flatMap Tree.subtrees := by
    obtain ⟨a, ts⟩ := t
    exact Tree.subtrees_node a ts
  have hplaces : t.nodes.map some = t.addresses.map t.subtree? := by
    rw [Tree.nodes_eq_subtrees, Tree.map_subtree?_addresses]
  exact ⟨hrecursive, t.answer_walk, t.answer_walk_eq_none_iff, t.nodes_eq_subtrees, hplaces,
    t.pairwise_lt_addresses, fun _ => Tree.mem_addresses_iff, f.nodes_eq_flatMap_subtrees,
    f.size_eq_sum⟩

end Forest

end Telemetry
