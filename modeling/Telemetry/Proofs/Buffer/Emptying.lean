import Telemetry.Proofs.Buffer.Migrations

/-!
# Emptying a buffer

A buffer is read without touching it, drained at once, or emptied by taking one item after the other.
All three show the same items in the same order, and the last two leave the same buffer behind. It has
room for as many items as it has places, and hands back every one after them.
-/
namespace Telemetry.Buffer

variable {α : Type} {b b' : Buffer α} {as : List α}

/-- Items are taken one after the other until there is none. -/
inductive TakesAll : Buffer α → List α → Buffer α → Prop
  | done {b : Buffer α} (h : b.take.2 = none) : TakesAll b [] b.take.1
  | next {b b' : Buffer α} {a : α} {as : List α} (h : b.take.2 = some a)
      (hrest : TakesAll b.take.1 as b') : TakesAll b (a :: as) b'

theorem emptied_pick {ps qs : List (Partition α)} (h : pick ps = some (a, qs)) :
    emptied qs = emptied ps := by
  have hcapacities (ps : List (Partition α)) :
      emptied ps = (ps.map (·.capacity)).map (⟨·, []⟩) := by
    rw [emptied, List.map_map]
    rfl
  rw [hcapacities, hcapacities, capacities_pick h]

theorem emptied_of_held_eq_nil {ps : List (Partition α)} (h : held ps = []) : emptied ps = ps := by
  refine (List.map_congr_left fun p hp => ?_).trans (List.map_id ps)
  have hitems : p.items = [] := List.flatMap_eq_nil_iff.mp h p hp
  rw [← hitems]
  rfl

theorem drain_of_held_eq_nil (h : held b.partitions = []) : b.drain.1 = b := by
  rw [drain_eq, h, emptied_of_held_eq_nil h]
  rfl

/-- A drained buffer does not tell whether an item was taken before. -/
theorem drain_take (b : Buffer α) : b.take.1.drain.1 = b.drain.1 := by
  cases hpick : pick b.partitions with
  | none => rw [take_of_empty hpick]
  | some r =>
    obtain ⟨a, ps⟩ := r
    obtain ⟨_, _, hheld, _⟩ := pick_cases hpick
    rw [take_of_pick hpick, drain_eq, drain_eq, hheld]
    dsimp only
    rw [emptied_pick hpick, List.length_cons, Nat.sub_sub, Nat.add_comm]

theorem takesAll_iff (hb : b.Tidy) : b.TakesAll as b' ↔ as = b.snapshot ∧ b' = b.drain.1 := by
  constructor
  · intro h
    induction h with
    | @done b h =>
      obtain ⟨hempty, _, htake⟩ | ⟨a, b', htake, _⟩ := hb.take_cases
      · rw [htake, drain_of_held_eq_nil hempty]
        exact ⟨hempty.symm, rfl⟩
      · rw [htake] at h
        cases h
    | @next b _ a as h _ ih =>
      obtain ⟨rfl, rfl⟩ := ih hb.take
      refine ⟨?_, drain_take b⟩
      obtain ⟨_, _, htake⟩ | ⟨a', b', htake, hgives⟩ := hb.take_cases
      · rw [htake] at h
        cases h
      · rw [htake] at h ⊢
        obtain rfl := Option.some.inj h
        exact hgives.held.symm
  · rintro ⟨rfl, rfl⟩
    generalize hitems : b.snapshot = as
    induction as generalizing b with
    | nil =>
      obtain ⟨hempty, _, htake⟩ | ⟨a, b', htake, hgives⟩ := hb.take_cases
      · have hdone : b.TakesAll [] b.take.1 := .done (by rw [htake])
        rw [drain_of_held_eq_nil hempty]
        rwa [htake] at hdone
      · cases hgives.held.symm.trans hitems
    | cons a rest ih =>
      obtain ⟨hempty, _⟩ | ⟨a', b', htake, hgives⟩ := hb.take_cases
      · cases hempty.symm.trans hitems
      · obtain ⟨rfl, hrest⟩ := List.cons.inj (hgives.held.symm.trans hitems)
        rw [← drain_take]
        refine .next (by rw [htake]) (ih hb.take ?_)
        rw [htake]
        exact hrest

/-- Single items are added as long as there is room, and all others are handed back. -/
theorem answers_serveAll_add (h : b.Tidy) {room : Nat} (hroom : b.count + room = b.capacity)
    (as : List α) : (b.serveAll (as.map .add)).2.map Dealing.answer =
      (as.take room).map (fun _ => .added none) ++ (as.drop room).map fun a => .added (some a) := by
  induction as generalizing b room with
  | nil => simp [serveAll]
  | cons a rest ih =>
    have htidy := h.add a
    rw [List.map_cons, serveAll, serve]
    dsimp only
    obtain ⟨hfull, hadd⟩ | ⟨b', hadd, hgets⟩ := h.add_cases a
    · rw [hadd] at htidy ⊢
      obtain rfl : room = 0 := by omega
      rw [List.map_cons, ih htidy hroom]
      rfl
    · have hle := hgets.tidy.count_le
      rw [hgets.count, hgets.capacity] at hle
      cases room with
      | zero => omega
      | succ room =>
        rw [hadd, List.map_cons, ih hgets.tidy (hgets.room hroom)]
        rfl

/-- A reachable buffer shows the same items in the same order when it is read, drained or emptied by
takes, which end and leave the drained buffer. That one is empty, and of any items that are added to it
one by one it accepts the first ones, as many as its capacity says, and hands back all others. -/
theorem readings_agree (h : b.Reachable) :
    b.drain.2 = b.snapshot ∧
    (∀ as b', b.TakesAll as b' ↔ as = b.snapshot ∧ b' = b.drain.1) ∧
    b.drain.1.snapshot = [] ∧ b.drain.1.count = 0 ∧ b.drain.1.rejected = b.rejected ∧
    b.drain.1.capacity = b.capacity ∧
    ∀ as : List α, (b.drain.1.serveAll (as.map .add)).2.map Dealing.answer =
      (as.take b.capacity).map (fun _ => .added none) ++
        (as.drop b.capacity).map fun a => .added (some a) := by
  have htidy := h.tidy.drain
  have hsnapshot : b.drain.1.snapshot = [] := by
    rw [drain_eq]
    exact held_emptied b.partitions
  have hcount : b.drain.1.count = 0 := by
    rw [htidy.count]
    exact congrArg List.length hsnapshot
  have hcapacity : b.drain.1.capacity = b.capacity := by rw [drain_eq]
  refine ⟨by rw [drain_eq]; rfl, fun as b' => takesAll_iff h.tidy, hsnapshot, hcount, by rw [drain_eq],
    hcapacity, fun as => answers_serveAll_add htidy ?_ as⟩
  rw [hcount, hcapacity, Nat.zero_add]

/-- A buffer with a hole in its first partition, and one more item than it has places. -/
theorem readings_agree_hole : ∃ start b : Buffer Nat, new 5 3 = .ok start ∧
    (start.serveAll [.addAll [1, 2, 3, 4, 5, 6], .take, .take]).1 = b ∧ b.Reachable ∧
    b.snapshot = [3, 4, 5] ∧ b.drain.2 = [3, 4, 5] ∧ b.TakesAll [3, 4, 5] b.drain.1 ∧
    b.drain.1.count = 0 ∧ b.drain.1.rejected = 1 ∧
    (b.drain.1.serveAll ([1, 2, 3, 4, 5, 6, 7].map .add)).2.map Dealing.answer =
      List.replicate 5 (.added none) ++ [.added (some 6), .added (some 7)] := by
  obtain ⟨start, hnew, _⟩ := tidy_new (α := Nat) 5 (show 0 < 3 by decide)
  have hb := (Reachable.new hnew).serveAll [.addAll [1, 2, 3, 4, 5, 6], .take, .take]
  obtain ⟨hdrain, htakes, _, hcount, hrejected, _, hadds⟩ := readings_agree hb
  obtain rfl := Except.ok.inj ((new_eq_ok 5 (by decide)).symm.trans hnew)
  exact ⟨_, _, hnew, rfl, hb, rfl, hdrain, (htakes _ _).mpr ⟨rfl, rfl⟩, hcount, hrejected,
    hadds [1, 2, 3, 4, 5, 6, 7]⟩

end Telemetry.Buffer
