import Telemetry.Proofs.Buffer.Books

/-!
# Divisions of a capacity

Two buffers of one capacity that is divided differently cannot be told apart by what they accept and by
how much they hold. Which items they give away may differ, but only after an item was picked: without
that, both hold the same items in the same order.
-/
namespace Telemetry.Buffer

variable {α : Type} {b b' : Buffer α}

/-- Two buffers of one capacity that hold equally many items and have rejected equally many. -/
structure Matched (b b' : Buffer α) : Prop where
  tidy : b.Tidy
  tidy' : b'.Tidy
  capacity : b'.capacity = b.capacity
  count : b'.count = b.count
  rejected : b'.rejected = b.rejected

namespace Matched

theorem length_held (h : b.Matched b') :
    (held b'.partitions).length = (held b.partitions).length := by
  rw [← h.tidy'.count, ← h.tidy.count]
  exact h.count

/-- Either both have room or both are full. -/
theorem place_cases (h : b.Matched b') (a a' : α) :
    (∃ ps ps', place a b.partitions = some ps ∧ place a' b'.partitions = some ps') ∨
      place a b.partitions = none ∧ place a' b'.partitions = none := by
  have hnone : place a' b'.partitions = none ↔ place a b.partitions = none := by
    rw [h.tidy'.place_eq_none_iff, h.tidy.place_eq_none_iff, h.count, h.capacity]
  cases hplace : place a b.partitions with
  | none => exact Or.inr ⟨rfl, hnone.mpr hplace⟩
  | some ps =>
    have hsome : place a' b'.partitions ≠ none := by
      rw [Ne, hnone, hplace]
      exact Option.some_ne_none ps
    obtain ⟨ps', hplace'⟩ := Option.ne_none_iff_exists'.mp hsome
    exact Or.inl ⟨ps, ps', rfl, hplace'⟩

/-- Either both hold something or both are empty. -/
theorem pick_cases (h : b.Matched b') :
    (∃ a ps a' ps', pick b.partitions = some (a, ps) ∧ pick b'.partitions = some (a', ps')) ∨
      pick b.partitions = none ∧ pick b'.partitions = none := by
  have hnone : pick b'.partitions = none ↔ pick b.partitions = none := by
    rw [pick_eq_none_iff, pick_eq_none_iff, ← List.length_eq_zero_iff, ← List.length_eq_zero_iff,
      h.length_held]
  cases hpick : pick b.partitions with
  | none => exact Or.inr ⟨rfl, hnone.mpr hpick⟩
  | some r =>
    have hsome : pick b'.partitions ≠ none := by
      rw [Ne, hnone, hpick]
      exact Option.some_ne_none r
    obtain ⟨r', hpick'⟩ := Option.ne_none_iff_exists'.mp hsome
    exact Or.inl ⟨r.1, r.2, r'.1, r'.2, rfl, hpick'⟩

theorem add (h : b.Matched b') (a a' : α) : (b.add a).1.Matched (b'.add a').1 := by
  have htidy := h.tidy.add a
  have htidy' := h.tidy'.add a'
  obtain ⟨ps, ps', hplace, hplace'⟩ | ⟨hfull, hfull'⟩ := h.place_cases a a'
  · rw [add_of_place hplace] at htidy ⊢
    rw [add_of_place hplace'] at htidy' ⊢
    exact ⟨htidy, htidy', h.capacity, congrArg (· + 1) h.count, h.rejected⟩
  · rw [add_of_full hfull] at htidy ⊢
    rw [add_of_full hfull'] at htidy' ⊢
    exact ⟨htidy, htidy', h.capacity, h.count, congrArg (· + 1) h.rejected⟩

theorem add_back (h : b.Matched b') (a : α) : (b'.add a).2 = (b.add a).2 := by
  obtain ⟨ps, ps', hplace, hplace'⟩ | ⟨hfull, hfull'⟩ := h.place_cases a a
  · rw [add_of_place hplace, add_of_place hplace']
  · rw [add_of_full hfull, add_of_full hfull']

theorem addAll (h : b.Matched b') (as : List α) :
    (b.addAll as).1.Matched (b'.addAll as).1 ∧ (b'.addAll as).2 = (b.addAll as).2 := by
  induction as generalizing b b' with
  | nil => exact ⟨h, rfl⟩
  | cons a rest ih =>
    obtain ⟨ps, ps', hplace, hplace'⟩ | ⟨hfull, hfull'⟩ := h.place_cases a a
    · obtain ⟨hrest, haccepted⟩ := ih (h.add a a)
      rw [(addAll_cons_of_place hplace).1, (addAll_cons_of_place hplace').1]
      exact ⟨hrest, congrArg (· + 1) haccepted⟩
    · rw [(addAll_cons_of_full hfull).1, (addAll_cons_of_full hfull').1]
      exact ⟨h.add a a, rfl⟩

theorem take (h : b.Matched b') :
    b.take.1.Matched b'.take.1 ∧ b'.take.2.isSome = b.take.2.isSome := by
  have htidy := h.tidy.take
  have htidy' := h.tidy'.take
  obtain ⟨a, ps, a', ps', hpick, hpick'⟩ | ⟨hempty, hempty'⟩ := h.pick_cases
  · rw [take_of_pick hpick] at htidy ⊢
    rw [take_of_pick hpick'] at htidy' ⊢
    exact ⟨⟨htidy, htidy', h.capacity, congrArg (· - 1) h.count, h.rejected⟩, rfl⟩
  · rw [take_of_empty hempty, take_of_empty hempty']
    exact ⟨h, rfl⟩

theorem drain (h : b.Matched b') :
    b.drain.1.Matched b'.drain.1 ∧ b'.drain.2.length = b.drain.2.length := by
  have htidy := h.tidy.drain
  have htidy' := h.tidy'.drain
  have hlength := h.length_held
  rw [drain_eq] at htidy ⊢
  rw [drain_eq] at htidy' ⊢
  refine ⟨⟨htidy, htidy', h.capacity, ?_, h.rejected⟩, hlength⟩
  dsimp only
  rw [hlength, h.count]

/-- Equally many items move to buffers of one capacity. -/
theorem moveItems {target target' : Buffer α} (htarget : target.Matched target')
    (h : b.Matched b') (moved fuel : Nat) :
    let m := moveItems target b moved fuel
    let m' := moveItems target' b' moved fuel
    m.target.Matched m'.target ∧ m.source.Matched m'.source := by
  induction fuel generalizing target target' b b' moved with
  | zero => exact ⟨htarget, h⟩
  | succ fuel ih =>
    by_cases hroom : target.count < target.capacity
    · have hroom' : target'.count < target'.capacity := by rwa [htarget.count, htarget.capacity]
      obtain ⟨a, ps, a', ps', hpick, hpick'⟩ | ⟨hempty, hempty'⟩ := h.pick_cases
      · obtain ⟨qs, qs', hplace, hplace'⟩ | ⟨hfull, _⟩ := htarget.place_cases a a'
        · rw [moveItems_succ hroom hpick hplace, moveItems_succ hroom' hpick' hplace']
          exact ih (htarget.add a a') h.take.1 (moved + 1)
        · have hcount := (htarget.tidy.place_eq_none_iff a).mp hfull
          omega
      · rw [Buffer.moveItems, if_pos hroom, take_of_empty hempty, Buffer.moveItems, if_pos hroom',
          take_of_empty hempty']
        exact ⟨htarget, h⟩
    · have hfull' : ¬ target'.count < target'.capacity := by rwa [htarget.count, htarget.capacity]
      rw [Buffer.moveItems, if_neg hroom, Buffer.moveItems, if_neg hfull']
      exact ⟨htarget, h⟩

theorem refl (h : b.Tidy) : b.Matched b := ⟨h, h, rfl, rfl, rfl⟩

end Matched

/-- The same is answered, and equally many items are given away or shown. -/
inductive Answer.Alike : Answer α → Answer α → Prop
  | added {back back' : Option α} (h : back' = back) : Alike (.added back) (.added back')
  | addedAll {n n' : Nat} (h : n' = n) : Alike (.addedAll n) (.addedAll n')
  | taken {a a' : Option α} (h : a'.isSome = a.isSome) : Alike (.taken a) (.taken a')
  | drained {as as' : List α} (h : as'.length = as.length) : Alike (.drained as) (.drained as')
  | seen {as as' : List α} (h : as'.length = as.length) : Alike (.seen as) (.seen as')
  | migrated {target target' : Buffer α} (h : target.Matched target') :
    Alike (.migrated (.ok target)) (.migrated (.ok target'))
  | refused (e : BufferError) : Alike (.migrated (.error e)) (.migrated (.error e))

theorem Matched.serve (h : b.Matched b') (r : Request α) :
    (b.serve r).1.Matched (b'.serve r).1 ∧ (b.serve r).2.Alike (b'.serve r).2 := by
  cases r with
  | add a => exact ⟨h.add a a, .added (h.add_back a)⟩
  | addAll as => exact ⟨(h.addAll as).1, .addedAll (h.addAll as).2⟩
  | take => exact ⟨h.take.1, .taken h.take.2⟩
  | drain => exact ⟨h.drain.1, .drained h.drain.2⟩
  | snapshot => exact ⟨h, .seen h.length_held⟩
  | migrate capacity partitions =>
    obtain rfl | hpositive := Nat.eq_zero_or_pos partitions
    · exact ⟨h, .refused _⟩
    · obtain ⟨target, hnew, htidy, _⟩ := tidy_new (α := α) capacity hpositive
      obtain ⟨htarget, hsource⟩ := (Matched.refl htidy).moveItems h 0 capacity
      rw [Buffer.serve, Buffer.serve, migrate, migrate, hnew]
      exact ⟨hsource, .migrated htarget⟩

/-- The same was asked, and alike is answered. -/
def Dealing.Alike (d d' : Dealing α) : Prop := d.request = d'.request ∧ d.answer.Alike d'.answer

theorem Matched.serveAll (h : b.Matched b') (rs : List (Request α)) :
    (b.serveAll rs).1.Matched (b'.serveAll rs).1 ∧
      List.Forall₂ Dealing.Alike (b.serveAll rs).2 (b'.serveAll rs).2 := by
  induction rs generalizing b b' with
  | nil => exact ⟨h, .nil⟩
  | cons r rest ih =>
    obtain ⟨hserve, halike⟩ := h.serve r
    obtain ⟨hmatched, hdealings⟩ := ih hserve
    exact ⟨hmatched, .cons ⟨rfl, halike⟩ hdealings⟩

/-! ### Without picking -/

/-- Whether items are picked one by one, which leaves holes before the others. -/
def Request.picks : Request α → Bool
  | .take | .migrate _ _ => true
  | .add _ | .addAll _ | .drain | .snapshot => false

/-- Two matched buffers that hold the same items in the same order, with no holes before any. -/
structure Level (b b' : Buffer α) : Prop where
  matched : b.Matched b'
  packed : Packed b.partitions
  packed' : Packed b'.partitions
  held : held b'.partitions = held b.partitions

namespace Level

theorem add (h : b.Level b') (a : α) : (b.add a).1.Level (b'.add a).1 := by
  have hmatched := h.matched.add a a
  obtain ⟨ps, ps', hplace, hplace'⟩ | ⟨hfull, hfull'⟩ := h.matched.place_cases a a
  · rw [add_of_place hplace, add_of_place hplace'] at hmatched ⊢
    refine ⟨hmatched, packed_place hplace h.packed, packed_place hplace' h.packed', ?_⟩
    dsimp only
    rw [held_place hplace h.packed, held_place hplace' h.packed', h.held]
  · rw [add_of_full hfull, add_of_full hfull'] at hmatched ⊢
    exact ⟨hmatched, h.packed, h.packed', h.held⟩

theorem addAll (h : b.Level b') (as : List α) : (b.addAll as).1.Level (b'.addAll as).1 := by
  induction as generalizing b b' with
  | nil => exact h
  | cons a rest ih =>
    obtain ⟨ps, ps', hplace, hplace'⟩ | ⟨hfull, hfull'⟩ := h.matched.place_cases a a
    · rw [(addAll_cons_of_place hplace).1, (addAll_cons_of_place hplace').1]
      exact ih (h.add a)
    · rw [(addAll_cons_of_full hfull).1, (addAll_cons_of_full hfull').1]
      exact h.add a

theorem drain (h : b.Level b') : b.drain.1.Level b'.drain.1 := by
  have hmatched := h.matched.drain.1
  have hempty := held_emptied b.partitions
  have hempty' := held_emptied b'.partitions
  rw [drain_eq, drain_eq] at hmatched ⊢
  exact ⟨hmatched, packed_of_held_eq_nil hempty, packed_of_held_eq_nil hempty',
    hempty'.trans hempty.symm⟩

theorem serve (h : b.Level b') {r : Request α} (hr : r.picks = false) :
    (b.serve r).1.Level (b'.serve r).1 ∧ (b'.serve r).2 = (b.serve r).2 := by
  cases r with
  | add a => exact ⟨h.add a, congrArg Answer.added (h.matched.add_back a)⟩
  | addAll as => exact ⟨h.addAll as, congrArg Answer.addedAll (h.matched.addAll as).2⟩
  | take => cases hr
  | drain =>
    refine ⟨h.drain, congrArg Answer.drained ?_⟩
    rw [clear_eq, clear_eq]
    exact h.held
  | snapshot => exact ⟨h, congrArg Answer.seen h.held⟩
  | migrate capacity partitions => cases hr

theorem serveAll (h : b.Level b') {rs : List (Request α)} (hrs : ∀ r ∈ rs, r.picks = false) :
    (b'.serveAll rs).2 = (b.serveAll rs).2 := by
  induction rs generalizing b b' with
  | nil => rfl
  | cons r rest ih =>
    rw [List.forall_mem_cons] at hrs
    obtain ⟨hlevel, hanswer⟩ := h.serve hrs.1
    rw [Buffer.serveAll, Buffer.serveAll]
    dsimp only
    rw [hanswer, ih hlevel hrs.2]

end Level

/-- However a capacity is divided, alike is answered and the counters agree after every request. As long
as no item is picked, all answers are the same. -/
theorem divisions_answer_alike (capacity : Nat) {partitions partitions' : Nat} (h : 0 < partitions)
    (h' : 0 < partitions') :
    ∃ b b' : Buffer α, new capacity partitions = .ok b ∧ new capacity partitions' = .ok b' ∧
      ∀ rs : List (Request α),
        List.Forall₂ Dealing.Alike (b.serveAll rs).2 (b'.serveAll rs).2 ∧
        (∀ n, (b.serveAll (rs.take n)).1.count = (b'.serveAll (rs.take n)).1.count ∧
          (b.serveAll (rs.take n)).1.rejected = (b'.serveAll (rs.take n)).1.rejected) ∧
        ((∀ r ∈ rs, r.picks = false) → (b.serveAll rs).2 = (b'.serveAll rs).2) := by
  obtain ⟨b, hnew, htidy, hcapacity, hrejected, hheld⟩ := tidy_new (α := α) capacity h
  obtain ⟨b', hnew', htidy', hcapacity', hrejected', hheld'⟩ := tidy_new (α := α) capacity h'
  have hmatched : b.Matched b' := by
    refine ⟨htidy, htidy', hcapacity'.trans hcapacity.symm, ?_, hrejected'.trans hrejected.symm⟩
    rw [htidy.count, htidy'.count, hheld, hheld']
  have hlevel : b.Level b' := ⟨hmatched, packed_of_held_eq_nil hheld, packed_of_held_eq_nil hheld',
    hheld'.trans hheld.symm⟩
  refine ⟨b, b', hnew, hnew', fun rs => ⟨(hmatched.serveAll rs).2, fun n => ?_, fun hrs => ?_⟩⟩
  · have hrun := (hmatched.serveAll (rs.take n)).1
    exact ⟨hrun.count.symm, hrun.rejected.symm⟩
  · exact (hlevel.serveAll hrs).symm

/-- After an item was taken, a new one fills the first partition before the others are reached. -/
theorem divisions_answer_alike_with_holes : 0 < 1 ∧ 0 < 2 ∧ ∃ b b' : Buffer Nat,
    new 4 1 = .ok b ∧ new 4 2 = .ok b' ∧
    let rs : List (Request Nat) := [.addAll [1, 2, 3, 4, 5], .take, .add 6, .snapshot, .drain]
    List.Forall₂ Dealing.Alike (b.serveAll rs).2 (b'.serveAll rs).2 ∧
      (b.serveAll (rs.take 3)).1.snapshot = [2, 3, 4, 6] ∧
      (b'.serveAll (rs.take 3)).1.snapshot = [2, 6, 3, 4] ∧
      (b.serveAll (rs.take 1)).1.rejected = 1 := by
  obtain ⟨b, b', hnew, hnew', hrun⟩ :=
    divisions_answer_alike (α := Nat) 4 (show 0 < 1 by decide) (show 0 < 2 by decide)
  refine ⟨by decide, by decide, b, b', hnew, hnew', (hrun _).1, ?_⟩
  obtain rfl := Except.ok.inj ((new_eq_ok 4 (by decide)).symm.trans hnew)
  obtain rfl := Except.ok.inj ((new_eq_ok 4 (by decide)).symm.trans hnew')
  exact ⟨rfl, rfl, rfl⟩

end Telemetry.Buffer
