import Telemetry.Proofs.Buffer.Calls

/-!
# No wake-up is lost

Whatever the order of turns is, a call that waits and has heard of nothing waits at an empty buffer. So
as soon as nobody is left to be polled, nobody waits for an item that is there. Items only leave with
the call that returns them, and a cancelled call returns without one.
-/
namespace Telemetry

variable {α ι : Type}

namespace Occurrence

/-- The item that the buffer accepted. -/
def accepted : Occurrence α ι → List α
  | ⟨.add a, .added none⟩ => [a]
  | _ => []

/-- The items that were returned, to a call that waited or directly. -/
def released : Occurrence α ι → List α
  | ⟨_, .polled (some (_, .taken a))⟩ => [a]
  | ⟨_, .taken a⟩ => a.toList
  | ⟨_, .drained as⟩ => as
  | _ => []

end Occurrence

namespace WaitingRoom

open Buffer
open scoped List

variable {w u v : WaitingRoom α ι}

/-- Who listens and has heard of nothing has missed nothing. -/
structure Attentive (w : WaitingRoom α ι) : Prop where
  tidy : w.buffer.Tidy
  missed : ∀ c ∈ w.calls, c.stage = .listening false → held w.buffer.partitions = []

theorem held_ne_nil_of_pick {b : Buffer α} {a : α} {ps : List (Partition α)}
    (h : pick b.partitions = some (a, ps)) : held b.partitions ≠ [] := by
  rw [Ne, ← pick_eq_none_iff, h]
  exact Option.some_ne_none _

theorem stage_hear_ne (c : Call ι) : c.hear.stage ≠ .listening false := by
  obtain ⟨id, cancelled, stage⟩ := c
  cases stage <;> simp [Call.hear]

namespace Attentive

theorem enter (h : w.Attentive) (id : ι) (cancelled : Bool) : (w.enter id cancelled).Attentive := by
  refine ⟨h.tidy, fun c hc hstage => ?_⟩
  obtain hc | hc := List.mem_append.mp hc
  · exact h.missed c hc hstage
  · obtain rfl := List.mem_singleton.mp hc
    cases hstage

theorem poll (h : w.Attentive) (k : Nat) : (w.poll k).1.Attentive := by
  obtain ⟨_, hpoll⟩ | ⟨c, _, ⟨_, hpoll⟩ | ⟨_, hpoll⟩ | ⟨_, _, ⟨hpick, hpoll⟩ | ⟨a, ps, hpick, hpoll⟩⟩⟩ :=
    w.poll_cases k <;> rw [hpoll]
  · exact h
  · exact ⟨h.tidy, fun c hc => h.missed c (List.mem_of_mem_eraseIdx hc)⟩
  · exact h
  · exact ⟨h.tidy, fun _ _ _ => pick_eq_none_iff.mp hpick⟩
  · -- There was an item, so all others that listen had heard of it.
    refine ⟨h.tidy.take, fun c hc hstage => ?_⟩
    exact absurd (h.missed c (List.mem_of_mem_eraseIdx hc) hstage) (held_ne_nil_of_pick hpick)

theorem add (h : w.Attentive) (a : α) : (w.add a).1.Attentive := by
  have htidy := h.tidy.add a
  cases hplace : place a w.buffer.partitions with
  | none =>
    rw [add_of_full hplace] at htidy
    rw [WaitingRoom.add, add_of_full hplace]
    exact ⟨htidy, h.missed⟩
  | some ps =>
    rw [add_of_place hplace] at htidy
    rw [WaitingRoom.add, add_of_place hplace]
    refine ⟨htidy, fun c hc hstage => ?_⟩
    obtain ⟨c, _, rfl⟩ := List.mem_map.mp hc
    exact absurd hstage (stage_hear_ne c)

theorem take (h : w.Attentive) : w.take.1.Attentive := by
  refine ⟨h.tidy.take, fun c hc hstage => ?_⟩
  have hempty := h.missed c hc hstage
  have hpick := pick_eq_none_iff.mpr hempty
  rw [WaitingRoom.take, take_of_empty hpick]
  exact hempty

theorem drain (h : w.Attentive) : w.drain.1.Attentive := by
  refine ⟨h.tidy.drain, fun _ _ _ => ?_⟩
  rw [WaitingRoom.drain, drain_eq]
  exact held_emptied _

theorem cancel (h : w.Attentive) (k : Nat) : (w.cancel k).Attentive := by
  refine ⟨h.tidy, fun c hc hstage => ?_⟩
  obtain ⟨j, hj⟩ := List.mem_iff_getElem?.mp hc
  rw [WaitingRoom.cancel, List.getElem?_modify] at hj
  obtain ⟨d, hd, rfl⟩ := Option.map_eq_some_iff.mp hj
  refine h.missed d (List.mem_of_getElem? hd) ?_
  split_ifs at hstage <;> exact hstage

theorem step (h : w.Attentive) (t : Turn α ι) : (w.step t).1.Attentive := by
  cases t with
  | enter id cancelled => exact h.enter id cancelled
  | poll k => exact h.poll k
  | add a => exact h.add a
  | take => exact h.take
  | drain => exact h.drain
  | cancel k => exact h.cancel k

theorem run (h : w.Attentive) (ts : List (Turn α ι)) : (w.run ts).1.Attentive := by
  induction ts generalizing w with
  | nil => exact h
  | cons t rest ih => exact ih (h.step t)

/-- Who waits where something is held has a reason to be polled. -/
theorem ready_of_stock (h : w.Attentive) (hstock : w.buffer.isEmpty = false) {c : Call ι}
    (hc : c ∈ w.calls) : c.ready = true := by
  have hcount : w.buffer.count ≠ 0 := by simpa [isEmpty] using hstock
  have hheld : held w.buffer.partitions ≠ [] := by
    rwa [Ne, ← List.length_eq_zero_iff, ← h.tidy.count]
  cases hstage : c.stage with
  | fresh => rw [Call.ready, hstage]
  | listening heard =>
    cases heard with
    | false => exact absurd (h.missed c hc hstage) hheld
    | true => rw [Call.ready, hstage]; rfl

end Attentive

/-! ### What becomes of items -/

/-- What was there and what was accepted has been released or is still there. -/
def Accounted (w : WaitingRoom α ι) (os : List (Occurrence α ι)) (u : WaitingRoom α ι) : Prop :=
  (held w.buffer.partitions ++ os.flatMap Occurrence.accepted).Perm
    (os.flatMap Occurrence.released ++ held u.buffer.partitions)

theorem Accounted.trans {os os' : List (Occurrence α ι)} (h : w.Accounted os u)
    (h' : u.Accounted os' v) : w.Accounted (os ++ os') v := by
  rw [Accounted, List.flatMap_append, List.flatMap_append]
  calc held w.buffer.partitions ++
        (os.flatMap Occurrence.accepted ++ os'.flatMap Occurrence.accepted)
    _ = held w.buffer.partitions ++ os.flatMap Occurrence.accepted ++
        os'.flatMap Occurrence.accepted := (List.append_assoc ..).symm
    _ ~ os.flatMap Occurrence.released ++ held u.buffer.partitions ++
        os'.flatMap Occurrence.accepted := h.append_right _
    _ = os.flatMap Occurrence.released ++ (held u.buffer.partitions ++
        os'.flatMap Occurrence.accepted) := List.append_assoc ..
    _ ~ os.flatMap Occurrence.released ++ (os'.flatMap Occurrence.released ++
        held v.buffer.partitions) := h'.append_left _
    _ = os.flatMap Occurrence.released ++ os'.flatMap Occurrence.released ++
        held v.buffer.partitions := (List.append_assoc ..).symm

theorem accounted_of_buffer_eq {o : Occurrence α ι} (haccepted : o.accepted = [])
    (hreleased : o.released = []) (h : u.buffer = w.buffer) : w.Accounted [o] u := by
  rw [Accounted, List.flatMap_singleton, List.flatMap_singleton, haccepted, hreleased, h,
    List.append_nil, List.nil_append]

theorem accounted_of_pick {o : Occurrence α ι} {a : α} {ps : List (Partition α)}
    (haccepted : o.accepted = []) (hreleased : o.released = [a])
    (hpick : pick w.buffer.partitions = some (a, ps)) (h : u.buffer = w.buffer.take.1) :
    w.Accounted [o] u := by
  obtain ⟨_, _, hheld, _⟩ := pick_cases hpick
  rw [Accounted, List.flatMap_singleton, List.flatMap_singleton, haccepted, hreleased, h, hheld,
    take_of_pick hpick, List.append_nil]
  rfl

theorem accounted_poll (w : WaitingRoom α ι) (k : Nat) :
    w.Accounted [⟨.poll k, .polled (w.poll k).2⟩] (w.poll k).1 := by
  obtain ⟨_, hpoll⟩ | ⟨c, _, ⟨_, hpoll⟩ | ⟨_, hpoll⟩ | ⟨_, _, ⟨_, hpoll⟩ | ⟨a, ps, hpick, hpoll⟩⟩⟩ :=
    w.poll_cases k <;> rw [hpoll]
  · exact accounted_of_buffer_eq rfl rfl rfl
  · exact accounted_of_buffer_eq rfl rfl rfl
  · exact accounted_of_buffer_eq rfl rfl rfl
  · exact accounted_of_buffer_eq rfl rfl rfl
  · exact accounted_of_pick rfl rfl hpick rfl

theorem accounted_add (w : WaitingRoom α ι) (a : α) :
    w.Accounted [⟨.add a, .added (w.add a).2⟩] (w.add a).1 := by
  cases hplace : place a w.buffer.partitions with
  | none =>
    rw [WaitingRoom.add, add_of_full hplace, Accounted]
    exact List.Perm.of_eq (List.append_nil _)
  | some ps =>
    rw [WaitingRoom.add, add_of_place hplace]
    exact List.perm_append_comm.trans (held_place_perm hplace).symm

theorem accounted_take (w : WaitingRoom α ι) :
    w.Accounted [⟨.take, .taken w.take.2⟩] w.take.1 := by
  cases hpick : pick w.buffer.partitions with
  | none =>
    rw [WaitingRoom.take, take_of_empty hpick]
    exact accounted_of_buffer_eq rfl rfl rfl
  | some r =>
    have htaken : w.take.2 = some r.1 := by rw [WaitingRoom.take, take_of_pick hpick]
    rw [htaken]
    exact accounted_of_pick rfl rfl hpick rfl

theorem accounted_drain (w : WaitingRoom α ι) :
    w.Accounted [⟨.drain, .drained w.drain.2⟩] w.drain.1 := by
  rw [WaitingRoom.drain, drain_eq, Accounted]
  dsimp only
  rw [held_emptied, List.append_nil, List.flatMap_singleton, List.flatMap_singleton]
  exact List.Perm.of_eq (List.append_nil _)

theorem accounted_step (w : WaitingRoom α ι) (t : Turn α ι) :
    w.Accounted [⟨t, (w.step t).2⟩] (w.step t).1 := by
  cases t with
  | enter id cancelled => exact accounted_of_buffer_eq rfl rfl rfl
  | poll k => exact accounted_poll w k
  | add a => exact accounted_add w a
  | take => exact accounted_take w
  | drain => exact accounted_drain w
  | cancel k => exact accounted_of_buffer_eq rfl rfl rfl

theorem accounted_run (w : WaitingRoom α ι) (ts : List (Turn α ι)) :
    w.Accounted (w.run ts).2 (w.run ts).1 := by
  induction ts generalizing w with
  | nil => exact List.Perm.of_eq (List.append_nil _)
  | cons t rest ih => exact (accounted_step w t).trans (ih (w.step t).1)

theorem buffer_poll_of_ne_taken {k : Nat} {id : ι} {r : Poll α}
    (h : (w.poll k).2 = some (id, r)) (hr : ∀ a, r ≠ .taken a) :
    (w.poll k).1.buffer = w.buffer := by
  obtain ⟨_, hpoll⟩ | ⟨c, _, ⟨_, hpoll⟩ | ⟨_, hpoll⟩ | ⟨_, _, ⟨_, hpoll⟩ | ⟨a, ps, _, hpoll⟩⟩⟩ :=
    w.poll_cases k <;> rw [hpoll] at h ⊢
  obtain rfl : .taken a = r := congrArg Prod.snd (Option.some.inj h)
  exact absurd rfl (hr a)

theorem poll_of_fired {k : Nat} {c : Call ι} (hc : w.calls[k]? = some c)
    (hcancelled : c.cancelled = true) : (w.poll k).2 = some (c.id, .cancelled) := by
  rw [poll_of_returned hc (Call.poll_of_cancelled hcancelled) (by simp)]

/-- What holds of a buffer and of the calls that wait at it after some turns. -/
structure Served (w : WaitingRoom α ι) (os : List (Occurrence α ι)) : Prop where
  /-- Every accepted item went to one consumer or is still held. -/
  items : (os.flatMap Occurrence.accepted).Perm
    (os.flatMap Occurrence.released ++ w.buffer.snapshot)
  /-- A poll that returns no item removes nothing. -/
  removes : ∀ k id r, (w.poll k).2 = some (id, r) → (∀ a, r ≠ .taken a) →
    (w.poll k).1.buffer = w.buffer
  cancelled : ∀ k c, w.calls[k]? = some c → c.cancelled = true →
    (w.poll k).2 = some (c.id, .cancelled)
  taken : ∀ k c, w.calls[k]? = some c → c.ready = true → c.cancelled = false →
    w.buffer.isEmpty = false → ∃ a, (w.poll k).2 = some (c.id, .taken a)
  /-- Where nobody is left to be polled, nobody waits for an item that is there. -/
  woken : (∀ c ∈ w.calls, c.ready = false) → w.buffer.isEmpty = false →
    ∀ c ∈ w.calls, c.cancelled = true

theorem Attentive.served (h : w.Attentive) {start : WaitingRoom α ι} {os : List (Occurrence α ι)}
    (hstart : held start.buffer.partitions = []) (hitems : start.Accounted os w) : w.Served os where
  items := by
    rw [Accounted, hstart, List.nil_append] at hitems
    exact hitems
  removes _ _ _ := buffer_poll_of_ne_taken
  cancelled _ _ := poll_of_fired
  taken k c hc hready hopen hstock := by
    have hcount : w.buffer.count ≠ 0 := by simpa [isEmpty] using hstock
    have hpick : pick w.buffer.partitions ≠ none := by
      rwa [Ne, pick_eq_none_iff, ← List.length_eq_zero_iff, ← h.tidy.count]
    obtain ⟨⟨a, ps⟩, hpick⟩ := Option.ne_none_iff_exists'.mp hpick
    have hpoll := (Call.poll_of_ready hopen hready).trans (Call.look_of_pick hopen hpick)
    exact ⟨a, congrArg Prod.snd (poll_of_returned hc hpoll (by simp))⟩
  woken hready hstock c hc := by
    have hmust := h.ready_of_stock hstock hc
    rw [hready c hc] at hmust
    cases hmust

/-- In whatever order calls enter, are polled and are cancelled, and items are added, taken and drained:
no item is lost or given away twice, a call that returns without an item has removed none, a cancelled
call does so at its next poll, and no wake-up is lost. -/
theorem no_wake_up_lost [DecidableEq ι] (capacity : Nat) {partitions : Nat} (h : 0 < partitions) :
    ∃ b : Buffer α, new capacity partitions = .ok b ∧ ∀ ts : List (Turn α ι),
      let w := ((WaitingRoom.mk b []).run ts).1
      w.Served ((WaitingRoom.mk b []).run ts).2 ∧ w.Enacts := by
  obtain ⟨b, hnew, htidy, _, _, hempty⟩ := tidy_new (α := α) capacity h
  have hstart : (WaitingRoom.mk b [] : WaitingRoom α ι).Attentive := ⟨htidy, fun _ _ _ => hempty⟩
  refine ⟨b, hnew, fun ts => ⟨?_, enacts _⟩⟩
  exact (hstart.run ts).served hempty (accounted_run _ ts)

/-- Two calls hear of one item and one of them gets it; the other goes on to wait, hears of a second
item and is cancelled before it is polled again. -/
def twoCalls : List (Turn Nat String) :=
  [.enter "first" false, .enter "second" false, .poll 0, .poll 1, .add 7, .poll 1, .poll 0, .add 8,
    .cancel 0]

theorem no_wake_up_lost_twoCalls : 0 < 1 ∧ ∃ b : Buffer Nat, new 2 1 = .ok b ∧
    let w := ((WaitingRoom.mk b []).run twoCalls).1
    let os := ((WaitingRoom.mk b []).run twoCalls).2
    w.Served os ∧ os.flatMap Occurrence.released = [7] ∧ w.buffer.snapshot = [8] ∧
      w.calls = [⟨"first", true, .listening true⟩] ∧
      (w.poll 0).2 = some ("first", .cancelled) := by
  obtain ⟨b, hnew, hrun⟩ := no_wake_up_lost (α := Nat) (ι := String) 2 (show 0 < 1 by decide)
  obtain ⟨hserved, _⟩ := hrun twoCalls
  refine ⟨by decide, b, hnew, hserved, ?_⟩
  obtain rfl := Except.ok.inj ((new_eq_ok 2 (by decide)).symm.trans hnew)
  exact ⟨rfl, rfl, rfl, rfl⟩

end WaitingRoom

end Telemetry
