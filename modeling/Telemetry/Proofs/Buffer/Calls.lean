import Telemetry.Buffer.Waiting
import Telemetry.Proofs.Buffer.Operations

/-!
# Calls that wait

A call that takes an item runs from one poll to the next without a break. On its way it listens for
items that are added; who listens already hears of an item and is polled again, and nobody else does.
Polls, additions, takes and cancellations come in any order. What a pool does with its takers is one of
these orders: a new taker is polled at once, and all takers that were woken are polled in turn.
-/
namespace Telemetry

inductive Stage
  /-- Not polled yet, so it listens to nothing. -/
  | fresh
  /-- It waits, and has heard of an added item or not. -/
  | listening (heard : Bool)
deriving DecidableEq

/-- A call that has not returned yet. -/
structure Call (ι : Type) where
  id : ι
  cancelled : Bool
  stage : Stage

/-- A buffer with the calls that wait for its items, in the order in which they were made. -/
structure WaitingRoom (α ι : Type) where
  buffer : Buffer α
  calls : List (Call ι)

namespace Call

variable {α ι : Type}

/-- Whether there is a reason to poll it. -/
def ready (c : Call ι) : Bool :=
  match c.stage with
  | .fresh => true
  | .listening heard => heard || c.cancelled

def hear (c : Call ι) : Call ι :=
  match c.stage with
  | .fresh => c
  | .listening _ => { c with stage := .listening true }

def listen (c : Call ι) : Call ι := { c with stage := .listening false }

/-- One round of the loop. It listens before it looks, so it hears of all that comes after the look. -/
def look (c : Call ι) (b : Buffer α) : Buffer α × Call ι × Poll α :=
  if c.cancelled then (b, c, .cancelled)
  else
    let c := c.listen
    match b.take with
    | (b, some a) => (b, c, .taken a)
    | (b, none) => (b, c, .pending)

/-- Goes on to where it waits next or returns. Being cancelled comes before anything it has heard of. -/
def poll (c : Call ι) (b : Buffer α) : Buffer α × Call ι × Poll α :=
  match c.stage with
  | .fresh => c.look b
  | .listening heard =>
    if c.cancelled then (b, c, .cancelled)
    else if heard then c.look b
    else (b, c, .pending)

end Call

namespace WaitingRoom

variable {α ι : Type}

def enter (w : WaitingRoom α ι) (id : ι) (cancelled : Bool) : WaitingRoom α ι :=
  { w with calls := w.calls ++ [⟨id, cancelled, .fresh⟩] }

/-- Polls the call at a position. -/
def poll (w : WaitingRoom α ι) (k : Nat) : WaitingRoom α ι × Option (ι × Poll α) :=
  match w.calls[k]? with
  | none => (w, none)
  | some c =>
    match c.poll w.buffer with
    | (b, c, .pending) => (⟨b, w.calls.set k c⟩, some (c.id, .pending))
    | (b, c, r) => (⟨b, w.calls.eraseIdx k⟩, some (c.id, r))

/-- An item that is accepted is heard of by all who listen. -/
def add (w : WaitingRoom α ι) (a : α) : WaitingRoom α ι × Option α :=
  match w.buffer.add a with
  | (b, none) => (⟨b, w.calls.map Call.hear⟩, none)
  | (b, some a) => (⟨b, w.calls⟩, some a)

def take (w : WaitingRoom α ι) : WaitingRoom α ι × Option α :=
  let (b, a) := w.buffer.take
  (⟨b, w.calls⟩, a)

def drain (w : WaitingRoom α ι) : WaitingRoom α ι × List α :=
  let (b, as) := w.buffer.drain
  (⟨b, w.calls⟩, as)

/-- Cancels the call at a position. -/
def cancel (w : WaitingRoom α ι) (k : Nat) : WaitingRoom α ι :=
  { w with calls := w.calls.modify k ({ · with cancelled := true }) }

end WaitingRoom

inductive Turn (α ι : Type)
  | enter (id : ι) (cancelled : Bool)
  | poll (k : Nat)
  | add (a : α)
  | take
  | drain
  | cancel (k : Nat)

inductive Yield (α ι : Type)
  | nothing
  | polled (r : Option (ι × Poll α))
  | added (back : Option α)
  | taken (a : Option α)
  | drained (as : List α)

/-- A turn with what came of it. -/
structure Occurrence (α ι : Type) where
  turn : Turn α ι
  yield : Yield α ι

namespace WaitingRoom

variable {α ι : Type}

def step (w : WaitingRoom α ι) : Turn α ι → WaitingRoom α ι × Yield α ι
  | .enter id cancelled => (w.enter id cancelled, .nothing)
  | .poll k => let (w, r) := w.poll k; (w, .polled r)
  | .add a => let (w, back) := w.add a; (w, .added back)
  | .take => let (w, a) := w.take; (w, .taken a)
  | .drain => let (w, as) := w.drain; (w, .drained as)
  | .cancel k => (w.cancel k, .nothing)

def run (w : WaitingRoom α ι) : List (Turn α ι) → WaitingRoom α ι × List (Occurrence α ι)
  | [] => (w, [])
  | t :: ts =>
    let (w, y) := w.step t
    let (w, es) := w.run ts
    (w, ⟨t, y⟩ :: es)

end WaitingRoom

/-! ### What a poll comes to -/

namespace Call

variable {α ι : Type} {c : Call ι} {b : Buffer α}

theorem poll_of_cancelled (h : c.cancelled = true) : c.poll b = (b, c, .cancelled) := by
  rw [poll, look, if_pos h]
  cases c.stage with
  | fresh => rfl
  | listening heard => exact if_pos h

theorem poll_of_not_ready (h : c.ready = false) : c.poll b = (b, c, .pending) := by
  obtain ⟨id, cancelled, stage⟩ := c
  cases stage with
  | fresh => cases h
  | listening heard =>
    obtain ⟨rfl, rfl⟩ : heard = false ∧ cancelled = false := Bool.or_eq_false_iff.mp h
    rfl

theorem poll_of_ready (hopen : c.cancelled = false) (h : c.ready = true) : c.poll b = c.look b := by
  obtain ⟨id, cancelled, stage⟩ := c
  obtain rfl : cancelled = false := hopen
  cases stage with
  | fresh => rfl
  | listening heard =>
    obtain rfl : heard = true := by simpa [ready] using h
    rfl

theorem look_of_pick (hopen : c.cancelled = false) {a : α} {ps : List (Partition α)}
    (h : Buffer.pick b.partitions = some (a, ps)) : c.look b = (b.take.1, c.listen, .taken a) := by
  rw [look, hopen, if_neg Bool.false_ne_true, Buffer.take, h]

theorem look_of_empty (hopen : c.cancelled = false) (h : Buffer.pick b.partitions = none) :
    c.look b = (b, c.listen, .pending) := by
  rw [look, hopen, if_neg Bool.false_ne_true, Buffer.take, h]

variable (c b)

theorem poll_cases :
    c.cancelled = true ∧ c.poll b = (b, c, .cancelled) ∨
    c.ready = false ∧ c.poll b = (b, c, .pending) ∨
    c.cancelled = false ∧ c.ready = true ∧
      (Buffer.pick b.partitions = none ∧ c.poll b = (b, c.listen, .pending) ∨
        ∃ a ps, Buffer.pick b.partitions = some (a, ps) ∧
          c.poll b = (b.take.1, c.listen, .taken a)) := by
  cases hcancelled : c.cancelled with
  | true => exact Or.inl ⟨rfl, poll_of_cancelled hcancelled⟩
  | false =>
    refine Or.inr ?_
    cases hready : c.ready with
    | false => exact Or.inl ⟨rfl, poll_of_not_ready hready⟩
    | true =>
      rw [poll_of_ready hcancelled hready]
      cases hpick : Buffer.pick b.partitions with
      | none => exact Or.inr ⟨rfl, rfl, Or.inl ⟨rfl, look_of_empty hcancelled hpick⟩⟩
      | some r => exact Or.inr ⟨rfl, rfl, Or.inr ⟨r.1, r.2, rfl, look_of_pick hcancelled hpick⟩⟩

theorem id_poll : (c.poll b).2.1.id = c.id := by
  obtain ⟨_, hpoll⟩ | ⟨_, hpoll⟩ | ⟨_, _, ⟨_, hpoll⟩ | ⟨_, _, _, hpoll⟩⟩ := c.poll_cases b <;>
    rw [hpoll] <;> rfl

end Call

namespace WaitingRoom

variable {α ι : Type} {w : WaitingRoom α ι} {k : Nat} {c : Call ι}

theorem poll_of_none (h : w.calls[k]? = none) : w.poll k = (w, none) := by
  rw [poll, h]

variable {b : Buffer α} {c' : Call ι}

theorem poll_of_pending (h : w.calls[k]? = some c) (hpoll : c.poll w.buffer = (b, c', .pending)) :
    w.poll k = (⟨b, w.calls.set k c'⟩, some (c'.id, .pending)) := by
  rw [poll, h]
  dsimp only
  rw [hpoll]

theorem poll_of_returned (h : w.calls[k]? = some c) {r : Poll α}
    (hpoll : c.poll w.buffer = (b, c', r)) (hr : r ≠ .pending) :
    w.poll k = (⟨b, w.calls.eraseIdx k⟩, some (c'.id, r)) := by
  rw [poll, h]
  dsimp only
  rw [hpoll]
  cases r with
  | pending => cases hr rfl
  | _ => rfl

variable (w k)

/-- Nothing happens at a place without a call and to a call with no reason to be polled; all others
return or go on to wait. -/
theorem poll_cases :
    w.calls[k]? = none ∧ w.poll k = (w, none) ∨ ∃ c, w.calls[k]? = some c ∧
      (c.cancelled = true ∧ w.poll k = (⟨w.buffer, w.calls.eraseIdx k⟩, some (c.id, .cancelled)) ∨
      c.ready = false ∧ w.poll k = (w, some (c.id, .pending)) ∨
      c.cancelled = false ∧ c.ready = true ∧
        (Buffer.pick w.buffer.partitions = none ∧
          w.poll k = (⟨w.buffer, w.calls.set k c.listen⟩, some (c.id, .pending)) ∨
        ∃ a ps, Buffer.pick w.buffer.partitions = some (a, ps) ∧
          w.poll k = (⟨w.buffer.take.1, w.calls.eraseIdx k⟩, some (c.id, .taken a)))) := by
  cases hc : w.calls[k]? with
  | none => exact Or.inl ⟨rfl, poll_of_none hc⟩
  | some c =>
    refine Or.inr ⟨c, rfl, ?_⟩
    obtain ⟨hcancelled, hpoll⟩ | ⟨hready, hpoll⟩ | ⟨hopen, hready, ⟨hpick, hpoll⟩ | ⟨a, ps, hpick, hpoll⟩⟩ :=
      c.poll_cases w.buffer
    · exact Or.inl ⟨hcancelled, poll_of_returned hc hpoll (by simp)⟩
    · have hsame : w.calls.set k c = w.calls := by
        obtain ⟨hk, rfl⟩ := List.getElem?_eq_some_iff.mp hc
        exact List.set_getElem_self hk
      have hstay := poll_of_pending hc hpoll
      rw [hsame] at hstay
      exact Or.inr (Or.inl ⟨hready, hstay⟩)
    · exact Or.inr (Or.inr ⟨hopen, hready, Or.inl ⟨hpick, poll_of_pending hc hpoll⟩⟩)
    · have hreturned := poll_of_returned hc hpoll (by simp)
      exact Or.inr (Or.inr ⟨hopen, hready, Or.inr ⟨a, ps, hpick, hreturned⟩⟩)

end WaitingRoom

/-! ### A pool as a waiting room -/

/-- What a pool knows of a call: whether it is to be polled, not why. -/
def Call.taker {ι : Type} (c : Call ι) : Taker ι := ⟨c.id, 0, c.cancelled, c.ready⟩

namespace WaitingRoom

variable {α ι : Type} (w : WaitingRoom α ι)

def pool : Pool α ι := ⟨[w.buffer], w.calls.map Call.taker⟩

theorem wake_takers (cs : List (Call ι)) :
    Pool.wake 0 (cs.map Call.taker) = (cs.map Call.hear).map Call.taker := by
  rw [Pool.wake, List.map_map, List.map_map]
  refine List.map_congr_left fun c _ => ?_
  obtain ⟨id, cancelled, stage⟩ := c
  cases stage <;> rfl

theorem pool_add (a : α) : w.pool.add 0 a = ((w.add a).1.pool, (w.add a).2) := by
  have hbuffer : w.pool.buffers[0]? = some w.buffer := rfl
  rw [Pool.add, hbuffer, add]
  dsimp only
  cases hplace : Buffer.place a w.buffer.partitions with
  | none =>
    rw [Buffer.add_of_full hplace]
    rfl
  | some ps =>
    rw [Buffer.add_of_place hplace]
    dsimp only [Pool.storeAdded, Pool.store, pool]
    rw [wake_takers]
    rfl

theorem pool_take : w.pool.take 0 = (w.take.1.pool, w.take.2) := rfl

theorem pool_drain : w.pool.drain 0 = (w.drain.1.pool, w.drain.2) := rfl

theorem cancelFirst_takers [DecidableEq ι] (id : ι) (cs : List (Call ι)) :
    ∃ k, Pool.cancel.cancelFirst id (cs.map Call.taker) =
      (cs.modify k ({ · with cancelled := true })).map Call.taker := by
  induction cs with
  | nil => exact ⟨0, rfl⟩
  | cons c rest ih =>
    rw [List.map_cons, Pool.cancel.cancelFirst]
    by_cases hid : c.taker.id = id
    · refine ⟨0, ?_⟩
      rw [if_pos hid, List.modify_zero_cons, List.map_cons]
      obtain ⟨_, _, stage⟩ := c
      cases stage <;> simp [Call.taker, Call.ready]
    · obtain ⟨k, hk⟩ := ih
      refine ⟨k + 1, ?_⟩
      rw [if_neg hid, List.modify_succ_cons, List.map_cons, hk]

theorem pool_cancel [DecidableEq ι] (id : ι) : ∃ k, w.pool.cancel id = (w.cancel k).pool := by
  obtain ⟨k, hk⟩ := cancelFirst_takers id w.calls
  exact ⟨k, congrArg (Pool.mk [w.buffer]) hk⟩

theorem attempt_taker {c : Call ι} (h : c.ready = true) (b : Buffer α) :
    Pool.attempt [b] c.taker = ([(c.poll b).1], (c.poll b).2.2) := by
  have hbuffer : [b][c.taker.buffer]? = some b := rfl
  cases hcancelled : c.cancelled with
  | true =>
    rw [Call.poll_of_cancelled hcancelled, Pool.attempt]
    exact if_pos hcancelled
  | false =>
    have hopen : ¬ c.taker.cancelled = true := by
      rw [show c.taker.cancelled = false from hcancelled]
      exact Bool.false_ne_true
    rw [Call.poll_of_ready hcancelled h, Pool.attempt, if_neg hopen, hbuffer]
    dsimp only
    cases hpick : Buffer.pick b.partitions with
    | none =>
      rw [Call.look_of_empty hcancelled hpick, Buffer.take_of_empty hpick]
    | some r =>
      rw [Call.look_of_pick hcancelled hpick, Buffer.take_of_pick hpick]
      rfl

variable {w} {b b' : Buffer α} {c c' : Call ι} {before rest : List (Call ι)}

theorem taker_of_pending (h : c.poll b = (b', c', .pending)) :
    c'.taker = { c.taker with woken := false } := by
  obtain ⟨_, hpoll⟩ | ⟨hready, hpoll⟩ | ⟨hopen, _, ⟨_, hpoll⟩ | ⟨_, _, _, hpoll⟩⟩ := c.poll_cases b
  · cases hpoll.symm.trans h
  · obtain rfl : c = c' := congrArg (·.2.1) (hpoll.symm.trans h)
    rw [Call.taker, hready]
  · obtain rfl : c.listen = c' := congrArg (·.2.1) (hpoll.symm.trans h)
    rw [Call.taker, Call.taker, Call.ready, Call.listen, hopen]
    rfl
  · cases hpoll.symm.trans h

/-- A call that stays keeps its place among the others. -/
theorem poll_between_of_pending (h : c.poll b = (b', c', .pending)) :
    (WaitingRoom.mk b (before ++ c :: rest)).poll before.length =
      (⟨b', before ++ c' :: rest⟩, some (c'.id, .pending)) := by
  have hc : (before ++ c :: rest)[before.length]? = some c := by simp
  have hset : (before ++ c :: rest).set before.length c' = before ++ c' :: rest := by simp
  rw [poll_of_pending hc h, hset]

/-- A call that returns leaves the others as they are. -/
theorem poll_between_of_returned {r : Poll α} (h : c.poll b = (b', c', r)) (hr : r ≠ .pending) :
    (WaitingRoom.mk b (before ++ c :: rest)).poll before.length =
      (⟨b', before ++ rest⟩, some (c'.id, r)) := by
  have hc : (before ++ c :: rest)[before.length]? = some c := by simp
  have herase : (before ++ c :: rest).eraseIdx before.length = before ++ rest := by
    rw [List.eraseIdx_append_of_length_le (Nat.le_refl _), Nat.sub_self, List.eraseIdx_cons_zero]
  rw [poll_of_returned hc h hr, herase]

theorem wait_of_returned {p : Pool α ι} {id : ι} {i : Nat} {cancelled : Bool}
    {bs : List (Buffer α)} {r : Poll α}
    (h : Pool.attempt p.buffers ⟨id, i, cancelled, false⟩ = (bs, r)) (hr : r ≠ .pending) :
    p.wait id i cancelled = (⟨bs, p.takers⟩, r) := by
  rw [Pool.wait, h]
  cases r with
  | pending => cases hr rfl
  | _ => rfl

theorem pollTakers_of_returned {t : Taker ι} {bs bs' : List (Buffer α)} {r : Poll α}
    (hwoken : t.woken = true) (h : Pool.attempt bs t = (bs', r)) (hr : r ≠ .pending)
    (ts : List (Taker ι)) : Pool.pollTakers bs (t :: ts) =
      ((Pool.pollTakers bs' ts).1, (Pool.pollTakers bs' ts).2.1,
        (t.id, r) :: (Pool.pollTakers bs' ts).2.2) := by
  rw [Pool.pollTakers, if_pos hwoken, h]
  cases r with
  | pending => cases hr rfl
  | _ => rfl

/-- A new taker is one that enters and is polled. -/
theorem pool_wait (w : WaitingRoom α ι) (id : ι) (cancelled : Bool) : ∃ u r,
    (w.enter id cancelled).poll w.calls.length = (u, some (id, r)) ∧
      w.pool.wait id 0 cancelled = (u.pool, r) := by
  let c : Call ι := ⟨id, cancelled, .fresh⟩
  have hid : (c.poll w.buffer).2.1.id = id := c.id_poll w.buffer
  have hattempt : Pool.attempt [w.buffer] ⟨id, 0, cancelled, false⟩ =
    ([(c.poll w.buffer).1], (c.poll w.buffer).2.2) := attempt_taker (c := c) rfl w.buffer
  rcases hresult : c.poll w.buffer with ⟨b, c', r⟩
  rw [hresult] at hid hattempt
  obtain rfl : c'.id = id := hid
  by_cases hr : r = .pending
  · subst hr
    have htaker : c'.taker = ⟨c'.id, 0, cancelled, false⟩ := taker_of_pending hresult
    refine ⟨_, _, poll_between_of_pending hresult, ?_⟩
    rw [Pool.wait]
    dsimp only [pool]
    rw [hattempt, List.map_append, List.map_singleton, htaker]
  · refine ⟨_, _, poll_between_of_returned hresult hr, ?_⟩
    rw [wait_of_returned hattempt hr, pool, pool, List.append_nil]

/-- Polls of some calls, one after the other, with what those returned that did. -/
inductive Polls : WaitingRoom α ι → List (ι × Poll α) → WaitingRoom α ι → Prop
  | none (w : WaitingRoom α ι) : Polls w [] w
  | stay {w u v : WaitingRoom α ι} {k : Nat} {id : ι} {rs : List (ι × Poll α)}
    (h : w.poll k = (u, some (id, .pending))) (hrest : Polls u rs v) : Polls w rs v
  | leave {w u v : WaitingRoom α ι} {k : Nat} {id : ι} {r : Poll α} {rs : List (ι × Poll α)}
    (h : w.poll k = (u, some (id, r))) (hr : r ≠ .pending) (hrest : Polls u rs v) :
    Polls w ((id, r) :: rs) v

/-- From a place on all calls are polled in turn; who returns makes room for the next. -/
theorem polls_pollTakers (b : Buffer α) (before rest : List (Call ι)) :
    ∃ b' waiting rs, Polls ⟨b, before ++ rest⟩ rs ⟨b', before ++ waiting⟩ ∧
      Pool.pollTakers [b] (rest.map Call.taker) = ([b'], waiting.map Call.taker, rs) := by
  induction rest generalizing b before with
  | nil => exact ⟨b, [], [], .none _, rfl⟩
  | cons c rest ih =>
    rw [List.map_cons]
    cases hready : c.ready with
    | false =>
      have hidle : ¬ c.taker.woken = true := by
        rw [Call.taker, hready]
        exact Bool.false_ne_true
      obtain ⟨b', waiting, rs, hpolls, hpool⟩ := ih b (before ++ [c])
      rw [List.append_assoc, List.append_assoc] at hpolls
      rw [Pool.pollTakers, if_neg hidle, hpool]
      exact ⟨b', c :: waiting, rs,
        .stay (poll_between_of_pending (Call.poll_of_not_ready hready)) hpolls, rfl⟩
    | true =>
      have hattempt := attempt_taker hready b
      have hid : (c.poll b).2.1.id = c.id := c.id_poll b
      rcases hresult : c.poll b with ⟨b₁, c', r⟩
      rw [hresult] at hid hattempt
      by_cases hr : r = .pending
      · subst hr
        obtain ⟨b', waiting, rs, hpolls, hpool⟩ := ih b₁ (before ++ [c'])
        rw [List.append_assoc, List.append_assoc] at hpolls
        rw [Pool.pollTakers, if_pos (show c.taker.woken = true from hready), hattempt]
        dsimp only
        rw [hpool, ← taker_of_pending hresult]
        exact ⟨b', c' :: waiting, rs, .stay (poll_between_of_pending hresult) hpolls, rfl⟩
      · obtain ⟨b', waiting, rs, hpolls, hpool⟩ := ih b₁ before
        rw [pollTakers_of_returned hready hattempt hr, hpool]
        refine ⟨b', waiting, _, .leave (poll_between_of_returned hresult hr) hr hpolls, ?_⟩
        rw [hid]
        rfl

/-- The takers that were woken are polled in turn. -/
theorem pool_poll (w : WaitingRoom α ι) : ∃ u, Polls w w.pool.poll.2 u ∧ w.pool.poll.1 = u.pool := by
  obtain ⟨b, waiting, rs, hpolls, hpool⟩ := polls_pollTakers w.buffer [] w.calls
  refine ⟨⟨b, waiting⟩, ?_, ?_⟩
  · rw [Pool.poll, pool, hpool]
    exact hpolls
  · rw [Pool.poll, pool, hpool]
    rfl

theorem Polls.exists_run {w u : WaitingRoom α ι} {rs : List (ι × Poll α)} (h : Polls w rs u) :
    ∃ ts, (w.run ts).1 = u := by
  induction h with
  | none w => exact ⟨[], rfl⟩
  | @stay w _ _ k _ _ hpoll _ ih | @leave w _ _ k _ _ _ hpoll _ _ ih =>
    obtain ⟨ts, hrun⟩ := ih
    refine ⟨.poll k :: ts, ?_⟩
    rw [run, step, hpoll]
    exact hrun

/-- Whatever a pool with this buffer and these takers does comes about by turns of the waiting room. -/
structure Enacts [DecidableEq ι] (w : WaitingRoom α ι) : Prop where
  add : ∀ a, w.pool.add 0 a = ((w.add a).1.pool, (w.add a).2)
  take : w.pool.take 0 = (w.take.1.pool, w.take.2)
  drain : w.pool.drain 0 = (w.drain.1.pool, w.drain.2)
  cancel : ∀ id, ∃ k, w.pool.cancel id = (w.cancel k).pool
  wait : ∀ id cancelled, ∃ u r, (w.enter id cancelled).poll w.calls.length = (u, some (id, r)) ∧
    w.pool.wait id 0 cancelled = (u.pool, r)
  poll : ∃ u, Polls w w.pool.poll.2 u ∧ w.pool.poll.1 = u.pool ∧ ∃ ts, (w.run ts).1 = u

theorem enacts [DecidableEq ι] (w : WaitingRoom α ι) : w.Enacts where
  add := w.pool_add
  take := w.pool_take
  drain := w.pool_drain
  cancel := w.pool_cancel
  wait := w.pool_wait
  poll := by
    obtain ⟨u, hpolls, hpool⟩ := w.pool_poll
    exact ⟨u, hpolls, hpool, hpolls.exists_run⟩

end WaitingRoom

end Telemetry
