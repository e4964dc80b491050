import TeleportVM.FaultHandler
import TeleportVM.Lib.Ring
import TeleportVM.Lib.Runs

/-!
The request queue between the fault handler and the network engine: the ring that a node's
`sharedReqQueue` stands for, and the eventfd that wakes the engine. A call of `queue_push` or
`queue_pop` holds the queue's lock from beginning to end.
-/
namespace TeleportVM

/-- An eventfd that `epoll` watches edge-triggered: its counter, and whether there was a write
that `epoll_wait` has not reported. -/
structure EventFd where
  counter : Nat
  ready : Bool
  deriving DecidableEq, Repr

/-- `request_queue_t`. -/
structure RequestQueue where
  data : Nat → PageRequest
  head : Nat
  tail : Nat
  size : Nat
  notifyFd : EventFd

def EventFd.write (fd : EventFd) (u : Nat) : EventFd := ⟨fd.counter + u, true⟩

namespace RequestQueue

def queueInit (q : RequestQueue) : RequestQueue :=
  { q with head := 0, tail := 0, size := 0, notifyFd := ⟨0, false⟩ }

/-- The queue after the call, and what the call returns. -/
def queuePush (q : RequestQueue) (req : PageRequest) : RequestQueue × Int :=
  if q.size = queueCapacity then (q, -1)
  else
    ({ data := Function.update q.data q.tail req
       head := q.head
       tail := (q.tail + 1) % queueCapacity
       size := q.size + 1
       notifyFd := q.notifyFd.write 1 }, 0)

/-- The queue and `*out_req` after the call, and what the call returns. -/
def queuePop (q : RequestQueue) (outReq : PageRequest) : RequestQueue × PageRequest × Int :=
  if q.size = 0 then (q, outReq, -1)
  else ({ q with head := (q.head + 1) % queueCapacity, size := q.size - 1 }, q.data q.head, 0)

/-! ### The requests that a queue holds -/

/-- From head to tail. -/
def held (q : RequestQueue) : List PageRequest := Ring.window q.data queueCapacity q.head q.size

structure WellFormed (q : RequestQueue) : Prop where
  head : q.head < queueCapacity
  size : q.size ≤ queueCapacity
  tail : q.tail = Ring.pos queueCapacity q.head q.size

theorem queueCapacity_pos : 0 < queueCapacity := by decide

@[simp] theorem length_held (q : RequestQueue) : q.held.length = q.size := Ring.length_window _ _ _

theorem queueInit_wellFormed (q : RequestQueue) : q.queueInit.WellFormed where
  head := queueCapacity_pos
  size := Nat.zero_le _
  tail := rfl

@[simp] theorem held_queueInit (q : RequestQueue) : q.queueInit.held = [] := rfl

variable {q : RequestQueue}

theorem WellFormed.tail_lt (wf : q.WellFormed) : q.tail < queueCapacity := by
  rw [wf.tail]
  exact Ring.pos_lt queueCapacity_pos _ _

theorem push_full (full : q.size = queueCapacity) (req : PageRequest) : q.queuePush req = (q, -1) :=
  if_pos full

/-- A push that finds room appends its request. -/
theorem push_room (wf : q.WellFormed) (room : q.size ≠ queueCapacity) (req : PageRequest) :
    (q.queuePush req).2 = 0 ∧ (q.queuePush req).1.WellFormed ∧
      (q.queuePush req).1.held = q.held ++ [req] := by
  have inside : q.size < queueCapacity := Nat.lt_of_le_of_ne wf.size room
  rw [queuePush, if_neg room]
  -- the new tail is one past the old, and the window ends there
  refine ⟨rfl, ⟨wf.head, inside, ?_⟩, ?_⟩
  · simp only [wf.tail, Ring.pos, Nat.mod_add_mod, Nat.add_assoc]
  · simp only [held, wf.tail]
    exact Ring.window_push q.data inside req

theorem pop_empty (empty : q.size = 0) (outReq : PageRequest) :
    q.queuePop outReq = (q, outReq, -1) := if_pos empty

/-- A pop that finds requests takes the first. -/
theorem pop_held (wf : q.WellFormed) (some : q.size ≠ 0) (outReq : PageRequest) :
    (q.queuePop outReq).2.2 = 0 ∧ (q.queuePop outReq).1.WellFormed ∧
      q.held = (q.queuePop outReq).2.1 :: (q.queuePop outReq).1.held := by
  obtain ⟨size, more⟩ := Nat.exists_eq_succ_of_ne_zero some
  have bound := wf.size
  rw [queuePop, if_neg some]
  refine ⟨rfl, ⟨Nat.mod_lt _ queueCapacity_pos, by dsimp only; omega, ?_⟩, ?_⟩
  · dsimp only
    -- one request fewer from one position further ends at the same tail
    rw [Ring.pos_succ, Nat.sub_add_cancel (Nat.one_le_iff_ne_zero.mpr some), wf.tail]
  · simp only [held, more, Nat.succ_eq_add_one, Nat.add_sub_cancel]
    exact Ring.window_pop q.data wf.head size

section Returns

variable (wf : q.WellFormed)
include wf

/-- A push fails only in the one state that makes it fail. -/
theorem push_returns (req : PageRequest) :
    (q.queuePush req).2 = if q.held.length = queueCapacity then -1 else 0 := by
  rw [length_held]
  by_cases full : q.size = queueCapacity
  · rw [push_full full, if_pos full]
  · rw [(push_room wf full req).1, if_neg full]

theorem push_stores (req : PageRequest) (returned : (q.queuePush req).2 = 0) :
    (q.queuePush req).1.held = q.held ++ [req] := by
  by_cases full : q.size = queueCapacity
  · rw [push_full full] at returned
    cases returned
  · exact (push_room wf full req).2.2

theorem push_unchanged (req : PageRequest) (returned : (q.queuePush req).2 = -1) :
    (q.queuePush req).1 = q := by
  by_cases full : q.size = queueCapacity
  · rw [push_full full]
  · rw [(push_room wf full req).1] at returned
    cases returned

omit wf in
theorem held_eq_nil : q.held = [] ↔ q.size = 0 := by
  rw [← List.length_eq_zero_iff, length_held]

theorem pop_returns (outReq : PageRequest) :
    (q.queuePop outReq).2.2 = if q.held = [] then -1 else 0 := by
  by_cases empty : q.size = 0
  · rw [pop_empty empty, if_pos (held_eq_nil.mpr empty)]
  · rw [(pop_held wf empty outReq).1, if_neg (mt held_eq_nil.mp empty)]

theorem pop_delivers (outReq : PageRequest) (returned : (q.queuePop outReq).2.2 = 0) :
    q.held = (q.queuePop outReq).2.1 :: (q.queuePop outReq).1.held := by
  by_cases empty : q.size = 0
  · rw [pop_empty empty] at returned
    cases returned
  · exact (pop_held wf empty outReq).2.2

theorem pop_unchanged (outReq : PageRequest) (returned : (q.queuePop outReq).2.2 = -1) :
    (q.queuePop outReq).1 = q ∧ (q.queuePop outReq).2.1 = outReq := by
  by_cases empty : q.size = 0
  · rw [pop_empty empty]
    exact ⟨rfl, rfl⟩
  · rw [(pop_held wf empty outReq).1] at returned
    cases returned

end Returns

/-- The list of a node's `sharedReqQueue` is what the ring holds: both push alike. -/
theorem queuePush_refines {Page : Type} {n : Node Page} (wf : q.WellFormed)
    (same : q.held = n.sharedReqQueue) (req : PageRequest) :
    (n.queuePush req).isSome = decide ((q.queuePush req).2 = 0) ∧
      (q.queuePush req).1.held = ((n.queuePush req).getD n).sharedReqQueue := by
  have length : n.sharedReqQueue.length = q.size := by rw [← same, length_held]
  unfold Node.queuePush
  rw [length]
  by_cases full : q.size = queueCapacity
  · rw [push_full full, if_pos full]
    exact ⟨rfl, same⟩
  · obtain ⟨code, -, held⟩ := push_room wf full req
    rw [if_neg full, code, held, same]
    exact ⟨rfl, rfl⟩

end RequestQueue

/-! ### A bounded FIFO -/

inductive QueueCall where
  | push (req : PageRequest)
  | pop (outReq : PageRequest)

/-- A queue, the requests whose push returned 0, and the requests that pops returned. -/
structure QueueLog where
  queue : RequestQueue
  pushed : List PageRequest
  popped : List PageRequest

namespace QueueLog

def start (q : RequestQueue) : QueueLog := ⟨q.queueInit, [], []⟩

def call (h : QueueLog) : QueueCall → QueueLog
  | .push req =>
    let result := h.queue.queuePush req
    { h with
      queue := result.1
      pushed := if result.2 = 0 then h.pushed ++ [req] else h.pushed }
  | .pop outReq =>
    let result := h.queue.queuePop outReq
    { h with
      queue := result.1
      popped := if result.2.2 = 0 then h.popped ++ [result.2.1] else h.popped }

/-- The log of a bounded FIFO, and what the next call on it does: a push returns 0 and stores its
request, or finds 128 of them and returns -1; a pop returns 0 and delivers the oldest request, or
finds none and returns -1. -/
structure Fifo (h : QueueLog) : Prop where
  order : h.pushed = h.popped ++ h.queue.held
  pushReturns : ∀ req, (h.queue.queuePush req).2 = if h.queue.held.length = queueCapacity then -1 else 0
  pushStores : ∀ req, (h.queue.queuePush req).2 = 0 →
    (h.queue.queuePush req).1.held = h.queue.held ++ [req]
  pushUnchanged : ∀ req, (h.queue.queuePush req).2 = -1 → (h.queue.queuePush req).1 = h.queue
  popReturns : ∀ outReq, (h.queue.queuePop outReq).2.2 = if h.queue.held = [] then -1 else 0
  popDelivers : ∀ outReq, (h.queue.queuePop outReq).2.2 = 0 →
    h.queue.held = (h.queue.queuePop outReq).2.1 :: (h.queue.queuePop outReq).1.held
  popUnchanged : ∀ outReq, (h.queue.queuePop outReq).2.2 = -1 →
    (h.queue.queuePop outReq).1 = h.queue ∧ (h.queue.queuePop outReq).2.1 = outReq
  head : h.queue.head < queueCapacity
  tail : h.queue.tail < queueCapacity
  size : h.queue.size ≤ queueCapacity
  held : h.queue.held.length = h.queue.size
  wraps : h.queue.tail = (h.queue.head + h.queue.size) % queueCapacity

/-- What was pushed and not popped is what the ring holds. -/
structure Tracks (h : QueueLog) : Prop where
  wellFormed : h.queue.WellFormed
  pushed : h.pushed = h.popped ++ h.queue.held

theorem start_tracks (q : RequestQueue) : (start q).Tracks :=
  ⟨q.queueInit_wellFormed, rfl⟩

theorem Tracks.call {h : QueueLog} (tracks : h.Tracks) (c : QueueCall) : (h.call c).Tracks := by
  cases c with
  | push req =>
    by_cases full : h.queue.size = queueCapacity
    · simp only [QueueLog.call, RequestQueue.push_full full]
      exact { tracks with }
    · obtain ⟨code, wf, held⟩ := RequestQueue.push_room tracks.wellFormed full req
      refine ⟨wf, ?_⟩
      simp only [QueueLog.call, code, if_true, held, tracks.pushed, List.append_assoc]
  | pop outReq =>
    by_cases empty : h.queue.size = 0
    · simp only [QueueLog.call, RequestQueue.pop_empty empty]
      exact { tracks with }
    · obtain ⟨code, wf, held⟩ := RequestQueue.pop_held tracks.wellFormed empty outReq
      refine ⟨wf, ?_⟩
      simp only [QueueLog.call, code, if_true, tracks.pushed, held, List.append_assoc,
        List.cons_append, List.nil_append]

theorem tracks_calls {h : QueueLog} (tracks : h.Tracks) (calls : List QueueCall) :
    (calls.foldl QueueLog.call h).Tracks := by
  induction calls generalizing h with
  | nil => exact tracks
  | cons c rest ih => exact ih (tracks.call c)

theorem Tracks.fifo {h : QueueLog} (tracks : h.Tracks) : h.Fifo :=
  have wf := tracks.wellFormed
  { order := tracks.pushed
    pushReturns := RequestQueue.push_returns wf
    pushStores := RequestQueue.push_stores wf
    pushUnchanged := RequestQueue.push_unchanged wf
    popReturns := RequestQueue.pop_returns wf
    popDelivers := RequestQueue.pop_delivers wf
    popUnchanged := RequestQueue.pop_unchanged wf
    head := wf.head
    tail := wf.tail_lt
    size := wf.size
    held := RequestQueue.length_held _
    wraps := wf.tail }

end QueueLog

/-- The queue is a bounded FIFO through any number of wraps, whatever its memory held before. -/
theorem request_queue_fifo (q : RequestQueue) (calls : List QueueCall) :
    (calls.foldl QueueLog.call (QueueLog.start q)).Fifo :=
  (QueueLog.tracks_calls (QueueLog.start_tracks q) calls).fifo

/-- Two pushes between two pops: the second pop delivers the first of them, and the other is held. -/
theorem request_queue_fifo_popped : ∃ h : QueueLog,
    h.popped = [⟨3, true⟩] ∧ h.pushed = [⟨3, true⟩, ⟨1, false⟩] ∧ h.queue.held = [⟨1, false⟩] := by
  let calls : List QueueCall :=
    [.pop ⟨0, false⟩, .push ⟨3, true⟩, .push ⟨1, false⟩, .pop ⟨0, false⟩]
  have fifo := request_queue_fifo ⟨fun _ => ⟨9, true⟩, 5, 7, 9, ⟨3, true⟩⟩ calls
  refine ⟨_, rfl, rfl, List.append_cancel_left (fifo.order.symm.trans ?_)⟩
  rfl

/-! ### Waking the engine -/

/-- Where the engine stands in its loop over the queue's session: before `epoll_ctl`, in
`epoll_wait`, between its report and the read of the eventfd, or taking requests off the queue. -/
inductive EnginePoint where
  | starting
  | waiting
  | reported
  | draining
  deriving DecidableEq, Repr

structure QueueSession where
  queue : RequestQueue
  point : EnginePoint
  outReq : PageRequest

inductive QueueEvent where
  | push (req : PageRequest)
  | register
  | report
  | read
  | pop

namespace QueueSession

/-- The queue after `queue_init`, and the engine before it watches the eventfd. -/
def start (q : RequestQueue) (outReq : PageRequest) : QueueSession := ⟨q.queueInit, .starting, outReq⟩

def setNotify (s : QueueSession) (fd : EventFd) (point : EnginePoint) : QueueSession :=
  { s with queue := { s.queue with notifyFd := fd }, point := point }

def step (s : QueueSession) : QueueEvent → Option QueueSession
  | .push req => some { s with queue := (s.queue.queuePush req).1 }
  | .register =>
    -- `epoll_ctl` finds out whether the descriptor is readable already
    if s.point = .starting then
      some (s.setNotify { s.queue.notifyFd with ready := 0 < s.queue.notifyFd.counter } .waiting)
    else none
  | .report =>
    -- edge-triggered: the edge is reported once
    if s.point = .waiting ∧ s.queue.notifyFd.ready = true ∧ 0 < s.queue.notifyFd.counter then
      some (s.setNotify { s.queue.notifyFd with ready := false } .reported)
    else none
  | .read =>
    if s.point = .reported then
      if 0 < s.queue.notifyFd.counter then
        some (s.setNotify { s.queue.notifyFd with counter := 0 } .draining)
      -- `EAGAIN`: nothing was left to read
      else some { s with point := .waiting }
    else none
  | .pop =>
    if s.point = .draining then
      let popped := s.queue.queuePop s.outReq
      -- the loop goes on until `queue_pop` returns -1
      if popped.2.2 = 0 then some { s with queue := popped.1, outReq := popped.2.1 }
      else some { s with point := .waiting }
    else none

/-- Requests that the engine may sleep on have been signalled, and the signal is still there. -/
def Armed (s : QueueSession) : Prop :=
  match s.point with
  | .starting => s.queue.size ≠ 0 → 0 < s.queue.notifyFd.counter
  | .waiting =>
    s.queue.size ≠ 0 → s.queue.notifyFd.ready = true ∧ 0 < s.queue.notifyFd.counter
  | .reported => 0 < s.queue.notifyFd.counter
  | .draining => True

/-- A push that changes the queue leaves a signal. -/
theorem push_signals (q : RequestQueue) (req : PageRequest) :
    (q.queuePush req).1 = q ∨
      ((q.queuePush req).1.notifyFd.ready = true ∧ 0 < (q.queuePush req).1.notifyFd.counter) := by
  unfold RequestQueue.queuePush
  split
  · exact Or.inl rfl
  · exact Or.inr ⟨rfl, Nat.succ_pos _⟩

theorem Armed.push {s : QueueSession} (armed : s.Armed) (req : PageRequest) :
    ({ s with queue := (s.queue.queuePush req).1 } : QueueSession).Armed := by
  rcases push_signals s.queue req with same | ⟨ready, positive⟩
  · rw [same]
    exact armed
  · -- wherever the engine stands, this signal alone is enough
    unfold Armed
    cases s.point with
    | starting => exact fun _ => positive
    | waiting => exact fun _ => ⟨ready, positive⟩
    | reported => exact positive
    | draining => trivial

theorem Armed.step {s t : QueueSession} (armed : s.Armed) {e : QueueEvent}
    (next : s.step e = some t) : t.Armed := by
  cases e with
  | push req =>
    cases next
    exact armed.push req
  | register =>
    simp only [QueueSession.step] at next
    split at next
    next starting =>
      cases next
      intro some
      unfold Armed at armed
      rw [starting] at armed
      -- what was signalled before the registration makes the descriptor ready in it
      exact ⟨decide_eq_true (armed some), armed some⟩
    · cases next
  | report =>
    simp only [QueueSession.step] at next
    split at next
    next enabled =>
      -- the report leaves the counter
      cases next
      exact enabled.2.2
    · cases next
  | read =>
    simp only [QueueSession.step] at next
    split at next
    next reported =>
      split at next
      · cases next
        trivial
      next drained =>
        -- nobody but the engine reads the eventfd
        unfold Armed at armed
        rw [reported] at armed
        exact absurd armed drained
    · cases next
  | pop =>
    simp only [QueueSession.step] at next
    split at next
    next draining =>
      split at next
      · cases next
        unfold Armed
        rw [draining]
        trivial
      next failed =>
        cases next
        intro some
        -- the engine goes back to sleep on an empty queue only
        rw [RequestQueue.queuePop, if_neg some] at failed
        exact absurd rfl failed
    · cases next

end QueueSession

/-- The engine never sleeps on a request: while it waits in `epoll_wait` a non-empty queue has an
unreported edge and a positive counter. -/
theorem no_lost_wakeup (q : RequestQueue) (outReq : PageRequest) (s : QueueSession)
    (run : Runs.Run QueueSession.step (fun _ _ => True) (.start q outReq) s)
    (waiting : s.point = .waiting) (some : s.queue.size ≠ 0) :
    s.queue.notifyFd.ready = true ∧ 0 < s.queue.notifyFd.counter := by
  have armed : s.Armed := by
    apply run.invariant
    · exact fun some => absurd rfl some
    · intro a e b holds _ next
      exact holds.step next
  unfold QueueSession.Armed at armed
  rw [waiting] at armed
  exact armed some

/-- A push lands while the engine drains, and one more after it went back to `epoll_wait`. -/
def pushWhileDraining : List QueueEvent :=
  [.register, .push ⟨0, false⟩, .report, .read, .pop, .push ⟨1, true⟩, .pop, .pop, .push ⟨2, false⟩]

theorem no_lost_wakeup_after_drain : ∃ s : QueueSession,
    s.queue.notifyFd.ready = true ∧ 0 < s.queue.notifyFd.counter := by
  obtain ⟨s, run, waiting, some⟩ := Runs.exists_run QueueSession.step (fun _ _ => True)
    (.start ⟨fun _ => ⟨0, false⟩, 5, 7, 9, ⟨3, true⟩⟩ ⟨0, false⟩) pushWhileDraining
    (fun s => s.point = .waiting ∧ s.queue.size ≠ 0) (by decide)
  exact ⟨s, no_lost_wakeup _ _ s run waiting some⟩

end TeleportVM
