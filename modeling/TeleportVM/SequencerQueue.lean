import TeleportVM.SequencerCalls

/-!
The deferred requests of the sequencer. A completed transaction starts one deferred
request. When that one completes at once as well, nobody starts those behind it: they stay
in the queue of a free page, and later requests overtake them.
-/
namespace TeleportVM

variable {Page : Type}

/-- A READ or WRITE of a node from 1 to 63, or an acknowledgement, with all of these nodes
connected. -/
def SequencerCall.Valid : SequencerCall Page → Prop
  | .request nodeFds _ packet =>
    (packet.type = .requestPageRead ∨ packet.type = .requestPageWrite) ∧
      ValidNode packet.senderNodeId ∧ ∀ n, ValidNode n → nodeFds n ≠ -1
  | .invalidateAck nodeFds _ _ => ∀ n, ValidNode n → nodeFds n ≠ -1

/-- The sequencer with the requests of each page in the order they arrived and in the order
`execute_gpd_transaction` was called for them. -/
structure SequencerLog (Page : Type) where
  sequencer : Sequencer Page
  arrived : Nat → List DeferredRequest
  begun : Nat → List DeferredRequest

namespace Sequencer

variable [Zero Page]

/-- The request that a call starts. -/
def begins (s : Sequencer Page) : SequencerCall Page → Option DeferredRequest
  | .request nodeFds clientFd packet =>
    if (s.table packet.pageIndex).transactionActive then none
    else s.arrives (.request nodeFds clientFd packet)
  | .invalidateAck nodeFds pageIndex _ =>
    let counted := s.countInvalidateAck nodeFds pageIndex
    if counted.2 then (counted.1.table pageIndex).queue.head? else none

omit [Zero Page] in
/-- An acknowledgement that completes a transaction finds at most one deferred request, or a
first one that has to wait in its turn. -/
def DrainsQueue (s : Sequencer Page) : SequencerCall Page → Prop
  | .request _ _ _ => True
  | .invalidateAck _ pageIndex _ => s.Completes pageIndex →
    match (s.table pageIndex).queue with
    | first :: _ :: _ => s.MustWait first
    | _ => True

end Sequencer

/-- Append a request, if there is one, to the log of its page. -/
def recordRequest (log : Nat → List DeferredRequest) : Option DeferredRequest →
    Nat → List DeferredRequest
  | none => log
  | some req => Function.update log req.pageIndex (log req.pageIndex ++ [req])

@[simp] theorem recordRequest_none (log : Nat → List DeferredRequest) :
    recordRequest log none = log := rfl

namespace SequencerLog

/-- Between two calls: no page is free while requests for it are deferred, and the requests
of a page have started in their order of arrival, the deferred ones being the last. -/
structure InOrder (h : SequencerLog Page) : Prop where
  waiting : ∀ p, (h.sequencer.table p).queue ≠ [] → (h.sequencer.table p).transactionActive = true
  order : ∀ p, h.arrived p = h.begun p ++ (h.sequencer.table p).queue

def init (totalPages : Nat) : SequencerLog Page where
  sequencer := coordinatorSequencerInit totalPages
  arrived _ := []
  begun _ := []

variable [Zero Page]

def step (h : SequencerLog Page) (c : SequencerCall Page) : Option (SequencerLog Page) :=
  some
    { sequencer := h.sequencer.call c
      arrived := recordRequest h.arrived (h.sequencer.arrives c)
      begun := recordRequest h.begun (h.sequencer.begins c) }

end SequencerLog

/-! ### One call -/

/-- Every deferred request is about the page it is deferred for. -/
structure Sequencer.Tidy (s : Sequencer Page) : Prop where
  pages : s.directory.numPages = s.totalManagedPages
  own : ∀ p, ∀ req ∈ (s.table p).queue, req.pageIndex = p

/-- What a call begins in the log is the request of its outcome. -/
theorem Sequencer.begins_eq [Zero Page] (s : Sequencer Page) (c : SequencerCall Page) :
    s.begins c = s.nextRequest c := by
  cases c with
  | request nodeFds clientFd packet =>
    simp only [begins, arrives, nextRequest]
    by_cases outside : s.totalManagedPages ≤ packet.pageIndex
    · simp [outside, Nat.not_lt.mpr outside]
    · cases busy : (s.table packet.pageIndex).transactionActive <;>
        simp [outside, Nat.not_le.mp outside]
  | invalidateAck nodeFds p node =>
    simp only [begins, nextRequest, count_eq, decide_eq_true_eq, Function.update_self]
    by_cases done : s.Completes p
    · simp only [done, if_true, recordCounted]
    · simp only [done, if_false]

theorem call_pages [Zero Page] (s : Sequencer Page) (c : SequencerCall Page) :
    (s.call c).totalManagedPages = s.totalManagedPages ∧
      (s.call c).directory.numPages = s.directory.numPages := by
  have outcome := s.call_outcome c
  generalize s.nextRequest c = next, s.call c = t at outcome ⊢
  cases outcome with
  | outside | deferred | dropped | counted | drained => exact ⟨rfl, rfl⟩
  | direct => exact (execute_table s _ _ _ _ _).2
  | @resumed nodeFds p _ _ rest => exact (execute_table (s.freed nodeFds p rest) _ _ _ _ _).2

theorem Sequencer.Tidy.call [Zero Page] {s : Sequencer Page} (tidy : s.Tidy)
    (c : SequencerCall Page) : (s.call c).Tidy where
  pages := by
    obtain ⟨total, directory⟩ := call_pages s c
    rw [directory, total, tidy.pages]
  own := defersOwn_call tidy.own c

section Call

variable [Zero Page] {h h' : SequencerLog Page}

omit [Zero Page] in
/-- A call writes the record and the logs of one page: the other pages stay in order. -/
theorem SequencerLog.InOrder.update (inOrder : h.InOrder) {s : Sequencer Page}
    {arrived begun : Nat → List DeferredRequest} {p : Nat} {seq : PageSequencer}
    {ahead started : List DeferredRequest}
    (table : s.table = Function.update h.sequencer.table p seq)
    (arrives : arrived = Function.update h.arrived p ahead)
    (begins : begun = Function.update h.begun p started)
    (waiting : seq.queue ≠ [] → seq.transactionActive = true)
    (order : ahead = started ++ seq.queue) :
    InOrder ⟨s, arrived, begun⟩ := by
  subst arrives begins
  constructor
  · intro q
    by_cases own : q = p
    · subst own
      simpa [table] using waiting
    · simpa [table, own] using inOrder.waiting q
  · intro q
    by_cases own : q = p
    · subst own
      simpa [table] using order
    · simpa [table, own] using inOrder.order q

/-- A call keeps the order exactly when the page does not become free with more than the request
it starts deferred. -/
theorem inOrder_iff (inOrder : h.InOrder) (tidy : h.sequencer.Tidy) {c : SequencerCall Page}
    (next : h.step c = some h') : h'.InOrder ↔ h.sequencer.DrainsQueue c := by
  cases next
  have outcome := h.sequencer.call_outcome c
  rw [Sequencer.begins_eq]
  generalize h.sequencer.nextRequest c = next, h.sequencer.call c = t at outcome ⊢
  cases outcome with
  | outside outside =>
    simp only [Sequencer.arrives, if_pos outside]
    exact iff_of_true ⟨inOrder.waiting, inOrder.order⟩ trivial
  | @deferred nodeFds clientFd packet inside active =>
    -- a busy page: the request goes behind those that wait
    simp only [Sequencer.arrives, if_neg (Nat.not_le.mpr inside)]
    refine iff_of_true (inOrder.update rfl rfl (Function.update_eq_self packet.pageIndex _).symm
      (fun _ => active) ?_) trivial
    simp [inOrder.order]
  | @direct nodeFds clientFd packet inside free =>
    -- a free page has no deferred request in front of this one
    have none : (h.sequencer.table packet.pageIndex).queue = [] := by
      by_contra some
      rw [inOrder.waiting _ some] at free
      cases free
    obtain ⟨⟨_, _, _, table⟩, -⟩ := execute_table h.sequencer nodeFds packet.pageIndex
      packet.senderNodeId packet.type clientFd
    simp only [Sequencer.arrives, if_neg (Nat.not_le.mpr inside)]
    refine iff_of_true (inOrder.update table rfl rfl (fun some => absurd none some) ?_) trivial
    simp [inOrder.order, none]
  | dropped unawaited =>
    refine iff_of_true ⟨inOrder.waiting, inOrder.order⟩ fun done => absurd ?_ unawaited
    exact ⟨done.1, done.2.1, by simp [done.2.2]⟩
  | @counted nodeFds p _ inside active more =>
    refine iff_of_true (inOrder.update rfl (Function.update_eq_self p _).symm
      (Function.update_eq_self p _).symm (inOrder.waiting p) (inOrder.order p)) fun done => ?_
    exact absurd done.2.2 (Nat.ne_of_gt more)
  | @drained nodeFds p _ done empty =>
    refine iff_of_true (inOrder.update rfl (Function.update_eq_self p _).symm
      (Function.update_eq_self p _).symm (fun some => absurd rfl some) ?_) fun _ => ?_
    · simpa [Sequencer.arrives, empty] using inOrder.order p
    · rw [empty]
      trivial
  | @resumed nodeFds p _ first rest done waits =>
    have about : first.pageIndex = p := tidy.own p first (by simp [waits])
    subst about
    -- the page becomes free, and the first deferred request starts
    have active := execute_active (h.sequencer.freed nodeFds first.pageIndex rest) nodeFds first (by
      rw [Sequencer.freed, tidy.pages]; exact done.1)
    have same : (h.sequencer.freed nodeFds first.pageIndex rest).MustWait first ↔
        h.sequencer.MustWait first := Iff.rfl
    obtain ⟨⟨busy, node, remaining, executed⟩, -⟩ := execute_table
      (h.sequencer.freed nodeFds first.pageIndex rest) nodeFds first.pageIndex first.nodeId
      first.type first.clientFd
    rw [same, executed, Function.update_self] at active
    simp only [Sequencer.freed, Function.update_idem, Function.update_self] at executed
    simp only [Sequencer.DrainsQueue, done, waits, true_implies]
    constructor
    · -- a second deferred request is left on a page that is active only if the first has to wait
      intro after
      cases rest with
      | nil => trivial
      | cons second rest =>
        refine active.mp ?_
        have waiting := after.waiting first.pageIndex
        simpa [Sequencer.freed, executed] using waiting
    · intro drains
      refine inOrder.update executed (Function.update_eq_self first.pageIndex _).symm rfl
        (fun some => ?_) ?_
      · cases rest with
        | nil => exact absurd rfl some
        | cons second rest => exact active.mpr drains
      · simp [Sequencer.arrives, inOrder.order, waits]

/-- A request is logged as begun exactly when `execute_gpd_transaction` is called for it. -/
theorem begun_started_step (logged : ∀ p,
      ((h.begun p).getLast?.map fun req => (req.nodeId, req.type)) = h.sequencer.started p)
    {c : SequencerCall Page} (next : h.step c = some h') : ∀ p,
      ((h'.begun p).getLast?.map fun req => (req.nodeId, req.type)) = h'.sequencer.started p := by
  cases next
  have outcome := h.sequencer.call_outcome c
  rw [Sequencer.begins_eq]
  generalize h.sequencer.nextRequest c = next, h.sequencer.call c = t at outcome ⊢
  cases outcome with
  | outside | deferred | dropped | counted | drained => exact logged
  | @direct nodeFds clientFd packet =>
    intro p
    rw [execute_started]
    by_cases own : p = packet.pageIndex
    · subst own
      simp [recordRequest]
    · simpa [recordRequest, own] using logged p
  | @resumed _ _ _ first rest =>
    intro p
    rw [execute_started]
    by_cases own : p = first.pageIndex
    · subst own
      simp [recordRequest]
    · simpa [recordRequest, own, Sequencer.freed] using logged p

end Call

/-! ### Sequences of calls -/

section Calls

variable [Zero Page]

omit [Zero Page] in
theorem init_tidy (totalPages : Nat) :
    (SequencerLog.init totalPages : SequencerLog Page).sequencer.Tidy where
  pages := rfl
  own _ _ found := absurd found List.not_mem_nil

/-- Requests for a page wait only while a transaction is active, and start in their order of
arrival, in every state between calls, exactly when no call frees a page with a request left
behind the one it starts. -/
theorem deferred_in_order_iff (totalPages : Nat) (calls : List (SequencerCall Page)) :
    Runs.EveryStep SequencerLog.step (fun _ _ h => h.InOrder) (.init totalPages) calls ↔
      Runs.EveryStep SequencerLog.step (fun h c _ => h.sequencer.DrainsQueue c)
        (.init totalPages) calls := by
  have oneCall : ∀ (h : SequencerLog Page) c h', h.InOrder ∧ h.sequencer.Tidy →
      h.step c = some h' → (h'.InOrder ↔ h.sequencer.DrainsQueue c) := by
    rintro h c h' ⟨inOrder, tidy⟩ next
    exact inOrder_iff inOrder tidy next
  apply Runs.everyStep_iff_while (fun h => h.InOrder ∧ h.sequencer.Tidy) oneCall
  · intro h c h' both drains next
    refine ⟨(oneCall h c h' both next).mpr drains, ?_⟩
    cases next
    exact both.2.call c
  · exact ⟨⟨fun p some => absurd rfl some, fun p => rfl⟩, init_tidy totalPages⟩

/-- The last request of the log is the one `execute_gpd_transaction` was last called for. -/
theorem begun_started (totalPages : Nat) (h : SequencerLog Page)
    (run : Runs.Run SequencerLog.step (fun _ _ => True) (.init totalPages) h) :
    ∀ p, ((h.begun p).getLast?.map fun req => (req.nodeId, req.type)) = h.sequencer.started p := by
  refine run.invariant (fun h => ∀ p, ((h.begun p).getLast?.map fun req => (req.nodeId, req.type)) =
    h.sequencer.started p) (fun _ => rfl) ?_
  intro h c h' logged _ next
  exact begun_started_step logged next

end Calls

/-- Node 2 writes page 0, node 3 reads it and waits for node 2, and nodes 4 and 5 read it
meanwhile. -/
def crossedRequests (nodeFds : Nat → Int) : List (SequencerCall PageBytes) :=
  [.request nodeFds (nodeFds 2) ⟨.requestPageWrite, 0, 2, 0⟩,
    .request nodeFds (nodeFds 3) ⟨.requestPageRead, 0, 3, 0⟩,
    .request nodeFds (nodeFds 4) ⟨.requestPageRead, 0, 4, 0⟩,
    .request nodeFds (nodeFds 5) ⟨.requestPageRead, 0, 5, 0⟩]

/-- The acknowledgement of node 2 starts the read of node 4, which completes at once: the
read of node 5 is left on a free page. -/
theorem request_stranded : ¬ ∀ (totalPages : Nat) (calls : List (SequencerCall PageBytes)),
    (∀ c ∈ calls, c.Valid) →
      Runs.EveryStep SequencerLog.step (fun _ _ h => h.InOrder) (.init totalPages) calls := by
  intro claim
  let nodeFds : Nat → Int := fun n => 10 + n
  have connected : ∀ n, ValidNode n → nodeFds n ≠ -1 := fun n _ => by
    simp only [nodeFds]
    omega
  have every := claim 4 (crossedRequests nodeFds ++ [.invalidateAck nodeFds 0 2]) (by
    simpa [crossedRequests, SequencerCall.Valid, ValidNode] using connected)
  obtain ⟨h, executed, stranded, free⟩ := Runs.exists_exec SequencerLog.step (fun _ _ => True)
    (.init 4) (crossedRequests nodeFds)
    (fun h : SequencerLog PageBytes =>
      ((h.sequencer.call (.invalidateAck nodeFds 0 2)).table 0).queue ≠ [] ∧
        ((h.sequencer.call (.invalidateAck nodeFds 0 2)).table 0).transactionActive = false)
    (by decide +kernel)
  have waiting := (every.last executed rfl).waiting 0 stranded
  rw [free] at waiting
  cases waiting

end TeleportVM
