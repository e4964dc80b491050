import TeleportVM.SequencerCalls
import TeleportVM.Lib.LinkedQueue

/-!
The deferred requests as the source keeps them: cells that `malloc` returns, linked from
`queue_head` to `queue_tail` of their page. Its calls refine those on lists.
-/
namespace TeleportVM

open LinkedQueue (Heap Ends Holds)

variable {Page : Type}

/-- The sequencer with its deferred requests in the heap. `ends` are `queue_head` and
`queue_tail` of each page; the lists in the records of `sequencer` stay empty. -/
structure LinkedSequencer (Page : Type) where
  sequencer : Sequencer Page
  heap : Heap Nat DeferredRequest
  ends : Nat → Ends Nat

/-- A call of the interface, with what `malloc` returns should the call use it. -/
inductive LinkedCall (Page : Type) where
  | request (nodeFds : Nat → Int) (clientFd : Int) (packet : DsmPacket Page) (newReq : Nat)
  | invalidateAck (nodeFds : Nat → Int) (pageIndex ackNodeId : Nat)

namespace LinkedCall

def pageIndex : LinkedCall Page → Nat
  | .request _ _ packet _ => packet.pageIndex
  | .invalidateAck _ pageIndex _ => pageIndex

/-- The call on lists. -/
def toCall : LinkedCall Page → SequencerCall Page
  | .request nodeFds clientFd packet _ => .request nodeFds clientFd packet
  | .invalidateAck nodeFds pageIndex ackNodeId => .invalidateAck nodeFds pageIndex ackNodeId

end LinkedCall

namespace LinkedSequencer

def init (totalPages : Nat) (directory : Directory) : LinkedSequencer Page where
  sequencer := coordinatorSequencerOver totalPages directory
  heap _ := none
  ends _ := ⟨none, none⟩

variable [Zero Page]

/-- `none` where the source would follow a pointer to no cell. -/
def processNodeRequest (s : LinkedSequencer Page) (nodeFds : Nat → Int) (clientFd : Int)
    (packet : DsmPacket Page) (newReq : Nat) : Option (LinkedSequencer Page) :=
  let pageIdx := packet.pageIndex
  if s.sequencer.totalManagedPages ≤ pageIdx then some s
  else if (s.sequencer.table pageIdx).transactionActive then
    (LinkedQueue.push s.heap (s.ends pageIdx) newReq
      ⟨packet.senderNodeId, packet.type, clientFd, pageIdx⟩).map fun linked =>
        { s with heap := linked.1, ends := Function.update s.ends pageIdx linked.2 }
  else
    some { s with
      sequencer := s.sequencer.executeGpdTransaction nodeFds pageIdx packet.senderNodeId packet.type
        clientFd }

/-- Take the request at the head, execute it and free its cell. -/
def startDeferred (s : LinkedSequencer Page) (nodeFds : Nat → Int) (pageIndex : Nat) :
    Option (LinkedSequencer Page) :=
  if (s.ends pageIndex).head = none then some s
  else
    (LinkedQueue.pop s.heap (s.ends pageIndex)).map fun (next, heap, ends) =>
      { sequencer := s.sequencer.executeGpdTransaction nodeFds next.pageIndex next.nodeId next.type
          next.clientFd
        heap := heap
        ends := Function.update s.ends pageIndex ends }

def processNodeInvalidateAck (s : LinkedSequencer Page) (nodeFds : Nat → Int) (pageIndex : Nat) :
    Option (LinkedSequencer Page) :=
  let counted := s.sequencer.countInvalidateAck nodeFds pageIndex
  if counted.2 then { s with sequencer := counted.1 }.startDeferred nodeFds pageIndex
  else some { s with sequencer := counted.1 }

def call (s : LinkedSequencer Page) : LinkedCall Page → Option (LinkedSequencer Page)
  | .request nodeFds clientFd packet newReq => s.processNodeRequest nodeFds clientFd packet newReq
  | .invalidateAck nodeFds pageIndex _ => s.processNodeInvalidateAck nodeFds pageIndex

omit [Zero Page] in
/-- The request that arrives with a call while a transaction on its page is active. -/
def defers (s : LinkedSequencer Page) : LinkedCall Page → Option DeferredRequest
  | .request _ clientFd packet _ =>
    if packet.pageIndex < s.sequencer.totalManagedPages ∧
        (s.sequencer.table packet.pageIndex).transactionActive = true then
      some ⟨packet.senderNodeId, packet.type, clientFd, packet.pageIndex⟩
    else none
  | .invalidateAck .. => none

omit [Zero Page] in
/-- The deferred request that a call executes. -/
def resumes (s : LinkedSequencer Page) : LinkedCall Page → Option DeferredRequest
  | .request .. => none
  | .invalidateAck _ pageIndex _ =>
    if s.sequencer.Completes pageIndex then
      (LinkedQueue.pop s.heap (s.ends pageIndex)).map Prod.fst
    else none

end LinkedSequencer

/-- The sequencer with its deferred requests: those that arrived while a transaction on their
page was active, and those that a call has executed. -/
structure LinkedLog (Page : Type) where
  state : LinkedSequencer Page
  deferred : Nat → List DeferredRequest
  executed : Nat → List DeferredRequest

namespace LinkedLog

def init (totalPages : Nat) (directory : Directory) : LinkedLog Page where
  state := .init totalPages directory
  deferred _ := []
  executed _ := []

/-- `malloc` returns no address that is in use. -/
def Allocates (h : LinkedLog Page) : LinkedCall Page → Prop
  | .request _ _ _ newReq => h.state.heap newReq = none
  | .invalidateAck .. => True

instance (h : LinkedLog Page) : ∀ c, Decidable (h.Allocates c)
  | .request _ _ _ newReq => inferInstanceAs (Decidable (h.state.heap newReq = none))
  | .invalidateAck .. => isTrue trivial

variable [Zero Page]

def step (h : LinkedLog Page) (c : LinkedCall Page) : Option (LinkedLog Page) :=
  (h.state.call c).map fun state =>
    { state := state
      deferred := Function.update h.deferred c.pageIndex
        (h.deferred c.pageIndex ++ (h.state.defers c).toList)
      executed := Function.update h.executed c.pageIndex
        (h.executed c.pageIndex ++ (h.state.resumes c).toList) }

/-- What a call did, with the list of its page before it: the transaction that it executed, and
the request that it deferred or, if it executed one that was deferred, took from the list. -/
inductive Outcome (h h' : LinkedLog Page) (cells : List (Nat × DeferredRequest)) :
    LinkedCall Page → Prop
  | outside {c : LinkedCall Page} (outside : h.state.sequencer.totalManagedPages ≤ c.pageIndex)
      (same : h' = h) : Outcome h h' cells c
  | deferred {nodeFds : Nat → Int} {clientFd : Int} {packet : DsmPacket Page} {newReq : Nat}
      (active : (h.state.sequencer.table packet.pageIndex).transactionActive = true)
      (sequencer : h'.state.sequencer = h.state.sequencer)
      (defers : h'.deferred = Function.update h.deferred packet.pageIndex
        (h.deferred packet.pageIndex ++
          [⟨packet.senderNodeId, packet.type, clientFd, packet.pageIndex⟩]))
      (executed : h'.executed = h.executed) :
      Outcome h h' cells (.request nodeFds clientFd packet newReq)
  | direct {nodeFds : Nat → Int} {clientFd : Int} {packet : DsmPacket Page} {newReq : Nat}
      (free : (h.state.sequencer.table packet.pageIndex).transactionActive = false)
      (sequencer : h'.state.sequencer = h.state.sequencer.executeGpdTransaction nodeFds
        packet.pageIndex packet.senderNodeId packet.type clientFd)
      (deferred : h'.deferred = h.deferred) (executed : h'.executed = h.executed) :
      Outcome h h' cells (.request nodeFds clientFd packet newReq)
  | counted {nodeFds : Nat → Int} {p ackNodeId : Nat}
      (nothing : h.state.sequencer.Completes p → cells = [])
      (sequencer : h'.state.sequencer = (h.state.sequencer.countInvalidateAck nodeFds p).1)
      (deferred : h'.deferred = h.deferred) (executed : h'.executed = h.executed) :
      Outcome h h' cells (.invalidateAck nodeFds p ackNodeId)
  | resumed {nodeFds : Nat → Int} {p ackNodeId a : Nat} {first : DeferredRequest}
      {rest : List (Nat × DeferredRequest)} (completes : h.state.sequencer.Completes p)
      (waits : cells = (a, first) :: rest)
      (sequencer : h'.state.sequencer =
        (h.state.sequencer.countInvalidateAck nodeFds p).1.executeGpdTransaction nodeFds
          first.pageIndex first.nodeId first.type first.clientFd)
      (deferred : h'.deferred = h.deferred)
      (executes : h'.executed = Function.update h.executed p (h.executed p ++ [first])) :
      Outcome h h' cells (.invalidateAck nodeFds p ackNodeId)

end LinkedLog

/-! ### The model on lists -/

namespace Sequencer

/-- The sequencer with these deferred requests in its records. -/
def withQueues (s : Sequencer Page) (queues : Nat → List DeferredRequest) : Sequencer Page :=
  { s with table := fun p => { s.table p with queue := queues p } }

variable (s : Sequencer Page) (queues : Nat → List DeferredRequest) (p : Nat)

@[simp] theorem withQueues_pages :
    (s.withQueues queues).totalManagedPages = s.totalManagedPages := rfl

@[simp] theorem withQueues_record :
    (s.withQueues queues).table p = { s.table p with queue := queues p } := rfl

theorem withQueues_setSeq (seq : PageSequencer) : (s.setSeq p seq).withQueues queues =
    (s.withQueues queues).setSeq p { seq with queue := queues p } := by
  unfold setSeq withQueues
  congr 1
  funext q
  by_cases own : q = p
  · subst own
    simp
  · simp [own]

theorem withQueues_update (queue : List DeferredRequest) :
    s.withQueues (Function.update queues p queue) =
      (s.withQueues queues).setSeq p { s.table p with queue := queue } := by
  unfold setSeq withQueues
  congr 1
  funext q
  by_cases own : q = p
  · subst own
    simp
  · simp [own]

theorem recordAfter_withQueues (node : Nat) (type : MsgType) :
    (s.withQueues queues).recordAfter p node type =
      { s.recordAfter p node type with queue := queues p } := by
  have same : (s.withQueues queues).waitsFor p node = s.waitsFor p node := by
    unfold waitsFor
    rfl
  unfold recordAfter
  rw [same]
  cases type with
  | requestPageWrite => dsimp only; split <;> rfl
  | requestPageRead => dsimp only; split <;> rfl
  | _ => rfl

theorem recordCounted_withQueues :
    (s.withQueues queues).recordCounted p = { s.recordCounted p with queue := queues p } := by
  have same : (s.withQueues queues).Completes p ↔ s.Completes p := Iff.rfl
  unfold recordCounted
  simp only [same, withQueues_pages, withQueues_record]
  by_cases done : s.Completes p
  · simp only [done, if_true]
  · by_cases awaited : p < s.totalManagedPages ∧ (s.table p).transactionActive = true ∧
        (s.table p).expectedAcks ≠ 0
    · simp [done, awaited]
    · simp only [done, awaited, if_false]

variable [Zero Page] (nodeFds : Nat → Int)

/-- A transaction neither reads nor writes deferred requests. -/
theorem execute_withQueues (node : Nat) (type : MsgType) (fd : Int) :
    (s.withQueues queues).executeGpdTransaction nodeFds p node type fd =
      (s.executeGpdTransaction nodeFds p node type fd).withQueues queues := by
  have table := congrArg Sequencer.table (withQueues_setSeq s queues p (s.recordAfter p node type))
  rw [execute_eq, execute_eq, recordAfter_withQueues]
  simp only [withQueues, setSeq] at table ⊢
  rw [table]
  rfl

/-- Nor does an acknowledgement, until the first of them starts. -/
theorem countInvalidateAck_withQueues :
    (s.withQueues queues).countInvalidateAck nodeFds p =
      ((s.countInvalidateAck nodeFds p).1.withQueues queues,
        (s.countInvalidateAck nodeFds p).2) := by
  have table := congrArg Sequencer.table (withQueues_setSeq s queues p (s.recordCounted p))
  have done : decide ((s.withQueues queues).Completes p) = decide (s.Completes p) :=
    decide_eq_decide.mpr Iff.rfl
  rw [count_eq, count_eq, recordCounted_withQueues, done]
  simp only [withQueues, setSeq] at table ⊢
  rw [table]
  rfl

end Sequencer

/-- With the lists that are in the heap. -/
def LinkedSequencer.onLists (s : LinkedSequencer Page)
    (cells : Nat → List (Nat × DeferredRequest)) : Sequencer Page :=
  s.sequencer.withQueues (List.map Prod.snd ∘ cells)

/-! ### The lists -/

/-- The cells of each page's list, which hold the requests that are deferred and not executed
yet, in their order of arrival. -/
structure LinkedLog.Listed (h : LinkedLog Page)
    (cells : Nat → List (Nat × DeferredRequest)) : Prop where
  holds : ∀ p, Holds h.state.heap (h.state.ends p) (cells p)
  order : ∀ p, h.deferred p = h.executed p ++ (cells p).map Prod.snd
  own : ∀ p, ∀ cell ∈ cells p, cell.2.pageIndex = p

namespace LinkedLog.Listed

variable {h : LinkedLog Page} {cells : Nat → List (Nat × DeferredRequest)}

/-- Lists of different pages share no cell. -/
theorem apart (listed : h.Listed cells) {p q : Nat} (other : q ≠ p) {a : Nat}
    (here : a ∈ (cells q).map Prod.fst) : a ∉ (cells p).map Prod.fst := by
  intro there
  obtain ⟨⟨_, x⟩, first, rfl⟩ := List.mem_map.mp here
  obtain ⟨⟨_, y⟩, second, rfl⟩ := List.mem_map.mp there
  have same := (listed.holds q).value_eq (listed.holds p) first second
  exact other ((listed.own q _ first).symm.trans ((congrArg _ same).trans (listed.own p _ second)))

/-- One list changes, and the cells of the others are left alone. -/
theorem update (listed : h.Listed cells) {sequencer : Sequencer Page}
    {heap : Heap Nat DeferredRequest} {p : Nat} {ends : Ends Nat}
    {own : List (Nat × DeferredRequest)} {deferred executed : List DeferredRequest}
    (holds : Holds heap ends own)
    (order : deferred = executed ++ own.map Prod.snd) (about : ∀ cell ∈ own, cell.2.pageIndex = p)
    (kept : ∀ q ≠ p, ∀ a ∈ (cells q).map Prod.fst, heap a = h.state.heap a) :
    LinkedLog.Listed ⟨⟨sequencer, heap, Function.update h.state.ends p ends⟩,
      Function.update h.deferred p deferred, Function.update h.executed p executed⟩
      (Function.update cells p own) := by
  refine ⟨fun q => ?_, fun q => ?_, fun q => ?_⟩
  · by_cases same : q = p
    · subst same
      simpa using holds
    · simpa [same] using (listed.holds q).frame (kept q same)
  · by_cases same : q = p
    · subst same
      simpa using order
    · simpa [same] using listed.order q
  · by_cases same : q = p
    · subst same
      simpa using about
    · simpa [same] using listed.own q

/-- A call that touches no list. -/
theorem keep (listed : h.Listed cells) (sequencer : Sequencer Page) (p : Nat) :
    LinkedLog.Listed ⟨{ h.state with sequencer := sequencer },
      Function.update h.deferred p (h.deferred p ++ []),
      Function.update h.executed p (h.executed p ++ [])⟩ cells := by
  simp only [List.append_nil, Function.update_eq_self]
  exact ⟨listed.holds, listed.order, listed.own⟩

theorem init (totalPages : Nat) (directory : Directory) :
    (LinkedLog.init totalPages directory : LinkedLog Page).Listed fun _ => [] :=
  ⟨fun _ => .empty, fun _ => rfl, fun _ _ member => absurd member List.not_mem_nil⟩

variable [Zero Page]

/-- A request is linked behind those of its page, or executed without touching a list. -/
theorem request (listed : h.Listed cells) (nodeFds : Nat → Int) (clientFd : Int)
    (packet : DsmPacket Page) {newReq : Nat} (free : h.state.heap newReq = none) :
    ∃ h' cells', h.step (.request nodeFds clientFd packet newReq) = some h' ∧ h'.Listed cells' ∧
      (∀ q ≠ packet.pageIndex, cells' q = cells q) ∧ h'.state.onLists cells' =
        (h.state.onLists cells).processNodeRequest nodeFds clientFd packet := by
  simp only [LinkedLog.step, LinkedSequencer.call, LinkedSequencer.processNodeRequest,
    LinkedSequencer.defers, LinkedSequencer.resumes, LinkedCall.pageIndex,
    Sequencer.processNodeRequest, LinkedSequencer.onLists, Sequencer.withQueues_pages,
    Sequencer.withQueues_record]
  by_cases outside : h.state.sequencer.totalManagedPages ≤ packet.pageIndex
  · simp only [outside, if_true, Nat.not_lt.mpr outside, false_and, if_false]
    exact ⟨_, cells, rfl, listed.keep _ _, fun _ _ => rfl, rfl⟩
  · by_cases active : (h.state.sequencer.table packet.pageIndex).transactionActive = true
    · simp only [outside, active, if_false, if_true, Nat.not_le.mp outside, and_self]
      obtain ⟨heap, ends, pushed, holds, kept⟩ := (listed.holds packet.pageIndex).push free
        ⟨packet.senderNodeId, packet.type, clientFd, packet.pageIndex⟩
      rw [pushed]
      have order := listed.order packet.pageIndex
      refine ⟨_, Function.update cells packet.pageIndex _, rfl,
        listed.update holds (by simp [order]) ?_ fun q other a member => ?_,
        fun q other => Function.update_of_ne other _ cells, ?_⟩
      · intro cell member
        rcases List.mem_append.mp member with old | new
        · exact listed.own _ cell old
        · cases List.mem_singleton.mp new
          rfl
      · -- a cell of another page is neither the new one nor the last of this page
        refine kept a ?_ (listed.apart other member)
        rintro rfl
        exact (listed.holds q).not_mem_of_free free member
      · simp only [Function.comp_update, Sequencer.withQueues_update, List.map_append, active]
        rfl
    · simp only [outside, active, if_false, Bool.false_eq_true, and_false,
        Sequencer.execute_withQueues]
      exact ⟨_, cells, rfl, listed.keep _ _, fun _ _ => rfl, rfl⟩

/-- An acknowledgement takes the first request of its page, or touches no list. -/
theorem ack (listed : h.Listed cells) (nodeFds : Nat → Int) (p ackNodeId : Nat) :
    ∃ h' cells', h.step (.invalidateAck nodeFds p ackNodeId) = some h' ∧ h'.Listed cells' ∧
      (∀ q ≠ p, cells' q = cells q) ∧ h'.state.onLists cells' =
        (h.state.onLists cells).processNodeInvalidateAck nodeFds p := by
  have complete : (h.state.sequencer.countInvalidateAck nodeFds p).2 = true ↔
      h.state.sequencer.Completes p := by
    rw [Sequencer.count_eq]
    exact decide_eq_true_iff
  simp only [LinkedLog.step, LinkedSequencer.call, LinkedSequencer.processNodeInvalidateAck,
    LinkedSequencer.defers, LinkedSequencer.resumes, LinkedCall.pageIndex, ← complete,
    Sequencer.processNodeInvalidateAck, LinkedSequencer.onLists,
    Sequencer.countInvalidateAck_withQueues]
  generalize h.state.sequencer.countInvalidateAck nodeFds p = counted
  obtain ⟨sequencer, completed⟩ := counted
  -- only the acknowledgement that completes a transaction looks at the list
  cases completed with
  | false =>
    simp only [Bool.false_eq_true, if_false]
    exact ⟨_, cells, rfl, listed.keep _ _, fun _ _ => rfl, rfl⟩
  | true =>
    simp only [if_true, LinkedSequencer.startDeferred, Sequencer.startDeferred,
      Sequencer.withQueues_record, Function.comp_apply]
    have holds := listed.holds p
    have order := listed.order p
    cases waiting : cells p with
    | nil =>
      have none : (h.state.ends p).head = none := holds.eq_nil_iff.1.mp waiting
      simp only [none, if_true, LinkedQueue.pop, Option.bind_none, Option.map_none, List.map_nil]
      exact ⟨_, cells, rfl, listed.keep _ _, fun _ _ => rfl, rfl⟩
    | cons first rest =>
      obtain ⟨a, req⟩ := first
      rw [waiting] at holds order
      -- `free` returns a cell of this page's list, so the other lists keep theirs
      obtain ⟨ends, popped, after⟩ := holds.pop
      have some : (h.state.ends p).head ≠ none := mt holds.eq_nil_iff.1.mpr (by simp)
      simp only [some, if_false, popped, Option.map_some, List.map_cons]
      refine ⟨_, Function.update cells p rest, rfl,
        listed.update after (by simp [order]) ?_ fun q other b member => ?_,
        fun q other => Function.update_of_ne other rest cells, ?_⟩
      · intro cell member
        exact listed.own p cell (by rw [waiting]; exact List.mem_cons_of_mem _ member)
      · rw [Function.update_of_ne]
        rintro rfl
        exact listed.apart other member (by simp [waiting])
      · rw [Function.comp_update, ← Sequencer.execute_withQueues, Sequencer.withQueues_update]

/-- Every call returns, leaves the lists of the other pages as they were, and does what the call
on lists does. -/
theorem step (listed : h.Listed cells) {c : LinkedCall Page} (allocates : h.Allocates c) :
    ∃ h' cells', h.step c = some h' ∧ h'.Listed cells' ∧
      (∀ q ≠ c.pageIndex, cells' q = cells q) ∧
      h'.state.onLists cells' = (h.state.onLists cells).call c.toCall := by
  cases c with
  | request nodeFds clientFd packet newReq => exact listed.request nodeFds clientFd packet allocates
  | invalidateAck nodeFds p ackNodeId => exact listed.ack nodeFds p ackNodeId

/-- What is logged as executed is what `execute_gpd_transaction` was called for. -/
theorem outcome (listed : h.Listed cells) {c : LinkedCall Page} {h' : LinkedLog Page}
    (next : h.step c = some h') : h.Outcome h' (cells c.pageIndex) c := by
  obtain ⟨state, called, rfl⟩ := Option.map_eq_some_iff.mp next
  cases c with
  | request nodeFds clientFd packet newReq =>
    simp only [LinkedSequencer.call, LinkedSequencer.processNodeRequest] at called
    split at called
    next outside =>
      cases called
      refine .outside outside ?_
      simp [LinkedSequencer.defers, LinkedSequencer.resumes, LinkedCall.pageIndex,
        Nat.not_lt.mpr outside]
    next inside =>
      split at called
      next active =>
        obtain ⟨linked, -, rfl⟩ := Option.map_eq_some_iff.mp called
        refine .deferred active rfl ?_ ?_
        · simp [LinkedSequencer.defers, LinkedCall.pageIndex, Nat.not_le.mp inside, active]
        · simp [LinkedSequencer.resumes]
      next free =>
        cases called
        refine .direct (Bool.eq_false_iff.mpr free) rfl ?_ ?_
        · simp [LinkedSequencer.defers, free]
        · simp [LinkedSequencer.resumes]
  | invalidateAck nodeFds p ackNodeId =>
    have holds := listed.holds p
    simp only [LinkedSequencer.call, LinkedSequencer.processNodeInvalidateAck,
      Sequencer.count_eq, decide_eq_true_eq, LinkedSequencer.startDeferred] at called
    by_cases completes : h.state.sequencer.Completes p
    · rw [if_pos completes] at called
      cases waits : cells p with
      | nil =>
        rw [if_pos (holds.eq_nil_iff.1.mp waits)] at called
        cases called
        refine .counted (fun _ => waits) ?_ ?_ ?_
        · rw [Sequencer.count_eq]
        · simp [LinkedSequencer.defers]
        · simp [LinkedSequencer.resumes, LinkedQueue.pop, holds.eq_nil_iff.1.mp waits]
      | cons first rest =>
        obtain ⟨a, req⟩ := first
        rw [waits] at holds
        obtain ⟨ends, popped, -⟩ := holds.pop
        rw [if_neg (mt holds.eq_nil_iff.1.mpr (by simp)), popped] at called
        cases called
        refine .resumed completes waits ?_ ?_ ?_
        · rw [Sequencer.count_eq]
        · simp [LinkedSequencer.defers]
        · simp [LinkedSequencer.resumes, LinkedCall.pageIndex, completes, popped]
    · rw [if_neg completes] at called
      cases called
      refine .counted (fun completed => absurd completed completes) ?_ ?_ ?_
      · rw [Sequencer.count_eq]
      · simp [LinkedSequencer.defers]
      · simp [LinkedSequencer.resumes, completes]

end LinkedLog.Listed

/-! ### Sequences of calls -/

variable [Zero Page]

/-- A run with the heap is a run of the model on lists. -/
theorem listed_run {totalPages : Nat} {directory : Directory} {h : LinkedLog Page}
    (run : Runs.Run LinkedLog.step LinkedLog.Allocates (.init totalPages directory) h) :
    ∃ cells, h.Listed cells ∧
      Runs.Run Sequencer.step (fun _ _ => True)
        (coordinatorSequencerOver totalPages directory) (h.state.onLists cells) := by
  refine run.invariant (fun h => ∃ cells, h.Listed cells ∧ Runs.Run _ _ _ (h.state.onLists cells))
    ⟨_, .init totalPages directory, .refl⟩ ?_
  rintro h c h' ⟨cells, listed, lists⟩ allocates next
  obtain ⟨after, cells', stepped, listed', -, same⟩ := listed.step allocates
  cases stepped.symm.trans next
  exact ⟨cells', listed', lists.tail ⟨c.toCall, trivial, congrArg some same.symm⟩⟩

/-- Between two calls the list of each page ends, meets no cell twice and has its tail at the
last one, and it holds the requests that arrived while a transaction was active and have not
been executed yet: those executed and those in the list are all of them, in their order of
arrival. A further call returns, leaves the lists of other pages alone, and executes exactly the
request that it logs. -/
theorem deferred_list (totalPages : Nat) (directory : Directory) (h : LinkedLog Page)
    (run : Runs.Run LinkedLog.step LinkedLog.Allocates (.init totalPages directory) h) :
    ∃ cells : Nat → List (Nat × DeferredRequest),
      (∀ p, Holds h.state.heap (h.state.ends p) (cells p) ∧
        (cells p = [] ↔ (h.state.ends p).head = none) ∧
        (cells p = [] ↔ (h.state.ends p).tail = none) ∧
        h.deferred p = h.executed p ++ (cells p).map Prod.snd) ∧
      ∀ c, h.Allocates c → ∃ h', h.step c = some h' ∧ h.Outcome h' (cells c.pageIndex) c ∧
        ∀ q ≠ c.pageIndex, Holds h'.state.heap (h'.state.ends q) (cells q) := by
  obtain ⟨cells, listed, -⟩ := listed_run run
  refine ⟨cells, fun p => ?_, fun c allocates => ?_⟩
  · obtain ⟨head, tail⟩ := (listed.holds p).eq_nil_iff
    exact ⟨listed.holds p, head, tail, listed.order p⟩
  · obtain ⟨h', cells', stepped, listed', others, -⟩ := listed.step allocates
    refine ⟨h', stepped, listed.outcome stepped, fun q other => ?_⟩
    rw [← others q other]
    exact listed'.holds q

/-- Node 2 writes page 0, node 3 reads it and waits for node 2, and nodes 4 and 5 ask meanwhile. The
acknowledgement executes the write of node 4, and a read of node 6 takes the cell it left. -/
def reusedCell (nodeFds : Nat → Int) : List (LinkedCall PageBytes) :=
  [.request nodeFds 12 ⟨.requestPageWrite, 0, 2, 0⟩ 7,
    .request nodeFds 13 ⟨.requestPageRead, 0, 3, 0⟩ 7,
    .request nodeFds 14 ⟨.requestPageWrite, 0, 4, 0⟩ 7,
    .request nodeFds 15 ⟨.requestPageRead, 0, 5, 0⟩ 8,
    .invalidateAck nodeFds 0 2,
    .request nodeFds 16 ⟨.requestPageRead, 0, 6, 0⟩ 7]

theorem deferred_list_reused : ∃ h : LinkedLog PageBytes,
    h.executed 0 = [⟨4, .requestPageWrite, 14, 0⟩] ∧
    h.deferred 0 = [⟨4, .requestPageWrite, 14, 0⟩, ⟨5, .requestPageRead, 15, 0⟩,
      ⟨6, .requestPageRead, 16, 0⟩] ∧
    ∃ cells : Nat → List (Nat × DeferredRequest),
      (∀ p, Holds h.state.heap (h.state.ends p) (cells p) ∧
        (cells p = [] ↔ (h.state.ends p).head = none) ∧
        (cells p = [] ↔ (h.state.ends p).tail = none) ∧
        h.deferred p = h.executed p ++ (cells p).map Prod.snd) ∧
      ∀ c, h.Allocates c → ∃ h', h.step c = some h' ∧ h.Outcome h' (cells c.pageIndex) c ∧
        ∀ q ≠ c.pageIndex, Holds h'.state.heap (h'.state.ends q) (cells q) := by
  obtain ⟨h, run, executed, deferred⟩ := Runs.exists_run LinkedLog.step LinkedLog.Allocates
    (.init 4 (gpdInit 4)) (reusedCell fun n => 10 + n)
    (fun h => h.executed 0 = [⟨4, .requestPageWrite, 14, 0⟩] ∧
      h.deferred 0 = [⟨4, .requestPageWrite, 14, 0⟩, ⟨5, .requestPageRead, 15, 0⟩,
        ⟨6, .requestPageRead, 16, 0⟩])
    (by decide +kernel)
  exact ⟨h, executed, deferred, deferred_list 4 (gpdInit 4) h run⟩

end TeleportVM
