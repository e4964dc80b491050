import TeleportVM.Sequencer
import TeleportVM.Threads
import TeleportVM.Lib.Locks

/-!
The mutexes of a process. Each function is here the list of its operations on mutexes and on the
variables that they protect, with the branches of the model; the state in which a call takes its
branches is arbitrary, for what other threads do meanwhile. The pages are memory of their own: a
thread that copies one which is not mapped faults, and sleeps until the page is installed.
-/
namespace TeleportVM

open Locks

variable {Page : Type}

inductive Mutex where
  /-- `page_table[idx].lock` -/
  | page (idx : Nat)
  /-- `shared_req_queue.lock` -/
  | requestQueue
  /-- `global_page_directory[idx].transaction_lock` -/
  | entry (idx : Nat)
  /-- `clock_hand_mutex` -/
  | clockHand
  /-- `eviction_ring[idx].page_mutex` -/
  | tracker (idx : Nat)
  /-- `sequencer_table[idx].page_lock` -/
  | sequencer (idx : Nat)
  deriving DecidableEq, Repr

/-- What the mutexes protect. The entries of the directory are atomic as well, and are read
without their lock too. -/
inductive Shared where
  | status (idx : Nat)
  | requests
  | entry (idx : Nat)
  | hand
  | tracker (idx : Nat)
  | sequencer (idx : Nat)
  deriving DecidableEq, Repr

abbrev LockOp := Op Mutex Shared

/-- Outermost first. -/
def lockDiscipline : Discipline Mutex Shared where
  rank
    | .clockHand => 0
    | .tracker _ | .page _ | .sequencer _ => 1
    | .requestQueue | .entry _ => 2
  guard
    | .status idx => .page idx
    | .requests => .requestQueue
    | .entry idx => .entry idx
    | .hand => .clockHand
    | .tracker idx => .tracker idx
    | .sequencer idx => .sequencer idx

def locked (m : Mutex) (ops : List LockOp) : List LockOp := .acquire m :: (ops ++ [.release m])

/-! ### The functions -/

/-- `gpd_transition_to_shared`, `gpd_transition_to_modified` and `set_local_msi_state`. -/
def Directory.transitionOps (d : Directory) (idx : Nat) : List LockOp :=
  if d.numPages ≤ idx then [] else locked (.entry idx) [.access (.entry idx)]

namespace Node

def queuePushOps (n : Node Page) : List LockOp :=
  locked .requestQueue (.access .requests ::
    if n.sharedReqQueue.length = queueCapacity then [] else [.access .requests])

def queuePopOps (n : Node Page) : List LockOp :=
  locked .requestQueue (.access .requests ::
    if n.sharedReqQueue.isEmpty then [] else [.access .requests])

/-- The status of a page is set, or read, in a critical section of its own. -/
def statusOps (idx : Nat) : List LockOp := locked (.page idx) [.access (.status idx)]

/-- `memcpy` of the whole page, into a packet. -/
def copyOps (n : Node Page) (idx : Nat) : List LockOp :=
  if (n.mapping idx).isMapped then [] else [.stall]

def invalidateLocalPageCopyOps (n : Node Page) (idx : Nat) : List LockOp :=
  if n.numPages ≤ idx then [] else statusOps idx

def writeprotectLocalPageCopyOps (n : Node Page) (idx : Nat) : List LockOp :=
  if n.numPages ≤ idx then [] else statusOps idx

def handleFaultOps (n : Node Page) (fault : PageRequest) : List LockOp :=
  let idx := fault.pageIndex
  locked (.page idx) (.access (.status idx) ::
    if n.pageTable idx = .valid ∧ fault.isWrite = false then []
    else .access (.status idx) :: (n.queuePushOps ++
      if n.sharedReqQueue.length = queueCapacity then [.access (.status idx)] else []))

def upgradeLocalCopyOps (n : Node Page) (idx : Nat) : List LockOp :=
  let owned := n.transitionToModified idx n.localNodeId
  n.directory.transitionOps idx ++
    if 0 < (owned.1.connectedIn owned.2).length then [] else [.access (.status idx)]

def serveQueuedRequestOps (n : Node Page) (req : PageRequest) : List LockOp :=
  let idx := req.pageIndex
  if n.coordinatorFd ≠ -1 then []
  else if n.pageTable idx = .valid ∨ n.pageTable idx = .writePending then
    -- the lock is kept over the whole upgrade
    locked (.page idx) (.access (.status idx) ::
      if req.isWrite then n.upgradeLocalCopyOps idx else [])
  else
    statusOps idx ++
      if n.CanFetch idx then [] else statusOps idx ++ n.directory.transitionOps idx

/-- The `SESSION_QUEUE` branch: the requests that it pops, and the pop that finds none. -/
def drainOps (popped : List (Node Page × PageRequest)) (last : Node Page) : List LockOp :=
  (popped.flatMap fun (n, req) => n.queuePopOps ++ n.serveQueuedRequestOps req) ++ last.queuePopOps

def completePendingOps (n : Node Page) (packet : DsmPacket Page) : List LockOp :=
  if (n.gpdPendingReqs packet.pageIndex).requesterNodeId = n.localNodeId then
    statusOps packet.pageIndex
  else []

def ownDroppingLocalOps (n : Node Page) (idx writer : Nat) : List LockOp :=
  let owned := n.transitionToModified idx writer
  n.directory.transitionOps idx ++
    if owned.2.getLsbD n.localNodeId ∧ n.localNodeId ≠ writer then n.invalidateLocalPageCopyOps idx
    else []

def replyToPendingWriteOps (n : Node Page) (packet : DsmPacket Page) : List LockOp :=
  let idx := packet.pageIndex
  let reqNode := (n.gpdPendingReqs idx).requesterNodeId
  let owned := n.ownDroppingLocal idx reqNode
  n.ownDroppingLocalOps idx reqNode ++
    if 0 < ((owned.1.connectedIn owned.2).filter (· ≠ reqNode)).length then []
    else n.completePendingOps packet

def handleSendPageOps (n : Node Page) (packet : DsmPacket Page) : List LockOp :=
  let idx := packet.pageIndex
  if idx < n.numPages then
    let slot := n.gpdPendingReqs idx
    if n.coordinatorFd = -1 ∧ slot.requesterNodeId ≠ 0 then
      if slot.type = .requestPageWrite then n.replyToPendingWriteOps packet
      else n.directory.transitionOps idx ++ n.completePendingOps packet
    else statusOps idx
  else []

def handleInvalidateOps (n : Node Page) (packet : DsmPacket Page) : List LockOp :=
  if packet.pageIndex < n.numPages then statusOps packet.pageIndex else []

def handleInvalidateAckOps (n : Node Page) (packet : DsmPacket Page) : List LockOp :=
  let idx := packet.pageIndex
  let slot := n.gpdPendingReqs idx
  if idx < n.numPages ∧ slot.expectedAcks = 1 ∧ slot.requesterNodeId = n.localNodeId then
    statusOps idx
  else []

def handlePageRequestOps (n : Node Page) (clientFd : Int) (packet : DsmPacket Page) : List LockOp :=
  let idx := packet.pageIndex
  let requestingNode := packet.senderNodeId
  if idx < n.numPages then
    let n := n.registerSender clientFd requestingNode
    if n.pageTable idx = .valid then
      -- the copy is taken before the lock is released
      locked (.page idx) (.access (.status idx) :: n.copyOps idx) ++
        (n.directory.transitionOps idx ++
          if packet.type = .requestPageWrite then n.invalidateLocalPageCopyOps idx
          else if (n.transitionToShared idx requestingNode).2 = n.localNodeId then
            n.writeprotectLocalPageCopyOps idx
          else [])
    else
      statusOps idx ++
        if n.CanFetch idx ∧ gpdGetOwner n.directory idx ≠ requestingNode then []
        else if packet.type = .requestPageWrite then n.ownDroppingLocalOps idx requestingNode
        else n.directory.transitionOps idx
  else []

def dispatchPacketOps (n : Node Page) (clientFd : Int) (packet : DsmPacket Page) : List LockOp :=
  match packet.type with
  | .sendPage => n.handleSendPageOps packet
  | .invalidate => n.handleInvalidateOps packet
  | .invalidateAck => n.handleInvalidateAckOps packet
  | .requestPageRead | .requestPageWrite => n.handlePageRequestOps clientFd packet
  | .nodeJoin | .other _ => []

/-- The writeback takes its copy with the mutexes of the hand and of the tracker held. -/
def writebackOps (n : Node Page) (idx : Nat) : List LockOp :=
  if n.directory.localMsiState n.localNodeId idx = .modified then n.copyOps idx else []

/-- The sweep of `dsm_execute_eviction`. `free` says whether `pthread_mutex_trylock` succeeds with
that many iterations left. -/
def evictionSweepOps (free : Nat → Bool) (n : Node Page) : Nat → List LockOp
  | 0 => []
  | iterations + 1 =>
    let inspectIdx := n.clockHand
    let advanced := { n with clockHand := (n.clockHand + 1) % n.numPages }
    let victim := advanced.evictionRing inspectIdx
    .access .hand ::
      if free iterations = false then evictionSweepOps free advanced iterations
      else if victim.accessBit = 1 then
        locked (.tracker inspectIdx) [] ++ evictionSweepOps free
          { advanced with
            evictionRing :=
              Function.update advanced.evictionRing inspectIdx { victim with accessBit := 0 } }
          iterations
      else if victim.status = 0 then
        locked (.tracker inspectIdx) [.access (.tracker inspectIdx)] ++
          evictionSweepOps free advanced iterations
      else
        locked (.tracker inspectIdx) (.access (.tracker inspectIdx) ::
          (n.writebackOps victim.pageIndex ++
            .access (.tracker inspectIdx) :: n.directory.transitionOps victim.pageIndex))

def dsmExecuteEvictionOps (free : Nat → Bool) (n : Node Page) : List LockOp :=
  locked .clockHand (n.evictionSweepOps free (n.numPages * 2))

end Node

namespace Sequencer

/-- The caller holds the lock of `seq`, the record of page `p`. -/
def executeGpdTransactionOps (s : Sequencer Page) (p pageIdx : Nat) : MsgType → List LockOp
  | .requestPageWrite | .requestPageRead =>
    .access (.sequencer p) :: (s.directory.transitionOps pageIdx ++ [.access (.sequencer p)])
  | _ => [.access (.sequencer p)]

def processNodeRequestOps (s : Sequencer Page) (packet : DsmPacket Page) : List LockOp :=
  let pageIdx := packet.pageIndex
  if s.totalManagedPages ≤ pageIdx then []
  else
    locked (.sequencer pageIdx) (.access (.sequencer pageIdx) ::
      if (s.table pageIdx).transactionActive then [.access (.sequencer pageIdx)]
      else s.executeGpdTransactionOps pageIdx pageIdx packet.type)

def processNodeInvalidateAckOps (s : Sequencer Page) (pageIndex : Nat) : List LockOp :=
  let seq := s.table pageIndex
  if s.totalManagedPages ≤ pageIndex then []
  else
    locked (.sequencer pageIndex) (.access (.sequencer pageIndex) ::
      if seq.transactionActive = false ∨ seq.expectedAcks = 0 then []
      else .access (.sequencer pageIndex) ::
        match seq.queue with
        | [] => []
        | next :: _ =>
          if seq.expectedAcks = 1 then
            s.executeGpdTransactionOps pageIndex next.pageIndex next.type
          else [])

end Sequencer

/-- A call that a thread makes, with the state in which it takes its branches. -/
inductive ThreadCall (Page : Type) where
  | fault (n : Node Page) (fault : PageRequest)
  | drain (popped : List (Node Page × PageRequest)) (last : Node Page)
  | packet (n : Node Page) (clientFd : Int) (packet : DsmPacket Page)
  | evict (n : Node Page) (free : Nat → Bool)
  | request (s : Sequencer Page) (packet : DsmPacket Page)
  | invalidateAck (s : Sequencer Page) (pageIndex : Nat)

def ThreadCall.ops : ThreadCall Page → List LockOp
  | .fault n raised => n.handleFaultOps raised
  | .drain popped last => Node.drainOps popped last
  | .packet n clientFd received => n.dispatchPacketOps clientFd received
  | .evict n free => n.dsmExecuteEvictionOps free
  | .request s received => s.processNodeRequestOps received
  | .invalidateAck s pageIndex => s.processNodeInvalidateAckOps pageIndex

/-! ### Each call follows the discipline -/

/-- The thread holds `held` before and after. -/
abbrev Balanced (held : List Mutex) (ops : List LockOp) : Prop :=
  Follows lockDiscipline held ops held

/-- All locks held rank below `rank`. -/
def Below (rank : Nat) (held : List Mutex) : Prop := ∀ m ∈ held, lockDiscipline.rank m < rank

section Calls

variable {held : List Mutex} {idx : Nat}

theorem below_nil (rank : Nat) : Below rank [] := fun _ member => absurd member List.not_mem_nil

theorem below_cons {rank : Nat} {m : Mutex} (low : lockDiscipline.rank m < rank)
    (below : Below rank held) : Below rank (m :: held) := by
  intro other member
  rcases List.mem_cons.mp member with rfl | member
  · exact low
  · exact below other member

theorem Below.mono {rank rank' : Nat} (below : Below rank held) (le : rank ≤ rank') :
    Below rank' held :=
  fun m member => (below m member).trans_le le

theorem balanced_nil : Balanced held [] := rfl

theorem balanced_locked {m : Mutex} {ops : List LockOp}
    (below : Below (lockDiscipline.rank m) held) (inside : Balanced (m :: held) ops) :
    Balanced held (locked m ops) :=
  Follows.critical below inside

theorem balanced_access {v : Shared} {ops : List LockOp} (holds : lockDiscipline.guard v ∈ held)
    (rest : Balanced held ops) : Balanced held (.access v :: ops) :=
  ⟨holds, rest⟩

theorem balanced_ite {c : Prop} [Decidable c] {ops ops' : List LockOp}
    (yes : c → Balanced held ops) (no : ¬c → Balanced held ops') :
    Balanced held (if c then ops else ops') := by
  split
  next holds => exact yes holds
  next fails => exact no fails

/-- The status of page `idx` may be touched in the critical section of its lock. -/
theorem balanced_status (below : Below 1 held) : Balanced held (Node.statusOps idx) :=
  balanced_locked below (balanced_access List.mem_cons_self balanced_nil)

theorem balanced_transition (d : Directory) (below : Below 2 held) :
    Balanced held (d.transitionOps idx) :=
  balanced_ite (fun _ => balanced_nil) fun _ =>
    balanced_locked below (balanced_access List.mem_cons_self balanced_nil)

namespace Node

theorem balanced_queuePush (n : Node Page) (below : Below 2 held) :
    Balanced held n.queuePushOps :=
  balanced_locked below <| balanced_access List.mem_cons_self <|
    balanced_ite (fun _ => balanced_nil) fun _ => balanced_access List.mem_cons_self balanced_nil

theorem balanced_queuePop (n : Node Page) (below : Below 2 held) : Balanced held n.queuePopOps :=
  balanced_locked below <| balanced_access List.mem_cons_self <|
    balanced_ite (fun _ => balanced_nil) fun _ => balanced_access List.mem_cons_self balanced_nil

/-- Whoever copies a page keeps the locks that it holds, asleep or not. -/
theorem balanced_copy (n : Node Page) (idx : Nat) : Balanced held (n.copyOps idx) :=
  balanced_ite (fun _ => balanced_nil) fun _ => (rfl : Balanced held [])

theorem balanced_writeback (n : Node Page) (idx : Nat) : Balanced held (n.writebackOps idx) :=
  balanced_ite (fun _ => n.balanced_copy idx) fun _ => balanced_nil

theorem balanced_invalidateLocal (n : Node Page) (below : Below 1 held) :
    Balanced held (n.invalidateLocalPageCopyOps idx) :=
  balanced_ite (fun _ => balanced_nil) fun _ => balanced_status below

theorem balanced_writeprotectLocal (n : Node Page) (below : Below 1 held) :
    Balanced held (n.writeprotectLocalPageCopyOps idx) :=
  balanced_ite (fun _ => balanced_nil) fun _ => balanced_status below

/-- The fault handler pushes while it holds the lock of the page. -/
theorem balanced_handleFault (n : Node Page) (fault : PageRequest) (below : Below 1 held) :
    Balanced held (n.handleFaultOps fault) := by
  refine balanced_locked below (balanced_access List.mem_cons_self ?_)
  refine balanced_ite (fun _ => balanced_nil) fun _ => balanced_access List.mem_cons_self ?_
  have pushed : Balanced (.page fault.pageIndex :: held) n.queuePushOps :=
    n.balanced_queuePush (below_cons (by simp [lockDiscipline]) (below.mono (by decide)))
  refine pushed.append (balanced_ite (fun _ => ?_) fun _ => balanced_nil)
  exact balanced_access List.mem_cons_self balanced_nil

/-- The upgrade sends its packets and changes the directory while it holds the lock of the page. -/
theorem balanced_upgradeLocalCopy (n : Node Page) (below : Below 1 held) :
    Balanced (.page idx :: held) (n.upgradeLocalCopyOps idx) := by
  have owned : Balanced (.page idx :: held) (n.directory.transitionOps idx) :=
    balanced_transition n.directory
      (below_cons (by simp [lockDiscipline]) (below.mono (by decide)))
  refine owned.append (balanced_ite (fun _ => balanced_nil) fun _ => ?_)
  exact balanced_access List.mem_cons_self balanced_nil

theorem balanced_serveQueuedRequest (n : Node Page) (req : PageRequest) (below : Below 1 held) :
    Balanced held (n.serveQueuedRequestOps req) := by
  refine balanced_ite (fun _ => balanced_nil) fun _ => balanced_ite (fun _ => ?present) fun _ => ?missing
  case present =>
    refine balanced_locked below (balanced_access List.mem_cons_self ?_)
    exact balanced_ite (fun _ => n.balanced_upgradeLocalCopy below) fun _ => balanced_nil
  case missing =>
    refine (balanced_status below).append (balanced_ite (fun _ => balanced_nil) fun _ => ?_)
    exact (balanced_status below).append (balanced_transition _ (below.mono (by decide)))

theorem balanced_drain (popped : List (Node Page × PageRequest)) (last : Node Page)
    (below : Below 1 held) : Balanced held (drainOps popped last) := by
  refine Follows.append ?_ (last.balanced_queuePop (below.mono (by decide)))
  rw [List.flatMap_def]
  refine Follows.flatten fun ops member => ?_
  obtain ⟨⟨n, req⟩, -, rfl⟩ := List.mem_map.mp member
  exact (n.balanced_queuePop (below.mono (by decide))).append
    (n.balanced_serveQueuedRequest req below)

theorem balanced_completePending (n : Node Page) (packet : DsmPacket Page) (below : Below 1 held) :
    Balanced held (n.completePendingOps packet) :=
  balanced_ite (fun _ => balanced_status below) fun _ => balanced_nil

theorem balanced_ownDroppingLocal (n : Node Page) (writer : Nat) (below : Below 1 held) :
    Balanced held (n.ownDroppingLocalOps idx writer) := by
  refine (balanced_transition _ (below.mono (by decide))).append ?_
  exact balanced_ite (fun _ => n.balanced_invalidateLocal below) fun _ => balanced_nil

theorem balanced_replyToPendingWrite (n : Node Page) (packet : DsmPacket Page)
    (below : Below 1 held) : Balanced held (n.replyToPendingWriteOps packet) := by
  refine (n.balanced_ownDroppingLocal _ below).append ?_
  exact balanced_ite (fun _ => balanced_nil) fun _ => n.balanced_completePending packet below

theorem balanced_handleSendPage (n : Node Page) (packet : DsmPacket Page) (below : Below 1 held) :
    Balanced held (n.handleSendPageOps packet) := by
  refine balanced_ite (fun _ => ?_) fun _ => balanced_nil
  refine balanced_ite (fun _ => ?_) fun _ => balanced_status below
  refine balanced_ite (fun _ => n.balanced_replyToPendingWrite packet below) fun _ => ?_
  exact (balanced_transition _ (below.mono (by decide))).append
    (n.balanced_completePending packet below)

/-- The reply to a request is copied in the critical section; the directory and the own copy are
changed after it. -/
theorem balanced_handlePageRequest (n : Node Page) (clientFd : Int) (packet : DsmPacket Page)
    (below : Below 1 held) : Balanced held (n.handlePageRequestOps clientFd packet) := by
  refine balanced_ite (fun _ => balanced_ite (fun _ => ?valid) fun _ => ?_) fun _ => balanced_nil
  case valid =>
    have copied : Balanced held (locked (.page packet.pageIndex)
        (.access (.status packet.pageIndex) ::
          (n.registerSender clientFd packet.senderNodeId).copyOps packet.pageIndex)) :=
      balanced_locked below (balanced_access List.mem_cons_self (balanced_copy _ _))
    refine copied.append ((balanced_transition _ (below.mono (by decide))).append ?_)
    refine balanced_ite (fun _ => balanced_invalidateLocal _ below) fun _ => ?_
    exact balanced_ite (fun _ => balanced_writeprotectLocal _ below) fun _ => balanced_nil
  refine (balanced_status below).append (balanced_ite (fun _ => balanced_nil) fun _ => ?_)
  refine balanced_ite (fun _ => balanced_ownDroppingLocal _ _ below) fun _ => ?_
  exact balanced_transition _ (below.mono (by decide))

theorem balanced_dispatchPacket (n : Node Page) (clientFd : Int) (packet : DsmPacket Page)
    (below : Below 1 held) : Balanced held (n.dispatchPacketOps clientFd packet) := by
  unfold dispatchPacketOps
  split
  · exact n.balanced_handleSendPage packet below
  · exact balanced_ite (fun _ => balanced_status below) fun _ => balanced_nil
  · exact balanced_ite (fun _ => balanced_status below) fun _ => balanced_nil
  · exact n.balanced_handlePageRequest clientFd packet below
  · exact n.balanced_handlePageRequest clientFd packet below
  · exact balanced_nil
  · exact balanced_nil

/-- One iteration after the other, under the lock of the hand. -/
theorem balanced_evictionSweep (free : Nat → Bool) (n : Node Page) (iterations : Nat)
    (below : Below 0 held) :
    Balanced (.clockHand :: held) (n.evictionSweepOps free iterations) := by
  have low : Below 1 (.clockHand :: held) := below_cons (by decide) (below.mono (by decide))
  induction iterations generalizing n with
  | zero => exact balanced_nil
  | succ iterations ih =>
    refine balanced_access List.mem_cons_self (balanced_ite (fun _ => ih _) fun _ => ?_)
    refine balanced_ite (fun _ => ?_) fun _ => balanced_ite (fun _ => ?_) fun _ => ?victim
    · exact (balanced_locked (m := .tracker n.clockHand) low balanced_nil).append (ih _)
    · exact (balanced_locked (m := .tracker n.clockHand) low
        (balanced_access List.mem_cons_self balanced_nil)).append (ih _)
    case victim =>
      refine balanced_locked low (balanced_access List.mem_cons_self ?_)
      refine (n.balanced_writeback _).append (balanced_access List.mem_cons_self ?_)
      exact balanced_transition _ (below_cons (by simp [lockDiscipline]) (low.mono (by decide)))

end Node

namespace Sequencer

theorem balanced_executeGpdTransaction (s : Sequencer Page) {p : Nat} (pageIdx : Nat)
    (type : MsgType) (below : Below 1 held) :
    Balanced (.sequencer p :: held) (s.executeGpdTransactionOps p pageIdx type) := by
  unfold executeGpdTransactionOps
  have owned : Balanced (.sequencer p :: held) (s.directory.transitionOps pageIdx) :=
    balanced_transition s.directory
      (below_cons (by simp [lockDiscipline]) (below.mono (by decide)))
  have granted := owned.append
    (balanced_access (v := .sequencer p) List.mem_cons_self balanced_nil)
  split
  · exact balanced_access List.mem_cons_self granted
  · exact balanced_access List.mem_cons_self granted
  · exact balanced_access List.mem_cons_self balanced_nil

theorem balanced_processNodeRequest (s : Sequencer Page) (packet : DsmPacket Page)
    (below : Below 1 held) : Balanced held (s.processNodeRequestOps packet) := by
  refine balanced_ite (fun _ => balanced_nil) fun _ => balanced_locked below ?_
  refine balanced_access List.mem_cons_self (balanced_ite (fun _ => ?_) fun _ => ?_)
  · exact balanced_access List.mem_cons_self balanced_nil
  · exact s.balanced_executeGpdTransaction _ _ below

theorem balanced_processNodeInvalidateAck (s : Sequencer Page) (pageIndex : Nat)
    (below : Below 1 held) : Balanced held (s.processNodeInvalidateAckOps pageIndex) := by
  refine balanced_ite (fun _ => balanced_nil) fun _ => balanced_locked below ?_
  refine balanced_access List.mem_cons_self (balanced_ite (fun _ => balanced_nil) fun _ => ?_)
  refine balanced_access List.mem_cons_self ?_
  split
  · exact balanced_nil
  · exact balanced_ite (fun _ => s.balanced_executeGpdTransaction _ _ below) fun _ => balanced_nil

end Sequencer

theorem ThreadCall.balanced (call : ThreadCall Page) : Balanced [] call.ops := by
  cases call with
  | fault n raised => exact n.balanced_handleFault raised (below_nil 1)
  | drain popped last => exact Node.balanced_drain popped last (below_nil 1)
  | packet n clientFd received => exact n.balanced_dispatchPacket clientFd received (below_nil 1)
  | evict n free =>
    exact balanced_locked (below_nil 0) (n.balanced_evictionSweep free _ (below_nil 0))
  | request s received => exact s.balanced_processNodeRequest received (below_nil 1)
  | invalidateAck s pageIndex => exact s.balanced_processNodeInvalidateAck pageIndex (below_nil 1)

end Calls

/-! ### Any number of threads -/

/-- The calls of a thread, one after the other. -/
def callsOps (calls : List (ThreadCall Page)) : List LockOp := calls.flatMap ThreadCall.ops

theorem balanced_calls (calls : List (ThreadCall Page)) : Balanced [] (callsOps calls) := by
  unfold callsOps
  rw [List.flatMap_def]
  refine Follows.flatten fun ops member => ?_
  obtain ⟨call, -, rfl⟩ := List.mem_map.mp member
  exact call.balanced

theorem rank_le_two (m : Mutex) : lockDiscipline.rank m ≤ 2 := by
  cases m <;> simp [lockDiscipline]

/-- A store of the coordinator faults, while worker 2 asks its engine for the same page. -/
def contended : Fin 2 → List (ThreadCall PageBytes)
  | 0 => [.fault (.boot 1 (-1) 1) ⟨0, true⟩]
  | 1 => [.packet (.boot 1 (-1) 1) 5 ⟨.requestPageWrite, 0, 2, 0⟩]

end TeleportVM
