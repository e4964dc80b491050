import TeleportVM.Cluster

/-!
The per-page sequencer of the coordinator: it runs one transaction on a page at a time and
queues the requests that arrive meanwhile. Its peers answer with the handlers of the
network engine.
-/
namespace TeleportVM

variable {Page : Type}

/-- `deferred_request_t`. -/
structure DeferredRequest where
  nodeId : Nat
  type : MsgType
  clientFd : Int
  pageIndex : Nat
  deriving DecidableEq, Repr

/-- `page_sequencer_t`, the deferred requests from head to tail. -/
structure PageSequencer where
  transactionActive : Bool
  activeNode : Nat
  expectedAcks : Nat
  queue : List DeferredRequest
  deriving DecidableEq, Repr

/-- `sequencer_table` with `total_managed_pages`, and the directory it drives. `started` is
what the last call of `execute_gpd_transaction` on each page was given, which the source
does not keep; `effects` lists the packets sent since the thread last let go. -/
structure Sequencer (Page : Type) where
  totalManagedPages : Nat
  table : Nat → PageSequencer
  directory : Directory
  started : Nat → Option (Nat × MsgType)
  effects : List (Effect Page)

def coordinatorSequencerInit (totalPages : Nat) : Sequencer Page where
  totalManagedPages := totalPages
  table _ := ⟨false, 0, 0, []⟩
  directory := gpdInit totalPages
  started _ := none
  effects := []

/-- After `coordinator_sequencer_init`, with a directory that others may have used before. -/
def coordinatorSequencerOver (totalPages : Nat) (directory : Directory) : Sequencer Page :=
  { coordinatorSequencerInit totalPages with directory := directory }

namespace Sequencer

def setSeq (s : Sequencer Page) (pageIdx : Nat) (seq : PageSequencer) : Sequencer Page :=
  { s with table := Function.update s.table pageIdx seq }

variable [Zero Page]

def sendPacketToNode (s : Sequencer Page) (fd : Int) (type : MsgType) (pageIdx sender : Nat) :
    Sequencer Page :=
  { s with effects := s.effects ++ [.send fd ⟨type, pageIdx, sender, 0⟩] }

/-- The grant of a transaction that waits for nobody. -/
def grantAtOnce (s : Sequencer Page) (pageIdx : Nat) (clientFd : Int) : Sequencer Page :=
  (s.sendPacketToNode clientFd .sendPage pageIdx 0).setSeq pageIdx
    { s.table pageIdx with transactionActive := false, activeNode := 0 }

/-- The write branch of `execute_gpd_transaction`. -/
def executeWrite (s : Sequencer Page) (nodeFds : Nat → Int) (pageIdx nodeId : Nat)
    (clientFd : Int) : Sequencer Page :=
  let result := gpdTransitionToModified s.directory pageIdx nodeId
  let invalidateMask := (result.map Prod.snd).getD 0
  -- a holder is counted whether or not it is connected
  let targets := (List.range 64).filter fun i => invalidateMask.getLsbD i && i != nodeId
  let counted : Sequencer Page :=
    { s with directory := (result.map Prod.fst).getD s.directory }.setSeq pageIdx
      { s.table pageIdx with expectedAcks := targets.length }
  if 0 < targets.length then
    { counted with
      effects := counted.effects ++ (targets.filter fun i => nodeFds i != -1).map fun i =>
        .send (nodeFds i) ⟨.invalidate, pageIdx, 0, 0⟩ }
  else counted.grantAtOnce pageIdx clientFd

/-- The read branch of `execute_gpd_transaction`: a `MODIFIED` owner is invalidated first. -/
def executeRead (s : Sequencer Page) (nodeFds : Nat → Int) (pageIdx nodeId : Nat)
    (clientFd : Int) : Sequencer Page :=
  let result := gpdTransitionToShared s.directory pageIdx nodeId
  let oldOwner := (result.map Prod.snd).getD 0
  let shared : Sequencer Page := { s with directory := (result.map Prod.fst).getD s.directory }
  if oldOwner ≠ 0 ∧ oldOwner ≠ nodeId then
    -- the sender of this `MSG_INVALIDATE` is the reader
    (shared.setSeq pageIdx { s.table pageIdx with expectedAcks := 1 }).sendPacketToNode
      (nodeFds oldOwner) .invalidate pageIdx nodeId
  else shared.grantAtOnce pageIdx clientFd

def executeGpdTransaction (s : Sequencer Page) (nodeFds : Nat → Int) (pageIdx nodeId : Nat)
    (type : MsgType) (clientFd : Int) : Sequencer Page :=
  let active : Sequencer Page :=
    { s.setSeq pageIdx { s.table pageIdx with transactionActive := true, activeNode := nodeId } with
      started := Function.update s.started pageIdx (some (nodeId, type)) }
  match type with
  | .requestPageWrite => active.executeWrite nodeFds pageIdx nodeId clientFd
  | .requestPageRead => active.executeRead nodeFds pageIdx nodeId clientFd
  | _ => active

def processNodeRequest (s : Sequencer Page) (nodeFds : Nat → Int) (clientFd : Int)
    (packet : DsmPacket Page) : Sequencer Page :=
  let pageIdx := packet.pageIndex
  if s.totalManagedPages ≤ pageIdx then s
  else
    let seq := s.table pageIdx
    if seq.transactionActive then
      s.setSeq pageIdx
        { seq with queue := seq.queue ++ [⟨packet.senderNodeId, packet.type, clientFd, pageIdx⟩] }
    else s.executeGpdTransaction nodeFds pageIdx packet.senderNodeId packet.type clientFd

/-- The first half of `process_node_invalidate_ack`: count, and on the last acknowledgement
grant. The flag says that the transaction is complete. -/
def countInvalidateAck (s : Sequencer Page) (nodeFds : Nat → Int) (pageIndex : Nat) :
    Sequencer Page × Bool :=
  if s.totalManagedPages ≤ pageIndex then (s, false)
  else
    let seq := s.table pageIndex
    -- an acknowledgement that nobody waits for is dropped
    if seq.transactionActive = false ∨ seq.expectedAcks = 0 then (s, false)
    else
      let counted := s.setSeq pageIndex { seq with expectedAcks := seq.expectedAcks - 1 }
      if seq.expectedAcks - 1 = 0 then
        let granted :=
          if nodeFds seq.activeNode ≠ -1 then
            counted.sendPacketToNode (nodeFds seq.activeNode) .sendPage pageIndex 0
          else counted
        (granted.setSeq pageIndex
          { seq with transactionActive := false, activeNode := 0, expectedAcks := 0 }, true)
      else (counted, false)

/-- The second half: start the request at the head of the queue. -/
def startDeferred (s : Sequencer Page) (nodeFds : Nat → Int) (pageIndex : Nat) : Sequencer Page :=
  let seq := s.table pageIndex
  match seq.queue with
  | [] => s
  | next :: rest =>
    (s.setSeq pageIndex { seq with queue := rest }).executeGpdTransaction nodeFds next.pageIndex
      next.nodeId next.type next.clientFd

def processNodeInvalidateAck (s : Sequencer Page) (nodeFds : Nat → Int) (pageIndex : Nat) :
    Sequencer Page :=
  let counted := s.countInvalidateAck nodeFds pageIndex
  if counted.2 then counted.1.startDeferred nodeFds pageIndex else counted.1

end Sequencer

/-! ### The sequencer and its peers -/

/-- The workers of the topology are the peers. `resume` is the page whose acknowledgement
the sequencer is still handling, with its lock held, when the grant has been sent. -/
structure SequencedCluster (Page : Type) where
  sequencer : Sequencer Page
  resume : Option Nat
  node : Nat → Node Page
  toCoordinator : Nat → List (DsmPacket Page)
  toWorker : Nat → List (DsmPacket Page)

/-- What can happen next. A node may ask at any time, and its threads may set the status of
its pages at any time. -/
inductive SequencedEvent where
  | ask (w p : Nat) (isWrite : Bool)
  | mark (w p : Nat) (status : PageStatus)
  | toWorker (w : Nat)
  | toCoordinator (w : Nat)
  | resume
  deriving DecidableEq, Repr

namespace SequencedCluster

/-- `node_fds` with every peer connected. -/
def nodeFds (T : Topology) (w : Nat) : Int := if w ∈ T.workers then T.acceptedFd w else -1

/-- The sequencer lets go of its thread: what it sent joins the links. -/
def settle (T : Topology) (s : SequencedCluster Page) (sequencer : Sequencer Page)
    (resume : Option Nat) : SequencedCluster Page :=
  { s with
    sequencer := { sequencer with effects := [] }
    resume := resume
    toWorker := fun w =>
      if w ∈ T.workers then s.toWorker w ++ sentOn (T.acceptedFd w) sequencer.effects
      else s.toWorker w }

/-- A peer lets go of its thread. -/
def settleNode (T : Topology) (s : SequencedCluster Page) (w : Nat) (node : Node Page) :
    SequencedCluster Page :=
  { s with
    node := Function.update s.node w { node with effects := [] }
    toCoordinator := Function.update s.toCoordinator w
      (s.toCoordinator w ++ sentOn (T.connectFd w) node.effects) }

variable [Zero Page]

def askStep (T : Topology) (s : SequencedCluster Page) (w p : Nat) (isWrite : Bool) :
    Option (SequencedCluster Page) :=
  if w ∈ T.workers then
    some { s with
      toCoordinator := Function.update s.toCoordinator w
        (s.toCoordinator w ++ [⟨Node.requestType isWrite, p, w, 0⟩]) }
  else none

def markStep (T : Topology) (s : SequencedCluster Page) (w p : Nat) (status : PageStatus) :
    Option (SequencedCluster Page) :=
  if w ∈ T.workers then
    some { s with node := Function.update s.node w ((s.node w).setStatus p status) }
  else none

/-- A peer handles `MSG_INVALIDATE` and `MSG_SEND_PAGE` as its network engine does. -/
def toWorkerStep (T : Topology) (s : SequencedCluster Page) (w : Nat) :
    Option (SequencedCluster Page) :=
  if w ∈ T.workers then
    match s.toWorker w with
    | [] => none
    | packet :: rest =>
      ((s.node w).dispatchPacket (T.connectFd w) packet).map fun node =>
        { s with toWorker := Function.update s.toWorker w rest }.settleNode T w node
  else none

/-- What the sequencer does with a packet, and whether it completed a transaction. -/
def dispatch (T : Topology) (sequencer : Sequencer Page) (w : Nat) (packet : DsmPacket Page) :
    Sequencer Page × Bool :=
  match packet.type with
  | .requestPageRead | .requestPageWrite =>
    (sequencer.processNodeRequest (nodeFds T) (nodeFds T w) packet, false)
  | .invalidateAck => sequencer.countInvalidateAck (nodeFds T) packet.pageIndex
  | _ => (sequencer, false)

def toCoordinatorStep (T : Topology) (s : SequencedCluster Page) (w : Nat) :
    Option (SequencedCluster Page) :=
  if w ∈ T.workers ∧ s.resume = none then
    match s.toCoordinator w with
    | [] => none
    | packet :: rest =>
      let result := dispatch T s.sequencer w packet
      some ({ s with toCoordinator := Function.update s.toCoordinator w rest }.settle T result.1
        (if result.2 then some packet.pageIndex else none))
  else none

theorem toWorkerStep_cases {T : Topology} {s t : SequencedCluster Page} {w : Nat}
    (next : s.toWorkerStep T w = some t) :
    w ∈ T.workers ∧ ∃ packet rest node, s.toWorker w = packet :: rest ∧
      (s.node w).dispatchPacket (T.connectFd w) packet = some node ∧
      t = { s with toWorker := Function.update s.toWorker w rest }.settleNode T w node := by
  unfold toWorkerStep at next
  split at next
  next worker =>
    split at next
    · cases next
    next packet rest head =>
      obtain ⟨node, handled, rfl⟩ := Option.map_eq_some_iff.mp next
      exact ⟨worker, packet, rest, node, head, handled, rfl⟩
  · cases next

/-- The sequencer takes a packet only when no acknowledgement holds its lock. -/
theorem toCoordinatorStep_cases {T : Topology} {s t : SequencedCluster Page} {w : Nat}
    (next : s.toCoordinatorStep T w = some t) :
    w ∈ T.workers ∧ s.resume = none ∧ ∃ packet rest, s.toCoordinator w = packet :: rest ∧
      t = { s with toCoordinator := Function.update s.toCoordinator w rest }.settle T
        (dispatch T s.sequencer w packet).1
        (if (dispatch T s.sequencer w packet).2 then some packet.pageIndex else none) := by
  unfold toCoordinatorStep at next
  split at next
  next enabled =>
    split at next
    · cases next
    next packet rest head =>
      cases next
      exact ⟨enabled.1, enabled.2, packet, rest, head, rfl⟩
  · cases next

/-- The rest of `process_node_invalidate_ack`, after the grant. -/
def resumeStep (T : Topology) (s : SequencedCluster Page) : Option (SequencedCluster Page) :=
  s.resume.map fun p => s.settle T (s.sequencer.startDeferred (nodeFds T) p) none

def step (T : Topology) (s : SequencedCluster Page) : SequencedEvent → Option (SequencedCluster Page)
  | .ask w p isWrite => s.askStep T w p isWrite
  | .mark w p status => s.markStep T w p status
  | .toWorker w => s.toWorkerStep T w
  | .toCoordinator w => s.toCoordinatorStep T w
  | .resume => s.resumeStep T

/-- All peers are connected, and nobody has asked for anything. -/
def initial (T : Topology) : SequencedCluster Page where
  sequencer := coordinatorSequencerInit T.numPages
  resume := none
  node n := .boot n (T.connectFd n) T.numPages
  toCoordinator _ := []
  toWorker _ := []

end SequencedCluster

end TeleportVM
