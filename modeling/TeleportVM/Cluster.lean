import TeleportVM.Engine
import TeleportVM.FaultHandler
import TeleportVM.Eviction
import TeleportVM.Lib.Runs
import Mathlib.Algebra.Notation.Pi.Defs
import Mathlib.Data.UInt

/-!
A cluster of one coordinator and its workers over reliable FIFO links. Every send
succeeds and no connection closes. An access that the mapping does not allow leaves a
page-fault message for the fault handler; the access itself is tried again later.
-/
namespace TeleportVM

/-- Who takes part, and the descriptors at the two ends of each connection. -/
structure Topology where
  coordinator : Nat
  workers : Finset Nat
  numPages : Nat
  acceptedFd : Nat → Int
  connectFd : Nat → Int
  coordinator_valid : ValidNode coordinator
  workers_valid : ∀ w ∈ workers, ValidNode w
  coordinator_not_worker : coordinator ∉ workers
  acceptedFd_open : ∀ w ∈ workers, acceptedFd w ≠ -1
  acceptedFd_injective : ∀ v ∈ workers, ∀ w ∈ workers, acceptedFd v = acceptedFd w → v = w
  connectFd_open : ∀ w ∈ workers, connectFd w ≠ -1

def Topology.nodes (T : Topology) : Finset Nat := insert T.coordinator T.workers

variable {Page : Type}

/-- The packets that a list of effects puts on one descriptor. -/
def sentOn (fd : Int) (effects : List (Effect Page)) : List (DsmPacket Page) :=
  effects.filterMap fun
    | .send f packet => if f = fd then some packet else none
    | _ => none

structure Cluster (Page : Type) where
  node : Nat → Node Page
  toCoordinator : Nat → List (DsmPacket Page)
  toWorker : Nat → List (DsmPacket Page)

/-- What can happen next. -/
inductive Event (Page : Type) where
  | load (n p : Nat)
  | store (n p : Nat) (contents : Page)
  | fault (n : Nat)
  | drain (n : Nat)
  | toCoordinator (w : Nat)
  | toWorker (w : Nat)
  | evict (w : Nat)

namespace Cluster

/-- A node gives up its thread: its sends join the links. -/
def settle (T : Topology) (s : Cluster Page) (n : Nat) (node : Node Page) : Cluster Page where
  node := Function.update s.node n { node with effects := [] }
  toCoordinator w :=
    if w ∈ T.workers ∧ w = n then s.toCoordinator w ++ sentOn (T.connectFd w) node.effects
    else s.toCoordinator w
  toWorker w :=
    if w ∈ T.workers ∧ n = T.coordinator then
      s.toWorker w ++ sentOn (T.acceptedFd w) node.effects
    else s.toWorker w

/-- The kernel suspends the thread and queues a page-fault message. -/
def raise (s : Cluster Page) (n : Nat) (fault : PageRequest) : Cluster Page :=
  { s with
    node := Function.update s.node n
      { s.node n with uffdMessages := (s.node n).uffdMessages ++ [fault] } }

variable [Zero Page]

def loadStep (T : Topology) (s : Cluster Page) (n p : Nat) : Option (Cluster Page) :=
  if n ∈ T.nodes ∧ p < T.numPages then
    -- the program goes on, or its thread sleeps until the access is tried again
    if ((s.node n).mapping p).isMapped then some s else some (s.raise n ⟨p, false⟩)
  else none

def storeStep (T : Topology) (s : Cluster Page) (n p : Nat) (contents : Page) :
    Option (Cluster Page) :=
  if n ∈ T.nodes ∧ p < T.numPages then
    if ((s.node n).mapping p).isWritable then
      some (s.settle T n ((s.node n).setMapping p (.readWrite contents)))
    else some (s.raise n ⟨p, true⟩)
  else none

def faultStep (T : Topology) (s : Cluster Page) (n : Nat) : Option (Cluster Page) :=
  if n ∈ T.nodes then
    match (s.node n).uffdMessages with
    | [] => none
    | fault :: rest => some (s.settle T n ({ s.node n with uffdMessages := rest }.handleFault fault))
  else none

def drainStep (T : Topology) (s : Cluster Page) (n : Nat) : Option (Cluster Page) :=
  if n ∈ T.nodes then
    match (s.node n).sharedReqQueue with
    | [] => none
    | req :: rest =>
      some (s.settle T n ({ s.node n with sharedReqQueue := rest }.serveQueuedRequest req))
  else none

def toCoordinatorStep (T : Topology) (s : Cluster Page) (w : Nat) : Option (Cluster Page) :=
  if w ∈ T.workers then
    match s.toCoordinator w with
    | [] => none
    | packet :: rest =>
      ((s.node T.coordinator).dispatchPacket (T.acceptedFd w) packet).map fun node =>
        { s with toCoordinator := Function.update s.toCoordinator w rest }.settle T T.coordinator node
  else none

def toWorkerStep (T : Topology) (s : Cluster Page) (w : Nat) : Option (Cluster Page) :=
  if w ∈ T.workers then
    match s.toWorker w with
    | [] => none
    | packet :: rest =>
      ((s.node w).dispatchPacket (T.connectFd w) packet).map fun node =>
        { s with toWorker := Function.update s.toWorker w rest }.settle T w node
  else none

/-- The eviction thread of a worker runs on its connection to the coordinator. -/
def evictStep (T : Topology) (s : Cluster Page) (w : Nat) : Option (Cluster Page) :=
  if w ∈ T.workers then
    ((s.node w).dsmExecuteEviction (T.connectFd w)).map fun result => s.settle T w result.1
  else none

def step (T : Topology) (s : Cluster Page) : Event Page → Option (Cluster Page)
  | .load n p => s.loadStep T n p
  | .store n p contents => s.storeStep T n p contents
  | .fault n => s.faultStep T n
  | .drain n => s.drainStep T n
  | .toCoordinator w => s.toCoordinatorStep T w
  | .toWorker w => s.toWorkerStep T w
  | .evict w => s.evictStep T w

/-! ### What a step has done -/

section Cases

variable {T : Topology} {s t : Cluster Page} {n p w : Nat}

omit [Zero Page] in
theorem loadStep_cases (next : s.loadStep T n p = some t) : n ∈ T.nodes ∧ p < T.numPages ∧
    (((s.node n).mapping p).isMapped = true ∧ t = s ∨
      ((s.node n).mapping p).isMapped = false ∧ t = s.raise n ⟨p, false⟩) := by
  unfold loadStep at next
  split at next
  next enabled =>
    refine ⟨enabled.1, enabled.2, ?_⟩
    split at next
    next mapped => exact Or.inl ⟨mapped, (Option.some.inj next).symm⟩
    next unmapped => exact Or.inr ⟨Bool.eq_false_iff.mpr unmapped, (Option.some.inj next).symm⟩
  · cases next

omit [Zero Page] in
theorem storeStep_cases {contents : Page} (next : s.storeStep T n p contents = some t) :
    n ∈ T.nodes ∧ p < T.numPages ∧
      (((s.node n).mapping p).isWritable = true ∧
          t = s.settle T n ((s.node n).setMapping p (.readWrite contents)) ∨
        ((s.node n).mapping p).isWritable = false ∧ t = s.raise n ⟨p, true⟩) := by
  unfold storeStep at next
  split at next
  next enabled =>
    refine ⟨enabled.1, enabled.2, ?_⟩
    split at next
    next writable => exact Or.inl ⟨writable, (Option.some.inj next).symm⟩
    next readOnly => exact Or.inr ⟨Bool.eq_false_iff.mpr readOnly, (Option.some.inj next).symm⟩
  · cases next

omit [Zero Page] in
theorem faultStep_cases (next : s.faultStep T n = some t) : n ∈ T.nodes ∧
    ∃ fault rest, (s.node n).uffdMessages = fault :: rest ∧
      t = s.settle T n ({ s.node n with uffdMessages := rest }.handleFault fault) := by
  unfold faultStep at next
  split at next
  next node =>
    split at next
    · cases next
    next fault rest waiting => exact ⟨node, fault, rest, waiting, (Option.some.inj next).symm⟩
  · cases next

theorem drainStep_cases (next : s.drainStep T n = some t) : n ∈ T.nodes ∧
    ∃ req rest, (s.node n).sharedReqQueue = req :: rest ∧
      t = s.settle T n ({ s.node n with sharedReqQueue := rest }.serveQueuedRequest req) := by
  unfold drainStep at next
  split at next
  next node =>
    split at next
    · cases next
    next req rest waiting => exact ⟨node, req, rest, waiting, (Option.some.inj next).symm⟩
  · cases next

theorem toCoordinatorStep_cases (next : s.toCoordinatorStep T w = some t) : w ∈ T.workers ∧
    ∃ packet rest node, s.toCoordinator w = packet :: rest ∧
      (s.node T.coordinator).dispatchPacket (T.acceptedFd w) packet = some node ∧
      t = { s with toCoordinator := Function.update s.toCoordinator w rest }.settle T T.coordinator
        node := by
  unfold toCoordinatorStep at next
  split at next
  next worker =>
    split at next
    · cases next
    next packet rest head =>
      obtain ⟨node, handled, same⟩ := Option.map_eq_some_iff.mp next
      exact ⟨worker, packet, rest, node, head, handled, same.symm⟩
  · cases next

theorem toWorkerStep_cases (next : s.toWorkerStep T w = some t) : w ∈ T.workers ∧
    ∃ packet rest node, s.toWorker w = packet :: rest ∧
      (s.node w).dispatchPacket (T.connectFd w) packet = some node ∧
      t = { s with toWorker := Function.update s.toWorker w rest }.settle T w node := by
  unfold toWorkerStep at next
  split at next
  next worker =>
    split at next
    · cases next
    next packet rest head =>
      obtain ⟨node, handled, same⟩ := Option.map_eq_some_iff.mp next
      exact ⟨worker, packet, rest, node, head, handled, same.symm⟩
  · cases next

omit [Zero Page] in
theorem evictStep_cases (next : s.evictStep T w = some t) : w ∈ T.workers ∧
    ∃ result, (s.node w).dsmExecuteEviction (T.connectFd w) = some result ∧
      t = s.settle T w result.1 := by
  unfold evictStep at next
  split at next
  next worker =>
    obtain ⟨result, evicted, same⟩ := Option.map_eq_some_iff.mp next
    exact ⟨worker, result, evicted, same.symm⟩
  · cases next

end Cases

end Cluster

/-! ### Start of a run -/

/-- A node as `main` leaves it, with the descriptor its engine got for the coordinator. -/
def Node.boot [Zero Page] (id : Nat) (coordinatorFd : Int) (numPages : Nat) : Node Page where
  localNodeId := id
  coordinatorFd := coordinatorFd
  nodeFds _ := -1
  pageTable _ := .empty
  mapping _ := .unmapped
  directory := gpdInit numPages
  gpdPendingReqs _ := ⟨0, .other 0, 0, 0, 0⟩
  sharedReqQueue := []
  uffdMessages := []
  evictionRing i := ⟨i, 1, 0⟩
  clockHand := 0
  effects := []

/-- Every worker has connected and sent `MSG_NODE_JOIN`. -/
def Cluster.initial [Zero Page] (T : Topology) : Cluster Page where
  node n := .boot n (if n ∈ T.workers then T.connectFd n else -1) T.numPages
  toCoordinator w := if w ∈ T.workers then [⟨.nodeJoin, 0, w, 0⟩] else []
  toWorker _ := []

/-! ### Requests as the coordinator sees them -/

/-- A request for a page, by a worker or by the coordinator's own queue. -/
structure PageAsk where
  page : Nat
  requester : Nat
  isWrite : Bool
  deriving DecidableEq, Repr

def DsmPacket.ask (packet : DsmPacket Page) : Option PageAsk :=
  match packet.type with
  | .requestPageRead => some ⟨packet.pageIndex, packet.senderNodeId, false⟩
  | .requestPageWrite => some ⟨packet.pageIndex, packet.senderNodeId, true⟩
  | _ => none

/-- The request that the coordinator handles in this event, if it handles one. -/
def Cluster.asks (T : Topology) (s : Cluster Page) : Event Page → Option PageAsk
  | .drain n =>
    if n = T.coordinator then
      (s.node n).sharedReqQueue.head?.map fun req => ⟨req.pageIndex, n, req.isWrite⟩
    else none
  | .toCoordinator w => (s.toCoordinator w).head?.bind DsmPacket.ask
  | _ => none

/-- The coordinator's directory entry and pending slot for a page. -/
def Cluster.entry (T : Topology) (s : Cluster Page) (p : Nat) : GpdEntry :=
  (s.node T.coordinator).directory.entry p

def Cluster.slot (T : Topology) (s : Cluster Page) (p : Nat) : CoordPending Page :=
  (s.node T.coordinator).gpdPendingReqs p

def Event.isEviction : Event Page → Bool
  | .evict _ => true
  | _ => false

/-! ### Small clusters -/

/-- The payload of a packet. -/
abbrev PageBytes := Fin 4096 → UInt8

/-- Coordinator 1 and a few workers, with four pages. -/
def Topology.small (workers : Finset Nat) (valid : ∀ w ∈ workers, ValidNode w)
    (apart : 1 ∉ workers) : Topology where
  coordinator := 1
  workers := workers
  numPages := 4
  acceptedFd w := 10 + w
  connectFd _ := 7
  coordinator_valid := by decide
  workers_valid := valid
  coordinator_not_worker := apart
  acceptedFd_open w _ := by omega
  acceptedFd_injective v _ w _ same := by omega
  connectFd_open w _ := by decide

def twoWorkers : Topology := .small {2, 3} (by decide) (by decide)

def threeWorkers : Topology := .small {2, 3, 4} (by decide) (by decide)

/-- A read miss of a worker, up to its request on the link. -/
def readMiss (w p : Nat) : List (Event Page) := [.load w p, .fault w, .drain w]

/-- A write fault of a worker, up to its request on the link. -/
def writeMiss (w p : Nat) (contents : Page) : List (Event Page) :=
  [.store w p contents, .fault w, .drain w]

/-- Worker 2 writes page 0, and then worker 3 does. -/
def writeThenWrite : List (Event PageBytes) :=
  [.toCoordinator 2, .toCoordinator 3] ++ writeMiss 2 0 (fun _ => 7) ++
    [.toCoordinator 2, .toWorker 2] ++ writeMiss 3 0 (fun _ => 8) ++
    [.toCoordinator 3, .toWorker 2, .toCoordinator 2, .toWorker 2, .toCoordinator 2, .toWorker 3]

end TeleportVM
