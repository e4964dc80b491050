import TeleportVM.Threads
import TeleportVM.Lib.Links

/-!
The cluster with connections that fail. A worker's first connect may fail, either end of a
connection may close at any moment, and what is on the way may be lost, the last packets first.
Nothing connects again.
-/
namespace TeleportVM

variable {Page : Type}

/-- A cluster, and whether the coordinator still holds its end of each worker's connection. -/
structure FailingCluster (Page : Type) where
  cluster : Cluster Page
  accepted : Nat → Bool

inductive FailureEvent (Page : Type) where
  | base (e : Event Page)
  | workerLoses (w : Nat)
  | coordinatorLoses (w : Nat)
  | lost (w up down : Nat)

namespace FailingCluster

/-- A closed end receives nothing, and a worker that never connected runs no eviction. -/
def Possible (connected : Finset Nat) (s : FailingCluster Page) : Event Page → Prop
  | .toCoordinator w => s.accepted w = true
  | .toWorker w => (s.cluster.node w).coordinatorFd ≠ -1
  | .evict w => w ∈ connected
  | _ => True

instance (connected : Finset Nat) (s : FailingCluster Page) (e : Event Page) :
    Decidable (s.Possible connected e) := by
  cases e <;> unfold Possible <;> infer_instance

/-- What a node sends on a connection it has closed goes nowhere. -/
def dropUnsent (s : FailingCluster Page) (t : Cluster Page) : Cluster Page :=
  { t with
    toCoordinator := fun w =>
      if (s.cluster.node w).coordinatorFd = -1 then
        (t.toCoordinator w).take (s.cluster.toCoordinator w).length
      else t.toCoordinator w
    toWorker := fun w =>
      if s.accepted w then t.toWorker w
      else (t.toWorker w).take (s.cluster.toWorker w).length }

def step [Zero Page] (T : Topology) (connected : Finset Nat) (s : FailingCluster Page) :
    FailureEvent Page → Option (FailingCluster Page)
  | .base e =>
    if s.Possible connected e then
      (s.cluster.step T e).map fun t => { s with cluster := s.dropUnsent t }
    else none
  | .workerLoses w =>
    if w ∈ T.workers ∧ (s.cluster.node w).coordinatorFd ≠ -1 then
      some { s with
        cluster.node :=
          Function.update s.cluster.node w ((s.cluster.node w).closeConnection (T.connectFd w)) }
    else none
  | .coordinatorLoses w =>
    if w ∈ T.workers ∧ s.accepted w = true then
      some {
        cluster := { s.cluster with
          node := Function.update s.cluster.node T.coordinator
            ((s.cluster.node T.coordinator).closeConnection (T.acceptedFd w)) }
        accepted := Function.update s.accepted w false }
    else none
  | .lost w up down =>
    some { s with
      cluster.toCoordinator :=
        Function.update s.cluster.toCoordinator w ((s.cluster.toCoordinator w).take up)
      cluster.toWorker := Function.update s.cluster.toWorker w ((s.cluster.toWorker w).take down) }

/-- The workers in `connected` have connected and sent `MSG_NODE_JOIN`; the connect of the
others failed. -/
def initial [Zero Page] (T : Topology) (connected : Finset Nat) : FailingCluster Page where
  cluster :=
    { node := fun n => .boot n (if n ∈ T.workers ∩ connected then T.connectFd n else -1) T.numPages
      toCoordinator := fun w => if w ∈ T.workers ∩ connected then [⟨.nodeJoin, 0, w, 0⟩] else []
      toWorker := fun _ => [] }
  accepted w := w ∈ T.workers ∩ connected

end FailingCluster

/-! ### The coordinator keeps its role -/

/-- What a coordinator keeps when it loses connections. -/
structure CoordinatorRole (T : Topology) (n : Node Page) : Prop where
  id : n.localNodeId = T.coordinator
  fd : n.coordinatorFd = -1
  sends : ∀ fd packet, Effect.send fd packet ∈ n.effects → DownPacket T packet

namespace CoordinatorRole

variable {T : Topology} {n : Node Page}

/-- Calls that send nothing but packets of a coordinator. -/
theorem append (role : CoordinatorRole T n) {n' : Node Page} (calls : List (Effect Page))
    (id : n'.localNodeId = n.localNodeId) (fd : n'.coordinatorFd = n.coordinatorFd)
    (effects : n'.effects = n.effects ++ calls)
    (down : ∀ fd packet, Effect.send fd packet ∈ calls → DownPacket T packet) :
    CoordinatorRole T n' where
  id := id.trans role.id
  fd := fd.trans role.fd
  sends f packet member := by
    rw [effects] at member
    rcases List.mem_append.mp member with old | new
    · exact role.sends f packet old
    · exact down f packet new

theorem sendAllNonblocking (role : CoordinatorRole T n) (fd : Int) (packet : DsmPacket Page)
    (down : DownPacket T packet) : CoordinatorRole T (n.sendAllNonblocking fd packet) := by
  refine role.append [.send fd packet] rfl rfl rfl ?_
  intro f q member
  simp only [List.mem_singleton, Effect.send.injEq] at member
  exact member.2 ▸ down

theorem installPage (role : CoordinatorRole T n) (idx : Nat) (page : Page) :
    CoordinatorRole T (n.installPage idx page) :=
  role.append [.uffdioCopy idx page] rfl rfl rfl (by simp)

theorem liftWriteProtection (role : CoordinatorRole T n) (idx : Nat) :
    CoordinatorRole T (n.liftWriteProtection idx) :=
  role.append [.uffdioUnprotect idx] rfl rfl rfl (by simp)

theorem setPending (role : CoordinatorRole T n) (idx : Nat) (slot : CoordPending Page) :
    CoordinatorRole T (n.setPending idx slot) := { role with }

theorem setRequests (role : CoordinatorRole T n) (queue waiting : List PageRequest) :
    CoordinatorRole T { n with sharedReqQueue := queue, uffdMessages := waiting } := { role with }

theorem closeConnection (role : CoordinatorRole T n) (clientFd : Int) :
    CoordinatorRole T (n.closeConnection clientFd) where
  id := role.id
  fd := by
    simp only [Node.closeConnection]
    split
    · rfl
    · exact role.fd
  sends := role.sends

theorem ownDroppingLocal (role : CoordinatorRole T n) (idx writer : Nat) :
    CoordinatorRole T (n.ownDroppingLocal idx writer).1 := by
  unfold Node.ownDroppingLocal
  dsimp only
  split
  · exact { role with }
  · exact { role with }

theorem handleFault (role : CoordinatorRole T n) (fault : PageRequest) :
    CoordinatorRole T (n.handleFault fault) := by
  unfold Node.handleFault
  dsimp only
  split
  · exact role
  · simp only [Node.queuePush]
    split
    · exact { role with }
    · exact { role with }

theorem completePending (role : CoordinatorRole T n) (packet : DsmPacket Page)
    (sendPage : packet.type = .sendPage) : CoordinatorRole T (n.completePending packet) := by
  unfold Node.completePending
  apply CoordinatorRole.setPending
  split
  · exact role.installPage _ _
  · exact role.sendAllNonblocking _ _ (Or.inl sendPage)

theorem acceptPage (role : CoordinatorRole T n) (packet : DsmPacket Page) :
    CoordinatorRole T (n.acceptPage packet) := by
  unfold Node.acceptPage
  dsimp only
  split
  · exact { role.liftWriteProtection packet.pageIndex with }
  · exact role.installPage _ _
  · exact role.installPage _ _
  · exact role

theorem grantDeferred (role : CoordinatorRole T n) (idx : Nat) :
    CoordinatorRole T (n.grantDeferred idx) := by
  unfold Node.grantDeferred
  apply CoordinatorRole.setPending
  split
  · split
    · exact { role.liftWriteProtection idx with }
    · exact role.installPage _ _
  · exact role.sendAllNonblocking _ _ (Or.inl rfl)

theorem handleInvalidateAck (role : CoordinatorRole T n) (packet : DsmPacket Page) :
    CoordinatorRole T (n.handleInvalidateAck packet) := by
  unfold Node.handleInvalidateAck
  dsimp only
  split
  · split
    · split
      · exact (role.setPending _ _).grantDeferred _
      · exact role.setPending _ _
    · exact role
  · exact role

variable [Zero Page]

theorem sendInvalidations (role : CoordinatorRole T n) (idx : Nat) (targets : List Nat) :
    CoordinatorRole T (n.sendInvalidations idx targets) := by
  refine role.append (targets.map fun m => .send (n.nodeFds m) (Node.invalidatePacket idx)) rfl rfl rfl ?_
  intro f q member
  obtain ⟨m, -, equal⟩ := List.mem_map.mp member
  cases equal
  exact Or.inr (Or.inl rfl)

theorem fetchFromOwner (role : CoordinatorRole T n) (idx requester : Nat) (type : MsgType)
    (clientFd : Int) (oldOwner : Nat) :
    CoordinatorRole T (n.fetchFromOwner idx requester type clientFd oldOwner) :=
  (role.setPending idx _).sendAllNonblocking _ _ (Or.inr (Or.inr ⟨rfl, role.id⟩))

theorem upgradeLocalCopy (role : CoordinatorRole T n) (idx : Nat) :
    CoordinatorRole T (n.upgradeLocalCopy idx) := by
  have owned : CoordinatorRole T (n.transitionToModified idx n.localNodeId).1 := { role with }
  unfold Node.upgradeLocalCopy
  dsimp only
  split
  · exact (owned.setPending idx _).sendInvalidations idx _
  · exact owned.liftWriteProtection idx

theorem zeroFillLocal (role : CoordinatorRole T n) (idx : Nat) (isWrite : Bool) :
    CoordinatorRole T (n.zeroFillLocal idx isWrite) := by
  unfold Node.zeroFillLocal
  dsimp only
  split
  · exact { role.installPage idx 0 with }
  · exact { role.installPage idx 0 with }

theorem serveQueuedRequest (role : CoordinatorRole T n) (req : PageRequest) :
    CoordinatorRole T (n.serveQueuedRequest req) := by
  simp only [Node.serveQueuedRequest, role.fd, ne_eq, not_true_eq_false, if_false]
  split
  · split
    · exact role.upgradeLocalCopy _
    · exact role
  · split
    · exact role.fetchFromOwner _ _ _ _ _
    · exact role.zeroFillLocal _ _

theorem handleSendPage (role : CoordinatorRole T n) (packet : DsmPacket Page)
    (sendPage : packet.type = .sendPage) : CoordinatorRole T (n.handleSendPage packet) := by
  unfold Node.handleSendPage
  dsimp only
  split
  · split
    · split
      · have owned := role.ownDroppingLocal packet.pageIndex
          (n.gpdPendingReqs packet.pageIndex).requesterNodeId
        unfold Node.replyToPendingWrite
        dsimp only
        split
        · exact (owned.setPending _ _).sendInvalidations _ _
        · exact owned.completePending packet sendPage
      · apply CoordinatorRole.completePending _ packet sendPage
        exact { role with }
    · exact role.acceptPage packet
  · exact role

theorem deferOrSend (role : CoordinatorRole T n) (clientFd : Int) (requestingNode : Nat)
    (mask : BitVec 64) (response : DsmPacket Page) (sendPage : response.type = .sendPage) :
    CoordinatorRole T (n.deferOrSend clientFd requestingNode mask response) := by
  unfold Node.deferOrSend
  dsimp only
  split
  · exact (role.setPending _ _).sendInvalidations _ _
  · exact role.sendAllNonblocking _ _ (Or.inl sendPage)

theorem handlePageRequest (role : CoordinatorRole T n) (clientFd : Int) (packet : DsmPacket Page)
    {n' : Node Page} (handled : n.handlePageRequest clientFd packet = some n') :
    CoordinatorRole T n' := by
  have registered : CoordinatorRole T (n.registerSender clientFd packet.senderNodeId) :=
    { role with }
  unfold Node.handlePageRequest at handled
  dsimp only at handled
  split at handled
  · split at handled
    · split at handled
      · cases handled
      · split at handled
        · cases handled
          apply CoordinatorRole.deferOrSend _ _ _ _ _ rfl
          exact { registered with }
        · cases handled
          apply CoordinatorRole.sendAllNonblocking _ _ _ (Or.inl rfl)
          split
          · exact { registered with }
          · exact { registered with }
    · split at handled
      · cases handled
        exact registered.fetchFromOwner _ _ _ _ _
      · cases handled
        unfold Node.serveZeroPage
        dsimp only
        split
        · exact (registered.ownDroppingLocal _ _).deferOrSend _ _ _ _ rfl
        · apply CoordinatorRole.sendAllNonblocking _ _ _ (Or.inl rfl)
          exact { registered with }
  · cases handled
    exact role

theorem dispatchPacket (role : CoordinatorRole T n) (clientFd : Int) {w : Nat}
    (packet : DsmPacket Page) (up : UpPacket w packet) {n' : Node Page}
    (handled : n.dispatchPacket clientFd packet = some n') : CoordinatorRole T n' := by
  unfold Node.dispatchPacket at handled
  split at handled
  · cases handled; exact { role with }
  next sendPage => cases handled; exact role.handleSendPage packet sendPage
  -- no worker sends the coordinator an invalidation
  next invalidate => exact absurd invalidate up.2
  · cases handled; exact role.handleInvalidateAck packet
  · exact role.handlePageRequest clientFd packet handled
  · exact role.handlePageRequest clientFd packet handled
  · cases handled; exact role

end CoordinatorRole

/-! ### A worker that may have lost its coordinator -/

namespace Node

/-- The node with another `coordinator_fd` and other pending transactions. -/
def reassigned (n : Node Page) (fd : Int) (slots : Nat → CoordPending Page) : Node Page :=
  { n with coordinatorFd := fd, gpdPendingReqs := slots }

/-! The fault handler and the eviction thread look at neither. -/

theorem handleFault_reassigned (n : Node Page) (fd : Int) (slots : Nat → CoordPending Page)
    (fault : PageRequest) :
    (n.reassigned fd slots).handleFault fault = (n.handleFault fault).reassigned fd slots := by
  unfold handleFault reassigned
  dsimp only
  split
  · rfl
  · simp only [queuePush, setStatus]
    by_cases full : n.sharedReqQueue.length = queueCapacity
    · simp only [full, if_true, Option.getD_none]
    · simp only [full, if_false, Option.getD_some]

theorem writeback_reassigned (n : Node Page) (fd : Int) (slots : Nat → CoordPending Page)
    (networkFd : Int) (idx : Nat) :
    (n.reassigned fd slots).writeback networkFd idx =
      (n.writeback networkFd idx).map fun written => written.reassigned fd slots := by
  unfold writeback reassigned
  dsimp only
  split
  · rw [Option.map_map]
    rfl
  · rfl

theorem evictionSweep_reassigned (n : Node Page) (fd : Int) (slots : Nat → CoordPending Page)
    (networkFd : Int) (iterations : Nat) :
    (n.reassigned fd slots).evictionSweep networkFd iterations =
      (n.evictionSweep networkFd iterations).map fun result =>
        (result.1.reassigned fd slots, result.2) := by
  induction iterations generalizing n with
  | zero => rfl
  | succ iterations ih =>
    simp only [evictionSweep]
    rw [show (n.reassigned fd slots).evictionRing = n.evictionRing from rfl,
      show (n.reassigned fd slots).clockHand = n.clockHand from rfl]
    split
    · exact ih
        { n with
          clockHand := (n.clockHand + 1) % n.numPages
          evictionRing := Function.update n.evictionRing n.clockHand
            { n.evictionRing n.clockHand with accessBit := 0 } }
    · split
      · exact ih { n with clockHand := (n.clockHand + 1) % n.numPages }
      · have written := writeback_reassigned { n with clockHand := (n.clockHand + 1) % n.numPages } fd
          slots networkFd (n.evictionRing n.clockHand).pageIndex
        rw [Option.map_map]
        refine (congrArg _ written).trans ?_
        rw [Option.map_map]
        rfl

/-- So they change neither. -/
theorem handleFault_role (n : Node Page) (fault : PageRequest) :
    (n.handleFault fault).coordinatorFd = n.coordinatorFd ∧
      (n.handleFault fault).gpdPendingReqs = n.gpdPendingReqs := by
  have same := handleFault_reassigned n n.coordinatorFd n.gpdPendingReqs fault
  rw [show n.reassigned n.coordinatorFd n.gpdPendingReqs = n from rfl] at same
  rw [same]
  exact ⟨rfl, rfl⟩

theorem evictionSweep_role {n : Node Page} {networkFd : Int} {iterations : Nat}
    {result : Node Page × Option Nat} (swept : n.evictionSweep networkFd iterations = some result) :
    result.1.coordinatorFd = n.coordinatorFd ∧ result.1.gpdPendingReqs = n.gpdPendingReqs := by
  have same := evictionSweep_reassigned n n.coordinatorFd n.gpdPendingReqs networkFd iterations
  rw [show n.reassigned n.coordinatorFd n.gpdPendingReqs = n from rfl, swept, Option.map_some] at same
  rw [Option.some.inj same]
  exact ⟨rfl, rfl⟩

end Node

/-- A node started with a coordinator address: connected to it or not, its directory and its
packets are a worker's. -/
structure WorkerRole (T : Topology) (w : Nat) (n : Node Page) : Prop where
  fd : n.coordinatorFd = T.connectFd w ∨ n.coordinatorFd = -1
  worker : WorkerOk T w (n.reassigned (T.connectFd w) n.gpdPendingReqs)

namespace WorkerRole

variable {T : Topology} {w : Nat} {n : Node Page}

theorem connected (role : WorkerRole T w n) (holds : n.coordinatorFd ≠ -1) : WorkerOk T w n := by
  have worker := role.worker
  rw [← role.fd.resolve_right holds] at worker
  exact worker

theorem ofConnected (ok : WorkerOk T w n) : WorkerRole T w n where
  fd := Or.inl ok.fd
  worker := by
    rw [← ok.fd]
    exact ok

theorem setMapping (role : WorkerRole T w n) (p : Nat) (m : Mapping Page) :
    WorkerRole T w (n.setMapping p m) := ⟨role.fd, role.worker.setMapping p m⟩

theorem setRequests (role : WorkerRole T w n) (queue waiting : List PageRequest)
    (fewer : ∀ req, req ∈ queue ∨ req ∈ waiting →
      req ∈ n.sharedReqQueue ∨ req ∈ n.uffdMessages) :
    WorkerRole T w { n with sharedReqQueue := queue, uffdMessages := waiting } :=
  ⟨role.fd, role.worker.setRequests queue waiting fewer⟩

theorem handleFault (role : WorkerRole T w n) (fault : PageRequest)
    (inRange : fault.pageIndex < T.numPages) : WorkerRole T w (n.handleFault fault) where
  fd := by
    rw [(n.handleFault_role fault).1]
    exact role.fd
  worker := by
    rw [(n.handleFault_role fault).2, ← Node.handleFault_reassigned]
    exact role.worker.handleFault fault inRange

theorem closeConnection (role : WorkerRole T w n) :
    WorkerRole T w (n.closeConnection (T.connectFd w)) where
  fd := by
    -- both close paths reset `coordinator_fd` if it is the descriptor that was closed
    right
    simp only [Node.closeConnection]
    split
    · rfl
    next other => exact role.fd.resolve_left fun same => other same.symm
  worker := { role.worker with }

theorem evictionSweep (role : WorkerRole T w n) (worker : w ∈ T.workers) (networkFd : Int)
    (iterations : Nat) {result : Node Page × Option Nat}
    (swept : n.evictionSweep networkFd iterations = some result) : WorkerRole T w result.1 where
  fd := by
    rw [(Node.evictionSweep_role swept).1]
    exact role.fd
  worker := by
    have reassigned := Node.evictionSweep_reassigned n (T.connectFd w) n.gpdPendingReqs networkFd
      iterations
    rw [swept, Option.map_some] at reassigned
    rw [(Node.evictionSweep_role swept).2]
    exact role.worker.evictionSweep worker networkFd iterations reassigned

end WorkerRole

/-! ### What failures leave of a well-formed cluster -/

structure RolesOk (T : Topology) (s : Cluster Page) : Prop where
  coordinator : CoordinatorRole T (s.node T.coordinator)
  workers : ∀ w ∈ T.workers, WorkerRole T w (s.node w)
  up : ∀ w ∈ T.workers, ∀ packet ∈ s.toCoordinator w, UpPacket w packet
  down : ∀ w ∈ T.workers, ∀ packet ∈ s.toWorker w, DownPacket T packet
  idle : ∀ n, (s.node n).effects = []

namespace RolesOk

variable {T : Topology} {s : Cluster Page}

/-- Packets may be lost. -/
theorem fewer (ok : RolesOk T s) {t : Cluster Page} (nodes : t.node = s.node)
    (up : ∀ w, t.toCoordinator w ⊆ s.toCoordinator w) (down : ∀ w, t.toWorker w ⊆ s.toWorker w) :
    RolesOk T t where
  coordinator := nodes ▸ ok.coordinator
  workers w worker := nodes ▸ ok.workers w worker
  up w worker packet member := ok.up w worker packet (up w member)
  down w worker packet member := ok.down w worker packet (down w member)
  idle n := nodes ▸ ok.idle n

/-- One node moves, and sends nothing. -/
theorem move (ok : RolesOk T s) {n : Nat} {node : Node Page}
    (coordinator : n = T.coordinator → CoordinatorRole T node)
    (worker : n ∈ T.workers → WorkerRole T n node) (quiet : node.effects = []) :
    RolesOk T { s with node := Function.update s.node n node } where
  coordinator := by
    by_cases same : T.coordinator = n
    · subst same; simpa using coordinator rfl
    · simpa [same] using ok.coordinator
  workers w member := by
    by_cases same : w = n
    · subst same; simpa using worker member
    · simpa [same] using ok.workers w member
  up := ok.up
  down := ok.down
  idle m := by
    by_cases same : m = n
    · subst same; simpa using quiet
    · simpa [same] using ok.idle m

/-- One node moves, and its sends join the links. -/
theorem settle (ok : RolesOk T s) {n : Nat} {node : Node Page}
    (coordinator : n = T.coordinator → CoordinatorRole T node)
    (worker : n ∈ T.workers → WorkerRole T n node) : RolesOk T (s.settle T n node) := by
  have silenced : RolesOk T
      { s with node := Function.update s.node n { node with effects := [] } } := by
    apply ok.move _ _ rfl
    · intro same
      exact { coordinator same with sends := by simp }
    · intro member
      have role := worker member
      exact ⟨role.fd, { role.worker with sends := by simp [Node.reassigned] }⟩
  refine { silenced with up := ?_, down := ?_ }
  · intro w member packet found
    simp only [Cluster.settle] at found
    split at found
    next own =>
      rcases List.mem_append.mp found with old | new
      · exact ok.up w member packet old
      · obtain ⟨-, rfl⟩ := own
        exact (worker member).worker.sends _ packet (mem_sentOn.mp new)
    · exact ok.up w member packet found
  · intro w member packet found
    simp only [Cluster.settle] at found
    split at found
    next own =>
      rcases List.mem_append.mp found with old | new
      · exact ok.down w member packet old
      · exact (coordinator own.2).sends _ packet (mem_sentOn.mp new)
    · exact ok.down w member packet found

theorem raise (ok : RolesOk T s) {n p : Nat} (isWrite : Bool) (inRange : p < T.numPages) :
    RolesOk T (s.raise n ⟨p, isWrite⟩) := by
  apply ok.move
  · rintro rfl
    exact { ok.coordinator with }
  · intro worker
    have role := ok.workers n worker
    refine ⟨role.fd, { role.worker with requests := fun req member => ?_ }⟩
    simp only [Node.reassigned, List.mem_append, List.mem_singleton] at member
    rcases member with queued | waiting | rfl
    · exact role.worker.requests req (Or.inl queued)
    · exact role.worker.requests req (Or.inr waiting)
    · exact inRange
  · exact ok.idle n

theorem popUp (ok : RolesOk T s) {w : Nat} {packet : DsmPacket Page}
    {rest : List (DsmPacket Page)} (head : s.toCoordinator w = packet :: rest) :
    RolesOk T { s with toCoordinator := Function.update s.toCoordinator w rest } :=
  ok.fewer rfl (fun _ _ found => Links.mem_of_pop head found) fun _ => List.Subset.refl _

theorem popDown (ok : RolesOk T s) {w : Nat} {packet : DsmPacket Page}
    {rest : List (DsmPacket Page)} (head : s.toWorker w = packet :: rest) :
    RolesOk T { s with toWorker := Function.update s.toWorker w rest } :=
  ok.fewer rfl (fun _ => List.Subset.refl _) fun _ _ found => Links.mem_of_pop head found

end RolesOk

end TeleportVM
