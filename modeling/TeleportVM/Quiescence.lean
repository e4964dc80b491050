import TeleportVM.FaultHandling
import TeleportVM.Residency
import TeleportVM.SlotTurns
import Mathlib.Algebra.Order.BigOperators.Group.Finset

/-!
The cluster comes to rest. Whatever is waiting or in flight, and in whatever order the threads
take it up, the handlers and the engines stop after a bounded number of steps once no program
faults any more.
-/
namespace TeleportVM

variable {Page : Type}

/-! ### What a packet can still cause -/

/-- The steps that a packet to the coordinator can lead to with `k` workers, its own included. A
request is passed on to the owner or answered by invalidations, and each of these is acknowledged
and may end in a page that is sent. -/
def upSteps (k : Nat) (packet : DsmPacket Page) : Nat :=
  match packet.type with
  | .requestPageRead | .requestPageWrite => 3 * k + 3
  | .sendPage => 3 * k + 1
  | .invalidateAck => 2
  | .nodeJoin | .invalidate | .other _ => 1

/-- The same for a packet to a worker. -/
def downSteps (k : Nat) (packet : DsmPacket Page) : Nat :=
  match packet.type with
  | .requestPageRead => 3 * k + 2
  | .invalidate => 3
  | .sendPage | .requestPageWrite | .nodeJoin | .invalidateAck | .other _ => 1

/-- The steps that the packets among these calls can lead to. -/
def sentSteps (steps : DsmPacket Page → Nat) (effects : List (Effect Page)) : Nat :=
  (effects.map fun
    | .send _ packet => steps packet
    | .uffdioCopy _ _ | .uffdioUnprotect _ => 0).sum

/-- The steps that the messages and requests of a node can lead to. -/
def Node.waitingSteps (k : Nat) (n : Node Page) : Nat :=
  (3 * k + 5) * n.uffdMessages.length + (3 * k + 4) * n.sharedReqQueue.length

namespace Cluster

/-- The steps that the packets between the coordinator and a worker can lead to. -/
def linkSteps (k : Nat) (s : Cluster Page) (w : Nat) : Nat :=
  ((s.toCoordinator w).map (upSteps k)).sum + ((s.toWorker w).map (downSteps k)).sum

/-- The steps that all that is waiting or in flight can lead to. -/
def remainingSteps (T : Topology) (s : Cluster Page) : Nat :=
  ∑ n ∈ T.nodes, (s.node n).waitingSteps T.workers.card +
    ∑ w ∈ T.workers, s.linkSteps T.workers.card w

/-- The fault messages, the queued requests and the packets in flight. -/
def outstanding (T : Topology) (s : Cluster Page) : Nat :=
  ∑ n ∈ T.nodes, ((s.node n).uffdMessages.length + (s.node n).sharedReqQueue.length) +
    ∑ w ∈ T.workers, ((s.toCoordinator w).length + (s.toWorker w).length)

end Cluster

section Sums

variable (steps : DsmPacket Page → Nat)

@[simp] theorem sentSteps_nil : sentSteps steps [] = 0 := rfl

@[simp] theorem sentSteps_append (effects more : List (Effect Page)) :
    sentSteps steps (effects ++ more) = sentSteps steps effects + sentSteps steps more := by
  simp [sentSteps]

@[simp] theorem sentSteps_send (fd : Int) (packet : DsmPacket Page) :
    sentSteps steps [.send fd packet] = steps packet := by simp [sentSteps]

@[simp] theorem sentSteps_copy (p : Nat) (page : Page) :
    sentSteps steps [.uffdioCopy p page] = 0 := rfl

@[simp] theorem sentSteps_unprotect (p : Nat) :
    sentSteps steps ([.uffdioUnprotect p] : List (Effect Page)) = 0 := rfl

theorem sentSteps_invalidations [Zero Page] (k p : Nat) (fds : Nat → Int) (targets : List Nat) :
    sentSteps (downSteps k) (targets.map fun m =>
      Effect.send (fds m) (Node.invalidatePacket p : DsmPacket Page)) = 3 * targets.length := by
  induction targets with
  | nil => rfl
  | cons m rest ih =>
    rw [List.map_cons, ← List.singleton_append, sentSteps_append, ih, sentSteps_send]
    simp only [downSteps, Node.invalidatePacket, List.length_cons]
    omega

/-- Packets on different descriptors are different packets. -/
theorem sum_sentOn_le {workers : Finset Nat} {fd : Nat → Int}
    (apart : ∀ v ∈ workers, ∀ w ∈ workers, fd v = fd w → v = w) (effects : List (Effect Page)) :
    ∑ w ∈ workers, ((sentOn (fd w) effects).map steps).sum ≤ sentSteps steps effects := by
  induction effects with
  | nil => simp [sentOn]
  | cons effect effects ih =>
    cases effect with
    | uffdioCopy | uffdioUnprotect => simpa [sentSteps, sentOn] using ih
    | send f packet =>
      have split (w : Nat) : ((sentOn (fd w) (.send f packet :: effects)).map steps).sum =
          (if f = fd w then steps packet else 0) + ((sentOn (fd w) effects).map steps).sum := by
        by_cases own : f = fd w <;> simp [sentOn, own]
      -- at most one worker is at the other end
      have one : ∑ w ∈ workers, (if f = fd w then steps packet else 0) ≤ steps packet := by
        by_cases found : ∃ w ∈ workers, f = fd w
        · obtain ⟨w, worker, rfl⟩ := found
          rw [Finset.sum_eq_single_of_mem w worker]
          · rw [if_pos rfl]
          · exact fun v other different => if_neg fun same =>
              different (apart v other w worker same.symm)
        · rw [Finset.sum_eq_zero]
          · exact Nat.zero_le _
          · exact fun w worker => if_neg fun same => found ⟨w, worker, same⟩
      have whole : sentSteps steps (.send f packet :: effects) =
          steps packet + sentSteps steps effects := by simp [sentSteps]
      rw [Finset.sum_congr rfl fun w _ => split w, Finset.sum_add_distrib, whole]
      omega

/-- Two sums that differ in one term. -/
theorem sum_change {s : Finset Nat} {f g : Nat → Nat} {a : Nat} (member : a ∈ s)
    (same : ∀ b ∈ s, b ≠ a → g b = f b) : ∑ b ∈ s, g b + f a = ∑ b ∈ s, f b + g a := by
  rw [← Finset.add_sum_erase s f member, ← Finset.add_sum_erase s g member]
  have rest : ∑ b ∈ s.erase a, g b = ∑ b ∈ s.erase a, f b :=
    Finset.sum_congr rfl fun b inside => same b (Finset.mem_of_mem_erase inside)
      (Finset.ne_of_mem_erase inside)
  omega

end Sums

/-! ### What a handler of the coordinator sends -/

namespace Node

/-- The steps that the packets sent since the node last gave up its thread can lead to. -/
def spentSteps (k : Nat) (n : Node Page) : Nat := sentSteps (downSteps k) n.effects

section Spent

variable (k : Nat) (n : Node Page) (p r : Nat)

@[simp] theorem spentSteps_send (fd : Int) (packet : DsmPacket Page) :
    (n.sendAllNonblocking fd packet).spentSteps k = n.spentSteps k + downSteps k packet := by
  simp [spentSteps, sendAllNonblocking]

@[simp] theorem spentSteps_installPage (page : Page) :
    (n.installPage p page).spentSteps k = n.spentSteps k := by
  simp [spentSteps, installPage, dsmMarkAccessed]

@[simp] theorem spentSteps_liftWriteProtection :
    (n.liftWriteProtection p).spentSteps k = n.spentSteps k := by
  simp [spentSteps, liftWriteProtection]

@[simp] theorem spentSteps_dsmMarkAccessed :
    (n.dsmMarkAccessed p).spentSteps k = n.spentSteps k := rfl

@[simp] theorem spentSteps_setPending (slot : CoordPending Page) :
    (n.setPending p slot).spentSteps k = n.spentSteps k := rfl

@[simp] theorem spentSteps_registerSender (fd : Int) :
    (n.registerSender fd r).spentSteps k = n.spentSteps k := rfl

@[simp] theorem spentSteps_transitionToModified :
    (n.transitionToModified p r).1.spentSteps k = n.spentSteps k := rfl

@[simp] theorem spentSteps_transitionToShared :
    (n.transitionToShared p r).1.spentSteps k = n.spentSteps k := rfl

@[simp] theorem spentSteps_invalidateLocalPageCopy :
    (n.invalidateLocalPageCopy p).spentSteps k = n.spentSteps k := rfl

@[simp] theorem spentSteps_writeprotectLocalPageCopy :
    (n.writeprotectLocalPageCopy p).spentSteps k = n.spentSteps k := rfl

@[simp] theorem spentSteps_sendInvalidations [Zero Page] (targets : List Nat) :
    (n.sendInvalidations p targets).spentSteps k = n.spentSteps k + 3 * targets.length := by
  simp [spentSteps, sendInvalidations, sentSteps_invalidations]

@[simp] theorem spentSteps_ownDroppingLocal :
    (n.ownDroppingLocal p r).1.spentSteps k = n.spentSteps k := by
  unfold ownDroppingLocal
  dsimp only
  split <;> rfl

end Spent

variable {workers : Finset Nat} {n : Node Page}

/-- A node invalidates no more nodes than it is connected to. -/
theorem length_connectedIn_le (fds : ∀ m, n.nodeFds m ≠ -1 → m ∈ workers) (mask : BitVec 64) :
    (n.connectedIn mask).length ≤ workers.card := by
  rw [← List.toFinset_card_of_nodup (n.connectedIn_nodup mask)]
  refine Finset.card_le_card fun m member => ?_
  exact fds m (n.connectedIn_connected mask m (List.mem_toFinset.mp member))

theorem length_targets_le (fds : ∀ m, n.nodeFds m ≠ -1 → m ∈ workers) (mask : BitVec 64)
    (r : Nat) : ((n.connectedIn mask).filter (· ≠ r)).length ≤ workers.card :=
  (List.length_filter_le _ _).trans (length_connectedIn_le fds mask)

theorem spentSteps_completePending (k : Nat) {packet : DsmPacket Page}
    (kind : packet.type = .sendPage) :
    (n.completePending packet).spentSteps k ≤ n.spentSteps k + 1 := by
  unfold completePending
  dsimp only
  split <;> simp [downSteps, kind]

theorem spentSteps_acceptPage (k : Nat) (packet : DsmPacket Page) :
    (n.acceptPage packet).spentSteps k = n.spentSteps k := by
  unfold acceptPage
  dsimp only
  split <;> simp

theorem spentSteps_grantDeferred (k p : Nat) :
    (n.grantDeferred p).spentSteps k ≤ n.spentSteps k + 1 := by
  unfold grantDeferred
  dsimp only
  split
  · split <;> simp
  · simp [downSteps]

theorem spentSteps_handleInvalidateAck (k : Nat) (packet : DsmPacket Page) :
    (n.handleInvalidateAck packet).spentSteps k ≤ n.spentSteps k + 1 := by
  unfold handleInvalidateAck
  dsimp only
  split
  · split
    · split
      · exact spentSteps_grantDeferred k _
      · simp
    · exact Nat.le_succ _
  · exact Nat.le_succ _

section Coordinator

variable [Zero Page] (fds : ∀ m, n.nodeFds m ≠ -1 → m ∈ workers)
include fds

theorem spentSteps_upgradeLocalCopy (p : Nat) :
    (n.upgradeLocalCopy p).spentSteps workers.card ≤ n.spentSteps workers.card + 3 * workers.card := by
  have few := length_connectedIn_le (n := (n.transitionToModified p n.localNodeId).1) fds
    (n.transitionToModified p n.localNodeId).2
  unfold upgradeLocalCopy
  dsimp only
  split
  · simp only [spentSteps_sendInvalidations, spentSteps_setPending, spentSteps_transitionToModified]
    omega
  · simp

theorem spentSteps_deferOrSend (someone : 0 < workers.card) (fd : Int) (r : Nat) (mask : BitVec 64)
    {response : DsmPacket Page} (kind : response.type = .sendPage) :
    (n.deferOrSend fd r mask response).spentSteps workers.card ≤
      n.spentSteps workers.card + 3 * workers.card := by
  have few := length_targets_le fds mask r
  unfold deferOrSend
  dsimp only
  split
  · simp only [spentSteps_sendInvalidations, spentSteps_setPending]
    omega
  · simp only [spentSteps_send, downSteps, kind]
    omega

omit [Zero Page] fds in
theorem nodeFds_ownDroppingLocal (p r : Nat) : (n.ownDroppingLocal p r).1.nodeFds = n.nodeFds := by
  unfold ownDroppingLocal
  dsimp only
  split <;> rfl

theorem spentSteps_replyToPendingWrite (someone : 0 < workers.card) {packet : DsmPacket Page}
    (kind : packet.type = .sendPage) :
    (n.replyToPendingWrite packet).spentSteps workers.card ≤
      n.spentSteps workers.card + 3 * workers.card := by
  have few := length_targets_le (n := (n.ownDroppingLocal packet.pageIndex
    (n.gpdPendingReqs packet.pageIndex).requesterNodeId).1)
    (by rw [nodeFds_ownDroppingLocal]; exact fds) (n.ownDroppingLocal packet.pageIndex
      (n.gpdPendingReqs packet.pageIndex).requesterNodeId).2
    (n.gpdPendingReqs packet.pageIndex).requesterNodeId
  unfold replyToPendingWrite
  dsimp only
  split
  · simp only [spentSteps_sendInvalidations, spentSteps_setPending, spentSteps_ownDroppingLocal]
    omega
  · refine (spentSteps_completePending _ kind).trans ?_
    rw [spentSteps_ownDroppingLocal]
    omega

/-- A page that comes in is passed on, or its other holders are invalidated first. -/
theorem spentSteps_handleSendPage (someone : 0 < workers.card) {packet : DsmPacket Page}
    (kind : packet.type = .sendPage) :
    (n.handleSendPage packet).spentSteps workers.card ≤
      n.spentSteps workers.card + 3 * workers.card := by
  unfold handleSendPage
  dsimp only
  split
  · split
    · split
      · exact spentSteps_replyToPendingWrite fds someone kind
      · have granted := spentSteps_completePending (n := (n.transitionToShared packet.pageIndex
          (n.gpdPendingReqs packet.pageIndex).requesterNodeId).1) workers.card kind
        rw [spentSteps_transitionToShared] at granted
        omega
    · rw [spentSteps_acceptPage]
      exact Nat.le_add_right _ _
  · exact Nat.le_add_right _ _

/-- A request is passed on to the owner, or answered. -/
theorem spentSteps_handlePageRequest (someone : 0 < workers.card) {fd : Int}
    {packet : DsmPacket Page} (sender : packet.senderNodeId ∈ workers) {n' : Node Page}
    (handled : n.handlePageRequest fd packet = some n') :
    n'.spentSteps workers.card ≤ n.spentSteps workers.card + (3 * workers.card + 2) := by
  have registered : ∀ m, (n.registerSender fd packet.senderNodeId).nodeFds m ≠ -1 → m ∈ workers := by
    intro m connected
    by_cases own : m = packet.senderNodeId
    · exact own ▸ sender
    · apply fds
      simp only [registerSender] at connected
      split at connected
      · rwa [Function.update_of_ne own] at connected
      · exact connected
  unfold handlePageRequest at handled
  dsimp only at handled
  split at handled
  · split at handled
    · split at handled
      · cases handled
      · split at handled
        · cases handled
          refine (spentSteps_deferOrSend (by exact registered) someone _ _ _ rfl).trans ?_
          rw [spentSteps_invalidateLocalPageCopy, spentSteps_transitionToModified,
            spentSteps_registerSender]
          omega
        · cases handled
          unfold serveReadFromCopy
          dsimp only
          split
          · simp only [spentSteps_send, spentSteps_writeprotectLocalPageCopy,
              spentSteps_transitionToShared, spentSteps_registerSender, downSteps]
            omega
          · simp only [spentSteps_send, spentSteps_transitionToShared, spentSteps_registerSender,
              downSteps]
            omega
    · split at handled
      · cases handled
        simp [fetchFromOwner, downSteps]
      · cases handled
        unfold serveZeroPage
        dsimp only
        split
        · refine (spentSteps_deferOrSend (by rw [nodeFds_ownDroppingLocal]; exact registered)
            someone _ _ _ rfl).trans ?_
          rw [spentSteps_ownDroppingLocal, spentSteps_registerSender]
          omega
        · simp only [spentSteps_send, spentSteps_transitionToShared, spentSteps_registerSender,
            downSteps]
          omega
  · cases handled
    exact Nat.le_add_right _ _

end Coordinator

variable [Zero Page]

theorem sharedReqQueue_serveQueuedRequest (n : Node Page) (req : PageRequest) :
    (n.serveQueuedRequest req).sharedReqQueue = n.sharedReqQueue :=
  congrArg NodeElsewhere.sharedReqQueue (elsewhere_serveQueuedRequest n req)

/-- A packet leaves the queue of page requests alone. -/
theorem sharedReqQueue_dispatchPacket {fd : Int} {packet : DsmPacket Page} {n' : Node Page}
    (handled : n.dispatchPacket fd packet = some n') : n'.sharedReqQueue = n.sharedReqQueue := by
  have request (handled : n.handlePageRequest fd packet = some n') :
      n'.sharedReqQueue = n.sharedReqQueue := by
    have same := congrArg NodeElsewhere.sharedReqQueue (elsewhere_handlePageRequest n fd packet handled)
    split at same <;> exact same
  unfold dispatchPacket at handled
  split at handled
  · cases handled; rfl
  · cases handled; exact congrArg NodeElsewhere.sharedReqQueue (elsewhere_handleSendPage n packet)
  · cases handled; exact congrArg NodeElsewhere.sharedReqQueue (elsewhere_handleInvalidate n fd packet)
  · cases handled; exact congrArg NodeElsewhere.sharedReqQueue (elsewhere_handleInvalidateAck n packet)
  · exact request handled
  · exact request handled
  · cases handled; rfl

theorem waitingSteps_serveQueuedRequest (k : Nat) (n : Node Page) (req : PageRequest) :
    (n.serveQueuedRequest req).waitingSteps k = n.waitingSteps k := by
  rw [waitingSteps, waitingSteps, uffdMessages_serveQueuedRequest, sharedReqQueue_serveQueuedRequest]

theorem waitingSteps_dispatchPacket (k : Nat) {fd : Int} {packet : DsmPacket Page} {n' : Node Page}
    (handled : n.dispatchPacket fd packet = some n') : n'.waitingSteps k = n.waitingSteps k := by
  rw [waitingSteps, waitingSteps, uffdMessages_dispatchPacket n fd handled,
    sharedReqQueue_dispatchPacket handled]

omit [Zero Page] in
/-- The fault handler queues at most one request. -/
theorem waitingSteps_handleFault (k : Nat) (n : Node Page) (fault : PageRequest) :
    (n.handleFault fault).waitingSteps k ≤ n.waitingSteps k + (3 * k + 4) := by
  unfold handleFault queuePush waitingSteps
  dsimp only
  split
  · exact Nat.le_add_right _ _
  · split
    · exact Nat.le_add_right _ _
    · simp only [Option.getD_some, setStatus, List.length_append, List.length_singleton]
      rw [Nat.mul_succ]
      omega

end Node

/-! ### One step -/

section Step

variable [Zero Page] {T : Topology} {n n' : Node Page}

omit [Zero Page] in
theorem CoordinatorOk.connected (ok : CoordinatorOk T n) : ∀ m, n.nodeFds m ≠ -1 → m ∈ T.workers :=
  fun m connected => ((ok.fds m).resolve_left connected).1

/-- What the coordinator sends for a packet leads to fewer steps than the packet could. -/
theorem CoordinatorOk.spentSteps_dispatchPacket (ok : CoordinatorOk T n) {w : Nat}
    (worker : w ∈ T.workers) {packet : DsmPacket Page} (up : UpPacket w packet) {fd : Int}
    (handled : n.dispatchPacket fd packet = some n') :
    n'.spentSteps T.workers.card + 1 ≤
      n.spentSteps T.workers.card + upSteps T.workers.card packet := by
  have someone : 0 < T.workers.card := Finset.card_pos.mpr ⟨w, worker⟩
  have sender : packet.senderNodeId ∈ T.workers := up.1.symm ▸ worker
  unfold Node.dispatchPacket at handled
  cases kind : packet.type with
  | nodeJoin =>
    rw [kind] at handled
    cases handled
    simp only [upSteps, kind, Node.handleNodeJoin, Node.spentSteps_registerSender, le_refl]
  | sendPage =>
    rw [kind] at handled
    cases handled
    have sent := Node.spentSteps_handleSendPage ok.connected someone kind
    simp only [upSteps, kind]
    omega
  | invalidate => exact absurd kind up.2
  | invalidateAck =>
    rw [kind] at handled
    cases handled
    have sent := Node.spentSteps_handleInvalidateAck (n := n) T.workers.card packet
    simp only [upSteps, kind]
    omega
  | requestPageRead | requestPageWrite =>
    rw [kind] at handled
    have sent := Node.spentSteps_handlePageRequest ok.connected someone sender handled
    simp only [upSteps, kind]
    omega
  | other =>
    rw [kind] at handled
    cases handled
    simp only [upSteps, kind, le_refl]

/-- So does what a worker sends: an acknowledgement, or its copy of the page. -/
theorem WorkerOk.sentSteps_dispatchPacket {w : Nat} (ok : WorkerOk T w n) (worker : w ∈ T.workers)
    (quiet : n.effects = []) {packet : DsmPacket Page} (down : DownPacket T packet) {fd : Int}
    (handled : n.dispatchPacket fd packet = some n') :
    sentSteps (upSteps T.workers.card) n'.effects + 1 ≤ downSteps T.workers.card packet := by
  cases ok.takes worker down handled with
  | outside =>
    rw [quiet]
    rcases down with kind | kind | ⟨kind, -⟩
    all_goals simp [downSteps, kind]
  | page kind inside =>
    unfold Node.acceptPage
    dsimp only
    split <;>
      simp [quiet, downSteps, kind, Node.installPage, Node.liftWriteProtection, Node.dsmMarkAccessed]
  | invalidate kind inside =>
    simp [quiet, downSteps, upSteps, kind, Node.sendAllNonblocking, Node.setStatus, Node.setMapping]
  | fetch kind inside page source =>
    simp [quiet, downSteps, upSteps, kind, Node.sendAllNonblocking, Node.transitionToShared,
      Node.registerSender]

/-- A queued request is passed on to the coordinator or, there, to the owner or the sharers. -/
theorem sentSteps_serveQueuedRequest {s : Cluster Page} (ok : ClusterOk T s) {m : Nat}
    (member : m ∈ T.nodes) (n : Node Page) (quiet : n.effects = [])
    (fds : n.nodeFds = (s.node m).nodeFds) (role : n.coordinatorFd = (s.node m).coordinatorFd)
    (req : PageRequest) :
    sentSteps ((if m = T.coordinator then downSteps else upSteps) T.workers.card)
      (n.serveQueuedRequest req).effects ≤ 3 * T.workers.card + 3 := by
  by_cases coordinator : m = T.coordinator
  · subst coordinator
    rw [if_pos rfl]
    have connected : ∀ m, n.nodeFds m ≠ -1 → m ∈ T.workers := by
      rw [fds]
      exact ok.coordinator.connected
    have silent : n.spentSteps T.workers.card = 0 := by simp [Node.spentSteps, quiet]
    have alone : n.coordinatorFd = -1 := role.trans ok.coordinator.fd
    show (n.serveQueuedRequest req).spentSteps T.workers.card ≤ _
    simp only [Node.serveQueuedRequest, alone, ne_eq, not_true_eq_false, if_false]
    split
    · split
      · have sent := Node.spentSteps_upgradeLocalCopy connected req.pageIndex
        omega
      · omega
    · split
      · simp only [Node.fetchFromOwner, Node.spentSteps_send, Node.spentSteps_setPending, downSteps]
        omega
      · unfold Node.zeroFillLocal
        dsimp only
        split
        · simp [silent]
        · simp [silent]
  · have worker := (Finset.mem_insert.mp member).resolve_left coordinator
    have connected : n.coordinatorFd ≠ -1 := role ▸ (ok.workers m worker).connected worker
    rw [if_neg coordinator]
    simp only [Node.serveQueuedRequest, connected, ne_eq, not_false_eq_true, if_true,
      Node.sendAllNonblocking, quiet, List.nil_append, sentSteps_send]
    unfold Node.requestType
    split <;> exact le_refl _

end Step

namespace Cluster

variable {T : Topology} {s t : Cluster Page}

/-- A node that gives up its thread leaves what still waits there, and what it has sent. -/
theorem remainingSteps_settle {n : Nat} (member : n ∈ T.nodes) (node : Node Page) :
    (s.settle T n node).remainingSteps T + (s.node n).waitingSteps T.workers.card ≤
      s.remainingSteps T + node.waitingSteps T.workers.card +
        sentSteps ((if n = T.coordinator then downSteps else upSteps) T.workers.card)
          node.effects := by
  have waiting := sum_change (f := fun m => (s.node m).waitingSteps T.workers.card)
    (g := fun m => ((s.settle T n node).node m).waitingSteps T.workers.card) member
    fun m _ other => by simp [settle, other]
  have own : ((s.settle T n node).node n).waitingSteps T.workers.card =
      node.waitingSteps T.workers.card := by
    simp [settle, Node.waitingSteps]
  suffices sent : ∑ w ∈ T.workers, (s.settle T n node).linkSteps T.workers.card w ≤
      ∑ w ∈ T.workers, s.linkSteps T.workers.card w +
        sentSteps ((if n = T.coordinator then downSteps else upSteps) T.workers.card)
          node.effects by
    unfold remainingSteps
    omega
  rcases Finset.mem_insert.mp member with rfl | worker
  · -- the coordinator has a link to every worker
    rw [if_pos rfl]
    have each (w : Nat) (worker : w ∈ T.workers) :
        (s.settle T T.coordinator node).linkSteps T.workers.card w =
          s.linkSteps T.workers.card w +
            ((sentOn (T.acceptedFd w) node.effects).map (downSteps T.workers.card)).sum := by
      simp only [linkSteps, settle, worker, T.ne_coordinator worker, and_false, if_false, and_self,
        if_true, List.map_append, List.sum_append]
      omega
    rw [Finset.sum_congr rfl each, Finset.sum_add_distrib]
    exact Nat.add_le_add_left (sum_sentOn_le _ T.acceptedFd_injective node.effects) _
  · rw [if_neg (T.ne_coordinator worker)]
    have change := sum_change (f := s.linkSteps T.workers.card)
      (g := (s.settle T n node).linkSteps T.workers.card) worker fun w _ other => by
        simp [linkSteps, settle, other, T.ne_coordinator worker]
    have more : (s.settle T n node).linkSteps T.workers.card n = s.linkSteps T.workers.card n +
        ((sentOn (T.connectFd n) node.effects).map (upSteps T.workers.card)).sum := by
      simp only [linkSteps, settle, worker, T.ne_coordinator worker, and_self, and_false, if_true,
        if_false, List.map_append, List.sum_append]
      omega
    -- and the worker has one, to the coordinator
    have alone : ∀ v ∈ ({n} : Finset Nat), ∀ w ∈ ({n} : Finset Nat),
        T.connectFd v = T.connectFd w → v = w := fun v first w second _ => by
      rw [Finset.mem_singleton.mp first, Finset.mem_singleton.mp second]
    have sent := sum_sentOn_le (upSteps T.workers.card) alone node.effects
    rw [Finset.sum_singleton] at sent
    omega

theorem remainingSteps_popUp {w : Nat} (worker : w ∈ T.workers) {packet : DsmPacket Page}
    {rest : List (DsmPacket Page)} (head : s.toCoordinator w = packet :: rest) :
    ({ s with toCoordinator := Function.update s.toCoordinator w rest } : Cluster Page).remainingSteps T +
      upSteps T.workers.card packet = s.remainingSteps T := by
  have change := sum_change (f := s.linkSteps T.workers.card)
    (g := ({ s with toCoordinator := Function.update s.toCoordinator w rest } :
      Cluster Page).linkSteps T.workers.card) worker fun v _ other => by simp [linkSteps, other]
  have own : s.linkSteps T.workers.card w = upSteps T.workers.card packet +
      ({ s with toCoordinator := Function.update s.toCoordinator w rest } :
        Cluster Page).linkSteps T.workers.card w := by
    simp only [linkSteps, head, List.map_cons, List.sum_cons, Function.update_self]
    omega
  unfold remainingSteps
  dsimp only
  omega

theorem remainingSteps_popDown {w : Nat} (worker : w ∈ T.workers) {packet : DsmPacket Page}
    {rest : List (DsmPacket Page)} (head : s.toWorker w = packet :: rest) :
    ({ s with toWorker := Function.update s.toWorker w rest } : Cluster Page).remainingSteps T +
      downSteps T.workers.card packet = s.remainingSteps T := by
  have change := sum_change (f := s.linkSteps T.workers.card)
    (g := ({ s with toWorker := Function.update s.toWorker w rest } :
      Cluster Page).linkSteps T.workers.card) worker fun v _ other => by simp [linkSteps, other]
  have own : s.linkSteps T.workers.card w = downSteps T.workers.card packet +
      ({ s with toWorker := Function.update s.toWorker w rest } :
        Cluster Page).linkSteps T.workers.card w := by
    simp only [linkSteps, head, List.map_cons, List.sum_cons, Function.update_self]
    omega
  unfold remainingSteps
  dsimp only
  omega

variable [Zero Page]

/-- Every step of a handler or an engine leaves fewer steps to do. -/
theorem remainingSteps_step (ok : ClusterOk T s) {e : Event Page} (handling : e.isHandling = true)
    (next : s.step T e = some t) : t.remainingSteps T < s.remainingSteps T := by
  cases e with
  | load | store | evict => cases handling
  | fault n =>
    obtain ⟨member, fault, rest, waiting, rfl⟩ := faultStep_cases next
    have settled := remainingSteps_settle (s := s) member
      ({ s.node n with uffdMessages := rest }.handleFault fault)
    obtain ⟨-, effects⟩ := Node.handleFault_rest { s.node n with uffdMessages := rest } fault
    have queued := Node.waitingSteps_handleFault T.workers.card { s.node n with uffdMessages := rest }
      fault
    rw [effects, ok.idle n, sentSteps_nil] at settled
    have taken : (s.node n).waitingSteps T.workers.card = (3 * T.workers.card + 5) +
        ({ s.node n with uffdMessages := rest } : Node Page).waitingSteps T.workers.card := by
      simp only [Node.waitingSteps, waiting, List.length_cons, Nat.mul_succ]
      omega
    omega
  | drain n =>
    obtain ⟨member, req, rest, waiting, rfl⟩ := drainStep_cases next
    have settled := remainingSteps_settle (s := s) member
      ({ s.node n with sharedReqQueue := rest }.serveQueuedRequest req)
    have sent := sentSteps_serveQueuedRequest ok member { s.node n with sharedReqQueue := rest }
      (ok.idle n) rfl rfl req
    rw [Node.waitingSteps_serveQueuedRequest] at settled
    have taken : (s.node n).waitingSteps T.workers.card = (3 * T.workers.card + 4) +
        ({ s.node n with sharedReqQueue := rest } : Node Page).waitingSteps T.workers.card := by
      simp only [Node.waitingSteps, waiting, List.length_cons, Nat.mul_succ]
      omega
    omega
  | toCoordinator w =>
    obtain ⟨worker, packet, rest, node, head, handled, rfl⟩ := toCoordinatorStep_cases next
    have settled := remainingSteps_settle
      (s := { s with toCoordinator := Function.update s.toCoordinator w rest }) T.coordinator_mem node
    dsimp only at settled
    have popped := remainingSteps_popUp worker head
    have sent := ok.coordinator.spentSteps_dispatchPacket worker
      (ok.up w worker packet (by simp [head])) handled
    rw [if_pos rfl, Node.waitingSteps_dispatchPacket _ handled] at settled
    simp only [Node.spentSteps, ok.idle, sentSteps_nil] at sent
    omega
  | toWorker w =>
    obtain ⟨worker, packet, rest, node, head, handled, rfl⟩ := toWorkerStep_cases next
    have settled := remainingSteps_settle
      (s := { s with toWorker := Function.update s.toWorker w rest }) (T.worker_mem worker) node
    dsimp only at settled
    have popped := remainingSteps_popDown worker head
    have sent := (ok.workers w worker).sentSteps_dispatchPacket worker (ok.idle w)
      (ok.down w worker packet (by simp [head])) handled
    rw [if_neg (T.ne_coordinator worker), Node.waitingSteps_dispatchPacket _ handled] at settled
    omega

omit [Zero Page] in
/-- A waiting message or packet leads to a bounded number of steps. -/
theorem remainingSteps_le (T : Topology) (s : Cluster Page) :
    s.remainingSteps T ≤ (3 * T.workers.card + 5) * s.outstanding T := by
  have packets (steps : DsmPacket Page → Nat) (bound : ∀ packet, steps packet ≤ 3 * T.workers.card + 5)
      (link : List (DsmPacket Page)) : (link.map steps).sum ≤ (3 * T.workers.card + 5) * link.length := by
    induction link with
    | nil => exact Nat.zero_le _
    | cons packet link ih =>
      have first := bound packet
      rw [List.map_cons, List.sum_cons, List.length_cons, Nat.mul_succ]
      omega
  have up := packets (upSteps T.workers.card) fun packet => by
    unfold upSteps
    split <;> omega
  have down := packets (downSteps T.workers.card) fun packet => by
    unfold downSteps
    split <;> omega
  unfold remainingSteps outstanding
  rw [Nat.mul_add, Finset.mul_sum, Finset.mul_sum]
  refine Nat.add_le_add (Finset.sum_le_sum fun n _ => ?_) (Finset.sum_le_sum fun w _ => ?_)
  · rw [Nat.mul_add]
    exact Nat.add_le_add_left (Nat.mul_le_mul_right _ (Nat.le_succ _)) _
  · rw [Nat.mul_add]
    exact Nat.add_le_add (up _) (down _)

end Cluster

/-! ### No step is ever stuck -/

section Progress

variable [Zero Page] {T : Topology} {s t : Cluster Page}

/-- A node that maps every page it calls present answers every packet. -/
theorem Node.dispatchPacket_returns {n : Node Page} (truthful : ∀ p, (n.residence p).Truthful)
    (fd : Int) (packet : DsmPacket Page) : ∃ n', n.dispatchPacket fd packet = some n' := by
  have request : ∃ n', n.handlePageRequest fd packet = some n' := by
    unfold handlePageRequest
    dsimp only
    split
    · split
      next valid =>
        obtain ⟨page, copied⟩ :=
          (Mapping.isMapped_iff _).mp (truthful packet.pageIndex (Or.inl valid))
        have contents : ((n.registerSender fd packet.senderNodeId).mapping
            packet.pageIndex).contents = some page := copied
        rw [contents]
        dsimp only
        split <;> exact ⟨_, rfl⟩
      · split <;> exact ⟨_, rfl⟩
    · exact ⟨_, rfl⟩
  unfold dispatchPacket
  split
  all_goals first | exact request | exact ⟨_, rfl⟩

theorem Node.truthful_dispatchPacket {n n' : Node Page} (truthful : ∀ p, (n.residence p).Truthful)
    {fd : Int} {packet : DsmPacket Page} (handled : n.dispatchPacket fd packet = some n') :
    ∀ p, (n'.residence p).Truthful := by
  rw [← dispatchPacket_sections] at handled
  obtain ⟨begun, received, rfl⟩ := Option.map_eq_some_iff.mp handled
  intro p
  have first := (changes_takesPacket n (takesPacket received) p).truthful (truthful p)
  rcases begun with ⟨n', none | task⟩
  · exact first
  · exact (changes_perform n' task p).truthful first

/-- Without evictions every page that a node calls present is mapped there. -/
theorem Cluster.truthful_of_run {allow : Cluster Page → Event Page → Prop}
    (kept : ∀ s e, allow s e → e.isEviction = false)
    (run : Runs.Run (Cluster.step T) allow (.initial T) s) :
    ∀ n p, ((s.node n).residence p).Truthful := by
  refine run.invariant (fun s => ∀ n p, ((s.node n).residence p).Truthful) ?_ ?_
  · intro n p present
    rcases present with absurdity | absurdity <;> cases absurdity
  · intro s e t truthful allowed next n p
    -- only the node that moved may have changed
    have settled {s' : Cluster Page} {m : Nat} {node : Node Page} (others : s'.node = s.node)
        (good : ∀ p, (node.residence p).Truthful) :
        (((s'.settle T m node).node n).residence p).Truthful := by
      by_cases own : n = m
      · subst own
        simp only [Cluster.settle, Function.update_self]
        exact good p
      · simpa [Cluster.settle, own, others] using truthful n p
    have raised {m : Nat} {fault : PageRequest} :
        (((s.raise m fault).node n).residence p).Truthful := by
      by_cases own : n = m
      · subst own
        simp only [Cluster.raise, Function.update_self]
        exact truthful n p
      · simpa [Cluster.raise, own] using truthful n p
    cases e with
    | load m q =>
      obtain ⟨-, -, ⟨-, rfl⟩ | ⟨-, rfl⟩⟩ := Cluster.loadStep_cases next
      · exact truthful n p
      · exact raised
    | store m q contents =>
      obtain ⟨-, -, ⟨writable, rfl⟩ | ⟨-, rfl⟩⟩ := Cluster.storeStep_cases next
      · refine settled rfl ?_
        refine Node.forall_residence_update (Node.residence_setMapping _ _ _) ?_ (truthful m)
        exact (Residence.Change.write _ contents writable).truthful (truthful m q)
      · exact raised
    | fault m =>
      obtain ⟨-, fault, rest, -, rfl⟩ := Cluster.faultStep_cases next
      refine settled rfl ?_
      refine Node.forall_residence_update (Node.residence_handleFault _ _) ?_ (truthful m)
      exact Residence.truthful_faulted (truthful m fault.pageIndex)
    | drain m =>
      obtain ⟨-, req, rest, -, rfl⟩ := Cluster.drainStep_cases next
      refine settled rfl fun q => ?_
      exact (Node.changes_serveQueuedRequest _ req q).truthful (truthful m q)
    | toCoordinator w =>
      obtain ⟨-, _, _, node, -, handled, rfl⟩ := Cluster.toCoordinatorStep_cases next
      exact settled rfl (Node.truthful_dispatchPacket (truthful _) handled)
    | toWorker w =>
      obtain ⟨-, _, _, node, -, handled, rfl⟩ := Cluster.toWorkerStep_cases next
      exact settled rfl (Node.truthful_dispatchPacket (truthful _) handled)
    | evict w => cases kept s _ allowed

/-- Where no handler and no engine can move there is nothing left to handle. -/
theorem Cluster.drained_of_stuck (truthful : ∀ n p, ((s.node n).residence p).Truthful)
    (stuck : ∀ e : Event Page, e.isHandling = true → s.step T e = none) : s.Drained T := by
  have answers (n : Nat) (fd : Int) (packet : DsmPacket Page) :
      (s.node n).dispatchPacket fd packet ≠ none := by
    obtain ⟨n', handled⟩ := Node.dispatchPacket_returns (truthful n) fd packet
    simp [handled]
  refine ⟨⟨fun w worker => ⟨?_, ?_⟩, fun n member => ?_⟩, fun n member => ?_⟩
  · have none := stuck (.toCoordinator w) rfl
    simp only [Cluster.step, Cluster.toCoordinatorStep, worker, if_true] at none
    cases waiting : s.toCoordinator w with
    | nil => rfl
    | cons packet rest => simp [waiting, answers] at none
  · have none := stuck (.toWorker w) rfl
    simp only [Cluster.step, Cluster.toWorkerStep, worker, if_true] at none
    cases waiting : s.toWorker w with
    | nil => rfl
    | cons packet rest => simp [waiting, answers] at none
  · have none := stuck (.drain n) rfl
    simp only [Cluster.step, Cluster.drainStep, member, if_true] at none
    cases waiting : (s.node n).sharedReqQueue with
    | nil => rfl
    | cons req rest => simp [waiting] at none
  · have none := stuck (.fault n) rfl
    simp only [Cluster.step, Cluster.faultStep, member, if_true] at none
    cases waiting : (s.node n).uffdMessages with
    | nil => rfl
    | cons fault rest => simp [waiting] at none

end Progress

/-! ### Nothing is left recorded -/

section Slots

variable {T : Topology} {s t : Cluster Page} {p : Nat}

/-- Pages that the coordinator sends are neither fetches nor invalidations. -/
theorem inFlight_down_pages {kind : Msg Page → Bool} (other : ∀ page, kind (.page page) = false)
    {n : Node Page}
    (pages : ∀ fd packet, Effect.send fd packet ∈ n.effects → packet.type = .sendPage) :
    Links.inFlight (coordinatorView T p s n).down kind T.workers =
      Links.inFlight (s.pageState T p).down kind T.workers := by
  have none (fd : Int) : ((sentOn fd n.effects).filterMap (downMsg p)).countP kind = 0 := by
    rw [List.countP_eq_zero]
    intro m found
    obtain ⟨packet, sent, decoded⟩ := List.mem_filterMap.mp found
    have page := pages fd packet (mem_sentOn.mp sent)
    unfold downMsg at decoded
    split at decoded
    · rw [page] at decoded
      cases decoded
      simp [other]
    · cases decoded
  rw [coordinatorView_eq]
  refine Finset.sum_congr rfl fun w worker => ?_
  simp only [worker, if_true, List.countP_append, none, Nat.add_zero]

/-- All that an acknowledgement makes the coordinator send are pages. -/
theorem Node.pages_handleInvalidateAck {n : Node Page} (quiet : n.effects = [])
    (packet : DsmPacket Page) :
    ∀ fd sent, Effect.send fd sent ∈ (n.handleInvalidateAck packet).effects →
      sent.type = .sendPage := by
  have none : ∀ fd (sent : DsmPacket Page), Effect.send fd sent ∈ n.effects →
      sent.type = .sendPage := by
    rw [quiet]
    nofun
  unfold handleInvalidateAck
  dsimp only
  split
  · split
    · split
      · -- the last one grants
        unfold grantDeferred
        dsimp only
        split
        · split <;> simp [setPending, liftWriteProtection, dsmMarkAccessed, installPage, quiet]
        · simp [setPending, sendAllNonblocking, quiet]
      · exact none
    · exact none
  · exact none

variable [Zero Page]

/-- An acknowledgement that finds no requester recorded is counted as any other. The last one sends
the payload to the descriptor that the slot still has. -/
theorem acknowledged_stray (ok : ClusterOk T s) (inRange : p < T.numPages) {w : Nat}
    (label : s.pageLabel T p (.toCoordinator w) = some (.ack w))
    (waiting : 0 < (s.slot T p).expectedAcks) (free : (s.slot T p).requesterNodeId = 0)
    (next : s.toCoordinatorStep T w = some t) :
    PageState.Acknowledged T (s.pageState T p) (t.pageState T p) := by
  obtain ⟨worker, packet, rest, node, head, handled, rfl⟩ := Cluster.toCoordinatorStep_cases next
  obtain ⟨type, rfl⟩ := ack_of_label head label
  simp only [Node.dispatchPacket, type, Option.some.injEq] at handled
  subst handled
  have inside : packet.pageIndex < (s.node T.coordinator).numPages := ok.coordinator.pages ▸ inRange
  have counts := Node.counts_handleInvalidateAck (ok.idle T.coordinator) inside waiting
  have slot : (s.node T.coordinator).gpdPendingReqs packet.pageIndex =
      (s.pageState T packet.pageIndex).slot := rfl
  have up : (s.pageState T packet.pageIndex).up w = .ack :: _ := up_cons head (by simp [upMsg, type])
  change PageState.Acknowledged T _ (coordinatorView T packet.pageIndex _ _)
  refine .count worker up ?_ ?_ ?_ fun kind other => ?_
  · rw [coordinatorView_slot, ← slot]
    exact counts.acks
  · -- nobody is recorded before, and nobody after
    rw [PageState.Live, PageState.Live, coordinatorView_slot, counts.requester, slot]
    have none : (s.pageState T packet.pageIndex).slot.requesterNodeId = 0 := free
    simp [none]
  · rw [coordinatorView_eq, pageState_dropUp]
  · rw [inFlight_down_pages other (Node.pages_handleInvalidateAck (ok.idle T.coordinator) packet),
      pageState_dropUp]

/-- Whatever the step, a recorded transaction is owed what it waits for. -/
theorem owed_step (ok : ClusterOk T s) (inRange : p < T.numPages)
    (owed : PageState.Owed T (s.pageState T p)) {e : Event Page} (keeps : e.isEviction = false)
    (next : s.step T e = some t) : PageState.Owed T (t.pageState T p) := by
  by_cases stray : (∃ w, s.pageLabel T p e = some (.ack w)) ∧ 0 < (s.slot T p).expectedAcks ∧
      (s.slot T p).requesterNodeId = 0
  · obtain ⟨⟨w, label⟩, waiting, free⟩ := stray
    obtain rfl : e = .toCoordinator w := event_of_ack label
    exact owed.ack (acknowledged_stray ok inRange label waiting free next)
  · have moved := step_moves ok inRange
      (fun ack waiting free => stray ⟨ack, waiting, free⟩) keeps next
    unfold PageStep at moved
    split at moved
    · exact moved ▸ owed
    · exact PageState.owed_of_move (ok.pageOk p) owed moved

theorem owed_of_run (inRange : p < T.numPages)
    (run : Runs.Run (Cluster.step T) (fun _ e => e.isEviction = false) (.initial T) s) :
    PageState.Owed T (s.pageState T p) := by
  refine (run.invariant (fun s => ClusterOk T s ∧ PageState.Owed T (s.pageState T p))
    ⟨ClusterOk.initial T, ?_⟩ ?_).2
  · rw [pageState_initial]
    exact PageState.initial_owed
  · rintro s e t ⟨ok, owed⟩ keeps next
    exact ⟨ok.step next, owed_step ok inRange owed keeps next⟩

omit [Zero Page] in
/-- Where nothing is left to handle every transaction has come to its end. -/
theorem slot_free (drained : s.Drained T) (owed : PageState.Owed T (s.pageState T p)) :
    (s.slot T p).requesterNodeId = 0 ∧ (s.slot T p).expectedAcks = 0 := by
  have up (w : Nat) (worker : w ∈ T.workers) : (s.pageState T p).up w = [] := by
    simp [Cluster.pageState, (drained.1.1 w worker).1]
  have down (w : Nat) (worker : w ∈ T.workers) : (s.pageState T p).down w = [] := by
    simp [Cluster.pageState, (drained.1.1 w worker).2]
  have nothing (links : Nat → List (Msg Page)) (kind : Msg Page → Bool)
      (empty : ∀ w ∈ T.workers, links w = []) : Links.inFlight links kind T.workers = 0 :=
    Finset.sum_eq_zero fun w worker => by rw [empty w worker]; rfl
  refine owed.free ?_ ?_
  · rw [PageState.transfers, nothing _ _ down, nothing _ _ up]
  · rw [PageState.collections, nothing _ _ down, nothing _ _ up]

end Slots

/-! ### Coming to rest -/

/-- From every state that a cluster without evictions can reach, also in the middle of transactions
that overlap: however the handlers and engines are scheduled, they take at most `3k + 5` steps for
each message that is outstanding, with `k` workers, and they get stuck only where nothing is left
to handle and no transaction is recorded for any page. -/
theorem comes_to_rest [Zero Page] {T : Topology} {s t : Cluster Page} (es : List (Event Page))
    (run : Runs.Run (Cluster.step T) (fun _ e => e.isEviction = false) (.initial T) s)
    (executed : Runs.execIf (Cluster.step T) (fun _ e => e.isHandling = true) s es = some t) :
    es.length ≤ (3 * T.workers.card + 5) * s.outstanding T ∧
      ((∀ e : Event Page, e.isHandling = true → t.step T e = none) →
        t.Drained T ∧ ∀ p < T.numPages,
          (t.slot T p).requesterNodeId = 0 ∧ (t.slot T p).expectedAcks = 0) := by
  constructor
  · have bounded := Runs.length_le_of_execIf (Cluster.remainingSteps T) (ClusterOk T)
      (fun _ _ _ ok _ next => ok.step next)
      (fun _ _ _ ok handling next => Cluster.remainingSteps_step ok handling next)
      (clusterOk_of_run run) executed
    have few := s.remainingSteps_le T
    omega
  · intro stuck
    have reached : Runs.Run (Cluster.step T) (fun _ e => e.isEviction = false) (.initial T) t :=
      run.trans ((Runs.run_of_execIf executed).mono fun _ _ => isEviction_of_handling)
    have drained := Cluster.drained_of_stuck
      (Cluster.truthful_of_run (fun _ _ kept => kept) reached) stuck
    exact ⟨drained, fun p inRange => slot_free drained (owed_of_run inRange reached)⟩

/-- Workers 2 and 3 write to page 0 at the same time, before the coordinator has read their joins. -/
def twoStores : List (Event PageBytes) := [.store 2 0 (fun _ => 7), .store 3 0 (fun _ => 8)]

def twoStoresHandled : List (Event PageBytes) :=
  [.fault 2, .fault 3, .drain 2, .drain 3, .toCoordinator 2, .toCoordinator 3, .toCoordinator 2,
    .toCoordinator 3, .toWorker 2, .toWorker 2, .toCoordinator 2, .toWorker 2, .toCoordinator 2,
    .toWorker 3]

theorem comes_to_rest_two_stores : ∃ s t : Cluster PageBytes, s.outstanding twoWorkers = 4 ∧
    twoStoresHandled.length ≤ (3 * twoWorkers.workers.card + 5) * s.outstanding twoWorkers ∧
    ((∀ e : Event PageBytes, e.isHandling = true → t.step twoWorkers e = none) →
      t.Drained twoWorkers ∧ ∀ p < twoWorkers.numPages,
        (t.slot twoWorkers p).requesterNodeId = 0 ∧ (t.slot twoWorkers p).expectedAcks = 0) := by
  obtain ⟨s, run, four, handled⟩ := Runs.exists_run (Cluster.step twoWorkers)
    (fun _ e => e.isEviction = false) (.initial twoWorkers) twoStores
    (fun s => s.outstanding twoWorkers = 4 ∧ (Runs.execIf (Cluster.step twoWorkers)
      (fun _ e => e.isHandling = true) s twoStoresHandled).isSome = true) (by decide +kernel)
  obtain ⟨t, executed⟩ := Option.isSome_iff_exists.mp handled
  exact ⟨s, t, four, comes_to_rest twoStoresHandled run executed⟩

end TeleportVM
