import TeleportVM.Cluster
import TeleportVM.DirectoryRefinement

/-!
What holds of every reachable cluster, whatever the order of events and with evictions:
descriptors, directory entries, pending slots and the kinds of packets on each link.
-/
namespace TeleportVM

variable {Page : Type}

/-- A packet that the coordinator may send to a worker. -/
def DownPacket (T : Topology) (packet : DsmPacket Page) : Prop :=
  packet.type = .sendPage ∨ packet.type = .invalidate ∨
    (packet.type = .requestPageRead ∧ packet.senderNodeId = T.coordinator)

/-- A packet that worker `w` may send to the coordinator. -/
def UpPacket (w : Nat) (packet : DsmPacket Page) : Prop :=
  packet.senderNodeId = w ∧ packet.type ≠ .invalidate

/-- The coordinator itself, or a worker it holds the descriptor of. -/
def Known (T : Topology) (nodeFds : Nat → Int) (m : Nat) : Prop :=
  m = T.coordinator ∨ (m ∈ T.workers ∧ nodeFds m = T.acceptedFd m)

structure CoordinatorOk (T : Topology) (n : Node Page) : Prop where
  id : n.localNodeId = T.coordinator
  pages : n.numPages = T.numPages
  fd : n.coordinatorFd = -1
  fds : ∀ m, n.nodeFds m = -1 ∨ (m ∈ T.workers ∧ n.nodeFds m = T.acceptedFd m)
  entries : ∀ p, (n.directory.entry p).WellFormed
  holders : ∀ p, ∀ m ∈ (n.directory.entry p).holders, Known T n.nodeFds m
  slots : ∀ p, (n.gpdPendingReqs p).requesterNodeId = 0 ∨
    (Known T n.nodeFds (n.gpdPendingReqs p).requesterNodeId ∧
      ((n.gpdPendingReqs p).requesterNodeId ≠ T.coordinator →
        (n.gpdPendingReqs p).clientFd = T.acceptedFd (n.gpdPendingReqs p).requesterNodeId))
  requests : ∀ req, req ∈ n.sharedReqQueue ∨ req ∈ n.uffdMessages → req.pageIndex < T.numPages
  sends : ∀ fd packet, Effect.send fd packet ∈ n.effects → DownPacket T packet

/-- A worker's own directory never names an owner, and lists nobody but the coordinator. -/
def GpdEntry.Foreign (T : Topology) (e : GpdEntry) : Prop :=
  e.state ≠ .modified ∧ e.ownerNodeId = 0 ∧ Bitmap.members e.sharedNodesBitmap ⊆ {T.coordinator}

structure WorkerOk (T : Topology) (w : Nat) (n : Node Page) : Prop where
  id : n.localNodeId = w
  pages : n.numPages = T.numPages
  fd : n.coordinatorFd = T.connectFd w
  entries : ∀ p, (n.directory.entry p).Foreign T
  requests : ∀ req, req ∈ n.sharedReqQueue ∨ req ∈ n.uffdMessages → req.pageIndex < T.numPages
  sends : ∀ fd packet, Effect.send fd packet ∈ n.effects → UpPacket w packet

structure ClusterOk (T : Topology) (s : Cluster Page) : Prop where
  coordinator : CoordinatorOk T (s.node T.coordinator)
  workers : ∀ w ∈ T.workers, WorkerOk T w (s.node w)
  up : ∀ w ∈ T.workers, ∀ packet ∈ s.toCoordinator w, UpPacket w packet
  down : ∀ w ∈ T.workers, ∀ packet ∈ s.toWorker w, DownPacket T packet
  idle : ∀ n, (s.node n).effects = []

theorem WorkerOk.connected {T : Topology} {w : Nat} {n : Node Page} (ok : WorkerOk T w n)
    (worker : w ∈ T.workers) : n.coordinatorFd ≠ -1 := by
  rw [ok.fd]
  exact T.connectFd_open w worker

theorem Topology.valid_of_mem (T : Topology) {n : Nat} (member : n ∈ T.nodes) : ValidNode n := by
  rcases Finset.mem_insert.mp member with rfl | worker
  · exact T.coordinator_valid
  · exact T.workers_valid n worker

theorem Topology.ne_coordinator (T : Topology) {w : Nat} (worker : w ∈ T.workers) :
    w ≠ T.coordinator :=
  fun same => T.coordinator_not_worker (same ▸ worker)

theorem Topology.worker_mem (T : Topology) {w : Nat} (worker : w ∈ T.workers) : w ∈ T.nodes :=
  Finset.mem_insert_of_mem worker

theorem Topology.coordinator_mem (T : Topology) : T.coordinator ∈ T.nodes :=
  Finset.mem_insert_self _ _

theorem Known.mem {T : Topology} {nodeFds : Nat → Int} {m : Nat} (known : Known T nodeFds m) : m ∈ T.nodes := by
  rcases known with rfl | ⟨worker, -⟩
  · exact T.coordinator_mem
  · exact T.worker_mem worker

theorem Known.valid {T : Topology} {nodeFds : Nat → Int} {m : Nat} (known : Known T nodeFds m) : ValidNode m :=
  T.valid_of_mem known.mem

/-! ### The operations keep the coordinator well formed -/

namespace CoordinatorOk

variable {T : Topology} {n : Node Page}

theorem setStatus (ok : CoordinatorOk T n) (p : Nat) (st : PageStatus) :
    CoordinatorOk T (n.setStatus p st) := { ok with }

theorem setMapping (ok : CoordinatorOk T n) (p : Nat) (m : Mapping Page) :
    CoordinatorOk T (n.setMapping p m) := { ok with }

theorem setRequests (ok : CoordinatorOk T n) (queue waiting : List PageRequest)
    (fewer : ∀ req, req ∈ queue ∨ req ∈ waiting →
      req ∈ n.sharedReqQueue ∨ req ∈ n.uffdMessages) :
    CoordinatorOk T { n with sharedReqQueue := queue, uffdMessages := waiting } :=
  { ok with requests := fun req found => ok.requests req (fewer req found) }

theorem dsmMarkAccessed (ok : CoordinatorOk T n) (p : Nat) :
    CoordinatorOk T (n.dsmMarkAccessed p)  :=
  { ok with }

theorem invalidateLocalPageCopy (ok : CoordinatorOk T n) (p : Nat) :
    CoordinatorOk T (n.invalidateLocalPageCopy p) := { ok with }

theorem writeprotectLocalPageCopy (ok : CoordinatorOk T n) (p : Nat) :
    CoordinatorOk T (n.writeprotectLocalPageCopy p) := { ok with }

private theorem addEffect (ok : CoordinatorOk T n) (added : List (Effect Page))
    (down : ∀ fd packet, Effect.send fd packet ∈ added → DownPacket T packet) :
    CoordinatorOk T { n with effects := n.effects ++ added } :=
  { ok with
    sends := fun fd packet member => by
      rcases List.mem_append.mp member with old | new
      · exact ok.sends fd packet old
      · exact down fd packet new }

theorem sendAllNonblocking (ok : CoordinatorOk T n) (fd : Int) (packet : DsmPacket Page)
    (down : DownPacket T packet) : CoordinatorOk T (n.sendAllNonblocking fd packet) :=
  ok.addEffect _ fun f q member => by
    simp only [List.mem_singleton, Effect.send.injEq] at member
    rw [member.2]; exact down

theorem installPage (ok : CoordinatorOk T n) (p : Nat) (page : Page) :
    CoordinatorOk T (n.installPage p page) := by
  apply CoordinatorOk.dsmMarkAccessed
  exact { ok.addEffect [.uffdioCopy p page] (by simp) with }

theorem liftWriteProtection (ok : CoordinatorOk T n) (p : Nat) :
    CoordinatorOk T (n.liftWriteProtection p) :=
  { ok.addEffect [.uffdioUnprotect p] (by simp) with }

theorem sendInvalidations [Zero Page] (ok : CoordinatorOk T n) (p : Nat) (targets : List Nat) :
    CoordinatorOk T (n.sendInvalidations p targets) :=
  ok.addEffect _ fun f q member => by
    obtain ⟨m, -, equal⟩ := List.mem_map.mp member
    cases equal
    exact Or.inr (Or.inl rfl)

/-- A slot may be written for no requester, or for a known one with its descriptor. -/
theorem setPending (ok : CoordinatorOk T n) (p : Nat) (slot : CoordPending Page)
    (owned : slot.requesterNodeId = 0 ∨ (Known T n.nodeFds slot.requesterNodeId ∧
      (slot.requesterNodeId ≠ T.coordinator →
        slot.clientFd = T.acceptedFd slot.requesterNodeId))) :
    CoordinatorOk T (n.setPending p slot) :=
  { ok with
    slots := fun q => by
      by_cases same : q = p
      · subst q; simpa [Node.setPending] using owned
      · simpa [Node.setPending, same] using ok.slots q }

theorem setDirectoryEntry (ok : CoordinatorOk T n) (p : Nat) (e : GpdEntry) (wf : e.WellFormed)
    (known : ∀ m ∈ e.holders, Known T n.nodeFds m) :
    CoordinatorOk T (n.setEntry p e) :=
  { ok with
    entries := fun q => by
      by_cases same : q = p
      · subst q; simpa [Node.setEntry] using wf
      · simpa [Node.setEntry, same] using ok.entries q
    holders := fun q => by
      by_cases same : q = p
      · subst q; simpa [Node.setEntry] using known
      · simpa [Node.setEntry, same] using ok.holders q }

theorem transitionToShared (ok : CoordinatorOk T n) (p r : Nat) (known : Known T n.nodeFds r) :
    CoordinatorOk T (n.transitionToShared p r).1 := by
  unfold Node.transitionToShared gpdTransitionToShared
  split
  · exact ok
  · apply ok.setDirectoryEntry p _ (toShared_wellFormed _ (ok.entries p) r known.valid)
    intro m member
    rw [toShared_holders _ (ok.entries p) r known.valid] at member
    rcases Finset.mem_insert.mp member with rfl | old
    · exact known
    · exact ok.holders p m old

theorem transitionToModified (ok : CoordinatorOk T n) (p w : Nat) (known : Known T n.nodeFds w) :
    CoordinatorOk T (n.transitionToModified p w).1 := by
  unfold Node.transitionToModified gpdTransitionToModified
  split
  · exact ok
  · apply ok.setDirectoryEntry p _ (ownedBy_wellFormed w known.valid)
    intro m member
    rw [ownedBy_holders, Finset.mem_singleton] at member
    exact member ▸ known

/-- A worker that is registered stays registered with the same descriptor. -/
theorem known_register {w m : Nat} (worker : w ∈ T.workers)
    (known : Known T n.nodeFds m) : Known T (n.registerSender (T.acceptedFd w) w).nodeFds m := by
  have small := (T.workers_valid w worker).lt
  rcases known with same | ⟨member, fd⟩
  · exact Or.inl same
  · right
    refine ⟨member, ?_⟩
    by_cases same : m = w
    · subst m; simp [Node.registerSender, small]
    · simpa [Node.registerSender, small, same] using fd

theorem registerSender (ok : CoordinatorOk T n) {w : Nat} (worker : w ∈ T.workers) :
    CoordinatorOk T (n.registerSender (T.acceptedFd w) w) := by
  have keep : ∀ m, Known T n.nodeFds m → Known T (n.registerSender (T.acceptedFd w) w).nodeFds m :=
    fun m known => known_register worker known
  have small := (T.workers_valid w worker).lt
  have same : n.registerSender (T.acceptedFd w) w =
      { n with nodeFds := Function.update n.nodeFds w (T.acceptedFd w) } := by
    simp [Node.registerSender, small]
  rw [same] at keep ⊢
  refine { ok with fds := ?_, holders := ?_, slots := ?_ }
  · intro m
    by_cases new : m = w
    · subst m; right; simp [worker]
    · simpa [new] using ok.fds m
  · exact fun p m member => keep m (ok.holders p m member)
  · intro p
    rcases ok.slots p with free | ⟨known, fd⟩
    · exact Or.inl free
    · exact Or.inr ⟨keep _ known, fd⟩

theorem known_worker {w : Nat} (worker : w ∈ T.workers) :
    Known T (n.registerSender (T.acceptedFd w) w).nodeFds w :=
  Or.inr ⟨worker, by simp [Node.registerSender, (T.workers_valid w worker).lt]⟩

/-! ### The handlers keep the coordinator well formed -/

theorem known_coordinator {nodeFds : Nat → Int} : Known T nodeFds T.coordinator := Or.inl rfl

theorem handleFault (ok : CoordinatorOk T n) (fault : PageRequest)
    (inRange : fault.pageIndex < T.numPages) : CoordinatorOk T (n.handleFault fault) := by
  unfold Node.handleFault
  dsimp only
  split
  · exact ok
  · -- the status is set before the request is queued, and `PAGE_EMPTY` again if the queue is full
    have marked := ok.setStatus fault.pageIndex
      (Node.faultStatus (n.pageTable fault.pageIndex) fault.isWrite)
    simp only [Node.queuePush]
    split
    · exact marked.setStatus _ _
    · refine { marked with requests := ?_ }
      intro req member
      simp only [Option.getD_some, List.mem_append, List.mem_singleton] at member
      rcases member with (old | rfl) | waiting
      · exact marked.requests req (Or.inl old)
      · exact inRange
      · exact marked.requests req (Or.inr waiting)

variable [Zero Page]

theorem upgradeLocalCopy (ok : CoordinatorOk T n) (p : Nat) :
    CoordinatorOk T (n.upgradeLocalCopy p) := by
  have owned := ok.transitionToModified p n.localNodeId (by rw [ok.id]; exact known_coordinator)
  unfold Node.upgradeLocalCopy
  dsimp only
  split
  · apply CoordinatorOk.sendInvalidations
    apply owned.setPending
    exact Or.inr ⟨by rw [ok.id]; exact known_coordinator, fun away => absurd ok.id away⟩
  · exact owned.liftWriteProtection p

theorem fetchFromOwner (ok : CoordinatorOk T n) (p r : Nat) (type : MsgType) (fd : Int) (o : Nat)
    (known : Known T n.nodeFds r) (own : r ≠ T.coordinator → fd = T.acceptedFd r) :
    CoordinatorOk T (n.fetchFromOwner p r type fd o) :=
  (ok.setPending p _ (Or.inr ⟨known, own⟩)).sendAllNonblocking _ _
    (Or.inr (Or.inr ⟨rfl, ok.id⟩))

theorem zeroFillLocal (ok : CoordinatorOk T n) (p : Nat) (isWrite : Bool) :
    CoordinatorOk T (n.zeroFillLocal p isWrite) := by
  have installed := ok.installPage p 0
  unfold Node.zeroFillLocal
  split
  · exact installed.transitionToModified p _ (by rw [ok.id]; exact known_coordinator)
  · exact installed.transitionToShared p _ (by rw [ok.id]; exact known_coordinator)

theorem serveQueuedRequest (ok : CoordinatorOk T n) (req : PageRequest) :
    CoordinatorOk T (n.serveQueuedRequest req) := by
  simp only [Node.serveQueuedRequest, ok.fd, ne_eq, not_true_eq_false, if_false]
  split
  · split
    · exact ok.upgradeLocalCopy _
    · exact ok
  · split
    · exact ok.fetchFromOwner _ _ _ _ _ (by rw [ok.id]; exact known_coordinator)
        (fun away => absurd ok.id away)
    · exact ok.zeroFillLocal _ _

omit [Zero Page] in
theorem completePending (ok : CoordinatorOk T n) (packet : DsmPacket Page)
    (sendPage : packet.type = .sendPage) : CoordinatorOk T (n.completePending packet) := by
  unfold Node.completePending
  apply CoordinatorOk.setPending _ _ _ (Or.inl rfl)
  split
  · exact ok.installPage _ _
  · exact ok.sendAllNonblocking _ _ (Or.inl sendPage)

omit [Zero Page] in
theorem ownDroppingLocal (ok : CoordinatorOk T n) (p r : Nat) (known : Known T n.nodeFds r) :
    CoordinatorOk T (n.ownDroppingLocal p r).1 := by
  have owned := ok.transitionToModified p r known
  unfold Node.ownDroppingLocal
  dsimp only
  split
  · exact owned.invalidateLocalPageCopy p
  · exact owned

omit [Zero Page] in
@[simp] theorem ownDroppingLocal_nodeFds (p r : Nat) :
    (n.ownDroppingLocal p r).1.nodeFds = n.nodeFds := by
  unfold Node.ownDroppingLocal; dsimp only; split <;> rfl

omit [Zero Page] in
@[simp] theorem ownDroppingLocal_pending (p r : Nat) :
    (n.ownDroppingLocal p r).1.gpdPendingReqs = n.gpdPendingReqs := by
  unfold Node.ownDroppingLocal; dsimp only; split <;> rfl

theorem replyToPendingWrite (ok : CoordinatorOk T n) (packet : DsmPacket Page)
    (sendPage : packet.type = .sendPage)
    (live : (n.gpdPendingReqs packet.pageIndex).requesterNodeId ≠ 0) :
    CoordinatorOk T (n.replyToPendingWrite packet) := by
  obtain ⟨known, own⟩ := (ok.slots packet.pageIndex).resolve_left live
  have owned := ok.ownDroppingLocal packet.pageIndex _ known
  unfold Node.replyToPendingWrite
  dsimp only
  split
  · apply CoordinatorOk.sendInvalidations
    apply owned.setPending
    simpa using Or.inr ⟨known, own⟩
  · exact owned.completePending packet sendPage

omit [Zero Page] in
theorem acceptPage (ok : CoordinatorOk T n) (packet : DsmPacket Page) :
    CoordinatorOk T (n.acceptPage packet) := by
  unfold Node.acceptPage
  dsimp only
  split
  · exact (ok.liftWriteProtection _).dsmMarkAccessed _
  · exact ok.installPage _ _
  · exact ok.installPage _ _
  · exact ok

theorem handleSendPage (ok : CoordinatorOk T n) (packet : DsmPacket Page)
    (sendPage : packet.type = .sendPage) : CoordinatorOk T (n.handleSendPage packet) := by
  unfold Node.handleSendPage
  dsimp only
  split
  · split
    next live =>
      obtain ⟨known, -⟩ := (ok.slots packet.pageIndex).resolve_left live.2
      split
      · exact ok.replyToPendingWrite packet sendPage live.2
      · exact (ok.transitionToShared _ _ known).completePending packet sendPage
    · exact ok.acceptPage packet
  · exact ok

omit [Zero Page] in
theorem grantDeferred (ok : CoordinatorOk T n) (p : Nat) :
    CoordinatorOk T (n.grantDeferred p) := by
  unfold Node.grantDeferred
  apply CoordinatorOk.setPending _ _ _ (Or.inl rfl)
  split
  · split
    · exact (ok.liftWriteProtection _).dsmMarkAccessed _
    · exact ok.installPage _ _
  · exact ok.sendAllNonblocking _ _ (Or.inl rfl)

omit [Zero Page] in
theorem handleInvalidateAck (ok : CoordinatorOk T n) (packet : DsmPacket Page) :
    CoordinatorOk T (n.handleInvalidateAck packet) := by
  unfold Node.handleInvalidateAck
  dsimp only
  split
  · split
    · -- the slot keeps its requester and descriptor: only the count goes down
      have counted := ok.setPending packet.pageIndex
        { n.gpdPendingReqs packet.pageIndex with
          expectedAcks := (n.gpdPendingReqs packet.pageIndex).expectedAcks - 1 }
        (ok.slots packet.pageIndex)
      split
      · exact counted.grantDeferred _
      · exact counted
    · exact ok
  · exact ok

section Request

variable {w : Nat} (known : Known T n.nodeFds w)
include known

theorem deferOrSend (ok : CoordinatorOk T n) (mask : BitVec 64) (response : DsmPacket Page)
    (sendPage : response.type = .sendPage) :
    CoordinatorOk T (n.deferOrSend (T.acceptedFd w) w mask response) := by
  unfold Node.deferOrSend
  dsimp only
  split
  · exact (ok.setPending _ _ (Or.inr ⟨known, fun _ => rfl⟩)).sendInvalidations _ _
  · exact ok.sendAllNonblocking _ _ (Or.inl sendPage)

theorem serveWriteFromCopy (ok : CoordinatorOk T n) (p : Nat) (page : Page) :
    CoordinatorOk T (n.serveWriteFromCopy (T.acceptedFd w) p w page) := by
  unfold Node.serveWriteFromCopy
  dsimp only
  exact CoordinatorOk.deferOrSend (by exact known)
    ((ok.transitionToModified p w known).invalidateLocalPageCopy p) _ _ rfl

omit [Zero Page] in
theorem serveReadFromCopy (ok : CoordinatorOk T n) (p : Nat) (page : Page) :
    CoordinatorOk T (n.serveReadFromCopy (T.acceptedFd w) p w page) := by
  have shared := ok.transitionToShared p w known
  unfold Node.serveReadFromCopy
  apply CoordinatorOk.sendAllNonblocking _ _ _ (Or.inl rfl)
  split
  · exact shared.writeprotectLocalPageCopy p
  · exact shared

theorem serveZeroPage (ok : CoordinatorOk T n) (p : Nat) (isWrite : Bool) :
    CoordinatorOk T (n.serveZeroPage (T.acceptedFd w) p w isWrite) := by
  have owned := ok.ownDroppingLocal p w known
  unfold Node.serveZeroPage
  dsimp only
  split
  · exact CoordinatorOk.deferOrSend (by simpa using known) owned _ _ rfl
  · exact (ok.transitionToShared p w known).sendAllNonblocking _ _ (Or.inl rfl)

end Request

theorem handlePageRequest (ok : CoordinatorOk T n) {w : Nat} (worker : w ∈ T.workers)
    (packet : DsmPacket Page) (sender : packet.senderNodeId = w) {n' : Node Page}
    (handled : n.handlePageRequest (T.acceptedFd w) packet = some n') : CoordinatorOk T n' := by
  subst sender
  have registered := ok.registerSender worker
  have known := known_worker (n := n) worker
  unfold Node.handlePageRequest at handled
  dsimp only at handled
  split at handled
  · split at handled
    · split at handled
      · cases handled
      · split at handled
        · cases handled; exact CoordinatorOk.serveWriteFromCopy known registered _ _
        · cases handled; exact CoordinatorOk.serveReadFromCopy known registered _ _
    · split at handled
      · cases handled; exact registered.fetchFromOwner _ _ _ _ _ known (fun _ => rfl)
      · cases handled; exact CoordinatorOk.serveZeroPage known registered _ _
  · cases handled; exact ok

theorem dispatchPacket (ok : CoordinatorOk T n) {w : Nat} (worker : w ∈ T.workers)
    (packet : DsmPacket Page) (up : UpPacket w packet) {n' : Node Page}
    (handled : n.dispatchPacket (T.acceptedFd w) packet = some n') : CoordinatorOk T n' := by
  obtain ⟨sender, notInvalidate⟩ := up
  unfold Node.dispatchPacket at handled
  split at handled
  · cases handled
    unfold Node.handleNodeJoin
    rw [sender]
    exact ok.registerSender worker
  next sendPage => cases handled; exact ok.handleSendPage packet sendPage
  next invalidate => exact absurd invalidate notInvalidate
  · cases handled; exact ok.handleInvalidateAck packet
  · exact ok.handlePageRequest worker packet sender handled
  · exact ok.handlePageRequest worker packet sender handled
  · cases handled; exact ok

end CoordinatorOk

/-! ### A worker's engine -/

theorem toShared_foreign {T : Topology} {e : GpdEntry} (foreign : e.Foreign T) :
    (e.toShared T.coordinator).Foreign T := by
  obtain ⟨unowned, -, listed⟩ := foreign
  simp only [GpdEntry.toShared, unowned, if_false]
  refine ⟨by simp, rfl, ?_⟩
  rw [Bitmap.members_or, Bitmap.members_bit _ T.coordinator_valid.lt]
  exact Finset.union_subset listed (Finset.Subset.refl _)

theorem setLocal_foreign {T : Topology} {e : GpdEntry} (foreign : e.Foreign T) (w : Nat) :
    (e.setLocal w .invalid).Foreign T := by
  obtain ⟨-, unowned, listed⟩ := foreign
  refine ⟨by simp [GpdEntry.setLocal], by simp [GpdEntry.setLocal, unowned], ?_⟩
  simp only [GpdEntry.setLocal, if_true, Bitmap.members_clear]
  exact (Finset.erase_subset _ _).trans listed

namespace WorkerOk

variable {T : Topology} {w : Nat} {n : Node Page}

/-- The worker's own directory never calls a page `MODIFIED` or `SHARED` here. -/
theorem localMsiState (ok : WorkerOk T w n) (worker : w ∈ T.workers) (p : Nat) :
    n.directory.localMsiState n.localNodeId p = .invalid := by
  obtain ⟨unowned, -, listed⟩ := ok.entries p
  unfold Directory.localMsiState gpdGetState gpdGetSharedMask
  split
  · rfl
  · cases state : (n.directory.entry p).state <;> simp only [state] at unowned ⊢
    · exact absurd rfl unowned
    · split
      next set =>
        -- a worker lists nobody but the coordinator, and is not the coordinator
        have member : n.localNodeId ∈ Bitmap.members (n.directory.entry p).sharedNodesBitmap :=
          (Bitmap.mem_members _ _).mpr set
        rw [ok.id] at member
        exact absurd (Finset.mem_singleton.mp (listed member)) (T.ne_coordinator worker)
      · rfl

theorem setDirectoryEntry (ok : WorkerOk T w n) (p : Nat) (e : GpdEntry) (foreign : e.Foreign T) :
    WorkerOk T w (n.setEntry p e) :=
  { ok with
    entries := fun q => by
      by_cases same : q = p
      · subst q; simpa [Node.setEntry] using foreign
      · simpa [Node.setEntry, same] using ok.entries q }

theorem transitionToShared (ok : WorkerOk T w n) (p : Nat) :
    WorkerOk T w (n.transitionToShared p T.coordinator).1 := by
  unfold Node.transitionToShared gpdTransitionToShared
  split
  · exact ok
  · exact ok.setDirectoryEntry p _ (toShared_foreign (ok.entries p))

theorem sendAllNonblocking (ok : WorkerOk T w n) (fd : Int) (packet : DsmPacket Page)
    (up : UpPacket w packet) : WorkerOk T w (n.sendAllNonblocking fd packet) :=
  { ok with
    sends := fun f q member => by
      rcases List.mem_append.mp member with old | new
      · exact ok.sends f q old
      · simp only [List.mem_singleton, Effect.send.injEq] at new
        rw [new.2]; exact up }

theorem setRequests (ok : WorkerOk T w n) (queue waiting : List PageRequest)
    (fewer : ∀ req, req ∈ queue ∨ req ∈ waiting →
      req ∈ n.sharedReqQueue ∨ req ∈ n.uffdMessages) :
    WorkerOk T w { n with sharedReqQueue := queue, uffdMessages := waiting } :=
  { ok with requests := fun req found => ok.requests req (fewer req found) }

theorem setMapping (ok : WorkerOk T w n) (p : Nat) (m : Mapping Page) :
    WorkerOk T w (n.setMapping p m) := { ok with }

theorem acceptPage (ok : WorkerOk T w n) (packet : DsmPacket Page) :
    WorkerOk T w (n.acceptPage packet) := by
  have silent : ∀ added : Effect Page, (∀ fd q, added ≠ .send fd q) →
      ∀ fd q, Effect.send fd q ∈ n.effects ++ [added] → UpPacket w q := by
    intro added other fd q member
    rcases List.mem_append.mp member with old | new
    · exact ok.sends fd q old
    · exact absurd (List.mem_singleton.mp new).symm (other fd q)
  unfold Node.acceptPage
  dsimp only
  split
  · exact { ok with sends := silent _ (by simp) }
  · exact { ok with sends := silent _ (by simp) }
  · exact { ok with sends := silent _ (by simp) }
  · exact ok

theorem handleFault (ok : WorkerOk T w n) (fault : PageRequest)
    (inRange : fault.pageIndex < T.numPages) : WorkerOk T w (n.handleFault fault) := by
  unfold Node.handleFault
  dsimp only
  split
  · exact ok
  · simp only [Node.queuePush]
    split
    · exact { ok with }
    · refine { ok with requests := ?_ }
      intro req member
      simp only [Option.getD_some, Node.setStatus, List.mem_append, List.mem_singleton] at member
      rcases member with (old | rfl) | waiting
      · exact ok.requests req (Or.inl old)
      · exact inRange
      · exact ok.requests req (Or.inr waiting)

theorem dropVictim (ok : WorkerOk T w n) (inspectIdx : Nat) :
    WorkerOk T w (n.dropVictim inspectIdx) := by
  refine { ok with pages := ?_, entries := ?_ }
  · simp only [Node.numPages, Node.dropVictim, Directory.setLocalMsiState]
    split <;> exact ok.pages
  · intro q
    simp only [Node.dropVictim, Directory.setLocalMsiState]
    split
    · exact ok.entries q
    · by_cases same : q = (n.evictionRing inspectIdx).pageIndex
      · subst q
        simpa using setLocal_foreign (ok.entries _) _
      · simpa [same] using ok.entries q

theorem evictionSweep (ok : WorkerOk T w n) (worker : w ∈ T.workers) (fd : Int) (iterations : Nat)
    {result : Node Page × Option Nat} (swept : n.evictionSweep fd iterations = some result) :
    WorkerOk T w result.1 := by
  induction iterations generalizing n with
  | zero =>
    cases swept
    exact ok
  | succ iterations ih =>
    simp only [Node.evictionSweep] at swept
    split at swept
    · exact ih (by exact { ok with }) swept
    · split at swept
      · exact ih (by exact { ok with }) swept
      · obtain ⟨written, back, rfl⟩ := Option.map_eq_some_iff.mp swept
        have advanced : WorkerOk T w { n with clockHand := (n.clockHand + 1) % n.numPages } :=
          { ok with }
        -- the victim is never `MODIFIED` to the worker, so nothing is written back
        rw [Node.writeback, advanced.localMsiState worker, if_neg (by simp)] at back
        cases back
        exact advanced.dropVictim _

/-- The sweep of a worker calls nobody. -/
theorem evictionSweep_effects (ok : WorkerOk T w n) (worker : w ∈ T.workers) (fd : Int)
    (iterations : Nat) {result : Node Page × Option Nat}
    (swept : n.evictionSweep fd iterations = some result) : result.1.effects = n.effects := by
  induction iterations generalizing n with
  | zero => cases swept; rfl
  | succ iterations ih =>
    simp only [Node.evictionSweep] at swept
    split at swept
    · exact (ih (by exact { ok with }) swept).trans rfl
    · split at swept
      · exact (ih (by exact { ok with }) swept).trans rfl
      · obtain ⟨written, back, rfl⟩ := Option.map_eq_some_iff.mp swept
        have advanced : WorkerOk T w { n with clockHand := (n.clockHand + 1) % n.numPages } :=
          { ok with }
        rw [Node.writeback, advanced.localMsiState worker, if_neg (by simp)] at back
        cases back
        rfl

variable [Zero Page]

theorem serveQueuedRequest (ok : WorkerOk T w n) (worker : w ∈ T.workers) (req : PageRequest) :
    WorkerOk T w (n.serveQueuedRequest req) := by
  have connected := ok.connected worker
  simp only [Node.serveQueuedRequest, connected, ne_eq, not_false_eq_true, if_true]
  refine ok.sendAllNonblocking _ _ ⟨ok.id, ?_⟩
  simp only [Node.requestType]
  split <;> simp

/-- What a worker makes of a packet from the coordinator: it takes a page in, drops its copy, or
answers a fetch with its valid copy or with zeros. -/
inductive Takes (n : Node Page) (fd : Int) (packet : DsmPacket Page) : Node Page → Prop
  | outside (outside : ¬ packet.pageIndex < n.numPages) : Takes n fd packet n
  | page (kind : packet.type = .sendPage) (inside : packet.pageIndex < n.numPages) :
    Takes n fd packet (n.acceptPage packet)
  | invalidate (kind : packet.type = .invalidate) (inside : packet.pageIndex < n.numPages) :
    Takes n fd packet
      (((n.setMapping packet.pageIndex .unmapped).setStatus packet.pageIndex .empty).sendAllNonblocking
        n.coordinatorFd ⟨.invalidateAck, packet.pageIndex, n.localNodeId, 0⟩)
  | fetch (kind : packet.type = .requestPageRead) (inside : packet.pageIndex < n.numPages)
    (page : Page) (source : if n.pageTable packet.pageIndex = .valid then
      (n.mapping packet.pageIndex).contents = some page else page = 0) :
    Takes n fd packet (((n.registerSender fd packet.senderNodeId).transitionToShared
      packet.pageIndex packet.senderNodeId).1.sendAllNonblocking fd
        ⟨.sendPage, packet.pageIndex, n.localNodeId, page⟩)

theorem takes_fetch (ok : WorkerOk T w n) (worker : w ∈ T.workers) (fd : Int)
    (packet : DsmPacket Page) (read : packet.type = .requestPageRead) {n' : Node Page}
    (inside : packet.pageIndex < n.numPages) (handled : n.handlePageRequest fd packet = some n') :
    Takes n fd packet n' := by
  -- its own directory names no owner, so the worker keeps its mapping and never asks further
  have unowned : (n.directory.entry packet.pageIndex).ownerNodeId = 0 :=
    (ok.entries packet.pageIndex).2.1
  have away : ((n.registerSender fd packet.senderNodeId).transitionToShared packet.pageIndex
      packet.senderNodeId).2 ≠ (n.registerSender fd packet.senderNodeId).localNodeId := by
    have id : (n.registerSender fd packet.senderNodeId).localNodeId = w := ok.id
    have known : ¬ (n.registerSender fd packet.senderNodeId).directory.numPages ≤ packet.pageIndex :=
      Nat.not_le.mpr inside
    rw [id, Node.transitionToShared, gpdTransitionToShared, if_neg known]
    exact fun same => (T.workers_valid w worker).ne_zero (same.symm.trans unowned)
  have owner : gpdGetOwner (n.registerSender fd packet.senderNodeId).directory
      packet.pageIndex = 0 := unowned
  simp only [Node.handlePageRequest, inside, if_true, read, reduceCtorEq, if_false] at handled
  split at handled
  next valid =>
    split at handled
    · cases handled
    next page copied =>
      cases handled
      simp only [Node.serveReadFromCopy]
      rw [if_neg away]
      exact .fetch read inside page (by rw [if_pos (by exact valid)]; exact copied)
  next absent =>
    rw [if_neg (by simp [owner])] at handled
    cases handled
    simp only [Node.serveZeroPage, decide_false, Bool.false_eq_true, if_false]
    exact .fetch read inside 0 (by rw [if_neg (by exact absent)])

theorem takes (ok : WorkerOk T w n) (worker : w ∈ T.workers) {fd : Int} {packet : DsmPacket Page}
    (down : DownPacket T packet) {n' : Node Page} (handled : n.dispatchPacket fd packet = some n') :
    Takes n fd packet n' := by
  have connected := ok.connected worker
  unfold Node.dispatchPacket at handled
  by_cases inside : packet.pageIndex < n.numPages
  · rcases down with sendPage | invalidate | ⟨read, -⟩
    · simp only [sendPage, Node.handleSendPage, connected, inside, false_and, if_true, if_false,
        Option.some.injEq] at handled
      exact handled ▸ .page sendPage inside
    · simp only [invalidate, Node.handleInvalidate, connected, inside, ne_eq, not_false_eq_true,
        if_true, Option.some.injEq] at handled
      exact handled ▸ .invalidate invalidate inside
    · simp only [read] at handled
      exact ok.takes_fetch worker fd packet read inside handled
  · have same : n' = n := by
      rcases down with sendPage | invalidate | ⟨read, -⟩
      · simpa [sendPage, Node.handleSendPage, inside] using handled.symm
      · simpa [invalidate, Node.handleInvalidate, inside] using handled.symm
      · simpa [read, Node.handlePageRequest, inside] using handled.symm
    rw [same]
    exact .outside inside

theorem dispatchPacket (ok : WorkerOk T w n) (worker : w ∈ T.workers) (packet : DsmPacket Page)
    (down : DownPacket T packet) {n' : Node Page}
    (handled : n.dispatchPacket (T.connectFd w) packet = some n') : WorkerOk T w n' := by
  have registered : WorkerOk T w (n.registerSender (T.connectFd w) packet.senderNodeId) :=
    { ok with }
  cases ok.takes worker down handled with
  | outside => exact ok
  | page => exact ok.acceptPage packet
  | invalidate =>
    have dropped : WorkerOk T w ((n.setMapping packet.pageIndex .unmapped).setStatus
        packet.pageIndex .empty) := { ok with }
    exact dropped.sendAllNonblocking _ _ ⟨ok.id, by simp⟩
  | fetch read inside page =>
    have sender : packet.senderNodeId = T.coordinator := by
      rcases down with sendPage | invalidate | ⟨-, sender⟩
      · cases read.symm.trans sendPage
      · cases read.symm.trans invalidate
      · exact sender
    have shared := registered.transitionToShared packet.pageIndex
    rw [← sender] at shared
    exact shared.sendAllNonblocking _ _ ⟨ok.id, by simp⟩

end WorkerOk

/-! ### Every step keeps the cluster well formed -/

theorem mem_sentOn {fd : Int} {effects : List (Effect Page)} {packet : DsmPacket Page} :
    packet ∈ sentOn fd effects ↔ Effect.send fd packet ∈ effects := by
  simp only [sentOn, List.mem_filterMap]
  constructor
  · rintro ⟨effect, member, sent⟩
    cases effect with
    | send f q =>
      simp only [Option.ite_none_right_eq_some, Option.some.injEq] at sent
      obtain ⟨rfl, rfl⟩ := sent
      exact member
    | uffdioCopy => cases sent
    | uffdioUnprotect => cases sent
  · intro member
    exact ⟨_, member, by simp⟩

namespace ClusterOk

variable {T : Topology} {s : Cluster Page}

theorem settle_coordinator (ok : ClusterOk T s) {node : Node Page} (good : CoordinatorOk T node) :
    ClusterOk T (s.settle T T.coordinator node) where
  coordinator := by
    simp only [Cluster.settle, Function.update_self]
    exact { good with sends := by simp }
  workers w worker := by
    simp only [Cluster.settle, Function.update_of_ne (T.ne_coordinator worker)]
    exact ok.workers w worker
  up w worker := by
    simp only [Cluster.settle, T.ne_coordinator worker, and_false, if_false]
    exact ok.up w worker
  down w worker packet member := by
    simp only [Cluster.settle, worker, and_self, if_true, List.mem_append, mem_sentOn] at member
    rcases member with old | new
    · exact ok.down w worker packet old
    · exact good.sends _ packet new
  idle m := by
    simp only [Cluster.settle]
    by_cases same : m = T.coordinator
    · subst m; simp
    · simpa [same] using ok.idle m

theorem settle_worker (ok : ClusterOk T s) {w : Nat} (worker : w ∈ T.workers) {node : Node Page}
    (good : WorkerOk T w node) : ClusterOk T (s.settle T w node) where
  coordinator := by
    simp only [Cluster.settle, Function.update_of_ne (Ne.symm (T.ne_coordinator worker))]
    exact ok.coordinator
  workers v other := by
    simp only [Cluster.settle]
    by_cases same : v = w
    · subst v
      simp only [Function.update_self]
      exact { good with sends := by simp }
    · simpa [same] using ok.workers v other
  up v other packet member := by
    simp only [Cluster.settle] at member
    split at member
    next own =>
      rcases List.mem_append.mp member with old | new
      · exact ok.up v other packet old
      · exact own.2 ▸ good.sends _ packet (mem_sentOn.mp new)
    · exact ok.up v other packet member
  down v other packet member := by
    simp only [Cluster.settle, T.ne_coordinator worker, and_false, if_false] at member
    exact ok.down v other packet member
  idle m := by
    simp only [Cluster.settle]
    by_cases same : m = w
    · subst m; simp
    · simpa [same] using ok.idle m

/-- A node other than by its threads' handlers: only its queue of fault messages grew. -/
theorem raise (ok : ClusterOk T s) {n p : Nat} (isWrite : Bool) (inRange : p < T.numPages) :
    ClusterOk T (s.raise n ⟨p, isWrite⟩) where
  coordinator := by
    simp only [Cluster.raise]
    by_cases same : n = T.coordinator
    · subst n
      simp only [Function.update_self]
      refine { ok.coordinator with requests := fun req member => ?_ }
      simp only [List.mem_append, List.mem_singleton] at member
      rcases member with queued | waiting | rfl
      · exact ok.coordinator.requests req (Or.inl queued)
      · exact ok.coordinator.requests req (Or.inr waiting)
      · exact inRange
    · simpa [Ne.symm same] using ok.coordinator
  workers w worker := by
    simp only [Cluster.raise]
    by_cases same : n = w
    · subst n
      simp only [Function.update_self]
      refine { ok.workers w worker with requests := fun req member => ?_ }
      simp only [List.mem_append, List.mem_singleton] at member
      rcases member with queued | waiting | rfl
      · exact (ok.workers w worker).requests req (Or.inl queued)
      · exact (ok.workers w worker).requests req (Or.inr waiting)
      · exact inRange
    · simpa [Ne.symm same] using ok.workers w worker
  up := ok.up
  down := ok.down
  idle m := by
    simp only [Cluster.raise]
    by_cases same : m = n
    · subst same; simpa using ok.idle m
    · simpa [same] using ok.idle m

theorem dropUp (ok : ClusterOk T s) {w : Nat} {packet : DsmPacket Page}
    {rest : List (DsmPacket Page)} (head : s.toCoordinator w = packet :: rest) :
    ClusterOk T { s with toCoordinator := Function.update s.toCoordinator w rest } :=
  { ok with
    up := fun v worker q member => by
      by_cases same : v = w
      · subst v
        simp only [Function.update_self] at member
        exact ok.up w worker q (head ▸ List.mem_cons_of_mem _ member)
      · simp only [Function.update_of_ne same] at member
        exact ok.up v worker q member }

theorem dropDown (ok : ClusterOk T s) {w : Nat} {packet : DsmPacket Page}
    {rest : List (DsmPacket Page)} (head : s.toWorker w = packet :: rest) :
    ClusterOk T { s with toWorker := Function.update s.toWorker w rest } :=
  { ok with
    down := fun v worker q member => by
      by_cases same : v = w
      · subst v
        simp only [Function.update_self] at member
        exact ok.down w worker q (head ▸ List.mem_cons_of_mem _ member)
      · simp only [Function.update_of_ne same] at member
        exact ok.down v worker q member }

/-- Settle whichever node took part. -/
theorem settle (ok : ClusterOk T s) {n : Nat} (member : n ∈ T.nodes) {node : Node Page}
    (coordinator : n = T.coordinator → CoordinatorOk T node)
    (worker : n ∈ T.workers → WorkerOk T n node) : ClusterOk T (s.settle T n node) := by
  rcases Finset.mem_insert.mp member with rfl | own
  · exact ok.settle_coordinator (coordinator rfl)
  · exact ok.settle_worker own (worker own)

variable [Zero Page]

theorem step (ok : ClusterOk T s) {e : Event Page} {t : Cluster Page}
    (next : s.step T e = some t) : ClusterOk T t := by
  cases e with
  | load n p =>
    obtain ⟨-, inRange, ⟨-, rfl⟩ | ⟨-, rfl⟩⟩ := Cluster.loadStep_cases next
    · exact ok
    · exact ok.raise false inRange
  | store n p contents =>
    obtain ⟨member, inRange, ⟨-, rfl⟩ | ⟨-, rfl⟩⟩ := Cluster.storeStep_cases next
    · apply ok.settle member
      · rintro rfl; exact ok.coordinator.setMapping _ _
      · exact fun worker => (ok.workers n worker).setMapping _ _
    · exact ok.raise true inRange
  | fault n =>
    obtain ⟨member, fault, rest, waiting, rfl⟩ := Cluster.faultStep_cases next
    have present : fault ∈ (s.node n).uffdMessages := by simp [waiting]
    have fewer : ∀ req, req ∈ (s.node n).sharedReqQueue ∨ req ∈ rest →
        req ∈ (s.node n).sharedReqQueue ∨ req ∈ (s.node n).uffdMessages := by
      intro req found
      rw [waiting]
      exact found.imp_right (List.mem_cons_of_mem _)
    apply ok.settle member
    · rintro rfl
      exact (ok.coordinator.setRequests _ _ fewer).handleFault fault
        (ok.coordinator.requests fault (Or.inr present))
    · intro worker
      exact ((ok.workers n worker).setRequests _ _ fewer).handleFault fault
        ((ok.workers n worker).requests fault (Or.inr present))
  | drain n =>
    obtain ⟨member, req, rest, queue, rfl⟩ := Cluster.drainStep_cases next
    have fewer : ∀ q, q ∈ rest ∨ q ∈ (s.node n).uffdMessages →
        q ∈ (s.node n).sharedReqQueue ∨ q ∈ (s.node n).uffdMessages := by
      intro q found
      rw [queue]
      exact found.imp_left (List.mem_cons_of_mem _)
    apply ok.settle member
    · rintro rfl
      exact (ok.coordinator.setRequests _ _ fewer).serveQueuedRequest req
    · intro worker
      exact ((ok.workers n worker).setRequests _ _ fewer).serveQueuedRequest worker req
  | toCoordinator w =>
    obtain ⟨worker, packet, rest, node, head, handled, rfl⟩ := Cluster.toCoordinatorStep_cases next
    have up := ok.up w worker packet (by simp [head])
    exact (ok.dropUp head).settle_coordinator
      (ok.coordinator.dispatchPacket worker packet up handled)
  | toWorker w =>
    obtain ⟨worker, packet, rest, node, head, handled, rfl⟩ := Cluster.toWorkerStep_cases next
    have down := ok.down w worker packet (by simp [head])
    exact (ok.dropDown head).settle_worker worker
      ((ok.workers w worker).dispatchPacket worker packet down handled)
  | evict w =>
    obtain ⟨worker, result, swept, rfl⟩ := Cluster.evictStep_cases next
    exact ok.settle_worker worker ((ok.workers w worker).evictionSweep worker _ _ swept)

theorem initial (T : Topology) : ClusterOk T (Cluster.initial T : Cluster Page) where
  coordinator :=
    { id := rfl
      pages := rfl
      fd := by simp [Cluster.initial, Node.boot, T.coordinator_not_worker]
      fds := fun _ => Or.inl rfl
      entries := gpdInit_wellFormed T.numPages
      holders := fun p m member => absurd member (Finset.notMem_empty m)
      slots := fun _ => Or.inl rfl
      requests := by simp [Cluster.initial, Node.boot]
      sends := by simp [Cluster.initial, Node.boot] }
  workers w worker :=
    { id := rfl
      pages := rfl
      fd := by simp [Cluster.initial, Node.boot, worker]
      entries := fun p => ⟨by simp [Cluster.initial, Node.boot, gpdInit], rfl,
        by simp [Cluster.initial, Node.boot, gpdInit]⟩
      requests := by simp [Cluster.initial, Node.boot]
      sends := by simp [Cluster.initial, Node.boot] }
  up w worker packet member := by
    simp only [Cluster.initial, worker, if_true, List.mem_singleton] at member
    subst member
    exact ⟨rfl, by simp⟩
  down w _ packet member := absurd member (List.not_mem_nil)
  idle _ := rfl

end ClusterOk

/-- Every reachable cluster is well formed. -/
theorem clusterOk_of_run [Zero Page] {T : Topology} {allow : Cluster Page → Event Page → Prop}
    {s : Cluster Page} (run : Runs.Run (Cluster.step T) allow (Cluster.initial T) s) :
    ClusterOk T s :=
  run.invariant (ClusterOk T) (ClusterOk.initial T) fun _ _ _ ok _ next => ok.step next

/-- An eviction puts nothing on any link and touches its own node alone. -/
theorem evict_rest {T : Topology} {s t : Cluster Page} (ok : ClusterOk T s) {w : Nat}
    (next : s.evictStep T w = some t) : t.toCoordinator = s.toCoordinator ∧
      t.toWorker = s.toWorker ∧ ∀ m ≠ w, t.node m = s.node m := by
  obtain ⟨worker, result, swept, rfl⟩ := Cluster.evictStep_cases next
  have quiet : result.1.effects = [] :=
    ((ok.workers w worker).evictionSweep_effects worker _ _ swept).trans (ok.idle w)
  refine ⟨?_, ?_, fun m other => Function.update_of_ne other _ _⟩
  · funext v
    simp [Cluster.settle, quiet, sentOn]
  · funext v
    simp [Cluster.settle, quiet, sentOn]

/-! ### Outside of the topology -/

/-- Nothing is queued or in flight where there is no node. -/
structure Bare (T : Topology) (s : Cluster Page) : Prop where
  queue : ∀ n ∉ T.nodes, (s.node n).sharedReqQueue = []
  up : ∀ w ∉ T.workers, s.toCoordinator w = []
  down : ∀ w ∉ T.workers, s.toWorker w = []

namespace Bare

variable {T : Topology} {s t : Cluster Page}

theorem settle (bare : Bare T s) {n : Nat} (member : n ∈ T.nodes) (node : Node Page) :
    Bare T (s.settle T n node) where
  queue m outside := by
    have apart : m ≠ n := fun same => outside (same ▸ member)
    simpa [Cluster.settle, apart] using bare.queue m outside
  up w outside := by simpa [Cluster.settle, outside] using bare.up w outside
  down w outside := by simpa [Cluster.settle, outside] using bare.down w outside

theorem raise (bare : Bare T s) {n : Nat} (member : n ∈ T.nodes) (fault : PageRequest) :
    Bare T (s.raise n fault) :=
  { bare with
    queue := by
      intro m outside
      have apart : m ≠ n := fun same => outside (same ▸ member)
      simpa [Cluster.raise, apart] using bare.queue m outside }

theorem popUp (bare : Bare T s) {w : Nat} (worker : w ∈ T.workers) (rest : List (DsmPacket Page)) :
    Bare T { s with toCoordinator := Function.update s.toCoordinator w rest } :=
  { bare with
    up := by
      intro v outside
      have apart : v ≠ w := fun same => outside (same ▸ worker)
      simpa [apart] using bare.up v outside }

theorem popDown (bare : Bare T s) {w : Nat} (worker : w ∈ T.workers) (rest : List (DsmPacket Page)) :
    Bare T { s with toWorker := Function.update s.toWorker w rest } :=
  { bare with
    down := by
      intro v outside
      have apart : v ≠ w := fun same => outside (same ▸ worker)
      simpa [apart] using bare.down v outside }

variable [Zero Page]

theorem initial (T : Topology) : Bare T (Cluster.initial T : Cluster Page) where
  queue _ _ := rfl
  up w outside := by simp [Cluster.initial, outside]
  down _ _ := rfl

theorem step (bare : Bare T s) {e : Event Page} (next : s.step T e = some t) : Bare T t := by
  cases e with
  | load n p =>
    obtain ⟨member, -, ⟨-, rfl⟩ | ⟨-, rfl⟩⟩ := Cluster.loadStep_cases next
    · exact bare
    · exact bare.raise member _
  | store n p page =>
    obtain ⟨member, -, ⟨-, rfl⟩ | ⟨-, rfl⟩⟩ := Cluster.storeStep_cases next
    · exact bare.settle member _
    · exact bare.raise member _
  | fault n =>
    obtain ⟨member, _, _, -, rfl⟩ := Cluster.faultStep_cases next
    exact bare.settle member _
  | drain n =>
    obtain ⟨member, _, _, -, rfl⟩ := Cluster.drainStep_cases next
    exact bare.settle member _
  | toCoordinator w =>
    obtain ⟨worker, _, _, node, -, -, rfl⟩ := Cluster.toCoordinatorStep_cases next
    exact (bare.popUp worker _).settle T.coordinator_mem node
  | toWorker w =>
    obtain ⟨worker, _, _, node, -, -, rfl⟩ := Cluster.toWorkerStep_cases next
    exact (bare.popDown worker _).settle (T.worker_mem worker) node
  | evict w =>
    obtain ⟨worker, result, -, rfl⟩ := Cluster.evictStep_cases next
    exact bare.settle (T.worker_mem worker) _

end Bare

theorem bare_of_run [Zero Page] {T : Topology} {allow : Cluster Page → Event Page → Prop}
    {s : Cluster Page} (run : Runs.Run (Cluster.step T) allow (Cluster.initial T) s) : Bare T s :=
  run.invariant (Bare T) (Bare.initial T) fun _ _ _ bare _ next => bare.step next

end TeleportVM
