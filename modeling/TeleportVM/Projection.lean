import TeleportVM.Protocol
import TeleportVM.WellFormed

/-!
What a cluster looks like from one page, and how the operations of a node act on it.
`coordinatorView` and `workerView` show the page after a node gave up its thread in a
given state; every operation on the node is then an operation on the view.
-/
namespace TeleportVM

variable {Page : Type}

def upMsg (p : Nat) (packet : DsmPacket Page) : Option (Msg Page) :=
  if packet.pageIndex = p then
    match packet.type with
    | .requestPageRead => some (.request false)
    | .requestPageWrite => some (.request true)
    | .sendPage => some (.page packet.payload)
    | .invalidateAck => some .ack
    | _ => none
  else none

def downMsg (p : Nat) (packet : DsmPacket Page) : Option (Msg Page) :=
  if packet.pageIndex = p then
    match packet.type with
    | .requestPageRead => some .fetch
    | .sendPage => some (.page packet.payload)
    | .invalidate => some .invalidate
    | _ => none
  else none

/-- The queued requests for a page. -/
def queuedFor (p : Nat) (queue : List PageRequest) : List Bool :=
  queue.filterMap fun req => if req.pageIndex = p then some req.isWrite else none

/-- The workers whose descriptor a node knows. -/
def joinedWorkers (T : Topology) (nodeFds : Nat → Int) : Finset Nat :=
  T.workers.filter fun w => nodeFds w ≠ -1

def Cluster.pageState (T : Topology) (p : Nat) (s : Cluster Page) : PageState Page where
  entry := s.entry T p
  slot := s.slot T p
  joined := joinedWorkers T (s.node T.coordinator).nodeFds
  status n := (s.node n).pageTable p
  mapping n := (s.node n).mapping p
  queued n := queuedFor p (s.node n).sharedReqQueue
  up w := (s.toCoordinator w).filterMap (upMsg p)
  down w := (s.toWorker w).filterMap (downMsg p)

/-! ### Sends -/

@[simp] theorem sentOn_nil (fd : Int) : sentOn fd ([] : List (Effect Page)) = [] := rfl

@[simp] theorem sentOn_append (fd : Int) (a b : List (Effect Page)) :
    sentOn fd (a ++ b) = sentOn fd a ++ sentOn fd b := List.filterMap_append

@[simp] theorem sentOn_send (fd f : Int) (packet : DsmPacket Page) :
    sentOn fd [.send f packet] = if f = fd then [packet] else [] := by
  by_cases same : f = fd <;> simp [sentOn, same]

@[simp] theorem sentOn_copy (fd : Int) (p : Nat) (page : Page) :
    sentOn fd [.uffdioCopy p page] = [] := rfl

@[simp] theorem sentOn_unprotect (fd : Int) (p : Nat) :
    sentOn fd ([.uffdioUnprotect p] : List (Effect Page)) = [] := rfl

/-- A packet for one worker is on the link of that worker only. -/
theorem sentOn_accepted (T : Topology) (packet : DsmPacket Page) {r w : Nat} (own : r ∈ T.workers)
    (worker : w ∈ T.workers) :
    sentOn (T.acceptedFd w) [.send (T.acceptedFd r) packet] = if w = r then [packet] else [] := by
  rw [sentOn_send]
  by_cases same : w = r
  · simp [same]
  · rw [if_neg fun equal => same (T.acceptedFd_injective r own w worker equal).symm, if_neg same]

/-- Sending one packet to each node of a list puts it once on the link of each of them. -/
theorem sentOn_each (T : Topology) (nodeFds : Nat → Int) (packet : DsmPacket Page)
    (targets : List Nat) (unique : targets.Nodup)
    (own : ∀ m ∈ targets, m ∈ T.workers ∧ nodeFds m = T.acceptedFd m) {w : Nat}
    (worker : w ∈ T.workers) :
    sentOn (T.acceptedFd w) (targets.map fun m => Effect.send (nodeFds m) packet) =
      if w ∈ targets then [packet] else [] := by
  induction targets with
  | nil => rfl
  | cons m rest ih =>
    obtain ⟨fresh, unique⟩ := List.nodup_cons.mp unique
    have tail := ih unique fun k member => own k (List.mem_cons_of_mem _ member)
    obtain ⟨other, fd⟩ := own m List.mem_cons_self
    have split : sentOn (T.acceptedFd w) ((m :: rest).map fun m => Effect.send (nodeFds m) packet) =
        sentOn (T.acceptedFd w) [.send (nodeFds m) packet] ++
          sentOn (T.acceptedFd w) (rest.map fun m => Effect.send (nodeFds m) packet) := by
      rw [← sentOn_append]; rfl
    rw [split, tail, sentOn_send, fd]
    by_cases same : m = w
    · subst m; simp [fresh]
    · have apart : T.acceptedFd m ≠ T.acceptedFd w :=
        fun equal => same (T.acceptedFd_injective m other w worker equal)
      simp [apart, Ne.symm same]

/-! ### The page after the coordinator gave up its thread -/

/-- The page as it stands when the coordinator gives up its thread in state `n`. -/
def coordinatorView (T : Topology) (p : Nat) (s : Cluster Page) (n : Node Page) : PageState Page :=
  (s.settle T T.coordinator n).pageState T p

section Coordinator

variable (T : Topology) (p : Nat) (s : Cluster Page) (n : Node Page)

theorem coordinatorView_eq : coordinatorView T p s n =
    { entry := n.directory.entry p
      slot := n.gpdPendingReqs p
      joined := joinedWorkers T n.nodeFds
      status := Function.update (s.pageState T p).status T.coordinator (n.pageTable p)
      mapping := Function.update (s.pageState T p).mapping T.coordinator (n.mapping p)
      queued := Function.update (s.pageState T p).queued T.coordinator (queuedFor p n.sharedReqQueue)
      up := (s.pageState T p).up
      down := fun w =>
        if w ∈ T.workers then
          (s.pageState T p).down w ++ (sentOn (T.acceptedFd w) n.effects).filterMap (downMsg p)
        else (s.pageState T p).down w } := by
  simp only [coordinatorView, Cluster.pageState, Cluster.settle, Cluster.entry, Cluster.slot,
    Function.update_self, PageState.mk.injEq, true_and]
  refine ⟨?_, ?_, ?_, ?_, ?_⟩
  · funext m
    by_cases same : m = T.coordinator
    · subst same; simp
    · simp [same]
  · funext m
    by_cases same : m = T.coordinator
    · subst same; simp
    · simp [same]
  · funext m
    by_cases same : m = T.coordinator
    · subst same; simp
    · simp [same]
  · funext w
    by_cases worker : w ∈ T.workers
    · simp [worker, T.ne_coordinator worker]
    · simp [worker]
  · funext w
    by_cases worker : w ∈ T.workers <;> simp [worker]

@[simp] theorem coordinatorView_entry :
    (coordinatorView T p s n).entry = n.directory.entry p := by rw [coordinatorView_eq]

@[simp] theorem coordinatorView_slot :
    (coordinatorView T p s n).slot = n.gpdPendingReqs p := by rw [coordinatorView_eq]

@[simp] theorem coordinatorView_joined :
    (coordinatorView T p s n).joined = joinedWorkers T n.nodeFds := by rw [coordinatorView_eq]

@[simp] theorem coordinatorView_status :
    (coordinatorView T p s n).status T.coordinator = n.pageTable p := by
  rw [coordinatorView_eq]; exact Function.update_self _ _ _

@[simp] theorem coordinatorView_mapping :
    (coordinatorView T p s n).mapping T.coordinator = n.mapping p := by
  rw [coordinatorView_eq]; exact Function.update_self _ _ _

@[simp] theorem view_setStatus (st : PageStatus) : coordinatorView T p s (n.setStatus p st) =
    (coordinatorView T p s n).setStatus T.coordinator st := by
  simp [coordinatorView_eq, Node.setStatus, PageState.setStatus]

@[simp] theorem view_setMapping (m : Mapping Page) : coordinatorView T p s (n.setMapping p m) =
    (coordinatorView T p s n).setMapping T.coordinator m := by
  simp [coordinatorView_eq, Node.setMapping, PageState.setMapping]

@[simp] theorem view_setPending (slot : CoordPending Page) :
    coordinatorView T p s (n.setPending p slot) = (coordinatorView T p s n).setSlot slot := by
  simp [coordinatorView_eq, Node.setPending, PageState.setSlot]

@[simp] theorem view_dsmMarkAccessed (q : Nat) :
    coordinatorView T p s (n.dsmMarkAccessed q) = coordinatorView T p s n := by
  simp [coordinatorView_eq, Node.dsmMarkAccessed]

@[simp] theorem view_installPage (page : Page) : coordinatorView T p s (n.installPage p page) =
    (coordinatorView T p s n).install T.coordinator page := by
  simp [coordinatorView_eq, Node.installPage, Node.dsmMarkAccessed, PageState.install,
    PageState.setMapping, PageState.setStatus]

@[simp] theorem view_liftWriteProtection : coordinatorView T p s (n.liftWriteProtection p) =
    (coordinatorView T p s n).lift T.coordinator := by
  simp [coordinatorView_eq, Node.liftWriteProtection, PageState.lift, PageState.setMapping,
    PageState.setStatus]

theorem view_invalidateLocalPageCopy (inRange : p < n.numPages) :
    coordinatorView T p s (n.invalidateLocalPageCopy p) =
      (coordinatorView T p s n).drop T.coordinator := by
  simp [coordinatorView_eq, Node.invalidateLocalPageCopy, Nat.not_le.mpr inRange, PageState.drop,
    PageState.setMapping, PageState.setStatus]

/-- Only a valid copy is write-protected. -/
theorem view_writeprotectLocalPageCopy (inRange : p < n.numPages) (valid : n.pageTable p = .valid) :
    coordinatorView T p s (n.writeprotectLocalPageCopy p) =
      (coordinatorView T p s n).setMapping T.coordinator (n.mapping p).protect := by
  simp [coordinatorView_eq, Node.writeprotectLocalPageCopy, Nat.not_le.mpr inRange, valid,
    PageState.setMapping]

theorem view_queue (queue : List PageRequest) :
    coordinatorView T p s { n with sharedReqQueue := queue } =
      { coordinatorView T p s n with
        queued := Function.update (coordinatorView T p s n).queued T.coordinator
          (queuedFor p queue) } := by
  simp [coordinatorView_eq]

theorem view_setEntry (e : GpdEntry) :
    coordinatorView T p s (n.setEntry p e) = (coordinatorView T p s n).setEntry e := by
  simp [coordinatorView_eq, Node.setEntry, PageState.setEntry]

theorem transitionToShared_eq (r : Nat) (inRange : p < n.numPages) : n.transitionToShared p r =
    (n.setEntry p ((n.directory.entry p).toShared r), (n.directory.entry p).ownerNodeId) := by
  simp [Node.transitionToShared, Node.setEntry, gpdTransitionToShared_eq n.directory p r inRange]

theorem transitionToModified_eq (w : Nat) (inRange : p < n.numPages) : n.transitionToModified p w =
    (n.setEntry p (.ownedBy w), (n.directory.entry p).invalidateMask w) := by
  simp [Node.transitionToModified, Node.setEntry, gpdTransitionToModified_eq n.directory p w inRange]

theorem view_send {w : Nat} (worker : w ∈ T.workers) (packet : DsmPacket Page) (m : Msg Page)
    (decoded : downMsg p packet = some m) :
    coordinatorView T p s (n.sendAllNonblocking (T.acceptedFd w) packet) =
      (coordinatorView T p s n).post w m := by
  simp only [coordinatorView_eq, Node.sendAllNonblocking, PageState.post, PageState.mk.injEq,
    true_and]
  funext v
  by_cases other : v ∈ T.workers
  · by_cases same : v = w
    · subst same; simp [other, decoded]
    · have apart : T.acceptedFd w ≠ T.acceptedFd v :=
        fun equal => same (T.acceptedFd_injective v other w worker equal.symm)
      simp [other, same, apart]
  · have apart : v ≠ w := fun same => other (same ▸ worker)
    simp [other, apart]

theorem view_sendInvalidations [Zero Page] (list : List Nat) (targets : Finset Nat)
    (unique : list.Nodup) (same : ∀ m, m ∈ list ↔ m ∈ targets)
    (own : ∀ m ∈ list, m ∈ T.workers ∧ n.nodeFds m = T.acceptedFd m) :
    coordinatorView T p s (n.sendInvalidations p list) =
      (coordinatorView T p s n).broadcast targets := by
  simp only [coordinatorView_eq, Node.sendInvalidations, PageState.broadcast, PageState.mk.injEq,
    true_and]
  funext v
  by_cases worker : v ∈ T.workers
  · by_cases target : v ∈ targets
    · simp [worker, target, sentOn_each T n.nodeFds _ list unique own worker, same v,
        downMsg, Node.invalidatePacket]
    · simp [worker, target, sentOn_each T n.nodeFds _ list unique own worker, same v]
  · have absent : v ∉ targets := fun member => worker (own v ((same v).mpr member)).1
    simp [worker, absent]

end Coordinator

/-! ### The page after a worker gave up its thread -/

/-- The page as it stands when worker `w` gives up its thread in state `n`. -/
def workerView (T : Topology) (p : Nat) (s : Cluster Page) (w : Nat) (n : Node Page) :
    PageState Page :=
  (s.settle T w n).pageState T p

section Worker

variable (T : Topology) (p : Nat) (s : Cluster Page) (n : Node Page) {w : Nat}
  (worker : w ∈ T.workers)
include worker

theorem workerView_eq : workerView T p s w n =
    { s.pageState T p with
      status := Function.update (s.pageState T p).status w (n.pageTable p)
      mapping := Function.update (s.pageState T p).mapping w (n.mapping p)
      queued := Function.update (s.pageState T p).queued w (queuedFor p n.sharedReqQueue)
      up := Function.update (s.pageState T p).up w
        ((s.pageState T p).up w ++ (sentOn (T.connectFd w) n.effects).filterMap (upMsg p)) } := by
  have apart := T.ne_coordinator worker
  simp only [workerView, Cluster.pageState, Cluster.settle, Cluster.entry, Cluster.slot,
    Function.update_of_ne (Ne.symm apart), apart, and_false, if_false, PageState.mk.injEq, true_and]
  refine ⟨?_, ?_, ?_, ?_, trivial⟩
  · funext m
    by_cases same : m = w
    · subst same; simp
    · simp [same]
  · funext m
    by_cases same : m = w
    · subst same; simp
    · simp [same]
  · funext m
    by_cases same : m = w
    · subst same; simp
    · simp [same]
  · funext v
    by_cases same : v = w
    · subst same; simp [worker]
    · simp [same]

theorem workerView_send (packet : DsmPacket Page) (m : Msg Page)
    (decoded : upMsg p packet = some m) :
    workerView T p s w (n.sendAllNonblocking (T.connectFd w) packet) =
      { workerView T p s w n with
        up := Function.update (workerView T p s w n).up w
          ((workerView T p s w n).up w ++ [m]) } := by
  simp [workerView_eq T p s _ worker, Node.sendAllNonblocking, decoded]

theorem workerView_setStatus (st : PageStatus) : workerView T p s w (n.setStatus p st) =
    (workerView T p s w n).setStatus w st := by
  simp [workerView_eq T p s _ worker, Node.setStatus, PageState.setStatus]

theorem workerView_setMapping (m : Mapping Page) : workerView T p s w (n.setMapping p m) =
    (workerView T p s w n).setMapping w m := by
  simp [workerView_eq T p s _ worker, Node.setMapping, PageState.setMapping]

theorem workerView_queue (queue : List PageRequest) :
    workerView T p s w { n with sharedReqQueue := queue } =
      { workerView T p s w n with
        queued := Function.update (workerView T p s w n).queued w (queuedFor p queue) } := by
  simp [workerView_eq T p s _ worker]

theorem workerView_accept (packet : DsmPacket Page) (own : packet.pageIndex = p) :
    workerView T p s w (n.acceptPage packet) =
      (workerView T p s w n).accept w packet.payload := by
  subst own
  unfold Node.acceptPage PageState.accept
  simp only [workerView_eq T _ s _ worker, Function.update_self]
  cases h : n.pageTable packet.pageIndex <;>
    simp [h, Node.liftWriteProtection, Node.installPage, Node.dsmMarkAccessed, PageState.lift,
      PageState.install, PageState.setMapping, PageState.setStatus]

theorem workerView_drop (p' : Nat) (own : p' = p) :
    workerView T p s w ((n.setMapping p' .unmapped).setStatus p' .empty) =
      (workerView T p s w n).drop w := by
  subst own
  simp [workerView_eq T _ s _ worker, Node.setMapping, Node.setStatus, PageState.drop,
    PageState.setMapping, PageState.setStatus]

end Worker

end TeleportVM
