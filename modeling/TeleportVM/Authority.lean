import TeleportVM.Failures

/-!
Whose directory decides. A node takes itself for the coordinator whenever its `coordinator_fd`
is -1, so a worker keeps to its own role only while it never has to serve one of its own faults
without that descriptor.
-/
namespace TeleportVM

variable {Page : Type} [Zero Page]

namespace Node

variable {T : Topology} {w : Nat} {n : Node Page}

/-- A request that a node without a coordinator resolves by itself: anything but a read of a
page it treats as present. -/
def Resolves (n : Node Page) (req : PageRequest) : Prop :=
  req.isWrite = true ∨ ¬ (n.pageTable req.pageIndex = .valid ∨ n.pageTable req.pageIndex = .writePending)

instance (n : Node Page) (req : PageRequest) : Decidable (n.Resolves req) :=
  inferInstanceAs (Decidable (_ ∨ _))

omit [Zero Page] in
theorem transitionToModified_entry (n : Node Page) {idx : Nat} (inRange : idx < n.numPages)
    (writer : Nat) : (n.transitionToModified idx writer).1.directory.entry idx = .ownedBy writer := by
  simp [transitionToModified, gpdTransitionToModified_eq _ _ _ inRange, Directory.setEntry]

omit [Zero Page] in
theorem transitionToShared_entry (n : Node Page) {idx : Nat} (inRange : idx < n.numPages)
    (reader : Nat) : (n.transitionToShared idx reader).1.directory.entry idx =
      (n.directory.entry idx).toShared reader := by
  simp [transitionToShared, gpdTransitionToShared_eq _ _ _ inRange, Directory.setEntry]

/-- With a coordinator to ask, the engine only sends the request on. -/
theorem serveQueuedRequest_connected (n : Node Page) (connected : n.coordinatorFd ≠ -1) (req : PageRequest) :
    n.serveQueuedRequest req = n.sendAllNonblocking n.coordinatorFd
      ⟨requestType req.isWrite, req.pageIndex, n.localNodeId, 0⟩ := by
  simp only [serveQueuedRequest, connected, ne_eq, not_false_eq_true, if_true]

/-- Without one, and with no owner known, a node that resolves a request lists itself. -/
theorem serveQueuedRequest_entry (n : Node Page) (alone : n.coordinatorFd = -1) {req : PageRequest}
    (inRange : req.pageIndex < n.numPages) (unowned : gpdGetOwner n.directory req.pageIndex = 0)
    (resolves : n.Resolves req) :
    (n.serveQueuedRequest req).directory.entry req.pageIndex =
      if req.isWrite then .ownedBy n.localNodeId
      else (n.directory.entry req.pageIndex).toShared n.localNodeId := by
  simp only [serveQueuedRequest, alone, ne_eq, not_true_eq_false, if_false]
  split
  next present =>
    have write : req.isWrite = true := resolves.resolve_right fun absent => absent present
    rw [if_pos write, if_pos write]
    unfold upgradeLocalCopy
    dsimp only
    split
    · exact n.transitionToModified_entry inRange _
    · exact n.transitionToModified_entry inRange _
  next absent =>
    rw [if_neg (by simp [unowned])]
    unfold zeroFillLocal
    dsimp only
    split
    · exact (n.installPage req.pageIndex 0).transitionToModified_entry inRange _
    · exact (n.installPage req.pageIndex 0).transitionToShared_entry inRange _

theorem serveQueuedRequest_spares (n : Node Page) (alone : n.coordinatorFd = -1) {req : PageRequest}
    (spares : ¬ n.Resolves req) : n.serveQueuedRequest req = n := by
  obtain ⟨read, present⟩ := not_or.mp spares
  simp only [serveQueuedRequest, alone, ne_eq, not_true_eq_false, if_false]
  rw [if_pos (not_not.mp present), if_neg read]

end Node

/-- A directory that lists a worker is a coordinator's. -/
theorem not_foreign_of_listed {T : Topology} {w : Nat} (worker : w ∈ T.workers) (e : GpdEntry)
    (isWrite : Bool) : ¬ (if isWrite then GpdEntry.ownedBy w else e.toShared w).Foreign T := by
  rintro ⟨unowned, -, listed⟩
  cases isWrite with
  | true => exact unowned rfl
  | false =>
    -- a worker that takes the page by itself enters its own bit
    have member : w ∈ Bitmap.members (e.toShared w).sharedNodesBitmap := by
      rw [Bitmap.mem_members]
      unfold GpdEntry.toShared
      split <;> simp [Bitmap.getLsbD_bit, (T.workers_valid w worker).lt]
    exact T.ne_coordinator worker (Finset.mem_singleton.mp (listed member))

/-- A connected worker records no transaction, whatever the coordinator sends it. -/
theorem WorkerOk.dispatchPacket_pending {T : Topology} {w : Nat} {n n' : Node Page}
    (ok : WorkerOk T w n) (worker : w ∈ T.workers) (packet : DsmPacket Page)
    (down : DownPacket T packet) (handled : n.dispatchPacket (T.connectFd w) packet = some n') :
    n'.gpdPendingReqs = n.gpdPendingReqs := by
  cases ok.takes worker down handled with
  | outside | invalidate | fetch => rfl
  | page =>
    unfold Node.acceptPage
    dsimp only
    split <;> rfl

/-! ### Steps of a cluster whose connections may be gone -/

namespace Cluster

/-- The workers' pending transactions are as they were. -/
def KeepsPending (T : Topology) (s t : Cluster Page) : Prop :=
  ∀ w ∈ T.workers, (t.node w).gpdPendingReqs = (s.node w).gpdPendingReqs

/-- A worker without its coordinator pops a request that it then resolves by itself. -/
def DecidesAlone (T : Topology) (s : Cluster Page) : Event Page → Prop
  | .drain w => w ∈ T.workers ∧ (s.node w).coordinatorFd = -1 ∧
      ∃ req ∈ (s.node w).sharedReqQueue.head?, (s.node w).Resolves req
  | _ => False

omit [Zero Page] in
theorem keepsPending_move {T : Topology} (s : Cluster Page) (m : Nat) (node : Node Page)
    (kept : m ∈ T.workers → node.gpdPendingReqs = (s.node m).gpdPendingReqs) (t : Cluster Page)
    (moved : t.node = Function.update s.node m node) : s.KeepsPending T t := by
  intro w worker
  rw [moved]
  by_cases same : w = m
  · subst same
    rw [Function.update_self]
    exact kept worker
  · rw [Function.update_of_ne same]

end Cluster

namespace RolesOk

variable {T : Topology} {s t : Cluster Page}

omit [Zero Page] in
/-- One node takes its turn. -/
theorem turn (ok : RolesOk T s) {n : Nat} {node : Node Page}
    (coordinator : n = T.coordinator → CoordinatorRole T node)
    (worker : n ∈ T.workers → WorkerRole T n node ∧
      node.gpdPendingReqs = (s.node n).gpdPendingReqs) :
    RolesOk T (s.settle T n node) ∧ s.KeepsPending T (s.settle T n node) := by
  constructor
  · exact ok.settle coordinator fun member => (worker member).1
  · exact s.keepsPending_move n { node with effects := [] } (fun member => (worker member).2) _ rfl

omit [Zero Page] in
theorem raise_keeps (ok : RolesOk T s) {n p : Nat} (isWrite : Bool) (inRange : p < T.numPages) :
    RolesOk T (s.raise n ⟨p, isWrite⟩) ∧ s.KeepsPending T (s.raise n ⟨p, isWrite⟩) := by
  constructor
  · exact ok.raise isWrite inRange
  · exact s.keepsPending_move n ((s.node n).raise ⟨p, isWrite⟩) (fun _ => rfl) _ rfl

/-- Every step keeps the roles and the workers' pending transactions, unless it is a decision
that a worker takes alone. -/
theorem step (ok : RolesOk T s) {e : Event Page}
    (received : ∀ w, e = .toWorker w → (s.node w).coordinatorFd ≠ -1)
    (defers : ¬ s.DecidesAlone T e) (next : s.step T e = some t) :
    RolesOk T t ∧ s.KeepsPending T t := by
  cases e with
  | load n p =>
    obtain ⟨-, inRange, ⟨-, rfl⟩ | ⟨-, rfl⟩⟩ := Cluster.loadStep_cases next
    · exact ⟨ok, fun _ _ => rfl⟩
    · exact ok.raise_keeps false inRange
  | store n p contents =>
    obtain ⟨-, inRange, ⟨-, rfl⟩ | ⟨-, rfl⟩⟩ := Cluster.storeStep_cases next
    · apply ok.turn
      · rintro rfl
        exact { ok.coordinator with }
      · exact fun worker => ⟨(ok.workers n worker).setMapping _ _, rfl⟩
    · exact ok.raise_keeps true inRange
  | fault n =>
    obtain ⟨-, fault, rest, waiting, rfl⟩ := Cluster.faultStep_cases next
    apply ok.turn
    · rintro rfl
      exact (ok.coordinator.setRequests _ rest).handleFault fault
    · intro worker
      have role := ok.workers n worker
      refine ⟨?_, (Node.handleFault_role _ fault).2⟩
      apply (role.setRequests (s.node n).sharedReqQueue rest ?_).handleFault
      · exact role.worker.requests fault (Or.inr (by simp [Node.reassigned, waiting]))
      · intro req found
        rw [waiting]
        exact found.imp_right (List.mem_cons_of_mem _)
  | drain n =>
    obtain ⟨-, req, rest, queue, rfl⟩ := Cluster.drainStep_cases next
    apply ok.turn
    · rintro rfl
      exact (ok.coordinator.setRequests rest _).serveQueuedRequest req
    · intro worker
      have popped := (ok.workers n worker).setRequests rest (s.node n).uffdMessages (by
        intro q found
        rw [queue]
        exact found.imp_left (List.mem_cons_of_mem _))
      -- a worker that has lost its coordinator decides itself, which `defers` excludes
      by_cases alone : (s.node n).coordinatorFd = -1
      · have spares : ¬ (s.node n).Resolves req :=
          fun resolves => defers ⟨worker, alone, req, by simp [queue], resolves⟩
        rw [Node.serveQueuedRequest_spares { s.node n with sharedReqQueue := rest } alone spares]
        exact ⟨popped, rfl⟩
      · refine ⟨.ofConnected ((popped.connected alone).serveQueuedRequest worker req), ?_⟩
        rw [Node.serveQueuedRequest_connected { s.node n with sharedReqQueue := rest } alone]
        rfl
  | toCoordinator w =>
    obtain ⟨worker, packet, rest, node, head, handled, rfl⟩ := Cluster.toCoordinatorStep_cases next
    apply (ok.popUp head).turn
    · exact fun _ => ok.coordinator.dispatchPacket _ packet (ok.up w worker packet (by simp [head]))
        handled
    · exact fun absurdity => absurd absurdity T.coordinator_not_worker
  | toWorker w =>
    obtain ⟨worker, packet, rest, node, head, handled, rfl⟩ := Cluster.toWorkerStep_cases next
    have connected := (ok.workers w worker).connected (received w rfl)
    have down := ok.down w worker packet (by simp [head])
    apply (ok.popDown head).turn
    · exact fun same => absurd same (T.ne_coordinator worker)
    · exact fun _ => ⟨.ofConnected (connected.dispatchPacket worker packet down handled),
        connected.dispatchPacket_pending worker packet down handled⟩
  | evict w =>
    obtain ⟨worker, result, swept, rfl⟩ := Cluster.evictStep_cases next
    apply ok.turn
    · exact fun same => absurd same (T.ne_coordinator worker)
    · exact fun _ => ⟨(ok.workers w worker).evictionSweep worker _ _ swept,
        (Node.evictionSweep_role swept).2⟩

/-- A worker serves one of its own faults with its own mapping and directory exactly if it
decides alone. -/
theorem resolves_iff (ok : RolesOk T s) {w : Nat} (worker : w ∈ T.workers)
    (next : s.step T (.drain w) = some t) :
    (t.node w).mapping = (s.node w).mapping ∧ (t.node w).directory = (s.node w).directory ↔
      ¬ s.DecidesAlone T (.drain w) := by
  have role := ok.workers w worker
  obtain ⟨-, req, rest, queue, rfl⟩ := Cluster.drainStep_cases next
  simp only [Cluster.settle, Function.update_self]
  by_cases alone : (s.node w).coordinatorFd = -1
  · by_cases resolves : (s.node w).Resolves req
    · refine iff_of_false ?_ (not_not.mpr ⟨worker, alone, req, by simp [queue], resolves⟩)
      rintro ⟨-, same⟩
      have inRange : req.pageIndex < (s.node w).numPages := by
        rw [show (s.node w).numPages = T.numPages from role.worker.pages]
        exact role.worker.requests req (Or.inl (by simp [Node.reassigned, queue]))
      have listed := Node.serveQueuedRequest_entry
        { s.node w with sharedReqQueue := rest } alone inRange
        (role.worker.entries req.pageIndex).2.1 resolves
      rw [same, show (s.node w).localNodeId = w from role.worker.id] at listed
      exact not_foreign_of_listed worker _ req.isWrite (listed ▸ role.worker.entries req.pageIndex)
    · rw [Node.serveQueuedRequest_spares { s.node w with sharedReqQueue := rest } alone resolves]
      refine iff_of_true ⟨rfl, rfl⟩ ?_
      rintro ⟨-, -, found, head, decides⟩
      rw [queue, List.head?_cons, Option.mem_some_iff] at head
      exact resolves (head ▸ decides)
  · rw [Node.serveQueuedRequest_connected { s.node w with sharedReqQueue := rest } alone]
    exact iff_of_true ⟨rfl, rfl⟩ fun decides => alone decides.2.1

end RolesOk

/-! ### Runs -/

namespace FailingCluster

variable {T : Topology} {connected : Finset Nat} {s t : FailingCluster Page}

omit [Zero Page] in
/-- No worker takes a decision of the coordinator in this step: none records a transaction, and
none serves a fault of its own by changing its mapping or its directory. -/
def OneAuthority (T : Topology) (s : FailingCluster Page) (e : FailureEvent Page)
    (t : FailingCluster Page) : Prop :=
  ∀ w ∈ T.workers, (t.cluster.node w).gpdPendingReqs = (s.cluster.node w).gpdPendingReqs ∧
    (e = .base (.drain w) → (t.cluster.node w).mapping = (s.cluster.node w).mapping ∧
      (t.cluster.node w).directory = (s.cluster.node w).directory)

def DecidesAlone (T : Topology) (s : FailingCluster Page) : FailureEvent Page → Prop
  | .base e => s.cluster.DecidesAlone T e
  | _ => False

omit [Zero Page] in
theorem dropUnsent_ok (s : FailingCluster Page) {t : Cluster Page} (ok : RolesOk T t) :
    RolesOk T (s.dropUnsent t) := by
  refine ok.fewer rfl ?_ ?_
  · intro w
    simp only [dropUnsent]
    split
    · exact List.take_subset _ _
    · exact List.Subset.refl _
  · intro w
    simp only [dropUnsent]
    split
    · exact List.Subset.refl _
    · exact List.take_subset _ _

/-- The end of a connection: no worker decides anything. -/
theorem failure_spec (ok : RolesOk T s.cluster) {e : FailureEvent Page}
    (failure : ∀ base, e ≠ .base base) (next : s.step T connected e = some t) :
    OneAuthority T s e t ∧ RolesOk T t.cluster := by
  suffices kept : s.cluster.KeepsPending T t.cluster ∧ RolesOk T t.cluster by
    refine ⟨fun w worker => ⟨kept.1 w worker, fun same => ?_⟩, kept.2⟩
    exact absurd same (failure _)
  cases e with
  | base base => exact absurd rfl (failure base)
  | workerLoses w =>
    simp only [step] at next
    split at next
    next enabled =>
      cases next
      -- the end of its connection changes the descriptors the worker knows, and sends nothing
      have quiet : ((s.cluster.node w).closeConnection (T.connectFd w)).effects = [] := ok.idle w
      constructor
      · exact s.cluster.keepsPending_move w ((s.cluster.node w).closeConnection _) (fun _ => rfl) _ rfl
      · apply ok.move _ _ quiet
        · exact fun same => absurd same (T.ne_coordinator enabled.1)
        · exact fun _ => (ok.workers w enabled.1).closeConnection
    · cases next
  | coordinatorLoses w =>
    simp only [step] at next
    split at next
    next enabled =>
      cases next
      have quiet : ((s.cluster.node T.coordinator).closeConnection (T.acceptedFd w)).effects = [] :=
        ok.idle T.coordinator
      constructor
      · exact s.cluster.keepsPending_move T.coordinator
          ((s.cluster.node T.coordinator).closeConnection _) (fun _ => rfl) _ rfl
      · apply ok.move _ _ quiet
        · exact fun _ => ok.coordinator.closeConnection _
        · exact fun absurdity => absurd absurdity T.coordinator_not_worker
    · cases next
  | lost w up down =>
    cases next
    -- what is lost is the end of what was on the link
    have shorter (links : Nat → List (DsmPacket Page)) (kept v : Nat) :
        Function.update links w ((links w).take kept) v ⊆ links v := by
      by_cases same : v = w
      · subst same
        rw [Function.update_self]
        exact List.take_subset _ _
      · rw [Function.update_of_ne same]
        exact List.Subset.refl _
    exact ⟨fun _ _ => rfl, ok.fewer rfl (shorter _ up) (shorter _ down)⟩

theorem base_spec (ok : RolesOk T s.cluster) {e : Event Page}
    (next : s.step T connected (.base e) = some t) :
    (OneAuthority T s (.base e) t ↔ ¬ s.cluster.DecidesAlone T e) ∧
      (¬ s.cluster.DecidesAlone T e → RolesOk T t.cluster) := by
  simp only [step] at next
  split at next
  next possible =>
    obtain ⟨u, moved, rfl⟩ := Option.map_eq_some_iff.mp next
    have received : ∀ w, e = .toWorker w → (s.cluster.node w).coordinatorFd ≠ -1 := by
      rintro w rfl
      exact possible
    constructor
    · constructor
      · intro authority decides
        -- only a worker's engine serving its own queue decides
        cases e with
        | drain w =>
          exact (ok.resolves_iff decides.1 moved).mp ((authority w decides.1).2 rfl) decides
        | load | store | fault | toCoordinator | toWorker | evict => exact decides
      · intro defers w worker
        refine ⟨(ok.step received defers moved).2 w worker, ?_⟩
        intro same
        cases same
        exact (ok.resolves_iff worker moved).mpr defers
    · exact fun defers => s.dropUnsent_ok (ok.step received defers moved).1
  · cases next

theorem step_spec (ok : RolesOk T s.cluster) {e : FailureEvent Page}
    (next : s.step T connected e = some t) :
    (OneAuthority T s e t ↔ ¬ s.DecidesAlone T e) ∧
      (¬ s.DecidesAlone T e → RolesOk T t.cluster) := by
  cases e with
  | base e => exact base_spec ok next
  | workerLoses | coordinatorLoses | lost =>
    have spec := failure_spec ok (by nofun) next
    exact ⟨iff_of_true spec.1 not_false, fun _ => spec.2⟩

theorem initial_roles (T : Topology) (connected : Finset Nat) :
    RolesOk T (initial T connected : FailingCluster Page).cluster where
  coordinator :=
    { id := rfl
      fd := if_neg fun member => T.coordinator_not_worker (Finset.mem_inter.mp member).1
      sends := fun _ _ absurdity => absurd absurdity List.not_mem_nil }
  workers w worker :=
    { fd := by
        simp only [initial, Node.boot]
        split
        · exact Or.inl rfl
        · exact Or.inr rfl
      worker := by
        have booted := (ClusterOk.initial T : ClusterOk T (Cluster.initial T : Cluster Page)).workers w worker
        exact { booted with fd := rfl } }
  up w worker packet member := by
    simp only [initial] at member
    split at member
    · rw [List.mem_singleton.mp member]
      exact ⟨rfl, by simp⟩
    · cases member
  down _ _ _ absurdity := absurd absurdity List.not_mem_nil
  idle _ := rfl

end FailingCluster

/-- In a run with connections that fail, no worker ever takes a decision of the coordinator,
exactly if no worker pops a request while its `coordinator_fd` is -1, other than a read of a
page it treats as present. -/
theorem one_authority_iff (T : Topology) (connected : Finset Nat) (events : List (FailureEvent Page)) :
    Runs.EveryStep (FailingCluster.step T connected)
        (fun s e t => FailingCluster.OneAuthority T s e t) (.initial T connected) events ↔
      Runs.EveryStep (FailingCluster.step T connected)
        (fun s e _ => ¬ s.DecidesAlone T e) (.initial T connected) events := by
  apply Runs.everyStep_iff_while fun s => RolesOk T s.cluster
  · intro s e t ok next
    exact (FailingCluster.step_spec ok next).1
  · intro s e t ok defers next
    exact (FailingCluster.step_spec ok next).2 defers
  · exact FailingCluster.initial_roles T connected

/-- Worker 2 loses its connection and then reads page 0. -/
def readAfterLoss : List (FailureEvent PageBytes) :=
  [.workerLoses 2, .base (.load 2 0), .base (.fault 2)]

/-- It fills the page with zeros itself and lists itself in its own directory. -/
theorem disconnected_worker_zero_fills : ¬ ∀ (T : Topology) (connected : Finset Nat)
    (events : List (FailureEvent PageBytes)), Runs.EveryStep (FailingCluster.step T connected)
      (fun s e t => FailingCluster.OneAuthority T s e t) (.initial T connected) events := by
  intro claim
  have every := claim twoWorkers {2, 3} (readAfterLoss ++ [.base (.drain 2)])
  obtain ⟨s, executed, unmapped, filled⟩ := Runs.exists_exec
    (FailingCluster.step twoWorkers {2, 3}) (fun _ _ => True) (.initial twoWorkers {2, 3})
    readAfterLoss
    (fun s => ((s.cluster.node 2).mapping 0).isMapped = false ∧
      ((s.step twoWorkers {2, 3} (.base (.drain 2))).any fun t =>
        ((t.cluster.node 2).mapping 0).isMapped) = true) (by decide +kernel)
  obtain ⟨t, next, mapped⟩ := (Option.any_eq_true _ _).mp filled
  have kept := ((every.last executed next) 2 (by decide)).2 rfl
  rw [kept.1, unmapped] at mapped
  cases mapped

end TeleportVM
