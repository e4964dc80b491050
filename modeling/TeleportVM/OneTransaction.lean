import TeleportVM.Accounting

/-!
One transaction per page at a time. No handler looks whether the pending slot of a page is
taken before it serves or records another request, so a recorded transaction is left alone
only by a request that changes nothing. Then whatever comes in about the page is what the recorded
transaction waits for.
-/
namespace TeleportVM

variable {Page : Type}

/-- A page sent to a requester, installed or made writable, or its owner asked to send it. -/
def Effect.serves (p : Nat) : Effect Page → Bool
  | .send _ packet =>
    decide ((packet.type = .sendPage ∨ packet.type.isPageRequest = true) ∧ packet.pageIndex = p)
  | .uffdioCopy q _ => q == p
  | .uffdioUnprotect q => q == p

namespace Node

/-- Between `n` and `n'` nothing happened to the recorded transaction of page `p`. -/
structure LeavesPage (p : Nat) (n n' : Node Page) : Prop where
  slot : n'.gpdPendingReqs p = n.gpdPendingReqs p
  entry : n'.directory.entry p = n.directory.entry p
  nothing : ∀ effect ∈ n'.effects, effect.serves p = false

variable {n n' : Node Page} {p r : Nat} {type : MsgType} {fd : Int} {o : Nat}

theorem not_leaves_of_effect (effect : Effect Page) (made : effect ∈ n'.effects)
    (serves : effect.serves p = true) : ¬ LeavesPage p n n' := by
  intro leaves
  rw [leaves.nothing effect made] at serves
  cases serves

/-- A new owner who has others to invalidate was not the owner before. -/
theorem not_leaves_of_targets {mask : BitVec 64} {m : Nat}
    (clears : ∀ k, mask.getLsbD k = true → ((n.directory.entry p).invalidateMask r).getLsbD k = true)
    (target : mask.getLsbD m = true) (owned : n'.directory.entry p = .ownedBy r) :
    ¬ LeavesPage p n n' := by
  intro leaves
  have listed := clears m target
  rw [← leaves.entry, owned] at listed
  have erased : m ∈ (Bitmap.members (GpdEntry.ownedBy r).holdersMask).erase r := by
    rw [← Bitmap.members_clear]
    exact (Bitmap.mem_members _ _).mpr listed
  obtain ⟨apart, holder⟩ := Finset.mem_erase.mp erased
  simp only [GpdEntry.ownedBy, GpdEntry.holdersMask, Bitmap.mem_members] at holder
  by_cases zero : r = 0
  · simp [zero] at holder
  · simp only [ne_eq, zero, not_false_eq_true, if_true, Bitmap.getLsbD_bit, Bool.and_eq_true,
      decide_eq_true_eq] at holder
    exact apart holder.2

theorem mem_connectedIn {mask : BitVec 64} {m : Nat} (connected : m ∈ n.connectedIn mask) :
    mask.getLsbD m = true := by
  simp only [connectedIn, List.mem_filter, Bool.and_eq_true] at connected
  exact connected.2.1

variable [Zero Page]

/-- A fetch asks the owner to send the page, whatever the slot has recorded. -/
theorem not_leaves_fetchFromOwner : ¬ LeavesPage p n (n.fetchFromOwner p r type fd o) :=
  not_leaves_of_effect (.send (n.nodeFds o) ⟨.requestPageRead, p, n.localNodeId, 0⟩)
    (by simp [fetchFromOwner, setPending, sendAllNonblocking])
    (by simp [Effect.serves, MsgType.isPageRequest])

theorem not_leaves_upgrade (inRange : p < n.numPages) :
    ¬ LeavesPage p n (n.upgradeLocalCopy p) := by
  have owned : n.transitionToModified p n.localNodeId =
      (n.setEntry p (.ownedBy n.localNodeId), (n.directory.entry p).invalidateMask n.localNodeId) := by
    simp [transitionToModified, gpdTransitionToModified_eq _ _ _ inRange, setEntry]
  unfold upgradeLocalCopy
  dsimp only
  rw [owned]
  split
  next some =>
    obtain ⟨m, target⟩ := List.exists_mem_of_length_pos some
    exact not_leaves_of_targets (fun _ => id) (mem_connectedIn target)
      (by simp [sendInvalidations, setPending, setEntry])
  next =>
    exact not_leaves_of_effect (.uffdioUnprotect p) (by simp [liftWriteProtection])
      (by simp [Effect.serves])

theorem not_leaves_zeroFill (isWrite : Bool) : ¬ LeavesPage p n (n.zeroFillLocal p isWrite) := by
  refine not_leaves_of_effect (.uffdioCopy p 0) ?_ (by simp [Effect.serves])
  unfold zeroFillLocal
  cases isWrite <;>
    simp [installPage, dsmMarkAccessed, transitionToModified, transitionToShared]

/-- A queued request leaves a page alone when it is a read of a present page. -/
theorem leaves_serveQueuedRequest (home : n.coordinatorFd = -1) (idle : n.effects = [])
    (req : PageRequest) (inRange : req.pageIndex < n.numPages) :
    LeavesPage req.pageIndex n (n.serveQueuedRequest req) ↔
      (n.pageTable req.pageIndex = .valid ∨ n.pageTable req.pageIndex = .writePending) ∧
        req.isWrite = false := by
  unfold serveQueuedRequest
  dsimp only
  rw [if_neg (by simpa using home)]
  split
  next present =>
    split
    next write => exact iff_of_false (not_leaves_upgrade inRange) (by simp [write])
    next read => exact iff_of_true ⟨rfl, rfl, by simp [idle]⟩ ⟨present, by simpa using read⟩
  next absent =>
    refine iff_of_false ?_ fun both => absent both.1
    split
    · exact not_leaves_fetchFromOwner
    · exact not_leaves_zeroFill _

/-- A write that is answered or deferred changes the entry or sends the page. -/
theorem not_leaves_deferOrSend {mask : BitVec 64} {page : Page} {m : Node Page}
    (clears : ∀ k, mask.getLsbD k = true → ((n.directory.entry p).invalidateMask r).getLsbD k = true)
    (owned : m.directory.entry p = .ownedBy r) {id : Nat} :
    ¬ LeavesPage p n (m.deferOrSend fd r mask ⟨.sendPage, p, id, page⟩) := by
  unfold deferOrSend
  dsimp only
  split
  next some =>
    obtain ⟨k, target⟩ := List.exists_mem_of_length_pos some
    exact not_leaves_of_targets clears (mem_connectedIn (List.mem_filter.mp target).1)
      (by simpa [sendInvalidations, setPending] using owned)
  next =>
    exact not_leaves_of_effect (.send fd ⟨.sendPage, p, id, page⟩)
      (by simp [sendAllNonblocking]) (by simp [Effect.serves])

theorem not_leaves_serveWriteFromCopy (inRange : p < n.numPages) (page : Page) :
    ¬ LeavesPage p n (n.serveWriteFromCopy fd p r page) := by
  unfold serveWriteFromCopy
  dsimp only
  refine not_leaves_deferOrSend (fun k listed => ?_) ?_
  · simp only [transitionToModified, gpdTransitionToModified_eq _ _ _ inRange, Option.map_some,
      Option.getD_some, BitVec.getLsbD_and, Bool.and_eq_true] at listed
    exact listed.1
  · simp [transitionToModified, gpdTransitionToModified_eq _ _ _ inRange, invalidateLocalPageCopy]

omit [Zero Page] in
theorem not_leaves_serveReadFromCopy (page : Page) :
    ¬ LeavesPage p n (n.serveReadFromCopy fd p r page) :=
  not_leaves_of_effect (.send fd ⟨.sendPage, p, n.localNodeId, page⟩)
    (by simp [serveReadFromCopy, sendAllNonblocking]) (by simp [Effect.serves])

theorem not_leaves_serveZeroPage (inRange : p < n.numPages) (isWrite : Bool) :
    ¬ LeavesPage p n (n.serveZeroPage fd p r isWrite) := by
  unfold serveZeroPage
  dsimp only
  split
  · unfold ownDroppingLocal
    dsimp only
    split
    · refine not_leaves_deferOrSend (fun k listed => ?_) ?_
      · simp only [transitionToModified, gpdTransitionToModified_eq _ _ _ inRange, Option.map_some,
          Option.getD_some, BitVec.getLsbD_and, Bool.and_eq_true] at listed
        exact listed.1
      · simp [transitionToModified, gpdTransitionToModified_eq _ _ _ inRange,
          invalidateLocalPageCopy]
    · refine not_leaves_deferOrSend (fun k listed => ?_) ?_
      · simpa [transitionToModified, gpdTransitionToModified_eq _ _ _ inRange] using listed
      · simp [transitionToModified, gpdTransitionToModified_eq _ _ _ inRange]
  · exact not_leaves_of_effect (.send fd ⟨.sendPage, p, n.localNodeId, 0⟩)
      (by simp [sendAllNonblocking]) (by simp [Effect.serves])

/-- A request packet never leaves its page alone. -/
theorem not_leaves_handlePageRequest (packet : DsmPacket Page)
    (inRange : packet.pageIndex < n.numPages)
    (handled : n.handlePageRequest fd packet = some n') : ¬ LeavesPage packet.pageIndex n n' := by
  unfold handlePageRequest at handled
  dsimp only at handled
  rw [if_pos inRange] at handled
  -- registering the sender touches neither the slot nor the entry
  have same : ∀ m, LeavesPage packet.pageIndex n m ↔
      LeavesPage packet.pageIndex (n.registerSender fd packet.senderNodeId) m :=
    fun m => ⟨fun leaves => { leaves with }, fun leaves => { leaves with }⟩
  rw [same]
  have pages : packet.pageIndex < (n.registerSender fd packet.senderNodeId).numPages := inRange
  split at handled
  · split at handled
    · cases handled
    next page _ =>
      split at handled
      · cases handled; exact not_leaves_serveWriteFromCopy pages page
      · cases handled; exact not_leaves_serveReadFromCopy page
  · split at handled
    · cases handled; exact not_leaves_fetchFromOwner
    · cases handled; exact not_leaves_serveZeroPage pages _

end Node

/-! ### Steps -/

/-- The coordinator's node when the handler that this event runs on it has returned. -/
def Cluster.handled [Zero Page] (T : Topology) (s : Cluster Page) : Event Page → Option (Node Page)
  | .drain n =>
    if n = T.coordinator then
      match (s.node n).sharedReqQueue with
      | [] => none
      | req :: rest => some ({ s.node n with sharedReqQueue := rest }.serveQueuedRequest req)
    else none
  | .toCoordinator w =>
    match s.toCoordinator w with
    | [] => none
    | packet :: _ => (s.node T.coordinator).dispatchPacket (T.acceptedFd w) packet
  | _ => none

/-- If a transaction for the page is recorded and another request for it is handled, then
slot and entry keep all their fields, the page is not granted, and its owner is not asked for it. -/
def Cluster.KeepsTransaction [Zero Page] (T : Topology) (p : Nat) (s : Cluster Page)
    (e : Event Page) (t : Cluster Page) : Prop :=
  (s.slot T p).requesterNodeId ≠ 0 → ∀ ask ∈ s.asks T e, ask.page = p →
    t.slot T p = s.slot T p ∧ t.entry T p = s.entry T p ∧
      ∀ node ∈ s.handled T e, ∀ effect ∈ node.effects, effect.serves p = false

/-- A page or an acknowledgement that the coordinator takes up is one that the recorded transaction
waits for: the page is the answer to its only fetch, and no more acknowledgements are under way than
it counts. -/
def Cluster.AnswersRecorded (T : Topology) (p : Nat) (s : Cluster Page) : Event Page → Prop
  | .toCoordinator w => ∀ packet ∈ (s.toCoordinator w).head?, packet.pageIndex = p →
    (packet.type = .sendPage → (s.slot T p).requesterNodeId ≠ 0 ∧ (s.slot T p).expectedAcks = 0 ∧
      (s.pageState T p).transfers T = 1) ∧
    (packet.type = .invalidateAck → (s.slot T p).requesterNodeId ≠ 0 ∧
      0 < (s.slot T p).expectedAcks ∧
      (s.pageState T p).collections T = (s.slot T p).expectedAcks)
  | _ => True

/-- If a transaction for the page is recorded and another request for it is handled, then it
is a read fault of the coordinator that finds the page present. -/
def Cluster.Harmless (T : Topology) (p : Nat) (s : Cluster Page) (e : Event Page) : Prop :=
  (s.slot T p).requesterNodeId ≠ 0 → ∀ ask ∈ s.asks T e, ask.page = p →
    ask.requester = T.coordinator ∧ ask.isWrite = false ∧
      (s.pageState T p).Present T T.coordinator

instance (T : Topology) (p : Nat) (s : Cluster Page) (e : Event Page) :
    Decidable (s.Harmless T p e) := inferInstanceAs (Decidable (_ → _))

section Step

variable [Zero Page] {T : Topology} {p : Nat} {s t : Cluster Page}

/-- The step settles what the handler returned. -/
theorem handled_of_step {e : Event Page} {ask : PageAsk} (asked : s.asks T e = some ask)
    (next : s.step T e = some t) : ∃ node, s.handled T e = some node ∧
      t.node T.coordinator = { node with effects := [] } := by
  cases e with
  | drain n =>
    simp only [Cluster.asks] at asked
    split at asked
    next own =>
      subst own
      obtain ⟨-, req, rest, head, rfl⟩ := Cluster.drainStep_cases next
      simp only [Cluster.handled, if_true, head]
      exact ⟨_, rfl, Function.update_self _ _ _⟩
    · cases asked
  | toCoordinator w =>
    obtain ⟨-, packet, rest, node, head, dispatched, rfl⟩ := Cluster.toCoordinatorStep_cases next
    simp only [Cluster.handled, head]
    exact ⟨node, dispatched, Function.update_self _ _ _⟩
  | load | store | fault | toWorker | evict => cases asked

/-- A step leaves the recorded transaction alone exactly if the handler does. -/
theorem keepsTransaction_iff {e : Event Page} {ask : PageAsk} {node : Node Page}
    (asked : s.asks T e = some ask) (own : ask.page = p) (handled : s.handled T e = some node)
    (settled : t.node T.coordinator = { node with effects := [] }) :
    s.KeepsTransaction T p e t ↔
      ((s.slot T p).requesterNodeId ≠ 0 → Node.LeavesPage p (s.node T.coordinator) node) := by
  have slot : t.slot T p = node.gpdPendingReqs p := by rw [Cluster.slot, settled]
  have entry : t.entry T p = node.directory.entry p := by rw [Cluster.entry, settled]
  refine imp_congr_right fun _ => ⟨fun keeps => ?_, fun leaves other same _ => ?_⟩
  · obtain ⟨sameSlot, sameEntry, nothing⟩ := keeps ask asked own
    exact ⟨slot.symm.trans sameSlot, entry.symm.trans sameEntry, nothing node handled⟩
  · refine ⟨slot.trans leaves.slot, entry.trans leaves.entry, fun node' found => ?_⟩
    rw [handled, Option.mem_some_iff] at found
    exact found ▸ leaves.nothing

omit [Zero Page] in
theorem harmless_iff {e : Event Page} {ask : PageAsk} (asked : s.asks T e = some ask)
    (own : ask.page = p) : s.Harmless T p e ↔ ((s.slot T p).requesterNodeId ≠ 0 →
      ask.requester = T.coordinator ∧ ask.isWrite = false ∧
        (s.pageState T p).Present T T.coordinator) := by
  refine imp_congr_right fun _ => ⟨fun harmless => harmless ask asked own, fun harmless other same _ => ?_⟩
  rw [asked, Option.mem_some_iff] at same
  exact same ▸ harmless

/-- A queued request of the coordinator. -/
theorem leaves_drain (ok : ClusterOk T s) (req : PageRequest) (rest : List PageRequest)
    (head : (s.node T.coordinator).sharedReqQueue = req :: rest) (own : req.pageIndex = p) :
    Node.LeavesPage p (s.node T.coordinator)
        ({ s.node T.coordinator with sharedReqQueue := rest }.serveQueuedRequest req) ↔
      req.isWrite = false ∧ (s.pageState T p).Present T T.coordinator := by
  subst own
  have good := coordinator_queue ok rest req head
  have inRange : req.pageIndex < T.numPages :=
    ok.coordinator.requests req (Or.inl (by simp [head]))
  have other : ∀ m, Node.LeavesPage req.pageIndex (s.node T.coordinator) m ↔
      Node.LeavesPage req.pageIndex { s.node T.coordinator with sharedReqQueue := rest } m :=
    fun m => ⟨fun leaves => { leaves with }, fun leaves => { leaves with }⟩
  rw [other, Node.leaves_serveQueuedRequest good.fd (ok.idle _) req (by rwa [good.pages]), and_comm]
  simp [PageState.Present, Cluster.pageState]

/-- A step keeps the recorded transaction exactly when its request is harmless. -/
theorem keepsTransaction_iff_harmless (inRange : p < T.numPages) (ok : ClusterOk T s)
    {e : Event Page} (next : s.step T e = some t) :
    s.KeepsTransaction T p e t ↔ s.Harmless T p e := by
  -- only the coordinator's handling of a request for the page writes its slot
  by_cases about : ∃ ask, s.asks T e = some ask ∧ ask.page = p
  · obtain ⟨ask, asked, own⟩ := about
    obtain ⟨node, handled, settled⟩ := handled_of_step asked next
    rw [keepsTransaction_iff asked own handled settled, harmless_iff asked own]
    refine imp_congr_right fun _ => ?_
    cases e with
    | drain n =>
      unfold Cluster.asks at asked
      unfold Cluster.handled at handled
      simp only at asked handled
      split at asked
      next home =>
        subst home
        obtain ⟨req, first, rfl⟩ := Option.map_eq_some_iff.mp asked
        cases head : (s.node T.coordinator).sharedReqQueue with
        | nil => simp [head] at first
        | cons req' rest =>
          rw [head] at first handled
          cases first
          simp only [if_true, Option.some.injEq] at handled
          subst handled
          simpa using leaves_drain ok req rest head own
      · cases asked
    | toCoordinator w =>
      have worker : w ∈ T.workers := by
        by_contra outside
        simp [Cluster.step, Cluster.toCoordinatorStep, outside] at next
      obtain ⟨packet, first, asked⟩ := Option.bind_eq_some_iff.mp asked
      cases head : s.toCoordinator w with
      | nil => simp [head] at first
      | cons packet' rest =>
        rw [head] at first
        cases first
        have sender := (ok.up w worker packet (by simp [head])).1
        have away : packet.senderNodeId ≠ T.coordinator := sender ▸ T.ne_coordinator worker
        have inside : packet.pageIndex = p → packet.pageIndex < (s.node T.coordinator).numPages :=
          fun same => by rw [ok.coordinator.pages, same]; exact inRange
        simp only [Cluster.handled, head] at handled
        unfold DsmPacket.ask at asked
        split at asked
        -- a request of a worker is served or recorded, and neither leaves the page alone
        all_goals first
          | cases asked
            next type =>
              simp only [Node.dispatchPacket, type] at handled
              refine iff_of_false ?_ fun harmless => away harmless.1
              subst own
              exact Node.not_leaves_handlePageRequest packet (inside rfl) handled
          | cases asked
    | load | store | fault | toWorker | evict => cases asked
  · have silent : ∀ ask ∈ s.asks T e, ask.page ≠ p := fun ask asked own => about ⟨ask, asked, own⟩
    exact iff_of_true (fun _ ask asked own => absurd own (silent ask asked))
      fun _ ask asked own => absurd own (silent ask asked)

/-! ### What comes in while the requests are harmless -/

/-- What the coordinator takes up is accounted for by the slot. -/
theorem answersRecorded (accounted : PageState.Accounted T (s.pageState T p)) {e : Event Page}
    (next : s.step T e = some t) : s.AnswersRecorded T p e := by
  cases e with
  | toCoordinator w =>
    obtain ⟨worker, packet, rest, node, head, -, rfl⟩ := Cluster.toCoordinatorStep_cases next
    intro packet' first own
    rw [head] at first
    cases first
    constructor
    · intro type
      have up : (s.pageState T p).up w = .page packet.payload :: _ :=
        up_cons head (by simp [upMsg, type, own])
      obtain ⟨live, idle⟩ := accounted.fetched (PageState.transfers_of_page worker up)
      exact ⟨live, idle, accounted.transfers_one live idle⟩
    · intro type
      have up : (s.pageState T p).up w = .ack :: _ := up_cons head (by simp [upMsg, type, own])
      have some := PageState.collections_of_ack worker up
      rw [accounted.collections] at some
      exact ⟨accounted.counting some, some, accounted.collections⟩
  | load | store | fault | drain | toWorker | evict => trivial

/-- A request of the page is one that the coordinator handles. -/
theorem asks_of_pageLabel (ok : ClusterOk T s) {e : Event Page} {r : Nat} {isWrite : Bool}
    (label : s.pageLabel T p e = some (.request r isWrite)) (next : s.step T e = some t) :
    s.asks T e = some ⟨p, r, isWrite⟩ := by
  cases e with
  | drain n =>
    obtain ⟨req, first, label⟩ := Option.bind_eq_some_iff.mp label
    split at label
    · cases label
    next own =>
      split at label
      next home =>
        cases label
        simp only [Cluster.asks, home, if_true]
        rw [← home, first, ← not_not.mp own]
        rfl
      · cases label
  | toCoordinator w =>
    obtain ⟨worker, packet, rest, -, head, -, -⟩ := Cluster.toCoordinatorStep_cases next
    have sender := (ok.up w worker packet (by simp [head])).1
    simp only [Cluster.pageLabel, head, List.head?_cons, Option.bind_some] at label
    simp only [Cluster.asks, head, List.head?_cons, Option.bind_some, DsmPacket.ask]
    split at label
    · cases label
    · split at label
      next own =>
        split at label <;> cases label
        next type => rw [type, own, sender]
        next type => rw [type, own, sender]
      · split at label <;> cases label
  | toWorker w =>
    obtain ⟨packet, -, label⟩ := Option.bind_eq_some_iff.mp label
    split at label <;> cases label
  | fault n =>
    obtain ⟨fault, -, label⟩ := Option.bind_eq_some_iff.mp label
    split at label
    · cases label
    · split at label <;> cases label
  | store n q page =>
    simp only [Cluster.pageLabel] at label
    split at label <;> cases label
  | load | evict => cases label

/-- A harmless request records nothing over the transaction. -/
theorem undisturbed_of_harmless (ok : ClusterOk T s) {e : Event Page} (harmless : s.Harmless T p e)
    (next : s.step T e = some t) :
    ∀ label ∈ s.pageLabel T p e, (s.pageState T p).Undisturbed T label := by
  intro label same
  cases label with
  | request r isWrite =>
    -- a read that finds the page present is not recorded
    intro live
    obtain ⟨rfl, rfl, present⟩ := harmless live _ (asks_of_pageLabel ok same next) rfl
    simp [PageState.Records, present]
  | join | store | enqueue | overflow | forward | receive | reply | ack => trivial

theorem accounted_of_harmless (inRange : p < T.numPages) (ok : ClusterOk T s)
    (accounted : PageState.Accounted T (s.pageState T p)) {e : Event Page}
    (harmless : s.Harmless T p e) (next : s.step T e = some t) :
    PageState.Accounted T (t.pageState T p) := by
  cases eviction : e.isEviction with
  | false =>
    have moved := step_moves ok inRange (fun _ => accounted.counting) eviction next
    unfold PageStep at moved
    split at moved
    · exact moved ▸ accounted
    next label same =>
      exact PageState.accounted_of_move (ok.pageOk p) accounted
        (undisturbed_of_harmless ok harmless next label same) moved
  | true =>
    cases e with
    | evict w =>
      -- an eviction touches neither the slot nor the links
      obtain ⟨worker, -⟩ := Cluster.evictStep_cases next
      obtain ⟨up, down, others⟩ := evict_rest ok next
      have home := others T.coordinator (T.ne_coordinator worker).symm
      refine accounted.keep ⟨?_, ?_, ?_, ?_⟩
      · simp only [Cluster.pageState, Cluster.slot, home]
      · simp only [Cluster.pageState, Cluster.slot, home]
      · simp only [PageState.transfers, Cluster.pageState, up, down]
      · simp only [PageState.collections, Cluster.pageState, up, down]
    | load | store | fault | drain | toCoordinator | toWorker => cases eviction

/-- In an execution no second request disturbs a recorded transaction of the page, and what comes
in about the page is what the transaction waits for, exactly when every request that is handled
meanwhile is harmless. -/
theorem one_transaction_iff (T : Topology) (p : Nat) (inRange : p < T.numPages)
    (es : List (Event Page)) :
    Runs.EveryStep (Cluster.step T)
        (fun s e t => s.KeepsTransaction T p e t ∧ s.AnswersRecorded T p e) (Cluster.initial T) es ↔
      Runs.EveryStep (Cluster.step T) (fun s e _ => s.Harmless T p e) (Cluster.initial T) es := by
  refine Runs.everyStep_iff_while
    (fun s => ClusterOk T s ∧ PageState.Accounted T (s.pageState T p)) ?_ ?_
    ⟨ClusterOk.initial T, by rw [pageState_initial]; exact PageState.initial_accounted⟩ es
  · intro s e t ⟨ok, accounted⟩ next
    rw [and_iff_left (answersRecorded accounted next)]
    exact keepsTransaction_iff_harmless inRange ok next
  · intro s e t ⟨ok, accounted⟩ harmless next
    exact ⟨ok.step next, accounted_of_harmless inRange ok accounted harmless next⟩

end Step

theorem one_transaction_handover : Runs.EveryStep (Cluster.step twoWorkers)
    (fun s e t => s.KeepsTransaction twoWorkers 0 e t ∧ s.AnswersRecorded twoWorkers 0 e)
    (Cluster.initial twoWorkers) writeThenWrite :=
  (one_transaction_iff twoWorkers 0 (by decide) writeThenWrite).mpr (by decide +kernel)

/-- Worker 2 owns page 0, the coordinator has asked it for the page on behalf of worker 3,
and a request of worker 4 has arrived. -/
def secondFetch : List (Event PageBytes) :=
  [.toCoordinator 2, .toCoordinator 3, .toCoordinator 4] ++
    writeMiss 2 0 (fun _ => 7) ++ [.toCoordinator 2, .toWorker 2] ++
    readMiss 3 0 ++ readMiss 4 0 ++ [.toCoordinator 3]

/-- The request of worker 4 overwrites the recorded request of worker 3. -/
theorem transaction_overwritten : ¬ ∀ (T : Topology) (p : Nat), p < T.numPages →
    ∀ es : List (Event PageBytes), Runs.EveryStep (Cluster.step T)
      (fun s e t => s.KeepsTransaction T p e t) (Cluster.initial T) es := by
  intro claim
  have every := claim threeWorkers 0 (by decide) (secondFetch ++ [.toCoordinator 4])
  obtain ⟨s, executed, live, asked, overwritten⟩ := Runs.exists_exec (Cluster.step threeWorkers)
    (fun _ _ => True) (Cluster.initial threeWorkers) secondFetch
    (fun s => (s.slot threeWorkers 0).requesterNodeId = 3 ∧
      s.asks threeWorkers (.toCoordinator 4) = some ⟨0, 4, false⟩ ∧
      ((s.step threeWorkers (.toCoordinator 4)).any fun t =>
        (t.slot threeWorkers 0).requesterNodeId == 4) = true) (by decide +kernel)
  obtain ⟨t, next, overwritten⟩ := (Option.any_eq_true _ _).mp overwritten
  have kept := (every.last executed next (by rw [live]; decide) _ asked rfl).1
  rw [beq_iff_eq, kept, live] at overwritten
  cases overwritten

end TeleportVM
