import TeleportVM.CoordinatorView

/-!
The cluster refines the one-page protocol: for every page, a step of the cluster is a
move of that page or leaves it as it was.
-/
namespace TeleportVM

variable {Page : Type}

/-! ### Steps of the coordinator -/

section CoordinatorStep

variable {T : Topology} {p : Nat} {s : Cluster Page} (ok : ClusterOk T s)
include ok

theorem coordinatorView_self :
    coordinatorView T p s (s.node T.coordinator) = s.pageState T p := by
  rw [coordinatorView_eq]
  simp only [ok.idle, sentOn_nil, List.filterMap_nil, List.append_nil, ite_self]
  simp [Cluster.pageState, Cluster.entry, Cluster.slot]

theorem coordinatorView_queue (queue : List PageRequest) :
    coordinatorView T p s { s.node T.coordinator with sharedReqQueue := queue } =
      { s.pageState T p with
        queued := Function.update (s.pageState T p).queued T.coordinator (queuedFor p queue) } := by
  rw [← coordinatorView_self (p := p) ok]
  exact view_queue T p s _ queue

omit ok in
/-- A packet leaves the link: the page sees what is left of it. -/
theorem pageState_dropUp (w : Nat) (rest : List (DsmPacket Page)) :
    ({ s with toCoordinator := Function.update s.toCoordinator w rest } : Cluster Page).pageState T p =
      { s.pageState T p with
        up := Function.update (s.pageState T p).up w (rest.filterMap (upMsg p)) } := by
  simp only [Cluster.pageState, Cluster.entry, Cluster.slot, PageState.mk.injEq, true_and, and_true]
  funext v
  by_cases same : v = w
  · subst v; simp
  · simp [same]

omit ok in
theorem joinedWorkers_register {w : Nat} (worker : w ∈ T.workers) (n : Node Page) :
    joinedWorkers T (n.registerSender (T.acceptedFd w) w).nodeFds =
      insert w (joinedWorkers T n.nodeFds) := by
  have small := (T.workers_valid w worker).lt
  ext v
  simp only [joinedWorkers, Finset.mem_filter, Finset.mem_insert, Node.registerSender, small, if_true]
  by_cases same : v = w
  · simp [same, worker, T.acceptedFd_open w worker]
  · simp [same]

omit ok in
theorem coordinatorView_register {w : Nat} (worker : w ∈ T.workers) (n : Node Page) :
    coordinatorView T p s (n.registerSender (T.acceptedFd w) w) =
      { coordinatorView T p s n with joined := insert w (coordinatorView T p s n).joined } := by
  simp only [coordinatorView_eq, joinedWorkers_register worker]
  rfl

omit ok in
/-- The owner that the code asks is the owner that the page calls fetchable. -/
theorem fetchable_iff {n : Node Page} (good : CoordinatorOk T n) (s' : Cluster Page) (r : Nat) :
    (coordinatorView T p s' n).Fetchable r ↔
      gpdGetOwner n.directory p ≠ 0 ∧ gpdGetOwner n.directory p < 64 ∧
        n.nodeFds (gpdGetOwner n.directory p) ≠ -1 ∧ gpdGetOwner n.directory p ≠ r := by
  simp only [PageState.Fetchable, coordinatorView_entry, coordinatorView_joined,
    mem_joinedWorkers good, gpdGetOwner]
  constructor
  · rintro ⟨connected, other⟩
    have valid := T.workers_valid _ ((good.fds _).resolve_left connected).1
    exact ⟨valid.ne_zero, valid.lt, connected, other⟩
  · rintro ⟨-, -, connected, other⟩
    exact ⟨connected, other⟩

omit ok in
theorem queuedFor_cons (req : PageRequest) (rest : List PageRequest) (own : req.pageIndex = p) :
    queuedFor p (req :: rest) = req.isWrite :: queuedFor p rest := by
  simp [queuedFor, own]

theorem takes_queued (req : PageRequest) (rest : List PageRequest)
    (head : (s.node T.coordinator).sharedReqQueue = req :: rest) (own : req.pageIndex = p) :
    PageState.Takes T (s.pageState T p) T.coordinator req.isWrite
      (coordinatorView T p s { s.node T.coordinator with sharedReqQueue := rest }) := by
  rw [coordinatorView_queue ok]
  apply PageState.Takes.own
  simp only [Cluster.pageState, head]
  exact queuedFor_cons req rest own

theorem coordinator_queue (rest : List PageRequest) (req : PageRequest)
    (head : (s.node T.coordinator).sharedReqQueue = req :: rest) :
    CoordinatorOk T { s.node T.coordinator with sharedReqQueue := rest } :=
  ok.coordinator.setRequests _ _ fun q found => by
    rw [head]
    exact found.imp_left (List.mem_cons_of_mem _)

variable [Zero Page]

omit ok in
/-- A queued request of the coordinator is a move of its page. -/
theorem move_serveQueuedRequest {n : Node Page} (good : CoordinatorOk T n)
    (inRange : p < T.numPages) (req : PageRequest) (own : req.pageIndex = p)
    (takes : PageState.Takes T (s.pageState T p) T.coordinator req.isWrite
      (coordinatorView T p s n)) :
    PageState.Move T (s.pageState T p) (.request T.coordinator req.isWrite)
      (coordinatorView T p s (n.serveQueuedRequest req)) := by
  subst own
  have entry : n.directory.entry req.pageIndex = (s.pageState T req.pageIndex).entry := by
    rw [← takes.entry, coordinatorView_entry]
  have slot : n.gpdPendingReqs req.pageIndex = (s.pageState T req.pageIndex).slot := by
    rw [← takes.slot, coordinatorView_slot]
  have here : (n.pageTable req.pageIndex = .valid ∨ n.pageTable req.pageIndex = .writePending) ↔
      (s.pageState T req.pageIndex).Present T T.coordinator := by
    rw [← takes.present, PageState.Present, coordinatorView_status]
    simp
  have fetchable := fetchable_iff (p := req.pageIndex) good s T.coordinator
  unfold Node.serveQueuedRequest
  dsimp only
  rw [if_neg (by simpa using good.fd)]
  -- a page that is here: a read needs nothing, a write is an upgrade
  by_cases present : (s.pageState T req.pageIndex).Present T T.coordinator
  · rw [if_pos (here.mpr present)]
    cases isWrite : req.isWrite with
    | false =>
      rw [isWrite] at takes
      rw [if_neg (by simp)]
      exact .readPresent _ takes present
    | true =>
      rw [isWrite] at takes
      rw [if_pos rfl, view_upgradeLocalCopy good inRange, takes.targets, slot]
      split
      next alone => exact .upgrade _ takes present alone
      next others => exact .upgradeWait _ takes present others
  · rw [if_neg fun found => present (here.mp found)]
    by_cases owned : (coordinatorView T req.pageIndex s n).Fetchable T.coordinator
    · obtain ⟨nonzero, small, connected, -⟩ := fetchable.mp owned
      rw [if_pos ⟨nonzero, small, connected⟩,
        view_fetchFromOwner good _ _ _ _ (by simpa [gpdGetOwner] using owned.1), good.id, slot, gpdGetOwner,
        entry]
      exact .fetch _ _ _ _ takes present owned
    · -- without an owner to ask the page is filled with zeros
      have unowned : ¬ (gpdGetOwner n.directory req.pageIndex ≠ 0 ∧
          gpdGetOwner n.directory req.pageIndex < 64 ∧
          n.nodeFds (gpdGetOwner n.directory req.pageIndex) ≠ -1) := by
        rintro ⟨nonzero, small, connected⟩
        refine owned (fetchable.mpr ⟨nonzero, small, connected, fun same => ?_⟩)
        have worker := ((good.fds _).resolve_left connected).1
        exact T.coordinator_not_worker (same ▸ worker)
      rw [if_neg unowned, view_zeroFillLocal good inRange, entry]
      exact .zeroLocal _ _ takes present owned

section Request

variable {v : PageState Page} {n : Node Page} {w : Nat} (good : CoordinatorOk T n)
  (worker : w ∈ T.workers) (inRange : p < T.numPages)
include good worker inRange

omit ok in
/-- A request that is served from the coordinator's copy. -/
theorem move_serveFromCopy (registered : n.nodeFds w = T.acceptedFd w) {isWrite : Bool}
    (takes : PageState.Takes T v w isWrite (coordinatorView T p s n))
    (valid : v.status T.coordinator = .valid) {page : Page}
    (copied : (v.mapping T.coordinator).contents = some page) :
    PageState.Move T v (.request w isWrite) (coordinatorView T p s
      (if isWrite then n.serveWriteFromCopy (T.acceptedFd w) p w page
        else n.serveReadFromCopy (T.acceptedFd w) p w page)) := by
  have status : n.pageTable p = v.status T.coordinator := by
    rw [← takes.status, coordinatorView_status]
  have mapping : n.mapping p = v.mapping T.coordinator := by
    rw [← takes.mapping, coordinatorView_mapping]
  have entry : n.directory.entry p = v.entry := by rw [← takes.entry, coordinatorView_entry]
  cases isWrite with
  | true =>
    have source : (coordinatorView T p s n).Source T w page :=
      Or.inl ⟨by rw [takes.status]; exact valid, by rw [takes.mapping]; exact copied⟩
    -- the copy that is served is given up in any case
    have drops : (coordinatorView T p s n).drop T.coordinator =
        (coordinatorView T p s n).dropIf (v.GivesUp T w) T.coordinator :=
      (if_pos (show v.GivesUp T w from Or.inl valid)).symm
    rw [if_pos rfl, view_serveWriteFromCopy good inRange worker registered page]
    dsimp only
    rw [drops]
    split
    next alone => exact .serveWrite _ _ _ takes worker source alone
    next others => exact .serveWriteWait _ _ _ _ takes worker source others
  | false =>
    rw [if_neg Bool.false_ne_true, view_serveReadFromCopy good inRange worker (status.trans valid),
      entry, mapping]
    exact .serveRead _ _ _ takes worker valid copied

omit ok in
/-- A request that is answered with zeros. -/
theorem move_serveZero (registered : n.nodeFds w = T.acceptedFd w) {isWrite : Bool}
    (takes : PageState.Takes T v w isWrite (coordinatorView T p s n))
    (absent : v.status T.coordinator ≠ .valid)
    (unowned : ¬ (coordinatorView T p s n).Fetchable w) :
    PageState.Move T v (.request w isWrite)
      (coordinatorView T p s (n.serveZeroPage (T.acceptedFd w) p w isWrite)) := by
  have entry : n.directory.entry p = v.entry := by rw [← takes.entry, coordinatorView_entry]
  cases isWrite with
  | true =>
    have source : (coordinatorView T p s n).Source T w 0 :=
      Or.inr ⟨by rw [takes.status]; exact absent, unowned, rfl⟩
    have drops : (coordinatorView T p s n).dropIf
        (T.coordinator ∈ (coordinatorView T p s n).entry.holders.erase w) T.coordinator =
          (coordinatorView T p s n).dropIf (v.GivesUp T w) T.coordinator := by
      simp only [PageState.dropIf, PageState.GivesUp, absent, false_or, takes.entry]
    rw [view_serveZeroWrite good inRange worker registered]
    dsimp only
    rw [drops]
    split
    next alone => exact .serveWrite _ _ _ takes worker source alone
    next others => exact .serveWriteWait _ _ _ _ takes worker source others
  | false =>
    have away : ¬ v.Present T w := by
      rintro (here | ⟨home, -⟩)
      · exact absent here
      · exact T.ne_coordinator worker home
    rw [view_serveZeroRead good inRange worker, entry]
    exact .zeroRead _ _ takes worker away unowned

end Request

omit ok in
/-- A request that the coordinator takes off a link is a move of its page. `v` is the page
before the packet was taken. -/
theorem move_handlePageRequest {v : PageState Page} {n n' : Node Page} {w : Nat}
    (good : CoordinatorOk T (n.registerSender (T.acceptedFd w) w)) (pages : n.numPages = T.numPages)
    (worker : w ∈ T.workers) (inRange : p < T.numPages) (packet : DsmPacket Page)
    (own : packet.pageIndex = p) (sender : packet.senderNodeId = w) (isWrite : Bool)
    (type : packet.type = Node.requestType isWrite)
    (takes : PageState.Takes T v w isWrite
      (coordinatorView T p s (n.registerSender (T.acceptedFd w) w)))
    (handled : n.handlePageRequest (T.acceptedFd w) packet = some n') :
    PageState.Move T v (.request w isWrite) (coordinatorView T p s n') := by
  have registered : (n.registerSender (T.acceptedFd w) w).nodeFds w = T.acceptedFd w := by
    simp [Node.registerSender, (T.workers_valid w worker).lt]
  unfold Node.handlePageRequest at handled
  dsimp only at handled
  rw [own, sender, if_pos (pages ▸ inRange)] at handled
  generalize n.registerSender (T.acceptedFd w) w = m at good takes handled registered
  have entry : m.directory.entry p = v.entry := by rw [← takes.entry, coordinatorView_entry]
  have slot : m.gpdPendingReqs p = v.slot := by rw [← takes.slot, coordinatorView_slot]
  have status : m.pageTable p = v.status T.coordinator := by
    rw [← takes.status, coordinatorView_status]
  have mapping : m.mapping p = v.mapping T.coordinator := by
    rw [← takes.mapping, coordinatorView_mapping]
  have writes : packet.type = .requestPageWrite ↔ isWrite = true := by
    rw [type]; cases isWrite <;> simp [Node.requestType]
  -- from the coordinator's own copy, from the owner's, or zeros
  by_cases valid : v.status T.coordinator = .valid
  · rw [if_pos (status.trans valid)] at handled
    split at handled
    · cases handled
    next page copied =>
      rw [mapping] at copied
      have served := move_serveFromCopy good worker inRange registered takes valid copied
      simp only [writes] at handled
      cases isWrite with
      | true =>
        rw [if_pos rfl] at handled served
        exact Option.some.inj handled ▸ served
      | false =>
        rw [if_neg Bool.false_ne_true] at handled served
        exact Option.some.inj handled ▸ served
  · rw [if_neg (by rwa [status])] at handled
    have absent : ¬ v.Present T w := by
      rintro (here | ⟨home, -⟩)
      · exact valid here
      · exact T.ne_coordinator worker home
    by_cases owned : (coordinatorView T p s m).Fetchable w
    · rw [if_pos ((fetchable_iff good s w).mp owned)] at handled
      cases handled
      rw [view_fetchFromOwner good _ _ _ _ (by simpa [gpdGetOwner] using owned.1), slot, type,
        gpdGetOwner, entry]
      exact .fetch _ _ _ _ takes absent owned
    · rw [if_neg fun asked => owned ((fetchable_iff good s w).mpr asked)] at handled
      cases handled
      have decided : decide (packet.type = .requestPageWrite) = isWrite := by
        cases isWrite <;> simp [writes]
      rw [decided]
      exact move_serveZero good worker inRange registered takes valid owned

omit ok in
/-- A page from a worker is a move of its page. `v` is the page before it was taken. -/
theorem move_handleSendPage {v : PageState Page} {n : Node Page} {o : Nat}
    (good : CoordinatorOk T n) (worker : o ∈ T.workers) (inRange : p < T.numPages)
    (packet : DsmPacket Page) (own : packet.pageIndex = p) (sendPage : packet.type = .sendPage)
    (rest : List (Msg Page)) (head : v.up o = .page packet.payload :: rest)
    (popped : coordinatorView T p s n = { v with up := Function.update v.up o rest }) :
    PageState.Move T v (.reply o) (coordinatorView T p s (n.handleSendPage packet)) := by
  have entry : n.directory.entry p = v.entry := by rw [← coordinatorView_entry T p s n, popped]
  have slot : n.gpdPendingReqs p = v.slot := by rw [← coordinatorView_slot T p s n, popped]
  unfold Node.handleSendPage
  dsimp only
  rw [own, if_pos (good.pages ▸ inRange)]
  by_cases free : v.slot.requesterNodeId = 0
  · -- no request is recorded: the page is the coordinator's own
    rw [if_neg fun both => both.2 (by rw [slot]; exact free), view_acceptPage packet own, popped]
    exact .unsolicited _ _ _ worker head free
  · rw [if_pos ⟨good.fd, by rwa [slot]⟩]
    by_cases write : v.slot.type = .requestPageWrite
    · rw [if_pos (by rw [slot]; exact write),
        view_replyToPendingWrite good inRange packet own sendPage (by rwa [slot]), popped, slot]
      dsimp only
      split
      next alone => exact .replyWrite _ _ _ worker head free write alone
      next others => exact .replyWriteWait _ _ _ worker head free write others
    · rw [if_neg (by rwa [slot])]
      have known := ((good.slots p).resolve_left (by rwa [slot])).1
      have shared := good.transitionToShared p _ known
      rw [view_completePending shared packet own sendPage
          (by simpa [Node.transitionToShared, slot] using free),
        view_transitionToShared good inRange, popped]
      simp only [Node.transitionToShared, slot, entry]
      exact .replyRead _ _ _ worker head free write

omit ok in
/-- An acknowledgement is a move of its page. -/
theorem move_handleInvalidateAck {v : PageState Page} {n : Node Page} {w : Nat}
    (good : CoordinatorOk T n) (worker : w ∈ T.workers) (inRange : p < T.numPages)
    (packet : DsmPacket Page) (own : packet.pageIndex = p)
    (counting : 0 < v.slot.expectedAcks → v.slot.requesterNodeId ≠ 0)
    (rest : List (Msg Page)) (head : v.up w = .ack :: rest)
    (popped : coordinatorView T p s n = { v with up := Function.update v.up w rest }) :
    PageState.Move T v (.ack w) (coordinatorView T p s (n.handleInvalidateAck packet)) := by
  have status : n.pageTable p = v.status T.coordinator := by
    rw [← coordinatorView_status T p s n, popped]
  have slot : n.gpdPendingReqs p = v.slot := by rw [← coordinatorView_slot T p s n, popped]
  unfold Node.handleInvalidateAck
  dsimp only
  rw [own, if_pos (good.pages ▸ inRange), slot]
  by_cases waiting : 0 < v.slot.expectedAcks
  · have live := counting waiting
    have counted := good.setPending p { v.slot with expectedAcks := v.slot.expectedAcks - 1 }
      (by rw [← slot]; exact good.slots p)
    rw [if_pos waiting]
    by_cases more : 1 < v.slot.expectedAcks
    · rw [if_neg (by omega), view_setPending, popped]
      exact .ackCounted _ _ worker head more
    · have last : v.slot.expectedAcks = 1 := by omega
      rw [if_pos (by omega), view_grantDeferred counted (by simpa [Node.setPending] using live),
        view_setPending, popped]
      simp only [Node.setPending, Function.update_self, last, Nat.sub_self, status]
      split
      next upgrading => exact .ackLift _ _ worker head last upgrading.1 upgrading.2
      next payload => exact .ackGrant _ _ worker head last live payload
  · rw [if_neg waiting, popped]
    exact .ackIgnored _ _ worker head (by omega)

end CoordinatorStep

/-! ### Steps of a worker -/

section WorkerStep

variable {T : Topology} {p : Nat} {s : Cluster Page} {w : Nat}

theorem workerView_self (ok : ClusterOk T s) (worker : w ∈ T.workers) :
    workerView T p s w (s.node w) = s.pageState T p := by
  rw [workerView_eq T p s _ worker]
  simp only [ok.idle, sentOn_nil, List.filterMap_nil, List.append_nil]
  simp [Cluster.pageState]

theorem pageState_dropDown (rest : List (DsmPacket Page)) :
    ({ s with toWorker := Function.update s.toWorker w rest } : Cluster Page).pageState T p =
      { s.pageState T p with
        down := Function.update (s.pageState T p).down w (rest.filterMap (downMsg p)) } := by
  simp only [Cluster.pageState, Cluster.entry, Cluster.slot, PageState.mk.injEq, true_and]
  funext v
  by_cases same : v = w
  · subst v; simp
  · simp [same]

variable [Zero Page]

section Receives

variable {v : PageState Page} {n : Node Page} (good : WorkerOk T w n) (worker : w ∈ T.workers)
  (inRange : p < T.numPages) (packet : DsmPacket Page) (own : packet.pageIndex = p)
  (rest : List (Msg Page))
  (popped : workerView T p s w n = { v with down := Function.update v.down w rest })
include good worker inRange own popped

omit [Zero Page] good inRange own in
/-- A worker that has touched nothing of the page answers with a page. -/
theorem workerView_reply (page : Page) {m : Node Page} (tables : m.pageTable = n.pageTable)
    (mappings : m.mapping = n.mapping) (queues : m.sharedReqQueue = n.sharedReqQueue)
    (sends : m.effects = n.effects) (id : Nat) :
    workerView T p s w (m.sendAllNonblocking (T.connectFd w) ⟨.sendPage, p, id, page⟩) =
      { v with
        down := Function.update v.down w rest
        up := Function.update v.up w (v.up w ++ [.page page]) } := by
  have view : workerView T p s w m = workerView T p s w n := by
    simp only [workerView_eq T p s _ worker, tables, mappings, queues, sends]
  rw [workerView_send T p s _ worker _ (.page page) (by simp [upMsg]), view, popped]

/-- A packet from the coordinator is a move of its page at the worker. `v` is the page before it
was taken. -/
theorem move_dispatchPacket {n' : Node Page} (down : DownPacket T packet) (m : Msg Page)
    (decoded : downMsg p packet = some m) (head : v.down w = m :: rest)
    (handled : n.dispatchPacket (T.connectFd w) packet = some n') :
    PageState.Move T v (.receive w) (workerView T p s w n') := by
  have status : n.pageTable p = v.status w := by
    have := congrArg (fun u => u.status w) popped
    simpa [workerView_eq T p s n worker] using this
  have mapping : n.mapping p = v.mapping w := by
    have := congrArg (fun u => u.mapping w) popped
    simpa [workerView_eq T p s n worker] using this
  cases good.takes worker down handled with
  | outside outside => exact absurd (own ▸ good.pages ▸ inRange) outside
  | page kind =>
    simp only [downMsg, own, if_true, kind, Option.some.injEq] at decoded
    subst decoded
    rw [workerView_accept T p s n worker packet own, popped]
    exact .receivePage _ _ _ worker head
  | invalidate kind =>
    simp only [downMsg, own, if_true, kind, Option.some.injEq] at decoded
    subst decoded
    rw [own, good.fd, workerView_send T p s _ worker _ .ack (by simp [upMsg]),
      workerView_drop T p s n worker p rfl, popped]
    exact .receiveInvalidate _ _ worker head
  | fetch kind _ page source =>
    simp only [downMsg, own, if_true, kind, Option.some.injEq] at decoded
    subst decoded
    rw [own, status, mapping] at source
    rw [own, workerView_reply worker rest popped page]
    · exact .receiveFetch _ page _ worker head source
    all_goals rfl

end Receives

/-- A worker passes a queued request on to the coordinator. -/
theorem move_forward {v : PageState Page} {n : Node Page} (good : WorkerOk T w n)
    (worker : w ∈ T.workers) (req : PageRequest) (own : req.pageIndex = p) (rest : List Bool)
    (head : v.queued w = req.isWrite :: rest)
    (popped : workerView T p s w n = { v with queued := Function.update v.queued w rest }) :
    PageState.Move T v (.forward w) (workerView T p s w (n.serveQueuedRequest req)) := by
  have connected := good.connected worker
  unfold Node.serveQueuedRequest
  dsimp only
  rw [if_pos connected, good.fd, workerView_send T p s n worker _ (.request req.isWrite)
    (by cases write : req.isWrite <;> simp [upMsg, own, Node.requestType]), popped]
  exact .forward w req.isWrite rest worker head

end WorkerStep

end TeleportVM
