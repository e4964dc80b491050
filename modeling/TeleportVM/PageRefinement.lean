import TeleportVM.Simulation

/-!
Every step of the cluster, seen from one page: a move of the protocol, or nothing. An
invariant of the moves is then an invariant of the cluster's runs.
-/
namespace TeleportVM

variable {Page : Type}

/-- What an event does about page `p`, if anything. -/
def Cluster.pageLabel (T : Topology) (p : Nat) (s : Cluster Page) :
    Event Page → Option (PageLabel Page)
  | .load _ _ => none
  | .store n q page =>
    if q = p ∧ ((s.node n).mapping p).isWritable = true then some (.store n page) else none
  | .fault n => (s.node n).uffdMessages.head?.bind fun fault =>
    if fault.pageIndex ≠ p ∨ ((s.node n).pageTable p = .valid ∧ fault.isWrite = false) then none
    else if (s.node n).sharedReqQueue.length = queueCapacity then some (.overflow n)
    else some (.enqueue n fault.isWrite)
  | .drain n => (s.node n).sharedReqQueue.head?.bind fun req =>
    if req.pageIndex ≠ p then none
    else if n = T.coordinator then some (.request n req.isWrite)
    else some (.forward n)
  | .toCoordinator w => (s.toCoordinator w).head?.bind fun packet =>
    if packet.type = .nodeJoin then some (.join w)
    else if packet.pageIndex = p then
      match packet.type with
      | .requestPageRead => some (.request w false)
      | .requestPageWrite => some (.request w true)
      | .sendPage => some (.reply w)
      | .invalidateAck => some (.ack w)
      | _ => none
    -- a request for another page still registers its sender
    else if packet.ask.isSome ∧ packet.pageIndex < T.numPages then some (.join w)
    else none
  | .toWorker w => (s.toWorker w).head?.bind fun packet =>
    if packet.pageIndex = p then some (.receive w) else none
  | .evict _ => none

/-- A move of the page, or no change of it. -/
def PageStep [Zero Page] (T : Topology) (v : PageState Page) (label : Option (PageLabel Page))
    (v' : PageState Page) : Prop :=
  match label with
  | none => v' = v
  | some label => PageState.Move T v label v'

/-! ### A node that gave up its thread, whichever node it is -/

/-- The page as it stands when node `n` gives up its thread in state `node`. -/
def nodeView (T : Topology) (p : Nat) (s : Cluster Page) (n : Nat) (node : Node Page) :
    PageState Page := (s.settle T n node).pageState T p

section Node

variable {T : Topology} {p : Nat} {s : Cluster Page} {n : Nat} (member : n ∈ T.nodes)
include member

theorem nodeView_congr {a b : Node Page} (same : a.about p = b.about p) :
    nodeView T p s n a = nodeView T p s n b := by
  rcases Finset.mem_insert.mp member with rfl | worker
  · exact coordinatorView_congr T p s same
  · exact workerView_congr T p s worker same

theorem nodeView_self (ok : ClusterOk T s) : nodeView T p s n (s.node n) = s.pageState T p := by
  rcases Finset.mem_insert.mp member with rfl | worker
  · exact coordinatorView_self ok
  · exact workerView_self ok worker

theorem nodeView_setStatus (node : Node Page) (st : PageStatus) :
    nodeView T p s n (node.setStatus p st) = (nodeView T p s n node).setStatus n st := by
  rcases Finset.mem_insert.mp member with rfl | worker
  · exact view_setStatus T p s node st
  · exact workerView_setStatus T p s node worker st

theorem nodeView_setMapping (node : Node Page) (m : Mapping Page) :
    nodeView T p s n (node.setMapping p m) = (nodeView T p s n node).setMapping n m := by
  rcases Finset.mem_insert.mp member with rfl | worker
  · exact view_setMapping T p s node m
  · exact workerView_setMapping T p s node worker m

theorem nodeView_queue (node : Node Page) (queue : List PageRequest) :
    nodeView T p s n { node with sharedReqQueue := queue } =
      { nodeView T p s n node with
        queued := Function.update (nodeView T p s n node).queued n (queuedFor p queue) } := by
  rcases Finset.mem_insert.mp member with rfl | worker
  · exact view_queue T p s node queue
  · exact workerView_queue T p s node worker queue

omit member in
theorem nodeView_status (node : Node Page) : (nodeView T p s n node).status n = node.pageTable p := by
  simp [nodeView, Cluster.pageState, Cluster.settle]

omit member in
theorem nodeView_queued (node : Node Page) :
    (nodeView T p s n node).queued n = queuedFor p node.sharedReqQueue := by
  simp [nodeView, Cluster.pageState, Cluster.settle]

end Node

/-! ### The steps -/

section Step

variable {T : Topology} {p : Nat} {s t : Cluster Page}

theorem pageState_raise (n : Nat) (fault : PageRequest) :
    (s.raise n fault).pageState T p = s.pageState T p := by
  have same : ∀ m, ((s.raise n fault).node m).about p = (s.node m).about p := by
    intro m
    simp only [Cluster.raise]
    by_cases own : m = n
    · subst own; simp [Node.about]
    · simp [own]
  have views := fun m => congrArg NodePage.mapping (same m)
  have statuses := fun m => congrArg NodePage.status (same m)
  have queues := fun m => congrArg NodePage.queued (same m)
  have home := same T.coordinator
  simp only [Node.about, NodePage.mk.injEq] at views statuses queues home
  simp only [Cluster.pageState, Cluster.entry, Cluster.slot, views, statuses, queues, home]
  rfl

theorem queuedFor_append (p : Nat) (queue : List PageRequest) (req : PageRequest)
    (own : req.pageIndex = p) : queuedFor p (queue ++ [req]) = queuedFor p queue ++ [req.isWrite] := by
  simp [queuedFor, own]

theorem queuedFor_other (p : Nat) (rest : List PageRequest) (req : PageRequest)
    (other : req.pageIndex ≠ p) : queuedFor p (req :: rest) = queuedFor p rest := by
  simp [queuedFor, other]

variable [Zero Page]

theorem store_step (ok : ClusterOk T s) {n q : Nat} {page : Page}
    (next : s.storeStep T n q page = some t) :
    PageStep T (s.pageState T p) (s.pageLabel T p (.store n q page)) (t.pageState T p) := by
  simp only [Cluster.pageLabel]
  obtain ⟨member, -, ⟨writable, rfl⟩ | ⟨readOnly, rfl⟩⟩ := Cluster.storeStep_cases next
  · change PageStep T _ _ (nodeView T p s n _)
    by_cases own : q = p
    · subst own
      rw [if_pos ⟨rfl, writable⟩, nodeView_setMapping member, nodeView_self member ok]
      exact .store n page member writable
    · rw [if_neg fun both => own both.1]
      exact (nodeView_congr member (Node.about_setMapping own _ _)).trans (nodeView_self member ok)
  · have silent : ¬ (q = p ∧ ((s.node n).mapping p).isWritable = true) := by
      rintro ⟨rfl, writable⟩
      exact Bool.eq_false_iff.mp readOnly writable
    rw [if_neg silent]
    exact pageState_raise n _

/-- The fault handler and a fault on the page. -/
theorem move_handleFault {n : Nat} (member : n ∈ T.nodes) (node : Node Page) (fault : PageRequest)
    (own : fault.pageIndex = p)
    (needed : ¬ (node.pageTable p = .valid ∧ fault.isWrite = false)) :
    PageState.Move T (nodeView T p s n node)
      (if node.sharedReqQueue.length = queueCapacity then .overflow n else .enqueue n fault.isWrite)
      (nodeView T p s n (node.handleFault fault)) := by
  subst own
  unfold Node.handleFault
  simp only [if_neg needed, Node.queuePush]
  rw [← nodeView_status (T := T) (p := fault.pageIndex) (s := s) (n := n) node] at needed ⊢
  have marked := nodeView_setStatus (p := fault.pageIndex) (s := s) member node
    (Node.faultStatus ((nodeView T fault.pageIndex s n node).status n) fault.isWrite)
  by_cases full : node.sharedReqQueue.length = queueCapacity
  · rw [if_pos full, if_pos (by exact full), Option.getD_none, nodeView_setStatus member, marked]
    simp only [PageState.setStatus, Function.update_idem]
    exact .overflow n member
  · have pushed := nodeView_queue (p := fault.pageIndex) (s := s) member
      (node.setStatus fault.pageIndex
        (Node.faultStatus ((nodeView T fault.pageIndex s n node).status n) fault.isWrite))
      (node.sharedReqQueue ++ [fault])
    rw [marked, queuedFor_append _ _ _ rfl, ← nodeView_queued (T := T) (s := s) (n := n) node] at pushed
    rw [if_neg full, if_neg (by exact full), Option.getD_some]
    exact Eq.subst (motive := fun v => PageState.Move T _ _ v) pushed.symm
      (.enqueue n fault.isWrite member needed)

theorem fault_step (ok : ClusterOk T s) {n : Nat} (next : s.faultStep T n = some t) :
    PageStep T (s.pageState T p) (s.pageLabel T p (.fault n)) (t.pageState T p) := by
  obtain ⟨member, fault, rest, waiting, rfl⟩ := Cluster.faultStep_cases next
  have start : nodeView T p s n { s.node n with uffdMessages := rest } = s.pageState T p := by
    rw [← nodeView_self member ok]
    exact nodeView_congr member rfl
  simp only [Cluster.pageLabel, waiting, List.head?_cons, Option.bind_some]
  change PageStep T _ _ (nodeView T p s n _)
  by_cases own : fault.pageIndex = p
  · by_cases present : (s.node n).pageTable p = .valid ∧ fault.isWrite = false
    · rw [if_pos (Or.inr present)]
      unfold Node.handleFault
      dsimp only
      rw [own, if_pos present]
      exact start
    · have handled := move_handleFault (s := s) member { s.node n with uffdMessages := rest }
        fault own present
      rw [if_neg (by simpa [own] using present)]
      rw [start] at handled
      split
      next full => rwa [if_pos (by exact full)] at handled
      next room => rwa [if_neg (by exact room)] at handled
  · rw [if_pos (Or.inl own)]
    refine (nodeView_congr member ?_).trans start
    exact Node.about_handleFault own _ fault rfl

theorem drain_step (ok : ClusterOk T s) (inRange : p < T.numPages) {n : Nat}
    (next : s.drainStep T n = some t) :
    PageStep T (s.pageState T p) (s.pageLabel T p (.drain n)) (t.pageState T p) := by
  obtain ⟨member, req, rest, queue, rfl⟩ := Cluster.drainStep_cases next
  simp only [Cluster.pageLabel, queue, List.head?_cons, Option.bind_some]
  change PageStep T _ _ (nodeView T p s n _)
  by_cases own : req.pageIndex = p
  · rw [if_neg (not_not.mpr own)]
    rcases Finset.mem_insert.mp member with rfl | worker
    · rw [if_pos rfl]
      exact move_serveQueuedRequest (coordinator_queue ok rest req queue) inRange req own
        (takes_queued ok req rest queue own)
    · rw [if_neg (T.ne_coordinator worker)]
      have good := ok.workers n worker
      have popped := workerView_queue T p s (s.node n) worker rest
      rw [workerView_self ok worker] at popped
      refine move_forward ?_ worker req own _ ?_ popped
      · refine good.setRequests _ _ fun q found => ?_
        rw [queue]
        exact found.imp_left (List.mem_cons_of_mem _)
      · simp only [Cluster.pageState, queue]
        exact queuedFor_cons req rest own
  · rw [if_pos own]
    have emptied : nodeView T p s n { s.node n with sharedReqQueue := rest } =
        nodeView T p s n (s.node n) := by
      apply nodeView_congr member
      simp only [Node.about, queue, queuedFor_other p rest req own]
    refine (nodeView_congr member ?_).trans (emptied.trans (nodeView_self member ok))
    exact Node.about_serveQueuedRequest own _ req rfl

omit [Zero Page] in
theorem up_cons {w : Nat} {packet : DsmPacket Page} {rest : List (DsmPacket Page)}
    (head : s.toCoordinator w = packet :: rest) {m : Msg Page} (decoded : upMsg p packet = some m) :
    (s.pageState T p).up w = m :: rest.filterMap (upMsg p) := by
  simp [Cluster.pageState, head, decoded]

omit [Zero Page] in
/-- A packet that says nothing about the page leaves the link unnoticed. -/
theorem pageState_dropUp_silent {w : Nat} {packet : DsmPacket Page} {rest : List (DsmPacket Page)}
    (head : s.toCoordinator w = packet :: rest) (silent : upMsg p packet = none) :
    ({ s with toCoordinator := Function.update s.toCoordinator w rest } : Cluster Page).pageState T p =
      s.pageState T p := by
  have same : rest.filterMap (upMsg p) = (s.pageState T p).up w := by
    simp [Cluster.pageState, head, silent]
  rw [pageState_dropUp, same, Function.update_eq_self]

omit [Zero Page] in
theorem pageState_dropDown_silent {w : Nat} {packet : DsmPacket Page}
    {rest : List (DsmPacket Page)} (head : s.toWorker w = packet :: rest)
    (silent : downMsg p packet = none) :
    ({ s with toWorker := Function.update s.toWorker w rest } : Cluster Page).pageState T p =
      s.pageState T p := by
  have same : rest.filterMap (downMsg p) = (s.pageState T p).down w := by
    simp [Cluster.pageState, head, silent]
  rw [pageState_dropDown, same, Function.update_eq_self]

omit [Zero Page] in
/-- A request about page `p` from worker `w` comes off its link, and its sender is registered. -/
theorem takes_request (ok : ClusterOk T s) {w : Nat} (worker : w ∈ T.workers)
    {packet : DsmPacket Page} {rest : List (DsmPacket Page)}
    (head : s.toCoordinator w = packet :: rest) (own : packet.pageIndex = p)
    (isWrite : Bool) (type : packet.type = Node.requestType isWrite) :
    PageState.Takes T (s.pageState T p) w isWrite
      (coordinatorView T p { s with toCoordinator := Function.update s.toCoordinator w rest }
        ((s.node T.coordinator).registerSender (T.acceptedFd w) w)) := by
  have decoded : upMsg p packet = some (.request isWrite) := by
    cases isWrite <;> simp [upMsg, own, type, Node.requestType]
  have popped := coordinatorView_self (p := p) (ok.dropUp head)
  rw [coordinatorView_register worker]
  rw [show coordinatorView T p _ (s.node T.coordinator) = _ from popped, pageState_dropUp]
  exact .remote w isWrite _ worker (up_cons head decoded)

private theorem request_step (ok : ClusterOk T s) (inRange : p < T.numPages) {w : Nat}
    (worker : w ∈ T.workers) {packet : DsmPacket Page} {rest : List (DsmPacket Page)}
    (head : s.toCoordinator w = packet :: rest) (own : packet.pageIndex = p)
    (isWrite : Bool) (type : packet.type = Node.requestType isWrite) {node : Node Page}
    (handled : (s.node T.coordinator).handlePageRequest (T.acceptedFd w) packet = some node) :
    PageState.Move T (s.pageState T p) (.request w isWrite)
      (coordinatorView T p
        { s with toCoordinator := Function.update s.toCoordinator w rest } node) :=
  move_handlePageRequest (ok.coordinator.registerSender worker) ok.coordinator.pages worker
    inRange packet own (ok.up w worker packet (by simp [head])).1 isWrite type
    (takes_request ok worker head own isWrite type) handled

omit [Zero Page] in
/-- A packet of another page that registers nobody. -/
private theorem silent_step (ok : ClusterOk T s) {w : Nat} {packet : DsmPacket Page}
    {rest : List (DsmPacket Page)} (head : s.toCoordinator w = packet :: rest)
    (silent : upMsg p packet = none) (node : Node Page)
    (same : node.about p = (s.node T.coordinator).about p) :
    coordinatorView T p { s with toCoordinator := Function.update s.toCoordinator w rest } node =
      s.pageState T p := by
  rw [coordinatorView_congr T p _ same, ← pageState_dropUp_silent head silent]
  exact coordinatorView_self (ok.dropUp head)

private theorem join_step (ok : ClusterOk T s) {w : Nat} (worker : w ∈ T.workers)
    {packet : DsmPacket Page} {rest : List (DsmPacket Page)}
    (head : s.toCoordinator w = packet :: rest) (silent : upMsg p packet = none) {node : Node Page}
    (same : node.about p = ((s.node T.coordinator).registerSender (T.acceptedFd w) w).about p) :
    PageState.Move T (s.pageState T p) (.join w)
      (coordinatorView T p
        { s with toCoordinator := Function.update s.toCoordinator w rest } node) := by
  rw [coordinatorView_congr T p _ same, coordinatorView_register worker]
  have before := silent_step (p := p) ok head silent (s.node T.coordinator) rfl
  rw [show coordinatorView T p _ (s.node T.coordinator) = _ from before]
  exact .join w worker

/-- A request about another page registers its sender, when that page exists. -/
private theorem other_request_step (ok : ClusterOk T s) {w : Nat} (worker : w ∈ T.workers)
    {packet : DsmPacket Page} {rest : List (DsmPacket Page)}
    (head : s.toCoordinator w = packet :: rest) (other : packet.pageIndex ≠ p)
    {node : Node Page}
    (handled : (s.node T.coordinator).handlePageRequest (T.acceptedFd w) packet = some node) :
    PageStep T (s.pageState T p)
      (if packet.pageIndex < T.numPages then some (.join w) else none)
      (coordinatorView T p
        { s with toCoordinator := Function.update s.toCoordinator w rest } node) := by
  have about := Node.about_handlePageRequest other _ _ packet rfl handled
  rw [ok.coordinator.pages, (ok.up w worker packet (by simp [head])).1] at about
  split
  next inside =>
    rw [if_pos inside] at about
    exact join_step ok worker head (upMsg_foreign p packet other) about
  next outside =>
    rw [if_neg outside] at about
    exact silent_step ok head (upMsg_foreign p packet other) _ about

theorem toCoordinator_step (ok : ClusterOk T s) (inRange : p < T.numPages)
    {w : Nat} (counting : s.pageLabel T p (.toCoordinator w) = some (.ack w) →
      0 < (s.slot T p).expectedAcks → (s.slot T p).requesterNodeId ≠ 0)
    (next : s.toCoordinatorStep T w = some t) :
    PageStep T (s.pageState T p) (s.pageLabel T p (.toCoordinator w)) (t.pageState T p) := by
  obtain ⟨worker, packet, rest, node, head, handled, rfl⟩ := Cluster.toCoordinatorStep_cases next
  obtain ⟨sender, notInvalidate⟩ := ok.up w worker packet (by simp [head])
  have popped := coordinatorView_self (p := p) (ok.dropUp head)
  rw [pageState_dropUp] at popped
  have good := (ok.dropUp head).coordinator
  simp only [Cluster.pageLabel, head, List.head?_cons, Option.bind_some] at counting ⊢
  change PageStep T _ _ (coordinatorView T p _ node)
  -- a packet is a move of the page that it names, and any other page stands still
  cases type : packet.type with
  | nodeJoin =>
    -- a join names no page: every page sees the new descriptor
    simp only [Node.dispatchPacket, type, Option.some.injEq] at handled
    subst handled
    rw [if_pos rfl]
    refine join_step ok worker head (by simp [upMsg, type]) ?_
    rw [Node.handleNodeJoin, sender]
  | requestPageRead =>
    simp only [Node.dispatchPacket, type] at handled
    rw [if_neg (by simp)]
    by_cases own : packet.pageIndex = p
    · rw [if_pos own]
      exact request_step ok inRange worker head own false type handled
    · rw [if_neg own]
      simp only [DsmPacket.ask, type, Option.isSome_some, true_and]
      exact other_request_step ok worker head own handled
  | requestPageWrite =>
    simp only [Node.dispatchPacket, type] at handled
    rw [if_neg (by simp)]
    by_cases own : packet.pageIndex = p
    · rw [if_pos own]
      exact request_step ok inRange worker head own true type handled
    · rw [if_neg own]
      simp only [DsmPacket.ask, type, Option.isSome_some, true_and]
      exact other_request_step ok worker head own handled
  | sendPage =>
    simp only [Node.dispatchPacket, type, Option.some.injEq] at handled
    subst handled
    rw [if_neg (by simp)]
    by_cases own : packet.pageIndex = p
    · rw [if_pos own]
      exact move_handleSendPage good worker inRange packet own type _
        (up_cons head (by simp [upMsg, own, type])) popped
    · rw [if_neg own, if_neg (by simp [DsmPacket.ask, type])]
      exact silent_step ok head (upMsg_foreign p packet own) _
        (Node.about_handleSendPage own _ packet rfl)
  | invalidateAck =>
    simp only [Node.dispatchPacket, type, Option.some.injEq] at handled
    subst handled
    rw [if_neg (by simp)]
    by_cases own : packet.pageIndex = p
    · rw [if_pos own]
      exact move_handleInvalidateAck good worker inRange packet own
        (counting (by simp [type, own])) _
        (up_cons head (by simp [upMsg, own, type])) popped
    · rw [if_neg own, if_neg (by simp [DsmPacket.ask, type])]
      exact silent_step ok head (upMsg_foreign p packet own) _
        (Node.about_handleInvalidateAck own _ packet rfl)
  | invalidate => exact absurd type notInvalidate
  -- the engine drops a packet of an unknown type
  | other code =>
    simp only [Node.dispatchPacket, type, Option.some.injEq] at handled
    subst handled
    rw [if_neg (by simp)]
    have silent : upMsg p packet = none := by simp [upMsg, type]
    split
    · exact silent_step ok head silent _ rfl
    · rw [if_neg (by simp [DsmPacket.ask, type])]
      exact silent_step ok head silent _ rfl

/-- A worker's packet about another page changes nothing that the page sees. -/
private theorem other_dispatch (s : Cluster Page) {w : Nat} (worker : w ∈ T.workers)
    {packet : DsmPacket Page} (other : packet.pageIndex ≠ p) (down : DownPacket T packet)
    {n node : Node Page} {fd : Int} (handled : n.dispatchPacket fd packet = some node) :
    workerView T p s w node = workerView T p s w n := by
  rcases down with type | type | ⟨type, -⟩
  · simp only [Node.dispatchPacket, type, Option.some.injEq] at handled
    exact handled ▸ workerView_congr T p s worker (Node.about_handleSendPage other _ packet rfl)
  · simp only [Node.dispatchPacket, type, Option.some.injEq] at handled
    exact handled ▸ workerView_congr T p s worker (Node.about_handleInvalidate other _ _ packet rfl)
  · simp only [Node.dispatchPacket, type] at handled
    have about := Node.about_handlePageRequest other _ _ packet rfl handled
    split at about
    · rw [workerView_congr T p s worker about]
      simp [workerView_eq T p s _ worker, Node.registerSender]
    · exact workerView_congr T p s worker about

theorem toWorker_step (ok : ClusterOk T s) (inRange : p < T.numPages) {w : Nat}
    (next : s.toWorkerStep T w = some t) :
    PageStep T (s.pageState T p) (s.pageLabel T p (.toWorker w)) (t.pageState T p) := by
  obtain ⟨worker, packet, rest, node, head, handled, rfl⟩ := Cluster.toWorkerStep_cases next
  have down := ok.down w worker packet (by simp [head])
  have popped := workerView_self (p := p) (ok.dropDown head) worker
  simp only [Cluster.pageLabel, head, List.head?_cons, Option.bind_some]
  change PageStep T _ _ (workerView T p _ w node)
  by_cases own : packet.pageIndex = p
  · rw [if_pos own]
    rw [pageState_dropDown] at popped
    obtain ⟨m, decoded⟩ : ∃ m, downMsg p packet = some m := by
      rcases down with type | type | ⟨type, -⟩ <;> simp [downMsg, own, type]
    exact move_dispatchPacket (ok.workers w worker) worker inRange packet own _ popped down m decoded
      (by simp [Cluster.pageState, head, decoded]) handled
  · rw [if_neg own]
    rw [pageState_dropDown_silent head (downMsg_foreign p packet own)] at popped
    exact (other_dispatch _ worker own down handled).trans popped

/-- Every step but an eviction is, seen from a page, a move of the page or nothing. Only an
acknowledgement needs a recorded requester. -/
theorem step_moves (ok : ClusterOk T s) (inRange : p < T.numPages)
    {e : Event Page} (counting : (∃ w, s.pageLabel T p e = some (.ack w)) →
      0 < (s.slot T p).expectedAcks → (s.slot T p).requesterNodeId ≠ 0)
    (keeps : e.isEviction = false) (next : s.step T e = some t) :
    PageStep T (s.pageState T p) (s.pageLabel T p e) (t.pageState T p) := by
  cases e with
  | load n q =>
    obtain ⟨-, -, ⟨-, rfl⟩ | ⟨-, rfl⟩⟩ := Cluster.loadStep_cases next
    · rfl
    · exact pageState_raise n _
  | store n q page => exact store_step ok next
  | fault n => exact fault_step ok next
  | drain n => exact drain_step ok inRange next
  | toCoordinator w => exact toCoordinator_step ok inRange (fun ack => counting ⟨w, ack⟩) next
  | toWorker w => exact toWorker_step ok inRange next
  | evict w => cases keeps

end Step

/-! ### Runs -/

/-- A page before anything happened. -/
def PageState.initial [Zero Page] : PageState Page where
  entry := ⟨.invalid, 0, 0⟩
  slot := ⟨0, .other 0, 0, 0, 0⟩
  joined := ∅
  status _ := .empty
  mapping _ := .unmapped
  queued _ := []
  up _ := []
  down _ := []

theorem pageState_initial [Zero Page] (T : Topology) (p : Nat) :
    (Cluster.initial T : Cluster Page).pageState T p = .initial := by
  have nobody : joinedWorkers T (fun _ => -1) = ∅ := by simp [joinedWorkers]
  unfold Cluster.pageState PageState.initial
  rw [PageState.mk.injEq]
  refine ⟨rfl, rfl, nobody, rfl, rfl, rfl, ?_, rfl⟩
  funext w
  by_cases worker : w ∈ T.workers <;> simp [Cluster.initial, worker, upMsg]

/-- What well-formedness of the cluster says of one page. -/
structure PageOk (T : Topology) (v : PageState Page) : Prop where
  entry : v.entry.WellFormed
  joined : v.joined ⊆ T.workers
  holders : v.entry.holders ⊆ insert T.coordinator v.joined
  slot : v.slot.requesterNodeId = 0 ∨ v.slot.requesterNodeId ∈ T.nodes

theorem ClusterOk.pageOk {T : Topology} {s : Cluster Page} (ok : ClusterOk T s) (p : Nat) :
    PageOk T (s.pageState T p) where
  entry := ok.coordinator.entries p
  joined := Finset.filter_subset _ _
  holders m holder := by
    rcases ok.coordinator.holders p m holder with rfl | ⟨worker, connected⟩
    · exact Finset.mem_insert_self _ _
    · refine Finset.mem_insert_of_mem (Finset.mem_filter.mpr ⟨worker, ?_⟩)
      rw [connected]
      exact T.acceptedFd_open m worker
  slot := (ok.coordinator.slots p).imp_right fun owned => owned.1.mem

/-- A request that the coordinator handles is a request of the page it is about. -/
theorem pageLabel_of_asks [Zero Page] {T : Topology} {s t : Cluster Page} {e : Event Page}
    {ask : PageAsk} (ok : ClusterOk T s) (asked : s.asks T e = some ask)
    (next : s.step T e = some t) :
    s.pageLabel T ask.page e = some (.request ask.requester ask.isWrite) := by
  cases e with
  | drain n =>
    unfold Cluster.asks at asked
    simp only at asked
    split at asked
    next own =>
      obtain ⟨req, head, rfl⟩ := Option.map_eq_some_iff.mp asked
      subst own
      simp [Cluster.pageLabel, head]
    · cases asked
  | toCoordinator w =>
    obtain ⟨packet, head, asked⟩ := Option.bind_eq_some_iff.mp asked
    have worker : w ∈ T.workers := by
      by_contra outside
      simp [Cluster.step, Cluster.toCoordinatorStep, outside] at next
    have sender := (ok.up w worker packet (List.mem_of_mem_head? head)).1
    simp only [Cluster.pageLabel, head, Option.bind_some]
    unfold DsmPacket.ask at asked
    split at asked
    next type => cases asked; simp [type, sender]
    next type => cases asked; simp [type, sender]
    · cases asked
  | load | store | fault | toWorker | evict => cases asked

/-- The steps that keep every node's pages and meet a condition on what they do about a page. -/
def Cluster.Meets (T : Topology) (p : Nat) (condition : PageState Page → PageLabel Page → Prop)
    (s : Cluster Page) (e : Event Page) : Prop :=
  e.isEviction = false ∧ ∀ label ∈ s.pageLabel T p e, condition (s.pageState T p) label

instance (T : Topology) (p : Nat) (condition : PageState Page → PageLabel Page → Prop)
    [∀ v label, Decidable (condition v label)] (s : Cluster Page) (e : Event Page) :
    Decidable (s.Meets T p condition e) := inferInstanceAs (Decidable (_ ∧ _))

/-- An invariant of the moves that meet a condition is kept by every run of steps that
meet it. -/
theorem page_invariant_from [Zero Page] {T : Topology} {p : Nat} (inRange : p < T.numPages)
    {condition : PageState Page → PageLabel Page → Prop} {inv : PageState Page → Prop}
    (counting : ∀ v, inv v → 0 < v.slot.expectedAcks → v.slot.requesterNodeId ≠ 0)
    (preserved : ∀ v label v', PageOk T v → condition v label → inv v →
      PageState.Move T v label v' → inv v')
    {s t : Cluster Page} (ok : ClusterOk T s) (holds : inv (s.pageState T p))
    (run : Runs.Run (Cluster.step T) (Cluster.Meets T p condition) s t) :
    inv (t.pageState T p) := by
  refine (run.invariant (fun s => ClusterOk T s ∧ inv (s.pageState T p)) ⟨ok, holds⟩ ?_).2
  rintro a e b ⟨ok, holds⟩ ⟨keeps, meets⟩ next
  refine ⟨ok.step next, ?_⟩
  have moved := step_moves ok inRange (fun _ => counting _ holds) keeps next
  unfold PageStep at moved
  split at moved
  · exact moved ▸ holds
  next label same => exact preserved _ label _ (ok.pageOk p) (meets label same) holds moved

theorem page_invariant [Zero Page] {T : Topology} {p : Nat} (inRange : p < T.numPages)
    {condition : PageState Page → PageLabel Page → Prop} {inv : PageState Page → Prop}
    (counting : ∀ v, inv v → 0 < v.slot.expectedAcks → v.slot.requesterNodeId ≠ 0)
    (initial : inv .initial)
    (preserved : ∀ v label v', PageOk T v → condition v label → inv v →
      PageState.Move T v label v' → inv v')
    {s : Cluster Page}
    (run : Runs.Run (Cluster.step T) (Cluster.Meets T p condition) (Cluster.initial T) s) :
    inv (s.pageState T p) :=
  page_invariant_from inRange counting preserved (ClusterOk.initial T)
    (by rwa [pageState_initial]) run

end TeleportVM
