import TeleportVM.EngineTransaction

/-!
One request handled to completion by the coordinator's network engine and the workers, with no
other packet in flight: it is always completed, and always with the same result.
-/
namespace TeleportVM

open Links (each)

variable {Page : Type}

/-- Of all packets in flight only the answer to `r` is left. -/
structure GrantSent (T : Topology) (p r : Nat) (contents : Page)
    (toCoordinator toWorker : Nat → List (DsmPacket Page)) : Prop where
  up : ∀ w ∈ T.workers, toCoordinator w = []
  down : ∀ w ∈ T.workers, w ≠ r → toWorker w = []
  answer : ∃ sender, toWorker r = [⟨.sendPage, p, sender, contents⟩]

/-- The request of `r` for page `p` is the only packet in flight. -/
structure RequestSent [Zero Page] (p r : Nat) (isWrite : Bool)
    (toCoordinator toWorker : Nat → List (DsmPacket Page)) : Prop where
  up : toCoordinator = each {r} ⟨Node.requestType isWrite, p, r, 0⟩
  down : ∀ w, toWorker w = []

/-- Whether node `n` maps the page after the copies of `dropped` are gone and `r`, whose page had
this status, has taken its answer. -/
def mapsAfter (dropped : Finset Nat) (r : Nat) (status : PageStatus) (mapped : Nat → Bool) (n : Nat) :
    Bool :=
  if n = r then (if status = .pending ∨ status = .empty then true else mapped n)
  else if n ∈ dropped then false
  else mapped n

/-- The engine handles the request of `r` by deliveries alone, `r` being the last to receive. -/
def Cluster.Handles [Zero Page] (T : Topology) (p r : Nat) (contents : Page) (s t : Cluster Page) :
    Prop :=
  ∃ g, Runs.Run (Cluster.step T) (fun _ e => e.isDelivery = true) s g ∧
    GrantSent T p r contents g.toCoordinator g.toWorker ∧ g.step T (.toWorker r) = some t

/-! ### The requester's side -/

section Answer

variable [Zero Page] (n : Node Page)

theorem Node.dispatchPacket_answer (connected : n.coordinatorFd ≠ -1) {p : Nat}
    (inRange : p < n.numPages) (fd : Int) (sender : Nat) (page : Page) :
    n.dispatchPacket fd ⟨.sendPage, p, sender, page⟩ =
      some (n.acceptPage ⟨.sendPage, p, sender, page⟩) := by
  simp only [Node.dispatchPacket, Node.handleSendPage, connected, false_and, if_false, inRange, if_true]

omit [Zero Page] in
theorem Node.acceptPage_isMapped (packet : DsmPacket Page) :
    ((n.acceptPage packet).mapping packet.pageIndex).isMapped =
      if n.pageTable packet.pageIndex = .pending ∨ n.pageTable packet.pageIndex = .empty then true
      else (n.mapping packet.pageIndex).isMapped := by
  unfold Node.acceptPage
  dsimp only
  cases status : n.pageTable packet.pageIndex with
  | pending | empty => simp [Node.installPage, Node.dsmMarkAccessed, Mapping.isMapped]
  | writePending => simp [Node.liftWriteProtection, Node.dsmMarkAccessed]
  | valid => simp

end Answer

/-! ### Only packets about the page -/

section Sole

variable [Zero Page] {n n' : Node Page} {fd : Int} {packet : DsmPacket Page}

theorem Node.dispatchPacket_sends (handled : n.dispatchPacket fd packet = some n') {q : Nat}
    (apart : packet.pageIndex ≠ q) : sendsAbout q n'.effects = sendsAbout q n.effects := by
  have sends {a b : Node Page} (same : a.about q = b.about q) :
      sendsAbout q a.effects = sendsAbout q b.effects := congrArg NodePage.sends same
  have request (handled : n.handlePageRequest fd packet = some n') :
      sendsAbout q n'.effects = sendsAbout q n.effects := by
    have about := about_handlePageRequest apart n fd packet rfl handled
    split at about
    · exact congrArg NodePage.sends about
    · exact sends about
  unfold Node.dispatchPacket at handled
  split at handled
  · cases handled; rfl
  · cases handled; exact sends (about_handleSendPage apart n packet rfl)
  · cases handled; exact sends (about_handleInvalidate apart n fd packet rfl)
  · cases handled; exact sends (about_handleInvalidateAck apart n packet rfl)
  · exact request handled
  · exact request handled
  · cases handled; rfl

omit [Zero Page] in
/-- Calls that say nothing about any other page are about this one. -/
theorem page_of_sends {effects : List (Effect Page)} {idx : Nat}
    (silent : ∀ q, idx ≠ q → sendsAbout q effects = []) {sentFd : Int} {sent : DsmPacket Page}
    (made : Effect.send sentFd sent ∈ effects) : sent.pageIndex = idx := by
  by_contra apart
  have listed : (sentFd, sent) ∈ sendsAbout sent.pageIndex effects :=
    List.mem_filterMap.mpr ⟨_, made, by simp⟩
  rw [silent _ (Ne.symm apart)] at listed
  cases listed

/-- A node answers a packet with packets about the same page. -/
theorem Node.dispatchPacket_page (handled : n.dispatchPacket fd packet = some n')
    (quiet : n.effects = []) {sentFd : Int} {sent : DsmPacket Page}
    (made : Effect.send sentFd sent ∈ n'.effects) : sent.pageIndex = packet.pageIndex := by
  refine page_of_sends (fun q apart => ?_) made
  rw [Node.dispatchPacket_sends handled apart, quiet]
  rfl

/-- The engine asks for the page of the request that it takes off its queue. -/
theorem Node.serveQueuedRequest_page (quiet : n.effects = []) {req : PageRequest} {sentFd : Int}
    {sent : DsmPacket Page} (made : Effect.send sentFd sent ∈ (n.serveQueuedRequest req).effects) :
    sent.pageIndex = req.pageIndex := by
  refine page_of_sends (fun q apart => ?_) made
  have about := congrArg NodePage.sends (about_serveQueuedRequest apart n req rfl)
  change sendsAbout q _ = sendsAbout q n.effects at about
  rw [about, quiet]
  rfl

/-- A worker answers the coordinator with a page or an acknowledgement. -/
theorem WorkerOk.dispatchPacket_answers {T : Topology} {w : Nat} (ok : WorkerOk T w n)
    (worker : w ∈ T.workers) (down : DownPacket T packet) (quiet : n.effects = [])
    (handled : n.dispatchPacket (T.connectFd w) packet = some n') {sentFd : Int}
    {sent : DsmPacket Page} (made : Effect.send sentFd sent ∈ n'.effects) :
    sent.type = .sendPage ∨ sent.type = .invalidateAck := by
  -- a page is taken in without an answer, the other packets are answered once
  cases ok.takes worker down handled with
  | outside =>
    rw [quiet] at made
    cases made
  | page =>
    unfold Node.acceptPage at made
    dsimp only at made
    split at made <;>
      simp [Node.liftWriteProtection, Node.dsmMarkAccessed, Node.installPage, quiet] at made
  | invalidate =>
    simp only [Node.sendAllNonblocking, Node.setStatus, Node.setMapping, quiet, List.nil_append,
      List.mem_singleton, Effect.send.injEq] at made
    exact Or.inr (made.2 ▸ rfl)
  | fetch =>
    simp only [Node.sendAllNonblocking, Node.transitionToShared, Node.registerSender, quiet,
      List.nil_append, List.mem_singleton, Effect.send.injEq] at made
    exact Or.inl (made.2 ▸ rfl)

variable {T : Topology} {p : Nat} {s t : Cluster Page}

/-- Every packet in flight is about the page and known to its receiver. -/
structure Sole (T : Topology) (p : Nat) (s : Cluster Page) : Prop where
  up : ∀ w ∈ T.workers, ∀ packet ∈ s.toCoordinator w, packet.pageIndex = p ∧ (upMsg p packet).isSome
  down : ∀ w ∈ T.workers, ∀ packet ∈ s.toWorker w,
    packet.pageIndex = p ∧ (downMsg p packet).isSome

omit [Zero Page] in
theorem downMsg_isSome {packet : DsmPacket Page} (down : DownPacket T packet)
    (own : packet.pageIndex = p) : (downMsg p packet).isSome := by
  rcases down with type | type | ⟨type, -⟩ <;> simp [downMsg, own, type]

theorem Sole.toCoordinator (sole : Sole T p s) (ok : ClusterOk T s) {w : Nat}
    (next : s.toCoordinatorStep T w = some t) : Sole T p t := by
  obtain ⟨worker, packet, rest, node, head, handled, rfl⟩ := Cluster.toCoordinatorStep_cases next
  have own := (sole.up w worker packet (by simp [head])).1
  have up := ok.up w worker packet (by simp [head])
  have role := ok.coordinator.dispatchPacket worker packet up handled
  constructor
  · intro v other found member
    simp only [Cluster.settle, T.ne_coordinator other, and_false, if_false] at member
    exact sole.up v other found (Links.mem_of_pop head member)
  · intro v other found member
    simp only [Cluster.settle, other, and_self, if_true, List.mem_append, mem_sentOn] at member
    rcases member with old | new
    · exact sole.down v other found old
    · have about := (Node.dispatchPacket_page handled (ok.idle _) new).trans own
      exact ⟨about, downMsg_isSome (role.sends _ found new) about⟩

theorem Sole.toWorker (sole : Sole T p s) (ok : ClusterOk T s) {w : Nat}
    (next : s.toWorkerStep T w = some t) : Sole T p t := by
  obtain ⟨worker, packet, rest, node, head, handled, rfl⟩ := Cluster.toWorkerStep_cases next
  have own := (sole.down w worker packet (by simp [head])).1
  have down := ok.down w worker packet (by simp [head])
  constructor
  · intro v other found member
    simp only [Cluster.settle] at member
    split at member
    next same =>
      obtain ⟨-, rfl⟩ := same
      rcases List.mem_append.mp member with old | new
      · exact sole.up v other found old
      · rw [mem_sentOn] at new
        have about := (Node.dispatchPacket_page handled (ok.idle _) new).trans own
        refine ⟨about, ?_⟩
        rcases (ok.workers v worker).dispatchPacket_answers worker down (ok.idle _) handled new
          with type | type
        · simp [upMsg, about, type]
        · simp [upMsg, about, type]
    · exact sole.up v other found member
  · intro v other found member
    simp only [Cluster.settle, T.ne_coordinator worker, and_false, if_false] at member
    exact sole.down v other found (Links.mem_of_pop head member)

theorem upMsg_request (p r : Nat) (isWrite : Bool) :
    upMsg p (⟨Node.requestType isWrite, p, r, 0⟩ : DsmPacket Page) = some (.request isWrite) := by
  cases isWrite <;> simp [upMsg, Node.requestType]

theorem Sole.drain (sole : Sole T p s) (ok : ClusterOk T s) {v : Nat}
    (queue : ∀ req ∈ (s.node v).sharedReqQueue, req.pageIndex = p)
    (next : s.drainStep T v = some t) : Sole T p t := by
  obtain ⟨member, req, rest, waiting, rfl⟩ := Cluster.drainStep_cases next
  obtain rfl : req.pageIndex = p := queue req (by simp [waiting])
  -- a worker asks the coordinator, the coordinator whoever has the page
  rcases Finset.mem_insert.mp member with rfl | worker
  · have role := (coordinator_queue ok rest req waiting).serveQueuedRequest req
    constructor
    · intro w other packet found
      simp only [Cluster.settle, T.ne_coordinator other, and_false, if_false] at found
      exact sole.up w other packet found
    · intro w other packet found
      simp only [Cluster.settle, other, and_self, if_true, List.mem_append, mem_sentOn] at found
      rcases found with old | new
      · exact sole.down w other packet old
      · have about := Node.serveQueuedRequest_page
          (n := { s.node T.coordinator with sharedReqQueue := rest }) (ok.idle T.coordinator) new
        exact ⟨about, downMsg_isSome (role.sends _ packet new) about⟩
  · have connected := (ok.workers v worker).connected worker
    constructor
    · intro w other packet found
      simp only [Cluster.settle] at found
      split at found
      next same =>
        obtain ⟨-, rfl⟩ := same
        rcases List.mem_append.mp found with old | new
        · exact sole.up w other packet old
        · rw [mem_sentOn] at new
          simp only [Node.serveQueuedRequest, connected, ne_eq, not_false_eq_true, if_true,
            Node.sendAllNonblocking, ok.idle, List.nil_append, List.mem_singleton,
            Effect.send.injEq] at new
          rw [new.2, upMsg_request]
          exact ⟨rfl, rfl⟩
      · exact sole.up w other packet found
    · intro w other packet found
      simp only [Cluster.settle, T.ne_coordinator worker, and_false, if_false] at found
      exact sole.down w other packet found

end Sole

/-! ### Every delivery is possible -/

section Enabled

variable [Zero Page] {T : Topology} {p : Nat} {s : Cluster Page}

/-- The engine's thread is not stopped by a page it believes to have. -/
theorem Node.dispatchPacket_isSome (n : Node Page) (fd : Int) (packet : DsmPacket Page)
    (backed : n.pageTable packet.pageIndex = .valid →
      ∃ page, (n.mapping packet.pageIndex).contents = some page) :
    ∃ n', n.dispatchPacket fd packet = some n' := by
  have request : ∃ n', n.handlePageRequest fd packet = some n' := by
    unfold Node.handlePageRequest
    dsimp only
    split
    · split
      next valid =>
        obtain ⟨page, copy⟩ := backed valid
        simp only [show (n.registerSender fd packet.senderNodeId).mapping = n.mapping from rfl, copy]
        split <;> exact ⟨_, rfl⟩
      · split <;> exact ⟨_, rfl⟩
    · exact ⟨_, rfl⟩
  unfold Node.dispatchPacket
  split
  · exact ⟨_, rfl⟩
  · exact ⟨_, rfl⟩
  · exact ⟨_, rfl⟩
  · exact ⟨_, rfl⟩
  · exact request
  · exact request
  · exact ⟨_, rfl⟩

end Enabled

/-! ### The transaction in a cluster -/

/-- The request of `r` is all that is going on: the page's holders are workers with the same
contents, and the coordinator has no copy and no transaction. -/
structure Cluster.Asks [Zero Page] (T : Topology) (p r : Nat) (isWrite : Bool) (contents : Page)
    (s : Cluster Page) : Prop where
  ok : ClusterOk T s
  worker : r ∈ T.workers
  holders : (s.entry T p).holders ⊆ T.workers
  absent : (s.node T.coordinator).pageTable p ≠ .valid
  free : (s.slot T p).requesterNodeId = 0
  idle : (s.slot T p).expectedAcks = 0
  copies : ∀ n ∈ (s.entry T p).holders, ((s.node n).mapping p).contents = some contents ∧
    (n ≠ r → (s.node n).pageTable p = .valid)
  sent : RequestSent p r isWrite s.toCoordinator s.toWorker

section Handling

open PageState

variable [Zero Page] {T : Topology} {p r : Nat} {isWrite : Bool} {contents : Page}
  {start s t : Cluster Page}

/-- A cluster in a phase of the transaction that started in `start`. -/
structure Transacts (T : Topology) (p r : Nat) (isWrite : Bool) (contents : Page)
    (start : Cluster Page) (k : Nat) (s : Cluster Page) : Prop where
  ok : ClusterOk T s
  sole : Sole T p s
  phase : Phase T r isWrite contents (start.pageState T p) (start.pageState T p).queued k
    (s.pageState T p)
  onLink : k ≤ 2 * (start.pageState T p).entry.holders.card + 4

/-- A cluster after the transaction that started in `start`. -/
structure Transacted (T : Topology) (p r : Nat) (isWrite : Bool) (contents : Page)
    (start s : Cluster Page) : Prop where
  ok : ClusterOk T s
  sole : Sole T p s
  settled : Settled T r isWrite contents (start.pageState T p) (start.pageState T p).queued
    (s.pageState T p)

/-- The links as the page sees them. -/
theorem RequestSent.page (sent : RequestSent p r isWrite s.toCoordinator s.toWorker) :
    (s.pageState T p).up = each {r} (.request isWrite) ∧ (s.pageState T p).down = each ∅ .fetch := by
  constructor
  · funext w
    simp only [Cluster.pageState, sent.up, each]
    split
    · simp [upMsg_request]
    · rfl
  · funext w
    simp [Cluster.pageState, sent.down, each]

theorem Cluster.Asks.asked (asks : s.Asks T p r isWrite contents) :
    Asked T r isWrite contents (s.pageState T p) where
  node := T.worker_mem asks.worker
  seen o holder apart := ⟨(asks.copies o holder).2 apart, (asks.copies o holder).1⟩
  listed valid := absurd valid asks.absent
  own same := absurd same (T.ne_coordinator asks.worker)
  spares same := absurd same (T.ne_coordinator asks.worker)

/-- The coordinator has no copy to answer with. -/
theorem Cluster.Asks.answer (asks : s.Asks T p r isWrite contents) :
    (s.pageState T p).answer T r contents = if (s.entry T p).Fetches r then contents else 0 := by
  have absent : (s.pageState T p).status T.coordinator ≠ .valid := asks.absent
  simp only [PageState.answer, absent, false_or]
  rfl

theorem Cluster.Asks.transacts (asks : s.Asks T p r isWrite contents) :
    Transacts T p r isWrite contents s (2 * (s.entry T p).holders.card + 4) s where
  ok := asks.ok
  sole :=
    { up := fun w _ packet found => by
        rw [asks.sent.up] at found
        unfold Links.each at found
        split at found
        · rw [List.mem_singleton.mp found, upMsg_request]
          exact ⟨rfl, rfl⟩
        · cases found
      down := fun w _ packet found => by
        rw [asks.sent.down] at found
        cases found }
  phase := .asked asks.worker
    { entry := rfl
      own := rfl
      contents := by simp
      status := by simp
      queued := rfl
      up := asks.sent.page.1
      down := asks.sent.page.2 } asks.free asks.idle
  onLink := Nat.le_refl _

/-- A delivery is a move of the page. -/
theorem Sole.delivers (sole : Sole T p s) {e : Event Page} (delivery : e.isDelivery = true)
    (next : s.step T e = some t) :
    ∃ label, s.pageLabel T p e = some label ∧ label.Delivers T ∧ ∀ w, label ≠ .join w := by
  cases e with
  | load | store | fault | drain | evict => cases delivery
  | toCoordinator w =>
    obtain ⟨worker, packet, rest, -, head, -, -⟩ := Cluster.toCoordinatorStep_cases next
    have away := T.ne_coordinator worker
    obtain ⟨own, decoded⟩ := sole.up w worker packet (by simp [head])
    simp only [Cluster.pageLabel, head, List.head?_cons, Option.bind_some]
    unfold upMsg at decoded
    rw [if_pos own] at decoded
    cases type : packet.type with
    | requestPageRead => exact ⟨.request w false, by simp [own], away, by simp⟩
    | requestPageWrite => exact ⟨.request w true, by simp [own], away, by simp⟩
    | sendPage => exact ⟨.reply w, by simp [own], trivial, by simp⟩
    | invalidateAck => exact ⟨.ack w, by simp [own], trivial, by simp⟩
    | nodeJoin | invalidate | other => simp [type] at decoded
  | toWorker w =>
    obtain ⟨worker, packet, rest, -, head, -, -⟩ := Cluster.toWorkerStep_cases next
    have own := (sole.down w worker packet (by simp [head])).1
    exact ⟨.receive w, by simp [Cluster.pageLabel, head, own], trivial, by simp⟩

theorem Sole.step (sole : Sole T p s) (ok : ClusterOk T s) {e : Event Page}
    (delivery : e.isDelivery = true) (next : s.step T e = some t) : Sole T p t := by
  cases e with
  | load | store | fault | drain | evict => cases delivery
  | toCoordinator w => exact sole.toCoordinator ok next
  | toWorker w => exact sole.toWorker ok next

/-- A delivery takes the transaction on. -/
theorem Transacts.step (asks : start.Asks T p r isWrite contents) (inRange : p < T.numPages) {k : Nat}
    (transacts : Transacts T p r isWrite contents start k s) {e : Event Page}
    (delivery : e.isDelivery = true) (next : s.step T e = some t) :
    (∃ j < k, Transacts T p r isWrite contents start j t) ∨
      (k = 0 ∧ Transacted T p r isWrite contents start t) := by
  have ok := transacts.ok.step next
  have sole := transacts.sole.step transacts.ok delivery next
  obtain ⟨label, same, delivers, ahead⟩ := transacts.sole.delivers delivery next
  have moved := step_moves transacts.ok inRange (fun _ => transacts.phase.counting (T.worker_mem asks.worker))
    (Event.notEviction_of_isDelivery delivery) next
  unfold PageStep at moved
  rw [same] at moved
  rcases transacts.phase.advance asks.asked (transacts.ok.pageOk p) delivers moved with
    ⟨⟨w, joins⟩, -⟩ | ⟨j, less, phase⟩ | ⟨last, settled⟩
  · exact absurd joins (ahead w)
  · exact Or.inl ⟨j, less, ok, sole, phase, less.le.trans transacts.onLink⟩
  · exact Or.inr ⟨last.resolve_right (T.ne_coordinator asks.worker), ok, sole, settled⟩

/-- Once the requester has its answer nothing is left to deliver. -/
theorem not_delivers_of_settled (transacted : Transacted T p r isWrite contents start s)
    {e : Event Page} (delivery : e.isDelivery = true) : s.step T e ≠ some t := by
  intro next
  obtain ⟨-, sole, settled⟩ := transacted
  cases e with
  | load | store | fault | drain | evict => cases delivery
  | toCoordinator w =>
    obtain ⟨worker, packet, rest, -, head, -, -⟩ := Cluster.toCoordinatorStep_cases next
    obtain ⟨m, decoded⟩ := Option.isSome_iff_exists.mp (sole.up w worker packet (by simp [head])).2
    have nothing : (s.pageState T p).up w = [] := by rw [settled.up]; rfl
    simp [Cluster.pageState, head, decoded] at nothing
  | toWorker w =>
    obtain ⟨worker, packet, rest, -, head, -, -⟩ := Cluster.toWorkerStep_cases next
    obtain ⟨m, decoded⟩ := Option.isSome_iff_exists.mp (sole.down w worker packet (by simp [head])).2
    have nothing : (s.pageState T p).down w = [] := by rw [settled.down]; rfl
    simp [Cluster.pageState, head, decoded] at nothing

/-- Every run of deliveries stays within the transaction. -/
theorem transacts_of_run (asks : start.Asks T p r isWrite contents) (inRange : p < T.numPages)
    (run : Runs.Run (Cluster.step T) (fun _ e => e.isDelivery = true) start s) :
    (∃ k, Transacts T p r isWrite contents start k s) ∨
      Transacted T p r isWrite contents start s := by
  apply run.invariant
  · exact Or.inl ⟨_, asks.transacts⟩
  · rintro a e b (⟨k, transacts⟩ | transacted) delivery next
    · rcases transacts.step asks inRange delivery next with ⟨j, -, later⟩ | ⟨-, done⟩
      · exact Or.inl ⟨j, later⟩
      · exact Or.inr done
    · exact absurd next (not_delivers_of_settled transacted delivery)

/-- When only the answer is left, the transaction has reached its last phase. -/
theorem granted_of_sent (asks : start.Asks T p r isWrite contents) {page : Page}
    (state : (∃ k, Transacts T p r isWrite contents start k s) ∨
      Transacted T p r isWrite contents start s)
    (sent : GrantSent T p r page s.toCoordinator s.toWorker) :
    page = (if (start.entry T p).Fetches r then contents else 0) ∧ ClusterOk T s ∧
      Reached (start.pageState T p) (s.pageState T p) r ((start.entry T p).after r isWrite)
        ((start.entry T p).dropped r isWrite) (start.pageState T p).queued ∅ .ack {r}
        (.page page) := by
  have up : ∀ w ∈ T.workers, (s.pageState T p).up w = [] := by
    intro w worker
    simp [Cluster.pageState, sent.up w worker]
  have down : ∀ w ∈ T.workers, w ≠ r → (s.pageState T p).down w = [] := by
    intro w worker apart
    simp [Cluster.pageState, sent.down w worker apart]
  have answer : (s.pageState T p).down r = [.page page] := by
    obtain ⟨sender, only⟩ := sent.answer
    simp [Cluster.pageState, only, downMsg]
  have holder : ∀ n ∈ (start.entry T p).holders.erase r, n ∈ T.workers ∧ n ≠ r := by
    intro n member
    obtain ⟨apart, member⟩ := Finset.mem_erase.mp member
    exact ⟨asks.holders member, apart⟩
  have other {n : Nat} (member : n ∈ ((start.entry T p).holders.erase r).erase T.coordinator) :
      n ∈ T.workers ∧ n ≠ r := holder n (Finset.mem_of_mem_erase member)
  -- every phase but the last has something on a link that is not the answer
  rcases state with ⟨k, transacts⟩ | ⟨-, -, settled⟩
  · have ok := transacts.ok.pageOk p
    cases transacts.phase with
    | queued =>
      have onLink := transacts.onLink
      omega
    | asked _ reached =>
      have found := up r asks.worker
      rw [reached.up, Links.each_mem (Finset.mem_singleton_self r)] at found
      cases found
    | fetching _ fetches reached =>
      obtain ⟨worker, apart⟩ := holder _ (owner_holds ok reached.entry fetches)
      have found := down _ worker apart
      rw [reached.down] at found
      exact absurd found (by simp [each])
    | replied _ fetches reached =>
      obtain ⟨worker, -⟩ := holder _ (owner_holds ok reached.entry fetches)
      have found := up _ worker
      rw [reached.up] at found
      exact absurd found (by simp [each])
    | collecting told acked _ holders _ reached _ waiting counted =>
      rw [counted] at waiting
      -- an invalidation if somebody is still to be told, else an acknowledgement
      rcases Nat.eq_zero_or_pos told.card with none | some
      · obtain ⟨n, member⟩ := Finset.card_pos.mp (show 0 < acked.card by omega)
        have found := up n (other (holders (Finset.mem_union_right _ member))).1
        rw [reached.up, Links.each_mem member] at found
        cases found
      · obtain ⟨n, member⟩ := Finset.card_pos.mp some
        obtain ⟨worker, apart⟩ := other (holders (Finset.mem_union_left _ member))
        have found := down n worker apart
        rw [reached.down, Links.each_mem member] at found
        cases found
    | granted _ reached =>
      have same := answer
      rw [reached.down, Links.each_mem (Finset.mem_singleton_self r)] at same
      cases same
      exact ⟨asks.answer, transacts.ok, reached⟩
  · rw [settled.down] at answer
    cases answer

/-- However its packets are interleaved, a request has one outcome. -/
theorem Cluster.Handles.outcome (inRange : p < T.numPages) {page : Page}
    (handles : Cluster.Handles T p r page s t) (asks : s.Asks T p r isWrite contents) :
    page = (if (s.entry T p).Fetches r then contents else 0) ∧
      t.entry T p = (s.entry T p).after r isWrite ∧
      ∀ n, ((t.node n).mapping p).isMapped =
        mapsAfter ((s.entry T p).dropped r isWrite) r ((s.node r).pageTable p)
          (fun m => ((s.node m).mapping p).isMapped) n := by
  obtain ⟨g, run, sent, last⟩ := handles
  obtain ⟨answer, ok, reached⟩ := granted_of_sent asks (transacts_of_run asks inRange run) sent
  obtain ⟨sender, only⟩ := sent.answer
  have spared : r ∉ (s.entry T p).dropped r isWrite := by
    unfold GpdEntry.dropped
    split
    · exact Finset.notMem_erase _ _
    · exact Finset.notMem_empty _
  have good := ok.workers r asks.worker
  have connected := good.connected asks.worker
  simp only [Cluster.step, Cluster.toWorkerStep, asks.worker, if_true, only] at last
  rw [(g.node r).dispatchPacket_answer connected (good.pages ▸ inRange)] at last
  cases last
  -- before the answer is taken in, only the dropped copies have gone
  have mapping (n : Nat) : ((g.node n).mapping p).isMapped =
      if n ∈ (s.entry T p).dropped r isWrite then false else ((s.node n).mapping p).isMapped := by
    have same := congrArg Option.isSome (reached.contents n)
    simp only [Mapping.isSome_contents] at same
    refine same.trans ?_
    split
    · rfl
    · exact Mapping.isSome_contents _
  refine ⟨answer, ?_, fun n => ?_⟩
  · have entry := reached.entry
    simp only [Cluster.entry, Cluster.settle,
      Function.update_of_ne (Ne.symm (T.ne_coordinator asks.worker))]
    exact entry
  · simp only [Cluster.settle, mapsAfter]
    by_cases own : n = r
    · subst own
      have status := reached.status n
      rw [if_neg spared] at status
      change (g.node n).pageTable p = (s.node n).pageTable p at status
      rw [Function.update_self, if_pos rfl]
      have accepted := (g.node n).acceptPage_isMapped ⟨.sendPage, p, sender, page⟩
      rw [status, mapping n, if_neg spared] at accepted
      exact accepted
    · rw [Function.update_of_ne own, if_neg own]
      exact mapping n

/-! ### The transaction comes to an end -/

omit [Zero Page] in
/-- A link all of whose packets are decoded carries what its page sees. -/
theorem decoded_link {decode : DsmPacket Page → Option (Msg Page)} {link : List (DsmPacket Page)}
    (known : ∀ packet ∈ link, (decode packet).isSome) :
    (link.filterMap decode = [] → link = []) ∧
      ∀ m, link.filterMap decode = [m] → ∃ packet, link = [packet] ∧ decode packet = some m := by
  have none (rest : List (DsmPacket Page)) (all : ∀ packet ∈ rest, (decode packet).isSome)
      (silent : rest.filterMap decode = []) : rest = [] := by
    cases rest with
    | nil => rfl
    | cons packet rest =>
      obtain ⟨m, decoded⟩ := Option.isSome_iff_exists.mp (all packet (by simp))
      simp [decoded] at silent
  refine ⟨none link known, fun m single => ?_⟩
  cases link with
  | nil => cases single
  | cons packet rest =>
    obtain ⟨first, decoded⟩ := Option.isSome_iff_exists.mp (known packet (by simp))
    rw [List.filterMap_cons_some decoded, List.cons.injEq] at single
    obtain ⟨rfl, silent⟩ := single
    rw [none rest (fun other found => known other (List.mem_cons_of_mem _ found)) silent]
    exact ⟨packet, rfl, decoded⟩

omit [Zero Page] in
theorem eq_of_downMsg_page {packet : DsmPacket Page} {page : Page}
    (decoded : downMsg p packet = some (.page page)) :
    ∃ sender, packet = ⟨.sendPage, p, sender, page⟩ := by
  obtain ⟨type, idx, sender, payload⟩ := packet
  unfold downMsg at decoded
  split at decoded
  next own =>
    simp only at own
    cases type with
    | sendPage =>
      simp only [Option.some.injEq, Msg.page.injEq] at decoded
      exact ⟨sender, by rw [own, decoded]⟩
    | nodeJoin | requestPageRead | requestPageWrite | invalidate | invalidateAck | other =>
      simp at decoded
  · cases decoded

/-- The coordinator can take what is on a link to it, unless it believes to have a page that is
gone. -/
theorem delivers_up (sole : Sole T p s) {w : Nat} (worker : w ∈ T.workers)
    (waiting : (s.pageState T p).up w ≠ [])
    (backed : (s.node T.coordinator).pageTable p = .valid →
      ∃ page, ((s.node T.coordinator).mapping p).contents = some page) :
    ∃ e t, e.isDelivery = true ∧ s.step T e = some t := by
  cases head : s.toCoordinator w with
  | nil => exact absurd (by simp [Cluster.pageState, head]) waiting
  | cons packet rest =>
    have own := (sole.up w worker packet (by simp [head])).1
    obtain ⟨node, handled⟩ := (s.node T.coordinator).dispatchPacket_isSome (T.acceptedFd w) packet
      (own ▸ backed)
    have next : s.toCoordinatorStep T w = some
        (({ s with toCoordinator := Function.update s.toCoordinator w rest } : Cluster Page).settle T
          T.coordinator node) := by
      simp only [Cluster.toCoordinatorStep, worker, if_true, head, handled, Option.map_some]
    exact ⟨.toCoordinator w, _, rfl, next⟩

/-- A worker can take what is on its link, unless it believes to have a page that is gone. -/
theorem delivers_down (sole : Sole T p s) {w : Nat} (worker : w ∈ T.workers)
    (waiting : (s.pageState T p).down w ≠ [])
    (backed : (s.node w).pageTable p = .valid → ∃ page, ((s.node w).mapping p).contents = some page) :
    ∃ e t, e.isDelivery = true ∧ s.step T e = some t := by
  cases head : s.toWorker w with
  | nil => exact absurd (by simp [Cluster.pageState, head]) waiting
  | cons packet rest =>
    have own := (sole.down w worker packet (by simp [head])).1
    obtain ⟨node, handled⟩ := (s.node w).dispatchPacket_isSome (T.connectFd w) packet
      (own ▸ backed)
    have next : s.toWorkerStep T w = some
        (({ s with toWorker := Function.update s.toWorker w rest } : Cluster Page).settle T w node) := by
      simp only [Cluster.toWorkerStep, worker, if_true, head, handled, Option.map_some]
    exact ⟨.toWorker w, _, rfl, next⟩

section Reached

variable {entry : GpdEntry} {dropped U D : Finset Nat} {queues : Nat → List Bool}
  {up down : Msg Page}
  (reached : Reached (start.pageState T p) (s.pageState T p) r entry dropped queues U up D down)
include reached

/-- The coordinator, which had no copy, gets none: it can always take a packet. -/
theorem Cluster.Asks.absent_later (asks : start.Asks T p r isWrite contents) :
    (s.node T.coordinator).pageTable p = .valid →
      ∃ page, ((s.node T.coordinator).mapping p).contents = some page := by
  have status := reached.status T.coordinator
  change (s.node T.coordinator).pageTable p = _ at status
  rw [status]
  split
  · nofun
  · exact fun valid => absurd valid asks.absent

/-- A holder that is asked for its copy, or told to drop it, still has it. -/
theorem Cluster.Asks.copied_later (asks : start.Asks T p r isWrite contents) {n : Nat}
    (kept : n ∉ dropped) (holder : n ∈ (start.entry T p).holders) :
    ∃ page, ((s.node n).mapping p).contents = some page := by
  have copies := reached.contents n
  rw [if_neg kept] at copies
  exact ⟨contents, copies.trans (asks.copies n holder).1⟩

omit [Zero Page] in
theorem up_ne_nil {n : Nat} (member : n ∈ U) : (s.pageState T p).up n ≠ [] := by
  rw [reached.up, Links.each_mem member]
  exact List.cons_ne_nil _ _

omit [Zero Page] in
theorem down_ne_nil {n : Nat} (member : n ∈ D) : (s.pageState T p).down n ≠ [] := by
  rw [reached.down, Links.each_mem member]
  exact List.cons_ne_nil _ _

end Reached

omit [Zero Page] in
/-- With the answer on its link and nothing else about the page in flight, the grant is sent. -/
theorem grantSent_of_reached (worker : r ∈ T.workers) (sole : Sole T p s) {entry : GpdEntry}
    {dropped : Finset Nat} {queues : Nat → List Bool} {up : Msg Page} {page : Page}
    (reached : Reached (start.pageState T p) (s.pageState T p) r entry dropped queues ∅ up {r}
      (.page page)) :
    GrantSent T p r page s.toCoordinator s.toWorker where
  up w member := by
    apply (decoded_link fun packet found => (sole.up w member packet found).2).1
    exact congrFun reached.up w
  down w member apart := by
    apply (decoded_link fun packet found => (sole.down w member packet found).2).1
    exact (congrFun reached.down w).trans (by simp [each, apart])
  answer := by
    obtain ⟨packet, only, decoded⟩ := (decoded_link fun packet found =>
      (sole.down r worker packet found).2).2 _
        ((congrFun reached.down r).trans (Links.each_mem (Finset.mem_singleton_self r) _))
    obtain ⟨sender, rfl⟩ := eq_of_downMsg_page decoded
    exact ⟨sender, only⟩

/-- Before the answer is sent something can be delivered. -/
theorem Transacts.progress (asks : start.Asks T p r isWrite contents) {k : Nat}
    (transacts : Transacts T p r isWrite contents start k s)
    (unanswered : ¬ ∃ page, GrantSent T p r page s.toCoordinator s.toWorker) :
    k ≠ 0 ∧ ∃ e t, e.isDelivery = true ∧ s.step T e = some t := by
  have ok := transacts.ok.pageOk p
  have sole := transacts.sole
  cases transacts.phase with
  | queued =>
    have onLink := transacts.onLink
    omega
  | asked _ reached =>
    exact ⟨by omega, delivers_up sole asks.worker (up_ne_nil reached (Finset.mem_singleton_self r))
      (asks.absent_later reached)⟩
  | fetching _ fetches reached =>
    have holder := Finset.mem_of_mem_erase (owner_holds ok reached.entry fetches)
    exact ⟨by omega, delivers_down sole (asks.holders holder)
      (down_ne_nil reached (Finset.mem_singleton_self _)) fun _ =>
        asks.copied_later reached (Finset.notMem_empty _) holder⟩
  | replied _ fetches reached =>
    have holder := Finset.mem_of_mem_erase (owner_holds ok reached.entry fetches)
    exact ⟨by omega, delivers_up sole (asks.holders holder)
      (up_ne_nil reached (Finset.mem_singleton_self _)) (asks.absent_later reached)⟩
  | collecting told acked _ holders _ reached _ waiting counted =>
    rw [counted] at waiting
    refine ⟨by omega, ?_⟩
    rcases Nat.eq_zero_or_pos told.card with none | some
    · -- everybody has been told: an acknowledgement is on its way
      obtain ⟨n, member⟩ := Finset.card_pos.mp (show 0 < acked.card by omega)
      have holder := Finset.mem_of_mem_erase
        (Finset.mem_of_mem_erase (holders (Finset.mem_union_right _ member)))
      exact delivers_up sole (asks.holders holder) (up_ne_nil reached member)
        (asks.absent_later reached)
    · obtain ⟨n, member⟩ := Finset.card_pos.mp some
      have holder := Finset.mem_of_mem_erase
        (Finset.mem_of_mem_erase (holders (Finset.mem_union_left _ member)))
      exact delivers_down sole (asks.holders holder) (down_ne_nil reached member) fun _ =>
        asks.copied_later reached (fun gone => (Finset.mem_sdiff.mp gone).2 member) holder
  | granted _ reached =>
    exact absurd ⟨_, grantSent_of_reached asks.worker sole reached⟩ unanswered

/-- A request is handled to completion. -/
theorem Cluster.Asks.handled (asks : s.Asks T p r isWrite contents) (inRange : p < T.numPages) :
    ∃ page t, Cluster.Handles T p r page s t := by
  obtain ⟨g, run, page, sent⟩ := Runs.Run.complete (Transacts T p r isWrite contents s)
    (fun g => ∃ page, GrantSent T p r page g.toCoordinator g.toWorker)
    (fun k g transacts unanswered => by
      obtain ⟨more, e, t, delivery, next⟩ := transacts.progress asks unanswered
      rcases transacts.step asks inRange delivery next with ⟨j, less, later⟩ | ⟨last, -⟩
      · exact ⟨e, t, j, delivery, next, later, less⟩
      · exact absurd last more) asks.transacts
  obtain ⟨-, ok, -⟩ := granted_of_sent asks (transacts_of_run asks inRange run) sent
  obtain ⟨sender, only⟩ := sent.answer
  have good := ok.workers r asks.worker
  have connected := good.connected asks.worker
  have handled := (g.node r).dispatchPacket_answer connected (good.pages ▸ inRange) (T.connectFd r)
    sender page
  obtain ⟨t, next⟩ : ∃ t, g.step T (.toWorker r) = some t := by
    simp only [Cluster.step, Cluster.toWorkerStep, asks.worker, if_true, only, handled,
      Option.map_some]
    exact ⟨_, rfl⟩
  exact ⟨page, t, g, run, sent, next⟩

end Handling

end TeleportVM
