import TeleportVM.EngineHandling

/-!
One request handled to completion by the sequencer and its peers, with no other packet in flight:
it is always completed, and always with the same result.
-/
namespace TeleportVM

open Links (each)

variable {Page : Type}

/-- A delivery, or the rest of the handler of the last acknowledgement. -/
def SequencedEvent.isDelivery : SequencedEvent → Bool
  | .toWorker _ | .toCoordinator _ | .resume => true
  | _ => false

/-- All of a packet but its sender. -/
def packetKey (packet : DsmPacket Page) : MsgType × Nat × Page :=
  (packet.type, packet.pageIndex, packet.payload)

def linkKeys (links : Nat → List (DsmPacket Page)) (w : Nat) : List (MsgType × Nat × Page) :=
  (links w).map packetKey

namespace SequencedCluster

/-- The sequencer and the peers handle the request of `r` by deliveries alone, `r` being the last
to receive. -/
def Handles [Zero Page] (T : Topology) (p r : Nat) (contents : Page) (s t : SequencedCluster Page) :
    Prop :=
  ∃ g, Runs.Run (step T) (fun _ e => e.isDelivery = true) s g ∧
    GrantSent T p r contents g.toCoordinator g.toWorker ∧ g.step T (.toWorker r) = some t

/-- The request of `r` is all that is going on. -/
structure Asks [Zero Page] (T : Topology) (p r : Nat) (isWrite : Bool) (s : SequencedCluster Page) :
    Prop where
  ok : SequencedOk T s
  worker : r ∈ T.workers
  free : (s.sequencer.table p).transactionActive = false
  queue : (s.sequencer.table p).queue = []
  resume : s.resume = none
  sent : RequestSent p r isWrite s.toCoordinator s.toWorker

/-- The page has changed as far as this: the copies of `dropped` are gone, and the links carry
one packet each. -/
structure Reached [Zero Page] (p : Nat) (start s : SequencedCluster Page) (entry : GpdEntry)
    (dropped U : Finset Nat) (up : MsgType) (D : Finset Nat) (down : MsgType) : Prop where
  entry : s.sequencer.directory.entry p = entry
  queue : (s.sequencer.table p).queue = []
  mapping : ∀ n, (s.node n).mapping p = if n ∈ dropped then .unmapped else (start.node n).mapping p
  status : ∀ n, (s.node n).pageTable p = if n ∈ dropped then .empty else (start.node n).pageTable p
  up : linkKeys s.toCoordinator = each U (up, p, 0)
  down : linkKeys s.toWorker = each D (down, p, 0)

/-- The phases of the transaction, each with a bound on the deliveries left before the grant. -/
inductive Phase [Zero Page] (p r : Nat) (isWrite : Bool) (start : SequencedCluster Page) :
    Nat → SequencedCluster Page → Prop
  | asked {s : SequencedCluster Page}
      (reached : Reached p start s (start.sequencer.directory.entry p) ∅ {r}
        (Node.requestType isWrite) ∅ .sendPage)
      (free : (s.sequencer.table p).transactionActive = false) (resume : s.resume = none) :
      Phase p r isWrite start
        (2 * ((start.sequencer.directory.entry p).waitsFor r isWrite).card + 1) s
  | collecting {s : SequencedCluster Page} (told acked : Finset Nat) (apart : Disjoint told acked)
      (waits : told ∪ acked ⊆ (start.sequencer.directory.entry p).waitsFor r isWrite)
      (reached : Reached p start s ((start.sequencer.directory.entry p).after r isWrite)
        ((start.sequencer.directory.entry p).waitsFor r isWrite \ told) acked .invalidateAck told
        .invalidate)
      (active : (s.sequencer.table p).transactionActive = true)
      (requester : (s.sequencer.table p).activeNode = r)
      (waiting : 0 < (s.sequencer.table p).expectedAcks)
      (counted : (s.sequencer.table p).expectedAcks = told.card + acked.card)
      (resume : s.resume = none) :
      Phase p r isWrite start (2 * told.card + acked.card) s
  | granted {s : SequencedCluster Page}
      (reached : Reached p start s ((start.sequencer.directory.entry p).after r isWrite)
        ((start.sequencer.directory.entry p).waitsFor r isWrite) ∅ .invalidateAck {r} .sendPage)
      (resume : ∀ k, s.resume = some k → k = p) :
      Phase p r isWrite start 0 s

/-- After the requester has taken the grant. -/
structure Settled [Zero Page] (p : Nat) (s : SequencedCluster Page) : Prop where
  queue : (s.sequencer.table p).queue = []
  up : ∀ w, s.toCoordinator w = []
  down : ∀ w, s.toWorker w = []
  resume : ∀ k, s.resume = some k → k = p

end SequencedCluster

/-! ### Links -/

section LinkKeys

variable {links : Nat → List (DsmPacket Page)} {U : Finset Nat} {type : MsgType} {page : Page}
  {p w : Nat}

theorem linkKeys_update (links : Nat → List (DsmPacket Page)) (w : Nat)
    (queue : List (DsmPacket Page)) :
    linkKeys (Function.update links w queue) =
      Function.update (linkKeys links) w (queue.map packetKey) := by
  funext v
  by_cases same : v = w
  · subst same
    simp [linkKeys]
  · simp [linkKeys, same]

/-- The packet at the head of a link is the one that is on all of them. -/
theorem linkKeys_head (known : linkKeys links = each U (type, p, page)) {packet : DsmPacket Page}
    {rest : List (DsmPacket Page)} (head : links w = packet :: rest) :
    w ∈ U ∧ packet.type = type ∧ packet.pageIndex = p ∧ packet.payload = page ∧ rest = [] := by
  have keyed : each U (type, p, page) w = packetKey packet :: rest.map packetKey := by
    rw [← known, linkKeys, head, List.map_cons]
  obtain ⟨member, key, silent⟩ := Links.each_head keyed
  simp only [packetKey, Prod.mk.injEq] at key
  exact ⟨member, key.1, key.2.1, key.2.2, List.map_eq_nil_iff.mp silent⟩

theorem linkKeys_nil (known : linkKeys links = each U (type, p, page)) (outside : w ∉ U) :
    links w = [] := by
  have empty := congrFun known w
  rw [Links.each_not_mem outside] at empty
  exact List.map_eq_nil_iff.mp empty

theorem linkKeys_mem (known : linkKeys links = each U (type, p, page)) (member : w ∈ U) :
    ∃ sender, links w = [⟨type, p, sender, page⟩] := by
  have keyed := congrFun known w
  rw [Links.each_mem member, linkKeys] at keyed
  obtain ⟨packet, single, key⟩ := List.map_eq_singleton_iff.mp keyed
  obtain ⟨found, idx, sender, payload⟩ := packet
  simp only [packetKey, Prod.mk.injEq] at key
  obtain ⟨rfl, rfl, rfl⟩ := key
  exact ⟨sender, single⟩

/-- What the sequencer sends over silent links is all that is on them. -/
theorem linkKeys_settle {T : Topology} {s : SequencedCluster Page} {q : Sequencer Page}
    {resume : Option Nat} (inside : U ⊆ T.workers) (silent : ∀ v, s.toWorker v = [])
    (sent : ∀ v ∈ T.workers, ∃ sender, sentOn (T.acceptedFd v) q.effects =
      if v ∈ U then [⟨type, p, sender, page⟩] else []) :
    linkKeys (s.settle T q resume).toWorker = each U (type, p, page) := by
  funext v
  simp only [linkKeys, SequencedCluster.settle, silent, List.nil_append]
  split
  next worker =>
    obtain ⟨sender, link⟩ := sent v worker
    rw [link]
    unfold Links.each
    split <;> rfl
  next outside =>
    rw [Links.each_not_mem fun found => outside (inside found)]
    rfl

end LinkKeys

/-! ### The phases, one by one -/

section Phases

variable [Zero Page] {T : Topology} {p r : Nat} {isWrite : Bool} {start s t : SequencedCluster Page}

/-- A peer that is told to drop its copy does so and acknowledges. -/
theorem Node.dispatchPacket_invalidate {n : Node Page} (connected : n.coordinatorFd ≠ -1)
    {packet : DsmPacket Page} (type : packet.type = .invalidate)
    (inRange : packet.pageIndex < n.numPages) (fd : Int) :
    n.dispatchPacket fd packet =
      some (((n.setMapping packet.pageIndex .unmapped).setStatus packet.pageIndex
        .empty).sendAllNonblocking n.coordinatorFd
          ⟨.invalidateAck, packet.pageIndex, n.localNodeId, 0⟩) := by
  simp only [Node.dispatchPacket, type, Node.handleInvalidate, inRange, if_true, Option.some.injEq]
  rw [if_pos connected]

namespace SequencedCluster

/-- The request starts its transaction. -/
theorem phase_request (ok : SequencedOk T s) (inRange : p < T.numPages) (worker : r ∈ T.workers)
    (reached : Reached p start s (start.sequencer.directory.entry p) ∅ {r}
      (Node.requestType isWrite) ∅ .sendPage)
    (free : (s.sequencer.table p).transactionActive = false) {w : Nat}
    (next : s.toCoordinatorStep T w = some t) :
    ∃ j < 2 * ((start.sequencer.directory.entry p).waitsFor r isWrite).card + 1,
      Phase p r isWrite start j t := by
  obtain ⟨-, -, packet, rest, head, next⟩ := toCoordinatorStep_cases next
  obtain ⟨member, type, own, -, rfl⟩ := linkKeys_head reached.up head
  obtain rfl := Finset.mem_singleton.mp member
  have sender : packet.senderNodeId = w := by
    rcases ok.up w worker packet (by simp [head]) with ⟨ack, -⟩ | ⟨sender, -⟩
    · rw [type] at ack
      cases isWrite <;> cases ack
    · exact sender
  have done := executed (r := w) ok.sequencer inRange isWrite
  -- on a free page the request starts its transaction
  have taken : dispatch T s.sequencer w packet =
      (s.sequencer.executeGpdTransaction (nodeFds T) p w (Node.requestType isWrite)
        (T.acceptedFd w), false) := by
    have inside : ¬ s.sequencer.totalManagedPages ≤ p := by
      rw [ok.sequencer.total]
      exact Nat.not_le.mpr inRange
    unfold dispatch
    cases isWrite <;>
      simp only [type, Node.requestType, Sequencer.processNodeRequest, own, sender, free, inside,
        if_false, Bool.false_eq_true, if_true, nodeFds_worker worker]
  rw [taken] at next
  simp only [Bool.false_eq_true, if_false] at next
  subst next
  generalize s.sequencer.executeGpdTransaction (nodeFds T) p w (Node.requestType isWrite)
    (T.acceptedFd w) = q' at done
  have up : linkKeys (Function.update s.toCoordinator w []) =
      each ∅ (MsgType.invalidateAck, p, (0 : Page)) := by
    rw [linkKeys_update, reached.up, List.map_nil, Links.each_pop, Finset.erase_singleton]
    exact Links.each_empty _ _
  have silent (v : Nat) : s.toWorker v = [] := linkKeys_nil reached.down (Finset.notMem_empty v)
  have entry : q'.directory.entry p = (start.sequencer.directory.entry p).after w isWrite := by
    rw [done.directory, setEntry_same, reached.entry]
  have table : q'.table p = { s.sequencer.table p with
      transactionActive := decide ((start.sequencer.directory.entry p).waitsFor w isWrite ≠ ∅)
      activeNode := if (start.sequencer.directory.entry p).waitsFor w isWrite = ∅ then 0 else w
      expectedAcks :=
        if isWrite = false ∧ (start.sequencer.directory.entry p).waitsFor w isWrite = ∅ then
          (s.sequencer.table p).expectedAcks
        else ((start.sequencer.directory.entry p).waitsFor w isWrite).card } := by
    rw [done.table, Function.update_self, reached.entry]
  have queue : (q'.table p).queue = [] := by
    rw [table]
    exact reached.queue
  by_cases alone : (start.sequencer.directory.entry p).waitsFor w isWrite = ∅
  · -- nobody has to be waited for: the grant goes out at once
    refine ⟨0, by omega, .granted ⟨entry, queue, ?_, ?_, up, ?_⟩ (by simp [settle])⟩
    · rw [alone]
      exact reached.mapping
    · rw [alone]
      exact reached.status
    · exact linkKeys_settle (Finset.singleton_subset_iff.mpr worker) silent
        (done.grants ok.idle worker (reached.entry.symm ▸ alone))
  · -- everybody who is waited for is told
    have inside := waitsFor_subset ok.sequencer p w isWrite
    rw [reached.entry] at inside
    refine ⟨2 * ((start.sequencer.directory.entry p).waitsFor w isWrite).card + (∅ : Finset Nat).card,
      by simp, .collecting _ ∅ (Finset.disjoint_empty_right _) (by simp)
        ⟨entry, queue, ?_, ?_, up, ?_⟩ ?_ ?_ ?_ ?_ rfl⟩
    · rw [Finset.sdiff_self]
      exact reached.mapping
    · rw [Finset.sdiff_self]
      exact reached.status
    · have sent := done.invalidates ok.sequencer ok.idle (reached.entry.symm ▸ alone)
      rw [reached.entry] at sent
      exact linkKeys_settle inside silent sent
    · simp [settle, table, alone]
    · simp [settle, table, alone]
    · simpa [settle, table, alone] using Finset.nonempty_iff_ne_empty.mpr alone
    · simp [settle, table, alone]

/-- An acknowledgement is counted; the last one sends the grant. -/
theorem phase_ack (ok : SequencedOk T s) (inRange : p < T.numPages) (worker : r ∈ T.workers)
    {told acked : Finset Nat} (apart : Disjoint told acked)
    (waits : told ∪ acked ⊆ (start.sequencer.directory.entry p).waitsFor r isWrite)
    (reached : Reached p start s ((start.sequencer.directory.entry p).after r isWrite)
      ((start.sequencer.directory.entry p).waitsFor r isWrite \ told) acked .invalidateAck told
      .invalidate)
    (active : (s.sequencer.table p).transactionActive = true)
    (requester : (s.sequencer.table p).activeNode = r)
    (waiting : 0 < (s.sequencer.table p).expectedAcks)
    (counted : (s.sequencer.table p).expectedAcks = told.card + acked.card) {w : Nat}
    (next : s.toCoordinatorStep T w = some t) :
    ∃ j < 2 * told.card + acked.card, Phase p r isWrite start j t := by
  obtain ⟨-, -, packet, rest, head, next⟩ := toCoordinatorStep_cases next
  obtain ⟨member, type, own, -, rfl⟩ := linkKeys_head reached.up head
  have inside : p < s.sequencer.totalManagedPages := ok.sequencer.total ▸ inRange
  have up : linkKeys (Function.update s.toCoordinator w []) =
      each (acked.erase w) (MsgType.invalidateAck, p, (0 : Page)) := by
    rw [linkKeys_update, reached.up, List.map_nil, Links.each_pop]
  have fewer : (acked.erase w).card + 1 = acked.card := Finset.card_erase_add_one member
  unfold dispatch at next
  simp only [type, own, Sequencer.count_eq, Sequencer.recordCounted, Sequencer.grantCounted]
    at next
  by_cases last : (s.sequencer.table p).expectedAcks = 1
  · -- the last acknowledgement: nobody else was told, and nobody else has answered
    have none : told = ∅ := Finset.card_eq_zero.mp (by omega)
    have single : acked.erase w = ∅ := Finset.card_eq_zero.mp (by omega)
    subst none
    have done : s.sequencer.Completes p := ⟨inside, active, last⟩
    simp only [done, requester, nodeFds_worker worker, T.acceptedFd_open _ worker, ok.idle,
      List.nil_append, ne_eq, not_false_eq_true, and_self, if_true, decide_true] at next
    subst next
    rw [single] at up
    have silent (v : Nat) : s.toWorker v = [] :=
      linkKeys_nil reached.down (Finset.notMem_empty v)
    have mapping := reached.mapping
    have status := reached.status
    rw [Finset.sdiff_empty] at mapping status
    refine ⟨0, by omega, .granted ⟨reached.entry, ?_, mapping, status, up, ?_⟩ ?_⟩
    · simpa [settle] using reached.queue
    · refine linkKeys_settle (Finset.singleton_subset_iff.mpr worker) silent fun v other => ⟨0, ?_⟩
      rw [sentOn_accepted T _ worker other]
      simp only [Finset.mem_singleton]
    · intro k same
      cases same
      rfl
  · -- the acknowledgement is expected, and more are
    have more : ¬ s.sequencer.Completes p := fun done => last done.2.2
    rw [if_neg more, if_pos ⟨inside, active, Nat.ne_of_gt waiting⟩] at next
    simp only [more, false_and, Bool.false_eq_true, decide_false, List.append_nil, if_false] at next
    subst next
    refine ⟨2 * told.card + (acked.erase w).card, by omega, .collecting told (acked.erase w)
      (Finset.disjoint_of_subset_right (Finset.erase_subset _ _) apart)
      ((Finset.union_subset_union_right (Finset.erase_subset _ _)).trans waits)
      ⟨reached.entry, ?_, reached.mapping, reached.status, up, ?_⟩ ?_ ?_ ?_ ?_ rfl⟩
    · simpa [settle] using reached.queue
    · rw [← reached.down]
      funext v
      simp [settle, ok.idle, linkKeys]
    · simpa [settle] using active
    · simpa [settle] using requester
    · simp only [settle, Function.update_self]
      omega
    · simp only [settle, Function.update_self]
      omega

/-- A peer that is told to drop its copy has done so. -/
theorem phase_told (ok : SequencedOk T s) (inRange : p < T.numPages) {told acked : Finset Nat}
    (apart : Disjoint told acked)
    (waits : told ∪ acked ⊆ (start.sequencer.directory.entry p).waitsFor r isWrite)
    (reached : Reached p start s ((start.sequencer.directory.entry p).after r isWrite)
      ((start.sequencer.directory.entry p).waitsFor r isWrite \ told) acked .invalidateAck told
      .invalidate)
    (active : (s.sequencer.table p).transactionActive = true)
    (requester : (s.sequencer.table p).activeNode = r)
    (waiting : 0 < (s.sequencer.table p).expectedAcks)
    (counted : (s.sequencer.table p).expectedAcks = told.card + acked.card)
    (resume : s.resume = none) {w : Nat} (next : s.toWorkerStep T w = some t) :
    ∃ j < 2 * told.card + acked.card, Phase p r isWrite start j t := by
  obtain ⟨worker, packet, rest, node, head, handled, rfl⟩ := toWorkerStep_cases next
  obtain ⟨member, type, own, -, rfl⟩ := linkKeys_head reached.down head
  have peer := ok.peers w worker
  have connected := peer.connected worker
  rw [Node.dispatchPacket_invalidate connected type (own ▸ peer.pages ▸ inRange), own,
    Option.some.injEq] at handled
  subst handled
  have outside : w ∉ acked := Finset.disjoint_left.mp apart member
  have target := waits (Finset.mem_union_left _ member)
  have fewer : (told.erase w).card + 1 = told.card := Finset.card_erase_add_one member
  have more : (insert w acked).card = acked.card + 1 := Finset.card_insert_of_notMem outside
  -- whoever has dropped its copy is no longer among those told
  have dropped (n : Nat) : n ∈ (start.sequencer.directory.entry p).waitsFor r isWrite \
      told.erase w ↔ n = w ∨ n ∈ (start.sequencer.directory.entry p).waitsFor r isWrite \ told := by
    simp only [Finset.mem_sdiff, Finset.mem_erase]
    by_cases same : n = w
    · subst same
      simp [target]
    · simp [same]
  refine ⟨2 * (told.erase w).card + (insert w acked).card, by omega,
    .collecting (told.erase w) (insert w acked) ?_ ?_
      ⟨reached.entry, reached.queue, ?_, ?_, ?_, ?_⟩ active requester waiting ?_ resume⟩
  · apply Finset.disjoint_left.mpr
    intro n other found
    rcases Finset.mem_insert.mp found with same | old
    · exact Finset.ne_of_mem_erase other same
    · exact Finset.disjoint_left.mp apart (Finset.mem_of_mem_erase other) old
  · intro n found
    apply waits
    simp only [Finset.mem_union, Finset.mem_erase, Finset.mem_insert] at found ⊢
    rcases found with ⟨-, old⟩ | rfl | old
    · exact Or.inl old
    · exact Or.inl member
    · exact Or.inr old
  · intro n
    simp only [settleNode, dropped]
    by_cases same : n = w
    · subst same
      simp [Node.sendAllNonblocking, Node.setStatus, Node.setMapping]
    · simp only [Function.update_of_ne same, same, false_or]
      exact reached.mapping n
  · intro n
    simp only [settleNode, dropped]
    by_cases same : n = w
    · subst same
      simp [Node.sendAllNonblocking, Node.setStatus, Node.setMapping]
    · simp only [Function.update_of_ne same, same, false_or]
      exact reached.status n
  · have link : s.toCoordinator w = [] := linkKeys_nil reached.up outside
    have pushed := Links.each_push outside (MsgType.invalidateAck, p, (0 : Page))
    rw [Links.each_not_mem outside] at pushed
    simp only [settleNode, linkKeys_update, reached.up, link]
    rw [← pushed]
    simp [Node.sendAllNonblocking, Node.setStatus, Node.setMapping, peer.idle, peer.fd, packetKey]
  · simp only [settleNode, linkKeys_update, reached.down, List.map_nil, Links.each_pop]
  · simp only [settleNode]
    omega

/-- With no request queued the rest of the handler of an acknowledgement does nothing. -/
theorem resume_quiet (ok : SequencedOk T s) (queue : (s.sequencer.table p).queue = [])
    (resume : ∀ k, s.resume = some k → k = p) (next : s.resumeStep T = some t) :
    t = { s with resume := none } := by
  obtain ⟨k, resumed, rfl⟩ := Option.map_eq_some_iff.mp next
  obtain rfl := resume k resumed
  have idle : ({ s.sequencer with effects := [] } : Sequencer Page) = s.sequencer := by
    rw [← ok.idle]
  simp only [Sequencer.startDeferred, queue, settle, idle, ok.idle, sentOn_nil, List.append_nil,
    ite_self]

/-- A delivery takes the transaction on. -/
theorem Phase.advance (inRange : p < T.numPages) (worker : r ∈ T.workers) (ok : SequencedOk T s)
    {k : Nat} (phase : Phase p r isWrite start k s) {e : SequencedEvent}
    (delivery : e.isDelivery = true) (next : s.step T e = some t) :
    (∃ j < k, Phase p r isWrite start j t) ∨
      (k = 0 ∧ (Phase p r isWrite start 0 t ∨ Settled p t)) := by
  -- nothing is on a link that the phase leaves empty
  have nothing {links : Nat → List (DsmPacket Page)} {key : MsgType} {w : Nat}
      (known : linkKeys links = each ∅ (key, p, (0 : Page))) : links w = [] :=
    linkKeys_nil known (Finset.notMem_empty w)
  cases phase with
  | asked reached free resume =>
    cases e with
    | ask | mark => cases delivery
    | toCoordinator w => exact Or.inl (phase_request ok inRange worker reached free next)
    | toWorker w => simp [step, toWorkerStep, nothing reached.down] at next
    | resume => simp [step, resumeStep, resume] at next
  | collecting told acked apart waits reached active requester waiting counted resume =>
    cases e with
    | ask | mark => cases delivery
    | toCoordinator w =>
      exact Or.inl (phase_ack ok inRange worker apart waits reached active requester waiting counted
        next)
    | toWorker w =>
      exact Or.inl (phase_told ok inRange apart waits reached active requester waiting counted resume
        next)
    | resume => simp [step, resumeStep, resume] at next
  | granted reached resume =>
    refine Or.inr ⟨rfl, ?_⟩
    cases e with
    | ask | mark => cases delivery
    | toCoordinator w => simp [step, toCoordinatorStep, nothing reached.up] at next
    | resume =>
      obtain rfl := resume_quiet ok reached.queue resume next
      exact Or.inl (.granted { reached with } (by simp))
    | toWorker w =>
      obtain ⟨receiver, packet, rest, n, head, handled, rfl⟩ := toWorkerStep_cases next
      obtain ⟨member, type, -, -, rfl⟩ := linkKeys_head reached.down head
      obtain rfl := Finset.mem_singleton.mp member
      have done := handled_dispatchPacket (ok.peers w worker) worker
        (ok.down w worker packet (by simp [head])) handled
      have quiet : sentOn (T.connectFd w) n.effects = [] := by
        rw [done.sent, if_neg (by simp [type])]
      refine Or.inr ⟨reached.queue, fun v => ?_, fun v => ?_, resume⟩
      · simp only [settleNode, quiet, nothing reached.up, List.append_nil]
        by_cases same : v = w
        · rw [same, Function.update_self]
        · rw [Function.update_of_ne same, nothing reached.up]
      · simp only [settleNode]
        by_cases same : v = w
        · rw [same, Function.update_self]
        · rw [Function.update_of_ne same]
          exact linkKeys_nil reached.down (by simpa using same)

/-- Once the requester has its answer nothing more happens to the page. -/
theorem Settled.step (ok : SequencedOk T s) (settled : Settled p s) {e : SequencedEvent}
    (delivery : e.isDelivery = true) (next : s.step T e = some t) : Settled p t := by
  cases e with
  | ask | mark => cases delivery
  | toCoordinator w => simp [SequencedCluster.step, toCoordinatorStep, settled.up] at next
  | toWorker w => simp [SequencedCluster.step, toWorkerStep, settled.down] at next
  | resume =>
    obtain rfl := resume_quiet ok settled.queue settled.resume next
    exact { settled with resume := by simp }

end SequencedCluster

end Phases

/-! ### The transaction -/

namespace SequencedCluster

section Handling

variable [Zero Page] {T : Topology} {p r : Nat} {isWrite : Bool} {start s t : SequencedCluster Page}

/-- A state in a phase of the transaction that started in `start`. -/
structure Transacts (T : Topology) (p r : Nat) (isWrite : Bool) (start : SequencedCluster Page)
    (k : Nat) (s : SequencedCluster Page) : Prop where
  ok : SequencedOk T s
  phase : Phase p r isWrite start k s

theorem Asks.transacts (asks : start.Asks T p r isWrite) : Transacts T p r isWrite start
    (2 * ((start.sequencer.directory.entry p).waitsFor r isWrite).card + 1) start where
  ok := asks.ok
  phase := .asked
    { entry := rfl
      queue := asks.queue
      mapping := by simp
      status := by simp
      up := by
        funext w
        simp only [linkKeys, asks.sent.up, each]
        split <;> rfl
      down := by
        funext w
        simp only [linkKeys, asks.sent.down]
        rfl } asks.free asks.resume

/-- Every run of deliveries stays within the transaction. -/
theorem transacts_of_run (asks : start.Asks T p r isWrite) (inRange : p < T.numPages)
    (run : Runs.Run (step T) (fun _ e => e.isDelivery = true) start s) :
    (∃ k, Transacts T p r isWrite start k s) ∨ (SequencedOk T s ∧ Settled p s) := by
  apply run.invariant
  · exact Or.inl ⟨_, asks.transacts⟩
  · rintro a e b (⟨k, ok, phase⟩ | ⟨ok, settled⟩) delivery next
    · have good := (sequenced_step ok next).1
      rcases phase.advance inRange asks.worker ok delivery next with ⟨j, -, later⟩ | ⟨-, later | done⟩
      · exact Or.inl ⟨j, good, later⟩
      · exact Or.inl ⟨0, good, later⟩
      · exact Or.inr ⟨good, done⟩
    · exact Or.inr ⟨(sequenced_step ok next).1, settled.step ok delivery next⟩

/-- When only the answer is left, the transaction has reached its last phase. -/
theorem granted_of_sent (asks : start.Asks T p r isWrite) {page : Page}
    (state : (∃ k, Transacts T p r isWrite start k s) ∨ (SequencedOk T s ∧ Settled p s))
    (sent : GrantSent T p r page s.toCoordinator s.toWorker) :
    page = 0 ∧ SequencedOk T s ∧
      Reached p start s ((start.sequencer.directory.entry p).after r isWrite)
        ((start.sequencer.directory.entry p).waitsFor r isWrite) ∅ .invalidateAck {r} .sendPage := by
  obtain ⟨sender, answer⟩ := sent.answer
  rcases state with ⟨k, ok, phase⟩ | ⟨-, settled⟩
  · cases phase with
    | asked reached =>
      obtain ⟨_, link⟩ := linkKeys_mem reached.up (Finset.mem_singleton_self r)
      rw [sent.up r asks.worker] at link
      cases link
    | collecting told acked _ waits reached _ _ waiting counted =>
      -- whoever still has a packet in flight is another worker than `r`
      have target (n : Nat) (member : n ∈ told ∪ acked) : n ∈ T.workers ∧ n ≠ r := by
        refine ⟨waitsFor_subset asks.ok.sequencer p r isWrite (waits member), fun same => ?_⟩
        exact waitsFor_not_mem _ r isWrite (same ▸ waits member)
      rw [counted] at waiting
      rcases Nat.eq_zero_or_pos told.card with nobody | somebody
      · obtain ⟨n, member⟩ := Finset.card_pos.mp (show 0 < acked.card by omega)
        obtain ⟨_, link⟩ := linkKeys_mem reached.up member
        rw [sent.up n (target n (Finset.mem_union_right _ member)).1] at link
        cases link
      · obtain ⟨n, member⟩ := Finset.card_pos.mp somebody
        obtain ⟨worker, apart⟩ := target n (Finset.mem_union_left _ member)
        obtain ⟨_, link⟩ := linkKeys_mem reached.down member
        rw [sent.down n worker apart] at link
        cases link
    | granted reached =>
      obtain ⟨_, -, -, payload, -⟩ := linkKeys_head reached.down answer
      exact ⟨payload, ok, reached⟩
  · rw [settled.down] at answer
    cases answer

/-- However its packets are interleaved, a request has one outcome. -/
theorem Handles.outcome (inRange : p < T.numPages) {page : Page}
    (handles : Handles T p r page s t) (asks : s.Asks T p r isWrite) :
    page = 0 ∧
      t.sequencer.directory.entry p = (s.sequencer.directory.entry p).after r isWrite ∧
      ∀ n, ((t.node n).mapping p).isMapped =
        mapsAfter ((s.sequencer.directory.entry p).waitsFor r isWrite) r ((s.node r).pageTable p)
          (fun m => ((s.node m).mapping p).isMapped) n := by
  obtain ⟨g, run, sent, last⟩ := handles
  obtain ⟨answer, ok, reached⟩ := granted_of_sent asks (transacts_of_run asks inRange run) sent
  obtain ⟨sender, only⟩ := sent.answer
  have spared := waitsFor_not_mem (s.sequencer.directory.entry p) r isWrite
  have peer := ok.peers r asks.worker
  have connected := peer.connected asks.worker
  simp only [step, toWorkerStep, asks.worker, if_true, only] at last
  rw [(g.node r).dispatchPacket_answer connected (peer.pages ▸ inRange)] at last
  cases last
  refine ⟨answer, reached.entry, fun n => ?_⟩
  simp only [settleNode, mapsAfter]
  by_cases own : n = r
  · subst own
    rw [Function.update_self, if_pos rfl]
    have accepted := (g.node n).acceptPage_isMapped ⟨.sendPage, p, sender, page⟩
    rw [reached.status n, reached.mapping n, if_neg spared, if_neg spared] at accepted
    exact accepted
  · rw [Function.update_of_ne own, if_neg own, reached.mapping n]
    split <;> rfl

/-- Before the grant something can be delivered. -/
theorem Transacts.progress (asks : start.Asks T p r isWrite) (inRange : p < T.numPages) {k : Nat}
    (transacts : Transacts T p r isWrite start k s)
    (unanswered : ¬ ∃ page, GrantSent T p r page s.toCoordinator s.toWorker) :
    k ≠ 0 ∧ ∃ e t, e.isDelivery = true ∧ s.step T e = some t := by
  obtain ⟨ok, phase⟩ := transacts
  have delivered {w : Nat} (worker : w ∈ T.workers) (resume : s.resume = none)
      (waiting : s.toCoordinator w ≠ []) : ∃ e t, e.isDelivery = true ∧ s.step T e = some t := by
    cases head : s.toCoordinator w with
    | nil => exact absurd head waiting
    | cons packet rest =>
      obtain ⟨t, next⟩ : ∃ t, s.toCoordinatorStep T w = some t := by
        simp only [toCoordinatorStep, worker, resume, and_self, if_true, head]
        exact ⟨_, rfl⟩
      exact ⟨.toCoordinator w, t, rfl, next⟩
  cases phase with
  | asked reached free resume =>
    obtain ⟨_, link⟩ := linkKeys_mem reached.up (Finset.mem_singleton_self r)
    exact ⟨by omega, delivered asks.worker resume (by simp [link])⟩
  | collecting told acked _ waits reached _ _ waiting counted resume =>
    rw [counted] at waiting
    refine ⟨by omega, ?_⟩
    have target (n : Nat) (member : n ∈ told ∪ acked) : n ∈ T.workers :=
      waitsFor_subset asks.ok.sequencer p r isWrite (waits member)
    -- everybody has been told and an acknowledgement is on its way, or somebody is to be told
    rcases Nat.eq_zero_or_pos told.card with nobody | somebody
    · obtain ⟨n, member⟩ := Finset.card_pos.mp (show 0 < acked.card by omega)
      obtain ⟨_, link⟩ := linkKeys_mem reached.up member
      exact delivered (target n (Finset.mem_union_right _ member)) resume (by simp [link])
    · obtain ⟨n, member⟩ := Finset.card_pos.mp somebody
      have worker := target n (Finset.mem_union_left _ member)
      have peer := ok.peers n worker
      have connected := peer.connected worker
      obtain ⟨_, link⟩ := linkKeys_mem reached.down member
      obtain ⟨t, next⟩ : ∃ t, s.toWorkerStep T n = some t := by
        simp only [toWorkerStep, worker, if_true, link]
        rw [Node.dispatchPacket_invalidate connected rfl (peer.pages ▸ inRange)]
        exact ⟨_, rfl⟩
      exact ⟨.toWorker n, t, rfl, next⟩
  | granted reached =>
    refine absurd ⟨0, ?_⟩ unanswered
    refine { up := ?_, down := ?_, answer := ?_ }
    · intro w _
      exact linkKeys_nil reached.up (Finset.notMem_empty w)
    · intro w _ apart
      exact linkKeys_nil reached.down (by simpa using apart)
    · exact linkKeys_mem reached.down (Finset.mem_singleton_self r)

/-- A request is handled to completion. -/
theorem Asks.handled (asks : s.Asks T p r isWrite) (inRange : p < T.numPages) :
    ∃ page t, Handles T p r page s t := by
  obtain ⟨g, run, page, sent⟩ := Runs.Run.complete (Transacts T p r isWrite s)
    (fun g => ∃ page, GrantSent T p r page g.toCoordinator g.toWorker)
    (fun k g transacts unanswered => by
      obtain ⟨more, e, t, delivery, next⟩ := transacts.progress asks inRange unanswered
      rcases transacts.phase.advance inRange asks.worker transacts.ok delivery next with
        ⟨j, less, later⟩ | ⟨last, -⟩
      · exact ⟨e, t, j, delivery, next, ⟨(sequenced_step transacts.ok next).1, later⟩, less⟩
      · exact absurd last more) asks.transacts
  obtain ⟨-, ok, -⟩ := granted_of_sent asks (transacts_of_run asks inRange run) sent
  obtain ⟨sender, only⟩ := sent.answer
  have peer := ok.peers r asks.worker
  have connected := peer.connected asks.worker
  have handled := (g.node r).dispatchPacket_answer connected (peer.pages ▸ inRange) (T.connectFd r)
    sender page
  obtain ⟨t, next⟩ : ∃ t, g.step T (.toWorker r) = some t := by
    simp only [step, toWorkerStep, asks.worker, if_true, only, handled, Option.map_some]
    exact ⟨_, rfl⟩
  exact ⟨page, t, g, run, sent, next⟩

end Handling

end SequencedCluster

end TeleportVM
