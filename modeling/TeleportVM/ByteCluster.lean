import TeleportVM.ByteLinks
import TeleportVM.FaultHandling
import TeleportVM.Lib.Links

/-!
The cluster over byte streams. Each connection carries bytes, `recv` takes as many of them as it
likes, and a packet is dispatched when its last byte has arrived. The nodes behave as they do over
links that deliver whole packets.
-/
namespace TeleportVM

open Runs

/-- The cluster with the bytes of its connections. -/
structure ByteCluster where
  node : Nat → Node PageBytes
  toCoordinator : Nat → ByteLink
  toWorker : Nat → ByteLink

/-- A step of a thread that reads no connection, or a `recv` that returns `count` bytes. -/
inductive ByteEvent where
  | thread (e : Event PageBytes)
  | recvCoordinator (w count : Nat)
  | recvWorker (w count : Nat)

namespace ByteCluster

/-- The nodes with nothing in flight: what a step leaves on a link is what it sends there. -/
def quiet (s : ByteCluster) : Cluster PageBytes := ⟨s.node, fun _ => [], fun _ => []⟩

/-- The nodes after a step, and what it sends behind the bytes already in flight. -/
def transmit (s : ByteCluster) (sent : Cluster PageBytes) : ByteCluster where
  node := sent.node
  toCoordinator w := (s.toCoordinator w).push (sent.toCoordinator w)
  toWorker w := (s.toWorker w).push (sent.toWorker w)

/-- The handler of node `n` is called if the bytes completed a packet. -/
def deliver (T : Topology) (s : ByteCluster) (n : Nat) (fd : Int) :
    Option (DsmPacket PageBytes) → Option ByteCluster
  | none => some s
  | some packet => ((s.node n).dispatchPacket fd packet).map fun node =>
      s.transmit (s.quiet.settle T n node)

def recvCoordinatorStep (T : Topology) (s : ByteCluster) (w count : Nat) : Option ByteCluster :=
  if w ∈ T.workers then
    ((s.toCoordinator w).recv count).bind fun result =>
      { s with toCoordinator := Function.update s.toCoordinator w result.1 }.deliver T T.coordinator
        (T.acceptedFd w) result.2
  else none

def recvWorkerStep (T : Topology) (s : ByteCluster) (w count : Nat) : Option ByteCluster :=
  if w ∈ T.workers then
    ((s.toWorker w).recv count).bind fun result =>
      { s with toWorker := Function.update s.toWorker w result.1 }.deliver T w (T.connectFd w)
        result.2
  else none

def step (T : Topology) (s : ByteCluster) : ByteEvent → Option ByteCluster
  | .thread e => (s.quiet.step T e).map s.transmit
  | .recvCoordinator w count => s.recvCoordinatorStep T w count
  | .recvWorker w count => s.recvWorkerStep T w count

/-- The joins are in flight, and every buffer is empty. -/
def initial (T : Topology) : ByteCluster where
  node := (Cluster.initial T).node
  toCoordinator w := (⟨.cleared, []⟩ : ByteLink).push ((Cluster.initial T).toCoordinator w)
  toWorker w := (⟨.cleared, []⟩ : ByteLink).push ((Cluster.initial T).toWorker w)

/-- The cluster with each connection read as the packets that it still has to deliver. -/
def packets (s : ByteCluster) : Cluster PageBytes where
  node := s.node
  toCoordinator w := (s.toCoordinator w).packets
  toWorker w := (s.toWorker w).packets

end ByteCluster

/-! ### Packets in flight fit into their bytes -/

/-- Every packet in flight fits into its bytes. -/
structure StorableLinks (c : Cluster PageBytes) : Prop where
  up : ∀ w, ∀ packet ∈ c.toCoordinator w, packet.Storable
  down : ∀ w, ∀ packet ∈ c.toWorker w, packet.Storable

namespace StorableLinks

variable {T : Topology} {c c' : Cluster PageBytes}

theorem settle (links : StorableLinks c) {n : Nat} {node : Node PageBytes}
    (sends : node.SendsStorable) : StorableLinks (c.settle T n node) where
  up w packet member := by
    simp only [Cluster.settle] at member
    split at member
    · rcases List.mem_append.mp member with old | new
      · exact links.up w packet old
      · exact sends _ packet (mem_sentOn.mp new)
    · exact links.up w packet member
  down w packet member := by
    simp only [Cluster.settle] at member
    split at member
    · rcases List.mem_append.mp member with old | new
      · exact links.down w packet old
      · exact sends _ packet (mem_sentOn.mp new)
    · exact links.down w packet member

theorem dropUp (links : StorableLinks c) {w : Nat} {packet : DsmPacket PageBytes}
    {rest : List (DsmPacket PageBytes)} (head : c.toCoordinator w = packet :: rest) :
    StorableLinks { c with toCoordinator := Function.update c.toCoordinator w rest } :=
  { links with up := fun v q member => links.up v q (Links.mem_of_pop head member) }

theorem dropDown (links : StorableLinks c) {w : Nat} {packet : DsmPacket PageBytes}
    {rest : List (DsmPacket PageBytes)} (head : c.toWorker w = packet :: rest) :
    StorableLinks { c with toWorker := Function.update c.toWorker w rest } :=
  { links with down := fun v q member => links.down v q (Links.mem_of_pop head member) }

end StorableLinks

/-- A node of the topology has a small id, and the pages it is asked for exist. -/
theorem ClusterOk.id_small {T : Topology} {c : Cluster PageBytes} (ok : ClusterOk T c) {n : Nat}
    (member : n ∈ T.nodes) : (c.node n).localNodeId < 2 ^ 32 := by
  have same : (c.node n).localNodeId = n := by
    rcases Finset.mem_insert.mp member with rfl | worker
    · exact ok.coordinator.id
    · exact (ok.workers n worker).id
  have small := (T.valid_of_mem member).lt
  rw [same]
  omega

theorem ClusterOk.queued_inside {T : Topology} {c : Cluster PageBytes} (ok : ClusterOk T c) {n : Nat}
    (member : n ∈ T.nodes) {req : PageRequest} (queued : req ∈ (c.node n).sharedReqQueue) :
    req.pageIndex < T.numPages := by
  rcases Finset.mem_insert.mp member with rfl | worker
  · exact ok.coordinator.requests req (Or.inl queued)
  · exact (ok.workers n worker).requests req (Or.inl queued)

theorem Node.sendsStorable_of_effects {n : Node PageBytes} (none : n.effects = []) :
    n.SendsStorable := by
  intro fd packet member
  rw [none] at member
  cases member

/-- A step puts only packets on the links that fit into their bytes. -/
theorem StorableLinks.step {T : Topology} (addressable : T.numPages ≤ 2 ^ 64)
    {c c' : Cluster PageBytes} (ok : ClusterOk T c) (links : StorableLinks c) {e : Event PageBytes}
    (next : c.step T e = some c') : StorableLinks c' := by
  cases e with
  | load n p =>
    obtain ⟨-, -, ⟨-, rfl⟩ | ⟨-, rfl⟩⟩ := Cluster.loadStep_cases next
    · exact links
    · exact ⟨links.up, links.down⟩
  | store n p contents =>
    obtain ⟨-, -, ⟨-, rfl⟩ | ⟨-, rfl⟩⟩ := Cluster.storeStep_cases next
    · exact links.settle (Node.sendsStorable_of_effects (ok.idle n))
    · exact ⟨links.up, links.down⟩
  | fault n =>
    obtain ⟨-, fault, rest, -, rfl⟩ := Cluster.faultStep_cases next
    -- the handler queues a request and sends nothing itself
    apply links.settle
    apply Node.sendsStorable_of_effects
    rw [(Node.handleFault_rest _ fault).2]
    exact ok.idle n
  | drain n =>
    obtain ⟨member, req, rest, queue, rfl⟩ := Cluster.drainStep_cases next
    have inside := ok.queued_inside member (queue ▸ List.mem_cons_self)
    have silent : ({ c.node n with sharedReqQueue := rest }).SendsStorable :=
      Node.sendsStorable_of_effects (ok.idle n)
    exact links.settle (silent.serveQueuedRequest (inside.trans_le addressable) (ok.id_small member))
  | toCoordinator w =>
    obtain ⟨-, packet, rest, node, head, handled, rfl⟩ := Cluster.toCoordinatorStep_cases next
    have stored := links.up w packet (head ▸ List.mem_cons_self)
    have silent := Node.sendsStorable_of_effects (ok.idle T.coordinator)
    exact (links.dropUp head).settle
      (silent.dispatchPacket stored (ok.id_small T.coordinator_mem) handled)
  | toWorker w =>
    obtain ⟨worker, packet, rest, node, head, handled, rfl⟩ := Cluster.toWorkerStep_cases next
    have stored := links.down w packet (head ▸ List.mem_cons_self)
    have silent := Node.sendsStorable_of_effects (ok.idle w)
    exact (links.dropDown head).settle
      (silent.dispatchPacket stored (ok.id_small (T.worker_mem worker)) handled)
  | evict w =>
    obtain ⟨worker, result, swept, rfl⟩ := Cluster.evictStep_cases next
    -- a worker's own directory names no owner, so its sweep writes nothing back
    have quiet := (ok.workers w worker).evictionSweep_effects worker _ _ swept
    exact links.settle (Node.sendsStorable_of_effects (quiet.trans (ok.idle w)))

/-! ### One step -/

namespace Cluster

variable {T : Topology} (c : Cluster PageBytes)

/-- The same nodes with nothing in flight. -/
def silenced : Cluster PageBytes := ⟨c.node, fun _ => [], fun _ => []⟩

/-- What a step from there sends, behind the packets in flight. -/
def extend (sent : Cluster PageBytes) : Cluster PageBytes :=
  ⟨sent.node, fun w => c.toCoordinator w ++ sent.toCoordinator w,
    fun w => c.toWorker w ++ sent.toWorker w⟩

@[simp] theorem silenced_node : c.silenced.node = c.node := rfl

theorem extend_silenced : c.extend c.silenced = c := by
  simp [extend, silenced]

theorem extend_raise (n : Nat) (fault : PageRequest) :
    c.extend (c.silenced.raise n fault) = c.raise n fault := by
  simp [extend, silenced, raise]

theorem extend_settle (n : Nat) (node : Node PageBytes) :
    c.extend (c.silenced.settle T n node) = c.settle T n node := by
  simp only [extend, settle, silenced, mk.injEq, true_and]
  constructor
  · funext w
    split <;> simp
  · funext w
    split <;> simp

end Cluster

/-- A step that reads no connection. -/
def Event.readsNothing : Event PageBytes → Prop
  | .toCoordinator _ | .toWorker _ => False
  | _ => True

/-- Such a step does not depend on what is in flight. -/
theorem Cluster.step_eq_extend {T : Topology} (c : Cluster PageBytes) {e : Event PageBytes}
    (apart : e.readsNothing) : c.step T e = (c.silenced.step T e).map c.extend := by
  cases e with
  | load n p =>
    simp only [step, loadStep, silenced_node]
    split
    · by_cases mapped : ((c.node n).mapping p).isMapped = true
      · simp [mapped, extend_silenced]
      · simp [mapped, extend_raise]
    · rfl
  | store n p contents =>
    simp only [step, storeStep, silenced_node]
    split
    · by_cases writable : ((c.node n).mapping p).isWritable = true
      · simp [writable, extend_settle]
      · simp [writable, extend_raise]
    · rfl
  | fault n =>
    simp only [step, faultStep, silenced_node]
    split
    · split
      · rfl
      · exact congrArg some (c.extend_settle n _).symm
    · rfl
  | drain n =>
    simp only [step, drainStep, silenced_node]
    split
    · split
      · rfl
      · exact congrArg some (c.extend_settle n _).symm
    · rfl
  | toCoordinator | toWorker => exact apart.elim
  | evict w =>
    simp only [step, evictStep, silenced_node]
    split
    · rw [Option.map_map]
      exact congrArg (Option.map · _) (funext fun result => (c.extend_settle w _).symm)
    · rfl

/-- With nothing in flight there is nothing to read. -/
theorem ByteCluster.readsNothing_of_quiet {T : Topology} (s : ByteCluster) {e : Event PageBytes}
    {sent : Cluster PageBytes} (next : s.quiet.step T e = some sent) : e.readsNothing := by
  cases e with
  | toCoordinator w => simp [Cluster.step, Cluster.toCoordinatorStep, quiet] at next
  | toWorker w => simp [Cluster.step, Cluster.toWorkerStep, quiet] at next
  | load | store | fault | drain | evict => trivial

/-- The byte cluster has the nodes of the packet cluster, and its connections carry exactly the
packets that are in flight there. -/
structure Represents (s : ByteCluster) (c : Cluster PageBytes) : Prop where
  node : s.node = c.node
  up : ∀ w, (s.toCoordinator w).Carries (c.toCoordinator w)
  down : ∀ w, (s.toWorker w).Carries (c.toWorker w)

namespace Represents

variable {T : Topology} {s s' : ByteCluster} {c c' : Cluster PageBytes}

theorem storable (represents : Represents s c) : StorableLinks c :=
  ⟨fun w => (represents.up w).storable, fun w => (represents.down w).storable⟩

theorem packets_eq (represents : Represents s c) : s.packets = c := by
  rw [ByteCluster.packets, represents.node, funext fun w => (represents.up w).packets_eq,
    funext fun w => (represents.down w).packets_eq]

theorem quiet_eq (represents : Represents s c) : s.quiet = c.silenced := by
  rw [ByteCluster.quiet, represents.node]
  rfl

/-- What a step sends goes behind the bytes and behind the packets. -/
theorem transmit (represents : Represents s c) {sent : Cluster PageBytes}
    (storable : StorableLinks (c.extend sent)) : Represents (s.transmit sent) (c.extend sent) where
  node := rfl
  up w := (represents.up w).push fun packet member =>
    storable.up w packet (List.mem_append_right _ member)
  down w := (represents.down w).push fun packet member =>
    storable.down w packet (List.mem_append_right _ member)

theorem initial (T : Topology) : Represents (ByteCluster.initial T) (Cluster.initial T) where
  node := rfl
  up w := by
    refine ByteLink.Carries.nil.push (fun packet member => ?_)
    simp only [Cluster.initial] at member
    split at member
    next worker =>
      have small := (T.workers_valid w worker).lt
      rw [List.mem_singleton.mp member]
      exact ⟨rfl, Nat.two_pow_pos 64, small.trans_le (by decide)⟩
    · cases member
  down w := ByteLink.Carries.nil.push fun packet member => absurd member List.not_mem_nil

end Represents

/-! ### Refinement -/

section Steps

variable {T : Topology} {s s' : ByteCluster} {c c' : Cluster PageBytes}

theorem ByteCluster.recvCoordinatorStep_cases {w count : Nat}
    (next : s.recvCoordinatorStep T w count = some s') : w ∈ T.workers ∧
      ∃ link completed, (s.toCoordinator w).recv count = some (link, completed) ∧
        { s with toCoordinator := Function.update s.toCoordinator w link }.deliver T T.coordinator
          (T.acceptedFd w) completed = some s' := by
  unfold recvCoordinatorStep at next
  split at next
  next worker =>
    obtain ⟨⟨link, completed⟩, read, delivered⟩ := Option.bind_eq_some_iff.mp next
    exact ⟨worker, link, completed, read, delivered⟩
  · cases next

theorem ByteCluster.recvWorkerStep_cases {w count : Nat}
    (next : s.recvWorkerStep T w count = some s') : w ∈ T.workers ∧
      ∃ link completed, (s.toWorker w).recv count = some (link, completed) ∧
        { s with toWorker := Function.update s.toWorker w link }.deliver T w (T.connectFd w)
          completed = some s' := by
  unfold recvWorkerStep at next
  split at next
  next worker =>
    obtain ⟨⟨link, completed⟩, read, delivered⟩ := Option.bind_eq_some_iff.mp next
    exact ⟨worker, link, completed, read, delivered⟩
  · cases next

namespace Represents

theorem setUp (represents : Represents s c) (w : Nat) {link : ByteLink}
    {packets : List (DsmPacket PageBytes)} (carries : link.Carries packets) :
    Represents { s with toCoordinator := Function.update s.toCoordinator w link }
      { c with toCoordinator := Function.update c.toCoordinator w packets } :=
  { represents with
    up := fun v => by
      by_cases same : v = w
      · subst v; simpa using carries
      · simpa [same] using represents.up v }

theorem setDown (represents : Represents s c) (w : Nat) {link : ByteLink}
    {packets : List (DsmPacket PageBytes)} (carries : link.Carries packets) :
    Represents { s with toWorker := Function.update s.toWorker w link }
      { c with toWorker := Function.update c.toWorker w packets } :=
  { represents with
    down := fun v => by
      by_cases same : v = w
      · subst v; simpa using carries
      · simpa [same] using represents.down v }

/-- The handler of a packet sends behind what is in flight. -/
theorem settle (represents : Represents s c) {n : Nat} {node : Node PageBytes}
    (storable : StorableLinks (c.settle T n node)) :
    Represents (s.transmit (s.quiet.settle T n node)) (c.settle T n node) := by
  rw [represents.quiet_eq]
  rw [← c.extend_settle] at storable ⊢
  exact represents.transmit storable

/-- A step over bytes delivers what the packet cluster can deliver, or completes no packet. -/
theorem simulates (addressable : T.numPages ≤ 2 ^ 64) (ok : ClusterOk T c)
    (represents : Represents s c) {e : ByteEvent} (next : s.step T e = some s') :
    Represents s' c ∨ ∃ e' c', c.step T e' = some c' ∧ Represents s' c' := by
  cases e with
  | thread e =>
    right
    -- the same step over packets sends the same behind what is in flight
    obtain ⟨sent, alone, rfl⟩ := Option.map_eq_some_iff.mp next
    have taken : c.step T e = some (c.extend sent) := by
      rw [c.step_eq_extend (s.readsNothing_of_quiet alone), ← represents.quiet_eq, alone]
      rfl
    exact ⟨e, _, taken, represents.transmit (represents.storable.step addressable ok taken)⟩
  | recvCoordinator w count =>
    obtain ⟨worker, link, completed, read, delivered⟩ := s.recvCoordinatorStep_cases next
    rcases (represents.up w).recv read with ⟨rfl, carries⟩ | ⟨packet, rest, rfl, head, carries⟩
    · -- bytes moved to the buffer, and the packets to deliver are the same
      left
      cases delivered
      have kept := represents.setUp w carries
      rwa [Function.update_eq_self] at kept
    · right
      obtain ⟨node, handled, rfl⟩ := Option.map_eq_some_iff.mp delivered
      have taken : c.step T (.toCoordinator w) = some (({ c with
          toCoordinator := Function.update c.toCoordinator w rest } : Cluster PageBytes).settle T
            T.coordinator node) := by
        rw [represents.node] at handled
        simp [Cluster.step, Cluster.toCoordinatorStep, worker, head, handled]
      exact ⟨_, _, taken, (represents.setUp w carries).settle
        (represents.storable.step addressable ok taken)⟩
  | recvWorker w count =>
    obtain ⟨worker, link, completed, read, delivered⟩ := s.recvWorkerStep_cases next
    rcases (represents.down w).recv read with ⟨rfl, carries⟩ | ⟨packet, rest, rfl, head, carries⟩
    · left
      cases delivered
      have kept := represents.setDown w carries
      rwa [Function.update_eq_self] at kept
    · right
      obtain ⟨node, handled, rfl⟩ := Option.map_eq_some_iff.mp delivered
      have taken : c.step T (.toWorker w) = some (({ c with
          toWorker := Function.update c.toWorker w rest } : Cluster PageBytes).settle T w node) := by
        rw [represents.node] at handled
        simp [Cluster.step, Cluster.toWorkerStep, worker, head, handled]
      exact ⟨_, _, taken, (represents.setDown w carries).settle
        (represents.storable.step addressable ok taken)⟩

/-- Whatever has arrived of the first packet of a link, the rest of it can arrive next. -/
theorem realises (addressable : T.numPages ≤ 2 ^ 64) (ok : ClusterOk T c)
    (represents : Represents s c) {e : Event PageBytes} (next : c.step T e = some c') :
    ∃ e' s', s.step T e' = some s' ∧ Represents s' c' := by
  have storable := represents.storable.step addressable ok next
  by_cases apart : e.readsNothing
  · -- no connection is read: the same step, with the bytes set aside
    rw [c.step_eq_extend apart, ← represents.quiet_eq] at next
    obtain ⟨sent, taken, rfl⟩ := Option.map_eq_some_iff.mp next
    exact ⟨.thread e, _, by rw [ByteCluster.step, taken]; rfl, represents.transmit storable⟩
  · cases e with
    | toCoordinator w =>
      obtain ⟨worker, packet, rest, node, head, handled, rfl⟩ :=
        Cluster.toCoordinatorStep_cases next
      have carried := represents.up w
      rw [head] at carried
      -- one recv of all that the session asks for
      obtain ⟨link, read, carries⟩ := carried.recv_whole
      refine ⟨.recvCoordinator w (s.toCoordinator w).session.request, _, ?_,
        (represents.setUp w carries).settle storable⟩
      rw [← represents.node] at handled
      simp [ByteCluster.step, ByteCluster.recvCoordinatorStep, worker, read, ByteCluster.deliver,
        handled]
    | toWorker w =>
      obtain ⟨worker, packet, rest, node, head, handled, rfl⟩ := Cluster.toWorkerStep_cases next
      have carried := represents.down w
      rw [head] at carried
      obtain ⟨link, read, carries⟩ := carried.recv_whole
      refine ⟨.recvWorker w (s.toWorker w).session.request, _, ?_,
        (represents.setDown w carries).settle storable⟩
      rw [← represents.node] at handled
      simp [ByteCluster.step, ByteCluster.recvWorkerStep, worker, read, ByteCluster.deliver, handled]
    | load | store | fault | drain | evict => exact absurd trivial apart

end Represents

end Steps

/-! ### Runs -/

/-- However the bytes of each connection are cut by `recv`: reading every connection as the packets
it still has to deliver, the clusters reached over byte streams are exactly those reached over
links that deliver whole packets. -/
theorem byte_streams_refine {T : Topology} (addressable : T.numPages ≤ 2 ^ 64)
    (c : Cluster PageBytes) :
    (∃ s, Run (ByteCluster.step T) (fun _ _ => True) (ByteCluster.initial T) s ∧ s.packets = c) ↔
      Run (Cluster.step T) (fun _ _ => True) (Cluster.initial T) c := by
  constructor
  · rintro ⟨s, run, rfl⟩
    -- a recv that completes no packet is matched by no step
    have matched : ∃ c, Run (Cluster.step T) (fun _ _ => True) (Cluster.initial T) c ∧
        Represents s c ∧ ClusterOk T c := by
      refine run.simulates (fun s c => Represents s c ∧ ClusterOk T c) ?_
        ⟨Represents.initial T, ClusterOk.initial T⟩
      rintro s c e s' ⟨represents, ok⟩ - next
      rcases represents.simulates addressable ok next with same | ⟨e', c', taken, there⟩
      · exact ⟨c, .refl, same, ok⟩
      · exact ⟨c', .single ⟨e', trivial, taken⟩, there, ok.step taken⟩
    obtain ⟨c, matching, represents, -⟩ := matched
    rw [represents.packets_eq]
    exact matching
  · intro run
    have matched : ∃ s, Run (ByteCluster.step T) (fun _ _ => True) (ByteCluster.initial T) s ∧
        Represents s c ∧ ClusterOk T c := by
      refine run.simulates (fun c s => Represents s c ∧ ClusterOk T c) ?_
        ⟨Represents.initial T, ClusterOk.initial T⟩
      rintro c s e c' ⟨represents, ok⟩ - next
      obtain ⟨e', s', taken, there⟩ := represents.realises addressable ok next
      exact ⟨s', .single ⟨e', trivial, taken⟩, there, ok.step next⟩
    obtain ⟨s, matching, represents, -⟩ := matched
    exact ⟨s, matching, represents.packets_eq⟩

/-- Two writes to one page, over byte streams: the second worker can write. -/
theorem byte_streams_refine_writes : ∃ s : ByteCluster,
    Run (ByteCluster.step twoWorkers) (fun _ _ => True) (ByteCluster.initial twoWorkers) s ∧
      ((s.node 3).mapping 0).isWritable = true := by
  obtain ⟨c, run, writable⟩ := exists_run (Cluster.step twoWorkers) (fun _ _ => True)
    (Cluster.initial twoWorkers) writeThenWrite (fun c => ((c.node 3).mapping 0).isWritable = true)
    (by decide +kernel)
  obtain ⟨s, matching, rfl⟩ := (byte_streams_refine (by decide) c).mpr run
  exact ⟨s, matching, writable⟩

end TeleportVM
