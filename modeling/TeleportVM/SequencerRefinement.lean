import TeleportVM.SequencerCalls
import TeleportVM.CoordinatorView

/-!
The sequencer and its peers, seen from one page: every step is a move of that page or
leaves it as it was. A message about the page is known by its type.
-/
namespace TeleportVM

open Bitmap (Enumerates)

variable {Page : Type}

/-! ### The two halves of the acknowledgement handler -/

section Halves

variable [Zero Page]

/-- A transaction adds its packets to those sent before. -/
theorem executeGpdTransaction_effects (q : Sequencer Page) (nodeFds : Nat → Int)
    (p node : Nat) (type : MsgType) (fd : Int) (earlier : List (Effect Page)) :
    Sequencer.executeGpdTransaction { q with effects := earlier ++ q.effects } nodeFds p node type fd =
      { q.executeGpdTransaction nodeFds p node type fd with
        effects := earlier ++ (q.executeGpdTransaction nodeFds p node type fd).effects } := by
  simp only [Sequencer.execute_eq, List.append_assoc]
  rfl

theorem startDeferred_effects (q : Sequencer Page) (nodeFds : Nat → Int) (p : Nat) :
    let rested : Sequencer Page := { q with effects := [] }
    q.startDeferred nodeFds p =
      { rested.startDeferred nodeFds p with
        effects := q.effects ++ (rested.startDeferred nodeFds p).effects } := by
  unfold Sequencer.startDeferred
  dsimp only
  split
  · simp
  next req rest queue =>
    have added := executeGpdTransaction_effects
      ({ q with effects := [] }.setSeq p { q.table p with queue := rest }) nodeFds
      req.pageIndex req.nodeId req.type req.clientFd q.effects
    simpa [Sequencer.setSeq] using added

omit [Zero Page] in
/-- Letting go of the thread twice is letting go of it once with all that was sent. -/
theorem settle_settle (T : Topology) (s : SequencedCluster Page) (a b : Sequencer Page)
    (first last : Option Nat) :
    (s.settle T a first).settle T b last =
      s.settle T { b with effects := a.effects ++ b.effects } last := by
  simp only [SequencedCluster.settle, SequencedCluster.mk.injEq, true_and]
  funext w
  split <;> simp

/-- An acknowledgement, with the rest of its handler when it completed a transaction, is one
call of `process_node_invalidate_ack`. -/
theorem ack_then_resume (T : Topology) (s : SequencedCluster Page) (p : Nat) :
    let result := s.sequencer.countInvalidateAck (SequencedCluster.nodeFds T) p
    let t := s.settle T result.1 (if result.2 then some p else none)
    (t.resumeStep T).getD t =
      s.settle T (s.sequencer.processNodeInvalidateAck (SequencedCluster.nodeFds T) p) none := by
  unfold Sequencer.processNodeInvalidateAck
  dsimp only
  generalize s.sequencer.countInvalidateAck (SequencedCluster.nodeFds T) p = result
  obtain ⟨q, complete⟩ := result
  cases complete with
  | false => rfl
  | true =>
    simp only [if_true, SequencedCluster.resumeStep]
    change (s.settle T q (some p)).settle T _ none = _
    rw [settle_settle, startDeferred_effects q]
    rfl

end Halves

/-! ### One page -/

structure SequencedPage where
  entry : GpdEntry
  seq : PageSequencer
  started : Option (Nat × MsgType)
  mapped : Nat → Bool
  up : Nat → List MsgType
  down : Nat → List MsgType

/-- Whom a transaction of `r` waits for. -/
def GpdEntry.waitsFor (e : GpdEntry) (r : Nat) (isWrite : Bool) : Finset Nat :=
  if isWrite then e.holders.erase r
  else if e.ownerNodeId ≠ 0 ∧ e.ownerNodeId ≠ r then {e.ownerNodeId}
  else ∅

def GpdEntry.after (e : GpdEntry) (r : Nat) (isWrite : Bool) : GpdEntry :=
  if isWrite then .ownedBy r else e.toShared r

namespace SequencedPage

def send (v : SequencedPage) (targets : Finset Nat) (m : MsgType) : SequencedPage :=
  { v with down := fun w => if w ∈ targets then v.down w ++ [m] else v.down w }

def popUp (v : SequencedPage) (w : Nat) (rest : List MsgType) : SequencedPage :=
  { v with up := Function.update v.up w rest }

/-- A transaction starts: it invalidates those it waits for, or grants at once. -/
def execute (v : SequencedPage) (r : Nat) (isWrite : Bool) : SequencedPage :=
  let waits := v.entry.waitsFor r isWrite
  let begun : SequencedPage :=
    { v with
      entry := v.entry.after r isWrite
      started := some (r, Node.requestType isWrite)
      seq :=
        { v.seq with
          transactionActive := decide (waits ≠ ∅)
          activeNode := if waits = ∅ then 0 else r
          expectedAcks := if isWrite = false ∧ waits = ∅ then v.seq.expectedAcks else waits.card } }
  if waits = ∅ then begun.send {r} .sendPage else begun.send waits .invalidate

inductive Move (T : Topology) (v : SequencedPage) : SequencedPage → Prop
  | ask (w : Nat) (isWrite : Bool) (worker : w ∈ T.workers) :
      Move T v (v.popUp w (v.up w ++ [Node.requestType isWrite]))
  | granted (w : Nat) (mapped : Bool) (rest : List MsgType) (worker : w ∈ T.workers)
      (head : v.down w = .sendPage :: rest) :
      Move T v
        { v with
          mapped := Function.update v.mapped w mapped
          down := Function.update v.down w rest }
  | invalidated (w : Nat) (rest : List MsgType) (worker : w ∈ T.workers)
      (head : v.down w = .invalidate :: rest) :
      Move T v
        ({ v with
          mapped := Function.update v.mapped w false
          down := Function.update v.down w rest }.popUp w (v.up w ++ [MsgType.invalidateAck]))
  | ignored (w : Nat) (m : MsgType) (rest : List MsgType) (worker : w ∈ T.workers)
      (head : v.up w = m :: rest) (request : m ≠ .invalidateAck) :
      Move T v (v.popUp w rest)
  | defer (w : Nat) (req : DeferredRequest) (rest : List MsgType) (worker : w ∈ T.workers)
      (head : v.up w = req.type :: rest) (request : req.type ≠ .invalidateAck) :
      Move T v
        { v.popUp w rest with seq := { v.seq with queue := v.seq.queue ++ [req] } }
  | start (w : Nat) (isWrite : Bool) (rest : List MsgType) (worker : w ∈ T.workers)
      (head : v.up w = Node.requestType isWrite :: rest) (free : v.seq.transactionActive = false) :
      Move T v ((v.popUp w rest).execute w isWrite)
  | ackIgnored (w : Nat) (rest : List MsgType) (worker : w ∈ T.workers)
      (head : v.up w = .invalidateAck :: rest)
      (done : v.seq.transactionActive = false ∨ v.seq.expectedAcks = 0) :
      Move T v (v.popUp w rest)
  | ackCounted (w : Nat) (rest : List MsgType) (worker : w ∈ T.workers)
      (head : v.up w = .invalidateAck :: rest) (active : v.seq.transactionActive = true)
      (more : 1 < v.seq.expectedAcks) :
      Move T v
        { v.popUp w rest with seq := { v.seq with expectedAcks := v.seq.expectedAcks - 1 } }
  | ackLast (w : Nat) (rest : List MsgType) (worker : w ∈ T.workers)
      (head : v.up w = .invalidateAck :: rest) (active : v.seq.transactionActive = true)
      (last : v.seq.expectedAcks = 1) :
      Move T v
        ({ v.popUp w rest with
          seq := { v.seq with transactionActive := false, activeNode := 0, expectedAcks := 0 } }.send
            {v.seq.activeNode} .sendPage)
  | resume (r : Nat) (isWrite : Bool) (rest : List DeferredRequest) (worker : r ∈ T.workers)
      (free : v.seq.transactionActive = false) :
      Move T v ({ v with seq := { v.seq with queue := rest } }.execute r isWrite)

end SequencedPage

/-- The types of the packets about page `p`. -/
def pageTypes (p : Nat) (packets : List (DsmPacket Page)) : List MsgType :=
  packets.filterMap fun packet => if packet.pageIndex = p then some packet.type else none

@[simp] theorem pageTypes_append (p : Nat) (a b : List (DsmPacket Page)) :
    pageTypes p (a ++ b) = pageTypes p a ++ pageTypes p b := List.filterMap_append

theorem pageTypes_cons (p : Nat) (packet : DsmPacket Page) (rest : List (DsmPacket Page)) :
    pageTypes p (packet :: rest) =
      if packet.pageIndex = p then packet.type :: pageTypes p rest else pageTypes p rest := by
  by_cases own : packet.pageIndex = p <;> simp [pageTypes, own]

def SequencedCluster.page (s : SequencedCluster Page) (p : Nat) : SequencedPage where
  entry := s.sequencer.directory.entry p
  seq := s.sequencer.table p
  started := s.sequencer.started p
  mapped n := ((s.node n).mapping p).isMapped
  up w := pageTypes p (s.toCoordinator w)
  down w := pageTypes p (s.toWorker w)

/-! ### What holds of every reachable state -/

structure DeferredRequest.Ok (T : Topology) (p : Nat) (req : DeferredRequest) : Prop where
  member : req.nodeId ∈ T.workers
  fd : req.clientFd = T.acceptedFd req.nodeId
  page : req.pageIndex = p
  type : ∃ isWrite, req.type = Node.requestType isWrite

structure SequencerOk (T : Topology) (q : Sequencer Page) : Prop where
  total : q.totalManagedPages = T.numPages
  pages : q.directory.numPages = T.numPages
  entries : ∀ p, (q.directory.entry p).WellFormed
  holders : ∀ p, (q.directory.entry p).holders ⊆ T.workers
  active : ∀ p, (q.table p).transactionActive = true → (q.table p).activeNode ∈ T.workers
  queues : ∀ p, ∀ req ∈ (q.table p).queue, req.Ok T p

/-- A packet from the sequencer. -/
def GrantPacket (T : Topology) (packet : DsmPacket Page) : Prop :=
  packet.pageIndex < T.numPages ∧ (packet.type = .invalidate ∨ packet.type = .sendPage)

/-- A packet from peer `w`. -/
def PeerPacket (T : Topology) (w : Nat) (packet : DsmPacket Page) : Prop :=
  (packet.type = .invalidateAck ∧ packet.pageIndex < T.numPages) ∨
    (packet.senderNodeId = w ∧ ∃ isWrite, packet.type = Node.requestType isWrite)

structure PeerOk (T : Topology) (w : Nat) (n : Node Page) : Prop where
  pages : n.numPages = T.numPages
  fd : n.coordinatorFd = T.connectFd w
  idle : n.effects = []

theorem PeerOk.connected {w : Nat} {n : Node Page} (ok : PeerOk T w n) (worker : w ∈ T.workers) :
    n.coordinatorFd ≠ -1 := by
  rw [ok.fd]
  exact T.connectFd_open w worker

structure SequencedOk (T : Topology) (s : SequencedCluster Page) : Prop where
  sequencer : SequencerOk T s.sequencer
  idle : s.sequencer.effects = []
  resume : ∀ p, s.resume = some p →
    p < T.numPages ∧ (s.sequencer.table p).transactionActive = false
  peers : ∀ w ∈ T.workers, PeerOk T w (s.node w)
  up : ∀ w ∈ T.workers, ∀ packet ∈ s.toCoordinator w, PeerPacket T w packet
  down : ∀ w ∈ T.workers, ∀ packet ∈ s.toWorker w, GrantPacket T packet

/-! ### A transaction -/

section Execute

variable {T : Topology} {q : Sequencer Page} {p r : Nat}

theorem nodeFds_worker {w : Nat} (worker : w ∈ T.workers) :
    SequencedCluster.nodeFds T w = T.acceptedFd w := if_pos worker

theorem nodeFds_open {w : Nat} : SequencedCluster.nodeFds T w ≠ -1 ↔ w ∈ T.workers := by
  unfold SequencedCluster.nodeFds
  split
  next worker => exact iff_of_true (T.acceptedFd_open w worker) worker
  next outside => exact iff_of_false (fun differs => differs rfl) outside

theorem waitsFor_subset (ok : SequencerOk T q) (p r : Nat) (isWrite : Bool) :
    (q.directory.entry p).waitsFor r isWrite ⊆ T.workers := by
  unfold GpdEntry.waitsFor
  split
  · exact (Finset.erase_subset _ _).trans (ok.holders p)
  · split
    next owned =>
      refine (Finset.singleton_subset_iff.mpr (ok.holders p ?_))
      obtain ⟨-, shape⟩ := ok.entries p
      cases state : (q.directory.entry p).state <;> simp only [state] at shape
      · simp [GpdEntry.holders, state]
      · exact absurd shape.1 owned.1
      · exact absurd shape.1 owned.1
    · exact Finset.empty_subset _

theorem waitsFor_not_mem (e : GpdEntry) (r : Nat) (isWrite : Bool) : r ∉ e.waitsFor r isWrite := by
  unfold GpdEntry.waitsFor
  split
  · exact Finset.notMem_erase _ _
  · split
    next owned => simpa using Ne.symm owned.2
    · exact Finset.notMem_empty _

/-- The loops of a write visit the holders but the writer. -/
theorem invalidated_enumerates (ok : SequencerOk T q) (p r : Nat) :
    Enumerates ((List.range 64).filter fun i =>
        ((q.directory.entry p).invalidateMask r).getLsbD i && i != r)
      ((q.directory.entry p).waitsFor r true) where
  unique := Bitmap.nodup_scan _
  same m := by
    rw [Bitmap.mem_scan, invalidateMask_members _ (ok.entries p)]
    simp only [Finset.mem_filter, bne_iff_ne, GpdEntry.waitsFor, if_true, and_iff_left_iff_imp]
    exact Finset.ne_of_mem_erase

/-- A transaction asks the nodes that the entry names, each of them once. -/
theorem waitsFor_enumerates (ok : SequencerOk T q) (inRange : p < T.numPages) (r : Nat)
    (isWrite : Bool) : Enumerates (q.waitsFor p r (Node.requestType isWrite))
      ((q.directory.entry p).waitsFor r isWrite) := by
  have inside : p < q.directory.numPages := ok.pages ▸ inRange
  cases isWrite with
  | true =>
    have listed := invalidated_enumerates ok p r
    simpa only [Node.requestType, if_true, Sequencer.waitsFor,
      gpdTransitionToModified_eq _ _ _ inside, Option.map_some, Option.getD_some] using listed
  | false =>
    simp only [Node.requestType, Bool.false_eq_true, if_false, Sequencer.waitsFor,
      gpdTransitionToShared_eq _ _ _ inside, Option.map_some, Option.getD_some, GpdEntry.waitsFor]
    split
    · exact ⟨List.nodup_singleton _, by simp⟩
    · exact ⟨List.nodup_nil, by simp⟩

/-- What a call of `execute_gpd_transaction` did. -/
structure Executed [Zero Page] (T : Topology) (q : Sequencer Page) (p r : Nat) (isWrite : Bool)
    (q' : Sequencer Page) : Prop where
  total : q'.totalManagedPages = q.totalManagedPages
  directory : q'.directory = q.directory.setEntry p ((q.directory.entry p).after r isWrite)
  table : q'.table = Function.update q.table p
    { q.table p with
      transactionActive := decide ((q.directory.entry p).waitsFor r isWrite ≠ ∅)
      activeNode := if (q.directory.entry p).waitsFor r isWrite = ∅ then 0 else r
      expectedAcks :=
        if isWrite = false ∧ (q.directory.entry p).waitsFor r isWrite = ∅ then
          (q.table p).expectedAcks
        else ((q.directory.entry p).waitsFor r isWrite).card }
  started : q'.started = Function.update q.started p (some (r, Node.requestType isWrite))
  granted : (q.directory.entry p).waitsFor r isWrite = ∅ →
    q'.effects = q.effects ++ [.send (T.acceptedFd r) ⟨.sendPage, p, 0, 0⟩]
  invalidated : (q.directory.entry p).waitsFor r isWrite ≠ ∅ → ∃ list sender,
    Enumerates list ((q.directory.entry p).waitsFor r isWrite) ∧
      q'.effects = q.effects ++ list.map fun m =>
        .send (SequencedCluster.nodeFds T m) ⟨.invalidate, p, sender, 0⟩

variable [Zero Page]

omit [Zero Page] in
theorem directoryAfter_eq (ok : SequencerOk T q) (inRange : p < T.numPages) (r : Nat)
    (isWrite : Bool) : q.directoryAfter p r (Node.requestType isWrite) =
      q.directory.setEntry p ((q.directory.entry p).after r isWrite) := by
  have inside : p < q.directory.numPages := ok.pages ▸ inRange
  cases isWrite with
  | true => simp [Node.requestType, Sequencer.directoryAfter, GpdEntry.after,
      gpdTransitionToModified_eq _ _ _ inside]
  | false => simp [Node.requestType, Sequencer.directoryAfter, GpdEntry.after,
      gpdTransitionToShared_eq _ _ _ inside]

omit [Zero Page] in
theorem waitsFor_eq_nil (ok : SequencerOk T q) (inRange : p < T.numPages) (r : Nat)
    (isWrite : Bool) : q.waitsFor p r (Node.requestType isWrite) = [] ↔
      (q.directory.entry p).waitsFor r isWrite = ∅ := by
  rw [← List.length_eq_zero_iff, (waitsFor_enumerates ok inRange r isWrite).length_eq,
    Finset.card_eq_zero]

omit [Zero Page] in
/-- A write counts the nodes it asks, a read asks one. -/
theorem recordAfter_eq (ok : SequencerOk T q) (inRange : p < T.numPages) (r : Nat)
    (isWrite : Bool) : q.recordAfter p r (Node.requestType isWrite) =
      { q.table p with
        transactionActive := decide ((q.directory.entry p).waitsFor r isWrite ≠ ∅)
        activeNode := if (q.directory.entry p).waitsFor r isWrite = ∅ then 0 else r
        expectedAcks :=
          if isWrite = false ∧ (q.directory.entry p).waitsFor r isWrite = ∅ then
            (q.table p).expectedAcks
          else ((q.directory.entry p).waitsFor r isWrite).card } := by
  have nobody := waitsFor_eq_nil ok inRange r isWrite
  have length := (waitsFor_enumerates ok inRange r isWrite).length_eq
  by_cases none : (q.directory.entry p).waitsFor r isWrite = ∅
  · cases isWrite with
    | true =>
      have nil : q.waitsFor p r .requestPageWrite = [] := nobody.mpr none
      simp [Node.requestType, Sequencer.recordAfter, nil, none]
    | false =>
      have nil : q.waitsFor p r .requestPageRead = [] := nobody.mpr none
      simp [Node.requestType, Sequencer.recordAfter, nil, none]
  · rw [← length]
    cases isWrite with
    | true =>
      have some : q.waitsFor p r .requestPageWrite ≠ [] := mt nobody.mp none
      simp [Node.requestType, Sequencer.recordAfter, some, none]
    | false =>
      have some : q.waitsFor p r .requestPageRead ≠ [] := mt nobody.mp none
      simp [Node.requestType, Sequencer.recordAfter, some, none, q.waitsFor_read_length p r some]

theorem executed (ok : SequencerOk T q) (inRange : p < T.numPages) (isWrite : Bool) :
    Executed T q p r isWrite (q.executeGpdTransaction (SequencedCluster.nodeFds T) p r
      (Node.requestType isWrite) (T.acceptedFd r)) := by
  have nobody := waitsFor_eq_nil ok inRange r isWrite
  have listed := waitsFor_enumerates ok inRange r isWrite
  -- all of them are connected
  have connected : (q.waitsFor p r (Node.requestType isWrite)).filter
      (fun m => SequencedCluster.nodeFds T m != -1) = q.waitsFor p r (Node.requestType isWrite) := by
    refine List.filter_eq_self.mpr fun m found => ?_
    simpa using nodeFds_open.mpr (waitsFor_subset ok p r isWrite ((listed.same m).mp found))
  rw [Sequencer.execute_eq, directoryAfter_eq ok inRange, recordAfter_eq ok inRange]
  refine ⟨rfl, rfl, rfl, rfl, fun none => congrArg (q.effects ++ ·) ?_, fun some => ?_⟩
  · cases isWrite with
    | true => exact if_pos (nobody.mpr none)
    | false => exact if_pos (nobody.mpr none)
  · cases isWrite with
    | true =>
      refine ⟨_, 0, listed, congrArg (q.effects ++ ·) ((if_neg (mt nobody.mp some)).trans ?_)⟩
      exact congrArg (List.map _) connected
    | false => exact ⟨_, r, listed, congrArg (q.effects ++ ·) (if_neg (mt nobody.mp some))⟩

omit [Zero Page] in
theorem after_wellFormed (ok : SequencerOk T q) (worker : r ∈ T.workers) (isWrite : Bool) :
    ((q.directory.entry p).after r isWrite).WellFormed ∧
      ((q.directory.entry p).after r isWrite).holders ⊆ T.workers := by
  have valid := T.workers_valid r worker
  cases isWrite with
  | true =>
    exact ⟨ownedBy_wellFormed r valid, by
      simpa [GpdEntry.after] using Finset.singleton_subset_iff.mpr worker⟩
  | false =>
    refine ⟨toShared_wellFormed _ (ok.entries p) r valid, ?_⟩
    simp only [GpdEntry.after, Bool.false_eq_true, if_false,
      toShared_holders _ (ok.entries p) r valid]
    exact Finset.insert_subset worker (ok.holders p)

theorem Executed.ok {q' : Sequencer Page} {isWrite : Bool} (done : Executed T q p r isWrite q')
    (ok : SequencerOk T q) (worker : r ∈ T.workers) : SequencerOk T q' := by
  obtain ⟨wellFormed, holders⟩ := after_wellFormed (p := p) ok worker isWrite
  refine ⟨done.total.trans ok.total, ?_, fun k => ?_, fun k => ?_, fun k => ?_, fun k => ?_⟩
  · rw [done.directory]; exact ok.pages
  · rw [done.directory]
    by_cases same : k = p
    · subst same; simpa using wellFormed
    · simpa [same] using ok.entries k
  · rw [done.directory]
    by_cases same : k = p
    · subst same; simpa using holders
    · simpa [same] using ok.holders k
  · rw [done.table]
    by_cases same : k = p
    · subst same
      simp only [Function.update_self, decide_eq_true_eq]
      intro some
      rw [if_neg some]
      exact worker
    · simpa [same] using ok.active k
  · rw [done.table]
    by_cases same : k = p
    · subst same; simpa using ok.queues k
    · simpa [same] using ok.queues k

/-- With nobody to wait for, the requester alone is sent something: the grant. -/
theorem Executed.grants {q' : Sequencer Page} {isWrite : Bool} (done : Executed T q p r isWrite q')
    (idle : q.effects = []) (worker : r ∈ T.workers)
    (alone : (q.directory.entry p).waitsFor r isWrite = ∅) :
    ∀ w ∈ T.workers, ∃ sender, sentOn (T.acceptedFd w) q'.effects =
      if w ∈ ({r} : Finset Nat) then [⟨.sendPage, p, sender, 0⟩] else [] := by
  intro w other
  refine ⟨0, ?_⟩
  rw [done.granted alone, idle, List.nil_append, sentOn_accepted T _ worker other]
  simp only [Finset.mem_singleton]

/-- Otherwise those it waits for are each sent an invalidation. -/
theorem Executed.invalidates {q' : Sequencer Page} {isWrite : Bool}
    (done : Executed T q p r isWrite q') (ok : SequencerOk T q) (idle : q.effects = [])
    (waiting : (q.directory.entry p).waitsFor r isWrite ≠ ∅) :
    ∀ w ∈ T.workers, ∃ sender, sentOn (T.acceptedFd w) q'.effects =
      if w ∈ (q.directory.entry p).waitsFor r isWrite then [⟨.invalidate, p, sender, 0⟩]
      else [] := by
  intro w other
  obtain ⟨list, sender, listed, effects⟩ := done.invalidated waiting
  refine ⟨sender, ?_⟩
  rw [effects, idle, List.nil_append, sentOn_each T _ _ list listed.unique (fun m found => ?_) other]
  · simp only [listed.same]
  · have member := waitsFor_subset ok p r isWrite ((listed.same m).mp found)
    exact ⟨member, nodeFds_worker member⟩

end Execute

/-! ### Steps -/

section Step

variable {T : Topology} {s t : SequencedCluster Page} {p : Nat}

theorem pageTypes_update (links : Nat → List (DsmPacket Page)) (w : Nat)
    (queue : List (DsmPacket Page)) :
    (fun v => pageTypes p (Function.update links w queue v)) =
      Function.update (fun v => pageTypes p (links v)) w (pageTypes p queue) := by
  funext v
  by_cases same : v = w
  · subst same; simp
  · simp [same]

/-- A packet about another page leaves the page's link as it is. -/
theorem pageTypes_pop_other {links : Nat → List (DsmPacket Page)} {w : Nat}
    {packet : DsmPacket Page} {rest : List (DsmPacket Page)} (head : links w = packet :: rest)
    (other : packet.pageIndex ≠ p) :
    (fun v => pageTypes p (Function.update links w rest v)) = fun v => pageTypes p (links v) := by
  have same : pageTypes p rest = pageTypes p (links w) := by
    rw [head, pageTypes_cons, if_neg other]
  rw [pageTypes_update, same, Function.update_eq_self]

theorem mapped_update (node : Nat → Node Page) (w : Nat) (n : Node Page) :
    (fun v => ((Function.update node w n v).mapping p).isMapped) =
      Function.update (fun v => ((node v).mapping p).isMapped) w (n.mapping p).isMapped := by
  funext v
  by_cases same : v = w
  · subst same; simp
  · simp [same]

/-- The page after the sequencer let go of its thread. -/
theorem page_settle (q : Sequencer Page) (resume : Option Nat) :
    (s.settle T q resume).page p =
      { entry := q.directory.entry p
        seq := q.table p
        started := q.started p
        mapped := (s.page p).mapped
        up := (s.page p).up
        down := fun w =>
          if w ∈ T.workers then
            (s.page p).down w ++ pageTypes p (sentOn (T.acceptedFd w) q.effects)
          else (s.page p).down w } := by
  simp only [SequencedCluster.page, SequencedCluster.settle, SequencedPage.mk.injEq, true_and]
  funext w
  split <;> simp

/-- The page after the sequencer sent one packet about page `k` to each of `targets`. -/
theorem page_settle_sent [Zero Page] {q : Sequencer Page} (resume : Option Nat)
    {targets : Finset Nat} {type : MsgType} {k : Nat} (inside : targets ⊆ T.workers)
    (sent : ∀ w ∈ T.workers, ∃ sender, sentOn (T.acceptedFd w) q.effects =
      if w ∈ targets then [⟨type, k, sender, 0⟩] else []) :
    (s.settle T q resume).page p =
      if p = k then
        { s.page p with
          entry := q.directory.entry p
          seq := q.table p
          started := q.started p }.send targets type
      else
        { s.page p with
          entry := q.directory.entry p
          seq := q.table p
          started := q.started p } := by
  rw [page_settle]
  split
  next same =>
    subst same
    simp only [SequencedPage.send, SequencedPage.mk.injEq, true_and]
    funext w
    by_cases worker : w ∈ T.workers
    · obtain ⟨sender, link⟩ := sent w worker
      rw [if_pos worker, link]
      split <;> simp [pageTypes]
    · rw [if_neg worker, if_neg fun target => worker (inside target)]
  -- another page does not see packets about `k`
  next other =>
    simp only [SequencedPage.mk.injEq, true_and]
    funext w
    split
    next worker =>
      obtain ⟨sender, link⟩ := sent w worker
      have silent : pageTypes p (sentOn (T.acceptedFd w) q.effects) = [] := by
        rw [link]
        split <;> simp [pageTypes, Ne.symm other]
      rw [silent, List.append_nil]
    · rfl

/-- The page after a peer let go of its thread. -/
theorem page_settleNode (w : Nat) (n : Node Page) :
    (s.settleNode T w n).page p =
      { s.page p with
        mapped := Function.update (s.page p).mapped w (n.mapping p).isMapped
        up := Function.update (s.page p).up w
          ((s.page p).up w ++ pageTypes p (sentOn (T.connectFd w) n.effects)) } := by
  simp only [SequencedCluster.page, SequencedCluster.settleNode, SequencedPage.mk.injEq, true_and,
    and_true]
  refine ⟨?_, ?_⟩
  · exact mapped_update s.node w { n with effects := [] }
  · rw [pageTypes_update, pageTypes_append]

theorem SequencedOk.settle (ok : SequencedOk T s) {q : Sequencer Page} {resume : Option Nat}
    (good : SequencerOk T q)
    (resumes : ∀ p, resume = some p → p < T.numPages ∧ (q.table p).transactionActive = false)
    (sends : ∀ w ∈ T.workers, ∀ packet ∈ sentOn (T.acceptedFd w) q.effects, GrantPacket T packet) :
    SequencedOk T (s.settle T q resume) where
  sequencer := { good with }
  idle := rfl
  resume := resumes
  peers := ok.peers
  up := ok.up
  down w worker packet found := by
    simp only [SequencedCluster.settle, worker, if_true] at found
    rcases List.mem_append.mp found with old | new
    · exact ok.down w worker packet old
    · exact sends w worker packet new

/-- Taking a packet off a link to the sequencer. -/
theorem SequencedOk.popUp (ok : SequencedOk T s) {w : Nat} {packet : DsmPacket Page}
    {rest : List (DsmPacket Page)} (head : s.toCoordinator w = packet :: rest) :
    SequencedOk T { s with toCoordinator := Function.update s.toCoordinator w rest } :=
  { ok with
    up := fun v worker q found => by
      by_cases same : v = w
      · subst same
        simp only [Function.update_self] at found
        exact ok.up v worker q (by rw [head]; exact List.mem_cons_of_mem _ found)
      · simp only [Function.update_of_ne same] at found
        exact ok.up v worker q found }

/-- A transaction is settled: its page executes it and the other pages see nothing. -/
theorem page_execute [Zero Page] (ok : SequencedOk T s) {q q' : Sequencer Page} {k r : Nat}
    {isWrite : Bool} (good : SequencerOk T q) (idle : q.effects = []) (worker : r ∈ T.workers)
    (entries : q.directory = s.sequencer.directory) (starts : q.started = s.sequencer.started)
    (done : Executed T q k r isWrite q') (resume : Option Nat) :
    (s.settle T q' resume).page p =
      if p = k then ({ s.page p with seq := q.table p }.execute r isWrite)
      else { s.page p with seq := q.table p } := by
  -- the grant goes out at once, or the invalidations do
  by_cases alone : (q.directory.entry k).waitsFor r isWrite = ∅
  · rw [page_settle_sent resume (Finset.singleton_subset_iff.mpr worker)
      (done.grants idle worker alone)]
    split
    next same =>
      subst same
      unfold SequencedPage.execute
      rw [entries] at alone
      simp [done.directory, done.table, done.started, SequencedCluster.page, entries, alone]
    next other =>
      simp only [done.directory, done.table, done.started, setEntry_other _ _ other,
        Function.update_of_ne other, SequencedCluster.page, entries, starts]
  · have sent := done.invalidates good idle alone
    rw [entries] at sent alone
    rw [page_settle_sent resume (waitsFor_subset ok.sequencer k r isWrite) sent]
    split
    next same =>
      subst same
      unfold SequencedPage.execute
      simp [done.directory, done.table, done.started, SequencedCluster.page, entries, alone]
    next other =>
      simp only [done.directory, done.table, done.started, setEntry_other _ _ other,
        Function.update_of_ne other, SequencedCluster.page, entries, starts]

/-- What a peer's engine does with a packet of the sequencer. -/
structure Handled [Zero Page] (T : Topology) (w : Nat) (n : Node Page) (packet : DsmPacket Page)
    (n' : Node Page) : Prop where
  pages : n'.numPages = n.numPages
  fd : n'.coordinatorFd = n.coordinatorFd
  mapping : ∃ m, n'.mapping = Function.update n.mapping packet.pageIndex m ∧
    (packet.type = .invalidate → m = .unmapped)
  sent : sentOn (T.connectFd w) n'.effects =
    if packet.type = .invalidate then [⟨.invalidateAck, packet.pageIndex, n.localNodeId, 0⟩] else []

theorem handled_acceptPage [Zero Page] {w : Nat} {n : Node Page} (idle : n.effects = [])
    (packet : DsmPacket Page) (type : packet.type = .sendPage) :
    Handled T w n packet (n.acceptPage packet) := by
  unfold Node.acceptPage
  dsimp only
  split
  · exact ⟨rfl, rfl, ⟨_, rfl, by simp [type]⟩, by
      simp [Node.dsmMarkAccessed, Node.liftWriteProtection, idle, type]⟩
  · exact ⟨rfl, rfl, ⟨_, rfl, by simp [type]⟩, by
      simp [Node.installPage, Node.dsmMarkAccessed, idle, type]⟩
  · exact ⟨rfl, rfl, ⟨_, rfl, by simp [type]⟩, by
      simp [Node.installPage, Node.dsmMarkAccessed, idle, type]⟩
  · exact ⟨rfl, rfl, ⟨_, (Function.update_eq_self _ _).symm, by simp [type]⟩, by simp [idle, type]⟩

theorem handled_dispatchPacket [Zero Page] {w : Nat} {n n' : Node Page} (ok : PeerOk T w n)
    (worker : w ∈ T.workers) {packet : DsmPacket Page} (grant : GrantPacket T packet)
    (handled : n.dispatchPacket (T.connectFd w) packet = some n') :
    Handled T w n packet n' := by
  obtain ⟨inRange, type | type⟩ := grant
  · simp only [Node.dispatchPacket, type, Option.some.injEq] at handled
    subst handled
    have remote := ok.connected worker
    unfold Node.handleInvalidate
    dsimp only
    rw [if_pos (by rwa [ok.pages]), if_pos remote]
    exact ⟨rfl, rfl, ⟨_, rfl, fun _ => rfl⟩, by
      simp [Node.sendAllNonblocking, Node.setStatus, Node.setMapping, ok.idle, ok.fd, type]⟩
  · simp only [Node.dispatchPacket, type, Option.some.injEq] at handled
    subst handled
    have remote := ok.connected worker
    unfold Node.handleSendPage
    dsimp only
    rw [if_pos (by rwa [ok.pages]), if_neg fun both => remote both.1]
    exact handled_acceptPage ok.idle packet type

/-- A page's move, or no change of the page. -/
def SequencedPage.Step (T : Topology) (v v' : SequencedPage) : Prop :=
  SequencedPage.Move T v v' ∨ v' = v

variable [Zero Page]

theorem ask_moves (ok : SequencedOk T s) {w q : Nat} {isWrite : Bool}
    (next : s.askStep T w q isWrite = some t) :
    SequencedOk T t ∧ ∀ p, SequencedPage.Step T (s.page p) (t.page p) := by
  unfold SequencedCluster.askStep at next
  split at next
  next worker =>
    cases next
    refine ⟨{ ok with up := fun v other packet found => ?_ }, fun p => ?_⟩
    · by_cases same : v = w
      · subst same
        simp only [Function.update_self, List.mem_append, List.mem_singleton] at found
        rcases found with old | rfl
        · exact ok.up v other packet old
        · exact Or.inr ⟨rfl, isWrite, rfl⟩
      · simp only [Function.update_of_ne same] at found
        exact ok.up v other packet found
    · simp only [SequencedCluster.page, pageTypes_update, pageTypes_append]
      by_cases own : q = p
      · refine Or.inl ?_
        rw [show pageTypes p [(⟨Node.requestType isWrite, q, w, 0⟩ : DsmPacket Page)] =
          [Node.requestType isWrite] by simp [pageTypes, own]]
        exact .ask w isWrite worker
      · refine Or.inr ?_
        rw [show pageTypes p [(⟨Node.requestType isWrite, q, w, 0⟩ : DsmPacket Page)] = [] by
          simp [pageTypes, own], List.append_nil,
          Function.update_eq_self w fun v => pageTypes p (s.toCoordinator v)]
  · cases next

omit [Zero Page] in
theorem mark_moves (ok : SequencedOk T s) {w q : Nat} {status : PageStatus}
    (next : s.markStep T w q status = some t) :
    SequencedOk T t ∧ ∀ p, SequencedPage.Step T (s.page p) (t.page p) := by
  unfold SequencedCluster.markStep at next
  split at next
  · cases next
    refine ⟨{ ok with peers := fun v worker => ?_ }, fun p => Or.inr ?_⟩
    · by_cases same : v = w
      · subst same
        simpa using { ok.peers v worker with }
      · simpa [same] using ok.peers v worker
    · simp only [SequencedCluster.page, mapped_update, Node.setStatus]
      rw [Function.update_eq_self w fun v => ((s.node v).mapping p).isMapped]
  · cases next

theorem toWorker_moves (ok : SequencedOk T s) {w : Nat} (next : s.toWorkerStep T w = some t) :
    SequencedOk T t ∧ ∀ p, SequencedPage.Step T (s.page p) (t.page p) := by
  obtain ⟨worker, packet, rest, n, head, handled, rfl⟩ :=
    SequencedCluster.toWorkerStep_cases next
  have grant := ok.down w worker packet (by simp [head])
  have done := handled_dispatchPacket (ok.peers w worker) worker grant handled
  obtain ⟨m, mapping, unmapped⟩ := done.mapping
  refine ⟨{ ok with
    peers := fun v other => ?_
    up := fun v other q found => ?_
    down := fun v other q found => ?_ }, fun p => ?_⟩
  · by_cases same : v = w
    · subst same
      simpa [SequencedCluster.settleNode] using
        (⟨done.pages.trans (ok.peers v other).pages, done.fd.trans (ok.peers v other).fd, rfl⟩ :
          PeerOk T v { n with effects := [] })
    · simpa [SequencedCluster.settleNode, same] using ok.peers v other
  · -- what a peer sends back is an acknowledgement or nothing
    by_cases same : v = w
    · subst same
      simp only [SequencedCluster.settleNode, Function.update_self, List.mem_append] at found
      rcases found with old | new
      · exact ok.up v other q old
      · rw [done.sent] at new
        split at new
        · rw [List.mem_singleton.mp new]
          exact Or.inl ⟨rfl, grant.1⟩
        · exact absurd new List.not_mem_nil
    · simp only [SequencedCluster.settleNode, Function.update_of_ne same] at found
      exact ok.up v other q found
  · by_cases same : v = w
    · subst same
      simp only [SequencedCluster.settleNode, Function.update_self] at found
      exact ok.down v other q (by rw [head]; exact List.mem_cons_of_mem _ found)
    · simp only [SequencedCluster.settleNode, Function.update_of_ne same] at found
      exact ok.down v other q found
  · rw [page_settleNode, done.sent, mapping]
    by_cases own : packet.pageIndex = p
    · refine Or.inl ?_
      subst own
      have first : (s.page packet.pageIndex).down w =
          packet.type :: pageTypes packet.pageIndex rest := by
        simp [SequencedCluster.page, head, pageTypes_cons]
      simp only [SequencedCluster.page, pageTypes_update, Function.update_self]
      -- the page sees an invalidation or a grant
      rcases grant.2 with type | type
      · rw [type] at first
        rw [unmapped type, if_pos type]
        simpa [pageTypes, Mapping.isMapped, SequencedPage.popUp, SequencedCluster.page] using
          SequencedPage.Move.invalidated w _ worker first
      · rw [type] at first
        rw [if_neg (by simp [type])]
        simpa [pageTypes, SequencedCluster.page] using
          SequencedPage.Move.granted w m.isMapped _ worker first
    · refine Or.inr ?_
      simp only [SequencedCluster.page, pageTypes_pop_other head own,
        Function.update_of_ne (Ne.symm own)]
      have silent : pageTypes p (if packet.type = .invalidate then
          [(⟨.invalidateAck, packet.pageIndex, (s.node w).localNodeId, 0⟩ : DsmPacket Page)]
          else []) = [] := by
        split <;> simp [pageTypes, own]
      rw [silent, List.append_nil,
        Function.update_eq_self w fun v => pageTypes p (s.toCoordinator v),
        Function.update_eq_self w fun v => ((s.node v).mapping p).isMapped]

omit [Zero Page] in
/-- The sequencer let go of its thread without a send. -/
theorem page_settle_quiet {q : Sequencer Page} (quiet : q.effects = []) (resume : Option Nat) :
    (s.settle T q resume).page p =
      { s.page p with
        entry := q.directory.entry p
        seq := q.table p
        started := q.started p } := by
  rw [page_settle, quiet]
  simp [pageTypes]

omit [Zero Page] in
/-- The page when the head of a link to the sequencer is gone. -/
theorem page_popUp {w : Nat} {packet : DsmPacket Page} {rest : List (DsmPacket Page)}
    (head : s.toCoordinator w = packet :: rest) :
    ({ s with toCoordinator := Function.update s.toCoordinator w rest } : SequencedCluster Page).page p
      = if packet.pageIndex = p then (s.page p).popUp w (pageTypes p rest) else s.page p := by
  split
  · simp only [SequencedCluster.page, pageTypes_update, SequencedPage.popUp]
  next other => simp only [SequencedCluster.page, pageTypes_pop_other head other]

omit [Zero Page] in
theorem SequencerOk.setQueue {q : Sequencer Page} (ok : SequencerOk T q) (k : Nat)
    (queue : List DeferredRequest) (requests : ∀ req ∈ queue, req.Ok T k) :
    SequencerOk T (q.setSeq k { q.table k with queue := queue }) :=
  { ok with
    active := fun j => by
      by_cases same : j = k
      · subst same; simpa [Sequencer.setSeq] using ok.active j
      · simpa [Sequencer.setSeq, same] using ok.active j
    queues := fun j => by
      by_cases same : j = k
      · subst same; simpa [Sequencer.setSeq] using requests
      · simpa [Sequencer.setSeq, same] using ok.queues j }

theorem Executed.sends {q q' : Sequencer Page} {k r : Nat} {isWrite : Bool}
    (done : Executed T q k r isWrite q') (ok : SequencerOk T q) (idle : q.effects = [])
    (inRange : k < T.numPages) (worker : r ∈ T.workers) :
    ∀ w ∈ T.workers, ∀ packet ∈ sentOn (T.acceptedFd w) q'.effects, GrantPacket T packet := by
  intro w other packet found
  by_cases alone : (q.directory.entry k).waitsFor r isWrite = ∅
  · obtain ⟨sender, sent⟩ := done.grants idle worker alone w other
    rw [sent] at found
    split at found
    · rw [List.mem_singleton.mp found]
      exact ⟨inRange, Or.inr rfl⟩
    · exact absurd found List.not_mem_nil
  · obtain ⟨sender, sent⟩ := done.invalidates ok idle alone w other
    rw [sent] at found
    split at found
    · rw [List.mem_singleton.mp found]
      exact ⟨inRange, Or.inl rfl⟩
    · exact absurd found List.not_mem_nil

/-- A request from a peer. -/
theorem request_moves (ok : SequencedOk T s) {w : Nat} (worker : w ∈ T.workers)
    {packet : DsmPacket Page} {rest : List (DsmPacket Page)}
    (head : s.toCoordinator w = packet :: rest) (sender : packet.senderNodeId = w) (isWrite : Bool)
    (type : packet.type = Node.requestType isWrite) :
    let t := { s with toCoordinator := Function.update s.toCoordinator w rest }.settle T
      (s.sequencer.processNodeRequest (SequencedCluster.nodeFds T) (SequencedCluster.nodeFds T w)
        packet) none
    SequencedOk T t ∧ ∀ p, SequencedPage.Step T (s.page p) (t.page p) := by
  have popped := ok.popUp head
  have first (p : Nat) (own : packet.pageIndex = p) :
      (s.page p).up w = Node.requestType isWrite :: pageTypes p rest := by
    simp [SequencedCluster.page, head, pageTypes_cons, own, type]
  have request : Node.requestType isWrite ≠ .invalidateAck := by
    cases isWrite <;> simp [Node.requestType]
  -- out of range, deferred behind an active transaction, or started
  unfold Sequencer.processNodeRequest
  simp only [ok.sequencer.total, nodeFds_worker worker, sender, type]
  split
  · refine ⟨popped.settle ok.sequencer (by simp) (by simp [ok.idle]), fun p => ?_⟩
    rw [page_settle_quiet ok.idle, page_popUp head]
    split
    next own => exact Or.inl (.ignored w _ _ worker (first p own) request)
    next => exact Or.inr rfl
  next inside =>
    split
    · have good : SequencerOk T (s.sequencer.setSeq packet.pageIndex
          { s.sequencer.table packet.pageIndex with
            queue := (s.sequencer.table packet.pageIndex).queue ++
              [⟨w, Node.requestType isWrite, T.acceptedFd w, packet.pageIndex⟩] }) := by
        refine ok.sequencer.setQueue _ _ fun req found => ?_
        rcases List.mem_append.mp found with old | new
        · exact ok.sequencer.queues _ req old
        · rw [List.mem_singleton.mp new]
          exact ⟨worker, rfl, rfl, isWrite, rfl⟩
      refine ⟨popped.settle good (by simp) (by simp [Sequencer.setSeq, ok.idle]), fun p => ?_⟩
      rw [page_settle_quiet (by simp [Sequencer.setSeq, ok.idle]), page_popUp head]
      split
      next own =>
        subst own
        simp only [Sequencer.setSeq, Function.update_self]
        exact Or.inl (.defer w ⟨w, Node.requestType isWrite, T.acceptedFd w, packet.pageIndex⟩ _
          worker (first _ rfl) request)
      next other =>
        simp only [Sequencer.setSeq, Function.update_of_ne (Ne.symm other)]
        exact Or.inr rfl
    next idle =>
      have inRange := Nat.not_le.mp inside
      have done := executed (r := w) ok.sequencer inRange isWrite
      refine ⟨popped.settle (done.ok ok.sequencer worker) (by simp)
        (done.sends ok.sequencer ok.idle inRange worker), fun p => ?_⟩
      rw [page_execute popped ok.sequencer ok.idle worker rfl rfl done, page_popUp head]
      by_cases own : packet.pageIndex = p
      · subst own
        rw [if_pos rfl, if_pos rfl]
        exact Or.inl (.start w isWrite _ worker (first _ rfl)
          (by simpa [SequencedCluster.page] using idle))
      · rw [if_neg (Ne.symm own), if_neg own]
        exact Or.inr rfl

omit [Zero Page] in
theorem SequencerOk.setCounter {q : Sequencer Page} (ok : SequencerOk T q) (k : Nat)
    (seq : PageSequencer) (queue : seq.queue = (q.table k).queue)
    (active : seq.transactionActive = true → seq.activeNode ∈ T.workers) :
    SequencerOk T (q.setSeq k seq) :=
  { ok with
    active := fun j => by
      by_cases same : j = k
      · subst same; simpa [Sequencer.setSeq] using active
      · simpa [Sequencer.setSeq, same] using ok.active j
    queues := fun j => by
      by_cases same : j = k
      · subst same; simpa [Sequencer.setSeq, queue] using ok.queues j
      · simpa [Sequencer.setSeq, same] using ok.queues j }

/-- An acknowledgement from a peer. -/
theorem ack_moves (ok : SequencedOk T s) {w : Nat} (worker : w ∈ T.workers)
    {packet : DsmPacket Page} {rest : List (DsmPacket Page)}
    (head : s.toCoordinator w = packet :: rest) (type : packet.type = .invalidateAck)
    (inRange : packet.pageIndex < T.numPages) :
    let result := s.sequencer.countInvalidateAck (SequencedCluster.nodeFds T) packet.pageIndex
    let t := { s with toCoordinator := Function.update s.toCoordinator w rest }.settle T result.1
      (if result.2 then some packet.pageIndex else none)
    SequencedOk T t ∧ ∀ p, SequencedPage.Step T (s.page p) (t.page p) := by
  have popped := ok.popUp head
  have first (p : Nat) (own : packet.pageIndex = p) :
      (s.page p).up w = .invalidateAck :: pageTypes p rest := by
    simp [SequencedCluster.page, head, pageTypes_cons, own, type]
  rw [Sequencer.count_eq]
  -- the last one, one of several, or ignored
  by_cases done : s.sequencer.Completes packet.pageIndex
  · have active := done.2.1
    have one := done.2.2
    have member := ok.sequencer.active packet.pageIndex active
    -- the requester is still connected, so the grant is sent
    have connected := T.acceptedFd_open _ member
    simp only [Sequencer.recordCounted, Sequencer.grantCounted, done, connected, if_true,
      decide_true, nodeFds_worker member, ok.idle, List.nil_append, ne_eq, not_false_eq_true,
      and_self]
    have good := ok.sequencer.setCounter packet.pageIndex
      ⟨false, 0, 0, (s.sequencer.table packet.pageIndex).queue⟩ rfl (by simp)
    have sent (v : Nat) (other : v ∈ T.workers) := sentOn_accepted T
      (⟨.sendPage, packet.pageIndex, 0, 0⟩ : DsmPacket Page) member other
    refine ⟨popped.settle { good with } (fun p same => ?_) (fun v other q found => ?_), fun p => ?_⟩
    · cases same
      exact ⟨inRange, by simp⟩
    · rw [sent v other] at found
      split at found
      · rw [List.mem_singleton.mp found]; exact ⟨inRange, Or.inr rfl⟩
      · exact absurd found List.not_mem_nil
    · rw [page_settle_sent _ (Finset.singleton_subset_iff.mpr member) fun v other =>
        ⟨0, by simpa only [Finset.mem_singleton] using sent v other⟩, page_popUp head]
      by_cases own : packet.pageIndex = p
      · subst own
        rw [if_pos rfl, if_pos rfl]
        refine Or.inl ?_
        have move := SequencedPage.Move.ackLast (v := s.page packet.pageIndex) w _ worker
          (first _ rfl) active one
        convert move using 1
        simp [SequencedPage.send, SequencedPage.popUp, SequencedCluster.page]
      · rw [if_neg (Ne.symm own), if_neg own]
        simp only [SequencedCluster.page, Function.update_of_ne (Ne.symm own)]
        exact Or.inr rfl
  · simp only [Sequencer.recordCounted, Sequencer.grantCounted, done, false_and, if_false,
      List.append_nil, decide_false, Bool.false_eq_true]
    by_cases awaited : packet.pageIndex < s.sequencer.totalManagedPages ∧
        (s.sequencer.table packet.pageIndex).transactionActive = true ∧
        (s.sequencer.table packet.pageIndex).expectedAcks ≠ 0
    · rw [if_pos awaited]
      obtain ⟨inside, active, waiting⟩ := awaited
      have member := ok.sequencer.active packet.pageIndex active
      have good := ok.sequencer.setCounter packet.pageIndex
        { s.sequencer.table packet.pageIndex with
          expectedAcks := (s.sequencer.table packet.pageIndex).expectedAcks - 1 } rfl
        (fun _ => member)
      refine ⟨popped.settle good (by simp) (by simp [ok.idle]), fun p => ?_⟩
      rw [page_settle_quiet (by simp [ok.idle]), page_popUp head]
      split
      next own =>
        subst own
        simp only [Function.update_self]
        refine Or.inl (.ackCounted w _ worker (first _ rfl) active ?_)
        have last : (s.sequencer.table packet.pageIndex).expectedAcks ≠ 1 := fun one =>
          done ⟨inside, active, one⟩
        change 1 < (s.sequencer.table packet.pageIndex).expectedAcks
        omega
      next other =>
        simp only [Function.update_of_ne (Ne.symm other)]
        exact Or.inr rfl
    · rw [if_neg awaited, Function.update_eq_self]
      refine ⟨popped.settle ok.sequencer (by simp) (by simp [ok.idle]), fun p => ?_⟩
      rw [page_settle_quiet ok.idle, page_popUp head]
      split
      next own =>
        refine Or.inl (.ackIgnored w _ worker (first p own) ?_)
        subst own
        by_contra busy
        rw [not_or, Bool.not_eq_false] at busy
        exact awaited ⟨ok.sequencer.total ▸ inRange, busy⟩
      next => exact Or.inr rfl

theorem toCoordinator_moves (ok : SequencedOk T s) {w : Nat}
    (next : s.toCoordinatorStep T w = some t) :
    SequencedOk T t ∧ ∀ p, SequencedPage.Step T (s.page p) (t.page p) := by
  obtain ⟨worker, -, packet, rest, head, rfl⟩ :=
    SequencedCluster.toCoordinatorStep_cases next
  unfold SequencedCluster.dispatch
  rcases ok.up w worker packet (by simp [head]) with ⟨type, inRange⟩ | ⟨sender, isWrite, type⟩
  · rw [type]
    exact ack_moves ok worker head type inRange
  · cases isWrite with
    | true =>
      rw [show packet.type = .requestPageWrite from type]
      exact request_moves ok worker head sender true type
    | false =>
      rw [show packet.type = .requestPageRead from type]
      exact request_moves ok worker head sender false type

theorem resume_moves (ok : SequencedOk T s) (next : s.resumeStep T = some t) :
    SequencedOk T t ∧ ∀ p, SequencedPage.Step T (s.page p) (t.page p) := by
  unfold SequencedCluster.resumeStep at next
  obtain ⟨k, resumed, rfl⟩ := Option.map_eq_some_iff.mp next
  obtain ⟨inRange, free⟩ := ok.resume k resumed
  unfold Sequencer.startDeferred
  dsimp only
  split
  · refine ⟨ok.settle ok.sequencer (by simp) (by simp [ok.idle]), fun p => Or.inr ?_⟩
    rw [page_settle_quiet ok.idle]
    rfl
  next req rest queue =>
    have request := ok.sequencer.queues k req (by simp [queue])
    obtain ⟨isWrite, type⟩ := request.type
    have good := ok.sequencer.setQueue k rest fun other found =>
      ok.sequencer.queues k other (by simp [queue, found])
    have done := executed (r := req.nodeId) good inRange isWrite
    rw [request.page, type, request.fd]
    refine ⟨ok.settle (done.ok good request.member) (by simp)
      (done.sends good ok.idle inRange request.member), fun p => ?_⟩
    rw [page_execute ok good ok.idle request.member rfl rfl done]
    split
    next same =>
      subst same
      simp only [Sequencer.setSeq, Function.update_self]
      exact Or.inl (.resume req.nodeId isWrite rest request.member free)
    next other =>
      simp only [Sequencer.setSeq, Function.update_of_ne other]
      exact Or.inr rfl

/-- Every step keeps the state well formed and is, seen from a page, a move or nothing. -/
theorem sequenced_step (ok : SequencedOk T s) {e : SequencedEvent} (next : s.step T e = some t) :
    SequencedOk T t ∧ ∀ p, SequencedPage.Step T (s.page p) (t.page p) := by
  cases e with
  | ask w q isWrite => exact ask_moves ok next
  | mark w q status => exact mark_moves ok next
  | toWorker w => exact toWorker_moves ok next
  | toCoordinator w => exact toCoordinator_moves ok next
  | resume => exact resume_moves ok next

theorem initial_sequencedOk (T : Topology) :
    SequencedOk T (SequencedCluster.initial T : SequencedCluster Page) where
  sequencer :=
    { total := rfl
      pages := rfl
      entries := fun _ => gpdInit_wellFormed T.numPages _
      holders := fun _ => by
        simp [SequencedCluster.initial, coordinatorSequencerInit, gpdInit, GpdEntry.holders]
      active := fun _ active => by
        simp [SequencedCluster.initial, coordinatorSequencerInit] at active
      queues := fun _ req found => by
        simp [SequencedCluster.initial, coordinatorSequencerInit] at found }
  idle := rfl
  resume _ resumed := by simp [SequencedCluster.initial] at resumed
  peers _ _ := ⟨rfl, rfl, rfl⟩
  up _ _ _ found := by simp [SequencedCluster.initial] at found
  down _ _ _ found := by simp [SequencedCluster.initial] at found

end Step

end TeleportVM
