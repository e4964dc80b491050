import TeleportVM.Sequencer

/-!
What a transaction, an acknowledgement and a call of the sequencer do, each in one equation or one
list of cases. A change to a function of the source shows here first.
-/
namespace TeleportVM

variable {Page : Type}

/-- A call of the sequencer's interface, with the connection table it is given. -/
inductive SequencerCall (Page : Type) where
  | request (nodeFds : Nat → Int) (clientFd : Int) (packet : DsmPacket Page)
  | invalidateAck (nodeFds : Nat → Int) (pageIndex ackNodeId : Nat)

namespace Sequencer

variable [Zero Page]

def call (s : Sequencer Page) : SequencerCall Page → Sequencer Page
  | .request nodeFds clientFd packet => s.processNodeRequest nodeFds clientFd packet
  | .invalidateAck nodeFds pageIndex _ => s.processNodeInvalidateAck nodeFds pageIndex

def step (s : Sequencer Page) (c : SequencerCall Page) : Option (Sequencer Page) := some (s.call c)

/-- The request that arrives with a call. -/
def arrives (s : Sequencer Page) : SequencerCall Page → Option DeferredRequest
  | .request _ clientFd packet =>
    if s.totalManagedPages ≤ packet.pageIndex then none
    else some ⟨packet.senderNodeId, packet.type, clientFd, packet.pageIndex⟩
  | .invalidateAck _ _ _ => none

omit [Zero Page] in
/-- A request that has somebody to wait for: `execute_gpd_transaction` leaves it active. -/
def MustWait (s : Sequencer Page) (req : DeferredRequest) : Prop :=
  let entry := s.directory.entry req.pageIndex
  match req.type with
  | .requestPageWrite => ∃ i < 64, (entry.invalidateMask req.nodeId).getLsbD i ∧ i ≠ req.nodeId
  | .requestPageRead => entry.ownerNodeId ≠ 0 ∧ entry.ownerNodeId ≠ req.nodeId
  | _ => True

omit [Zero Page] in
/-- The next acknowledgement for the page is the last of its transaction. -/
def Completes (s : Sequencer Page) (pageIndex : Nat) : Prop :=
  pageIndex < s.totalManagedPages ∧ (s.table pageIndex).transactionActive = true ∧
    (s.table pageIndex).expectedAcks = 1

instance (s : Sequencer Page) (pageIndex : Nat) : Decidable (s.Completes pageIndex) :=
  inferInstanceAs (Decidable (_ ∧ _ ∧ _))

end Sequencer

/-! ### What a transaction does -/

namespace Sequencer

/-- The nodes that a transaction waits for, in the order in which it asks them. -/
def waitsFor (s : Sequencer Page) (p node : Nat) : MsgType → List Nat
  | .requestPageWrite =>
    let invalidateMask := ((gpdTransitionToModified s.directory p node).map Prod.snd).getD 0
    (List.range 64).filter fun i => invalidateMask.getLsbD i && i != node
  | .requestPageRead =>
    let oldOwner := ((gpdTransitionToShared s.directory p node).map Prod.snd).getD 0
    if oldOwner ≠ 0 ∧ oldOwner ≠ node then [oldOwner] else []
  | _ => []

theorem waitsFor_read_length (s : Sequencer Page) (p node : Nat)
    (some : s.waitsFor p node .requestPageRead ≠ []) :
    (s.waitsFor p node .requestPageRead).length = 1 := by
  unfold waitsFor at some ⊢
  dsimp only at some ⊢
  split
  · rfl
  next alone => exact absurd (if_neg alone) some

/-- The directory after the transition of a transaction. -/
def directoryAfter (s : Sequencer Page) (p node : Nat) : MsgType → Directory
  | .requestPageWrite =>
    ((gpdTransitionToModified s.directory p node).map Prod.fst).getD s.directory
  | .requestPageRead => ((gpdTransitionToShared s.directory p node).map Prod.fst).getD s.directory
  | _ => s.directory

/-- The record of its page that a transaction leaves. -/
def recordAfter (s : Sequencer Page) (p node : Nat) (type : MsgType) : PageSequencer :=
  let seq := s.table p
  match type with
  | .requestPageWrite =>
    if s.waitsFor p node .requestPageWrite = [] then ⟨false, 0, 0, seq.queue⟩
    else ⟨true, node, (s.waitsFor p node .requestPageWrite).length, seq.queue⟩
  | .requestPageRead =>
    if s.waitsFor p node .requestPageRead = [] then ⟨false, 0, seq.expectedAcks, seq.queue⟩
    else ⟨true, node, 1, seq.queue⟩
  | _ => ⟨true, node, seq.expectedAcks, seq.queue⟩

/-- The record that an acknowledgement leaves of its page, before a deferred request starts. -/
def recordCounted (s : Sequencer Page) (p : Nat) : PageSequencer :=
  let seq := s.table p
  if s.Completes p then ⟨false, 0, 0, seq.queue⟩
  else if p < s.totalManagedPages ∧ seq.transactionActive = true ∧ seq.expectedAcks ≠ 0 then
    { seq with expectedAcks := seq.expectedAcks - 1 }
  else seq

theorem completes_iff (s : Sequencer Page) (p : Nat) : s.Completes p ↔ ¬ s.totalManagedPages ≤ p ∧
    ¬ ((s.table p).transactionActive = false ∨ (s.table p).expectedAcks = 0) ∧
      (s.table p).expectedAcks - 1 = 0 := by
  unfold Completes
  rw [not_or, Bool.not_eq_false, Nat.not_le]
  constructor
  · rintro ⟨inside, active, one⟩
    exact ⟨inside, ⟨active, by omega⟩, by omega⟩
  · rintro ⟨inside, ⟨active, some⟩, last⟩
    exact ⟨inside, active, by omega⟩

variable [Zero Page]

/-- The packets that a transaction sends. -/
def sentBy (s : Sequencer Page) (nodeFds : Nat → Int) (p node : Nat) (type : MsgType)
    (clientFd : Int) : List (Effect Page) :=
  let waits := s.waitsFor p node type
  match type with
  | .requestPageWrite =>
    if waits = [] then [.send clientFd ⟨.sendPage, p, 0, 0⟩]
    else (waits.filter fun i => nodeFds i != -1).map fun i =>
      .send (nodeFds i) ⟨.invalidate, p, 0, 0⟩
  | .requestPageRead =>
    if waits = [] then [.send clientFd ⟨.sendPage, p, 0, 0⟩]
    else waits.map fun i => .send (nodeFds i) ⟨.invalidate, p, node, 0⟩
  | _ => []

/-- All that a transaction does. -/
theorem execute_eq (s : Sequencer Page) (nodeFds : Nat → Int) (p node : Nat) (type : MsgType)
    (clientFd : Int) :
    s.executeGpdTransaction nodeFds p node type clientFd =
      { totalManagedPages := s.totalManagedPages
        table := Function.update s.table p (s.recordAfter p node type)
        directory := s.directoryAfter p node type
        started := Function.update s.started p (some (node, type))
        effects := s.effects ++ s.sentBy nodeFds p node type clientFd } := by
  unfold executeGpdTransaction recordAfter directoryAfter sentBy
  cases type with
  | requestPageWrite =>
    simp only [executeWrite, grantAtOnce, setSeq, sendPacketToNode, Function.update_self,
      Function.update_idem]
    split
    next some =>
      have waits : s.waitsFor p node .requestPageWrite ≠ [] := List.ne_nil_of_length_pos some
      rw [if_neg waits, if_neg waits]
      rfl
    next alone =>
      have none : s.waitsFor p node .requestPageWrite = [] :=
        List.length_eq_zero_iff.mp (Nat.eq_zero_of_not_pos alone)
      rw [if_pos none, if_pos none, ← List.length_eq_zero_iff.mpr none]
      rfl
  | requestPageRead =>
    simp only [executeRead, grantAtOnce, setSeq, sendPacketToNode, Function.update_self,
      Function.update_idem, waitsFor]
    split <;> simp
  | _ => simp [setSeq]

/-- The grant that an acknowledgement sends. -/
def grantCounted (s : Sequencer Page) (nodeFds : Nat → Int) (p : Nat) : List (Effect Page) :=
  let fd := nodeFds (s.table p).activeNode
  if s.Completes p ∧ fd ≠ -1 then [.send fd ⟨.sendPage, p, 0, 0⟩] else []

/-- All that an acknowledgement does before a deferred request starts. -/
theorem count_eq (s : Sequencer Page) (nodeFds : Nat → Int) (p : Nat) :
    s.countInvalidateAck nodeFds p =
      ({ s with
          table := Function.update s.table p (s.recordCounted p)
          effects := s.effects ++ s.grantCounted nodeFds p },
        decide (s.Completes p)) := by
  have complete := completes_iff s p
  unfold countInvalidateAck recordCounted grantCounted
  dsimp only
  by_cases outside : s.totalManagedPages ≤ p
  · have idle : ¬ s.Completes p := by simp [complete, outside]
    simp [outside, idle, Nat.not_lt.mpr outside]
  · by_cases ignored : (s.table p).transactionActive = false ∨ (s.table p).expectedAcks = 0
    · have idle : ¬ s.Completes p := by simp [complete, ignored]
      have uncounted : ¬ ((s.table p).transactionActive = true ∧ (s.table p).expectedAcks ≠ 0) := by
        rintro ⟨active, some⟩
        rcases ignored with free | none
        · simp [free] at active
        · exact some none
      simp only [outside, ignored, idle, uncounted, and_false, if_true, if_false,
        Function.update_eq_self, false_and, List.append_nil, decide_false]
    · obtain ⟨active, some⟩ := not_or.mp ignored
      by_cases last : (s.table p).expectedAcks - 1 = 0
      · have done : s.Completes p := complete.mpr ⟨outside, ignored, last⟩
        by_cases connected : nodeFds (s.table p).activeNode ≠ -1
        · simp [outside, ignored, last, done, connected, setSeq, sendPacketToNode]
        · simp [outside, ignored, last, done, connected, setSeq]
      · have more : ¬ s.Completes p := by simp [complete, last]
        rw [Bool.not_eq_false] at active
        simp [outside, last, more, active, some, Nat.not_le.mp outside, setSeq]

end Sequencer

/-! ### What a transaction leaves -/

section Table

variable [Zero Page] (s : Sequencer Page) (nodeFds : Nat → Int)

omit [Zero Page] in
theorem transition_pages (d : Directory) (p node : Nat) :
    (((gpdTransitionToModified d p node).map Prod.fst).getD d).numPages = d.numPages ∧
      (((gpdTransitionToShared d p node).map Prod.fst).getD d).numPages = d.numPages := by
  unfold gpdTransitionToModified gpdTransitionToShared
  split
  · exact ⟨rfl, rfl⟩
  · exact ⟨rfl, rfl⟩

/-- A transaction writes the record of its page, except for the deferred requests, and one
entry of the directory. -/
theorem execute_table (p node : Nat) (type : MsgType) (fd : Int) :
    let after := s.executeGpdTransaction nodeFds p node type fd
    (∃ active activeNode acks,
      after.table = Function.update s.table p ⟨active, activeNode, acks, (s.table p).queue⟩) ∧
    after.totalManagedPages = s.totalManagedPages ∧
    after.directory.numPages = s.directory.numPages := by
  obtain ⟨modified, shared⟩ := transition_pages s.directory p node
  dsimp only
  rw [Sequencer.execute_eq]
  refine ⟨?_, rfl, ?_⟩
  · unfold Sequencer.recordAfter
    split
    · split <;> exact ⟨_, _, _, rfl⟩
    · split <;> exact ⟨_, _, _, rfl⟩
    · exact ⟨_, _, _, rfl⟩
  · unfold Sequencer.directoryAfter
    split
    · exact modified
    · exact shared
    · rfl

theorem execute_started (p node : Nat) (type : MsgType) (fd : Int) :
    (s.executeGpdTransaction nodeFds p node type fd).started =
      Function.update s.started p (some (node, type)) := by
  rw [Sequencer.execute_eq]

/-- A transaction stays active exactly when it has somebody to wait for. -/
theorem execute_active (req : DeferredRequest) (inRange : req.pageIndex < s.directory.numPages) :
    ((s.executeGpdTransaction nodeFds req.pageIndex req.nodeId req.type req.clientFd).table
      req.pageIndex).transactionActive = true ↔ s.MustWait req := by
  obtain ⟨node, type, fd, p⟩ := req
  have inside : ¬ s.directory.numPages ≤ p := Nat.not_le.mpr inRange
  rw [Sequencer.execute_eq]
  simp only [Function.update_self, Sequencer.recordAfter, Sequencer.MustWait]
  cases type with
  | requestPageWrite =>
    simp only [Sequencer.waitsFor, gpdTransitionToModified, inside, if_false, Option.map_some,
      Option.getD_some]
    split
    next alone =>
      refine iff_of_false Bool.false_ne_true ?_
      rintro ⟨i, bound, listed, other⟩
      exact List.filter_eq_nil_iff.mp alone i (List.mem_range.mpr bound) (by simp [listed, other])
    -- somebody is in the list of targets
    next waits =>
      obtain ⟨i, target⟩ := List.exists_mem_of_ne_nil _ waits
      simp only [List.mem_filter, List.mem_range, Bool.and_eq_true, bne_iff_ne] at target
      exact iff_of_true rfl ⟨i, target⟩
  | requestPageRead =>
    simp only [Sequencer.waitsFor, gpdTransitionToShared, inside, if_false, Option.map_some,
      Option.getD_some]
    by_cases waits : (s.directory.entry p).ownerNodeId ≠ 0 ∧ (s.directory.entry p).ownerNodeId ≠ node
    · simp [waits]
    · rw [if_neg waits, if_pos rfl]
      exact iff_of_false Bool.false_ne_true waits
  | _ => simp

end Table

/-! ### What a call does -/

namespace Sequencer

/-- The request that a call starts: the one that it brings to a free page, or the first of those
that are deferred for the page it frees. -/
def nextRequest (s : Sequencer Page) : SequencerCall Page → Option DeferredRequest
  | .request _ clientFd packet =>
    if packet.pageIndex < s.totalManagedPages ∧
        (s.table packet.pageIndex).transactionActive = false then
      some ⟨packet.senderNodeId, packet.type, clientFd, packet.pageIndex⟩
    else none
  | .invalidateAck _ pageIndex _ =>
    if s.Completes pageIndex then (s.table pageIndex).queue.head? else none

variable [Zero Page]

/-- The page is free, its transaction granted, and these requests stay deferred. -/
def freed (s : Sequencer Page) (nodeFds : Nat → Int) (p : Nat) (rest : List DeferredRequest) :
    Sequencer Page :=
  { s with
    table := Function.update s.table p ⟨false, 0, 0, rest⟩
    effects := s.effects ++ s.grantCounted nodeFds p }

/-- Everything that a call can do, with the request that it starts. -/
inductive Outcome (s : Sequencer Page) :
    SequencerCall Page → Option DeferredRequest → Sequencer Page → Prop
  | outside {nodeFds clientFd packet} (outside : s.totalManagedPages ≤ packet.pageIndex) :
    s.Outcome (.request nodeFds clientFd packet) none s
  | deferred {nodeFds clientFd packet} (inside : packet.pageIndex < s.totalManagedPages)
    (active : (s.table packet.pageIndex).transactionActive = true) :
    s.Outcome (.request nodeFds clientFd packet) none (s.setSeq packet.pageIndex
      { s.table packet.pageIndex with
        queue := (s.table packet.pageIndex).queue ++
          [⟨packet.senderNodeId, packet.type, clientFd, packet.pageIndex⟩] })
  | direct {nodeFds clientFd packet} (inside : packet.pageIndex < s.totalManagedPages)
    (free : (s.table packet.pageIndex).transactionActive = false) :
    s.Outcome (.request nodeFds clientFd packet)
      (some ⟨packet.senderNodeId, packet.type, clientFd, packet.pageIndex⟩)
      (s.executeGpdTransaction nodeFds packet.pageIndex packet.senderNodeId packet.type clientFd)
  -- outside of the region, on a free page, or when none is expected
  | dropped {nodeFds p node} (unawaited : ¬ (p < s.totalManagedPages ∧
      (s.table p).transactionActive = true ∧ (s.table p).expectedAcks ≠ 0)) :
    s.Outcome (.invalidateAck nodeFds p node) none s
  | counted {nodeFds p node} (inside : p < s.totalManagedPages)
    (active : (s.table p).transactionActive = true) (more : 1 < (s.table p).expectedAcks) :
    s.Outcome (.invalidateAck nodeFds p node) none
      (s.setSeq p { s.table p with expectedAcks := (s.table p).expectedAcks - 1 })
  | drained {nodeFds p node} (done : s.Completes p) (none_waits : (s.table p).queue = []) :
    s.Outcome (.invalidateAck nodeFds p node) none (s.freed nodeFds p [])
  | resumed {nodeFds p node first rest} (done : s.Completes p)
    (waits : (s.table p).queue = first :: rest) :
    s.Outcome (.invalidateAck nodeFds p node) (some first)
      ((s.freed nodeFds p rest).executeGpdTransaction nodeFds first.pageIndex first.nodeId
        first.type first.clientFd)

theorem call_outcome (s : Sequencer Page) (c : SequencerCall Page) :
    s.Outcome c (s.nextRequest c) (s.call c) := by
  cases c with
  | request nodeFds clientFd packet =>
    simp only [nextRequest, call, processNodeRequest]
    by_cases outside : s.totalManagedPages ≤ packet.pageIndex
    · simp only [outside, Nat.not_lt.mpr outside, false_and, if_true, if_false]
      exact .outside outside
    · have inside := Nat.not_le.mp outside
      cases busy : (s.table packet.pageIndex).transactionActive with
      | true =>
        simp only [outside, Bool.true_eq_false, and_false, if_true, if_false]
        rw [← busy]
        exact .deferred inside busy
      | false =>
        simp only [outside, inside, and_self, Bool.false_eq_true, if_true, if_false]
        exact .direct inside busy
  | invalidateAck nodeFds p node =>
    simp only [nextRequest, call, processNodeInvalidateAck, count_eq, decide_eq_true_eq]
    by_cases done : s.Completes p
    · simp only [done, if_true, startDeferred, recordCounted, Function.update_self]
      cases waiting : (s.table p).queue with
      | nil =>
        simp only [List.head?_nil]
        exact .drained done waiting
      | cons first rest =>
        simp only [List.head?_cons, setSeq, Function.update_idem]
        exact .resumed done waiting
    · simp only [done, if_false, recordCounted, grantCounted, false_and, List.append_nil]
      by_cases awaited : p < s.totalManagedPages ∧ (s.table p).transactionActive = true ∧
          (s.table p).expectedAcks ≠ 0
      · rw [if_pos awaited]
        obtain ⟨inside, active, some⟩ := awaited
        have last : (s.table p).expectedAcks ≠ 1 := fun one => done ⟨inside, active, one⟩
        exact .counted inside active (by omega)
      · simp only [awaited, if_false, Function.update_eq_self]
        exact .dropped awaited

end Sequencer

/-! ### Deferred requests -/

/-- The requests that are deferred for a page have a property. -/
def Sequencer.Defers (s : Sequencer Page) (property : Nat → DeferredRequest → Prop) : Prop :=
  ∀ p, ∀ req ∈ (s.table p).queue, property p req

theorem init_defers (totalPages : Nat) (directory : Directory)
    (property : Nat → DeferredRequest → Prop) :
    (coordinatorSequencerOver totalPages directory : Sequencer Page).Defers property :=
  fun _ _ found => absurd found List.not_mem_nil

theorem recordAfter_queue (s : Sequencer Page) (p node : Nat) (type : MsgType) :
    (s.recordAfter p node type).queue = (s.table p).queue := by
  unfold Sequencer.recordAfter
  dsimp only
  repeat' split
  all_goals rfl

theorem defers_update {s t : Sequencer Page} {property : Nat → DeferredRequest → Prop}
    (defers : s.Defers property) {p : Nat} {seq : PageSequencer}
    (table : t.table = Function.update s.table p seq)
    (kept : ∀ req ∈ seq.queue, property p req) : t.Defers property := by
  unfold Sequencer.Defers
  rw [table, Function.forall_update_iff s.table fun p seq => ∀ req ∈ seq.queue, property p req]
  exact ⟨kept, fun q _ => defers q⟩

section Defers

variable [Zero Page] {s : Sequencer Page}

theorem defers_execute {property : Nat → DeferredRequest → Prop} (defers : s.Defers property)
    (nodeFds : Nat → Int) (p node : Nat) (type : MsgType) (clientFd : Int) :
    (s.executeGpdTransaction nodeFds p node type clientFd).Defers property := by
  rw [Sequencer.execute_eq]
  refine defers_update defers rfl ?_
  rw [recordAfter_queue]
  exact defers p

/-- Deferred requests keep a property that those which arrive have. -/
theorem defers_call {property : Nat → DeferredRequest → Prop} (defers : s.Defers property)
    {c : SequencerCall Page} (arrival : ∀ req ∈ s.arrives c, property req.pageIndex req) :
    (s.call c).Defers property := by
  have outcome := s.call_outcome c
  generalize s.nextRequest c = next, s.call c = t at outcome
  cases outcome with
  | outside | dropped => exact defers
  | @deferred nodeFds clientFd packet inside =>
    have arrived := arrival ⟨packet.senderNodeId, packet.type, clientFd, packet.pageIndex⟩
      (if_neg (Nat.not_le.mpr inside))
    refine defers_update defers rfl fun req member => ?_
    rcases List.mem_append.mp member with old | new
    · exact defers _ req old
    · cases List.mem_singleton.mp new
      exact arrived
  | direct => exact defers_execute defers _ _ _ _ _
  | @counted _ p => exact defers_update defers rfl (defers p)
  | drained => exact defers_update defers rfl fun req member => absurd member List.not_mem_nil
  | @resumed _ p _ first rest _ waits =>
    refine defers_execute (defers_update defers rfl fun req member => ?_) _ _ _ _ _
    exact defers p req (by rw [waits]; exact List.mem_cons_of_mem _ member)

/-- Every request is deferred for its own page. -/
theorem defersOwn_call (own : s.Defers fun p req => req.pageIndex = p) (c : SequencerCall Page) :
    (s.call c).Defers fun p req => req.pageIndex = p :=
  defers_call own fun _ _ => rfl

end Defers

end TeleportVM
