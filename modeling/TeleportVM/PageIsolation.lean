import TeleportVM.EngineStall
import TeleportVM.Frame

/-!
The network engine keeps pages apart: what it does for a page depends on nothing that the node
holds about another one. With the frame of each handler this makes the state of a page, after a
whole sequence of events, independent of the events for other pages, as long as the engine does not
fault on one of them.
-/
namespace TeleportVM

variable {Page : Type}

/-- A table with its entry for page `p` alone. -/
def only {α : Type} (p : Nat) (absent : α) (table : Nat → α) : Nat → α :=
  fun q => if q = p then table q else absent

@[simp] theorem only_self {α : Type} (p : Nat) (absent : α) (table : Nat → α) :
    only p absent table p = table p := if_pos rfl

theorem only_update {α : Type} (p : Nat) (absent x : α) (table : Nat → α) :
    only p absent (Function.update table p x) = Function.update (only p absent table) p x := by
  funext q
  by_cases own : q = p
  · simp [only, own]
  · simp [only, own]

theorem only_congr {α : Type} {p : Nat} {absent : α} {table table' : Nat → α}
    (same : table' p = table p) : only p absent table' = only p absent table := by
  funext q
  by_cases own : q = p
  · simp [only, own, same]
  · simp [only, own]

namespace Node

variable [Zero Page]

/-- The node with what it holds about page `p` alone. -/
def alone (p : Nat) (n : Node Page) : Node Page :=
  { n with
    -- what stands for the other pages is arbitrary: nothing reads it
    pageTable := only p .empty n.pageTable
    mapping := only p .unmapped n.mapping
    directory := ⟨n.directory.numPages, only p ⟨.invalid, 0, 0⟩ n.directory.entry⟩
    gpdPendingReqs := only p ⟨0, .other 0, -1, 0, 0⟩ n.gpdPendingReqs
    evictionRing := only p ⟨0, 0, 0⟩ n.evictionRing
    sharedReqQueue := []
    uffdMessages := []
    clockHand := 0 }

/-! ### Operations on the page -/

variable (n : Node Page) (p : Nat)

@[simp] theorem alone_localNodeId : (n.alone p).localNodeId = n.localNodeId := rfl
@[simp] theorem alone_coordinatorFd : (n.alone p).coordinatorFd = n.coordinatorFd := rfl
@[simp] theorem alone_nodeFds : (n.alone p).nodeFds = n.nodeFds := rfl
@[simp] theorem alone_numPages : (n.alone p).numPages = n.numPages := rfl
@[simp] theorem alone_pageTable : (n.alone p).pageTable p = n.pageTable p := only_self _ _ _
@[simp] theorem alone_mapping : (n.alone p).mapping p = n.mapping p := only_self _ _ _
@[simp] theorem alone_slot : (n.alone p).gpdPendingReqs p = n.gpdPendingReqs p := only_self _ _ _
@[simp] theorem alone_owner :
    gpdGetOwner (n.alone p).directory p = gpdGetOwner n.directory p := by
  simp [gpdGetOwner, alone]

@[simp] theorem alone_sendAllNonblocking (fd : Int) (packet : DsmPacket Page) :
    (n.alone p).sendAllNonblocking fd packet = (n.sendAllNonblocking fd packet).alone p := rfl

@[simp] theorem alone_sendInvalidations (idx : Nat) (targets : List Nat) :
    (n.alone p).sendInvalidations idx targets = (n.sendInvalidations idx targets).alone p := rfl

@[simp] theorem alone_connectedIn (mask : BitVec 64) :
    (n.alone p).connectedIn mask = n.connectedIn mask := rfl

@[simp] theorem alone_registerSender (fd : Int) (node : Nat) :
    (n.alone p).registerSender fd node = (n.registerSender fd node).alone p := rfl

@[simp] theorem alone_setStatus (st : PageStatus) :
    (n.alone p).setStatus p st = (n.setStatus p st).alone p := by
  simp [alone, setStatus, only_update]

@[simp] theorem alone_setMapping (m : Mapping Page) :
    (n.alone p).setMapping p m = (n.setMapping p m).alone p := by
  simp [alone, setMapping, only_update]

@[simp] theorem alone_setPending (slot : CoordPending Page) :
    (n.alone p).setPending p slot = (n.setPending p slot).alone p := by
  simp [alone, setPending, only_update]

@[simp] theorem alone_dsmMarkAccessed :
    (n.alone p).dsmMarkAccessed p = (n.dsmMarkAccessed p).alone p := by
  unfold dsmMarkAccessed
  rw [alone_numPages]
  split <;> simp [alone, only_update]

@[simp] theorem alone_invalidateLocalPageCopy :
    (n.alone p).invalidateLocalPageCopy p = (n.invalidateLocalPageCopy p).alone p := by
  unfold invalidateLocalPageCopy
  rw [alone_numPages]
  split <;> simp [alone, only_update]

@[simp] theorem alone_writeprotectLocalPageCopy :
    (n.alone p).writeprotectLocalPageCopy p = (n.writeprotectLocalPageCopy p).alone p := by
  unfold writeprotectLocalPageCopy
  rw [alone_numPages, alone_pageTable]
  split
  · simp [alone]
  · split <;> simp [alone, only_update]

@[simp] theorem alone_installPage (page : Page) :
    (n.alone p).installPage p page = (n.installPage p page).alone p := by
  unfold installPage
  rw [← alone_dsmMarkAccessed]
  simp [alone, only_update]

@[simp] theorem alone_liftWriteProtection :
    (n.alone p).liftWriteProtection p = (n.liftWriteProtection p).alone p := by
  simp [alone, liftWriteProtection, only_update]

@[simp] theorem alone_transitionToShared (r : Nat) : (n.alone p).transitionToShared p r =
    ((n.transitionToShared p r).1.alone p, (n.transitionToShared p r).2) := by
  unfold transitionToShared gpdTransitionToShared
  have pages : (n.alone p).directory.numPages = n.directory.numPages := rfl
  rw [pages]
  split <;> simp [alone, Directory.setEntry, only_update]

@[simp] theorem alone_transitionToModified (w : Nat) : (n.alone p).transitionToModified p w =
    ((n.transitionToModified p w).1.alone p, (n.transitionToModified p w).2) := by
  unfold transitionToModified gpdTransitionToModified
  have pages : (n.alone p).directory.numPages = n.directory.numPages := rfl
  rw [pages]
  split <;> simp [alone, Directory.setEntry, only_update]

/-! ### Handlers of the page -/

theorem alone_completePending (packet : DsmPacket Page) :
    (n.alone packet.pageIndex).completePending packet =
      (n.completePending packet).alone packet.pageIndex := by
  unfold completePending
  simp only [alone_slot, alone_localNodeId]
  split <;> simp

theorem alone_ownDroppingLocal (w : Nat) : (n.alone p).ownDroppingLocal p w =
    ((n.ownDroppingLocal p w).1.alone p, (n.ownDroppingLocal p w).2) := by
  unfold ownDroppingLocal
  simp only [alone_transitionToModified, alone_localNodeId]
  split <;> simp

theorem alone_replyToPendingWrite (packet : DsmPacket Page) :
    (n.alone packet.pageIndex).replyToPendingWrite packet =
      (n.replyToPendingWrite packet).alone packet.pageIndex := by
  unfold replyToPendingWrite
  simp only [alone_slot, alone_ownDroppingLocal, alone_connectedIn]
  split
  · simp
  · exact alone_completePending _ packet

theorem alone_acceptPage (packet : DsmPacket Page) :
    (n.alone packet.pageIndex).acceptPage packet =
      (n.acceptPage packet).alone packet.pageIndex := by
  unfold acceptPage
  simp only [alone_pageTable]
  split <;> simp

theorem alone_handleSendPage (packet : DsmPacket Page) :
    (n.alone packet.pageIndex).handleSendPage packet =
      (n.handleSendPage packet).alone packet.pageIndex := by
  unfold handleSendPage
  simp only [alone_numPages, alone_coordinatorFd, alone_slot, alone_transitionToShared]
  split
  · split
    · split
      · exact alone_replyToPendingWrite n packet
      · exact alone_completePending _ packet
    · exact alone_acceptPage n packet
  · rfl

theorem alone_handleInvalidate (fd : Int) (packet : DsmPacket Page) :
    (n.alone packet.pageIndex).handleInvalidate fd packet =
      (n.handleInvalidate fd packet).alone packet.pageIndex := by
  unfold handleInvalidate
  simp only [alone_numPages, alone_coordinatorFd, alone_setMapping, alone_setStatus,
    alone_localNodeId]
  split
  · split <;> rfl
  · rfl

theorem alone_grantDeferred : (n.alone p).grantDeferred p = (n.grantDeferred p).alone p := by
  unfold grantDeferred
  simp only [alone_slot, alone_localNodeId, alone_pageTable]
  split
  · split <;> simp
  · simp

theorem alone_handleInvalidateAck (packet : DsmPacket Page) :
    (n.alone packet.pageIndex).handleInvalidateAck packet =
      (n.handleInvalidateAck packet).alone packet.pageIndex := by
  unfold handleInvalidateAck
  simp only [alone_numPages, alone_slot, alone_setPending]
  split
  · split
    · split
      · exact alone_grantDeferred _ _
      · rfl
    · rfl
  · rfl

theorem alone_upgradeLocalCopy :
    (n.alone p).upgradeLocalCopy p = (n.upgradeLocalCopy p).alone p := by
  unfold upgradeLocalCopy
  simp only [alone_localNodeId, alone_transitionToModified, alone_connectedIn]
  split <;> simp

theorem alone_fetchFromOwner (r : Nat) (type : MsgType) (fd : Int) (o : Nat) :
    (n.alone p).fetchFromOwner p r type fd o = (n.fetchFromOwner p r type fd o).alone p := by
  simp [fetchFromOwner]

theorem alone_zeroFillLocal (isWrite : Bool) :
    (n.alone p).zeroFillLocal p isWrite = (n.zeroFillLocal p isWrite).alone p := by
  unfold zeroFillLocal
  split <;> simp

theorem alone_serveQueuedRequest (req : PageRequest) :
    (n.alone req.pageIndex).serveQueuedRequest req =
      (n.serveQueuedRequest req).alone req.pageIndex := by
  unfold serveQueuedRequest
  simp only [alone_coordinatorFd, alone_pageTable, alone_owner, alone_nodeFds, alone_localNodeId]
  split
  · rfl
  · split
    · split
      · exact alone_upgradeLocalCopy n _
      · rfl
    · split
      · exact alone_fetchFromOwner n _ _ _ _ _
      · exact alone_zeroFillLocal n _ _

theorem alone_deferOrSend (fd : Int) (r : Nat) (mask : BitVec 64) (response : DsmPacket Page) :
    (n.alone response.pageIndex).deferOrSend fd r mask response =
      (n.deferOrSend fd r mask response).alone response.pageIndex := by
  unfold deferOrSend
  simp only [alone_connectedIn, alone_setPending, alone_sendInvalidations]
  split <;> rfl

theorem alone_serveWriteFromCopy (fd : Int) (r : Nat) (page : Page) :
    (n.alone p).serveWriteFromCopy fd p r page = (n.serveWriteFromCopy fd p r page).alone p := by
  unfold serveWriteFromCopy
  simp only [alone_transitionToModified, alone_invalidateLocalPageCopy, alone_localNodeId]
  exact alone_deferOrSend _ fd r _ ⟨.sendPage, p, n.localNodeId, page⟩

theorem alone_serveReadFromCopy (fd : Int) (r : Nat) (page : Page) :
    (n.alone p).serveReadFromCopy fd p r page = (n.serveReadFromCopy fd p r page).alone p := by
  unfold serveReadFromCopy
  simp only [alone_transitionToShared, alone_localNodeId, alone_writeprotectLocalPageCopy]
  split <;> rfl

theorem alone_serveZeroPage (fd : Int) (r : Nat) (isWrite : Bool) :
    (n.alone p).serveZeroPage fd p r isWrite = (n.serveZeroPage fd p r isWrite).alone p := by
  unfold serveZeroPage
  simp only [alone_ownDroppingLocal, alone_transitionToShared, alone_localNodeId]
  split
  · exact alone_deferOrSend _ fd r _ ⟨.sendPage, p, n.localNodeId, 0⟩
  · rfl

theorem alone_handlePageRequest (fd : Int) (packet : DsmPacket Page) :
    (n.alone packet.pageIndex).handlePageRequest fd packet =
      (n.handlePageRequest fd packet).map (Node.alone packet.pageIndex) := by
  unfold handlePageRequest
  simp only [alone_numPages, alone_registerSender, alone_pageTable, alone_mapping, alone_owner,
    alone_nodeFds]
  split
  · split
    · cases (Mapping.contents _) with
      | none => rfl
      | some page =>
        dsimp only
        split
        · rw [Option.map_some, alone_serveWriteFromCopy]
        · rw [Option.map_some, alone_serveReadFromCopy]
    · split
      · rw [Option.map_some, alone_fetchFromOwner]
      · rw [Option.map_some, alone_serveZeroPage]
  · rfl

theorem alone_dispatchPacket (fd : Int) (packet : DsmPacket Page) :
    (n.alone packet.pageIndex).dispatchPacket fd packet =
      (n.dispatchPacket fd packet).map (Node.alone packet.pageIndex) := by
  unfold dispatchPacket
  cases packet.type with
  | nodeJoin => rfl
  | sendPage => exact congrArg some (alone_handleSendPage n packet)
  | invalidate => exact congrArg some (alone_handleInvalidate n fd packet)
  | invalidateAck => exact congrArg some (alone_handleInvalidateAck n packet)
  | requestPageRead | requestPageWrite => exact alone_handlePageRequest n fd packet
  | other => rfl

end Node

/-! ### Events of the network engine -/

/-- What the engine takes up next: a request that it pops from its queue, a packet that has come in,
or the end of a connection. -/
inductive EngineEvent (Page : Type) where
  | queued (req : PageRequest)
  | receive (clientFd : Int) (packet : DsmPacket Page)
  | closed (clientFd : Int)

/-- The page that an event is about. A join and the end of a connection are about none. -/
def EngineEvent.pageIndex : EngineEvent Page → Option Nat
  | .queued req => some req.pageIndex
  | .receive _ packet => if packet.type = .nodeJoin then none else some packet.pageIndex
  | .closed _ => none

/-- What a node holds about one page. -/
structure PageRecord (Page : Type) where
  entry : GpdEntry
  status : PageStatus
  mapping : Mapping Page
  slot : CoordPending Page
  accessBit : Nat

namespace Node

def pageRecord (n : Node Page) (p : Nat) : PageRecord Page where
  entry := n.directory.entry p
  status := n.pageTable p
  mapping := n.mapping p
  slot := n.gpdPendingReqs p
  accessBit := (n.evictionRing p).accessBit

/-- The event as far as it registers a sender. -/
def registers (n : Node Page) : EngineEvent Page → Node Page
  | .receive clientFd packet =>
    if packet.type.isPageRequest = true ∧ packet.pageIndex < n.numPages then
      n.registerSender clientFd packet.senderNodeId
    else n
  | _ => n

/-- The engine's thread takes its turn: the calls it makes are those of this turn. -/
def resumed (n : Node Page) : Node Page := { n with effects := [] }

variable [Zero Page]

def take (n : Node Page) : EngineEvent Page → Option (Node Page)
  | .queued req => some (n.serveQueuedRequest req)
  | .receive clientFd packet => n.dispatchPacket clientFd packet
  | .closed clientFd => some (n.closeConnection clientFd)

/-- `none` where the engine's own thread faults. -/
def handle (n : Node Page) (event : EngineEvent Page) : Option (Node Page) := n.resumed.take event

/-- To take up the event is to copy a page that is not there. -/
def FaultsOn (n : Node Page) : EngineEvent Page → Prop
  | .receive _ packet => n.CopiesAbsent packet
  | .queued _ | .closed _ => False

instance decidableFaultsOn (n : Node Page) : ∀ event, Decidable (n.FaultsOn event)
  | .receive _ packet => inferInstanceAs (Decidable (n.CopiesAbsent packet))
  | .queued _ | .closed _ => inferInstanceAs (Decidable False)

/-- The event, if it is for page `q` or for no page; of another one the registration alone. -/
def handleFor (q : Nat) (n : Node Page) (event : EngineEvent Page) : Option (Node Page) :=
  match event.pageIndex with
  | some p => if p = q then n.handle event else some (n.resumed.registers event)
  | none => n.handle event

/-- Events one after the other. An event on which the engine faults registers its sender, and it is
the last one that the engine takes up. -/
def handleAllWith (handler : Node Page → EngineEvent Page → Option (Node Page)) :
    Node Page → List (EngineEvent Page) → Node Page
  | n, [] => n
  | n, event :: events =>
    match handler n event with
    | some n' => handleAllWith handler n' events
    | none => n.resumed.registers event

def handleAll (n : Node Page) (events : List (EngineEvent Page)) : Node Page :=
  n.handleAllWith handle events

def handleAllFor (q : Nat) (n : Node Page) (events : List (EngineEvent Page)) : Node Page :=
  n.handleAllWith (handleFor q) events

/-- The event is handled. If it is for a page, the engine sends packets about that page only and
leaves what it holds about the other ones as it was. -/
def KeepsToPage (n : Node Page) (event : EngineEvent Page) : Prop :=
  ∃ n', n.handle event = some n' ∧ ∀ p, event.pageIndex = some p →
    (∀ fd packet, .send fd packet ∈ n'.effects → packet.pageIndex = p) ∧
      ∀ q ≠ p, n'.pageRecord q = n.pageRecord q

/-! ### One event -/

variable {n n' : Node Page} {event : EngineEvent Page} {p q : Nat}

/-- An event for a page registers its sender, and is otherwise about that page alone. -/
theorem take_elsewhere (taken : n.take event = some n') (here : event.pageIndex = some p) :
    n'.elsewhere p = (n.registers event).elsewhere p := by
  cases event with
  | queued req =>
    cases taken
    cases here
    exact elsewhere_serveQueuedRequest n req
  | closed => cases here
  | receive clientFd packet =>
    simp only [EngineEvent.pageIndex] at here
    split at here
    · cases here
    next joins =>
      cases here
      -- only a page request registers its sender
      cases kind : packet.type with
      | nodeJoin => exact absurd kind joins
      | sendPage =>
        simp only [take, dispatchPacket, registers, kind, Option.some.injEq] at taken ⊢
        cases taken
        exact elsewhere_handleSendPage n packet
      | invalidate =>
        simp only [take, dispatchPacket, registers, kind, Option.some.injEq] at taken ⊢
        cases taken
        exact elsewhere_handleInvalidate n clientFd packet
      | invalidateAck =>
        simp only [take, dispatchPacket, registers, kind, Option.some.injEq] at taken ⊢
        cases taken
        exact elsewhere_handleInvalidateAck n packet
      | other =>
        simp only [take, dispatchPacket, registers, kind, Option.some.injEq] at taken ⊢
        cases taken
        rfl
      | requestPageRead | requestPageWrite =>
        simp only [take, dispatchPacket, registers, kind] at taken ⊢
        rw [elsewhere_handlePageRequest n clientFd packet taken]
        by_cases inside : packet.pageIndex < n.numPages <;> simp [inside, MsgType.isPageRequest]

omit [Zero Page] in
theorem pageRecord_of_elsewhere (other : q ≠ p) (same : n'.elsewhere p = n.elsewhere p) :
    n'.pageRecord q = n.pageRecord q := by
  simp only [elsewhere, NodeElsewhere.mk.injEq] at same
  obtain ⟨-, -, -, -, entry, slot, status, mapping, tracker, -⟩ := same
  simp only [pageRecord, eq_of_except other entry, eq_of_except other slot,
    eq_of_except other status, eq_of_except other mapping, eq_of_except other tracker]

omit [Zero Page] in
theorem pageRecord_registers (n : Node Page) (event : EngineEvent Page) (q : Nat) :
    (n.registers event).pageRecord q = n.pageRecord q := by
  unfold registers
  split
  · split <;> rfl
  · rfl

/-- An event depends on its own page alone. -/
theorem alone_take (here : ∀ p, event.pageIndex = some p → p = q) :
    (n.alone q).take event = (n.take event).map (alone q) := by
  cases event with
  | queued req =>
    cases here _ rfl
    exact congrArg some (alone_serveQueuedRequest n req)
  | closed => rfl
  | receive clientFd packet =>
    by_cases joins : packet.type = .nodeJoin
    · simp only [take, dispatchPacket, joins]
      rfl
    · cases here packet.pageIndex (if_neg joins)
      exact alone_dispatchPacket n clientFd packet

theorem alone_of_elsewhere (other : q ≠ p) (same : n'.elsewhere p = n.elsewhere p) :
    n'.resumed.alone q = n.resumed.alone q := by
  simp only [elsewhere, NodeElsewhere.mk.injEq] at same
  obtain ⟨id, role, fds, pages, entry, slot, status, mapping, tracker, -⟩ := same
  have numPages : n'.directory.numPages = n.directory.numPages := pages
  simp only [alone, resumed, id, role, fds, numPages, only_congr (eq_of_except other entry),
    only_congr (eq_of_except other slot), only_congr (eq_of_except other status),
    only_congr (eq_of_except other mapping), only_congr (eq_of_except other tracker)]

omit [Zero Page] in
theorem resumed_registers (n : Node Page) (event : EngineEvent Page) :
    (n.resumed.registers event).resumed = n.resumed.registers event := by
  unfold registers
  split
  · split <;> rfl
  · rfl

theorem alone_registers (n : Node Page) (event : EngineEvent Page) :
    (n.alone q).registers event = (n.registers event).alone q := by
  cases event with
  | receive clientFd packet =>
    simp only [registers, alone_numPages, alone_registerSender]
    exact (apply_ite (alone q) _ _ _).symm
  | queued | closed => rfl

/-- The calls of an event for a page are all about that page. -/
theorem effects_of_handle (handled : n.handle event = some n') (here : event.pageIndex = some p) :
    ∀ effect ∈ n'.effects, effect.pageIndex = p := by
  have same := congrArg NodeElsewhere.effects (take_elsewhere handled here)
  have none : (n.resumed.registers event).effects = [] :=
    congrArg Node.effects (resumed_registers n event).symm
  simp only [elsewhere, none, List.filter_nil, List.filter_eq_nil_iff] at same
  intro effect member
  simpa using same effect member

/-- An event for a page leaves the state of the others as it was. -/
theorem pageRecord_of_handle (handled : n.handle event = some n') (here : event.pageIndex = some p)
    (other : q ≠ p) : n'.pageRecord q = n.pageRecord q := by
  rw [pageRecord_of_elsewhere other (take_elsewhere handled here), pageRecord_registers]
  rfl

/-! ### Sequences of events -/

theorem handleFor_simulates {m : Node Page} (same : n.resumed.alone q = m.resumed.alone q)
    (handled : n.handle event = some n') :
    ∃ m', m.handleFor q event = some m' ∧ n'.resumed.alone q = m'.resumed.alone q := by
  by_cases here : ∀ p, event.pageIndex = some p → p = q
  · -- the event is handled, and what it does depends on what is the same
    have both := alone_take (n := n.resumed) here
    have first : n.resumed.take event = some n' := handled
    rw [same, alone_take here, first, Option.map_some] at both
    obtain ⟨m', taken, after⟩ := Option.map_eq_some_iff.mp both
    refine ⟨m', ?_, (congrArg resumed after).symm⟩
    unfold handleFor
    split
    next p about => rw [if_pos (here p about)]; exact taken
    · exact taken
  · -- the event is for another page, and both nodes register its sender
    push Not at here
    obtain ⟨p, about, other⟩ := here
    refine ⟨m.resumed.registers event, ?_, ?_⟩
    · unfold handleFor
      rw [about]
      exact if_neg other
    · rw [alone_of_elsewhere other.symm (take_elsewhere handled about)]
      simp only [resumed_registers, ← alone_registers, same]

omit [Zero Page] in
theorem handleAllWith_of_foldlM {handler : Node Page → EngineEvent Page → Option (Node Page)}
    {events : List (EngineEvent Page)} (handled : events.foldlM handler n = some n') :
    n.handleAllWith handler events = n' := by
  induction events generalizing n with
  | nil => exact Option.some.inj handled
  | cons event events ih =>
    rw [List.foldlM_cons] at handled
    obtain ⟨next, first, rest⟩ := Option.bind_eq_some_iff.mp handled
    rw [handleAllWith, first]
    exact ih rest

theorem handleAllFor_simulates {events : List (EngineEvent Page)}
    (handled : events.foldlM handle n = some n') :
    (n.handleAll events).resumed.alone q = (n.handleAllFor q events).resumed.alone q := by
  have simulated : ∃ m', events.foldlM (handleFor q) n = some m' ∧
      n'.resumed.alone q = m'.resumed.alone q := by
    refine Runs.foldlM_simulates (fun n m : Node Page => n.resumed.alone q = m.resumed.alone q)
      ?_ rfl handled
    intro n m event n' same handled
    exact handleFor_simulates same handled
  obtain ⟨m', replayed, same⟩ := simulated
  rw [handleAll, handleAllFor, handleAllWith_of_foldlM handled, handleAllWith_of_foldlM replayed]
  exact same

theorem pageRecord_of_alone {m : Node Page} (same : n.resumed.alone q = m.resumed.alone q) :
    n.pageRecord q = m.pageRecord q ∧ n.nodeFds = m.nodeFds := by
  have record (n : Node Page) : n.pageRecord q = (n.resumed.alone q).pageRecord q := by
    simp [pageRecord, alone, resumed]
  have fds := congrArg Node.nodeFds same
  rw [record n, record m, same]
  exact ⟨rfl, fds⟩

/-! ### Where the engine faults -/

theorem handlePageRequest_eq_none (n : Node Page) (clientFd : Int) (packet : DsmPacket Page) :
    n.handlePageRequest clientFd packet = none ↔
      packet.pageIndex < n.numPages ∧ n.pageTable packet.pageIndex = .valid ∧
        (n.mapping packet.pageIndex).isMapped = false := by
  -- the registration of the sender touches neither the page table nor the mapping
  have status : (n.registerSender clientFd packet.senderNodeId).pageTable = n.pageTable := rfl
  have mapping : (n.registerSender clientFd packet.senderNodeId).mapping = n.mapping := rfl
  unfold handlePageRequest
  simp only [status, mapping]
  by_cases inside : packet.pageIndex < n.numPages
  · by_cases valid : n.pageTable packet.pageIndex = .valid
    · rw [← Mapping.isSome_contents, if_pos inside, if_pos valid]
      cases (n.mapping packet.pageIndex).contents with
      | none => simp [inside, valid]
      | some page => simp only [← apply_ite some]; simp
    · rw [if_pos inside, if_neg valid]
      simp only [← apply_ite some]
      simp [valid]
  · simp [inside]

theorem handle_eq_none (n : Node Page) (event : EngineEvent Page) :
    n.handle event = none ↔ n.FaultsOn event := by
  cases event with
  | queued req => exact iff_of_false (fun stopped => by cases stopped) id
  | closed clientFd => exact iff_of_false (fun stopped => by cases stopped) id
  | receive clientFd packet =>
    -- only a page request makes the engine read a page
    simp only [handle, take, dispatchPacket, FaultsOn, CopiesAbsent]
    cases packet.type <;> simp [MsgType.isPageRequest, handlePageRequest_eq_none] <;> rfl

theorem keepsToPage_iff (n : Node Page) (event : EngineEvent Page) :
    n.KeepsToPage event ↔ ¬ n.FaultsOn event := by
  rw [← handle_eq_none]
  constructor
  · rintro ⟨n', handled, -⟩ stopped
    cases handled.symm.trans stopped
  · intro goesOn
    obtain ⟨n', handled⟩ := Option.ne_none_iff_exists'.mp goesOn
    refine ⟨n', handled, fun p here => ⟨fun fd packet sent => ?_, fun q other => ?_⟩⟩
    · exact effects_of_handle handled here _ sent
    · exact pageRecord_of_handle handled here other

end Node

/-- Each event for a page is handled, with packets about that page only, and leaves what the node
holds about every other page as it was, and after the whole sequence a page is as the events for it
and the registrations of the senders of the others make it, exactly if no event of the sequence is a
request for a page that the page table calls `PAGE_VALID` and that is not mapped. -/
theorem pages_isolated_iff [Zero Page] (n : Node Page) (events : List (EngineEvent Page)) :
    (Runs.AtEvery Node.handle Node.KeepsToPage n events ∧
      ∀ q, (n.handleAllFor q events).pageRecord q = (n.handleAll events).pageRecord q ∧
        (n.handleAllFor q events).nodeFds = (n.handleAll events).nodeFds) ↔
    Runs.AtEvery Node.handle (fun n event => ¬ n.FaultsOn event) n events := by
  rw [Runs.atEvery_congr Node.keepsToPage_iff]
  refine and_iff_left_of_imp fun every q => ?_
  have enabled (n : Node Page) (event : EngineEvent Page) (goesOn : ¬ n.FaultsOn event) :
      ∃ n', n.handle event = some n' :=
    Option.ne_none_iff_exists'.mp fun stopped => goesOn ((n.handle_eq_none event).mp stopped)
  obtain ⟨n', handled⟩ := every.executes enabled
  have same := Node.handleAllFor_simulates (q := q) handled
  obtain ⟨record, fds⟩ := Node.pageRecord_of_alone same
  exact ⟨record.symm, fds.symm⟩

/-- Nodes 2 and 3 share page 0, node 3 and the coordinator ask for page 1, and node 3 leaves. -/
def twoPages : List (EngineEvent PageBytes) :=
  [.receive 12 ⟨.requestPageRead, 0, 2, 0⟩, .receive 13 ⟨.requestPageWrite, 1, 3, 0⟩,
    .receive 13 ⟨.requestPageRead, 0, 3, 0⟩, .queued ⟨1, true⟩, .closed 13]

theorem pages_isolated_two : Runs.AtEvery Node.handle Node.KeepsToPage (.boot 1 (-1) 4) twoPages ∧
    ((Node.boot 1 (-1) 4).handleAllFor 0 twoPages).pageRecord 0 =
      ((Node.boot 1 (-1) 4).handleAll twoPages).pageRecord 0 := by
  obtain ⟨every, same⟩ := (pages_isolated_iff (.boot 1 (-1) 4) twoPages).mpr (by decide +kernel)
  exact ⟨every, (same 0).1⟩

/-- Worker 2 has evicted page 0, which stays `PAGE_VALID`, and then reads page 1. -/
def evictThenRead : List (NodeEvent PageBytes) :=
  fetchThenEvict ++ [.load 1, .fault, .drain, .receive 7 ⟨.sendPage, 1, 1, 0⟩]

/-- The coordinator asks for page 0 and then takes page 1 away. -/
def askThenInvalidate : List (EngineEvent PageBytes) :=
  [.receive 7 ⟨.requestPageRead, 0, 1, 0⟩, .receive 7 ⟨.invalidate, 1, 1, 0⟩]

theorem fault_keeps_other_page : ¬ ∀ t : NodeThreads PageBytes,
    Runs.Run NodeThreads.step (fun _ _ => True) (.start 2 7 4) t → ∀ events q,
      (t.node.handleAllFor q events).pageRecord q = (t.node.handleAll events).pageRecord q := by
  intro claim
  obtain ⟨t, run, kept, taken⟩ := Runs.exists_run NodeThreads.step (fun _ _ => True)
    (.start 2 7 4) evictThenRead
    (fun t => (t.node.handleAll askThenInvalidate).pageTable 1 = .valid ∧
      (t.node.handleAllFor 1 askThenInvalidate).pageTable 1 = .empty) (by decide +kernel)
  have same : (t.node.handleAllFor 1 askThenInvalidate).pageTable 1 =
      (t.node.handleAll askThenInvalidate).pageTable 1 :=
    congrArg PageRecord.status (claim t run askThenInvalidate 1)
  rw [kept, taken] at same
  cases same

end TeleportVM
