import TeleportVM.Threads

/-!
The payload kept in a page's slot while a transaction waits for acknowledgements: which
transaction stored it, and which one the last acknowledgement hands it to.
-/
namespace TeleportVM

variable {Page : Type}

namespace Node

/-! ### What a section does to a slot -/

/-- The calls of this turn include `MSG_INVALIDATE` for page `p`: a transaction on `p` starts to
wait for acknowledgements. -/
def invalidates (n : Node Page) (p : Nat) : Bool :=
  n.effects.any fun
    | .send _ packet => packet.type = .invalidate ∧ packet.pageIndex = p
    | _ => false

/-- No transaction on `p` starts to wait, and one that waits on may only lose its requester or
some of the expected acknowledgements. -/
structure Keeps (n n' : Node Page) (p : Nat) : Prop where
  quiet : n'.invalidates p = n.invalidates p
  payload : (n'.gpdPendingReqs p).deferredPayload = (n.gpdPendingReqs p).deferredPayload
  waiting : 0 < (n'.gpdPendingReqs p).expectedAcks →
    0 < (n.gpdPendingReqs p).expectedAcks ∧
      (n'.gpdPendingReqs p).clientFd = (n.gpdPendingReqs p).clientFd

/-- A transaction on `p` starts to wait and has not stored a payload. -/
structure Upgrades (n n' : Node Page) (p : Nat) : Prop where
  sent : n'.invalidates p = true
  payload : (n'.gpdPendingReqs p).deferredPayload = (n.gpdPendingReqs p).deferredPayload
  clientFd : (n'.gpdPendingReqs p).clientFd = -1

/-- A transaction on `p` starts to wait and has stored its payload. -/
structure Defers (n' : Node Page) (p : Nat) (page : Page) : Prop where
  sent : n'.invalidates p = true
  payload : (n'.gpdPendingReqs p).deferredPayload = page

variable {n n' n'' : Node Page} {p : Nat}

theorem Keeps.of_eq (quiet : n'.invalidates p = n.invalidates p)
    (slot : n'.gpdPendingReqs p = n.gpdPendingReqs p) : Keeps n n' p :=
  ⟨quiet, by rw [slot], fun waits => ⟨slot ▸ waits, by rw [slot]⟩⟩

theorem Keeps.trans (first : Keeps n n' p) (second : Keeps n' n'' p) : Keeps n n'' p where
  quiet := second.quiet.trans first.quiet
  payload := second.payload.trans first.payload
  waiting waits := by
    obtain ⟨before, fd⟩ := second.waiting waits
    obtain ⟨start, fd'⟩ := first.waiting before
    exact ⟨start, fd.trans fd'⟩

/-- The same, the later section first. -/
theorem Keeps.after (second : Keeps n' n'' p) (first : Keeps n n' p) : Keeps n n'' p :=
  first.trans second

theorem keeps_setPending (n : Node Page) {idx : Nat} {slot : CoordPending Page}
    (payload : slot.deferredPayload = (n.gpdPendingReqs idx).deferredPayload)
    (waiting : 0 < slot.expectedAcks → 0 < (n.gpdPendingReqs idx).expectedAcks ∧
      slot.clientFd = (n.gpdPendingReqs idx).clientFd) (p : Nat) : Keeps n (n.setPending idx slot) p := by
  by_cases own : p = idx
  · subst own
    refine ⟨rfl, ?_, ?_⟩
    · simpa [setPending] using payload
    · simpa [setPending] using waiting
  · refine .of_eq rfl ?_
    simp [setPending, own]

theorem keeps_sendAllNonblocking (n : Node Page) (fd : Int) {packet : DsmPacket Page}
    (kind : packet.type ≠ .invalidate) (p : Nat) : Keeps n (n.sendAllNonblocking fd packet) p := by
  refine .of_eq ?_ rfl
  simp [invalidates, sendAllNonblocking, kind]

theorem keeps_installPage (n : Node Page) (idx : Nat) (page : Page) (p : Nat) :
    Keeps n (n.installPage idx page) p := by
  refine .of_eq ?_ rfl
  simp [invalidates, installPage, dsmMarkAccessed]

theorem keeps_liftWriteProtection (n : Node Page) (idx p : Nat) :
    Keeps n (n.liftWriteProtection idx) p := by
  refine .of_eq ?_ rfl
  simp [invalidates, liftWriteProtection]

theorem invalidates_sendInvalidations [Zero Page] (n : Node Page) (idx : Nat) (targets : List Nat)
    (p : Nat) : (n.sendInvalidations idx targets).invalidates p =
      (n.invalidates p || (decide (0 < targets.length) && decide (idx = p))) := by
  simp only [invalidates, sendInvalidations, List.any_append]
  congr 1
  cases targets with
  | nil => rfl
  | cons m targets =>
    by_cases own : idx = p
    · simp [invalidatePacket, own]
    · simp [invalidatePacket, own]

theorem keeps_liftAccessed (n : Node Page) (idx p : Nat) :
    Keeps n ((n.liftWriteProtection idx).dsmMarkAccessed idx) p :=
  (keeps_liftWriteProtection n idx p).trans (.of_eq rfl rfl)

/-- The slot is filled in and the invalidations of page `idx` are sent. -/
theorem invalidating_other [Zero Page] (n : Node Page) {idx : Nat} (slot : CoordPending Page)
    (targets : List Nat) {p : Nat} (other : p ≠ idx) :
    Keeps n ((n.setPending idx slot).sendInvalidations idx targets) p := by
  apply Keeps.of_eq
  · rw [invalidates_sendInvalidations]
    simp [Ne.symm other, invalidates, setPending]
  · simp [sendInvalidations, setPending, other]

theorem invalidating_own [Zero Page] (n : Node Page) (idx : Nat) (slot : CoordPending Page)
    {targets : List Nat} (some : 0 < targets.length) :
    ((n.setPending idx slot).sendInvalidations idx targets).invalidates idx = true ∧
      ((n.setPending idx slot).sendInvalidations idx targets).gpdPendingReqs idx = slot := by
  constructor
  · rw [invalidates_sendInvalidations]
    simp [some]
  · simp [sendInvalidations, setPending]

/-! ### The handlers -/

theorem keeps_completePending (n : Node Page) {packet : DsmPacket Page}
    (kind : packet.type = .sendPage) (p : Nat) : Keeps n (n.completePending packet) p := by
  have close (m : Node Page) : Keeps m (m.setPending packet.pageIndex
      { m.gpdPendingReqs packet.pageIndex with requesterNodeId := 0 }) p := by
    refine keeps_setPending m ?_ ?_ p
    · rfl
    · exact fun waits => ⟨waits, rfl⟩
  unfold completePending
  dsimp only
  split
  · exact (keeps_installPage n _ _ p).trans (close _)
  · exact (keeps_sendAllNonblocking n _ (by rw [kind]; nofun) p).trans (close _)

theorem keeps_ownDroppingLocal (n : Node Page) (idx writer p : Nat) :
    Keeps n (n.ownDroppingLocal idx writer).1 p := by
  unfold ownDroppingLocal
  dsimp only
  split
  · exact .of_eq rfl rfl
  · exact .of_eq rfl rfl

theorem keeps_acceptPage (n : Node Page) (packet : DsmPacket Page) (p : Nat) :
    Keeps n (n.acceptPage packet) p := by
  unfold acceptPage
  dsimp only
  split
  · exact keeps_liftAccessed n _ p
  · exact keeps_installPage n _ _ p
  · exact keeps_installPage n _ _ p
  · exact .of_eq rfl rfl

theorem keeps_grantDeferred (n : Node Page) (idx p : Nat) : Keeps n (n.grantDeferred idx) p := by
  have close (m : Node Page) :
      Keeps m (m.setPending idx { m.gpdPendingReqs idx with requesterNodeId := 0 }) p := by
    refine keeps_setPending m ?_ ?_ p
    · rfl
    · exact fun waits => ⟨waits, rfl⟩
  unfold grantDeferred
  dsimp only
  split
  · split
    · exact (close _).after (keeps_liftAccessed n idx p)
    · exact (keeps_installPage n _ _ p).trans (close _)
  · exact (keeps_sendAllNonblocking n _ (by nofun) p).trans (close _)

theorem keeps_handleInvalidateAck (n : Node Page) (packet : DsmPacket Page) (p : Nat) :
    Keeps n (n.handleInvalidateAck packet) p := by
  unfold handleInvalidateAck
  dsimp only
  split
  · split
    next waits =>
      have counted : Keeps n (n.setPending packet.pageIndex
          { n.gpdPendingReqs packet.pageIndex with
            expectedAcks := (n.gpdPendingReqs packet.pageIndex).expectedAcks - 1 }) p := by
        refine keeps_setPending n ?_ ?_ p
        · rfl
        · exact fun _ => ⟨waits, rfl⟩
      split
      · exact counted.trans (keeps_grantDeferred _ _ p)
      · exact counted
    · exact .of_eq rfl rfl
  · exact .of_eq rfl rfl

/-- The call made with the last acknowledgement. -/
theorem lastAck_effects {n : Node Page} {packet : DsmPacket Page}
    (inRange : packet.pageIndex < n.numPages)
    (last : (n.gpdPendingReqs packet.pageIndex).expectedAcks = 1) :
    (n.handleInvalidateAck packet).effects = n.effects ++
      [if (n.gpdPendingReqs packet.pageIndex).requesterNodeId = n.localNodeId then
        if n.pageTable packet.pageIndex = .writePending then .uffdioUnprotect packet.pageIndex
        else .uffdioCopy packet.pageIndex (n.gpdPendingReqs packet.pageIndex).deferredPayload
      else .send (n.gpdPendingReqs packet.pageIndex).clientFd
        ⟨.sendPage, packet.pageIndex, n.localNodeId,
          (n.gpdPendingReqs packet.pageIndex).deferredPayload⟩] := by
  unfold handleInvalidateAck
  dsimp only
  rw [if_pos inRange, if_pos (by omega), if_pos (by omega)]
  unfold grantDeferred
  simp only [setPending, Function.update_self]
  split
  · split <;> rfl
  · rfl

theorem keeps_serveReadFromCopy (n : Node Page) (clientFd : Int) (idx requestingNode : Nat)
    (page : Page) (p : Nat) : Keeps n (n.serveReadFromCopy clientFd idx requestingNode page) p := by
  unfold serveReadFromCopy
  dsimp only
  split
  · exact Keeps.after (keeps_sendAllNonblocking _ _ (by simp) p) (.of_eq rfl rfl)
  · exact Keeps.after (keeps_sendAllNonblocking _ _ (by simp) p) (.of_eq rfl rfl)

theorem keeps_handleFault (n : Node Page) (fault : PageRequest) (p : Nat) :
    Keeps n (n.handleFault fault) p := by
  unfold handleFault queuePush
  dsimp only
  split
  · exact .of_eq rfl rfl
  · split
    · exact .of_eq rfl rfl
    · exact .of_eq rfl rfl

theorem keeps_evictionSweep {n : Node Page} {fd : Int} {iterations : Nat}
    {result : Node Page × Option Nat} (swept : n.evictionSweep fd iterations = some result) (p : Nat) :
    Keeps n result.1 p := by
  induction iterations generalizing n with
  | zero =>
    cases swept
    exact .of_eq rfl rfl
  | succ iterations ih =>
    simp only [evictionSweep] at swept
    split at swept
    · exact Keeps.after (ih swept) (.of_eq rfl rfl)
    · split at swept
      · exact Keeps.after (ih swept) (.of_eq rfl rfl)
      · obtain ⟨written, back, rfl⟩ := Option.map_eq_some_iff.mp swept
        have dropped : Keeps written (written.dropVictim n.clockHand) p := .of_eq rfl rfl
        refine Keeps.trans ?_ dropped
        unfold writeback at back
        split at back
        · obtain ⟨page, -, rfl⟩ := Option.map_eq_some_iff.mp back
          exact Keeps.after (keeps_sendAllNonblocking _ _ (by simp) p) (.of_eq rfl rfl)
        · cases back
          exact .of_eq rfl rfl

variable [Zero Page]

theorem slot_upgradeLocalCopy (n : Node Page) (idx p : Nat) :
    Keeps n (n.upgradeLocalCopy idx) p ∨ Upgrades n (n.upgradeLocalCopy idx) p := by
  unfold upgradeLocalCopy
  dsimp only
  split
  next some =>
    by_cases own : p = idx
    · subst own
      obtain ⟨sent, slot⟩ := invalidating_own (n.transitionToModified p n.localNodeId).1 p
        { (n.transitionToModified p n.localNodeId).1.gpdPendingReqs p with
          requesterNodeId := n.localNodeId
          type := .requestPageWrite
          clientFd := -1
          expectedAcks := ((n.transitionToModified p n.localNodeId).1.connectedIn
            (n.transitionToModified p n.localNodeId).2).length } some
      exact Or.inr ⟨sent, by rw [slot]; rfl, by rw [slot]⟩
    · exact Or.inl (Keeps.after (invalidating_other _ _ _ own) (.of_eq rfl rfl))
  · exact Or.inl (Keeps.after (keeps_liftWriteProtection _ idx p) (.of_eq rfl rfl))

theorem keeps_fetchFromOwner (n : Node Page) (idx requester : Nat) (type : MsgType) (clientFd : Int)
    (oldOwner p : Nat) : Keeps n (n.fetchFromOwner idx requester type clientFd oldOwner) p := by
  unfold fetchFromOwner
  refine (keeps_sendAllNonblocking _ _ (by nofun) p).after ?_
  refine keeps_setPending n ?_ ?_ p
  · rfl
  · exact fun waits => absurd waits (Nat.lt_irrefl 0)

theorem keeps_zeroFillLocal (n : Node Page) (idx : Nat) (isWrite : Bool) (p : Nat) :
    Keeps n (n.zeroFillLocal idx isWrite) p := by
  unfold zeroFillLocal
  dsimp only
  split
  · exact (keeps_installPage n idx 0 p).trans (.of_eq rfl rfl)
  · exact (keeps_installPage n idx 0 p).trans (.of_eq rfl rfl)

theorem slot_serveQueuedRequest (n : Node Page) (req : PageRequest) (p : Nat) :
    Keeps n (n.serveQueuedRequest req) p ∨ Upgrades n (n.serveQueuedRequest req) p := by
  unfold serveQueuedRequest
  dsimp only
  split
  · refine Or.inl (keeps_sendAllNonblocking n _ ?_ p)
    cases req.isWrite <;> nofun
  · split
    · split
      · -- the only wait that keeps the payload of the slot
        exact slot_upgradeLocalCopy n _ p
      · exact Or.inl (.of_eq rfl rfl)
    · split
      · exact Or.inl (keeps_fetchFromOwner n _ _ _ _ _ p)
      · exact Or.inl (keeps_zeroFillLocal n _ _ p)

/-- A handler that stores the payload it defers. -/
theorem slot_deferring (n : Node Page) (idx : Nat) (slot : CoordPending Page) {targets : List Nat}
    (some : 0 < targets.length) (p : Nat) :
    Keeps n ((n.setPending idx slot).sendInvalidations idx targets) p ∨
      Defers ((n.setPending idx slot).sendInvalidations idx targets) p slot.deferredPayload := by
  by_cases own : p = idx
  · subst own
    obtain ⟨sent, stored⟩ := invalidating_own n p slot some
    exact Or.inr ⟨sent, by rw [stored]⟩
  · exact Or.inl (invalidating_other n slot targets own)

theorem slot_replyToPendingWrite (n : Node Page) {packet : DsmPacket Page}
    (kind : packet.type = .sendPage) (p : Nat) :
    Keeps n (n.replyToPendingWrite packet) p ∨ Defers (n.replyToPendingWrite packet) p packet.payload := by
  have owned := keeps_ownDroppingLocal n packet.pageIndex
    (n.gpdPendingReqs packet.pageIndex).requesterNodeId p
  unfold replyToPendingWrite
  dsimp only
  split
  next some => exact (slot_deferring _ _ _ some p).imp_left owned.trans
  · exact Or.inl (owned.trans (keeps_completePending _ kind p))

theorem slot_handleSendPage (n : Node Page) {packet : DsmPacket Page}
    (kind : packet.type = .sendPage) (p : Nat) :
    Keeps n (n.handleSendPage packet) p ∨ Defers (n.handleSendPage packet) p packet.payload := by
  unfold handleSendPage
  dsimp only
  split
  · split
    · split
      · exact slot_replyToPendingWrite n kind p
      · exact Or.inl (Keeps.after (keeps_completePending _ kind p) (.of_eq rfl rfl))
    · exact Or.inl (keeps_acceptPage n packet p)
  · exact Or.inl (.of_eq rfl rfl)

theorem keeps_handleInvalidate (n : Node Page) (clientFd : Int) (packet : DsmPacket Page) (p : Nat) :
    Keeps n (n.handleInvalidate clientFd packet) p := by
  unfold handleInvalidate
  dsimp only
  split
  · split
    · exact Keeps.after (keeps_sendAllNonblocking _ _ (by simp) p) (.of_eq rfl rfl)
    · exact Keeps.after (keeps_sendAllNonblocking _ _ (by simp) p) (.of_eq rfl rfl)
  · exact .of_eq rfl rfl

theorem slot_deferOrSend (n : Node Page) (clientFd : Int) (requestingNode : Nat) (mask : BitVec 64)
    {response : DsmPacket Page} (kind : response.type = .sendPage) (p : Nat) :
    Keeps n (n.deferOrSend clientFd requestingNode mask response) p ∨
      Defers (n.deferOrSend clientFd requestingNode mask response) p response.payload := by
  unfold deferOrSend
  dsimp only
  split
  next some => exact slot_deferring n _ _ some p
  · exact Or.inl (keeps_sendAllNonblocking n _ (by rw [kind]; nofun) p)

end Node

variable [Zero Page]

/-- What the response of a task carries. -/
def EngineTask.response : EngineTask Page → Page
  | .answerFromCopy _ _ _ _ page => page
  | .answerWithZeros .. => 0
  | .zeroFill .. => 0

namespace Node

theorem slot_perform (n : Node Page) (task : EngineTask Page) (p : Nat) :
    Keeps n (n.perform task) p ∨ Defers (n.perform task) p task.response := by
  cases task with
  | zeroFill idx isWrite => exact Or.inl (keeps_zeroFillLocal n idx isWrite p)
  | answerFromCopy clientFd idx requestingNode isWrite page =>
    unfold perform
    dsimp only
    split
    · have dropped : Keeps n
          ((n.transitionToModified idx requestingNode).1.invalidateLocalPageCopy idx) p := .of_eq rfl rfl
      exact (slot_deferOrSend _ _ _ _ rfl p).imp_left dropped.trans
    · exact Or.inl (keeps_serveReadFromCopy n _ _ _ _ p)
  | answerWithZeros clientFd idx requestingNode isWrite =>
    unfold perform serveZeroPage
    dsimp only
    split
    · exact (slot_deferOrSend _ _ _ _ rfl p).imp_left (keeps_ownDroppingLocal n idx requestingNode p).trans
    · exact Or.inl (Keeps.after (keeps_sendAllNonblocking _ _ (by nofun) p) (.of_eq rfl rfl))

theorem slot_takesPacket {n : Node Page} {clientFd : Int} {packet : DsmPacket Page}
    {begun : Node Page × Option (EngineTask Page)} (takes : n.TakesPacket clientFd packet begun)
    (p : Nat) : Keeps n begun.1 p ∨ Defers begun.1 p packet.payload := by
  cases takes with
  | request begun _ takes =>
    left
    cases takes with
    | outside | fromCopy | withZeros => exact .of_eq rfl rfl
    | fetch => exact Keeps.after (keeps_fetchFromOwner _ _ _ _ _ _ p) (.of_eq rfl rfl)
  | page kind => exact slot_handleSendPage n kind p
  | invalidate => exact Or.inl (keeps_handleInvalidate n clientFd packet p)
  | ack => exact Or.inl (keeps_handleInvalidateAck n packet p)
  | join | other => exact Or.inl (.of_eq rfl rfl)

end Node

def NodeEvent.isDrain : NodeEvent Page → Bool
  | .drain => true
  | _ => false

namespace NodeThreads

variable {t t' : NodeThreads Page}

/-- The contents of the packet or of the response that the engine handles in this turn. -/
def response (t : NodeThreads Page) : NodeEvent Page → Page
  | .receive _ packet => packet.payload
  | .finish => t.task.elim 0 EngineTask.response
  | _ => 0

/-- A turn starts a wait for acknowledgements as an upgrade of a queued request, which stores
no payload, or with the payload it stores, or not at all. -/
theorem slot_step {e : NodeEvent Page} (next : t.step e = some t') (p : Nat) :
    t.resume.Keeps t'.node p ∨ (e.isDrain = true ∧ t.resume.Upgrades t'.node p) ∨
      (e.isDrain = false ∧ t'.node.Defers p (t.response e)) := by
  cases turn_of_step next with
  | load | loadFault | store | storeFault | closed => exact Or.inl (.of_eq rfl rfl)
  | fault => exact Or.inl (Node.Keeps.after (Node.keeps_handleFault _ _ p) (.of_eq rfl rfl))
  | drain req rest =>
    unfold Node.beginQueuedRequest
    split
    · exact Or.inl (.of_eq rfl rfl)
    · rcases Node.slot_serveQueuedRequest { t.resume with sharedReqQueue := rest } req p with
        keeps | upgrades
      · exact Or.inl (Node.Keeps.after keeps (.of_eq rfl rfl))
      · exact Or.inr (Or.inl ⟨rfl, upgrades.sent, upgrades.payload, upgrades.clientFd⟩)
  | receive _ _ _ _ takes =>
    exact (Node.slot_takesPacket takes p).imp_right fun defers => Or.inr ⟨rfl, defers⟩
  | finish task busy =>
    refine (Node.slot_perform t.resume task p).imp_right fun defers => Or.inr ⟨rfl, ?_⟩
    rw [response, busy]
    exact defers
  | evict _ _ swept => exact Or.inl (Node.keeps_evictionSweep swept p)

/-- The last acknowledgement that the transaction on page `p` waits for. -/
def LastAck (t : NodeThreads Page) (p : Nat) : NodeEvent Page → Prop
  | .receive _ packet => packet.type = .invalidateAck ∧ packet.pageIndex = p ∧
      p < t.node.numPages ∧ (t.node.gpdPendingReqs p).expectedAcks = 1
  | _ => False

/-- A payload was installed here or sent on a connection in the turn that led to `t`. -/
def HandsOut (t : NodeThreads Page) (p : Nat) : Prop :=
  (∃ page, Effect.uffdioCopy p page ∈ t.node.effects) ∨
    ∃ fd packet, Effect.send fd packet ∈ t.node.effects ∧ fd ≠ -1 ∧ packet.type = .sendPage

/-- What is handed out with the last acknowledgement is the deferred payload, unless it lifts
the write protection of a page that is present. -/
theorem handsOut_iff {e : NodeEvent Page} {p : Nat} (last : t.LastAck p e)
    (next : t.step e = some t') : t'.HandsOut p ↔
      if (t.node.gpdPendingReqs p).requesterNodeId = t.node.localNodeId then
        t.node.pageTable p ≠ .writePending
      else (t.node.gpdPendingReqs p).clientFd ≠ -1 := by
  cases e with
  | receive clientFd packet =>
    obtain ⟨kind, rfl, inRange, one⟩ := last
    obtain ⟨-, rfl⟩ := step_ack next kind
    have inside : packet.pageIndex < t.resume.numPages := inRange
    have single : (t.resume.gpdPendingReqs packet.pageIndex).expectedAcks = 1 := one
    have call := Node.lastAck_effects inside single
    rw [show t.resume.effects = [] from rfl, List.nil_append] at call
    rw [HandsOut, call]
    have slot : t.resume.gpdPendingReqs = t.node.gpdPendingReqs := rfl
    have status : t.resume.pageTable = t.node.pageTable := rfl
    have self : t.resume.localNodeId = t.node.localNodeId := rfl
    rw [slot, status, self]
    split
    · split
      next pending => simp [pending]
      next absent => simp [absent]
    · simp
  | load | store | fault | drain | finish | closed | evict => exact absurd last id

end NodeThreads

/-! ### Whose payload it is -/

/-- A node with what each of its slots has seen: how many transactions on the page had to wait
for acknowledgements, which of them stored the payload that is in the slot (none if it is the
one of the allocation), and whether the latest is the upgrade of a queued write request. -/
structure PayloadLedger (Page : Type) where
  threads : NodeThreads Page
  transaction : Nat → Nat
  storedBy : Nat → Option Nat
  upgrading : Nat → Bool

namespace PayloadLedger

def start (id : Nat) (coordinatorFd : Int) (numPages : Nat) : PayloadLedger Page :=
  ⟨.start id coordinatorFd numPages, fun _ => 0, fun _ => none, fun _ => false⟩

def step (l : PayloadLedger Page) (e : NodeEvent Page) : Option (PayloadLedger Page) :=
  (l.threads.step e).map fun t =>
    { threads := t
      transaction := fun p => if t.node.invalidates p then l.transaction p + 1 else l.transaction p
      -- the upgrade of a queued request leaves the payload of the slot as it is
      storedBy := fun p =>
        if t.node.invalidates p ∧ e.isDrain = false then some (l.transaction p + 1) else l.storedBy p
      upgrading := fun p => if t.node.invalidates p then e.isDrain else l.upgrading p }

/-- If the step handles the last acknowledgement of a transaction and hands out the deferred
payload, the same transaction stored it. -/
def OwnPayload (l : PayloadLedger Page) (e : NodeEvent Page) (l' : PayloadLedger Page) : Prop :=
  ∀ p, l.threads.LastAck p e → l'.threads.HandsOut p → l.storedBy p = some (l.transaction p)

/-- The last acknowledgement of an upgrade finds the page `PAGE_WRITE_PENDING`. -/
def StillPending (l : PayloadLedger Page) (e : NodeEvent Page) : Prop :=
  ∀ p, l.threads.LastAck p e → l.upgrading p = true →
    (l.threads.node.gpdPendingReqs p).requesterNodeId = l.threads.node.localNodeId →
    l.threads.node.pageTable p = .writePending

/-- While a transaction waits, the payload in the slot is its own unless it is an upgrade, and
then no connection is recorded for the answer. -/
structure Tracked (l : PayloadLedger Page) : Prop where
  past : ∀ p k, l.storedBy p = some k → k ≤ l.transaction p
  waiting : ∀ p, 0 < (l.threads.node.gpdPendingReqs p).expectedAcks →
    if l.upgrading p then
      l.storedBy p ≠ some (l.transaction p) ∧ (l.threads.node.gpdPendingReqs p).clientFd = -1
    else l.storedBy p = some (l.transaction p)

theorem start_tracked (id : Nat) (coordinatorFd : Int) (numPages : Nat) :
    (start id coordinatorFd numPages : PayloadLedger Page).Tracked where
  past _ _ stored := by cases stored
  waiting _ waits := absurd waits (Nat.lt_irrefl 0)

theorem Tracked.step {l l' : PayloadLedger Page} (tracked : l.Tracked) {e : NodeEvent Page}
    (next : l.step e = some l') : l'.Tracked := by
  obtain ⟨t, moved, rfl⟩ := Option.map_eq_some_iff.mp next
  constructor
  · intro p k stored
    have past := tracked.past p
    dsimp only at stored ⊢
    split at stored
    next fresh =>
      cases stored
      rw [if_pos fresh.1]
    · have old := past k stored
      split <;> omega
  · intro p waits
    dsimp only at waits ⊢
    rcases NodeThreads.slot_step moved p with keeps | ⟨drain, upgrades⟩ | ⟨other, defers⟩
    · -- the transaction that waits has been waiting before
      have quiet : t.node.invalidates p = false := keeps.quiet
      obtain ⟨before, fd⟩ := keeps.waiting waits
      have old := tracked.waiting p before
      simp only [quiet, Bool.false_eq_true, if_false, false_and] at old ⊢
      rw [fd]
      exact old
    · -- the new transaction has stored nothing: whatever is in the slot is older
      have past := tracked.past p
      simp only [upgrades.sent, drain, if_true, Bool.true_eq_false, and_false, if_false]
      refine ⟨fun stored => ?_, upgrades.clientFd⟩
      have := past _ stored
      omega
    · simp [defers.sent, other]

theorem ownPayload_iff {l l' : PayloadLedger Page} (tracked : l.Tracked) {e : NodeEvent Page}
    (next : l.step e = some l') : l.OwnPayload e l' ↔ l.StillPending e := by
  obtain ⟨t, moved, rfl⟩ := Option.map_eq_some_iff.mp next
  refine forall_congr' fun p => imp_congr_right fun last => ?_
  have waits : 0 < (l.threads.node.gpdPendingReqs p).expectedAcks := by
    cases e with
    | receive clientFd packet =>
      obtain ⟨-, -, -, one⟩ := last
      omega
    | load | store | fault | drain | finish | closed | evict => exact absurd last id
  have owner := tracked.waiting p waits
  rw [NodeThreads.handsOut_iff last moved]
  cases upgrade : l.upgrading p with
  | false =>
    rw [upgrade] at owner
    exact iff_of_true (fun _ => owner) nofun
  | true =>
    rw [upgrade] at owner
    -- the payload is not its own, so it must not get out: not by an install, and there is no
    -- connection to send it on
    obtain ⟨foreign, unconnected⟩ := owner
    by_cases own : (l.threads.node.gpdPendingReqs p).requesterNodeId = l.threads.node.localNodeId
    · rw [if_pos own]
      constructor
      · intro same _ _
        by_contra absent
        exact foreign (same absent)
      · intro pending absent
        exact absurd (pending rfl own) absent
    · rw [if_neg own]
      exact iff_of_true (fun connected => absurd unconnected connected) fun _ same => absurd same own

end PayloadLedger

/-- In a run of a node every deferred payload that is installed or sent with the last
acknowledgement of a transaction was stored by that transaction, exactly if the last
acknowledgement of every local write upgrade finds the page `PAGE_WRITE_PENDING`. -/
theorem deferred_payload_own_iff (id : Nat) (coordinatorFd : Int) (numPages : Nat)
    (events : List (NodeEvent Page)) :
    Runs.EveryStep PayloadLedger.step (fun l e l' => l.OwnPayload e l')
        (.start id coordinatorFd numPages) events ↔
      Runs.EveryStep PayloadLedger.step (fun l e _ => l.StillPending e)
        (.start id coordinatorFd numPages) events := by
  apply Runs.everyStep_iff PayloadLedger.Tracked
  · intro l e l' tracked next
    exact tracked.step next
  · intro l e l' tracked next
    exact PayloadLedger.ownPayload_iff tracked next
  · exact PayloadLedger.start_tracked id coordinatorFd numPages

/-- The coordinator owns page 0 and serves a read of it. Two of its threads fault on stores; the
second fault is handled while the upgrade for the first waits for node 2. -/
def secondFaultDuringUpgrade : List (NodeEvent PageBytes) :=
  [.store 0 (fun _ => 7), .fault, .drain, .finish, .store 0 (fun _ => 7),
    .receive 12 ⟨.requestPageRead, 0, 2, 0⟩, .finish, .store 0 (fun _ => 8), .store 0 (fun _ => 9),
    .fault, .drain, .fault]

theorem initial_payload_installed : ¬ ∀ events : List (NodeEvent PageBytes),
    Runs.EveryStep PayloadLedger.step (fun l e l' => l.OwnPayload e l') (.start 1 (-1) 4) events := by
  intro claim
  let ack : NodeEvent PageBytes := .receive 12 ⟨.invalidateAck, 0, 2, 0⟩
  obtain ⟨l, executed, one, inRange, own, absent, unstored, enabled⟩ := Runs.exists_exec
    PayloadLedger.step (fun _ _ => True) (.start 1 (-1) 4) secondFaultDuringUpgrade
    (fun l => (l.threads.node.gpdPendingReqs 0).expectedAcks = 1 ∧ 0 < l.threads.node.numPages ∧
      (l.threads.node.gpdPendingReqs 0).requesterNodeId = l.threads.node.localNodeId ∧
      l.threads.node.pageTable 0 ≠ .writePending ∧ l.storedBy 0 = none ∧
      (l.step ack).isSome = true) (by decide +kernel)
  obtain ⟨l', next⟩ := Option.isSome_iff_exists.mp enabled
  have last : l.threads.LastAck 0 ack := ⟨rfl, rfl, inRange, one⟩
  obtain ⟨t, moved, rfl⟩ := Option.map_eq_some_iff.mp next
  have handed : t.HandsOut 0 := by
    rw [NodeThreads.handsOut_iff last moved, if_pos own]
    exact absent
  have stored := (claim (secondFaultDuringUpgrade ++ [ack])).last executed next 0 last handed
  rw [unstored] at stored
  cases stored

end TeleportVM
