import TeleportVM.Projection

/-!
Pages do not interfere: an operation on one page changes nothing that a node holds about
another one. `Node.about` collects what a node holds about a page.
-/
namespace TeleportVM

variable {Page : Type}

/-- What a node holds about one page, and the descriptors it knows. -/
structure NodePage (Page : Type) where
  entry : GpdEntry
  slot : CoordPending Page
  status : PageStatus
  mapping : Mapping Page
  queued : List Bool
  nodeFds : Nat → Int
  sends : List (Int × DsmPacket Page)

/-- The sends of a list of effects that are about page `p`. -/
def sendsAbout (p : Nat) (effects : List (Effect Page)) : List (Int × DsmPacket Page) :=
  effects.filterMap fun
    | .send fd packet => if packet.pageIndex = p then some (fd, packet) else none
    | _ => none

def Node.about (p : Nat) (n : Node Page) : NodePage Page where
  entry := n.directory.entry p
  slot := n.gpdPendingReqs p
  status := n.pageTable p
  mapping := n.mapping p
  queued := queuedFor p n.sharedReqQueue
  nodeFds := n.nodeFds
  sends := sendsAbout p n.effects

@[simp] theorem sendsAbout_copy (p q : Nat) (page : Page) :
    sendsAbout p [.uffdioCopy q page] = [] := rfl

/-! ### The view of a page depends on nothing else -/

theorem filterMap_sentOn (p : Nat) (fd : Int) (effects : List (Effect Page))
    (decode : DsmPacket Page → Option (Msg Page))
    (foreign : ∀ packet, packet.pageIndex ≠ p → decode packet = none) :
    (sentOn fd effects).filterMap decode =
      (sendsAbout p effects).filterMap fun sent =>
        if sent.1 = fd then decode sent.2 else none := by
  simp only [sentOn, sendsAbout, List.filterMap_filterMap]
  congr 1
  funext effect
  cases effect with
  | send f packet =>
    by_cases same : f = fd <;> by_cases own : packet.pageIndex = p <;>
      simp [same, own, foreign packet]
  | uffdioCopy => rfl
  | uffdioUnprotect => rfl

theorem upMsg_foreign (p : Nat) (packet : DsmPacket Page) (apart : packet.pageIndex ≠ p) :
    upMsg p packet = none := by simp [upMsg, apart]

theorem downMsg_foreign (p : Nat) (packet : DsmPacket Page) (apart : packet.pageIndex ≠ p) :
    downMsg p packet = none := by simp [downMsg, apart]

theorem coordinatorView_congr (T : Topology) (p : Nat) (s : Cluster Page) {n m : Node Page}
    (same : n.about p = m.about p) : coordinatorView T p s n = coordinatorView T p s m := by
  simp only [Node.about, NodePage.mk.injEq] at same
  obtain ⟨entry, slot, status, mapping, queued, fds, sends⟩ := same
  simp only [coordinatorView_eq, filterMap_sentOn p _ _ _ (downMsg_foreign p), entry, slot, status,
    mapping, queued, fds, sends]

theorem workerView_congr (T : Topology) (p : Nat) (s : Cluster Page) {w : Nat}
    (worker : w ∈ T.workers) {n m : Node Page} (same : n.about p = m.about p) :
    workerView T p s w n = workerView T p s w m := by
  simp only [Node.about, NodePage.mk.injEq] at same
  obtain ⟨-, -, status, mapping, queued, -, sends⟩ := same
  simp only [workerView_eq T p s _ worker, filterMap_sentOn p _ _ _ (upMsg_foreign p), status,
    mapping, queued, sends]

/-! ### Everything but one page -/

/-- A table without its entry for page `p`. -/
def except {α : Type} (p : Nat) (table : Nat → α) : Nat → Option α :=
  Function.update (fun q => some (table q)) p none

@[simp] theorem except_update {α : Type} (p : Nat) (table : Nat → α) (x : α) :
    except p (Function.update table p x) = except p table := by
  funext q
  by_cases own : q = p
  · simp [except, own]
  · simp [except, own]

theorem eq_of_except {α : Type} {p q : Nat} (other : q ≠ p) {table table' : Nat → α}
    (same : except p table' = except p table) : table' q = table q := by
  simpa [except, other] using congrFun same q

/-- What a node holds about all pages but one, and what it holds about no page. -/
structure NodeElsewhere (Page : Type) where
  localNodeId : Nat
  coordinatorFd : Int
  nodeFds : Nat → Int
  numPages : Nat
  entry : Nat → Option GpdEntry
  slot : Nat → Option (CoordPending Page)
  status : Nat → Option PageStatus
  mapping : Nat → Option (Mapping Page)
  tracker : Nat → Option LocalPageTracker
  sharedReqQueue : List PageRequest
  uffdMessages : List PageRequest
  clockHand : Nat
  effects : List (Effect Page)

def Effect.pageIndex : Effect Page → Nat
  | .send _ packet => packet.pageIndex
  | .uffdioCopy pageIndex _ => pageIndex
  | .uffdioUnprotect pageIndex => pageIndex

def Node.elsewhere (p : Nat) (n : Node Page) : NodeElsewhere Page where
  localNodeId := n.localNodeId
  coordinatorFd := n.coordinatorFd
  nodeFds := n.nodeFds
  numPages := n.numPages
  entry := except p n.directory.entry
  slot := except p n.gpdPendingReqs
  status := except p n.pageTable
  mapping := except p n.mapping
  tracker := except p n.evictionRing
  sharedReqQueue := n.sharedReqQueue
  uffdMessages := n.uffdMessages
  clockHand := n.clockHand
  effects := n.effects.filter fun effect => effect.pageIndex ≠ p

theorem sendsAbout_filter {p q : Nat} (apart : q ≠ p) (effects : List (Effect Page)) :
    sendsAbout p (effects.filter fun effect => effect.pageIndex ≠ q) = sendsAbout p effects := by
  unfold sendsAbout
  rw [List.filterMap_filter]
  congr 1
  funext effect
  cases effect with
  | send fd packet =>
    by_cases own : packet.pageIndex = p
    · simp [Effect.pageIndex, own, apart.symm]
    · simp [own]
  | uffdioCopy | uffdioUnprotect => simp

/-- What leaves all pages but `q` alone leaves page `p` alone. -/
theorem about_of_elsewhere {p q : Nat} (apart : q ≠ p) {n n' : Node Page}
    (same : n'.elsewhere q = n.elsewhere q) : n'.about p = n.about p := by
  simp only [Node.elsewhere, NodeElsewhere.mk.injEq] at same
  obtain ⟨-, -, fds, -, entry, slot, status, mapping, -, queue, -, -, effects⟩ := same
  have sends := congrArg (sendsAbout p) effects
  rw [sendsAbout_filter apart, sendsAbout_filter apart] at sends
  simp only [Node.about, eq_of_except apart.symm entry, eq_of_except apart.symm slot,
    eq_of_except apart.symm status, eq_of_except apart.symm mapping, queue, fds, sends]

/-! ### Operations on the page -/

namespace Node

variable (n : Node Page) (p : Nat)

@[simp] theorem elsewhere_sendAllNonblocking (fd : Int) (packet : DsmPacket Page)
    (own : packet.pageIndex = p) :
    (n.sendAllNonblocking fd packet).elsewhere p = n.elsewhere p := by
  simp [elsewhere, sendAllNonblocking, numPages, Effect.pageIndex, own]

@[simp] theorem elsewhere_setStatus (st : PageStatus) :
    (n.setStatus p st).elsewhere p = n.elsewhere p := by
  simp [elsewhere, setStatus, numPages]

@[simp] theorem elsewhere_setMapping (m : Mapping Page) :
    (n.setMapping p m).elsewhere p = n.elsewhere p := by
  simp [elsewhere, setMapping, numPages]

@[simp] theorem elsewhere_setPending (slot : CoordPending Page) :
    (n.setPending p slot).elsewhere p = n.elsewhere p := by
  simp [elsewhere, setPending, numPages]

@[simp] theorem elsewhere_dsmMarkAccessed : (n.dsmMarkAccessed p).elsewhere p = n.elsewhere p := by
  unfold dsmMarkAccessed
  split <;> simp [elsewhere, numPages]

@[simp] theorem elsewhere_invalidateLocalPageCopy :
    (n.invalidateLocalPageCopy p).elsewhere p = n.elsewhere p := by
  unfold invalidateLocalPageCopy
  split <;> simp [elsewhere, numPages]

@[simp] theorem elsewhere_writeprotectLocalPageCopy :
    (n.writeprotectLocalPageCopy p).elsewhere p = n.elsewhere p := by
  unfold writeprotectLocalPageCopy
  split
  · rfl
  · split <;> simp [elsewhere, numPages]

@[simp] theorem elsewhere_installPage (page : Page) :
    (n.installPage p page).elsewhere p = n.elsewhere p := by
  unfold installPage
  rw [elsewhere_dsmMarkAccessed]
  simp [elsewhere, numPages, Effect.pageIndex]

@[simp] theorem elsewhere_liftWriteProtection :
    (n.liftWriteProtection p).elsewhere p = n.elsewhere p := by
  simp [elsewhere, liftWriteProtection, numPages, Effect.pageIndex]

@[simp] theorem elsewhere_transitionToShared (r : Nat) :
    (n.transitionToShared p r).1.elsewhere p = n.elsewhere p := by
  unfold transitionToShared gpdTransitionToShared
  split <;> simp [elsewhere, numPages, Directory.setEntry]

@[simp] theorem elsewhere_transitionToModified (w : Nat) :
    (n.transitionToModified p w).1.elsewhere p = n.elsewhere p := by
  unfold transitionToModified gpdTransitionToModified
  split <;> simp [elsewhere, numPages, Directory.setEntry]

@[simp] theorem elsewhere_sendInvalidations [Zero Page] (targets : List Nat) :
    (n.sendInvalidations p targets).elsewhere p = n.elsewhere p := by
  simp [elsewhere, sendInvalidations, numPages, Effect.pageIndex, invalidatePacket]

/-! ### Handlers of the page -/

@[simp] theorem elsewhere_completePending (packet : DsmPacket Page) (own : packet.pageIndex = p) :
    (n.completePending packet).elsewhere p = n.elsewhere p := by
  subst own
  unfold completePending
  rw [elsewhere_setPending]
  split <;> simp

@[simp] theorem elsewhere_ownDroppingLocal (w : Nat) :
    (n.ownDroppingLocal p w).1.elsewhere p = n.elsewhere p := by
  unfold ownDroppingLocal
  dsimp only
  split <;> simp

@[simp] theorem elsewhere_acceptPage (packet : DsmPacket Page) (own : packet.pageIndex = p) :
    (n.acceptPage packet).elsewhere p = n.elsewhere p := by
  subst own
  unfold acceptPage
  dsimp only
  split <;> simp

@[simp] theorem elsewhere_grantDeferred : (n.grantDeferred p).elsewhere p = n.elsewhere p := by
  unfold grantDeferred
  rw [elsewhere_setPending]
  split
  · split <;> simp
  · simp

theorem elsewhere_handleInvalidateAck (packet : DsmPacket Page) :
    (n.handleInvalidateAck packet).elsewhere packet.pageIndex = n.elsewhere packet.pageIndex := by
  unfold handleInvalidateAck
  dsimp only
  split
  · split
    · split <;> simp
    · rfl
  · rfl

theorem elsewhere_serveReadFromCopy [Zero Page] (fd : Int) (r : Nat) (page : Page) :
    (n.serveReadFromCopy fd p r page).elsewhere p = n.elsewhere p := by
  unfold serveReadFromCopy
  dsimp only
  split <;> simp

variable [Zero Page]

theorem elsewhere_upgradeLocalCopy : (n.upgradeLocalCopy p).elsewhere p = n.elsewhere p := by
  unfold upgradeLocalCopy
  dsimp only
  split <;> simp

theorem elsewhere_fetchFromOwner (r : Nat) (type : MsgType) (fd : Int) (o : Nat) :
    (n.fetchFromOwner p r type fd o).elsewhere p = n.elsewhere p := by
  simp [fetchFromOwner]

theorem elsewhere_zeroFillLocal (isWrite : Bool) :
    (n.zeroFillLocal p isWrite).elsewhere p = n.elsewhere p := by
  unfold zeroFillLocal
  split <;> simp

theorem elsewhere_serveQueuedRequest (req : PageRequest) :
    (n.serveQueuedRequest req).elsewhere req.pageIndex = n.elsewhere req.pageIndex := by
  unfold serveQueuedRequest
  dsimp only
  split
  · simp
  · split
    · split
      · exact elsewhere_upgradeLocalCopy n _
      · rfl
    · split
      · exact elsewhere_fetchFromOwner n _ _ _ _ _
      · exact elsewhere_zeroFillLocal n _ _

theorem elsewhere_replyToPendingWrite (packet : DsmPacket Page) :
    (n.replyToPendingWrite packet).elsewhere packet.pageIndex = n.elsewhere packet.pageIndex := by
  unfold replyToPendingWrite
  dsimp only
  split <;> simp

theorem elsewhere_handleSendPage (packet : DsmPacket Page) :
    (n.handleSendPage packet).elsewhere packet.pageIndex = n.elsewhere packet.pageIndex := by
  unfold handleSendPage
  dsimp only
  split
  · split
    · split
      · exact elsewhere_replyToPendingWrite n packet
      · simp
    · simp
  · rfl

theorem elsewhere_handleInvalidate (fd : Int) (packet : DsmPacket Page) :
    (n.handleInvalidate fd packet).elsewhere packet.pageIndex = n.elsewhere packet.pageIndex := by
  unfold handleInvalidate
  dsimp only
  split
  · split <;> simp
  · rfl

@[simp] theorem elsewhere_deferOrSend (fd : Int) (r : Nat) (mask : BitVec 64)
    (response : DsmPacket Page) (own : response.pageIndex = p) :
    (n.deferOrSend fd r mask response).elsewhere p = n.elsewhere p := by
  subst own
  unfold deferOrSend
  dsimp only
  split <;> simp

theorem elsewhere_serveWriteFromCopy (fd : Int) (r : Nat) (page : Page) :
    (n.serveWriteFromCopy fd p r page).elsewhere p = n.elsewhere p := by
  simp [serveWriteFromCopy]

theorem elsewhere_serveZeroPage (fd : Int) (r : Nat) (isWrite : Bool) :
    (n.serveZeroPage fd p r isWrite).elsewhere p = n.elsewhere p := by
  unfold serveZeroPage
  dsimp only
  split <;> simp

/-- A request for a page registers its sender, and is otherwise about that page alone. -/
theorem elsewhere_handlePageRequest (fd : Int) (packet : DsmPacket Page) {n' : Node Page}
    (handled : n.handlePageRequest fd packet = some n') :
    n'.elsewhere packet.pageIndex = if packet.pageIndex < n.numPages then
      (n.registerSender fd packet.senderNodeId).elsewhere packet.pageIndex
    else n.elsewhere packet.pageIndex := by
  unfold handlePageRequest at handled
  dsimp only at handled
  split at handled
  next inRange =>
    rw [if_pos inRange]
    split at handled
    · split at handled
      · cases handled
      · split at handled
        · cases handled; exact elsewhere_serveWriteFromCopy _ _ _ _ _
        · cases handled; exact elsewhere_serveReadFromCopy _ _ _ _ _
    · split at handled
      · cases handled; exact elsewhere_fetchFromOwner _ _ _ _ _ _
      · cases handled; exact elsewhere_serveZeroPage _ _ _ _ _
  next outside =>
    cases handled
    rw [if_neg outside]

end Node

/-! ### Handlers of another page -/

namespace Node

variable {p q : Nat} (apart : q ≠ p) (n : Node Page)
include apart

theorem about_setStatus (st : PageStatus) : (n.setStatus q st).about p = n.about p :=
  about_of_elsewhere apart (n.elsewhere_setStatus q st)

theorem about_setMapping (m : Mapping Page) : (n.setMapping q m).about p = n.about p :=
  about_of_elsewhere apart (n.elsewhere_setMapping q m)

theorem about_handleInvalidateAck (packet : DsmPacket Page) (other : packet.pageIndex = q) :
    (n.handleInvalidateAck packet).about p = n.about p :=
  about_of_elsewhere (other ▸ apart) (n.elsewhere_handleInvalidateAck packet)

variable [Zero Page]

theorem about_fetchFromOwner (r : Nat) (type : MsgType) (fd : Int) (o : Nat) :
    (n.fetchFromOwner q r type fd o).about p = n.about p :=
  about_of_elsewhere apart (n.elsewhere_fetchFromOwner q r type fd o)

theorem about_zeroFillLocal (isWrite : Bool) : (n.zeroFillLocal q isWrite).about p = n.about p :=
  about_of_elsewhere apart (n.elsewhere_zeroFillLocal q isWrite)

theorem about_serveReadFromCopy (fd : Int) (r : Nat) (page : Page) :
    (n.serveReadFromCopy fd q r page).about p = n.about p :=
  about_of_elsewhere apart (n.elsewhere_serveReadFromCopy q fd r page)

theorem about_serveWriteFromCopy (fd : Int) (r : Nat) (page : Page) :
    (n.serveWriteFromCopy fd q r page).about p = n.about p :=
  about_of_elsewhere apart (n.elsewhere_serveWriteFromCopy q fd r page)

theorem about_serveZeroPage (fd : Int) (r : Nat) (isWrite : Bool) :
    (n.serveZeroPage fd q r isWrite).about p = n.about p :=
  about_of_elsewhere apart (n.elsewhere_serveZeroPage q fd r isWrite)

theorem about_serveQueuedRequest (req : PageRequest) (other : req.pageIndex = q) :
    (n.serveQueuedRequest req).about p = n.about p :=
  about_of_elsewhere (other ▸ apart) (n.elsewhere_serveQueuedRequest req)

theorem about_handleSendPage (packet : DsmPacket Page) (other : packet.pageIndex = q) :
    (n.handleSendPage packet).about p = n.about p :=
  about_of_elsewhere (other ▸ apart) (n.elsewhere_handleSendPage packet)

theorem about_handleInvalidate (fd : Int) (packet : DsmPacket Page) (other : packet.pageIndex = q) :
    (n.handleInvalidate fd packet).about p = n.about p :=
  about_of_elsewhere (other ▸ apart) (n.elsewhere_handleInvalidate fd packet)

/-- A request for another page still registers its sender. -/
theorem about_handlePageRequest (fd : Int) (packet : DsmPacket Page) (other : packet.pageIndex = q)
    {n' : Node Page} (handled : n.handlePageRequest fd packet = some n') :
    n'.about p = if q < n.numPages then (n.registerSender fd packet.senderNodeId).about p
      else n.about p := by
  subst other
  have same := n.elsewhere_handlePageRequest fd packet handled
  split
  next inside =>
    rw [if_pos inside] at same
    exact about_of_elsewhere apart same
  next outside =>
    rw [if_neg outside] at same
    exact about_of_elsewhere apart same

omit [Zero Page] in
theorem about_handleFault (fault : PageRequest) (other : fault.pageIndex = q) :
    (n.handleFault fault).about p = n.about p := by
  subst other
  unfold Node.handleFault
  dsimp only
  split
  · rfl
  · simp only [Node.queuePush]
    split
    · simp only [Option.getD_none]
      rw [about_setStatus apart, about_setStatus apart]
    · simp [Node.about, Node.setStatus, queuedFor, apart, apart.symm]

end Node

end TeleportVM
