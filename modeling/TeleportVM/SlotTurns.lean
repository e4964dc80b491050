import TeleportVM.WriteGrant
import TeleportVM.PacketBounds

/-!
What one turn of a coordinator's threads does to the slot of a page: a transaction begins with a
fetch, waits for acknowledgements, counts one, or ends. What holds of the pending transactions in
a whole run is shown by these cases.
-/
namespace TeleportVM

variable {Page : Type}

/-- The descriptors on which packets of a kind about page `p` are sent by these calls. -/
def sentIn (kind : MsgType) (p : Nat) (effects : List (Effect Page)) : List Int :=
  effects.filterMap fun
    | .send fd packet => if packet.type = kind ∧ packet.pageIndex = p then some fd else none
    | _ => none

section SentIn

variable (kind : MsgType) (p : Nat)

@[simp] theorem sentIn_append (first second : List (Effect Page)) :
    sentIn kind p (first ++ second) = sentIn kind p first ++ sentIn kind p second :=
  List.filterMap_append

@[simp] theorem sentIn_nil : sentIn kind p ([] : List (Effect Page)) = [] := rfl

@[simp] theorem sentIn_copy (idx : Nat) (page : Page) : sentIn kind p [.uffdioCopy idx page] = [] := rfl

@[simp] theorem sentIn_unprotect (idx : Nat) :
    sentIn kind p ([.uffdioUnprotect idx] : List (Effect Page)) = [] := rfl

@[simp] theorem sentIn_send (fd : Int) (packet : DsmPacket Page) :
    sentIn kind p [.send fd packet] =
      if packet.type = kind ∧ packet.pageIndex = p then [fd] else [] := by
  simp only [sentIn, List.filterMap_cons, List.filterMap_nil]
  split <;> simp_all

theorem sentIn_sendsAbout (effects : List (Effect Page)) :
    sentIn kind p effects =
      (sendsAbout p effects).filterMap fun sent => if sent.2.type = kind then some sent.1 else none := by
  simp only [sentIn, sendsAbout, List.filterMap_filterMap]
  congr 1
  funext effect
  cases effect with
  | send fd packet =>
    by_cases own : packet.pageIndex = p <;> by_cases same : packet.type = kind <;> simp [own, same]
  | uffdioCopy => rfl
  | uffdioUnprotect => rfl

theorem sentIn_invalidations [Zero Page] (fds : Nat → Int) (targets : List Nat) :
    sentIn kind p (targets.map fun m => Effect.send (fds m) (Node.invalidatePacket p : DsmPacket Page)) =
      if kind = .invalidate then targets.map fds else [] := by
  induction targets with
  | nil => split <;> rfl
  | cons m rest ih =>
    rw [List.map_cons, ← List.singleton_append, sentIn_append, ih, sentIn_send]
    by_cases same : kind = .invalidate
    · simp [same, Node.invalidatePacket]
    · simp [same, Node.invalidatePacket, eq_comm (a := MsgType.invalidate)]

end SentIn

namespace Node

/-- The descriptors on which packets of a kind about page `p` were sent in this turn. -/
def sentOf (n : Node Page) (kind : MsgType) (p : Nat) : List Int := sentIn kind p n.effects

/-- The turn from `n` to `n'` leaves the slot of page `p` alone. -/
structure Leaves (n n' : Node Page) (p : Nat) : Prop where
  slot : n'.gpdPendingReqs p = n.gpdPendingReqs p
  invalidates : n'.sentOf .invalidate p = []
  fetches : n'.sentOf .requestPageRead p = []

/-- A transaction of node `w` begins: the page is fetched from its owner. -/
structure Fetches (n' : Node Page) (p w : Nat) (clientFd : Int) : Prop where
  requester : (n'.gpdPendingReqs p).requesterNodeId = w
  clientFd : (n'.gpdPendingReqs p).clientFd = clientFd
  acks : (n'.gpdPendingReqs p).expectedAcks = 0
  invalidates : n'.sentOf .invalidate p = []
  fetches : ∃ owner, n'.sentOf .requestPageRead p = [owner]

/-- The transaction of node `w` invalidates the connected nodes `targets` and waits for them. -/
structure Waits (n n' : Node Page) (p w : Nat) (clientFd : Int) (targets : List Nat) : Prop where
  inside : p < n.numPages
  requester : (n'.gpdPendingReqs p).requesterNodeId = w
  clientFd : (n'.gpdPendingReqs p).clientFd = clientFd
  acks : (n'.gpdPendingReqs p).expectedAcks = targets.length
  invalidates : n'.sentOf .invalidate p = targets.map n.nodeFds
  fetches : n'.sentOf .requestPageRead p = []
  some : 0 < targets.length
  nodup : targets.Nodup
  connected : ∀ m ∈ targets, n.nodeFds m ≠ -1

/-- The fetched page is handed out, and the transaction ends. -/
structure Completes (n n' : Node Page) (p : Nat) : Prop where
  slot : n'.gpdPendingReqs p = { n.gpdPendingReqs p with requesterNodeId := 0 }
  invalidates : n'.sentOf .invalidate p = []
  fetches : n'.sentOf .requestPageRead p = []

/-- An acknowledgement is counted, and the transaction ends with the last one. -/
structure Counts (n n' : Node Page) (p : Nat) : Prop where
  acks : (n'.gpdPendingReqs p).expectedAcks + 1 = (n.gpdPendingReqs p).expectedAcks
  requester : (n'.gpdPendingReqs p).requesterNodeId =
    if (n'.gpdPendingReqs p).expectedAcks = 0 then 0 else (n.gpdPendingReqs p).requesterNodeId
  clientFd : (n'.gpdPendingReqs p).clientFd = (n.gpdPendingReqs p).clientFd
  invalidates : n'.sentOf .invalidate p = []
  fetches : n'.sentOf .requestPageRead p = []

variable {n n' n'' m : Node Page} {p idx : Nat}

theorem Leaves.of_same (quiet : n.effects = []) (same : SamePage n n' p) : n.Leaves n' p := by
  have sends := same.sends
  rw [quiet] at sends
  refine ⟨same.slot, ?_, ?_⟩
  · rw [sentOf, sentIn_sendsAbout, sends]
    rfl
  · rw [sentOf, sentIn_sendsAbout, sends]
    rfl

theorem Leaves.of_eq (slot : n'.gpdPendingReqs p = n.gpdPendingReqs p) (quiet : n'.effects = []) :
    n.Leaves n' p :=
  ⟨slot, by rw [sentOf, quiet]; rfl, by rw [sentOf, quiet]; rfl⟩

theorem connectedIn_connected (n : Node Page) (mask : BitVec 64) :
    ∀ m ∈ n.connectedIn mask, n.nodeFds m ≠ -1 := by
  intro m member
  simp only [connectedIn, List.mem_filter, Bool.and_eq_true, bne_iff_ne] at member
  exact member.2.2

theorem connectedIn_nodup (n : Node Page) (mask : BitVec 64) : (n.connectedIn mask).Nodup :=
  List.nodup_range.filter _

variable [Zero Page]

/-- The slot is filled in and the invalidations are sent. -/
theorem waits_of_sent {idx : Nat} (inside : idx < n.numPages) (quiet : m.effects = []) (fds : m.nodeFds = n.nodeFds)
    (slot : CoordPending Page) {targets : List Nat} (some : 0 < targets.length)
    (acks : slot.expectedAcks = targets.length) (nodup : targets.Nodup)
    (connected : ∀ t ∈ targets, m.nodeFds t ≠ -1) :
    n.Waits ((m.setPending idx slot).sendInvalidations idx targets) idx slot.requesterNodeId
      slot.clientFd targets := by
  have stored : ((m.setPending idx slot).sendInvalidations idx targets).gpdPendingReqs idx = slot := by
    simp [sendInvalidations, setPending]
  have sent (kind : MsgType) :
      ((m.setPending idx slot).sendInvalidations idx targets).sentOf kind idx =
        if kind = .invalidate then targets.map n.nodeFds else [] := by
    simp only [sentOf, sendInvalidations, setPending, quiet, List.nil_append, fds]
    exact sentIn_invalidations kind idx n.nodeFds targets
  exact ⟨inside, by rw [stored], by rw [stored], by rw [stored, acks], sent .invalidate,
    sent .requestPageRead, some, nodup, fds ▸ connected⟩

section Own

variable (quiet : n.effects = [])
include quiet

theorem upgradeLocalCopy_turn {idx : Nat} (inside : idx < n.numPages) :
    n.Leaves (n.upgradeLocalCopy idx) idx ∨
      ∃ targets, n.Waits (n.upgradeLocalCopy idx) idx n.localNodeId (-1) targets := by
  unfold upgradeLocalCopy
  dsimp only
  split
  next some =>
    -- others hold the page: the slot is filled in before they are told
    let owned := n.transitionToModified idx n.localNodeId
    let slot := { owned.1.gpdPendingReqs idx with
      requesterNodeId := n.localNodeId
      type := .requestPageWrite
      clientFd := -1
      expectedAcks := (owned.1.connectedIn owned.2).length }
    exact Or.inr ⟨_, waits_of_sent (n := n) (m := owned.1) inside quiet rfl slot some rfl
      (connectedIn_nodup _ _) (connectedIn_connected _ _)⟩
  · -- the only copy: write permission at once
    refine Or.inl ⟨rfl, ?_, ?_⟩
    · simp [sentOf, liftWriteProtection, transitionToModified, quiet]
    · simp [sentOf, liftWriteProtection, transitionToModified, quiet]

theorem fetches_fetchFromOwner (idx requester : Nat) (type : MsgType) (clientFd : Int)
    (oldOwner : Nat) :
    (n.fetchFromOwner idx requester type clientFd oldOwner).Fetches idx requester clientFd := by
  refine ⟨?_, ?_, ?_, ?_, n.nodeFds oldOwner, ?_⟩
  all_goals simp [fetchFromOwner, sendAllNonblocking, setPending, sentOf, quiet]

theorem leaves_zeroFillLocal (idx : Nat) (isWrite : Bool) :
    n.Leaves (n.zeroFillLocal idx isWrite) idx := by
  have effects : (n.zeroFillLocal idx isWrite).effects = [.uffdioCopy idx 0] := by
    unfold zeroFillLocal
    dsimp only
    split <;> simp [installPage, dsmMarkAccessed, transitionToModified, transitionToShared, quiet]
  refine ⟨?_, by rw [sentOf, effects]; rfl, by rw [sentOf, effects]; rfl⟩
  unfold zeroFillLocal
  dsimp only
  split <;> rfl

omit [Zero Page] in
theorem leaves_send {clientFd : Int} {packet : DsmPacket Page} (page : packet.type = .sendPage)
    (slot : m.gpdPendingReqs p = n.gpdPendingReqs p) (effects : m.effects = n.effects) :
    n.Leaves (m.sendAllNonblocking clientFd packet) p := by
  refine ⟨slot, ?_, ?_⟩
  all_goals simp [sentOf, sendAllNonblocking, effects, quiet, page]

/-- A queued request of the coordinator itself, about its own page. -/
theorem serveQueuedRequest_turn (role : n.coordinatorFd = -1) {req : PageRequest}
    (inside : req.pageIndex < n.numPages) :
    n.Leaves (n.serveQueuedRequest req) req.pageIndex ∨
      (n.serveQueuedRequest req).Fetches req.pageIndex n.localNodeId (-1) ∨
      ∃ targets, n.Waits (n.serveQueuedRequest req) req.pageIndex n.localNodeId (-1) targets := by
  unfold serveQueuedRequest
  dsimp only
  rw [if_neg (not_not.mpr role)]
  split
  · -- a page it has: only a write needs anything
    split
    · exact (upgradeLocalCopy_turn quiet inside).imp_right Or.inr
    · exact Or.inl (.of_eq rfl quiet)
  · -- a page it does not have: the owner is asked, or without one it is zeros
    split
    · exact Or.inr (Or.inl (fetches_fetchFromOwner quiet _ _ _ _ _))
    · exact Or.inl (leaves_zeroFillLocal quiet _ _)

/-- An answer to a write, deferred or sent. -/
theorem deferOrSend_turn (effects : m.effects = n.effects) (fds : m.nodeFds = n.nodeFds)
    (slots : m.gpdPendingReqs = n.gpdPendingReqs) (clientFd : Int) (requestingNode : Nat)
    (mask : BitVec 64) {response : DsmPacket Page} (page : response.type = .sendPage)
    (inside : response.pageIndex < n.numPages) :
    n.Leaves (m.deferOrSend clientFd requestingNode mask response) response.pageIndex ∨
      ∃ targets, n.Waits (m.deferOrSend clientFd requestingNode mask response) response.pageIndex
        requestingNode clientFd targets := by
  unfold deferOrSend
  dsimp only
  split
  next some =>
    let slot : CoordPending Page := {
      requesterNodeId := requestingNode
      type := .requestPageWrite
      clientFd := clientFd
      expectedAcks := ((m.connectedIn mask).filter (· ≠ requestingNode)).length
      deferredPayload := response.payload }
    refine Or.inr ⟨_, waits_of_sent (n := n) inside (effects.trans quiet) fds slot some rfl
      ((connectedIn_nodup m mask).filter _) fun t member => ?_⟩
    exact connectedIn_connected m mask t (List.mem_filter.mp member).1
  · -- nobody to wait for: the response goes out
    exact Or.inl (leaves_send quiet page (congrFun slots _) effects)

omit [Zero Page] in
theorem leaves_acceptPage (packet : DsmPacket Page) (p : Nat) : n.Leaves (n.acceptPage packet) p := by
  unfold acceptPage
  dsimp only
  -- an upgrade is unprotected, a page that was asked for or is absent is installed, a valid one stays
  split
  · refine ⟨rfl, ?_, ?_⟩
    all_goals simp [sentOf, liftWriteProtection, dsmMarkAccessed, quiet]
  · refine ⟨rfl, ?_, ?_⟩
    all_goals simp [sentOf, installPage, dsmMarkAccessed, quiet]
  · refine ⟨rfl, ?_, ?_⟩
    all_goals simp [sentOf, installPage, dsmMarkAccessed, quiet]
  · exact .of_eq rfl quiet

omit [Zero Page] in
theorem completes_completePending {packet : DsmPacket Page} (kind : packet.type = .sendPage)
    (effects : m.effects = n.effects) (slots : m.gpdPendingReqs = n.gpdPendingReqs) :
    n.Completes (m.completePending packet) packet.pageIndex := by
  unfold completePending
  dsimp only
  -- the requester is this node, or another
  split
  · refine ⟨?_, ?_, ?_⟩
    · simp [setPending, installPage, dsmMarkAccessed, slots]
    · simp [sentOf, setPending, installPage, dsmMarkAccessed, effects, quiet]
    · simp [sentOf, setPending, installPage, dsmMarkAccessed, effects, quiet]
  · refine ⟨?_, ?_, ?_⟩
    · simp [setPending, sendAllNonblocking, slots]
    · simp [sentOf, setPending, sendAllNonblocking, effects, quiet, kind]
    · simp [sentOf, setPending, sendAllNonblocking, effects, quiet, kind]

theorem replyToPendingWrite_turn {packet : DsmPacket Page} (kind : packet.type = .sendPage)
    (inside : packet.pageIndex < n.numPages) :
    n.Completes (n.replyToPendingWrite packet) packet.pageIndex ∨
      ∃ targets, n.Waits (n.replyToPendingWrite packet) packet.pageIndex
        (n.gpdPendingReqs packet.pageIndex).requesterNodeId
        (n.gpdPendingReqs packet.pageIndex).clientFd targets := by
  obtain ⟨⟨effects, fds⟩, slots, -⟩ := ownDroppingLocal_spec n inside
    (n.gpdPendingReqs packet.pageIndex).requesterNodeId
  unfold replyToPendingWrite
  dsimp only
  split
  next some =>
    let owned := n.ownDroppingLocal packet.pageIndex
      (n.gpdPendingReqs packet.pageIndex).requesterNodeId
    let slot := { owned.1.gpdPendingReqs packet.pageIndex with
      expectedAcks := ((owned.1.connectedIn owned.2).filter
        (· ≠ (n.gpdPendingReqs packet.pageIndex).requesterNodeId)).length
      deferredPayload := packet.payload }
    have waits := waits_of_sent (n := n) inside (effects.trans quiet) fds slot some rfl
      ((connectedIn_nodup owned.1 owned.2).filter _) fun t member =>
        connectedIn_connected owned.1 owned.2 t (List.mem_filter.mp member).1
    -- the slot keeps the requester and its descriptor
    have same : owned.1.gpdPendingReqs packet.pageIndex = n.gpdPendingReqs packet.pageIndex :=
      congrFun slots _
    exact Or.inr ⟨_, { waits with
      requester := waits.requester.trans (congrArg (fun s => s.requesterNodeId) same)
      clientFd := waits.clientFd.trans (congrArg (fun s => s.clientFd) same) }⟩
  · exact Or.inl (completes_completePending quiet kind effects slots)

/-- The contents of a page. -/
theorem handleSendPage_turn {packet : DsmPacket Page} (kind : packet.type = .sendPage) :
    n.Leaves (n.handleSendPage packet) packet.pageIndex ∨
      (n.gpdPendingReqs packet.pageIndex).requesterNodeId ≠ 0 ∧
        (n.Completes (n.handleSendPage packet) packet.pageIndex ∨
          ∃ targets, n.Waits (n.handleSendPage packet) packet.pageIndex
            (n.gpdPendingReqs packet.pageIndex).requesterNodeId
            (n.gpdPendingReqs packet.pageIndex).clientFd targets) := by
  unfold handleSendPage
  dsimp only
  split
  next inside =>
    split
    next live =>
      refine Or.inr ⟨live.2, ?_⟩
      -- the slot is for a write or for a read
      split
      · exact replyToPendingWrite_turn quiet kind inside
      · exact Or.inl (completes_completePending quiet kind rfl rfl)
    · -- no live slot: the page is the node's own
      exact Or.inl (leaves_acceptPage quiet packet packet.pageIndex)
  · exact Or.inl (.of_eq rfl quiet)

omit [Zero Page] in
theorem completes_grantDeferred (effects : m.effects = n.effects) (idx : Nat) :
    (m.grantDeferred idx).gpdPendingReqs idx = { m.gpdPendingReqs idx with requesterNodeId := 0 } ∧
      (m.grantDeferred idx).sentOf .invalidate idx = [] ∧
      (m.grantDeferred idx).sentOf .requestPageRead idx = [] := by
  unfold grantDeferred
  dsimp only
  -- the own request is an upgrade or a fault; another node's is forwarded
  split
  · split
    · simp [setPending, liftWriteProtection, dsmMarkAccessed, sentOf, effects, quiet]
    · simp [setPending, installPage, dsmMarkAccessed, sentOf, effects, quiet]
  · simp [setPending, sendAllNonblocking, sentOf, effects, quiet]

omit [Zero Page] in
theorem counts_handleInvalidateAck {packet : DsmPacket Page} (inside : packet.pageIndex < n.numPages)
    (expected : 0 < (n.gpdPendingReqs packet.pageIndex).expectedAcks) :
    n.Counts (n.handleInvalidateAck packet) packet.pageIndex := by
  unfold handleInvalidateAck
  dsimp only
  rw [if_pos inside, if_pos expected]
  let counted : CoordPending Page := { n.gpdPendingReqs packet.pageIndex with
    expectedAcks := (n.gpdPendingReqs packet.pageIndex).expectedAcks - 1 }
  have stored : (n.setPending packet.pageIndex counted).gpdPendingReqs packet.pageIndex = counted :=
    Function.update_self ..
  split
  next last =>
    -- the deferred grant clears the requester and keeps the count
    obtain ⟨slot, invalidates, fetches⟩ := completes_grantDeferred quiet
      (m := n.setPending packet.pageIndex counted) rfl packet.pageIndex
    rw [stored] at slot
    refine ⟨?_, ?_, ?_, invalidates, fetches⟩
    · rw [slot]
      exact Nat.sub_add_cancel expected
    · rw [slot]
      exact (if_pos last).symm
    · rw [slot]
  next more =>
    refine ⟨?_, ?_, ?_, by rw [sentOf, setPending, quiet]; rfl, by rw [sentOf, setPending, quiet]; rfl⟩
    · rw [stored]
      exact Nat.sub_add_cancel expected
    · rw [stored]
      exact (if_neg more).symm
    · rw [stored]

omit [Zero Page] in
/-- An acknowledgement, expected or not. -/
theorem handleInvalidateAck_turn (packet : DsmPacket Page) :
    n.Leaves (n.handleInvalidateAck packet) packet.pageIndex ∨
      n.Counts (n.handleInvalidateAck packet) packet.pageIndex := by
  by_cases expected :
      packet.pageIndex < n.numPages ∧ 0 < (n.gpdPendingReqs packet.pageIndex).expectedAcks
  · exact Or.inr (counts_handleInvalidateAck quiet expected.1 expected.2)
  · left
    unfold handleInvalidateAck
    dsimp only
    split
    next inside =>
      -- no acknowledgement is expected
      rw [if_neg fun some => expected ⟨inside, some⟩]
      exact .of_eq rfl quiet
    · exact .of_eq rfl quiet

/-! ### The pages that a slot forwards -/

/-- Pages go to the descriptor in the slot of page `p`, and none if the slot is this node's own. -/
def Forwards (n n' : Node Page) (p : Nat) : Prop :=
  ∀ fd ∈ n'.sentOf .sendPage p, p < n.numPages ∧
    (n.gpdPendingReqs p).requesterNodeId ≠ n.localNodeId ∧ fd = (n.gpdPendingReqs p).clientFd

omit [Zero Page] quiet in
theorem Forwards.of_nothing (nothing : n'.sentOf .sendPage p = []) : n.Forwards n' p := by
  rw [Forwards, nothing]
  nofun

omit [Zero Page] in
theorem forwards_completePending {packet : DsmPacket Page} (inside : packet.pageIndex < n.numPages)
    (id : m.localNodeId = n.localNodeId) (effects : m.effects = n.effects) (slots : m.gpdPendingReqs = n.gpdPendingReqs) :
    n.Forwards (m.completePending packet) packet.pageIndex := by
  unfold completePending
  dsimp only
  split
  · -- the own request: the page is installed here
    apply Forwards.of_nothing
    simp [sentOf, setPending, installPage, dsmMarkAccessed, effects, quiet]
  next other =>
    intro fd sent
    simp only [sentOf, setPending, sendAllNonblocking, effects, quiet, List.nil_append, sentIn_send]
      at sent
    split at sent
    · rw [List.mem_singleton.mp sent, slots]
      exact ⟨inside, id ▸ slots ▸ other, rfl⟩
    · cases sent

/-- The contents of a page for a live slot. -/
theorem forwards_handleSendPage (role : n.coordinatorFd = -1) {packet : DsmPacket Page}
    (live : (n.gpdPendingReqs packet.pageIndex).requesterNodeId ≠ 0) :
    n.Forwards (n.handleSendPage packet) packet.pageIndex := by
  unfold handleSendPage
  dsimp only
  split
  next inside =>
    split
    · split
      · obtain ⟨⟨effects, fds⟩, slots, -⟩ := ownDroppingLocal_spec n inside
          (n.gpdPendingReqs packet.pageIndex).requesterNodeId
        have id : (n.ownDroppingLocal packet.pageIndex
            (n.gpdPendingReqs packet.pageIndex).requesterNodeId).1.localNodeId = n.localNodeId :=
          (n.calls_ownDroppingLocal packet.pageIndex _).id
        unfold replyToPendingWrite
        dsimp only
        split
        next some =>
          -- the write has to wait: only invalidations go out
          apply Forwards.of_nothing
          simp only [sentOf, sendInvalidations, setPending, effects, quiet, List.nil_append]
          exact sentIn_invalidations .sendPage packet.pageIndex _ _
        · exact forwards_completePending quiet inside id effects slots
      · exact forwards_completePending quiet inside rfl rfl rfl
    next idle => exact absurd ⟨role, live⟩ idle
  · exact .of_nothing (by rw [sentOf, quiet]; rfl)

omit [Zero Page] in
/-- The last acknowledgement. -/
theorem forwards_handleInvalidateAck (packet : DsmPacket Page) :
    n.Forwards (n.handleInvalidateAck packet) packet.pageIndex := by
  have none_sent : n.Forwards n packet.pageIndex := .of_nothing (by rw [sentOf, quiet]; rfl)
  unfold handleInvalidateAck
  dsimp only
  split
  next inside =>
    split
    · split
      · unfold grantDeferred
        dsimp only
        split
        · -- the own request: nothing is sent
          apply Forwards.of_nothing
          split <;> simp [setPending, liftWriteProtection, installPage, dsmMarkAccessed, sentOf, quiet]
        next other =>
          intro fd sent
          simp [setPending, sendAllNonblocking, sentOf, quiet] at sent other
          exact ⟨inside, other, sent⟩
      · exact none_sent
    · exact none_sent
  · exact none_sent

end Own

/-! ### Evictions -/

omit [Zero Page] in
/-- What an eviction leaves alone. It sends at most the page. -/
structure Evicts (n n' : Node Page) : Prop where
  id : n'.localNodeId = n.localNodeId
  role : n'.coordinatorFd = n.coordinatorFd
  fds : n'.nodeFds = n.nodeFds
  slots : n'.gpdPendingReqs = n.gpdPendingReqs
  queue : n'.sharedReqQueue = n.sharedReqQueue
  messages : n'.uffdMessages = n.uffdMessages
  numPages : n'.numPages = n.numPages
  sends : ∀ kind ≠ MsgType.sendPage, ∀ p, n'.sentOf kind p = n.sentOf kind p

omit [Zero Page] in
theorem Evicts.trans (first : n.Evicts n') (second : n'.Evicts n'') : n.Evicts n'' where
  id := second.id.trans first.id
  role := second.role.trans first.role
  fds := second.fds.trans first.fds
  slots := second.slots.trans first.slots
  queue := second.queue.trans first.queue
  messages := second.messages.trans first.messages
  numPages := second.numPages.trans first.numPages
  sends kind other p := (second.sends kind other p).trans (first.sends kind other p)

omit [Zero Page] in
theorem evicts_writeback {fd : Int} {idx : Nat} (written : n.writeback fd idx = some n') :
    n.Evicts n' := by
  unfold writeback at written
  split at written
  · obtain ⟨page, -, rfl⟩ := Option.map_eq_some_iff.mp written
    refine ⟨rfl, rfl, rfl, rfl, rfl, rfl, rfl, fun kind other p => ?_⟩
    simp [sentOf, sendAllNonblocking, other.symm]
  · cases written
    exact ⟨rfl, rfl, rfl, rfl, rfl, rfl, rfl, fun _ _ _ => rfl⟩

omit [Zero Page] in
theorem evicts_dropVictim (inspectIdx : Nat) : n.Evicts (n.dropVictim inspectIdx) := by
  refine ⟨rfl, rfl, rfl, rfl, rfl, rfl, ?_, fun _ _ _ => rfl⟩
  simp only [numPages, dropVictim, Directory.setLocalMsiState]
  split <;> rfl

omit [Zero Page] in
theorem evicts_evictionSweep {fd : Int} {iterations : Nat} {result : Node Page × Option Nat}
    (swept : n.evictionSweep fd iterations = some result) : n.Evicts result.1 := by
  -- induction on the bound of the sweep; a page that is skipped moves the hand only
  induction iterations generalizing n with
  | zero =>
    cases swept
    exact ⟨rfl, rfl, rfl, rfl, rfl, rfl, rfl, fun _ _ _ => rfl⟩
  | succ iterations ih =>
    simp only [evictionSweep] at swept
    split at swept
    · have rest := ih swept
      exact { rest with }
    · split at swept
      · have rest := ih swept
        exact { rest with }
      · -- the victim is written back if it has to be, and dropped
        obtain ⟨written, back, rfl⟩ := Option.map_eq_some_iff.mp swept
        have all := (evicts_writeback back).trans (evicts_dropVictim n.clockHand)
        exact { all with }

omit [Zero Page] in
theorem evicts_dsmExecuteEviction {fd : Int} {result : Node Page × Option Nat}
    (swept : n.dsmExecuteEviction fd = some result) : n.Evicts result.1 := evicts_evictionSweep swept

end Node

/-- The connection and the node whose request the task answers. -/
def EngineTask.asker : EngineTask Page → Option (Int × Nat)
  | .zeroFill _ _ => none
  | .answerFromCopy clientFd _ requestingNode _ _ => some (clientFd, requestingNode)
  | .answerWithZeros clientFd _ requestingNode _ => some (clientFd, requestingNode)

namespace Node

variable [Zero Page] {n : Node Page} {p : Nat}

theorem perform_turn (quiet : n.effects = []) {task : EngineTask Page}
    (inside : task.pageIndex < n.numPages) :
    n.Leaves (n.perform task) task.pageIndex ∨
      ∃ clientFd w targets, task.asker = some (clientFd, w) ∧
        n.Waits (n.perform task) task.pageIndex w clientFd targets := by
  cases task with
  | zeroFill idx isWrite => exact Or.inl (leaves_zeroFillLocal quiet idx isWrite)
  | answerFromCopy clientFd idx requestingNode isWrite page =>
    unfold perform
    dsimp only
    split
    · -- a write: the copy is given up and the answer may have to wait
      let response : DsmPacket Page := ⟨.sendPage, idx, n.localNodeId, page⟩
      have kind : response.type = .sendPage := rfl
      refine (deferOrSend_turn (n := n)
        (m := (n.transitionToModified idx requestingNode).1.invalidateLocalPageCopy idx) quiet rfl rfl
        rfl clientFd requestingNode _ kind inside).imp_right ?_
      rintro ⟨targets, waits⟩
      exact ⟨clientFd, requestingNode, targets, rfl, waits⟩
    · -- a read is answered at once
      refine Or.inl ?_
      unfold serveReadFromCopy
      dsimp only
      split <;> exact leaves_send quiet rfl rfl rfl
  | answerWithZeros clientFd idx requestingNode isWrite =>
    obtain ⟨⟨effects, fds⟩, slots, -⟩ := ownDroppingLocal_spec n inside requestingNode
    unfold perform serveZeroPage
    dsimp only
    split
    · refine (deferOrSend_turn quiet effects fds slots clientFd requestingNode _ rfl inside).imp_right ?_
      rintro ⟨targets, waits⟩
      exact ⟨clientFd, requestingNode, targets, rfl, waits⟩
    · exact Or.inl (leaves_send quiet rfl rfl rfl)

theorem takesRequest_turn (quiet : n.effects = []) {clientFd : Int} {packet : DsmPacket Page}
    {begun : Node Page × Option (EngineTask Page)} (takes : n.TakesRequest clientFd packet begun) :
    (n.Leaves begun.1 packet.pageIndex ∧
        ∀ task ∈ begun.2, task.pageIndex = packet.pageIndex ∧
          task.asker = some (clientFd, packet.senderNodeId)) ∨
      (begun.2 = none ∧ begun.1.Fetches packet.pageIndex packet.senderNodeId clientFd) := by
  cases takes with
  | outside => exact Or.inl ⟨.of_eq rfl quiet, nofun⟩
  | fromCopy | withZeros =>
    refine Or.inl ⟨.of_eq rfl quiet, ?_⟩
    -- the task carries the connection and the node of the request
    rintro task ⟨⟩
    exact ⟨rfl, rfl⟩
  | fetch =>
    exact Or.inr ⟨rfl, fetches_fetchFromOwner
      (n := n.registerSender clientFd packet.senderNodeId) quiet _ _ _ _ _⟩

theorem leaves_handleInvalidate (quiet : n.effects = []) (clientFd : Int) (packet : DsmPacket Page) :
    n.Leaves (n.handleInvalidate clientFd packet) p := by
  unfold handleInvalidate
  dsimp only
  split
  · split
    · refine ⟨rfl, ?_, ?_⟩
      all_goals simp [sentOf, sendAllNonblocking, setStatus, setMapping, quiet]
    · refine ⟨rfl, ?_, ?_⟩
      all_goals simp [sentOf, sendAllNonblocking, setStatus, setMapping, quiet]
  · exact .of_eq rfl quiet

end Node

namespace NodeThreads

variable {t t' : NodeThreads Page} {p w : Nat} {clientFd : Int} {e : NodeEvent Page}

/-- The turn takes up the request of node `w` for page `p`, received on `clientFd`; a request of
this node itself has none. -/
def TakesUp (t : NodeThreads Page) (p w : Nat) (clientFd : Int) : NodeEvent Page → Prop
  | .drain => (∃ req ∈ t.node.sharedReqQueue.head?, req.pageIndex = p) ∧ w = t.node.localNodeId ∧
      clientFd = -1
  | .receive fd packet => packet.type.isPageRequest = true ∧ packet.pageIndex = p ∧
      w = packet.senderNodeId ∧ clientFd = fd
  | _ => False

/-- The turn is the second half of the handler of such a request. -/
def Answers (t : NodeThreads Page) (p w : Nat) (clientFd : Int) : NodeEvent Page → Prop
  | .finish => ∃ task ∈ t.task, task.pageIndex = p ∧ task.asker = some (clientFd, w)
  | _ => False

/-- The turn hands contents of page `p` to its live slot. -/
def Replies (t : NodeThreads Page) (p w : Nat) (clientFd : Int) : NodeEvent Page → Prop
  | .receive _ packet => packet.type = .sendPage ∧ packet.pageIndex = p ∧
      (t.node.gpdPendingReqs p).requesterNodeId ≠ 0 ∧
      w = (t.node.gpdPendingReqs p).requesterNodeId ∧ clientFd = (t.node.gpdPendingReqs p).clientFd
  | _ => False

/-- What one turn of a coordinator does to the slot of page `p`. -/
inductive SlotTurn (t : NodeThreads Page) (p : Nat) (e : NodeEvent Page) (t' : NodeThreads Page) :
    Prop where
  | leave (leaves : t.resume.Leaves t'.node p)
  | fetch (w : Nat) (clientFd : Int) (takes : t.TakesUp p w clientFd e) (free : t'.task = none)
      (fetches : t'.node.Fetches p w clientFd)
  | wait (w : Nat) (clientFd : Int) (targets : List Nat)
      (source : t.TakesUp p w clientFd e ∨ t.Answers p w clientFd e ∨ t.Replies p w clientFd e)
      (free : t'.task = none) (waits : t.resume.Waits t'.node p w clientFd targets)
  | complete (w : Nat) (clientFd : Int) (replies : t.Replies p w clientFd e) (free : t'.task = none)
      (completes : t.resume.Completes t'.node p)
  | count (ack : e.acknowledges p = true) (free : t'.task = none)
      (counts : t.resume.Counts t'.node p)

theorem SlotTurn.of_eq (slot : t'.node.gpdPendingReqs p = t.node.gpdPendingReqs p)
    (quiet : t'.node.effects = []) : t.SlotTurn p e t' :=
  .leave (Node.Leaves.of_eq (n := t.resume) slot quiet)

variable [Zero Page]

theorem slotTurn_receive {packet : DsmPacket Page} {begun : Node Page × Option (EngineTask Page)}
    (takes : t.resume.TakesPacket clientFd packet begun) :
    t.SlotTurn p (.receive clientFd packet) ⟨begun.1, begun.2⟩ := by
  by_cases own : packet.pageIndex = p
  · subst own
    cases takes with
    | request begun kind takes =>
      rcases Node.takesRequest_turn rfl takes with ⟨leaves, -⟩ | ⟨free, fetches⟩
      · exact .leave leaves
      · exact .fetch _ _ ⟨MsgType.isPageRequest_of kind, rfl, rfl, rfl⟩ free fetches
    | page kind =>
      rcases Node.handleSendPage_turn (n := t.resume) rfl kind with
        leaves | ⟨live, completes | ⟨targets, waits⟩⟩
      · exact .leave leaves
      · exact .complete _ _ ⟨kind, rfl, live, rfl, rfl⟩ rfl completes
      · exact .wait _ _ targets (Or.inr (Or.inr ⟨kind, rfl, live, rfl, rfl⟩)) rfl waits
    | ack kind =>
      rcases Node.handleInvalidateAck_turn (n := t.resume) rfl packet with leaves | counts
      · exact .leave leaves
      · exact .count (by simp [NodeEvent.acknowledges, kind]) rfl counts
    | invalidate => exact .leave (Node.leaves_handleInvalidate (n := t.resume) rfl clientFd packet)
    | join | other => exact .of_eq rfl rfl
  · -- a handler of another page leaves all of this one alone
    refine .leave (.of_same rfl ?_)
    cases takes with
    | request begun _ takes => exact Node.same_takesRequest own takes
    | page => exact .of_about (Node.about_handleSendPage own t.resume packet rfl)
    | ack => exact .of_about (Node.about_handleInvalidateAck own t.resume packet rfl)
    | invalidate => exact .of_about (Node.about_handleInvalidate own t.resume clientFd packet rfl)
    | join | other => exact ⟨rfl, rfl, rfl⟩

/-- Every turn of a coordinator does one of these things to a slot. -/
theorem slotTurn_of_step (role : t.node.coordinatorFd = -1) (ranged : t.Ranged)
    (next : t.step e = some t') (p : Nat) : t.SlotTurn p e t' := by
  cases turn_of_step next with
  | load | loadFault | store | storeFault | closed => exact .of_eq rfl rfl
  | fault =>
    unfold Node.handleFault Node.queuePush
    dsimp only
    split
    · exact .of_eq rfl rfl
    · split <;> exact .of_eq rfl rfl
  | drain req rest _ waiting =>
    -- the request at the head of the queue, for this page or another
    have head : req ∈ t.node.sharedReqQueue.head? := by simp [waiting]
    have inside := ranged.queue req (waiting ▸ List.mem_cons_self)
    unfold Node.beginQueuedRequest
    split
    · exact .of_eq rfl rfl
    · by_cases own : req.pageIndex = p
      · have takes : t.TakesUp p t.node.localNodeId (-1) .drain := ⟨⟨req, head, own⟩, rfl, rfl⟩
        subst own
        rcases Node.serveQueuedRequest_turn (n := { t.resume with sharedReqQueue := rest }) rfl role
          inside with leaves | fetches | ⟨targets, waits⟩
        · exact .leave ⟨leaves.slot, leaves.invalidates, leaves.fetches⟩
        · exact .fetch _ _ takes rfl fetches
        · exact .wait _ _ targets (Or.inl takes) rfl { waits with }
      · refine .leave (.of_same rfl ?_)
        have popped : SamePage t.resume { t.resume with sharedReqQueue := rest } p := ⟨rfl, rfl, rfl⟩
        exact popped.trans (.of_about (Node.about_serveQueuedRequest own _ req rfl))
  | receive _ _ _ _ takes => exact slotTurn_receive takes
  | finish task busy =>
    by_cases own : task.pageIndex = p
    · subst own
      rcases Node.perform_turn (n := t.resume) rfl (ranged.task task busy) with
        leaves | ⟨clientFd, w, targets, asker, waits⟩
      · exact .leave leaves
      · exact .wait w clientFd targets (Or.inr (Or.inl ⟨task, busy, rfl, asker⟩)) rfl waits
    · exact .leave (.of_same rfl (Node.same_perform task own))
  | evict _ _ swept =>
    have evicts := Node.evicts_dsmExecuteEviction (n := t.resume) swept
    -- an eviction sends pages only
    exact .leave ⟨congrFun evicts.slots p, evicts.sends .invalidate nofun p,
      evicts.sends .requestPageRead nofun p⟩

/-- An expected acknowledgement is counted. -/
theorem counts_of_ack (ack : e.acknowledges p = true) (inside : p < t.node.numPages)
    (expected : 0 < (t.node.gpdPendingReqs p).expectedAcks) (next : t.step e = some t') :
    t.resume.Counts t'.node p := by
  cases e with
  | receive clientFd packet =>
    obtain ⟨kind, rfl⟩ : packet.type = .invalidateAck ∧ packet.pageIndex = p := by
      simpa [NodeEvent.acknowledges] using ack
    obtain ⟨-, rfl⟩ := step_ack next kind
    exact Node.counts_handleInvalidateAck (n := t.resume) rfl inside expected
  | load | store | fault | drain | finish | closed | evict => cases ack

/-- What a page or an acknowledgement makes a live slot forward. -/
theorem forwards_of_receive (role : t.node.coordinatorFd = -1) {packet : DsmPacket Page}
    (kind : packet.type = .sendPage ∨ packet.type = .invalidateAck)
    (live : (t.node.gpdPendingReqs packet.pageIndex).requesterNodeId ≠ 0)
    (next : t.step (.receive clientFd packet) = some t') :
    t.resume.Forwards t'.node packet.pageIndex := by
  rcases kind with kind | kind
  · obtain ⟨-, rfl⟩ := step_page next kind
    exact Node.forwards_handleSendPage (n := t.resume) rfl role live
  · obtain ⟨-, rfl⟩ := step_ack next kind
    exact Node.forwards_handleInvalidateAck (n := t.resume) rfl packet

/-! ### The other data of a transaction -/

/-- No turn moves the node to another number or region, or gives a coordinator a coordinator. -/
structure Stays (t t' : NodeThreads Page) : Prop where
  ranged : t'.Ranged
  id : t'.node.localNodeId = t.node.localNodeId
  numPages : t'.node.numPages = t.node.numPages
  role : t.node.coordinatorFd = -1 → t'.node.coordinatorFd = -1

theorem stays_of_step (ranged : t.Ranged) (next : t.step e = some t') : t.Stays t' := by
  -- an eviction is no call of the engine and is looked at on its own
  have stays (notEvict : ∀ fd, e ≠ .evict fd) : t.Stays t' :=
    have made := makesCall_of_step ranged notEvict next
    ⟨made.ranged, made.id, made.numPages, made.role⟩
  cases e with
  | evict fd =>
    obtain ⟨result, swept, rfl⟩ := Option.map_eq_some_iff.mp next
    have evicts := Node.evicts_dsmExecuteEviction (n := t.resume) swept
    refine ⟨⟨evicts.id ▸ ranged.id, fun req member => ?_, fun fault member => ?_, fun task busy => ?_⟩,
      evicts.id, evicts.numPages, evicts.role.trans⟩
    · exact evicts.numPages ▸ ranged.queue req (evicts.queue ▸ member)
    · exact evicts.numPages ▸ ranged.messages fault (evicts.messages ▸ member)
    · exact evicts.numPages ▸ ranged.task task busy
  | load | store | fault | drain | receive | finish | closed => exact stays nofun

/-- A task is kept, or begins with the request it answers. -/
theorem task_of_step (next : t.step e = some t') : ∀ task ∈ t'.task, task ∈ t.task ∨
    ∀ asked ∈ task.asker, t.TakesUp task.pageIndex asked.2 asked.1 e := by
  intro task begun
  cases turn_of_step next with
  | load | loadFault | store | storeFault | fault | evict => exact Or.inl begun
  | drain req rest =>
    unfold Node.beginQueuedRequest at begun
    split at begun
    · cases begun
      exact Or.inr nofun
    · cases begun
  | receive clientFd packet handled _ takes =>
    cases takes with
    | request handled kind takes =>
      rcases Node.takesRequest_turn rfl takes with ⟨-, tasks⟩ | ⟨free, -⟩
      · obtain ⟨own, asker⟩ := tasks task begun
        right
        intro asked found
        cases asker.symm.trans found
        exact ⟨MsgType.isPageRequest_of kind, own.symm, rfl, rfl⟩
      · cases free.symm.trans begun
    | page | join | invalidate | ack | other => cases begun
  | finish | closed => cases begun

omit [Zero Page] in
/-- A handler that leaves some page alone leaves the descriptors alone. -/
theorem nodeFds_of_about {n n' : Node Page} {q : Nat} (same : n'.about q = n.about q) :
    n'.nodeFds = n.nodeFds := congrArg NodePage.nodeFds same

omit [Zero Page] in
theorem nodeFds_registerSender (n : Node Page) (clientFd : Int) (sender m : Nat) :
    (n.registerSender clientFd sender).nodeFds m = n.nodeFds m ∨
      (m = sender ∧ m < 64 ∧ (n.registerSender clientFd sender).nodeFds m = clientFd) := by
  simp only [Node.registerSender]
  split
  next small =>
    by_cases same : m = sender
    · subst same
      exact Or.inr ⟨rfl, small, Function.update_self ..⟩
    · exact Or.inl (Function.update_of_ne same _ _)
  · exact Or.inl rfl

/-- Only a join or a page request stores a descriptor: that of its connection, for its sender. -/
theorem nodeFds_of_receive {packet : DsmPacket Page}
    (next : t.step (.receive clientFd packet) = some t') (m : Nat) :
    t'.node.nodeFds m = t.node.nodeFds m ∨
      ((packet.type = .nodeJoin ∨ packet.type.isPageRequest = true) ∧ m = packet.senderNodeId ∧
        m < 64 ∧ t'.node.nodeFds m = clientFd) := by
  -- what a handler leaves alone is stated for another page than its own
  have apart : packet.pageIndex ≠ packet.pageIndex + 1 := (Nat.lt_succ_self _).ne
  have registered := nodeFds_registerSender t.resume clientFd packet.senderNodeId m
  cases turn_of_step next with
  | receive _ _ _ _ takes =>
    cases takes with
    | request _ kind takes =>
      have asks := MsgType.isPageRequest_of kind
      cases takes with
      | outside => exact Or.inl rfl
      | fromCopy | fetch | withZeros => exact registered.imp_right fun stored => ⟨Or.inr asks, stored⟩
    | join kind => exact registered.imp_right fun stored => ⟨Or.inl kind, stored⟩
    | page =>
      exact Or.inl (congrFun (nodeFds_of_about (Node.about_handleSendPage apart t.resume packet rfl)) m)
    | ack =>
      exact Or.inl (congrFun (nodeFds_of_about
        (Node.about_handleInvalidateAck apart t.resume packet rfl)) m)
    | invalidate =>
      exact Or.inl (congrFun (nodeFds_of_about
        (Node.about_handleInvalidate apart t.resume clientFd packet rfl)) m)
    | other => exact Or.inl rfl

/-- Apart from these, only the end of a connection changes a descriptor. -/
theorem nodeFds_of_step (next : t.step e = some t') (notReceive : ∀ fd packet, e ≠ .receive fd packet)
    (notClosed : ∀ fd, e ≠ .closed fd) : t'.node.nodeFds = t.node.nodeFds := by
  cases turn_of_step next with
  | load | loadFault | store | storeFault => rfl
  | fault =>
    unfold Node.handleFault Node.queuePush
    dsimp only
    split
    · rfl
    · split <;> rfl
  | drain req rest =>
    unfold Node.beginQueuedRequest
    split
    · rfl
    · exact nodeFds_of_about (n := { t.resume with sharedReqQueue := rest })
        (Node.about_serveQueuedRequest (Nat.lt_succ_self _).ne _ req rfl)
  | receive clientFd packet => exact absurd rfl (notReceive clientFd packet)
  | finish task =>
    exact nodeFds_of_about (n := t.resume) (Node.about_perform task (Nat.lt_succ_self _).ne)
  | closed clientFd => exact absurd rfl (notClosed clientFd)
  | evict _ _ swept => exact (Node.evicts_dsmExecuteEviction (n := t.resume) swept).fds

end NodeThreads

end TeleportVM
