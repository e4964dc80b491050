import TeleportVM.Frame

/-! The coordinator's handlers as operations on the view of one page. -/
namespace TeleportVM

variable {Page : Type}

open Bitmap (Enumerates)

section Coordinator

variable {T : Topology} {p : Nat} {s : Cluster Page} {n : Node Page}

@[simp] theorem connectedIn_setEntry (e : GpdEntry) (mask : BitVec 64) :
    (n.setEntry p e).connectedIn mask = n.connectedIn mask := rfl

theorem mem_joinedWorkers (ok : CoordinatorOk T n) (m : Nat) :
    m ∈ joinedWorkers T n.nodeFds ↔ n.nodeFds m ≠ -1 := by
  simp only [joinedWorkers, Finset.mem_filter, and_iff_right_iff_imp]
  intro connected
  exact ((ok.fds m).resolve_left connected).1

theorem connected_eq (ok : CoordinatorOk T n) {m : Nat} (joined : m ∈ joinedWorkers T n.nodeFds) :
    m ∈ T.workers ∧ n.nodeFds m = T.acceptedFd m :=
  (ok.fds m).resolve_left ((mem_joinedWorkers ok m).mp joined)

/-- The loops over the mask of a write visit the targets of the write. -/
theorem connectedIn_enumerates (ok : CoordinatorOk T n) (r : Nat) (e : GpdEntry) (mask : BitVec 64)
    (listed : ∀ m ∈ T.workers, mask.getLsbD m = true ↔ m ∈ e.holders.erase r) :
    Enumerates (n.connectedIn mask) (e.holders.erase r ∩ joinedWorkers T n.nodeFds) where
  unique := Bitmap.nodup_scan _
  same m := by
    simp only [Node.connectedIn, List.mem_filter, List.mem_range, Bool.and_eq_true, bne_iff_ne,
      Finset.mem_inter, mem_joinedWorkers ok]
    constructor
    · rintro ⟨-, set, connected⟩
      exact ⟨(listed m ((ok.fds m).resolve_left connected).1).mp set, connected⟩
    · rintro ⟨holder, connected⟩
      have worker := ((ok.fds m).resolve_left connected).1
      exact ⟨(T.workers_valid m worker).lt, (listed m worker).mpr holder, connected⟩

theorem getLsbD_invalidateMask (ok : CoordinatorOk T n) (r m : Nat) :
    ((n.directory.entry p).invalidateMask r).getLsbD m = true ↔
      m ∈ (n.directory.entry p).holders.erase r := by
  rw [← Bitmap.mem_members, invalidateMask_members _ (ok.entries p)]

/-- Clearing the coordinator's own bit does not change what the mask says of workers. -/
theorem getLsbD_clear_coordinator (mask : BitVec 64) {m : Nat} (worker : m ∈ T.workers) :
    (mask &&& ~~~nodeBit T.coordinator).getLsbD m = mask.getLsbD m := by
  have split : (mask &&& ~~~nodeBit T.coordinator).getLsbD m = true ↔ mask.getLsbD m = true := by
    rw [← Bitmap.mem_members, Bitmap.members_clear, Finset.mem_erase, Bitmap.mem_members]
    exact and_iff_right (T.ne_coordinator worker)
  exact Bool.eq_iff_iff.mpr split

variable (ok : CoordinatorOk T n) (inRange : p < T.numPages)
include ok inRange

theorem view_transitionToShared (r : Nat) :
    coordinatorView T p s (n.transitionToShared p r).1 =
      (coordinatorView T p s n).setEntry ((n.directory.entry p).toShared r) := by
  rw [transitionToShared_eq p n r (ok.pages ▸ inRange), view_setEntry]

theorem view_transitionToModified (w : Nat) :
    coordinatorView T p s (n.transitionToModified p w).1 =
      (coordinatorView T p s n).setEntry (.ownedBy w) := by
  rw [transitionToModified_eq p n w (ok.pages ▸ inRange), view_setEntry]

/-- The coordinator drops its copy exactly when it is a listed holder other than `r`. -/
theorem view_ownDroppingLocal (r : Nat) :
    coordinatorView T p s (n.ownDroppingLocal p r).1 =
      ((coordinatorView T p s n).dropIf
        (T.coordinator ∈ (n.directory.entry p).holders.erase r) T.coordinator).setEntry
          (.ownedBy r) := by
  have listed := getLsbD_invalidateMask (p := p) ok r T.coordinator
  have inside : p < n.numPages := ok.pages ▸ inRange
  unfold Node.ownDroppingLocal
  simp only [transitionToModified_eq p n r inside, ok.id, listed, PageState.dropIf]
  by_cases holder : T.coordinator ∈ (n.directory.entry p).holders.erase r
  · -- its bit is in the mask, and the copy is dropped
    have apart : T.coordinator ≠ r := Finset.ne_of_mem_erase holder
    rw [if_pos ⟨holder, apart⟩, if_pos holder]
    rw [view_invalidateLocalPageCopy T p s _ (by exact inside), view_setEntry]
    rfl
  · rw [if_neg fun both => holder both.1, if_neg holder, view_setEntry]

theorem ownDroppingLocal_listed (r : Nat) :
    ∀ m ∈ T.workers, (n.ownDroppingLocal p r).2.getLsbD m = true ↔
      m ∈ (n.directory.entry p).holders.erase r := by
  intro m worker
  have inside : p < n.numPages := ok.pages ▸ inRange
  unfold Node.ownDroppingLocal
  simp only [transitionToModified_eq p n r inside, ok.id]
  split
  · rw [getLsbD_clear_coordinator _ worker]; exact getLsbD_invalidateMask ok r m
  · exact getLsbD_invalidateMask ok r m

omit inRange in
theorem view_fetchFromOwner [Zero Page] (r : Nat) (type : MsgType) (fd : Int) (o : Nat)
    (joined : o ∈ joinedWorkers T n.nodeFds) :
    coordinatorView T p s (n.fetchFromOwner p r type fd o) =
      ((coordinatorView T p s n).setSlot
        { n.gpdPendingReqs p with
          requesterNodeId := r
          type := type
          clientFd := fd
          expectedAcks := 0 }).post o .fetch := by
  obtain ⟨worker, connected⟩ := connected_eq ok joined
  unfold Node.fetchFromOwner
  rw [connected, view_send T p s _ worker _ .fetch (by simp [downMsg]), view_setPending]

omit inRange in
/-- `MSG_INVALIDATE` goes to each target of the write once. -/
theorem view_broadcast [Zero Page] (list : List Nat) (holders : Finset Nat)
    (listed : Enumerates list (holders ∩ joinedWorkers T n.nodeFds)) :
    coordinatorView T p s (n.sendInvalidations p list) =
      (coordinatorView T p s n).broadcast (holders ∩ joinedWorkers T n.nodeFds) :=
  view_sendInvalidations T p s n list _ listed.unique listed.same fun m member =>
    connected_eq ok (Finset.mem_inter.mp ((listed.same m).mp member)).2

theorem view_upgradeLocalCopy [Zero Page] :
    coordinatorView T p s (n.upgradeLocalCopy p) =
      if (coordinatorView T p s n).targets T.coordinator = ∅ then
        ((coordinatorView T p s n).setEntry (.ownedBy T.coordinator)).lift T.coordinator
      else
        (((coordinatorView T p s n).setEntry (.ownedBy T.coordinator)).setSlot
          { n.gpdPendingReqs p with
            requesterNodeId := T.coordinator
            type := .requestPageWrite
            clientFd := -1
            expectedAcks := ((coordinatorView T p s n).targets T.coordinator).card }).broadcast
              ((coordinatorView T p s n).targets T.coordinator) := by
  have inside : p < n.numPages := ok.pages ▸ inRange
  have listed := connectedIn_enumerates ok T.coordinator (n.directory.entry p) _ fun m _ =>
    getLsbD_invalidateMask ok T.coordinator m
  have owned : CoordinatorOk T (n.setEntry p (.ownedBy T.coordinator)) := by
    have := ok.transitionToModified p T.coordinator CoordinatorOk.known_coordinator
    rwa [transitionToModified_eq p n _ inside] at this
  have targets : (coordinatorView T p s n).targets T.coordinator =
      (n.directory.entry p).holders.erase T.coordinator ∩ joinedWorkers T n.nodeFds := by
    simp [PageState.targets]
  unfold Node.upgradeLocalCopy
  simp only [transitionToModified_eq p n _ inside, ok.id, targets, connectedIn_setEntry]
  by_cases alone : (n.directory.entry p).holders.erase T.coordinator ∩ joinedWorkers T n.nodeFds = ∅
  · rw [if_neg (by rw [listed.length_pos]; exact not_not.mpr alone), if_pos alone,
      view_liftWriteProtection, view_setEntry]
  · rw [if_pos (listed.length_pos.mpr alone), if_neg alone]
    refine (view_broadcast (owned.setPending p _ (Or.inr
      ⟨CoordinatorOk.known_coordinator, fun away => absurd rfl away⟩)) _ _ listed).trans ?_
    rw [view_setPending, view_setEntry]
    simp only [← listed.length_eq]
    rfl

theorem view_zeroFillLocal [Zero Page] (isWrite : Bool) :
    coordinatorView T p s (n.zeroFillLocal p isWrite) =
      ((coordinatorView T p s n).setEntry
        (if isWrite then .ownedBy T.coordinator
          else (n.directory.entry p).toShared T.coordinator)).install T.coordinator 0 := by
  have installed := ok.installPage p 0
  unfold Node.zeroFillLocal
  dsimp only
  rw [ok.id]
  cases isWrite with
  | true =>
    rw [if_pos rfl, view_transitionToModified installed inRange, view_installPage]
    rfl
  | false =>
    rw [if_neg (by simp), view_transitionToShared installed inRange, view_installPage]
    rfl

omit inRange in
/-- The requester gets the page and the slot is free again. -/
theorem view_completePending (packet : DsmPacket Page) (own : packet.pageIndex = p)
    (sendPage : packet.type = .sendPage) (live : (n.gpdPendingReqs p).requesterNodeId ≠ 0) :
    coordinatorView T p s (n.completePending packet) =
      ((coordinatorView T p s n).setSlot
        { n.gpdPendingReqs p with requesterNodeId := 0 }).grant T
          (n.gpdPendingReqs p).requesterNodeId packet.payload := by
  subst own
  obtain ⟨known, fd⟩ := (ok.slots packet.pageIndex).resolve_left live
  unfold Node.completePending PageState.grant
  dsimp only
  rw [view_setPending, ok.id]
  -- the coordinator installs the page itself, and a worker is sent it
  by_cases home : (n.gpdPendingReqs packet.pageIndex).requesterNodeId = T.coordinator
  · rw [if_pos home, if_pos home, view_installPage, home]
    rfl
  · obtain ⟨worker, -⟩ := known.resolve_left home
    have sent := view_send T packet.pageIndex s n worker packet (.page packet.payload)
      (by simp [downMsg, sendPage])
    rw [← fd home] at sent
    rw [if_neg home, if_neg home, sent]
    rfl

theorem view_replyToPendingWrite [Zero Page] (packet : DsmPacket Page)
    (own : packet.pageIndex = p) (sendPage : packet.type = .sendPage)
    (live : (n.gpdPendingReqs p).requesterNodeId ≠ 0) :
    coordinatorView T p s (n.replyToPendingWrite packet) =
      let r := (n.gpdPendingReqs p).requesterNodeId
      let v := coordinatorView T p s n
      let owned := (v.dropIf (T.coordinator ∈ v.entry.holders.erase r) T.coordinator).setEntry
        (.ownedBy r)
      if v.targets r = ∅ then
        (owned.setSlot { v.slot with requesterNodeId := 0 }).grant T r packet.payload
      else
        (owned.setSlot
          { v.slot with
            expectedAcks := (v.targets r).card
            deferredPayload := packet.payload }).broadcast (v.targets r) := by
  subst own
  obtain ⟨known, fd⟩ := (ok.slots packet.pageIndex).resolve_left live
  have owned := ok.ownDroppingLocal packet.pageIndex _ known
  have listed := Bitmap.Enumerates.skip (connectedIn_enumerates owned
    (n.gpdPendingReqs packet.pageIndex).requesterNodeId (n.directory.entry packet.pageIndex) _
    (ownDroppingLocal_listed ok inRange _))
  rw [CoordinatorOk.ownDroppingLocal_nodeFds] at listed
  have view := view_ownDroppingLocal (s := s) ok inRange
    (n.gpdPendingReqs packet.pageIndex).requesterNodeId
  unfold Node.replyToPendingWrite
  simp only [PageState.targets, coordinatorView_entry, coordinatorView_joined,
    coordinatorView_slot]
  by_cases alone : (n.directory.entry packet.pageIndex).holders.erase
      (n.gpdPendingReqs packet.pageIndex).requesterNodeId ∩ joinedWorkers T n.nodeFds = ∅
  · -- nobody else to tell: the requester is answered at once
    rw [if_neg (by rw [listed.length_pos]; exact not_not.mpr alone), if_pos alone,
      view_completePending owned packet rfl sendPage (by simpa using live), view]
    simp
  · rw [if_pos (listed.length_pos.mpr alone), if_neg alone]
    have slotted := owned.setPending packet.pageIndex
      { n.gpdPendingReqs packet.pageIndex with
        expectedAcks := ((n.directory.entry packet.pageIndex).holders.erase
          (n.gpdPendingReqs packet.pageIndex).requesterNodeId ∩ joinedWorkers T n.nodeFds).card
        deferredPayload := packet.payload } (Or.inr ⟨by simpa using known, by simpa using fd⟩)
    have fds : ((n.ownDroppingLocal packet.pageIndex
        (n.gpdPendingReqs packet.pageIndex).requesterNodeId).1.setPending packet.pageIndex
          { n.gpdPendingReqs packet.pageIndex with
            expectedAcks := ((n.directory.entry packet.pageIndex).holders.erase
              (n.gpdPendingReqs packet.pageIndex).requesterNodeId ∩ joinedWorkers T n.nodeFds).card
            deferredPayload := packet.payload }).nodeFds = n.nodeFds :=
      CoordinatorOk.ownDroppingLocal_nodeFds _ _
    have sent := view_broadcast (p := packet.pageIndex) (s := s) slotted _ _
      (by rw [fds]; exact listed)
    rw [fds, view_setPending, view] at sent
    rw [listed.length_eq, CoordinatorOk.ownDroppingLocal_pending]
    exact sent

omit ok inRange in
theorem view_acceptPage (packet : DsmPacket Page) (own : packet.pageIndex = p) :
    coordinatorView T p s (n.acceptPage packet) =
      (coordinatorView T p s n).accept T.coordinator packet.payload := by
  subst own
  unfold Node.acceptPage PageState.accept
  rw [coordinatorView_status]
  cases h : n.pageTable packet.pageIndex <;> simp [h]

omit inRange in
/-- The last acknowledgement lifts the protection of an upgrade or grants the payload. -/
theorem view_grantDeferred (live : (n.gpdPendingReqs p).requesterNodeId ≠ 0) :
    coordinatorView T p s (n.grantDeferred p) =
      let v := (coordinatorView T p s n).setSlot { n.gpdPendingReqs p with requesterNodeId := 0 }
      let r := (n.gpdPendingReqs p).requesterNodeId
      if r = T.coordinator ∧ n.pageTable p = .writePending then v.lift T.coordinator
      else v.grant T r (n.gpdPendingReqs p).deferredPayload := by
  obtain ⟨known, fd⟩ := (ok.slots p).resolve_left live
  unfold Node.grantDeferred PageState.grant
  dsimp only
  rw [view_setPending, ok.id]
  by_cases home : (n.gpdPendingReqs p).requesterNodeId = T.coordinator
  · by_cases upgrading : n.pageTable p = .writePending
    · rw [if_pos home, if_pos upgrading, if_pos ⟨home, upgrading⟩, view_dsmMarkAccessed,
        view_liftWriteProtection]
      rfl
    · rw [if_pos home, if_neg upgrading, if_neg fun both => upgrading both.2, if_pos home,
        view_installPage, home]
      rfl
  · obtain ⟨worker, -⟩ := known.resolve_left home
    have sent := view_send T p s n worker
      ⟨.sendPage, p, T.coordinator, (n.gpdPendingReqs p).deferredPayload⟩
      (.page (n.gpdPendingReqs p).deferredPayload) (by simp [downMsg])
    rw [← fd home] at sent
    rw [if_neg home, if_neg fun both => home both.1, if_neg home, sent]
    rfl

omit inRange in
theorem view_deferOrSend [Zero Page] {r : Nat} (worker : r ∈ T.workers)
    (registered : n.nodeFds r = T.acceptedFd r) (mask : BitVec 64) (response : DsmPacket Page)
    (own : response.pageIndex = p) (sendPage : response.type = .sendPage) (holders : Finset Nat)
    (listed : Enumerates ((n.connectedIn mask).filter (· ≠ r))
      (holders ∩ joinedWorkers T n.nodeFds)) :
    coordinatorView T p s (n.deferOrSend (T.acceptedFd r) r mask response) =
      let targets := holders ∩ joinedWorkers T n.nodeFds
      if targets = ∅ then (coordinatorView T p s n).post r (.page response.payload)
      else
        ((coordinatorView T p s n).setSlot
          ⟨r, .requestPageWrite, T.acceptedFd r, targets.card, response.payload⟩).broadcast
            targets := by
  subst own
  unfold Node.deferOrSend
  dsimp only
  by_cases alone : holders ∩ joinedWorkers T n.nodeFds = ∅
  · rw [if_neg (by rw [listed.length_pos]; exact not_not.mpr alone), if_pos alone,
      view_send T _ s _ worker response (.page response.payload) (by simp [downMsg, sendPage])]
  · rw [if_pos (listed.length_pos.mpr alone), if_neg alone, listed.length_eq]
    have slotted := ok.setPending response.pageIndex
      ⟨r, .requestPageWrite, T.acceptedFd r, (holders ∩ joinedWorkers T n.nodeFds).card,
        response.payload⟩ (Or.inr ⟨Or.inr ⟨worker, registered⟩, fun _ => rfl⟩)
    refine (view_broadcast (s := s) slotted _ holders listed).trans ?_
    rw [view_setPending]
    rfl

section Serve

variable [Zero Page] {r : Nat} (worker : r ∈ T.workers)
  (registered : n.nodeFds r = T.acceptedFd r)
include worker registered

theorem view_serveWriteFromCopy (page : Page) :
    coordinatorView T p s (n.serveWriteFromCopy (T.acceptedFd r) p r page) =
      let v := coordinatorView T p s n
      let given := (v.drop T.coordinator).setEntry (.ownedBy r)
      if v.targets r = ∅ then given.post r (.page page)
      else (given.setSlot
        ⟨r, .requestPageWrite, T.acceptedFd r, (v.targets r).card, page⟩).broadcast
          (v.targets r) := by
  have inside : p < n.numPages := ok.pages ▸ inRange
  have owned := ok.transitionToModified p r (Or.inr ⟨worker, registered⟩)
  rw [transitionToModified_eq p n r inside] at owned
  have dropped := owned.invalidateLocalPageCopy p
  have listed := Bitmap.Enumerates.skip (connectedIn_enumerates dropped r (n.directory.entry p)
    ((n.directory.entry p).invalidateMask r &&& ~~~nodeBit T.coordinator) fun m member => by
      rw [getLsbD_clear_coordinator _ member]
      exact getLsbD_invalidateMask ok r m)
  unfold Node.serveWriteFromCopy
  dsimp only
  rw [transitionToModified_eq p n r inside, ok.id]
  refine (view_deferOrSend (s := s) dropped worker registered _ _ rfl rfl _ listed).trans ?_
  rw [view_invalidateLocalPageCopy T p s _ (by exact inside), view_setEntry]
  simp only [PageState.targets, coordinatorView_entry, coordinatorView_joined]
  rfl

theorem view_serveZeroWrite :
    coordinatorView T p s (n.serveZeroPage (T.acceptedFd r) p r true) =
      let v := coordinatorView T p s n
      let given := (v.dropIf (T.coordinator ∈ v.entry.holders.erase r) T.coordinator).setEntry
        (.ownedBy r)
      if v.targets r = ∅ then given.post r (.page 0)
      else (given.setSlot
        ⟨r, .requestPageWrite, T.acceptedFd r, (v.targets r).card, 0⟩).broadcast
          (v.targets r) := by
  have owned := ok.ownDroppingLocal p r (Or.inr ⟨worker, registered⟩)
  have listed := Bitmap.Enumerates.skip (connectedIn_enumerates owned r (n.directory.entry p) _
    (ownDroppingLocal_listed ok inRange r))
  unfold Node.serveZeroPage
  dsimp only
  rw [if_pos rfl]
  refine (view_deferOrSend (s := s) owned worker (by simpa using registered) _ _ rfl rfl _
    listed).trans ?_
  rw [view_ownDroppingLocal ok inRange, CoordinatorOk.ownDroppingLocal_nodeFds]
  simp only [PageState.targets, coordinatorView_entry, coordinatorView_joined]

omit registered in
theorem view_serveZeroRead :
    coordinatorView T p s (n.serveZeroPage (T.acceptedFd r) p r false) =
      ((coordinatorView T p s n).setEntry ((n.directory.entry p).toShared r)).post r (.page 0) := by
  unfold Node.serveZeroPage
  dsimp only
  rw [if_neg (by simp), view_send T p s _ worker _ (.page 0) (by simp [downMsg]),
    view_transitionToShared ok inRange]

omit registered [Zero Page] in
/-- Only a coordinator that owned the page write-protects its copy. -/
theorem view_serveReadFromCopy (valid : n.pageTable p = .valid) (page : Page) :
    coordinatorView T p s (n.serveReadFromCopy (T.acceptedFd r) p r page) =
      (((coordinatorView T p s n).setEntry ((n.directory.entry p).toShared r)).setMapping
        T.coordinator
          (if (n.directory.entry p).ownerNodeId = T.coordinator then (n.mapping p).protect
            else n.mapping p)).post r (.page page) := by
  have inside : p < n.numPages := ok.pages ▸ inRange
  unfold Node.serveReadFromCopy
  dsimp only
  rw [view_send T p s _ worker _ (.page page) (by simp [downMsg]),
    transitionToShared_eq p n r inside, ok.id]
  dsimp only
  split
  · rw [view_writeprotectLocalPageCopy T p s _ (by exact inside) (by exact valid), view_setEntry]
    rfl
  · rw [view_setEntry]
    congr 1
    have same := coordinatorView_mapping T p s n
    simp only [PageState.setEntry, PageState.setMapping, ← same, Function.update_eq_self]

end Serve

end Coordinator

end TeleportVM
