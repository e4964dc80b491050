import TeleportVM.Threads

/-!
Two tables say where a page is: the kernel's mapping and the status in the page table. What
each critical section of a node does to the two, and when they agree.
-/
namespace TeleportVM

variable {Page : Type}

/-- What a node's tables say about one page. -/
structure Residence (Page : Type) where
  status : PageStatus
  mapping : Mapping Page

namespace Residence

/-- The node treats the page as present. -/
def Present (r : Residence Page) : Prop := r.status = .valid ∨ r.status = .writePending

instance (r : Residence Page) : Decidable r.Present := inferInstanceAs (Decidable (_ ∨ _))

/-- A page that is treated as present is mapped. -/
def Truthful (r : Residence Page) : Prop := r.Present → r.mapping.isMapped = true

/-- A page that is mapped is treated as present. -/
def Complete (r : Residence Page) : Prop := r.mapping.isMapped = true → r.Present

instance (r : Residence Page) : Decidable r.Truthful := inferInstanceAs (Decidable (_ → _))

instance (r : Residence Page) : Decidable r.Complete := inferInstanceAs (Decidable (_ → _))

/-- What a store or a critical section of the engine does to a page. -/
inductive Change : Residence Page → Residence Page → Prop where
  | keep (r : Residence Page) : Change r r
  | write (r : Residence Page) (page : Page) (writable : r.mapping.isWritable = true) :
      Change r ⟨r.status, .readWrite page⟩
  | install (r : Residence Page) (page : Page) : Change r ⟨.valid, .readWrite page⟩
  | lift (r : Residence Page) (present : r.Present) : Change r ⟨.valid, r.mapping.unprotect⟩
  | drop (r : Residence Page) : Change r ⟨.empty, .unmapped⟩
  | protect (r : Residence Page) : Change r ⟨r.status, r.mapping.protect⟩

theorem Change.truthful {r r' : Residence Page} (change : Change r r') (truthful : r.Truthful) :
    r'.Truthful := by
  intro present
  cases change with
  | keep => exact truthful present
  | write => rfl
  | install => rfl
  | lift before => exact (Mapping.isMapped_unprotect _).trans (truthful before)
  | drop => rcases present with absurdity | absurdity <;> cases absurdity
  | protect => exact (Mapping.isMapped_protect _).trans (truthful present)

theorem Change.complete {r r' : Residence Page} (change : Change r r') (complete : r.Complete) :
    r'.Complete := by
  intro mapped
  cases change with
  | keep => exact complete mapped
  | write _ writable => exact complete (Mapping.isMapped_of_isWritable writable)
  | install => exact Or.inl rfl
  | lift => exact Or.inl rfl
  | drop => cases mapped
  | protect => exact complete ((Mapping.isMapped_protect _).symm.trans mapped)

end Residence

namespace Node

def residence (n : Node Page) (idx : Nat) : Residence Page := ⟨n.pageTable idx, n.mapping idx⟩

/-- Every page of the node changes as a critical section of the engine may change it. -/
def Changes (n n' : Node Page) : Prop := ∀ idx, (n.residence idx).Change (n'.residence idx)

theorem Changes.of_eq {n n' : Node Page} (same : n'.residence = n.residence) : n.Changes n' := by
  intro idx
  rw [same]
  exact .keep _

/-- A section that touches one page only. -/
theorem Changes.of_update {n n' : Node Page} {idx : Nat} {r : Residence Page}
    (touched : n'.residence = Function.update n.residence idx r)
    (change : (n.residence idx).Change r) : n.Changes n' := by
  intro other
  rw [touched]
  by_cases own : other = idx
  · subst own
    rw [Function.update_self]
    exact change
  · rw [Function.update_of_ne own]
    exact .keep _

/-- What holds of every page still does when one is changed to a page of which it holds. -/
theorem forall_residence_update {P : Residence Page → Prop} {n n' : Node Page} {idx : Nat}
    {r : Residence Page} (touched : n'.residence = Function.update n.residence idx r)
    (changed : P r) (others : ∀ other, P (n.residence other)) : ∀ other, P (n'.residence other) := by
  rw [touched]
  exact (Function.forall_update_iff n.residence fun _ r => P r).mpr
    ⟨changed, fun other _ => others other⟩

theorem Changes.then_eq {n n' n'' : Node Page} (changes : n.Changes n')
    (same : n''.residence = n'.residence) : n.Changes n'' := by
  intro idx
  rw [same]
  exact changes idx

theorem Changes.after_eq {n n' n'' : Node Page} (same : n'.residence = n.residence)
    (changes : n'.Changes n'') : n.Changes n'' := by
  intro idx
  rw [← same]
  exact changes idx

/-! ### The operations on a page -/

theorem residence_setMapping (n : Node Page) (idx : Nat) (m : Mapping Page) :
    (n.setMapping idx m).residence = Function.update n.residence idx ⟨n.pageTable idx, m⟩ := by
  funext other
  by_cases own : other = idx
  · subst own; simp [residence, setMapping]
  · simp [residence, setMapping, own]

theorem residence_setStatus (n : Node Page) (idx : Nat) (st : PageStatus) :
    (n.setStatus idx st).residence = Function.update n.residence idx ⟨st, n.mapping idx⟩ := by
  funext other
  by_cases own : other = idx
  · subst own; simp [residence, setStatus]
  · simp [residence, setStatus, own]

theorem residence_both (n n' : Node Page) (idx : Nat) (st : PageStatus) (m : Mapping Page)
    (statuses : n'.pageTable = Function.update n.pageTable idx st)
    (mappings : n'.mapping = Function.update n.mapping idx m) :
    n'.residence = Function.update n.residence idx ⟨st, m⟩ := by
  funext other
  by_cases own : other = idx
  · subst own; simp [residence, statuses, mappings]
  · simp [residence, statuses, mappings, own]

theorem changes_installPage (n : Node Page) (idx : Nat) (page : Page) :
    n.Changes (n.installPage idx page) := by
  refine .of_update (residence_both n _ idx .valid (.readWrite page) rfl ?_) (.install _ page)
  simp [installPage, dsmMarkAccessed]

theorem changes_liftWriteProtection (n : Node Page) (idx : Nat) (present : (n.residence idx).Present) :
    n.Changes (n.liftWriteProtection idx) :=
  .of_update (residence_both _ _ _ _ _ rfl rfl) (.lift _ present)

theorem changes_invalidateLocalPageCopy (n : Node Page) (idx : Nat) :
    n.Changes (n.invalidateLocalPageCopy idx) := by
  unfold invalidateLocalPageCopy
  split
  · exact .of_eq rfl
  · exact .of_update (residence_both _ _ _ _ _ rfl rfl) (.drop _)

theorem changes_writeprotectLocalPageCopy (n : Node Page) (idx : Nat) :
    n.Changes (n.writeprotectLocalPageCopy idx) := by
  unfold writeprotectLocalPageCopy
  split
  · exact .of_eq rfl
  · split
    · exact .of_update (residence_setMapping n idx _) (.protect _)
    · exact .of_eq rfl

/-! ### The engine -/

section Engine

variable (n : Node Page)

theorem changes_completePending (packet : DsmPacket Page) : n.Changes (n.completePending packet) := by
  unfold completePending
  dsimp only
  split
  · exact (changes_installPage n _ _).then_eq rfl
  · exact .of_eq rfl

/-- The node drops its copy only for another node's write. -/
theorem changes_ownDroppingLocal (idx writer : Nat) :
    n.Changes (n.ownDroppingLocal idx writer).1 ∧
      (writer = n.localNodeId → (n.ownDroppingLocal idx writer).1.residence = n.residence) := by
  unfold ownDroppingLocal
  dsimp only
  split
  next listed =>
    refine ⟨changes_invalidateLocalPageCopy (n.transitionToModified idx writer).1 idx, ?_⟩
    intro own
    exact absurd own.symm listed.2
  · exact ⟨.of_eq rfl, fun _ => rfl⟩

theorem changes_acceptPage (packet : DsmPacket Page) : n.Changes (n.acceptPage packet) := by
  unfold acceptPage
  dsimp only
  split
  next pending => exact (changes_liftWriteProtection n _ (Or.inr pending)).then_eq rfl
  · exact changes_installPage n _ _
  · exact changes_installPage n _ _
  · exact .of_eq rfl

theorem changes_grantDeferred (idx : Nat) : n.Changes (n.grantDeferred idx) := by
  unfold grantDeferred
  dsimp only
  split
  · split
    next pending => exact (changes_liftWriteProtection n _ (Or.inr pending)).then_eq rfl
    · exact (changes_installPage n _ _).then_eq rfl
  · exact .of_eq rfl

theorem changes_serveReadFromCopy (clientFd : Int) (idx requestingNode : Nat) (page : Page) :
    n.Changes (n.serveReadFromCopy clientFd idx requestingNode page) := by
  unfold serveReadFromCopy
  dsimp only
  split
  · exact (changes_writeprotectLocalPageCopy (n.transitionToShared idx requestingNode).1 idx).then_eq
      rfl
  · exact .of_eq rfl

theorem changes_handleInvalidateAck (packet : DsmPacket Page) :
    n.Changes (n.handleInvalidateAck packet) := by
  unfold handleInvalidateAck
  dsimp only
  split
  · split
    · split
      · exact changes_grantDeferred (n.setPending packet.pageIndex _) packet.pageIndex
      · exact .of_eq rfl
    · exact .of_eq rfl
  · exact .of_eq rfl

variable [Zero Page]

theorem changes_upgradeLocalCopy (idx : Nat) (present : (n.residence idx).Present) :
    n.Changes (n.upgradeLocalCopy idx) := by
  unfold upgradeLocalCopy
  dsimp only
  split
  · exact .of_eq rfl
  · exact (changes_liftWriteProtection (n.transitionToModified idx n.localNodeId).1 idx present)

theorem changes_zeroFillLocal (idx : Nat) (isWrite : Bool) :
    n.Changes (n.zeroFillLocal idx isWrite) := by
  unfold zeroFillLocal
  dsimp only
  split
  · exact (changes_installPage n idx 0).then_eq rfl
  · exact (changes_installPage n idx 0).then_eq rfl

theorem changes_serveQueuedRequest (req : PageRequest) : n.Changes (n.serveQueuedRequest req) := by
  unfold serveQueuedRequest
  dsimp only
  split
  · exact .of_eq rfl
  · split
    next present =>
      split
      · exact changes_upgradeLocalCopy n _ present
      · exact .of_eq rfl
    · split
      · exact .of_eq rfl
      · exact changes_zeroFillLocal n _ _

theorem changes_replyToPendingWrite (packet : DsmPacket Page) :
    n.Changes (n.replyToPendingWrite packet) := by
  obtain ⟨dropped, kept⟩ := changes_ownDroppingLocal n packet.pageIndex
    (n.gpdPendingReqs packet.pageIndex).requesterNodeId
  have slot : (n.ownDroppingLocal packet.pageIndex
      (n.gpdPendingReqs packet.pageIndex).requesterNodeId).1.gpdPendingReqs = n.gpdPendingReqs := by
    unfold ownDroppingLocal; dsimp only; split <;> rfl
  have node : (n.ownDroppingLocal packet.pageIndex
      (n.gpdPendingReqs packet.pageIndex).requesterNodeId).1.localNodeId = n.localNodeId := by
    unfold ownDroppingLocal; dsimp only; split <;> rfl
  unfold replyToPendingWrite
  dsimp only
  split
  · exact dropped.then_eq rfl
  · -- the page is installed here only if this node asked for it, and then it was not dropped
    by_cases own : (n.gpdPendingReqs packet.pageIndex).requesterNodeId = n.localNodeId
    · exact .after_eq (kept own) (changes_completePending _ packet)
    · refine dropped.then_eq ?_
      simp only [completePending, slot, node, if_neg own]
      rfl

theorem changes_handleSendPage (packet : DsmPacket Page) : n.Changes (n.handleSendPage packet) := by
  unfold handleSendPage
  dsimp only
  split
  · split
    · split
      · exact changes_replyToPendingWrite n packet
      · exact changes_completePending (n.transitionToShared packet.pageIndex _).1 packet
    · exact changes_acceptPage n packet
  · exact .of_eq rfl

theorem changes_handleInvalidate (clientFd : Int) (packet : DsmPacket Page) :
    n.Changes (n.handleInvalidate clientFd packet) := by
  have dropped : n.Changes ((n.setMapping packet.pageIndex .unmapped).setStatus packet.pageIndex .empty) :=
    .of_update (residence_both _ _ _ _ _ rfl rfl) (.drop _)
  unfold handleInvalidate
  dsimp only
  split
  · split
    · exact dropped.then_eq rfl
    · exact dropped.then_eq rfl
  · exact .of_eq rfl

theorem residence_deferOrSend (clientFd : Int) (requestingNode : Nat) (mask : BitVec 64)
    (response : DsmPacket Page) :
    (n.deferOrSend clientFd requestingNode mask response).residence = n.residence := by
  unfold deferOrSend
  dsimp only
  split <;> rfl

theorem changes_serveWriteFromCopy (clientFd : Int) (idx requestingNode : Nat) (page : Page) :
    n.Changes (n.serveWriteFromCopy clientFd idx requestingNode page) :=
  (changes_invalidateLocalPageCopy (n.transitionToModified idx requestingNode).1 idx).then_eq
    (residence_deferOrSend _ _ _ _ _)

theorem changes_serveZeroPage (clientFd : Int) (idx requestingNode : Nat) (isWrite : Bool) :
    n.Changes (n.serveZeroPage clientFd idx requestingNode isWrite) := by
  unfold serveZeroPage
  dsimp only
  split
  · exact (changes_ownDroppingLocal n idx requestingNode).1.then_eq (residence_deferOrSend _ _ _ _ _)
  · exact .of_eq rfl

theorem changes_perform (task : EngineTask Page) : n.Changes (n.perform task) := by
  cases task with
  | zeroFill idx isWrite => exact changes_zeroFillLocal n idx isWrite
  | answerFromCopy clientFd idx requestingNode isWrite page =>
    unfold perform
    dsimp only
    split
    · exact changes_serveWriteFromCopy n clientFd idx requestingNode page
    · exact changes_serveReadFromCopy n clientFd idx requestingNode page
  | answerWithZeros clientFd idx requestingNode isWrite =>
    exact changes_serveZeroPage n clientFd idx requestingNode isWrite

theorem changes_beginQueuedRequest (req : PageRequest) :
    n.Changes (n.beginQueuedRequest req).1 := by
  unfold beginQueuedRequest
  split
  · exact .of_eq rfl
  · exact changes_serveQueuedRequest n req

theorem residence_takesRequest {clientFd : Int} {packet : DsmPacket Page}
    {begun : Node Page × Option (EngineTask Page)} (takes : n.TakesRequest clientFd packet begun) :
    begun.1.residence = n.residence := by
  cases takes with
  | outside | fromCopy | fetch | withZeros => rfl

theorem changes_takesPacket {clientFd : Int} {packet : DsmPacket Page}
    {begun : Node Page × Option (EngineTask Page)} (takes : n.TakesPacket clientFd packet begun) :
    n.Changes begun.1 := by
  cases takes with
  | request begun _ takes => exact .of_eq (residence_takesRequest n takes)
  | page => exact changes_handleSendPage n packet
  | invalidate => exact changes_handleInvalidate n clientFd packet
  | ack => exact changes_handleInvalidateAck n packet
  | join | other => exact .of_eq rfl

end Engine

/-! ### The fault handler -/

def QueueFull (n : Node Page) : Prop := n.sharedReqQueue.length = queueCapacity

instance (n : Node Page) : Decidable n.QueueFull := inferInstanceAs (Decidable (_ = _))

theorem queuePush_full {n : Node Page} (full : n.QueueFull) (req : PageRequest) :
    n.queuePush req = none := if_pos full

theorem queuePush_room {n : Node Page} (room : ¬ n.QueueFull) (req : PageRequest) :
    n.queuePush req = some { n with sharedReqQueue := n.sharedReqQueue ++ [req] } := if_neg room

end Node

/-- What the fault handler makes of a page. -/
def Residence.faulted (r : Residence Page) (isWrite : Bool) (full : Prop) [Decidable full] :
    Residence Page :=
  if r.status = .valid ∧ isWrite = false then r
  else ⟨if full then .empty else Node.faultStatus r.status isWrite, r.mapping⟩

namespace Residence

variable {r : Residence Page} {isWrite : Bool} {full : Prop} [Decidable full]

theorem truthful_faulted (truthful : r.Truthful) : (r.faulted isWrite full).Truthful := by
  unfold faulted
  split
  · exact truthful
  · intro present
    apply truthful
    -- the handler makes a page `PAGE_WRITE_PENDING` only when it was `PAGE_VALID`
    unfold Present Node.faultStatus at present
    split at present
    · rcases present with absurdity | absurdity <;> cases absurdity
    · split at present
      next valid => exact Or.inl valid.1
      · rcases present with absurdity | absurdity <;> cases absurdity

/-- A fault makes a mapped page absent exactly if an upgrade is already in flight, or if it
is one itself and finds the queue full. -/
theorem complete_faulted_iff (complete : r.Complete) : (r.faulted isWrite full).Complete ↔
    ¬ (r.mapping.isMapped = true ∧
      (r.status = .writePending ∨ (r.status = .valid ∧ isWrite = true ∧ full))) := by
  unfold faulted
  split
  -- a read of a valid page changes nothing
  next read =>
    refine ⟨fun _ forgets => ?_, fun _ => complete⟩
    rcases forgets.2 with pending | ⟨-, write, -⟩
    · rw [read.1] at pending; cases pending
    · rw [read.2] at write; cases write
  next marks =>
    simp only [Complete, Present, Node.faultStatus] at complete ⊢
    by_cases mapped : r.mapping.isMapped = true
    · rcases complete mapped with valid | pending
      · have write : isWrite = true := by
          cases isWrite with
          | true => rfl
          | false => exact absurd ⟨valid, rfl⟩ marks
        by_cases filled : full <;> simp [mapped, valid, write, filled]
      · -- a second fault on a page whose upgrade is in flight
        by_cases filled : full <;> simp [mapped, pending, filled]
    · simp [mapped]

end Residence

namespace Node

theorem residence_handleFault (n : Node Page) (fault : PageRequest) :
    (n.handleFault fault).residence = Function.update n.residence fault.pageIndex
      ((n.residence fault.pageIndex).faulted fault.isWrite n.QueueFull) := by
  unfold handleFault Residence.faulted
  by_cases read : n.pageTable fault.pageIndex = .valid ∧ fault.isWrite = false
  · rw [if_pos read, if_pos (show (n.residence _).status = .valid ∧ fault.isWrite = false from read)]
    exact (Function.update_eq_self fault.pageIndex n.residence).symm
  · rw [if_neg read,
      if_neg (show ¬ ((n.residence _).status = .valid ∧ fault.isWrite = false) from read)]
    dsimp only
    by_cases full : n.QueueFull
    · rw [queuePush_full (show (n.setStatus _ _).QueueFull from full), if_pos full]
      exact residence_both _ _ _ _ _ (Function.update_idem _ _ _)
        (Function.update_eq_self _ n.mapping).symm
    · rw [queuePush_room (show ¬ (n.setStatus _ _).QueueFull from full), if_neg full]
      exact residence_setStatus n _ _

/-! ### The eviction thread -/

/-- The page at which the sweep of the clock stops, if it finds one. -/
def sweepVictim (count : Nat) : (Nat → LocalPageTracker) → Nat → Nat → Option Nat
  | _, _, 0 => none
  | ring, hand, iterations + 1 =>
    let victim := ring hand
    if victim.accessBit = 1 then
      -- second chance
      sweepVictim count (Function.update ring hand { victim with accessBit := 0 })
        ((hand + 1) % count) iterations
    else if victim.status = 0 then sweepVictim count ring ((hand + 1) % count) iterations
    else some victim.pageIndex

/-- The next victim of this node's clock. -/
def clockVictim (n : Node Page) : Option Nat :=
  sweepVictim n.numPages n.evictionRing n.clockHand (n.numPages * 2)

theorem residence_writeback {n n' : Node Page} {fd : Int} {idx : Nat}
    (written : n.writeback fd idx = some n') :
    n'.residence = n.residence ∧ n'.evictionRing = n.evictionRing := by
  unfold writeback at written
  split at written
  · obtain ⟨page, -, rfl⟩ := Option.map_eq_some_iff.mp written
    exact ⟨rfl, rfl⟩
  · cases written
    exact ⟨rfl, rfl⟩

theorem residence_evictionSweep {n : Node Page} {fd : Int} {iterations : Nat}
    {result : Node Page × Option Nat} (swept : n.evictionSweep fd iterations = some result) :
    result.2 = sweepVictim n.numPages n.evictionRing n.clockHand iterations ∧
      result.1.residence = result.2.elim n.residence fun idx =>
        Function.update n.residence idx ⟨n.pageTable idx, .unmapped⟩ := by
  -- induction on the iterations left; the cells passed over do not matter for the pages
  induction iterations generalizing n with
  | zero =>
    cases swept
    exact ⟨rfl, rfl⟩
  | succ iterations ih =>
    simp only [evictionSweep] at swept
    simp only [sweepVictim]
    split at swept
    next accessed =>
      rw [if_pos accessed]
      exact ih swept
    next untouched =>
      rw [if_neg untouched]
      split at swept
      next gone =>
        rw [if_pos gone]
        exact ih swept
      next tracked =>
        rw [if_neg tracked]
        obtain ⟨written, back, rfl⟩ := Option.map_eq_some_iff.mp swept
        -- dropping the victim unmaps it and leaves its status
        obtain ⟨kept, ring⟩ := residence_writeback back
        refine ⟨rfl, ?_⟩
        have dropped : (written.dropVictim n.clockHand).residence =
            (written.setMapping (written.evictionRing n.clockHand).pageIndex .unmapped).residence := rfl
        have status := congrArg Residence.status
          (congrFun kept (n.evictionRing n.clockHand).pageIndex)
        simp only [residence] at status
        simp only [dropped, residence_setMapping, ring, kept, status]
        rfl

theorem residence_dsmExecuteEviction {n : Node Page} {fd : Int} {result : Node Page × Option Nat}
    (swept : n.dsmExecuteEviction fd = some result) :
    result.1.residence = n.clockVictim.elim n.residence fun idx =>
      Function.update n.residence idx ⟨n.pageTable idx, .unmapped⟩ := by
  obtain ⟨victim, after⟩ := residence_evictionSweep swept
  rw [after, victim]
  rfl

end Node

/-! ### Steps of a node -/

namespace NodeThreads

variable [Zero Page] {t t' : NodeThreads Page}

theorem step_fault (next : t.step .fault = some t') :
    ∃ fault ∈ t.node.uffdMessages.head?, t'.node.residence =
      Function.update t.node.residence fault.pageIndex
        ((t.node.residence fault.pageIndex).faulted fault.isWrite t.node.QueueFull) := by
  cases turn_of_step next with
  | fault fault rest waiting =>
    exact ⟨fault, by simp [waiting], Node.residence_handleFault { t.resume with uffdMessages := rest } fault⟩

theorem step_evict {fd : Int} (next : t.step (.evict fd) = some t') :
    t'.node.residence = t.node.clockVictim.elim t.node.residence fun idx =>
      Function.update t.node.residence idx ⟨t.node.pageTable idx, .unmapped⟩ := by
  obtain ⟨result, swept, rfl⟩ := Option.map_eq_some_iff.mp next
  exact Node.residence_dsmExecuteEviction (n := t.resume) swept

/-- Everything but faults and evictions. -/
theorem step_changes {e : NodeEvent Page} (next : t.step e = some t') (notFault : e ≠ .fault)
    (notEvict : ∀ fd, e ≠ .evict fd) : t.node.Changes t'.node := by
  cases turn_of_step next with
  | load | loadFault | storeFault | closed => exact .of_eq rfl
  | store idx contents _ writable =>
    exact .of_update (Node.residence_setMapping t.resume idx _) (.write _ contents writable)
  | fault => exact absurd rfl notFault
  | drain req rest => exact Node.changes_beginQueuedRequest { t.resume with sharedReqQueue := rest } req
  | receive _ _ _ _ takes => exact Node.changes_takesPacket t.resume takes
  | finish task => exact Node.changes_perform t.resume task
  | evict fd => exact absurd rfl (notEvict fd)

/-! ### Status implies mapping -/

/-- Every page that the node treats as present is mapped. -/
def Truthful (t : NodeThreads Page) : Prop := ∀ idx, (t.node.residence idx).Truthful

/-- The eviction thread is about to drop a page that is `PAGE_VALID` or `PAGE_WRITE_PENDING`. -/
def DropsPresent (t : NodeThreads Page) : NodeEvent Page → Prop
  | .evict _ => ∃ idx ∈ t.node.clockVictim, (t.node.residence idx).Present
  | _ => False

theorem truthful_step_iff {e : NodeEvent Page} (truthful : t.Truthful) (next : t.step e = some t') :
    t'.Truthful ↔ ¬ t.DropsPresent e := by
  cases e with
  | evict fd =>
    have after := step_evict next
    cases victim : t.node.clockVictim with
    | none =>
      rw [victim] at after
      have same : t'.node.residence = t.node.residence := after
      simp [Truthful, DropsPresent, victim, same, truthful _]
    | some dropped =>
      rw [victim] at after
      constructor
      · -- the dropped page keeps its status, so it must not have been present
        rintro holds ⟨idx, found, present⟩
        cases victim.symm.trans found
        have unmapped := holds dropped
        rw [after] at unmapped
        rw [Option.elim_some, Function.update_self] at unmapped
        cases unmapped present
      · intro spares
        refine Node.forall_residence_update after (fun present => ?_) truthful
        exact absurd ⟨dropped, victim, present⟩ spares
  | fault =>
    obtain ⟨fault, -, after⟩ := step_fault next
    exact iff_of_true (Node.forall_residence_update after
      (Residence.truthful_faulted (truthful _)) truthful) not_false
  | load | store | drain | receive | finish | closed =>
    refine iff_of_true (fun idx => ?_) not_false
    exact (step_changes next nofun nofun idx).truthful (truthful idx)

theorem start_truthful (id : Nat) (coordinatorFd : Int) (numPages : Nat) :
    (start id coordinatorFd numPages : NodeThreads Page).Truthful := by
  intro idx present
  rcases present with absurdity | absurdity <;> cases absurdity

end NodeThreads

/-- In a run of a node every page that is `PAGE_VALID` or `PAGE_WRITE_PENDING` is always mapped,
exactly if the eviction thread never drops a page of such a status. -/
theorem status_implies_mapping_iff [Zero Page] (id : Nat) (coordinatorFd : Int) (numPages : Nat)
    (events : List (NodeEvent Page)) :
    Runs.EveryStep NodeThreads.step (fun _ _ t => t.Truthful) (.start id coordinatorFd numPages)
        events ↔
      Runs.EveryStep NodeThreads.step (fun t e _ => ¬ t.DropsPresent e)
        (.start id coordinatorFd numPages) events := by
  apply Runs.everyStep_iff_while NodeThreads.Truthful
  · intro t e t' truthful next
    exact NodeThreads.truthful_step_iff truthful next
  · intro t e t' truthful spares next
    exact (NodeThreads.truthful_step_iff truthful next).mpr spares
  · exact NodeThreads.start_truthful id coordinatorFd numPages

/-- Worker 2 writes page 0 and is sent the page. The first sweep of its clock clears the access
bit of the page, and the fourth drops it. -/
def fetchThenEvict : List (NodeEvent PageBytes) :=
  [.store 0 (fun _ => 7), .fault, .drain, .receive 7 ⟨.sendPage, 0, 1, 0⟩, .evict 7, .evict 7,
    .evict 7, .evict 7]

theorem evicted_page_stays_valid : ¬ ∀ t : NodeThreads PageBytes,
    Runs.Run NodeThreads.step (fun _ _ => True) (.start 2 7 4) t → t.Truthful := by
  intro claim
  obtain ⟨t, run, untruthful⟩ := Runs.exists_run NodeThreads.step (fun _ _ => True)
    (.start 2 7 4) fetchThenEvict (fun t => ¬ (t.node.residence 0).Truthful) (by decide +kernel)
  exact untruthful (claim t run 0)

/-! ### Mapping implies status -/

namespace NodeThreads

variable [Zero Page] {t t' : NodeThreads Page}

/-- Every page that is mapped is treated as present. -/
def Complete (t : NodeThreads Page) : Prop := ∀ idx, (t.node.residence idx).Complete

/-- The fault handler is about to take a fault on a mapped page whose upgrade is in flight, or
a write fault on a mapped `PAGE_VALID` page while the queue is full. -/
def ForgetsMapped (t : NodeThreads Page) : NodeEvent Page → Prop
  | .fault => ∃ fault ∈ t.node.uffdMessages.head?,
      (t.node.mapping fault.pageIndex).isMapped = true ∧
        (t.node.pageTable fault.pageIndex = .writePending ∨
          (t.node.pageTable fault.pageIndex = .valid ∧ fault.isWrite = true ∧ t.node.QueueFull))
  | _ => False

theorem complete_step_iff {e : NodeEvent Page} (complete : t.Complete) (next : t.step e = some t') :
    t'.Complete ↔ ¬ t.ForgetsMapped e := by
  cases e with
  | fault =>
    obtain ⟨fault, head, after⟩ := step_fault next
    have faulted : ((t.node.residence fault.pageIndex).faulted fault.isWrite
        t.node.QueueFull).Complete ↔ _ := Residence.complete_faulted_iff (complete fault.pageIndex)
    constructor
    · rintro holds ⟨same, found, forgets⟩
      cases head.symm.trans found
      have kept := holds fault.pageIndex
      rw [after, Function.update_self] at kept
      exact faulted.mp kept forgets
    · intro remembers
      refine Node.forall_residence_update after (faulted.mpr fun forgets => ?_) complete
      exact remembers ⟨fault, head, forgets⟩
  | evict fd =>
    refine iff_of_true ?_ not_false
    have after := step_evict next
    cases victim : t.node.clockVictim with
    | none =>
      rw [victim] at after
      have same : t'.node.residence = t.node.residence := after
      exact fun idx => same ▸ complete idx
    | some dropped =>
      -- the victim is not mapped any more, so nothing is said of its status
      rw [victim] at after
      exact Node.forall_residence_update after (fun mapped => absurd mapped Bool.false_ne_true)
        complete
  | load | store | drain | receive | finish | closed =>
    refine iff_of_true (fun idx => ?_) not_false
    exact (step_changes next nofun nofun idx).complete (complete idx)

theorem start_complete (id : Nat) (coordinatorFd : Int) (numPages : Nat) :
    (start id coordinatorFd numPages : NodeThreads Page).Complete :=
  fun _ mapped => absurd mapped Bool.false_ne_true

end NodeThreads

/-- In a run of a node every mapped page is always `PAGE_VALID` or `PAGE_WRITE_PENDING`, exactly
if the fault handler never takes a fault on a mapped page whose upgrade is in flight, nor a
write fault on a mapped `PAGE_VALID` page while the queue is full. -/
theorem mapping_implies_status_iff [Zero Page] (id : Nat) (coordinatorFd : Int) (numPages : Nat)
    (events : List (NodeEvent Page)) :
    Runs.EveryStep NodeThreads.step (fun _ _ t => t.Complete) (.start id coordinatorFd numPages)
        events ↔
      Runs.EveryStep NodeThreads.step (fun t e _ => ¬ t.ForgetsMapped e)
        (.start id coordinatorFd numPages) events := by
  apply Runs.everyStep_iff_while NodeThreads.Complete
  · intro t e t' complete next
    exact NodeThreads.complete_step_iff complete next
  · intro t e t' complete remembers next
    exact (NodeThreads.complete_step_iff complete next).mpr remembers
  · exact NodeThreads.start_complete id coordinatorFd numPages

/-- The coordinator owns page 0 and serves a read of it, which write-protects the page. Two of
its own threads then fault on a store to the page. -/
def twoUpgrades : List (NodeEvent PageBytes) :=
  [.store 0 (fun _ => 7), .fault, .drain, .finish, .receive 12 ⟨.requestPageRead, 0, 2, 0⟩, .finish,
    .store 0 (fun _ => 8), .store 0 (fun _ => 9), .fault, .fault]

theorem mapped_page_pending : ¬ ∀ t : NodeThreads PageBytes,
    Runs.Run NodeThreads.step (fun _ _ => True) (.start 1 (-1) 4) t → t.Complete := by
  intro claim
  obtain ⟨t, run, incomplete⟩ := Runs.exists_run NodeThreads.step (fun _ _ => True)
    (.start 1 (-1) 4) twoUpgrades (fun t => ¬ (t.node.residence 0).Complete) (by decide +kernel)
  exact incomplete (claim t run 0)

end TeleportVM
