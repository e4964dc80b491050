import TeleportVM.WriteGrant
import TeleportVM.DirectoryRefinement

/-!
The engine takes a node from the header of a packet and uses it as a shift and as an index, here
and in later handlers. The accesses of each critical section, and the directory transition on
which alone it depends whether they are in range.
-/
namespace TeleportVM

variable {Page : Type}

/-- An evaluation of `1ULL << node`, or an access to an element of a table. -/
inductive Access where
  | shift (node : Nat)
  | nodeFds (node : Nat)
  | pageTable (idx : Nat)
  | pending (idx : Nat)
  | directory (idx : Nat)
  deriving DecidableEq, Repr

def Access.InBounds (numPages : Nat) : Access → Prop
  | .shift node | .nodeFds node => node < 64
  | .pageTable idx | .pending idx | .directory idx => idx < numPages

instance (numPages : Nat) : (a : Access) → Decidable (a.InBounds numPages)
  | .shift _ | .nodeFds _ => inferInstanceAs (Decidable (_ < _))
  | .pageTable _ | .pending _ | .directory _ => inferInstanceAs (Decidable (_ < _))

def InBounds (numPages : Nat) (accesses : List Access) : Prop :=
  ∀ a ∈ accesses, a.InBounds numPages

instance (numPages : Nat) (accesses : List Access) : Decidable (InBounds numPages accesses) :=
  inferInstanceAs (Decidable (∀ a ∈ accesses, _))

section InBounds

variable (numPages : Nat)

@[simp] theorem inBounds_nil : InBounds numPages [] := nofun

@[simp] theorem inBounds_cons (a : Access) (accesses : List Access) :
    InBounds numPages (a :: accesses) ↔ a.InBounds numPages ∧ InBounds numPages accesses :=
  List.forall_mem_cons

@[simp] theorem inBounds_append (first second : List Access) :
    InBounds numPages (first ++ second) ↔ InBounds numPages first ∧ InBounds numPages second :=
  List.forall_mem_append

end InBounds

namespace GpdCall

def pageIndex : GpdCall → Nat
  | .toShared p _ => p
  | .toModified p _ => p

/-- The transition that a request of this kind makes. -/
def request (idx node : Nat) (isWrite : Bool) : GpdCall :=
  if isWrite then .toModified idx node else .toShared idx node

@[simp] theorem request_node (idx node : Nat) (isWrite : Bool) :
    (request idx node isWrite).node = node := by cases isWrite <;> rfl

@[simp] theorem request_pageIndex (idx node : Nat) (isWrite : Bool) :
    (request idx node isWrite).pageIndex = idx := by cases isWrite <;> rfl

end GpdCall

/-! ### The accesses of each handler -/

/-- `gpd_transition_to_shared` and `gpd_transition_to_modified`. -/
def Directory.callAccesses (d : Directory) : GpdCall → List Access
  | .toShared p r =>
    if d.numPages ≤ p then []
    else
      .directory p ::
        ((if (d.entry p).state = .modified then [.shift (d.entry p).ownerNodeId] else []) ++ [.shift r])
  | .toModified p w =>
    if d.numPages ≤ p then []
    else
      .directory p ::
        ((if (d.entry p).state = .modified ∧ (d.entry p).ownerNodeId ≠ 0 then
          [.shift (d.entry p).ownerNodeId] else []) ++ [.shift w])

/-- A loop over the 64 bits of a mask and the descriptors of the nodes in it. -/
def maskAccesses (mask : BitVec 64) : List Access :=
  (List.range 64).flatMap fun m => .shift m :: if mask.getLsbD m then [.nodeFds m] else []

namespace Node

variable (n : Node Page)

/-- `invalidate_local_page_copy` and `writeprotect_local_page_copy`. -/
def localCopyAccesses (idx : Nat) : List Access :=
  if n.numPages ≤ idx then [] else [.pageTable idx]

/-- `old_owner != 0 && old_owner < 64 && node_fds[old_owner] != -1`. -/
def canFetchAccesses (idx : Nat) : List Access :=
  if gpdGetOwner n.directory idx ≠ 0 ∧ gpdGetOwner n.directory idx < 64 then
    [.nodeFds (gpdGetOwner n.directory idx)]
  else []

/-- The counting loop and, if it counted anything, the slot and the sending loop. -/
def invalidationAccesses (idx : Nat) (mask : BitVec 64) (targets : List Nat)
    (otherwise : List Access) : List Access :=
  maskAccesses mask ++ if 0 < targets.length then .pending idx :: maskAccesses mask else otherwise

def upgradeLocalCopyAccesses (idx : Nat) : List Access :=
  let owned := n.transitionToModified idx n.localNodeId
  n.directory.callAccesses (.toModified idx n.localNodeId) ++
    invalidationAccesses idx owned.2 (owned.1.connectedIn owned.2) [.pageTable idx]

def fetchFromOwnerAccesses (idx oldOwner : Nat) : List Access := [.pending idx, .nodeFds oldOwner]

def zeroFillLocalAccesses (idx : Nat) (isWrite : Bool) : List Access :=
  .pageTable idx :: n.directory.callAccesses (.request idx n.localNodeId isWrite)

/-- One request from the queue, up to the end of its first critical section. -/
def beginQueuedRequestAccesses (req : PageRequest) : List Access :=
  let idx := req.pageIndex
  if n.coordinatorFd ≠ -1 then []
  else
    [.directory idx, .pageTable idx] ++
      if n.pageTable idx = .valid ∨ n.pageTable idx = .writePending then
        if req.isWrite then n.upgradeLocalCopyAccesses idx else []
      else
        n.canFetchAccesses idx ++
          if n.CanFetch idx then fetchFromOwnerAccesses idx (gpdGetOwner n.directory idx) else []

def registerSenderAccesses (node : Nat) : List Access := if node < 64 then [.nodeFds node] else []

def completePendingAccesses (idx : Nat) : List Access :=
  (if (n.gpdPendingReqs idx).requesterNodeId = n.localNodeId then [.pageTable idx] else []) ++
    [.pending idx]

def ownDroppingLocalAccesses (idx writer : Nat) : List Access :=
  let owned := n.transitionToModified idx writer
  n.directory.callAccesses (.toModified idx writer) ++ .shift n.localNodeId ::
    if owned.2.getLsbD n.localNodeId ∧ n.localNodeId ≠ writer then
      n.localCopyAccesses idx ++ [.shift n.localNodeId]
    else []

def replyToPendingWriteAccesses (idx : Nat) : List Access :=
  let reqNode := (n.gpdPendingReqs idx).requesterNodeId
  let owned := n.ownDroppingLocal idx reqNode
  n.ownDroppingLocalAccesses idx reqNode ++
    invalidationAccesses idx owned.2 ((owned.1.connectedIn owned.2).filter (· ≠ reqNode))
      (n.completePendingAccesses idx)

def handleSendPageAccesses (packet : DsmPacket Page) : List Access :=
  let idx := packet.pageIndex
  if idx < n.numPages then
    if n.coordinatorFd = -1 then
      let slot := n.gpdPendingReqs idx
      .pending idx ::
        if slot.requesterNodeId ≠ 0 then
          if slot.type = .requestPageWrite then n.replyToPendingWriteAccesses idx
          else
            n.directory.callAccesses (.toShared idx slot.requesterNodeId) ++
              n.completePendingAccesses idx
        else [.pageTable idx]
    else [.pageTable idx]
  else []

def handleInvalidateAccesses (packet : DsmPacket Page) : List Access :=
  if packet.pageIndex < n.numPages then [.pageTable packet.pageIndex] else []

def handleInvalidateAckAccesses (packet : DsmPacket Page) : List Access :=
  let idx := packet.pageIndex
  if idx < n.numPages then
    .pending idx ::
      if 0 < (n.gpdPendingReqs idx).expectedAcks ∧ (n.gpdPendingReqs idx).expectedAcks - 1 = 0 then
        n.completePendingAccesses idx
      else []
  else []

/-- A page request up to the end of its first critical section. -/
def beginPageRequestAccesses (clientFd : Int) (packet : DsmPacket Page) : List Access :=
  let idx := packet.pageIndex
  if idx < n.numPages then
    let requestingNode := packet.senderNodeId
    let registered := n.registerSender clientFd requestingNode
    registerSenderAccesses requestingNode ++ [.directory idx, .pageTable idx] ++
      if n.pageTable idx = .valid then [.pageTable idx]
      else
        registered.canFetchAccesses idx ++
          if registered.CanFetch idx ∧ gpdGetOwner n.directory idx ≠ requestingNode then
            fetchFromOwnerAccesses idx (gpdGetOwner n.directory idx)
          else []
  else []

def beginPacketAccesses (clientFd : Int) (packet : DsmPacket Page) : List Access :=
  match packet.type with
  | .nodeJoin => registerSenderAccesses packet.senderNodeId
  | .sendPage => n.handleSendPageAccesses packet
  | .invalidate => n.handleInvalidateAccesses packet
  | .invalidateAck => n.handleInvalidateAckAccesses packet
  | .requestPageRead | .requestPageWrite => n.beginPageRequestAccesses clientFd packet
  | .other _ => []

/-- A remote write is deferred behind its invalidations, or answered. -/
def deferOrSendAccesses (idx requestingNode : Nat) (mask : BitVec 64) : List Access :=
  invalidationAccesses idx mask ((n.connectedIn mask).filter (· ≠ requestingNode)) []

/-- The rest of a handler. -/
def performAccesses : EngineTask Page → List Access
  | .zeroFill idx isWrite => n.zeroFillLocalAccesses idx isWrite
  | .answerFromCopy _ idx requestingNode isWrite _ =>
    if isWrite then
      let owned := n.transitionToModified idx requestingNode
      n.directory.callAccesses (.toModified idx requestingNode) ++ n.localCopyAccesses idx ++
        .shift n.localNodeId ::
          owned.1.deferOrSendAccesses idx requestingNode (owned.2 &&& ~~~nodeBit n.localNodeId)
    else
      n.directory.callAccesses (.toShared idx requestingNode) ++
        if (n.transitionToShared idx requestingNode).2 = n.localNodeId then n.localCopyAccesses idx
        else []
  | .answerWithZeros _ idx requestingNode isWrite =>
    if isWrite then
      let owned := n.ownDroppingLocal idx requestingNode
      n.ownDroppingLocalAccesses idx requestingNode ++
        owned.1.deferOrSendAccesses idx requestingNode owned.2
    else n.directory.callAccesses (.toShared idx requestingNode)

/-- Both close paths look through all of `node_fds`. -/
def closeConnectionAccesses : List Access := (List.range 64).map .nodeFds

end Node

/-! ### The transition of each handler -/

namespace Node

variable (n : Node Page)

def sendPageCall (packet : DsmPacket Page) : Option GpdCall :=
  let slot := n.gpdPendingReqs packet.pageIndex
  if packet.pageIndex < n.numPages ∧ n.coordinatorFd = -1 ∧ slot.requesterNodeId ≠ 0 then
    some (.request packet.pageIndex slot.requesterNodeId (slot.type = .requestPageWrite))
  else none

def packetCall (packet : DsmPacket Page) : Option GpdCall :=
  if packet.type = .sendPage then n.sendPageCall packet else none

def queuedCall (req : PageRequest) : Option GpdCall :=
  if n.coordinatorFd = -1 ∧ (n.pageTable req.pageIndex = .valid ∨
      n.pageTable req.pageIndex = .writePending) ∧ req.isWrite = true then
    some (.toModified req.pageIndex n.localNodeId)
  else none

end Node

def EngineTask.gpdCall (localNodeId : Nat) : EngineTask Page → GpdCall
  | .zeroFill idx isWrite => .request idx localNodeId isWrite
  | .answerFromCopy _ idx requestingNode isWrite _ => .request idx requestingNode isWrite
  | .answerWithZeros _ idx requestingNode isWrite => .request idx requestingNode isWrite

@[simp] theorem EngineTask.gpdCall_pageIndex (task : EngineTask Page) (localNodeId : Nat) :
    (task.gpdCall localNodeId).pageIndex = task.pageIndex := by
  cases task <;> exact GpdCall.request_pageIndex _ _ _

/-! ### What else a handler touches -/

theorem inBounds_mask (numPages : Nat) (mask : BitVec 64) : InBounds numPages (maskAccesses mask) := by
  intro a member
  obtain ⟨m, small, access⟩ := List.mem_flatMap.mp member
  have range := List.mem_range.mp small
  rcases List.mem_cons.mp access with rfl | read
  · exact range
  · split at read
    · cases List.mem_singleton.mp read
      exact range
    · cases read

theorem inBounds_invalidation {numPages idx : Nat} (inside : idx < numPages) (mask : BitVec 64)
    (targets : List Nat) {otherwise : List Access} (rest : InBounds numPages otherwise) :
    InBounds numPages (Node.invalidationAccesses idx mask targets otherwise) := by
  unfold Node.invalidationAccesses
  rw [inBounds_append]
  refine ⟨inBounds_mask numPages mask, ?_⟩
  split
  · exact (inBounds_cons _ _ _).mpr ⟨inside, inBounds_mask numPages mask⟩
  · exact rest

theorem inBounds_registerSender (numPages node : Nat) :
    InBounds numPages (Node.registerSenderAccesses node) := by
  unfold Node.registerSenderAccesses
  split
  next small => simpa [Access.InBounds] using small
  · exact inBounds_nil numPages

theorem inBounds_closeConnection (numPages : Nat) :
    InBounds numPages Node.closeConnectionAccesses := by
  intro a member
  obtain ⟨m, small, rfl⟩ := List.mem_map.mp member
  exact List.mem_range.mp small

namespace Node

variable {n : Node Page} {idx : Nat}

theorem inBounds_localCopy (n : Node Page) (idx : Nat) :
    InBounds n.numPages (n.localCopyAccesses idx) := by
  unfold localCopyAccesses
  split
  · exact inBounds_nil _
  next inside => simpa [Access.InBounds] using inside

theorem inBounds_canFetch (n : Node Page) (numPages idx : Nat) :
    InBounds numPages (n.canFetchAccesses idx) := by
  unfold canFetchAccesses
  split
  next owner => simpa [Access.InBounds] using owner.2
  · exact inBounds_nil _

/-- An owner that can be asked for the page is below 64. -/
theorem inBounds_fetchFromOwner {numPages owner : Nat} (inside : idx < numPages) (small : owner < 64) :
    InBounds numPages (fetchFromOwnerAccesses idx owner) := by
  simpa [fetchFromOwnerAccesses, Access.InBounds] using ⟨inside, small⟩

theorem inBounds_completePending (inside : idx < n.numPages) :
    InBounds n.numPages (n.completePendingAccesses idx) := by
  unfold completePendingAccesses
  split <;> simpa [Access.InBounds] using inside

theorem inBounds_handleInvalidate (n : Node Page) (packet : DsmPacket Page) :
    InBounds n.numPages (n.handleInvalidateAccesses packet) := by
  unfold handleInvalidateAccesses
  split
  next inside => simpa [Access.InBounds] using inside
  · exact inBounds_nil _

theorem inBounds_handleInvalidateAck (n : Node Page) (packet : DsmPacket Page) :
    InBounds n.numPages (n.handleInvalidateAckAccesses packet) := by
  unfold handleInvalidateAckAccesses
  dsimp only
  split
  next inside =>
    refine (inBounds_cons _ _ _).mpr ⟨inside, ?_⟩
    split
    · exact inBounds_completePending inside
    · exact inBounds_nil _
  · exact inBounds_nil _

variable (inside : idx < n.numPages)
include inside

theorem inBounds_upgradeLocalCopy : InBounds n.numPages (n.upgradeLocalCopyAccesses idx) ↔
    InBounds n.numPages (n.directory.callAccesses (.toModified idx n.localNodeId)) := by
  unfold upgradeLocalCopyAccesses
  rw [inBounds_append, and_iff_left (inBounds_invalidation inside _ _ (by simpa [Access.InBounds]))]

theorem inBounds_zeroFillLocal (isWrite : Bool) :
    InBounds n.numPages (n.zeroFillLocalAccesses idx isWrite) ↔
      InBounds n.numPages (n.directory.callAccesses (.request idx n.localNodeId isWrite)) := by
  unfold zeroFillLocalAccesses
  rw [inBounds_cons]
  exact and_iff_right inside

theorem inBounds_beginPageRequest (clientFd : Int) {packet : DsmPacket Page}
    (own : packet.pageIndex = idx) :
    InBounds n.numPages (n.beginPageRequestAccesses clientFd packet) := by
  subst own
  unfold beginPageRequestAccesses
  rw [if_pos inside]
  simp only [inBounds_append]
  refine ⟨⟨inBounds_registerSender _ _, by simpa [Access.InBounds] using inside⟩, ?_⟩
  split
  · simpa [Access.InBounds] using inside
  · rw [inBounds_append]
    refine ⟨inBounds_canFetch _ _ _, ?_⟩
    split
    -- `node_fds` is read only for an owner that passed the bound of 64
    next fetch => exact inBounds_fetchFromOwner inside fetch.1.2.1
    · exact inBounds_nil _

variable (id : n.localNodeId < 64)
include id

omit inside in
theorem inBounds_ownDroppingLocal (writer : Nat) :
    InBounds n.numPages (n.ownDroppingLocalAccesses idx writer) ↔
      InBounds n.numPages (n.directory.callAccesses (.toModified idx writer)) := by
  unfold ownDroppingLocalAccesses
  rw [inBounds_append, inBounds_cons]
  refine and_iff_left ⟨id, ?_⟩
  split
  · exact (inBounds_append _ _ _).mpr ⟨inBounds_localCopy n idx, by simpa [Access.InBounds] using id⟩
  · exact inBounds_nil _

theorem inBounds_replyToPendingWrite : InBounds n.numPages (n.replyToPendingWriteAccesses idx) ↔
    InBounds n.numPages
      (n.directory.callAccesses (.toModified idx (n.gpdPendingReqs idx).requesterNodeId)) := by
  unfold replyToPendingWriteAccesses
  rw [inBounds_append, inBounds_ownDroppingLocal id]
  exact and_iff_left (inBounds_invalidation inside _ _ (inBounds_completePending inside))

omit inside in
theorem inBounds_handleSendPage (packet : DsmPacket Page) :
    InBounds n.numPages (n.handleSendPageAccesses packet) ↔
      ∀ c ∈ n.sendPageCall packet, InBounds n.numPages (n.directory.callAccesses c) := by
  have none_iff (call : n.sendPageCall packet = none) :
      ∀ c ∈ n.sendPageCall packet, InBounds n.numPages (n.directory.callAccesses c) := by
    rw [call]
    exact fun _ found => absurd found (Option.not_mem_none _)
  unfold handleSendPageAccesses
  dsimp only
  by_cases inside : packet.pageIndex < n.numPages
  · rw [if_pos inside]
    by_cases role : n.coordinatorFd = -1
    · rw [if_pos role, inBounds_cons,
        and_iff_right (show Access.InBounds _ (.pending _) from inside)]
      by_cases live : (n.gpdPendingReqs packet.pageIndex).requesterNodeId ≠ 0
      · have call : n.sendPageCall packet = some _ := if_pos ⟨inside, role, live⟩
        rw [if_pos live, call]
        by_cases write : (n.gpdPendingReqs packet.pageIndex).type = .requestPageWrite
        · simp [write, GpdCall.request, inBounds_replyToPendingWrite inside id]
        · simp [write, GpdCall.request, inBounds_completePending inside]
      · rw [if_neg live]
        -- with no transaction recorded the directory is not called
        refine iff_of_true ?_ (none_iff (if_neg fun all => live all.2.2))
        simpa [Access.InBounds] using inside
    · rw [if_neg role]
      refine iff_of_true ?_ (none_iff (if_neg fun all => role all.2.1))
      simpa [Access.InBounds] using inside
  · rw [if_neg inside]
    exact iff_of_true (inBounds_nil _) (none_iff (if_neg fun all => inside all.1))

omit id in
theorem inBounds_beginQueuedRequest {req : PageRequest} (own : req.pageIndex = idx) :
    InBounds n.numPages (n.beginQueuedRequestAccesses req) ↔
      ∀ c ∈ n.queuedCall req, InBounds n.numPages (n.directory.callAccesses c) := by
  subst own
  have none_iff (call : n.queuedCall req = none) :
      ∀ c ∈ n.queuedCall req, InBounds n.numPages (n.directory.callAccesses c) := by
    rw [call]
    exact fun _ found => absurd found (Option.not_mem_none _)
  unfold beginQueuedRequestAccesses
  dsimp only
  by_cases role : n.coordinatorFd = -1
  · rw [if_neg (not_not.mpr role), inBounds_append,
      and_iff_right (show InBounds n.numPages [.directory _, .pageTable _] by
        simpa [Access.InBounds] using inside)]
    by_cases present : n.pageTable req.pageIndex = .valid ∨ n.pageTable req.pageIndex = .writePending
    · rw [if_pos present]
      by_cases write : req.isWrite = true
      · have call : n.queuedCall req = some _ := if_pos ⟨role, present, write⟩
        rw [if_pos write, call, inBounds_upgradeLocalCopy inside]
        simp
      · rw [if_neg write]
        exact iff_of_true (inBounds_nil _) (none_iff (if_neg fun all => write all.2.2))
    · rw [if_neg present]
      refine iff_of_true ?_ (none_iff (if_neg fun all => present all.2.1))
      rw [inBounds_append]
      refine ⟨inBounds_canFetch _ _ _, ?_⟩
      split
      next fetch => exact inBounds_fetchFromOwner inside fetch.2.1
      · exact inBounds_nil _
  · rw [if_pos role]
    exact iff_of_true (inBounds_nil _) (none_iff (if_neg fun all => role all.1))

omit inside in
theorem inBounds_beginPacket (clientFd : Int) (packet : DsmPacket Page) :
    InBounds n.numPages (n.beginPacketAccesses clientFd packet) ↔
      ∀ c ∈ n.packetCall packet, InBounds n.numPages (n.directory.callAccesses c) := by
  have none_iff (kind : packet.type ≠ .sendPage) :
      ∀ c ∈ n.packetCall packet, InBounds n.numPages (n.directory.callAccesses c) := by
    rw [packetCall, if_neg kind]
    exact fun _ found => absurd found (Option.not_mem_none _)
  have request : InBounds n.numPages (n.beginPageRequestAccesses clientFd packet) := by
    by_cases inside : packet.pageIndex < n.numPages
    · exact inBounds_beginPageRequest inside clientFd rfl
    · rw [beginPageRequestAccesses, if_neg inside]
      exact inBounds_nil _
  unfold beginPacketAccesses
  cases kind : packet.type with
  | sendPage =>
    rw [packetCall, if_pos kind]
    exact inBounds_handleSendPage id packet
  | requestPageRead | requestPageWrite =>
    exact iff_of_true request (none_iff (by rw [kind]; nofun))
  | nodeJoin =>
    exact iff_of_true (inBounds_registerSender _ _) (none_iff (by rw [kind]; nofun))
  | invalidate =>
    exact iff_of_true (n.inBounds_handleInvalidate packet) (none_iff (by rw [kind]; nofun))
  | invalidateAck =>
    exact iff_of_true (n.inBounds_handleInvalidateAck packet) (none_iff (by rw [kind]; nofun))
  | other => exact iff_of_true (inBounds_nil _) (none_iff (by rw [kind]; nofun))

theorem inBounds_perform {task : EngineTask Page} (own : task.pageIndex = idx) :
    InBounds n.numPages (n.performAccesses task) ↔
      InBounds n.numPages (n.directory.callAccesses (task.gpdCall n.localNodeId)) := by
  subst own
  cases task with
  | zeroFill idx isWrite => exact inBounds_zeroFillLocal inside isWrite
  | answerFromCopy clientFd idx requestingNode isWrite page =>
    cases isWrite with
    | true =>
      simp only [performAccesses, if_true, inBounds_append, inBounds_cons]
      rw [and_iff_left (inBounds_localCopy n idx), and_iff_left]
      · rfl
      · exact ⟨id, inBounds_invalidation inside _ _ (inBounds_nil _)⟩
    | false =>
      simp only [performAccesses, Bool.false_eq_true, if_false, inBounds_append]
      rw [and_iff_left]
      · rfl
      · split
        · exact inBounds_localCopy n idx
        · exact inBounds_nil _
  | answerWithZeros clientFd idx requestingNode isWrite =>
    cases isWrite with
    | true =>
      simp only [performAccesses, if_true, inBounds_append]
      rw [inBounds_ownDroppingLocal id, and_iff_left]
      · rfl
      · exact inBounds_invalidation inside _ _ (inBounds_nil _)
    | false => exact Iff.rfl

end Node

end TeleportVM
