import TeleportVM.PacketAccesses

/-!
Which directory transition each critical section makes, and from it, over any packets, when every
access is in range and the directory stays sound.
-/
namespace TeleportVM

variable {Page : Type}

/-! ### One directory transition -/

/-- The owner is a node's number exactly when the page is `MODIFIED`, and bit 0 of the bitmap is
clear. -/
def GpdEntry.Sound (e : GpdEntry) : Prop :=
  (ValidNode e.ownerNodeId ↔ e.state = .modified) ∧ 0 ∉ Bitmap.members e.sharedNodesBitmap

instance (e : GpdEntry) : Decidable e.Sound := inferInstanceAs (Decidable (_ ∧ _))

def Directory.Sound (d : Directory) : Prop := ∀ p < d.numPages, (d.entry p).Sound

instance (d : Directory) : Decidable d.Sound := inferInstanceAs (Decidable (∀ p < d.numPages, _))

theorem sound_init (totalPages : Nat) : (gpdInit totalPages).Sound := by
  intro p _
  exact ⟨by simp [gpdInit, ValidNode], by simp [gpdInit]⟩

theorem toShared_sound_iff {e : GpdEntry} (sound : e.Sound) {r : Nat} (small : r < 64) :
    (e.toShared r).Sound ↔ ValidNode r := by
  have unowned : ValidNode (e.toShared r).ownerNodeId ↔ (e.toShared r).state = .modified := by
    unfold GpdEntry.toShared
    split <;> simp [ValidNode]
  have clear : 0 ∉ Bitmap.members (e.toShared r).sharedNodesBitmap ↔ r ≠ 0 := by
    unfold GpdEntry.toShared
    split
    next modified =>
      have owner := sound.1.mpr modified
      simp [Bitmap.members_bit _ owner.lt, Bitmap.members_bit _ small, owner.ne_zero.symm,
        eq_comm (a := 0)]
    next other =>
      simp [Bitmap.members_bit _ small, sound.2, eq_comm (a := 0)]
  unfold GpdEntry.Sound
  rw [and_iff_right unowned, clear, ValidNode]
  omega

theorem ownedBy_sound_iff (w : Nat) : (GpdEntry.ownedBy w).Sound ↔ ValidNode w := by
  simp [GpdEntry.Sound, GpdEntry.ownedBy]

theorem setEntry_sound_iff {d : Directory} (sound : d.Sound) {p : Nat} (inside : p < d.numPages)
    (e : GpdEntry) : (d.setEntry p e).Sound ↔ e.Sound := by
  constructor
  · intro all
    have own := all p inside
    rwa [setEntry_same] at own
  · intro own q there
    by_cases same : q = p
    · rw [same, setEntry_same]
      exact own
    · rw [setEntry_other d e same]
      exact sound q there

/-- The previous owner that a transition shifts by is a node. -/
theorem shifts_iff {d : Directory} (sound : d.Sound) {c : GpdCall} (inside : c.pageIndex < d.numPages) :
    InBounds d.numPages (d.callAccesses c) ↔ c.node < 64 := by
  have owner : (d.entry c.pageIndex).state = .modified →
      (d.entry c.pageIndex).ownerNodeId < 64 :=
    fun modified => ((sound c.pageIndex inside).1.mpr modified).lt
  cases c with
  | toShared p r =>
    have range : ¬ d.numPages ≤ p := Nat.not_le.mpr inside
    simp only [Directory.callAccesses, GpdCall.pageIndex, GpdCall.node] at owner inside ⊢
    rw [if_neg range]
    split <;> simp_all [Access.InBounds]
  | toModified p w =>
    have range : ¬ d.numPages ≤ p := Nat.not_le.mpr inside
    simp only [Directory.callAccesses, GpdCall.pageIndex, GpdCall.node] at owner inside ⊢
    rw [if_neg range]
    split <;> simp_all [Access.InBounds]

/-- A transition shifts in range and keeps the directory sound exactly if its node is in 1..63. -/
theorem call_bounded_iff {d : Directory} (sound : d.Sound) {c : GpdCall}
    (inside : c.pageIndex < d.numPages) :
    (InBounds d.numPages (d.callAccesses c) ∧ (d.call c).Sound) ↔ ValidNode c.node := by
  rw [shifts_iff sound inside]
  cases c with
  | toShared p r =>
    have entry := sound p inside
    have after : (d.call (.toShared p r)).Sound ↔ ((d.entry p).toShared r).Sound := by
      simp only [Directory.call, gpdTransitionToShared_eq d p r inside, Option.map_some,
        Option.getD_some]
      exact setEntry_sound_iff sound inside _
    rw [after]
    exact ⟨fun both => (toShared_sound_iff entry both.1).mp both.2,
      fun valid => ⟨valid.lt, (toShared_sound_iff entry valid.lt).mpr valid⟩⟩
  | toModified p w =>
    have after : (d.call (.toModified p w)).Sound ↔ ValidNode w := by
      simp only [Directory.call, gpdTransitionToModified_eq d p w inside, Option.map_some,
        Option.getD_some]
      exact (setEntry_sound_iff sound inside _).trans (ownedBy_sound_iff w)
    rw [after]
    exact ⟨And.right, fun valid => ⟨valid.lt, valid⟩⟩

/-! ### A handler makes its transition and no other -/

/-- What a handler leaves: the directory after its transition, if it makes one, and the node's
number, requests and role. -/
structure Node.Calls (n n' : Node Page) (c : Option GpdCall) : Prop where
  id : n'.localNodeId = n.localNodeId
  directory : n'.directory = c.elim n.directory n.directory.call
  queue : n'.sharedReqQueue = n.sharedReqQueue
  messages : n'.uffdMessages = n.uffdMessages
  role : n.coordinatorFd = -1 → n'.coordinatorFd = -1

namespace Node

variable {n n' n'' : Node Page} {c : Option GpdCall}

theorem Calls.quiet (first : n.Calls n' c) (second : n'.Calls n'' none) : n.Calls n'' c where
  id := second.id.trans first.id
  directory := second.directory.trans first.directory
  queue := second.queue.trans first.queue
  messages := second.messages.trans first.messages
  role := second.role ∘ first.role

theorem Calls.numPages (calls : n.Calls n' c) : n'.numPages = n.numPages := by
  rw [Node.numPages, calls.directory]
  cases c with
  | none => rfl
  | some c => exact call_numPages n.directory c

variable (n)

theorem calls_completePending (packet : DsmPacket Page) :
    n.Calls (n.completePending packet) none := by
  unfold completePending
  dsimp only
  split <;> exact ⟨rfl, rfl, rfl, rfl, id⟩

theorem calls_ownDroppingLocal (idx writer : Nat) :
    n.Calls (n.ownDroppingLocal idx writer).1 (some (.toModified idx writer)) := by
  unfold ownDroppingLocal
  dsimp only
  split <;> exact ⟨rfl, rfl, rfl, rfl, id⟩

theorem calls_acceptPage (packet : DsmPacket Page) : n.Calls (n.acceptPage packet) none := by
  unfold acceptPage
  dsimp only
  split <;> exact ⟨rfl, rfl, rfl, rfl, id⟩

theorem calls_handleInvalidateAck (packet : DsmPacket Page) :
    n.Calls (n.handleInvalidateAck packet) none := by
  unfold handleInvalidateAck grantDeferred
  dsimp only
  split
  · split
    · split
      · split
        · split <;> exact ⟨rfl, rfl, rfl, rfl, id⟩
        · exact ⟨rfl, rfl, rfl, rfl, id⟩
      · exact ⟨rfl, rfl, rfl, rfl, id⟩
    · exact ⟨rfl, rfl, rfl, rfl, id⟩
  · exact ⟨rfl, rfl, rfl, rfl, id⟩

theorem calls_handleFault_directory (fault : PageRequest) :
    (n.handleFault fault).localNodeId = n.localNodeId ∧
      (n.handleFault fault).directory = n.directory ∧
      (n.handleFault fault).coordinatorFd = n.coordinatorFd ∧
      (n.handleFault fault).uffdMessages = n.uffdMessages ∧
      ∀ req ∈ (n.handleFault fault).sharedReqQueue, req ∈ n.sharedReqQueue ∨ req = fault := by
  unfold handleFault queuePush
  dsimp only
  split
  · exact ⟨rfl, rfl, rfl, rfl, fun _ => Or.inl⟩
  · split
    · exact ⟨rfl, rfl, rfl, rfl, fun _ => Or.inl⟩
    · exact ⟨rfl, rfl, rfl, rfl, fun _ member => (List.mem_append.mp member).imp_right List.mem_singleton.mp⟩

variable [Zero Page]

theorem calls_deferOrSend (clientFd : Int) (requestingNode : Nat) (mask : BitVec 64)
    (response : DsmPacket Page) :
    n.Calls (n.deferOrSend clientFd requestingNode mask response) none := by
  unfold deferOrSend
  dsimp only
  split <;> exact ⟨rfl, rfl, rfl, rfl, id⟩

theorem calls_zeroFillLocal (idx : Nat) (isWrite : Bool) :
    n.Calls (n.zeroFillLocal idx isWrite) (some (.request idx n.localNodeId isWrite)) := by
  cases isWrite <;> exact ⟨rfl, rfl, rfl, rfl, id⟩

/-- A request from the queue that is not left to a second critical section. -/
theorem calls_serveQueuedRequest (req : PageRequest) (here : ¬ n.MissesLocally req.pageIndex) :
    n.Calls (n.serveQueuedRequest req) (n.queuedCall req) := by
  unfold serveQueuedRequest
  dsimp only
  by_cases role : n.coordinatorFd = -1
  · rw [if_neg (not_not.mpr role)]
    -- the coordinator: only an upgrade of a copy it has makes a transition at once
    by_cases present : n.pageTable req.pageIndex = .valid ∨ n.pageTable req.pageIndex = .writePending
    · rw [if_pos present]
      by_cases write : req.isWrite = true
      · have call : n.queuedCall req = some _ := if_pos ⟨role, present, write⟩
        rw [if_pos write, call]
        unfold upgradeLocalCopy
        dsimp only
        split <;> exact ⟨rfl, rfl, rfl, rfl, id⟩
      · have call : n.queuedCall req = none := if_neg fun all => write all.2.2
        rw [if_neg write, call]
        exact ⟨rfl, rfl, rfl, rfl, id⟩
    · have call : n.queuedCall req = none := if_neg fun all => present all.2.1
      rw [if_neg present, call]
      split
      · exact ⟨rfl, rfl, rfl, rfl, id⟩
      next unowned => exact absurd ⟨role, present, unowned⟩ here
  · -- a worker passes the request on
    have call : n.queuedCall req = none := if_neg fun all => role all.1
    rw [if_pos role, call]
    exact ⟨rfl, rfl, rfl, rfl, id⟩

theorem calls_beginQueuedRequest (req : PageRequest) :
    n.Calls (n.beginQueuedRequest req).1 (n.queuedCall req) := by
  unfold beginQueuedRequest
  split
  next missing =>
    have call : n.queuedCall req = none := if_neg fun all => missing.2.1 all.2.1
    rw [call]
    exact ⟨rfl, rfl, rfl, rfl, id⟩
  next here => exact n.calls_serveQueuedRequest req here

theorem calls_handleSendPage (packet : DsmPacket Page) :
    n.Calls (n.handleSendPage packet) (n.sendPageCall packet) := by
  unfold handleSendPage
  dsimp only
  split
  next inside =>
    split
    next live =>
      have call : n.sendPageCall packet = some _ := if_pos ⟨inside, live⟩
      rw [call]
      split
      next write =>
        -- the fetched page ends a write: the requester becomes the owner
        rw [GpdCall.request, if_pos (decide_eq_true write)]
        unfold replyToPendingWrite
        dsimp only
        split
        · exact (n.calls_ownDroppingLocal _ _).quiet ⟨rfl, rfl, rfl, rfl, id⟩
        · exact (n.calls_ownDroppingLocal _ _).quiet (calls_completePending _ packet)
      next read =>
        -- it ends a read: the requester becomes a sharer
        rw [GpdCall.request, if_neg (by simpa using read)]
        have shared (r : Nat) : n.Calls (n.transitionToShared packet.pageIndex r).1
            (some (.toShared packet.pageIndex r)) := ⟨rfl, rfl, rfl, rfl, id⟩
        exact (shared _).quiet (calls_completePending _ packet)
    next idle =>
      have call : n.sendPageCall packet = none := if_neg fun all => idle all.2
      rw [call]
      exact n.calls_acceptPage packet
  next outside =>
    have call : n.sendPageCall packet = none := if_neg fun all => outside all.1
    rw [call]
    exact ⟨rfl, rfl, rfl, rfl, id⟩

theorem calls_handleInvalidate (clientFd : Int) (packet : DsmPacket Page) :
    n.Calls (n.handleInvalidate clientFd packet) none := by
  unfold handleInvalidate
  dsimp only
  split
  · split <;> exact ⟨rfl, rfl, rfl, rfl, id⟩
  · exact ⟨rfl, rfl, rfl, rfl, id⟩

theorem calls_perform (task : EngineTask Page) :
    n.Calls (n.perform task) (some (task.gpdCall n.localNodeId)) := by
  cases task with
  | zeroFill idx isWrite => exact n.calls_zeroFillLocal idx isWrite
  | answerFromCopy clientFd idx requestingNode isWrite page =>
    cases isWrite with
    | true =>
      -- the transition comes before the copy is dropped and the answer sent or deferred
      have dropped : n.Calls ((n.transitionToModified idx requestingNode).1.invalidateLocalPageCopy idx)
          (some (.toModified idx requestingNode)) := ⟨rfl, rfl, rfl, rfl, id⟩
      exact dropped.quiet (calls_deferOrSend _ clientFd requestingNode _ _)
    | false =>
      show n.Calls (n.serveReadFromCopy clientFd idx requestingNode page) _
      unfold serveReadFromCopy
      dsimp only
      split <;> exact ⟨rfl, rfl, rfl, rfl, id⟩
  | answerWithZeros clientFd idx requestingNode isWrite =>
    cases isWrite with
    | true =>
      exact (n.calls_ownDroppingLocal idx requestingNode).quiet
        (calls_deferOrSend _ clientFd requestingNode _ _)
    | false => exact ⟨rfl, rfl, rfl, rfl, id⟩

theorem calls_takesRequest {clientFd : Int} {packet : DsmPacket Page}
    {begun : Node Page × Option (EngineTask Page)} (takes : n.TakesRequest clientFd packet begun) :
    n.Calls begun.1 none ∧
      ∀ task ∈ begun.2, packet.pageIndex < n.numPages ∧ task.pageIndex = packet.pageIndex := by
  cases takes with
  | outside | fetch => exact ⟨⟨rfl, rfl, rfl, rfl, id⟩, nofun⟩
  | fromCopy _ inside | withZeros inside =>
    refine ⟨⟨rfl, rfl, rfl, rfl, id⟩, ?_⟩
    rintro task ⟨⟩
    exact ⟨inside, rfl⟩

theorem calls_takesPacket {clientFd : Int} {packet : DsmPacket Page}
    {begun : Node Page × Option (EngineTask Page)} (takes : n.TakesPacket clientFd packet begun) :
    n.Calls begun.1 (n.packetCall packet) ∧
      ∀ task ∈ begun.2, packet.pageIndex < n.numPages ∧ task.pageIndex = packet.pageIndex := by
  have other {kind : MsgType} (same : packet.type = kind) (apart : kind ≠ .sendPage) :
      n.packetCall packet = none := if_neg (same ▸ apart)
  cases takes with
  | request begun kind takes =>
    rw [kind.elim (other · (by decide)) (other · (by decide))]
    exact n.calls_takesRequest takes
  | page kind =>
    rw [packetCall, if_pos kind]
    exact ⟨n.calls_handleSendPage packet, by simp⟩
  | invalidate kind =>
    rw [other kind (by simp)]
    exact ⟨n.calls_handleInvalidate clientFd packet, by simp⟩
  | ack kind =>
    rw [other kind (by simp)]
    exact ⟨n.calls_handleInvalidateAck packet, by simp⟩
  | join kind | other _ kind =>
    rw [other kind (by simp)]
    exact ⟨⟨rfl, rfl, rfl, rfl, id⟩, by simp⟩

end Node

/-! ### One turn -/

namespace NodeThreads

/-- The directory transition that a turn makes. -/
def gpdCall (t : NodeThreads Page) : NodeEvent Page → Option GpdCall
  | .drain => t.node.sharedReqQueue.head?.bind t.node.queuedCall
  | .receive _ packet => t.node.packetCall packet
  | .finish => t.task.map (EngineTask.gpdCall t.node.localNodeId)
  | _ => none

/-- The accesses of a turn. -/
def accesses (t : NodeThreads Page) : NodeEvent Page → List Access
  | .fault => t.node.uffdMessages.head?.toList.map fun fault => .pageTable fault.pageIndex
  | .drain => t.node.sharedReqQueue.head?.toList.flatMap t.node.beginQueuedRequestAccesses
  | .receive clientFd packet => t.node.beginPacketAccesses clientFd packet
  | .finish => t.task.toList.flatMap t.node.performAccesses
  | .closed _ => Node.closeConnectionAccesses
  | .load _ | .store _ _ | .evict _ => []

/-- What every turn keeps: the node's number is one that `main` accepts, and every request and task
is about a page of the region. -/
structure Ranged (t : NodeThreads Page) : Prop where
  id : ValidNode t.node.localNodeId
  queue : ∀ req ∈ t.node.sharedReqQueue, req.pageIndex < t.node.numPages
  messages : ∀ fault ∈ t.node.uffdMessages, fault.pageIndex < t.node.numPages
  task : ∀ task ∈ t.task, task.pageIndex < t.node.numPages

theorem Ranged.calls {t : NodeThreads Page} (ranged : t.Ranged) {n : Node Page} {c : Option GpdCall}
    (calls : t.resume.Calls n c) {busy : Option (EngineTask Page)}
    (inside : ∀ task ∈ busy, task.pageIndex < t.node.numPages) : Ranged ⟨n, busy⟩ where
  id := calls.id ▸ ranged.id
  queue req member := calls.numPages ▸ ranged.queue req (calls.queue ▸ member)
  messages fault member := calls.numPages ▸ ranged.messages fault (calls.messages ▸ member)
  task task begun := calls.numPages ▸ inside task begun

/-- What a turn leaves: besides the directory after its transition, requests and tasks in the region
and the node's number and role. -/
structure MakesCall (t t' : NodeThreads Page) (c : Option GpdCall) : Prop where
  ranged : t'.Ranged
  directory : t'.node.directory = c.elim t.node.directory t.node.directory.call
  id : t'.node.localNodeId = t.node.localNodeId
  role : t.node.coordinatorFd = -1 → t'.node.coordinatorFd = -1

theorem Ranged.makesCall {t : NodeThreads Page} (ranged : t.Ranged) {n : Node Page}
    {c : Option GpdCall} (calls : t.resume.Calls n c) {busy : Option (EngineTask Page)}
    (inside : ∀ task ∈ busy, task.pageIndex < t.node.numPages) : t.MakesCall ⟨n, busy⟩ c :=
  ⟨ranged.calls calls inside, calls.directory, calls.id, calls.role⟩

theorem MakesCall.numPages {t t' : NodeThreads Page} {c : Option GpdCall} (made : t.MakesCall t' c) :
    t'.node.numPages = t.node.numPages := by
  rw [Node.numPages, made.directory]
  cases c with
  | none => rfl
  | some c => exact call_numPages t.node.directory c

variable [Zero Page] {t t' : NodeThreads Page}

theorem start_ranged {id : Nat} (valid : ValidNode id) (coordinatorFd : Int) (numPages : Nat) :
    (start id coordinatorFd numPages : NodeThreads Page).Ranged where
  id := valid
  queue _ member := absurd member List.not_mem_nil
  messages _ member := absurd member List.not_mem_nil
  task _ busy := absurd busy (Option.not_mem_none _)

omit [Zero Page] in
/-- An access that the mapping does not allow is a fault in the region. -/
theorem makesCall_raise (ranged : t.Ranged) (isWrite : Bool) {idx : Nat}
    (inside : idx < t.node.numPages) :
    t.MakesCall { t with node := t.resume.raise ⟨idx, isWrite⟩ } none := by
  refine ⟨⟨ranged.id, ranged.queue, fun fault member => ?_, ranged.task⟩, rfl, rfl, id⟩
  -- the new message is about the page that was accessed
  rcases List.mem_append.mp member with old | new
  · exact ranged.messages fault old
  · cases List.mem_singleton.mp new
    exact inside

omit [Zero Page] in
/-- The fault handler moves a message into the queue, or drops it. -/
theorem makesCall_fault (ranged : t.Ranged) {fault : PageRequest} {rest : List PageRequest}
    (waiting : t.node.uffdMessages = fault :: rest) :
    t.MakesCall { t with node := { t.resume with uffdMessages := rest }.handleFault fault } none := by
  obtain ⟨id, directory, role, messages, queue⟩ :=
    Node.calls_handleFault_directory { t.resume with uffdMessages := rest } fault
  have pages : (Node.handleFault { t.resume with uffdMessages := rest } fault).numPages =
      t.node.numPages := congrArg Directory.numPages directory
  -- a request that is queued now was the message, so its page is in range
  refine ⟨⟨id.symm ▸ ranged.id, fun req member => ?_, fun other member => ?_, ?_⟩, directory, id,
    role.trans⟩
  · rw [pages]
    rcases queue req member with old | rfl
    · exact ranged.queue req old
    · exact ranged.messages req (waiting ▸ List.mem_cons_self)
  · rw [pages]
    rw [messages] at member
    exact ranged.messages other (waiting ▸ List.mem_cons_of_mem _ member)
  · intro task busy
    rw [pages]
    exact ranged.task task busy

/-- The engine takes a request off the queue. -/
theorem makesCall_drain (ranged : t.Ranged) {req : PageRequest} {rest : List PageRequest}
    (waiting : t.node.sharedReqQueue = req :: rest) :
    t.MakesCall ⟨({ t.resume with sharedReqQueue := rest }.beginQueuedRequest req).1,
      ({ t.resume with sharedReqQueue := rest }.beginQueuedRequest req).2⟩ (t.node.queuedCall req) := by
  have popped : Ranged ⟨{ t.resume with sharedReqQueue := rest }, none⟩ :=
    ⟨ranged.id, fun other member => ranged.queue other (waiting ▸ List.mem_cons_of_mem _ member),
      ranged.messages, nofun⟩
  have calls := Node.calls_beginQueuedRequest { t.resume with sharedReqQueue := rest } req
  refine ⟨popped.calls calls ?_, calls.directory, calls.id, calls.role⟩
  intro task busy
  unfold Node.beginQueuedRequest at busy
  split at busy
  · cases busy
    exact ranged.queue req (waiting ▸ List.mem_cons_self)
  · cases busy

/-- A turn makes its transition and no other. -/
theorem makesCall_of_step (ranged : t.Ranged) {e : NodeEvent Page} (notEvict : ∀ fd, e ≠ .evict fd)
    (next : t.step e = some t') : t.MakesCall t' (t.gpdCall e) := by
  cases turn_of_step next with
  | load | store =>
    -- an access that succeeds concerns no thread of the engine
    have same {n : Node Page} (moved : t.resume.Calls n none) : t.MakesCall ⟨n, t.task⟩ none :=
      ranged.makesCall moved ranged.task
    exact same ⟨rfl, rfl, rfl, rfl, id⟩
  | loadFault idx inside => exact makesCall_raise ranged false inside
  | storeFault idx _ inside => exact makesCall_raise ranged true inside
  | fault fault rest waiting => exact makesCall_fault ranged waiting
  | drain req rest _ waiting =>
    have call : t.gpdCall .drain = t.node.queuedCall req := by
      rw [gpdCall, waiting]
      rfl
    rw [call]
    exact makesCall_drain ranged waiting
  | receive _ packet _ _ takes =>
    obtain ⟨calls, tasks⟩ := Node.calls_takesPacket t.resume takes
    refine ranged.makesCall calls fun task busy => ?_
    exact (tasks task busy).2 ▸ (tasks task busy).1
  | finish task busy =>
    rw [gpdCall, busy]
    exact ranged.makesCall (Node.calls_perform t.resume task) nofun
  | closed clientFd =>
    -- a coordinator has no coordinator to lose
    have closed : t.resume.Calls (t.resume.closeConnection clientFd) none :=
      ⟨rfl, rfl, rfl, rfl, fun role => by simp [Node.closeConnection, role]⟩
    exact ranged.makesCall closed nofun
  | evict fd => exact absurd rfl (notEvict fd)

/-- Apart from its transition a turn accesses everything in range. -/
theorem inBounds_accesses (ranged : t.Ranged) {e : NodeEvent Page} (next : t.step e = some t') :
    InBounds t.node.numPages (t.accesses e) ↔
      ∀ c ∈ t.gpdCall e, InBounds t.node.numPages (t.node.directory.callAccesses c) := by
  have nothing : ∀ c ∈ (none : Option GpdCall),
      InBounds t.node.numPages (t.node.directory.callAccesses c) :=
    fun _ found => absurd found (Option.not_mem_none _)
  cases turn_of_step next with
  | load | loadFault | store | storeFault | evict => exact iff_of_true (inBounds_nil _) nothing
  | fault fault rest waiting =>
    refine iff_of_true ?_ nothing
    have inside := ranged.messages fault (waiting ▸ List.mem_cons_self)
    simpa [accesses, waiting, Access.InBounds] using inside
  -- the queue holds requests for pages of the region only
  | drain req rest _ waiting =>
    have inside := ranged.queue req (waiting ▸ List.mem_cons_self)
    simp only [accesses, gpdCall, waiting, List.head?_cons, Option.toList_some,
      List.flatMap_singleton, Option.bind_some]
    exact Node.inBounds_beginQueuedRequest inside rfl
  | receive clientFd packet => exact Node.inBounds_beginPacket ranged.id.lt clientFd packet
  | finish task busy =>
    simp only [accesses, gpdCall, busy, Option.toList_some, List.flatMap_singleton, Option.map_some,
      Option.mem_some_iff, forall_eq']
    exact Node.inBounds_perform (ranged.task task busy) ranged.id.lt rfl
  | closed => exact iff_of_true (inBounds_closeConnection _) nothing

omit [Zero Page] in
/-- The page of a transition is one of a request or a task. -/
theorem gpdCall_inside (ranged : t.Ranged) {e : NodeEvent Page} :
    ∀ c ∈ t.gpdCall e, c.pageIndex < t.node.numPages := by
  intro c made
  cases e with
  | drain =>
    obtain ⟨req, head, call⟩ := Option.bind_eq_some_iff.mp made
    unfold Node.queuedCall at call
    split at call
    · cases call
      exact ranged.queue req (List.mem_of_mem_head? head)
    · cases call
  | receive clientFd packet =>
    unfold gpdCall Node.packetCall Node.sendPageCall at made
    dsimp only at made
    split at made
    · split at made
      next live =>
        cases made
        simpa using live.1
      · cases made
    · cases made
  | finish =>
    obtain ⟨task, busy, rfl⟩ := Option.map_eq_some_iff.mp made
    rw [EngineTask.gpdCall_pageIndex]
    exact ranged.task task busy
  | load | store | fault | closed | evict => cases made

/-- The turn accesses nothing out of range and leaves the directory sound. -/
def Bounded (t : NodeThreads Page) (e : NodeEvent Page) (t' : NodeThreads Page) : Prop :=
  InBounds t.node.numPages (t.accesses e) ∧ t'.node.directory.Sound

omit [Zero Page] in
instance (t : NodeThreads Page) (e : NodeEvent Page) (t' : NodeThreads Page) :
    Decidable (t.Bounded e t') := inferInstanceAs (Decidable (_ ∧ _))

theorem bounded_iff (ranged : t.Ranged) (sound : t.node.directory.Sound) {e : NodeEvent Page}
    (notEvict : ∀ fd, e ≠ .evict fd) (next : t.step e = some t') :
    t.Bounded e t' ↔ ∀ c ∈ t.gpdCall e, ValidNode c.node := by
  unfold Bounded
  rw [inBounds_accesses ranged next, (makesCall_of_step ranged notEvict next).directory]
  -- what is left is the transition itself: shifts by the node's number
  cases made : t.gpdCall e with
  | none => simp [sound]
  | some c =>
    simp only [Option.mem_some_iff, forall_eq', Option.elim_some]
    exact call_bounded_iff sound (gpdCall_inside ranged c made)

/-- The turns of all threads but the eviction thread. -/
def packetStep (t : NodeThreads Page) : NodeEvent Page → Option (NodeThreads Page)
  | .evict _ => none
  | e => t.step e

theorem packetStep_eq {e : NodeEvent Page} (next : t.packetStep e = some t') :
    t.step e = some t' ∧ ∀ fd, e ≠ .evict fd := by
  cases e with
  | evict fd => cases next
  | load | store | fault | drain | receive | finish | closed => exact ⟨next, nofun⟩

end NodeThreads

/-- Whatever packets a node receives, every shift is below 64, every index is in range and every
entry of the directory stays sound, exactly if no directory transition is made for a node outside
1..63. -/
theorem packets_in_bounds_iff [Zero Page] (id : Nat) (valid : ValidNode id) (coordinatorFd : Int)
    (numPages : Nat) (events : List (NodeEvent Page)) :
    Runs.EveryStep NodeThreads.packetStep NodeThreads.Bounded (.start id coordinatorFd numPages)
        events ↔
      Runs.EveryStep NodeThreads.packetStep (fun t e _ => ∀ c ∈ t.gpdCall e, ValidNode c.node)
        (.start id coordinatorFd numPages) events := by
  apply Runs.everyStep_iff_while fun t => t.Ranged ∧ t.node.directory.Sound
  · intro t e t' holds next
    obtain ⟨turn, notEvict⟩ := NodeThreads.packetStep_eq next
    exact NodeThreads.bounded_iff holds.1 holds.2 notEvict turn
  · intro t e t' holds valid next
    obtain ⟨turn, notEvict⟩ := NodeThreads.packetStep_eq next
    exact ⟨(NodeThreads.makesCall_of_step holds.1 notEvict turn).ranged,
      ((NodeThreads.bounded_iff holds.1 holds.2 notEvict turn).mpr valid).2⟩
  · exact ⟨NodeThreads.start_ranged valid coordinatorFd numPages, sound_init numPages⟩

/-- Node 2 is given page 0 for writing, and node 3 reads the page. -/
def honestPackets : List (NodeEvent PageBytes) :=
  [.receive 12 ⟨.requestPageWrite, 0, 2, 0⟩, .finish, .receive 13 ⟨.requestPageRead, 0, 3, 0⟩,
    .receive 12 ⟨.sendPage, 0, 2, 0⟩]

theorem packets_in_bounds_honest : Runs.EveryStep NodeThreads.packetStep NodeThreads.Bounded
    (.start 1 (-1) 4) honestPackets :=
  (packets_in_bounds_iff 1 (by decide) (-1) 4 honestPackets).mpr (by decide +kernel)

/-- A read request whose sender is 64 is answered. -/
theorem header_shifts_too_far : ¬ ∀ events : List (NodeEvent PageBytes),
    Runs.EveryStep NodeThreads.packetStep NodeThreads.Bounded (.start 1 (-1) 4) events := by
  intro claim
  exact absurd (claim [.receive 12 ⟨.requestPageRead, 0, 64, 0⟩, .finish]) (by decide +kernel)

end TeleportVM
