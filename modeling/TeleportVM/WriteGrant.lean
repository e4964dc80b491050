import TeleportVM.Threads
import TeleportVM.Frame

/-!
The five paths on which the coordinator makes a node the `MODIFIED` owner of a page: whom they
invalidate, and what they wait for before the node obtains the page or the write permission.
-/
namespace TeleportVM

variable {Page : Type} [Zero Page]

/-- The paths, by what the engine finds when the write comes up. -/
inductive WriteKind where
  | localUpgrade
  | localMiss
  | fetchedPage
  | fromCopy
  | withoutCopy

/-- The write of node `w` to page `idx` that takes node `n` to `n'` on one of the paths. -/
inductive WritePath (n : Node Page) : WriteKind → Nat → Nat → Node Page → Prop where
  | localUpgrade (idx : Nat)
      (present : n.pageTable idx = .valid ∨ n.pageTable idx = .writePending) :
      WritePath n .localUpgrade n.localNodeId idx (n.upgradeLocalCopy idx)
  | localMiss (idx : Nat) (missing : n.MissesLocally idx) :
      WritePath n .localMiss n.localNodeId idx (n.zeroFillLocal idx true)
  | fetchedPage (packet : DsmPacket Page) (inRange : packet.pageIndex < n.numPages)
      (page : packet.type = .sendPage)
      (asked : (n.gpdPendingReqs packet.pageIndex).requesterNodeId ≠ 0)
      (write : (n.gpdPendingReqs packet.pageIndex).type = .requestPageWrite) :
      WritePath n .fetchedPage (n.gpdPendingReqs packet.pageIndex).requesterNodeId packet.pageIndex
        (n.replyToPendingWrite packet)
  | fromCopy (clientFd : Int) (idx requestingNode : Nat) (page : Page) (inRange : idx < n.numPages) :
      WritePath n .fromCopy requestingNode idx (n.serveWriteFromCopy clientFd idx requestingNode page)
  | withoutCopy (clientFd : Int) (idx requestingNode : Nat) (inRange : idx < n.numPages) :
      WritePath n .withoutCopy requestingNode idx (n.serveZeroPage clientFd idx requestingNode true)

namespace Node

/-- The connected nodes in the mask of `gpd_transition_to_modified`, other than the writer and
the coordinator. -/
def toInvalidate (n : Node Page) (idx w : Nat) : List Nat :=
  (n.connectedIn (n.transitionToModified idx w).2).filter fun m => m ≠ w ∧ m ≠ n.localNodeId

/-- The descriptors on which `MSG_INVALIDATE` for page `idx` was sent in this turn. -/
def invalidationsOf (n : Node Page) (idx : Nat) : List Int :=
  (sendsAbout idx n.effects).filterMap fun sent =>
    if sent.2.type = .invalidate then some sent.1 else none

/-- In the turn from `n` to `n'` the page becomes writable here, or is sent to another node. -/
def Grants (n n' : Node Page) (idx : Nat) : Prop :=
  ((n.mapping idx).isWritable = false ∧ (n'.mapping idx).isWritable = true) ∨
    ∃ sent ∈ sendsAbout idx n'.effects, sent.2.type = .sendPage

end Node

/-- The page of the request that the task answers. -/
def EngineTask.pageIndex : EngineTask Page → Nat
  | .zeroFill idx _ => idx
  | .answerFromCopy _ idx _ _ _ => idx
  | .answerWithZeros _ idx _ _ => idx

/-- The turn does not take up another request or page reply for page `idx`. The coordinator has
no eviction thread. -/
def NodeThreads.LeavesAlone (t : NodeThreads Page) (idx : Nat) : NodeEvent Page → Prop
  | .drain => ∀ req ∈ t.node.sharedReqQueue.head?, req.pageIndex ≠ idx
  | .receive _ packet => packet.pageIndex = idx →
      packet.type ≠ .requestPageRead ∧ packet.type ≠ .requestPageWrite ∧ packet.type ≠ .sendPage
  | .finish => ∀ task ∈ t.task, task.pageIndex ≠ idx
  | .evict _ => False
  | _ => True

/-- The events all leave the page alone, one after the other. -/
def Node.LeftAlone (n : Node Page) (idx : Nat) (later : List (NodeEvent Page)) : Prop :=
  Runs.EveryStep NodeThreads.step (fun t e _ => t.LeavesAlone idx e) ⟨n, none⟩ later

def NodeEvent.acknowledges (idx : Nat) : NodeEvent Page → Bool
  | .receive _ packet => packet.type = .invalidateAck ∧ packet.pageIndex = idx
  | _ => false

/-- The write of `w` invalidates all holders first: in the turn itself, and in the events `later`
that follow it while not all acknowledgements are in. -/
structure InvalidatesFirst (n n' : Node Page) (w idx : Nat) (later : List (NodeEvent Page)) :
    Prop where
  invalidated : n'.invalidationsOf idx = (n.toInvalidate idx w).map n.nodeFds
  dropped : w ≠ n.localNodeId → (n'.mapping idx).isMapped = false
  atOnce : n.Grants n' idx → n'.invalidationsOf idx = []
  acknowledged : later.countP (NodeEvent.acknowledges idx) < (n'.invalidationsOf idx).length →
    Runs.EveryStep NodeThreads.step (fun t _ t' => ¬ t.node.Grants t'.node idx) ⟨n', none⟩ later

/-- What the path needs of the state before it. -/
def WriteKind.Covered (n : Node Page) (w idx : Nat) : WriteKind → Prop
  | .localMiss => n.toInvalidate idx w = []
  | .fetchedPage | .withoutCopy => w ≠ n.localNodeId → (n.mapping idx).isMapped = true →
      (n.transitionToModified idx w).2.getLsbD n.localNodeId = true
  | .localUpgrade | .fromCopy => True

/-! ### Turns that leave the page alone -/

/-- The slot and the mapping of the page stay, and nothing about it is sent. -/
structure SamePage (n n' : Node Page) (idx : Nat) : Prop where
  slot : n'.gpdPendingReqs idx = n.gpdPendingReqs idx
  mapping : n'.mapping idx = n.mapping idx
  sends : sendsAbout idx n'.effects = sendsAbout idx n.effects

omit [Zero Page] in
theorem SamePage.of_about {n n' : Node Page} {idx : Nat} (same : n'.about idx = n.about idx) :
    SamePage n n' idx := by
  simp only [Node.about, NodePage.mk.injEq] at same
  obtain ⟨-, slot, -, mapping, -, -, sends⟩ := same
  exact ⟨slot, mapping, sends⟩

omit [Zero Page] in
theorem SamePage.trans {n n' n'' : Node Page} {idx : Nat} (first : SamePage n n' idx)
    (second : SamePage n' n'' idx) : SamePage n n'' idx :=
  ⟨second.slot.trans first.slot, second.mapping.trans first.mapping, second.sends.trans first.sends⟩

/-- What the turn from `n` to `n'` leaves of the page: no acknowledgement is counted and nothing
is granted. -/
def Node.Idle (n n' : Node Page) (idx : Nat) : Prop :=
  (n'.gpdPendingReqs idx).expectedAcks = (n.gpdPendingReqs idx).expectedAcks ∧ ¬ n.Grants n' idx

omit [Zero Page] in
theorem SamePage.idle {n n' : Node Page} {idx : Nat} (same : SamePage n n' idx)
    (quiet : n.effects = []) : n.Idle n' idx := by
  refine ⟨by rw [same.slot], ?_⟩
  rintro (⟨before, after⟩ | ⟨sent, found, -⟩)
  · rw [same.mapping, before] at after
    cases after
  · rw [same.sends, quiet] at found
    exact absurd found List.not_mem_nil

namespace Node

variable {n : Node Page} {idx : Nat}

omit [Zero Page] in
theorem same_registerSender (clientFd : Int) (sender : Nat) :
    SamePage n (n.registerSender clientFd sender) idx := ⟨rfl, rfl, rfl⟩

theorem same_takesRequest {clientFd : Int} {packet : DsmPacket Page}
    (apart : packet.pageIndex ≠ idx) {begun : Node Page × Option (EngineTask Page)}
    (takes : n.TakesRequest clientFd packet begun) : SamePage n begun.1 idx := by
  cases takes with
  | outside => exact ⟨rfl, rfl, rfl⟩
  | fromCopy | withZeros => exact same_registerSender clientFd packet.senderNodeId
  | fetch =>
    exact (same_registerSender clientFd packet.senderNodeId).trans
      (.of_about (about_fetchFromOwner apart _ _ _ _ _))

theorem idle_handleInvalidate (quiet : n.effects = []) (clientFd : Int) (packet : DsmPacket Page) :
    n.Idle (n.handleInvalidate clientFd packet) idx := by
  by_cases own : packet.pageIndex = idx
  · subst own
    -- the page is dropped, and only an acknowledgement is sent
    unfold handleInvalidate
    dsimp only
    split
    · split
      all_goals
        refine ⟨rfl, ?_⟩
        rintro (⟨-, after⟩ | ⟨sent, found, page⟩)
        · simp [sendAllNonblocking, setStatus, setMapping, Mapping.isWritable] at after
        · simp only [sendAllNonblocking, setStatus, setMapping, quiet, List.nil_append, sendsAbout,
            List.filterMap_cons, List.filterMap_nil, if_true, List.mem_singleton] at found
          rw [found] at page
          cases page
    · exact SamePage.idle ⟨rfl, rfl, rfl⟩ quiet
  · exact (SamePage.of_about (about_handleInvalidate own n clientFd packet rfl)).idle quiet

theorem about_perform (task : EngineTask Page) (apart : task.pageIndex ≠ idx) :
    (n.perform task).about idx = n.about idx := by
  cases task with
  | zeroFill q isWrite => exact about_zeroFillLocal apart n isWrite
  | answerFromCopy clientFd q requestingNode isWrite page =>
    unfold perform
    dsimp only
    split
    · exact about_serveWriteFromCopy apart n _ _ _
    · exact about_serveReadFromCopy apart n _ _ _
  | answerWithZeros clientFd q requestingNode isWrite => exact about_serveZeroPage apart n _ _ _

theorem same_perform (task : EngineTask Page) (apart : task.pageIndex ≠ idx) :
    SamePage n (n.perform task) idx := .of_about (about_perform task apart)

omit [Zero Page] in
/-- An acknowledgement that is not the last one is only counted. -/
theorem handleInvalidateAck_more (quiet : n.effects = []) {packet : DsmPacket Page}
    (more : 1 < (n.gpdPendingReqs packet.pageIndex).expectedAcks) :
    (n.gpdPendingReqs packet.pageIndex).expectedAcks ≤
        ((n.handleInvalidateAck packet).gpdPendingReqs packet.pageIndex).expectedAcks + 1 ∧
      ¬ n.Grants (n.handleInvalidateAck packet) packet.pageIndex := by
  have none (m : Node Page) (mapping : m.mapping = n.mapping) (effects : m.effects = n.effects) :
      ¬ n.Grants m packet.pageIndex := by
    rintro (⟨before, after⟩ | ⟨sent, found, -⟩)
    · rw [mapping, before] at after
      cases after
    · rw [effects, quiet] at found
      exact absurd found List.not_mem_nil
  unfold handleInvalidateAck
  dsimp only
  split
  · rw [if_pos (by omega), if_neg (by omega)]
    refine ⟨?_, none _ rfl rfl⟩
    simp only [setPending, Function.update_self]
    omega
  · exact ⟨Nat.le_succ _, none _ rfl rfl⟩

end Node

namespace NodeThreads

variable {t t' : NodeThreads Page} {idx : Nat}

theorem idle_step {e : NodeEvent Page} (alone : t.LeavesAlone idx e)
    (notAck : e.acknowledges idx = false) (next : t.step e = some t') : t.node.Idle t'.node idx := by
  -- the calls of the turn before are forgotten, which changes neither slot nor mapping
  suffices idle : t.resume.Idle t'.node idx from idle
  cases turn_of_step next with
  | load | loadFault | storeFault | closed => exact SamePage.idle ⟨rfl, rfl, rfl⟩ rfl
  | store p contents _ writable =>
    by_cases own : p = idx
    · -- the mapping was writable before, so the store grants nothing
      subst own
      refine ⟨rfl, ?_⟩
      rintro (⟨before, -⟩ | ⟨sent, found, -⟩)
      · exact Bool.false_ne_true (before.symm.trans writable)
      · exact absurd found List.not_mem_nil
    · exact (SamePage.of_about (Node.about_setMapping own t.resume _)).idle rfl
  | fault =>
    refine SamePage.idle ?_ rfl
    unfold Node.handleFault Node.queuePush
    dsimp only
    split
    · exact ⟨rfl, rfl, rfl⟩
    · split <;> exact ⟨rfl, rfl, rfl⟩
  | drain req rest _ waiting =>
    have apart : req.pageIndex ≠ idx := alone req (by simp [waiting])
    have popped : SamePage t.resume { t.resume with sharedReqQueue := rest } idx := ⟨rfl, rfl, rfl⟩
    unfold Node.beginQueuedRequest
    split
    · exact popped.idle rfl
    · exact (popped.trans (.of_about (Node.about_serveQueuedRequest apart _ req rfl))).idle rfl
  | receive clientFd packet begun _ takes =>
    cases takes with
    | request begun kind takes =>
      have apart : packet.pageIndex ≠ idx := by
        intro own
        rcases kind with read | write
        · exact (alone own).1 read
        · exact (alone own).2.1 write
      exact (Node.same_takesRequest apart takes).idle rfl
    | page kind =>
      have apart : packet.pageIndex ≠ idx := fun own => (alone own).2.2 kind
      exact (SamePage.of_about (Node.about_handleSendPage apart t.resume packet rfl)).idle rfl
    | join => exact (Node.same_registerSender clientFd packet.senderNodeId).idle rfl
    | invalidate => exact Node.idle_handleInvalidate rfl clientFd packet
    | ack kind =>
      have apart : packet.pageIndex ≠ idx := by
        intro own
        simp [NodeEvent.acknowledges, kind, own] at notAck
      exact (SamePage.of_about (Node.about_handleInvalidateAck apart t.resume packet rfl)).idle rfl
    | other => exact SamePage.idle ⟨rfl, rfl, rfl⟩ rfl
  | finish task busy => exact (Node.same_perform task (alone task busy)).idle rfl
  | evict => exact absurd alone id

/-- While fewer acknowledgements are processed than are expected, nothing is granted. -/
theorem waits_for_acks (events : List (NodeEvent Page))
    (alone : Runs.EveryStep step (fun t e _ => t.LeavesAlone idx e) t events)
    (few : events.countP (NodeEvent.acknowledges idx) < (t.node.gpdPendingReqs idx).expectedAcks) :
    Runs.EveryStep step (fun t _ t' => ¬ t.node.Grants t'.node idx) t events := by
  -- induction on the events: each acknowledgement among them takes one off the count
  induction events generalizing t with
  | nil => trivial
  | cons e events ih =>
    intro t' next
    obtain ⟨first, rest⟩ := alone t' next
    rw [List.countP_cons] at few
    cases ack : e.acknowledges idx with
    | false =>
      rw [if_neg (by simp [ack])] at few
      obtain ⟨acks, nothing⟩ := idle_step first ack next
      exact ⟨nothing, ih rest (by omega)⟩
    | true =>
      rw [if_pos ack] at few
      cases e with
      | receive clientFd packet =>
        simp only [NodeEvent.acknowledges, decide_eq_true_eq] at ack
        obtain ⟨kind, rfl⟩ := ack
        have reached : t.step (.receive clientFd packet) = some t' := next
        obtain ⟨-, rfl⟩ := step_ack reached kind
        have more : 1 < (t.resume.gpdPendingReqs packet.pageIndex).expectedAcks := by
          have same : t.resume.gpdPendingReqs = t.node.gpdPendingReqs := rfl
          rw [same]
          omega
        obtain ⟨acks, nothing⟩ := Node.handleInvalidateAck_more (n := t.resume) rfl more
        have same : t.resume.gpdPendingReqs = t.node.gpdPendingReqs := rfl
        rw [same] at acks
        exact ⟨nothing, ih rest (by dsimp only; omega)⟩
      | load | store | fault | drain | finish | closed | evict => cases ack

end NodeThreads

/-! ### The paths -/

namespace Node

variable {n : Node Page} {idx : Nat}

omit [Zero Page] in
theorem writer_not_in_mask (n : Node Page) (idx w : Nat) :
    (n.transitionToModified idx w).2.getLsbD w = false := by
  unfold transitionToModified gpdTransitionToModified
  split
  · simp
  · simp only [Option.map_some, Option.getD_some, GpdEntry.invalidateMask]
    rw [Bitmap.getLsbD_clear]
    simp

omit [Zero Page] in
theorem numPages_transitionToModified (n : Node Page) (idx w : Nat) :
    (n.transitionToModified idx w).1.numPages = n.numPages := by
  unfold transitionToModified gpdTransitionToModified
  split <;> rfl

omit [Zero Page] in
/-- Sending loops over a mask without the coordinator's bit, skipping the writer. -/
theorem targets_eq (n : Node Page) (idx w : Nat) {mask : BitVec 64}
    (cleared : ∀ m, m ≠ w → mask.getLsbD m =
      ((n.transitionToModified idx w).2.getLsbD m && decide (m ≠ n.localNodeId))) :
    (n.connectedIn mask).filter (· ≠ w) = n.toInvalidate idx w := by
  simp only [toInvalidate, connectedIn, List.filter_filter]
  refine List.filter_congr fun m _ => ?_
  -- the writer is skipped by the loop, this node by the mask
  by_cases writer : m = w
  · simp [writer]
  · rw [cleared m writer]
    by_cases own : m = n.localNodeId
    · simp [own]
    · simp [writer, own]

/-- What a path did about the holders: it sent the invalidations, and if there were any it left
the answer to their acknowledgements. -/
structure Outcome (n n' : Node Page) (idx : Nat) (targets : List Nat) : Prop where
  sends : n'.invalidationsOf idx = targets.map n.nodeFds
  waits : targets ≠ [] →
    (n'.gpdPendingReqs idx).expectedAcks = targets.length ∧ ¬ n.Grants n' idx

omit [Zero Page] in
theorem sendsAbout_each (fds : Nat → Int) {packet : DsmPacket Page} (own : packet.pageIndex = idx)
    (targets : List Nat) :
    sendsAbout idx (targets.map fun m => Effect.send (fds m) packet) =
      targets.map fun m => (fds m, packet) := by
  simp [sendsAbout, List.filterMap_map, own]

/-- The slot is filled in and the invalidations are sent. -/
theorem outcome_waiting (n m : Node Page) (idx : Nat) (slot : CoordPending Page) (targets : List Nat)
    (quiet : m.effects = []) (fds : m.nodeFds = n.nodeFds) (acks : slot.expectedAcks = targets.length)
    (kept : (m.mapping idx).isWritable = true → (n.mapping idx).isWritable = true) :
    n.Outcome ((m.setPending idx slot).sendInvalidations idx targets) idx targets := by
  have sends : sendsAbout idx ((m.setPending idx slot).sendInvalidations idx targets).effects =
      targets.map fun t => (n.nodeFds t, invalidatePacket idx) := by
    simp only [sendInvalidations, setPending, quiet, fds, List.nil_append]
    exact sendsAbout_each n.nodeFds (show (invalidatePacket idx : DsmPacket Page).pageIndex = idx from rfl)
      targets
  constructor
  · rw [invalidationsOf, sends]
    simp [invalidatePacket, List.filterMap_map]
  · refine fun _ => ⟨by simp [sendInvalidations, setPending, acks], ?_⟩
    -- nothing became writable, and all that is sent are invalidations
    rintro (⟨before, after⟩ | ⟨sent, found, page⟩)
    · rw [kept after] at before
      cases before
    · rw [sends] at found
      obtain ⟨m, -, rfl⟩ := List.mem_map.mp found
      cases page

omit [Zero Page] in
/-- Nobody has to be invalidated. -/
theorem outcome_none {n' : Node Page} (nothing : n'.invalidationsOf idx = []) :
    n.Outcome n' idx [] := ⟨nothing, fun some => absurd rfl some⟩

theorem invalidatesFirst_iff_dropped {n' : Node Page} {w : Nat}
    (outcome : n.Outcome n' idx (n.toInvalidate idx w)) :
    (∀ later, n'.LeftAlone idx later → InvalidatesFirst n n' w idx later) ↔
      (w ≠ n.localNodeId → (n'.mapping idx).isMapped = false) := by
  constructor
  · exact fun first => (first [] trivial).dropped
  · intro dropped later alone
    refine ⟨outcome.sends, dropped, ?_, ?_⟩
    · intro grants
      by_contra some
      rw [outcome.sends] at some
      exact (outcome.waits fun none => some (by rw [none]; rfl)).2 grants
    · -- as many acknowledgements are expected as invalidations were sent
      intro few
      rw [outcome.sends, List.length_map] at few
      have waiting := outcome.waits (List.ne_nil_of_length_pos (Nat.zero_lt_of_lt few))
      exact NodeThreads.waits_for_acks later alone (by rw [waiting.1]; exact few)

variable (quiet : n.effects = [])
include quiet

theorem outcome_upgrade : n.Outcome (n.upgradeLocalCopy idx) idx (n.toInvalidate idx n.localNodeId) := by
  have targets : n.connectedIn (n.transitionToModified idx n.localNodeId).2 =
      n.toInvalidate idx n.localNodeId := by
    rw [toInvalidate]
    refine (List.filter_eq_self.mpr fun m member => ?_).symm
    simp only [connectedIn, List.mem_filter, Bool.and_eq_true] at member
    -- the mask never lists the writer, here this node
    have other : m ≠ n.localNodeId := by
      rintro rfl
      rw [writer_not_in_mask] at member
      exact Bool.false_ne_true member.2.1
    simp [other]
  unfold upgradeLocalCopy
  dsimp only
  have same : (n.transitionToModified idx n.localNodeId).1.connectedIn
      (n.transitionToModified idx n.localNodeId).2 = n.toInvalidate idx n.localNodeId := targets
  rw [same]
  split
  · exact outcome_waiting n (n.transitionToModified idx n.localNodeId).1 idx _ _ quiet rfl rfl id
  next none =>
    rw [List.length_eq_zero_iff.mp (Nat.eq_zero_of_not_pos none)]
    apply outcome_none
    simp only [invalidationsOf, liftWriteProtection]
    rw [show (n.transitionToModified idx n.localNodeId).1.effects = [] from quiet]
    rfl

/-- A local miss sends nothing. -/
theorem outcome_localMiss (idx : Nat) : n.Outcome (n.zeroFillLocal idx true) idx [] := by
  apply outcome_none
  have effects : (n.zeroFillLocal idx true).effects = [.uffdioCopy idx 0] := by
    rw [show (n.zeroFillLocal idx true).effects = n.effects ++ [.uffdioCopy idx 0] from rfl, quiet]
    rfl
  rw [invalidationsOf, effects]
  rfl

/-- Deferring or sending an answer, after the node's copy was or was not dropped. -/
theorem outcome_deferOrSend {m : Node Page} {w : Nat} {mask : BitVec 64}
    (response : DsmPacket Page) (page : response.type = .sendPage) (clientFd : Int)
    (effects : m.effects = n.effects) (fds : m.nodeFds = n.nodeFds)
    (kept : (m.mapping response.pageIndex).isWritable = true →
      (n.mapping response.pageIndex).isWritable = true)
    (targets : (n.connectedIn mask).filter (· ≠ w) = n.toInvalidate response.pageIndex w) :
    n.Outcome (m.deferOrSend clientFd w mask response) response.pageIndex
      (n.toInvalidate response.pageIndex w) := by
  unfold deferOrSend
  dsimp only
  rw [show (m.connectedIn mask).filter (· ≠ w) = n.toInvalidate response.pageIndex w by
    rw [← targets, connectedIn, connectedIn, fds]]
  split
  · exact outcome_waiting n m _ _ _ (effects.trans quiet) fds rfl kept
  next none =>
    rw [List.length_eq_zero_iff.mp (Nat.eq_zero_of_not_pos none)]
    apply outcome_none
    rw [invalidationsOf, sendAllNonblocking, effects, quiet]
    simp [sendsAbout, page]

omit quiet [Zero Page] in
/-- Taking ownership for another node drops the copy here if the mask lists it. -/
theorem ownDroppingLocal_spec (n : Node Page) (inRange : idx < n.numPages) (w : Nat) :
    ((n.ownDroppingLocal idx w).1.effects = n.effects ∧
      (n.ownDroppingLocal idx w).1.nodeFds = n.nodeFds) ∧
      (n.ownDroppingLocal idx w).1.gpdPendingReqs = n.gpdPendingReqs ∧
      (n.ownDroppingLocal idx w).1.mapping idx =
        (if (n.transitionToModified idx w).2.getLsbD n.localNodeId ∧ n.localNodeId ≠ w then .unmapped
        else n.mapping idx) ∧
      ∀ m, m ≠ w → (n.ownDroppingLocal idx w).2.getLsbD m =
        ((n.transitionToModified idx w).2.getLsbD m && decide (m ≠ n.localNodeId)) := by
  unfold ownDroppingLocal
  dsimp only
  split
  next listed =>
    refine ⟨⟨rfl, rfl⟩, rfl, ?_, fun m _ => Bitmap.getLsbD_clear _ _ _⟩
    have inside : ¬ (n.transitionToModified idx w).1.numPages ≤ idx := by
      rw [numPages_transitionToModified]
      exact Nat.not_le.mpr inRange
    simp [invalidateLocalPageCopy, inside]
  next kept =>
    refine ⟨⟨rfl, rfl⟩, rfl, rfl, fun m other => ?_⟩
    -- the copy is kept because the mask does not list this node
    by_cases own : m = n.localNodeId
    · subst own
      have absent : (n.transitionToModified idx w).2.getLsbD n.localNodeId = false := by
        cases bit : (n.transitionToModified idx w).2.getLsbD n.localNodeId with
        | false => rfl
        | true => exact absurd ⟨bit, other⟩ kept
      rw [absent]
      rfl
    · simp [own]

omit quiet [Zero Page] in
theorem kept_ownDroppingLocal (inRange : idx < n.numPages) (w : Nat)
    (writable : ((n.ownDroppingLocal idx w).1.mapping idx).isWritable = true) :
    (n.mapping idx).isWritable = true := by
  obtain ⟨-, -, mapping, -⟩ := ownDroppingLocal_spec n inRange w
  rw [mapping] at writable
  split at writable
  · cases writable
  · exact writable

omit quiet [Zero Page] in
/-- For another node's write the copy here is gone exactly if the mask lists it. -/
theorem dropped_iff_listed (inRange : idx < n.numPages) (w : Nat) :
    (w ≠ n.localNodeId → ((n.ownDroppingLocal idx w).1.mapping idx).isMapped = false) ↔
      (w ≠ n.localNodeId → (n.mapping idx).isMapped = true →
        (n.transitionToModified idx w).2.getLsbD n.localNodeId = true) := by
  obtain ⟨-, -, mapping, -⟩ := ownDroppingLocal_spec n inRange w
  refine imp_congr_right fun other => ?_
  rw [mapping]
  cases listed : (n.transitionToModified idx w).2.getLsbD n.localNodeId with
  | true => simp [other.symm, Mapping.isMapped]
  | false => simp

omit quiet in
theorem mapping_deferOrSend (n : Node Page) (clientFd : Int) (w : Nat) (mask : BitVec 64)
    (response : DsmPacket Page) : (n.deferOrSend clientFd w mask response).mapping = n.mapping := by
  unfold deferOrSend
  dsimp only
  split <;> rfl

theorem outcome_fromCopy (inRange : idx < n.numPages) (clientFd : Int) (w : Nat) (page : Page) :
    n.Outcome (n.serveWriteFromCopy clientFd idx w page) idx (n.toInvalidate idx w) ∧
      ((n.serveWriteFromCopy clientFd idx w page).mapping idx).isMapped = false := by
  have inside : ¬ (n.transitionToModified idx w).1.numPages ≤ idx := by
    rw [numPages_transitionToModified]
    exact Nat.not_le.mpr inRange
  have dropped : ((n.transitionToModified idx w).1.invalidateLocalPageCopy idx).mapping idx =
      .unmapped := by
    simp [invalidateLocalPageCopy, inside]
  constructor
  · refine outcome_deferOrSend quiet ⟨.sendPage, idx, n.localNodeId, page⟩ rfl clientFd rfl rfl ?_
      (targets_eq n idx w fun m _ => Bitmap.getLsbD_clear _ _ _)
    intro writable
    rw [dropped] at writable
    cases writable
  · -- the copy is dropped before the answer, whatever the mask says
    rw [serveWriteFromCopy, mapping_deferOrSend, dropped]
    rfl

theorem outcome_withoutCopy (inRange : idx < n.numPages) (clientFd : Int) (w : Nat) :
    n.Outcome (n.serveZeroPage clientFd idx w true) idx (n.toInvalidate idx w) ∧
      (n.serveZeroPage clientFd idx w true).mapping = (n.ownDroppingLocal idx w).1.mapping := by
  obtain ⟨⟨effects, fds⟩, -, -, cleared⟩ := ownDroppingLocal_spec n inRange w
  constructor
  · exact outcome_deferOrSend quiet ⟨.sendPage, idx, n.localNodeId, 0⟩ rfl clientFd effects fds
      (kept_ownDroppingLocal inRange w) (targets_eq n idx w cleared)
  · exact mapping_deferOrSend _ _ _ _ _

theorem outcome_fetchedPage {packet : DsmPacket Page} (inRange : packet.pageIndex < n.numPages)
    (page : packet.type = .sendPage) {w : Nat}
    (asked : (n.gpdPendingReqs packet.pageIndex).requesterNodeId = w) :
    n.Outcome (n.replyToPendingWrite packet) packet.pageIndex (n.toInvalidate packet.pageIndex w) ∧
      (w ≠ n.localNodeId → (n.replyToPendingWrite packet).mapping =
        (n.ownDroppingLocal packet.pageIndex w).1.mapping) := by
  obtain ⟨⟨effects, fds⟩, slots, -, cleared⟩ := ownDroppingLocal_spec n inRange w
  have self : (n.ownDroppingLocal packet.pageIndex w).1.localNodeId = n.localNodeId := by
    unfold ownDroppingLocal; dsimp only; split <;> rfl
  have targets : ((n.ownDroppingLocal packet.pageIndex w).1.connectedIn
      (n.ownDroppingLocal packet.pageIndex w).2).filter (· ≠ w) = n.toInvalidate packet.pageIndex w := by
    rw [← targets_eq n packet.pageIndex w cleared, connectedIn, connectedIn, fds]
  unfold replyToPendingWrite
  dsimp only
  rw [asked, targets]
  split
  · refine ⟨?_, fun _ => rfl⟩
    exact outcome_waiting n _ _ _ _ (effects.trans quiet) fds rfl (kept_ownDroppingLocal inRange w)
  next none =>
    rw [List.length_eq_zero_iff.mp (Nat.eq_zero_of_not_pos none)]
    unfold completePending
    dsimp only
    rw [slots, asked, self]
    split
    -- the page is for this node's own write, or is forwarded
    next own =>
      refine ⟨outcome_none ?_, fun other => absurd own other⟩
      simp [invalidationsOf, setPending, installPage, dsmMarkAccessed, effects, quiet]
    next other =>
      refine ⟨outcome_none ?_, fun _ => rfl⟩
      simp [invalidationsOf, setPending, sendAllNonblocking, effects, quiet, sendsAbout, page]

end Node

/-- A path on which node `w` becomes the owner invalidates all holders first, while no other request
or page reply for the page is taken up, exactly if it is not a local miss with a connected holder,
and the mask lists the coordinator's own copy of the page when another node's write is served with a
fetched page or with zeros. -/
theorem invalidates_first_iff (n n' : Node Page) (kind : WriteKind) (w idx : Nat)
    (quiet : n.effects = []) (path : WritePath n kind w idx n') :
    (∀ later, n'.LeftAlone idx later → InvalidatesFirst n n' w idx later) ↔
      kind.Covered n w idx := by
  cases path with
  | localUpgrade idx present =>
    rw [Node.invalidatesFirst_iff_dropped (Node.outcome_upgrade quiet)]
    exact iff_of_true (fun other => absurd rfl other) trivial
  | localMiss idx missing =>
    have outcome := Node.outcome_localMiss quiet idx
    constructor
    · -- a local miss sends nothing, so nobody may hold the page
      intro first
      have sent := (first [] trivial).invalidated.symm.trans outcome.sends
      exact List.map_eq_nil_iff.mp sent
    · intro covered
      have none : n.toInvalidate idx n.localNodeId = [] := covered
      rw [← none] at outcome
      exact (Node.invalidatesFirst_iff_dropped outcome).mpr fun other => absurd rfl other
  | fetchedPage packet inRange page asked write =>
    obtain ⟨outcome, mapping⟩ := Node.outcome_fetchedPage quiet inRange page rfl
    rw [Node.invalidatesFirst_iff_dropped outcome]
    refine Iff.trans ?_ (Node.dropped_iff_listed inRange _)
    exact forall_congr' fun other => by rw [mapping other]
  | fromCopy clientFd idx requestingNode page inRange =>
    obtain ⟨outcome, dropped⟩ := Node.outcome_fromCopy quiet inRange clientFd w page
    rw [Node.invalidatesFirst_iff_dropped outcome]
    exact iff_of_true (fun _ => dropped) trivial
  | withoutCopy clientFd idx requestingNode inRange =>
    obtain ⟨outcome, mapping⟩ := Node.outcome_withoutCopy quiet inRange clientFd w
    rw [Node.invalidatesFirst_iff_dropped outcome, mapping]
    exact Node.dropped_iff_listed inRange w

/-- Nodes 2 and 4 read page 0, and then node 3 writes it. Only node 2 has acknowledged. -/
theorem invalidates_first_two_readers : ∃ n : Node PageBytes, n.toInvalidate 0 3 = [2, 4] ∧
    InvalidatesFirst n (n.serveZeroPage 13 0 3 true) 3 0 [.receive 12 ⟨.invalidateAck, 0, 2, 0⟩] := by
  obtain ⟨t, -, holders, absent⟩ := Runs.exists_run NodeThreads.step (fun _ _ => True)
    (.start 1 (-1) 4) [.receive 12 ⟨.requestPageRead, 0, 2, 0⟩, .finish,
      .receive 14 ⟨.requestPageRead, 0, 4, 0⟩, .finish]
    (fun t : NodeThreads PageBytes => t.resume.toInvalidate 0 3 = [2, 4] ∧ 0 < t.resume.numPages ∧
      (t.resume.mapping 0).isMapped = false) (by decide +kernel)
  have path := WritePath.withoutCopy (n := t.resume) 13 0 3 absent.1
  have covered : WriteKind.withoutCopy.Covered t.resume 3 0 := by
    intro _ mapped
    cases absent.2.symm.trans mapped
  have alone : (t.resume.serveZeroPage 13 0 3 true).LeftAlone 0
      [.receive 12 ⟨.invalidateAck, 0, 2, 0⟩] := fun _ _ => ⟨fun _ => by decide, trivial⟩
  exact ⟨t.resume, holders, (invalidates_first_iff _ _ _ _ _ rfl path).mpr covered _ alone⟩

/-- Node 2 reads page 0, and then the coordinator writes it. -/
def writeAfterRead : List (NodeEvent PageBytes) :=
  [.receive 12 ⟨.requestPageRead, 0, 2, 0⟩, .finish, .store 0 (fun _ => 7), .fault, .drain]

/-- The coordinator becomes the owner of the page, and node 2 keeps its copy. -/
theorem local_miss_invalidates_nobody : ¬ ∀ t : NodeThreads PageBytes,
    Runs.Run NodeThreads.step (fun _ _ => True) (.start 1 (-1) 4) t →
    ∀ kind w idx n', WritePath t.resume kind w idx n' →
      InvalidatesFirst t.resume n' w idx [] := by
  intro claim
  obtain ⟨t, run, missing, holders⟩ := Runs.exists_run NodeThreads.step (fun _ _ => True)
    (.start 1 (-1) 4) writeAfterRead
    (fun t => t.resume.MissesLocally 0 ∧ t.resume.toInvalidate 0 t.resume.localNodeId = [2])
    (by decide +kernel)
  have first := claim t run .localMiss _ 0 _ (.localMiss 0 missing)
  have sent := first.invalidated.symm.trans (Node.outcome_localMiss rfl 0).sends
  rw [holders] at sent
  cases sent

end TeleportVM
