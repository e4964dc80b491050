import TeleportVM.Threads

/-!
Requests of other nodes for a page that is mapped here. The engine looks at the page's status,
not at the mapping: a page whose upgrade is in flight counts as absent.
-/
namespace TeleportVM

variable {Page : Type} [Zero Page]

/-- The answer to a request for page `idx` carries these contents: it is sent at once, or it is
kept in the page's slot until the invalidations sent for it are acknowledged. -/
inductive Node.Answers (n n' : Node Page) (clientFd : Int) (idx requestingNode : Nat)
    (page : Page) : Prop where
  | sent (effects : n'.effects =
      n.effects ++ [.send clientFd ⟨.sendPage, idx, n.localNodeId, page⟩])
  | deferred (targets : List Nat) (waiting : targets ≠ [])
      (effects : n'.effects =
        n.effects ++ targets.map fun m => .send (n.nodeFds m) (Node.invalidatePacket idx))
      (slot : n'.gpdPendingReqs idx =
        ⟨requestingNode, .requestPageWrite, clientFd, targets.length, page⟩)

/-- The contents that a task answers its request with. -/
def EngineTask.AnswersWith (task : EngineTask Page) (clientFd : Int) (idx requestingNode : Nat)
    (page : Page) : Prop :=
  ∀ n : Node Page, n.Answers (n.perform task) clientFd idx requestingNode page

namespace Node

theorem answers_deferOrSend {n m : Node Page} (effects : m.effects = n.effects)
    (fds : m.nodeFds = n.nodeFds) (clientFd : Int) (idx requestingNode : Nat) (mask : BitVec 64)
    (page : Page) :
    n.Answers (m.deferOrSend clientFd requestingNode mask ⟨.sendPage, idx, n.localNodeId, page⟩)
      clientFd idx requestingNode page := by
  unfold deferOrSend
  dsimp only
  split
  next some =>
    refine .deferred _ (List.ne_nil_of_length_pos some) ?_ ?_
    · simp [sendInvalidations, setPending, effects, fds]
    · simp [sendInvalidations, setPending]
  · apply Answers.sent
    rw [sendAllNonblocking, effects]

omit [Zero Page] in
theorem ownDroppingLocal_frame (n : Node Page) (idx writer : Nat) :
    (n.ownDroppingLocal idx writer).1.effects = n.effects ∧
      (n.ownDroppingLocal idx writer).1.nodeFds = n.nodeFds := by
  unfold ownDroppingLocal
  dsimp only
  split <;> exact ⟨rfl, rfl⟩

/-- A request served from the copy in the engine's buffer. -/
theorem answersWith_copy (clientFd : Int) (idx requestingNode : Nat) (isWrite : Bool) (page : Page) :
    (EngineTask.answerFromCopy clientFd idx requestingNode isWrite page).AnswersWith clientFd idx
      requestingNode page := by
  intro n
  unfold perform
  dsimp only
  split
  · unfold serveWriteFromCopy
    exact answers_deferOrSend (n := n)
      (m := (n.transitionToModified idx requestingNode).1.invalidateLocalPageCopy idx) rfl rfl
      clientFd idx requestingNode _ page
  · apply Answers.sent
    unfold serveReadFromCopy writeprotectLocalPageCopy
    dsimp only
    split <;> rfl

theorem answersWith_zeros (clientFd : Int) (idx requestingNode : Nat) (isWrite : Bool) :
    (EngineTask.answerWithZeros clientFd idx requestingNode isWrite : EngineTask Page).AnswersWith
      clientFd idx requestingNode 0 := by
  intro n
  unfold perform serveZeroPage
  dsimp only
  split
  · obtain ⟨effects, fds⟩ := ownDroppingLocal_frame n idx requestingNode
    exact answers_deferOrSend effects fds clientFd idx requestingNode _ 0
  · exact .sent rfl

end Node

/-- A task answers with one page. -/
theorem EngineTask.AnswersWith.unique {task : EngineTask Page} {clientFd : Int}
    {idx requestingNode : Nat} {page page' : Page}
    (first : task.AnswersWith clientFd idx requestingNode page)
    (second : task.AnswersWith clientFd idx requestingNode page') : page = page' := by
  have ⟨n⟩ : Nonempty (Node Page) := ⟨.boot 0 0 0⟩
  rcases first n with sent | ⟨targets, waiting, kept, slot⟩
  · rcases second n with sent' | ⟨targets', waiting', kept', slot'⟩
    · have same := List.append_cancel_left (sent.symm.trans sent')
      injection same with same
      injection same with _ same
      injection same
    · -- the first effect is a page, or an invalidation
      have same := List.append_cancel_left (sent.symm.trans kept')
      cases targets' with
      | nil => exact absurd rfl waiting'
      | cons => cases same
  · rcases second n with sent' | ⟨targets', waiting', kept', slot'⟩
    · have same := List.append_cancel_left (kept.symm.trans sent')
      cases targets with
      | nil => exact absurd rfl waiting
      | cons => cases same
    · have same := slot.symm.trans slot'
      injection same

namespace NodeThreads

/-- After the step the engine is about to answer the request in `packet` with `page`, whatever
the other threads do before it does. -/
def AboutToAnswer (t : NodeThreads Page) (clientFd : Int) (packet : DsmPacket Page) (page : Page) :
    Prop :=
  ∃ task, t.task = some task ∧
    task.AnswersWith clientFd packet.pageIndex packet.senderNodeId page

/-- Another node's request for a page that is mapped with these contents. -/
def RequestsCopy (t : NodeThreads Page) (packet : DsmPacket Page) (contents : Page) : Prop :=
  (packet.type = .requestPageRead ∨ packet.type = .requestPageWrite) ∧
    packet.senderNodeId ≠ t.node.localNodeId ∧ packet.pageIndex < t.node.numPages ∧
    (t.node.mapping packet.pageIndex).contents = some contents

/-- If the step is a request for a mapped page, it is answered with the mapped contents. -/
def ServesCopy (t : NodeThreads Page) (e : NodeEvent Page) (t' : NodeThreads Page) : Prop :=
  match e with
  | .receive clientFd packet =>
    ∀ contents, t.RequestsCopy packet contents → t'.AboutToAnswer clientFd packet contents
  | _ => True

/-- The engine sees the page: its status is `PAGE_VALID`, or the page is zero and there is no
other node to fetch it from. -/
def SeesCopy (t : NodeThreads Page) (packet : DsmPacket Page) (contents : Page) : Prop :=
  t.node.pageTable packet.pageIndex = .valid ∨
    (contents = 0 ∧ ¬ (t.node.CanFetch packet.pageIndex ∧
      gpdGetOwner t.node.directory packet.pageIndex ≠ packet.senderNodeId))

def RequestsSeen (t : NodeThreads Page) (e : NodeEvent Page) : Prop :=
  match e with
  | .receive _ packet => ∀ contents, t.RequestsCopy packet contents → t.SeesCopy packet contents
  | _ => True

omit [Zero Page] in
/-- Registering the sender of a request does not change who else can be asked. -/
theorem canFetch_register (n : Node Page) (clientFd : Int) (idx sender : Nat) :
    ((n.registerSender clientFd sender).CanFetch idx ∧
        gpdGetOwner (n.registerSender clientFd sender).directory idx ≠ sender) ↔
      (n.CanFetch idx ∧ gpdGetOwner n.directory idx ≠ sender) := by
  refine and_congr_left fun other => ?_
  simp only [Node.CanFetch, Node.registerSender] at other ⊢
  split
  · rw [Function.update_of_ne other]
  · exact Iff.rfl

theorem answer_iff {t t' : NodeThreads Page} {clientFd : Int} {packet : DsmPacket Page}
    {contents : Page} (copy : t.RequestsCopy packet contents)
    (next : t.step (.receive clientFd packet) = some t') :
    t'.AboutToAnswer clientFd packet contents ↔ t.SeesCopy packet contents := by
  obtain ⟨request, -, inRange, mapped⟩ := copy
  have elsewhere := canFetch_register t.resume clientFd packet.pageIndex packet.senderNodeId
  cases turn_of_step next with
  | receive _ _ _ _ takes =>
    cases takes with
    | request _ _ takes =>
      cases takes with
      | outside outside => exact absurd inRange outside
      | fromCopy page _ valid copied =>
        -- the contents are copied into the response
        cases mapped.symm.trans copied
        exact iff_of_true ⟨_, rfl, Node.answersWith_copy _ _ _ _ _⟩ (Or.inl valid)
      | fetch _ absent fetch =>
        refine iff_of_false ?_ ?_
        · rintro ⟨task, none, -⟩
          cases none
        · rintro (seen | ⟨-, unowned⟩)
          · exact absent seen
          · exact unowned (elsewhere.mp fetch)
      | withZeros _ absent zeros =>
        constructor
        · rintro ⟨task, same, answers⟩
          cases same
          refine Or.inr ⟨answers.unique (Node.answersWith_zeros _ _ _ _), fun fetch => zeros (elsewhere.mpr fetch)⟩
        · rintro (seen | ⟨rfl, -⟩)
          · exact absurd seen absent
          · exact ⟨_, rfl, Node.answersWith_zeros _ _ _ _⟩
    | page kind | join kind | invalidate kind | ack kind | other _ kind => simp [kind] at request

theorem serves_iff_seen {t t' : NodeThreads Page} {e : NodeEvent Page} (next : t.step e = some t') :
    t.ServesCopy e t' ↔ t.RequestsSeen e := by
  cases e with
  | receive clientFd packet =>
    constructor
    · intro serves contents copy
      exact (answer_iff copy next).mp (serves contents copy)
    · intro seen contents copy
      exact (answer_iff copy next).mpr (seen contents copy)
  | load | store | fault | drain | finish | closed | evict => exact Iff.rfl

end NodeThreads

/-- In a run of a node every request for a page that is mapped there is answered with the mapped
contents, exactly if at every such request the page is `PAGE_VALID`, or is zero and cannot be
fetched from another node. -/
theorem present_copy_served_iff (id : Nat) (coordinatorFd : Int) (numPages : Nat)
    (events : List (NodeEvent Page)) :
    Runs.EveryStep NodeThreads.step (fun t e t' => t.ServesCopy e t')
        (.start id coordinatorFd numPages) events ↔
      Runs.EveryStep NodeThreads.step (fun t e _ => t.RequestsSeen e)
        (.start id coordinatorFd numPages) events := by
  apply Runs.everyStep_iff (fun _ => True)
  · intros; trivial
  · intro t e t' _ next
    exact NodeThreads.serves_iff_seen next
  · trivial

/-- The coordinator writes page 0 and serves a read of it. Its next store to the page faults,
and the fault handler takes the fault. -/
def upgradeInFlight : List (NodeEvent PageBytes) :=
  [.store 0 (fun _ => 7), .fault, .drain, .finish, .store 0 (fun _ => 7),
    .receive 12 ⟨.requestPageRead, 0, 2, 0⟩, .finish, .store 0 (fun _ => 8), .fault]

/-- Then a write request of node 3 arrives: it is answered with zeros. -/
theorem mapped_page_answered_with_zeros : ¬ ∀ events : List (NodeEvent PageBytes),
    Runs.EveryStep NodeThreads.step (fun t e t' => t.ServesCopy e t') (.start 1 (-1) 4) events := by
  intro claim
  let request : DsmPacket PageBytes := ⟨.requestPageWrite, 0, 3, 0⟩
  obtain ⟨t, executed, pending, id, inRange, seven, enabled⟩ := Runs.exists_exec NodeThreads.step
    (fun _ _ => True) (.start 1 (-1) 4) upgradeInFlight
    (fun t => t.node.pageTable 0 = .writePending ∧ t.node.localNodeId = 1 ∧ 0 < t.node.numPages ∧
      ((t.node.mapping 0).contents.map fun page => page 0) = some 7 ∧
      (t.step (.receive 13 request)).isSome = true) (by decide +kernel)
  obtain ⟨contents, mapped, first⟩ := Option.map_eq_some_iff.mp seven
  obtain ⟨t', next⟩ := Option.isSome_iff_exists.mp enabled
  have copy : t.RequestsCopy request contents :=
    ⟨Or.inr rfl, by rw [id]; decide, inRange, mapped⟩
  have serves : t.ServesCopy (.receive 13 request) t' :=
    (claim (upgradeInFlight ++ [.receive 13 request])).last executed next
  rcases (NodeThreads.answer_iff copy next).mp (serves contents copy) with valid | ⟨rfl, -⟩
  · exact absurd (pending.symm.trans valid) nofun
  · exact absurd first (by decide)

end TeleportVM
