import TeleportVM.Residency

/-!
What the fault handler does with one page-fault message: it queues a request, or finds the page
mapped, or meets a full queue. Eviction is off.
-/
namespace TeleportVM

variable {Page : Type}

/-- The threads of a node, with the requests that the engine has taken from the queue and that
are still to be answered. -/
structure FaultLog (Page : Type) where
  threads : NodeThreads Page
  inFlight : List PageRequest

/-- A request of this kind lets the other one's access succeed too. -/
def PageRequest.Suffices (request fault : PageRequest) : Prop :=
  request.pageIndex = fault.pageIndex ∧ (fault.isWrite = true → request.isWrite = true)

instance (request fault : PageRequest) : Decidable (request.Suffices fault) :=
  inferInstanceAs (Decidable (_ ∧ _))

/-- The mapping allows the access. -/
def Mapping.Allows (m : Mapping Page) (isWrite : Bool) : Prop :=
  if isWrite then m.isWritable = true else m.isMapped = true

instance (m : Mapping Page) (isWrite : Bool) : Decidable (m.Allows isWrite) :=
  inferInstanceAs (Decidable (ite _ _ _))

theorem Mapping.allows_unmapped {m : Mapping Page} {isWrite : Bool} (unmapped : m.isMapped = false) :
    m.Allows isWrite = False := by
  cases m with
  | unmapped => cases isWrite <;> simp [Allows, isMapped, isWritable]
  | readOnly | readWrite => cases unmapped

namespace NodeThreads

/-- The request that a turn takes from the queue. -/
def popped (t : NodeThreads Page) : NodeEvent Page → Option PageRequest
  | .drain => t.node.sharedReqQueue.head?
  | _ => none

/-- The engine still owes the request that it has just taken an answer: it is inside the handler,
or it has asked other nodes. -/
def owes (t : NodeThreads Page) : Bool :=
  t.task.isSome || t.node.effects.any fun
    | .send _ _ => true
    | _ => false

/-- The turn made page `idx` accessible, or was sent its contents and passed them on to nobody. -/
def answers (t : NodeThreads Page) (e : NodeEvent Page) (idx : Nat) : Bool :=
  (t.node.effects.any fun
    | .uffdioCopy copied _ => copied = idx
    | .uffdioUnprotect unprotected => unprotected = idx
    | .send _ _ => false) ||
  match e with
  | .receive _ packet => packet.type = .sendPage && packet.pageIndex = idx && t.node.effects.isEmpty
  | _ => false

end NodeThreads

namespace Node

/-- The queue gains the request unless the handler skips it or the queue is full. -/
theorem handleFault_queue (n : Node Page) (fault : PageRequest) :
    (n.handleFault fault).sharedReqQueue = n.sharedReqQueue ++
      (if (n.pageTable fault.pageIndex = .valid ∧ fault.isWrite = false) ∨ n.QueueFull then []
        else [fault]) := by
  unfold handleFault
  dsimp only
  -- a read of a page that is there by now asks for nothing
  by_cases skips : n.pageTable fault.pageIndex = .valid ∧ fault.isWrite = false
  · rw [if_pos skips, if_pos (Or.inl skips), List.append_nil]
  · rw [if_neg skips]
    by_cases full : n.QueueFull
    · rw [queuePush_full (show (n.setStatus _ _).QueueFull from full), if_pos (Or.inr full),
        List.append_nil]
      rfl
    · rw [queuePush_room (show ¬ (n.setStatus _ _).QueueFull from full),
        if_neg (not_or.mpr ⟨skips, full⟩)]
      rfl

end Node

namespace Residence

/-- A page that is `PAGE_EMPTY` is not mapped. -/
def Blank (r : Residence Page) : Prop := r.status = .empty → r.mapping.isMapped = false

theorem Change.blank {r r' : Residence Page} (change : Change r r') (blank : r.Blank) : r'.Blank := by
  intro empty
  cases change with
  | keep => exact blank empty
  | write _ writable =>
    -- a store needs a mapping, which an empty page does not have
    have mapped := Mapping.isMapped_of_isWritable writable
    rw [blank empty] at mapped
    cases mapped
  | install => cases empty
  | lift => cases empty
  | drop => rfl
  | protect => exact (Mapping.isMapped_protect _).trans (blank empty)

/-- A fault leaves a page `PAGE_EMPTY` only if its request is lost. -/
theorem blank_faulted {r : Residence Page} {isWrite : Bool} {full : Prop} [Decidable full]
    (blank : r.Blank) (kept : (r.status = .valid ∧ isWrite = false) ∨ ¬ full) :
    (r.faulted isWrite full).Blank := by
  unfold faulted
  split
  · exact blank
  next acts =>
    -- the status of a page that is asked for is a pending one
    rw [if_neg (kept.resolve_left acts)]
    intro empty
    simp only [Node.faultStatus] at empty
    split at empty <;> cases empty

end Residence

namespace FaultLog

variable [Zero Page]

abbrev node (s : FaultLog Page) : Node Page := s.threads.node

/-- One turn, which may put one request in flight and answers at most the oldest one of a page. -/
def step (s : FaultLog Page) : NodeEvent Page → Option (FaultLog Page)
  | .evict _ => none
  | e => (s.threads.step e).map fun t =>
    ⟨t, (s.inFlight ++ if t.owes then (s.threads.popped e).toList else []).eraseP
      fun request => t.answers e request.pageIndex⟩

def start (id : Nat) (coordinatorFd : Int) (numPages : Nat) : FaultLog Page :=
  ⟨.start id coordinatorFd numPages, []⟩

/-! ### One fault -/

/-- The fault handler looks at the page and has nothing to do. -/
def Skips (s : FaultLog Page) (fault : PageRequest) : Prop :=
  s.node.pageTable fault.pageIndex = .valid ∧ fault.isWrite = false

instance (s : FaultLog Page) (fault : PageRequest) : Decidable (s.Skips fault) :=
  inferInstanceAs (Decidable (_ ∧ _))

/-- `queue_push` fails. -/
def PushFails (s : FaultLog Page) (fault : PageRequest) : Prop :=
  ¬ s.Skips fault ∧ s.node.QueueFull

instance (s : FaultLog Page) (fault : PageRequest) : Decidable (s.PushFails fault) :=
  inferInstanceAs (Decidable (_ ∧ _))

/-- An earlier request that is queued or in flight does for the fault as well. -/
def Covers (s : FaultLog Page) (fault : PageRequest) : Prop :=
  ∃ request ∈ s.node.sharedReqQueue ++ s.inFlight, request.Suffices fault

instance (s : FaultLog Page) (fault : PageRequest) : Decidable (s.Covers fault) :=
  inferInstanceAs (Decidable (∃ request ∈ _, _))

/-- The fault's request is queued, or the access succeeds when it is retried. -/
def Answered (s : FaultLog Page) (fault : PageRequest) (s' : FaultLog Page) : Prop :=
  s'.node.sharedReqQueue = s.node.sharedReqQueue ++ [fault] ∨
    (s'.node.mapping fault.pageIndex).Allows fault.isWrite

/-- The page's status is what it was, and the fault is covered. -/
def Kept (s : FaultLog Page) (fault : PageRequest) (s' : FaultLog Page) : Prop :=
  s'.node.pageTable fault.pageIndex = s.node.pageTable fault.pageIndex ∧ s.Covers fault

instance (s : FaultLog Page) (fault : PageRequest) (s' : FaultLog Page) :
    Decidable (s.Answered fault s') := inferInstanceAs (Decidable (_ ∨ _))

instance (s : FaultLog Page) (fault : PageRequest) (s' : FaultLog Page) :
    Decidable (s.Kept fault s') := inferInstanceAs (Decidable (_ ∧ _))

/-- What a property of faults says of a step: something only if the fault handler takes one. -/
def OnFault (property : FaultLog Page → PageRequest → FaultLog Page → Prop) (s : FaultLog Page)
    (e : NodeEvent Page) (s' : FaultLog Page) : Prop :=
  ∀ fault ∈ s.node.uffdMessages.head?, e = .fault → property s fault s'

/-- Every fault is answered, and one whose push fails is kept and covered besides. -/
def Delivered (s : FaultLog Page) (fault : PageRequest) (s' : FaultLog Page) : Prop :=
  s.Answered fault s' ∧ (s.PushFails fault → s.Kept fault s')

/-- Every fault is answered, or its push fails and it is kept and covered instead. -/
def DeliveredOrKept (s : FaultLog Page) (fault : PageRequest) (s' : FaultLog Page) : Prop :=
  if s.PushFails fault then s.Kept fault s' else s.Answered fault s'

theorem step_fault {s s' : FaultLog Page} {fault : PageRequest} (next : s.step .fault = some s')
    (head : s.node.uffdMessages.head? = some fault) :
    s'.node.residence = Function.update s.node.residence fault.pageIndex
        ((s.node.residence fault.pageIndex).faulted fault.isWrite s.node.QueueFull) ∧
      s'.node.sharedReqQueue = s.node.sharedReqQueue ++
        (if s.Skips fault ∨ s.node.QueueFull then [] else [fault]) := by
  obtain ⟨t, turn, rfl⟩ := Option.map_eq_some_iff.mp next
  obtain ⟨taken, found, after⟩ := NodeThreads.step_fault turn
  cases head.symm.trans found
  refine ⟨after, ?_⟩
  cases NodeThreads.turn_of_step turn with
  | fault first rest waiting =>
    -- the message that is taken is the one at the head
    rw [node, waiting] at head
    cases head
    exact Node.handleFault_queue { s.threads.resume with uffdMessages := rest } fault

section Fault

variable {s s' : FaultLog Page} {fault : PageRequest} (next : s.step .fault = some s')
  (head : s.node.uffdMessages.head? = some fault)
include next head

/-- The handler never changes a mapping. -/
theorem fault_mapping : s'.node.mapping fault.pageIndex = s.node.mapping fault.pageIndex := by
  have after := congrArg Residence.mapping (congrFun (step_fault next head).1 fault.pageIndex)
  rw [Function.update_self] at after
  refine after.trans ?_
  unfold Residence.faulted
  split <;> rfl

theorem answered_of_room (room : ¬ s.node.QueueFull) (acts : ¬ s.Skips fault) :
    s.Answered fault s' := by
  left
  rw [(step_fault next head).2, if_neg (not_or.mpr ⟨acts, room⟩)]

/-- A page that is `PAGE_VALID` is mapped, so a read of it succeeds. -/
theorem answered_of_skip (truthful : s.threads.Truthful) (skips : s.Skips fault) :
    s.Answered fault s' := by
  right
  rw [fault_mapping next head, Mapping.Allows, skips.2]
  exact truthful fault.pageIndex (Or.inl skips.1)

/-- With a full queue the page becomes `PAGE_EMPTY`, and the request is lost. -/
theorem fault_full (fails : s.PushFails fault) :
    s'.node.pageTable fault.pageIndex = .empty ∧
      s'.node.sharedReqQueue = s.node.sharedReqQueue := by
  obtain ⟨after, queue⟩ := step_fault next head
  rw [if_pos (Or.inr fails.2), List.append_nil] at queue
  refine ⟨?_, queue⟩
  have status := congrArg Residence.status (congrFun after fault.pageIndex)
  rw [Function.update_self, Residence.faulted,
    if_neg (show ¬ ((s.node.residence _).status = .valid ∧ fault.isWrite = false) from fails.1)]
    at status
  exact status.trans (if_pos fails.2)

theorem kept_iff (fails : s.PushFails fault) : s.Kept fault s' ↔
    s.node.pageTable fault.pageIndex = .empty ∧ s.Covers fault := by
  unfold Kept
  rw [(fault_full next head fails).1]
  exact and_congr_left' eq_comm

/-- What an answer needs when the page is `PAGE_EMPTY` only while it is not mapped. -/
theorem delivered_iff (truthful : s.threads.Truthful) (blank : ∀ idx, (s.node.residence idx).Blank) :
    s.Delivered fault s' ↔ ¬ s.PushFails fault := by
  constructor
  · rintro ⟨answered, kept⟩ fails
    have empty := ((kept_iff next head fails).mp (kept fails)).1
    rcases answered with queued | allows
    · rw [(fault_full next head fails).2] at queued
      exact absurd (congrArg List.length queued) (by simp)
    · -- the status was kept, so the page is not there
      rw [fault_mapping next head] at allows
      have unmapped : (s.node.mapping fault.pageIndex).isMapped = false := blank _ empty
      rw [Mapping.allows_unmapped unmapped] at allows
      exact allows
  · intro pushes
    refine ⟨?_, fun fails => absurd fails pushes⟩
    -- a push that does not fail was not made, or found room
    by_cases skips : s.Skips fault
    · exact answered_of_skip next head truthful skips
    · exact answered_of_room next head (fun full => pushes ⟨skips, full⟩) skips

/-- Where the second clause stands in for the first one. -/
theorem deliveredOrKept_iff (truthful : s.threads.Truthful) : s.DeliveredOrKept fault s' ↔
    ¬ s.PushFails fault ∨ (s.node.pageTable fault.pageIndex = .empty ∧ s.Covers fault) := by
  unfold DeliveredOrKept
  by_cases fails : s.PushFails fault
  · rw [if_pos fails, kept_iff next head fails, or_iff_right (not_not.mpr fails)]
  · rw [if_neg fails]
    refine iff_of_true ?_ (Or.inl fails)
    by_cases skips : s.Skips fault
    · exact answered_of_skip next head truthful skips
    · exact answered_of_room next head (fun full => fails ⟨skips, full⟩) skips

end Fault

/-! ### Runs -/

theorem step_truthful {s s' : FaultLog Page} {e : NodeEvent Page} (truthful : s.threads.Truthful)
    (next : s.step e = some s') : s'.threads.Truthful := by
  cases e with
  | evict fd => cases next
  | load | store | fault | drain | receive | finish | closed =>
    obtain ⟨t, turn, rfl⟩ := Option.map_eq_some_iff.mp next
    exact (NodeThreads.truthful_step_iff truthful turn).mpr not_false

theorem step_blank {s s' : FaultLog Page} {e : NodeEvent Page}
    (blank : ∀ idx, (s.node.residence idx).Blank)
    (pushes : OnFault (fun s fault _ => ¬ s.PushFails fault) s e s') (next : s.step e = some s') :
    ∀ idx, (s'.node.residence idx).Blank := by
  cases e with
  | evict fd => cases next
  | fault =>
    obtain ⟨t, turn, rfl⟩ := Option.map_eq_some_iff.mp next
    obtain ⟨fault, head, after⟩ := NodeThreads.step_fault turn
    -- only the page of the fault changes, and its request was queued
    have fits := not_and.mp (pushes fault head rfl)
    exact Node.forall_residence_update after
      (Residence.blank_faulted (blank _) (Decidable.or_iff_not_imp_left.mpr fits)) blank
  | load | store | drain | receive | finish | closed =>
    obtain ⟨t, turn, rfl⟩ := Option.map_eq_some_iff.mp next
    exact fun idx => (NodeThreads.step_changes turn nofun nofun idx).blank (blank idx)

/-- Properties of faults that agree on every fault. -/
theorem onFault_congr {p q : FaultLog Page → PageRequest → FaultLog Page → Prop}
    {s s' : FaultLog Page} {e : NodeEvent Page} (next : s.step e = some s')
    (same : ∀ fault, s.step .fault = some s' → s.node.uffdMessages.head? = some fault →
      (p s fault s' ↔ q s fault s')) : OnFault p s e s' ↔ OnFault q s e s' := by
  refine forall_congr' fun fault => forall_congr' fun head => forall_congr' fun taken => ?_
  subst taken
  exact same fault next head

end FaultLog

/-- With eviction off, in a run of a node every fault is answered, and one whose push fails is kept
and covered, exactly if no push ever fails. If it need not be answered when it is kept and
covered, a push may also fail for a page that is `PAGE_EMPTY` and for which a sufficient request is
queued or in flight. -/
theorem fault_delivered_iff [Zero Page] (id : Nat) (coordinatorFd : Int) (numPages : Nat)
    (events : List (NodeEvent Page)) :
    (Runs.EveryStep FaultLog.step (FaultLog.OnFault FaultLog.Delivered)
          (.start id coordinatorFd numPages) events ↔
        Runs.EveryStep FaultLog.step (FaultLog.OnFault fun s fault _ => ¬ s.PushFails fault)
          (.start id coordinatorFd numPages) events) ∧
      (Runs.EveryStep FaultLog.step (FaultLog.OnFault FaultLog.DeliveredOrKept)
          (.start id coordinatorFd numPages) events ↔
        Runs.EveryStep FaultLog.step
          (FaultLog.OnFault fun s fault _ => ¬ s.PushFails fault ∨
            (s.node.pageTable fault.pageIndex = .empty ∧ s.Covers fault))
          (.start id coordinatorFd numPages) events) := by
  constructor
  · -- while no push fails an empty page is unmapped, which is what makes a failed push unanswered
    apply Runs.everyStep_iff_while
      fun s => s.threads.Truthful ∧ ∀ idx, (s.node.residence idx).Blank
    · intro s e s' holds next
      exact FaultLog.onFault_congr next fun fault taken head =>
        FaultLog.delivered_iff taken head holds.1 holds.2
    · intro s e s' holds pushes next
      exact ⟨FaultLog.step_truthful holds.1 next, FaultLog.step_blank holds.2 pushes next⟩
    · exact ⟨NodeThreads.start_truthful id coordinatorFd numPages, fun _ _ => rfl⟩
  · -- the weaker clause needs only that a valid page is mapped
    apply Runs.everyStep_iff_while fun s => s.threads.Truthful
    · intro s e s' truthful next
      exact FaultLog.onFault_congr next fun fault taken head =>
        FaultLog.deliveredOrKept_iff taken head truthful
    · intro s e s' truthful _ next
      exact FaultLog.step_truthful truthful next
    · exact NodeThreads.start_truthful id coordinatorFd numPages

/-- Of 129 threads of worker 2 one waits for page 1 and the others for page 0, and their
requests fill the queue. -/
def manyFaults : List (NodeEvent PageBytes) :=
  List.replicate 128 (.load 0) ++ [.load 1] ++ List.replicate 128 .fault

/-- The fault on page 1 is lost: no request for the page is queued or in flight. -/
theorem fault_swallowed : ¬ ∀ events : List (NodeEvent PageBytes),
    Runs.EveryStep FaultLog.step (FaultLog.OnFault FaultLog.Delivered) (.start 2 7 4) events := by
  intro claim
  obtain ⟨s, executed, ⟨fault, head, fails, uncovered⟩, enabled⟩ := Runs.exists_exec FaultLog.step
    (fun _ _ => True) (.start 2 7 4) manyFaults
    (fun s => (∃ fault ∈ s.node.uffdMessages.head?, s.PushFails fault ∧ ¬ s.Covers fault) ∧
      (s.step .fault).isSome)
    (by decide +kernel)
  obtain ⟨s', next⟩ := Option.isSome_iff_exists.mp enabled
  have delivered := (claim (manyFaults ++ [.fault])).last executed next fault head rfl
  exact uncovered (delivered.2 fails).2

end TeleportVM
