import TeleportVM.FaultDelivery
import TeleportVM.SlotTurns

/-!
The engine's own page faults. It copies a `PAGE_VALID` page into a reply while it holds the page's
lock. If the page has been evicted the copy faults, and the fault handler needs the same lock.
-/
namespace TeleportVM

variable {Page : Type}

/-- The threads of a node, two of which may be blocked. -/
structure BlockingThreads (Page : Type) where
  threads : NodeThreads Page
  /-- The engine is inside of `memcpy`, with the lock of the requested page, and has faulted. -/
  copying : Option (Int × DsmPacket Page)
  /-- The fault handler has read this fault and waits for the lock of the page. -/
  waiting : Option PageRequest

inductive BlockingEvent (Page : Type) where
  | turn (e : NodeEvent Page)
  /-- The page is there, and the engine's copy ends. -/
  | copied
  /-- The fault handler gets the lock it waited for. -/
  | locked

namespace NodeEvent

def isEngine : NodeEvent Page → Bool
  | .drain | .receive _ _ | .finish | .closed _ => true
  | .load _ | .store _ _ | .fault | .evict _ => false

end NodeEvent

namespace BlockingEvent

/-- The engine goes on. -/
def isEngine : BlockingEvent Page → Bool
  | .turn e => e.isEngine
  | .copied => true
  | .locked => false

/-- The fault handler goes on. -/
def isHandler : BlockingEvent Page → Bool
  | .turn .fault | .locked => true
  | _ => false

end BlockingEvent

namespace Node

/-- To answer this packet is to copy a page that is not there. -/
def CopiesAbsent (n : Node Page) (packet : DsmPacket Page) : Prop :=
  packet.type.isPageRequest = true ∧ packet.pageIndex < n.numPages ∧
    n.pageTable packet.pageIndex = .valid ∧ (n.mapping packet.pageIndex).isMapped = false

instance (n : Node Page) (packet : DsmPacket Page) : Decidable (n.CopiesAbsent packet) :=
  inferInstanceAs (Decidable (_ ∧ _))

end Node

namespace BlockingThreads

abbrev node (s : BlockingThreads Page) : Node Page := s.threads.node

def engineHolds (s : BlockingThreads Page) (idx : Nat) : Bool :=
  s.copying.any fun request => request.2.pageIndex == idx

variable [Zero Page]

/-- A turn of a thread that is not blocked. -/
def run (s : BlockingThreads Page) (e : NodeEvent Page) : Option (BlockingThreads Page) :=
  (s.threads.step e).map fun t => { s with threads := t }

/-- The fault handler reads a message and asks for the lock of its page. -/
def takeFault (s : BlockingThreads Page) : Option (BlockingThreads Page) :=
  match s.waiting, s.node.uffdMessages with
  | none, fault :: rest =>
    if s.engineHolds fault.pageIndex then
      some { s with
        threads := { s.threads with node := { s.threads.resume with uffdMessages := rest } }
        waiting := some fault }
    else s.run .fault
  | _, _ => none

/-- The engine takes a packet. -/
def takePacket (s : BlockingThreads Page) (clientFd : Int) (packet : DsmPacket Page) :
    Option (BlockingThreads Page) :=
  if s.threads.task.isNone ∧ s.node.CopiesAbsent packet then
    -- the engine posts a fault of its own
    some { s with
      threads :=
        { s.threads with
          node := (s.threads.resume.registerSender clientFd packet.senderNodeId).raise
            ⟨packet.pageIndex, false⟩ }
      copying := some (clientFd, packet) }
  else s.run (.receive clientFd packet)

def takeTurn (s : BlockingThreads Page) (e : NodeEvent Page) : Option (BlockingThreads Page) :=
  match e with
  | .fault => s.takeFault
  | .receive clientFd packet => s.takePacket clientFd packet
  | e => s.run e

def step (s : BlockingThreads Page) : BlockingEvent Page → Option (BlockingThreads Page)
  | .turn e => if e.isEngine ∧ s.copying.isSome then none else s.takeTurn e
  | .copied =>
    s.copying.bind fun (clientFd, packet) =>
      (s.threads.resume.beginPageRequest clientFd packet).map fun begun =>
        { s with threads := ⟨begun.1, begun.2⟩, copying := none }
  | .locked =>
    s.waiting.bind fun fault =>
      if s.engineHolds fault.pageIndex then none
      else some { s with
        threads := { s.threads with node := s.threads.resume.handleFault fault }
        waiting := none }

def start (id : Nat) (coordinatorFd : Int) (numPages : Nat) : BlockingThreads Page :=
  ⟨.start id coordinatorFd numPages, none, none⟩

/-! ### Without evictions of present pages -/

/-- The eviction thread is about to drop a page that is `PAGE_VALID` or `PAGE_WRITE_PENDING`. -/
def DropsPresent (s : BlockingThreads Page) : BlockingEvent Page → Prop
  | .turn e => s.threads.DropsPresent e
  | _ => False

omit [Zero Page] in
instance decidableDropsPresent (s : BlockingThreads Page) (e : BlockingEvent Page) :
    Decidable (s.DropsPresent e) :=
  match e with
  | .turn (.evict _) =>
    inferInstanceAs (Decidable (∃ idx ∈ s.node.clockVictim, _ ∨ _))
  | .turn (.load _) | .turn (.store _ _) | .turn .fault | .turn .drain | .turn (.receive _ _)
  | .turn .finish | .turn (.closed _) | .copied | .locked => inferInstanceAs (Decidable False)

/-- No thread is blocked, and the page table is right. -/
structure Unblocked (s : BlockingThreads Page) : Prop where
  copying : s.copying = none
  waiting : s.waiting = none
  truthful : s.threads.Truthful

variable {s s' : BlockingThreads Page} {e : BlockingEvent Page} {event : NodeEvent Page}

theorem Unblocked.run (ok : s.Unblocked) (spares : ¬ s.threads.DropsPresent event)
    (next : s.run event = some s') : s'.Unblocked := by
  obtain ⟨t, stepped, rfl⟩ := Option.map_eq_some_iff.mp next
  exact { ok with truthful := (NodeThreads.truthful_step_iff ok.truthful stepped).mpr spares }

theorem Unblocked.turn (ok : s.Unblocked) (spares : ¬ s.threads.DropsPresent event)
    (next : s.takeTurn event = some s') : s'.Unblocked := by
  cases event with
  | fault =>
    simp only [takeTurn, takeFault] at next
    split at next
    · rw [if_neg (by simp [engineHolds, ok.copying])] at next
      exact ok.run spares next
    · cases next
  | receive clientFd packet =>
    simp only [takeTurn, takePacket] at next
    rw [if_neg] at next
    · exact ok.run spares next
    · -- a page that is listed as present can be copied
      rintro ⟨-, -, -, valid, unmapped⟩
      have mapped : (s.node.mapping packet.pageIndex).isMapped = true :=
        ok.truthful packet.pageIndex (Or.inl valid)
      rw [mapped] at unmapped
      cases unmapped
  | load | store | drain | finish | closed | evict => exact ok.run spares next

theorem Unblocked.step (ok : s.Unblocked) (spares : ¬ s.DropsPresent e) (next : s.step e = some s') :
    s'.Unblocked := by
  cases e with
  | turn event =>
    rw [BlockingThreads.step, if_neg (by simp [ok.copying])] at next
    exact ok.turn spares next
  | copied => simp [BlockingThreads.step, ok.copying] at next
  | locked => simp [BlockingThreads.step, ok.waiting] at next

/-! ### The blocked engine -/

/-- The engine is blocked in its copy, and the fault handler blocks once it has read the engine's
own fault, if it has not already. -/
structure Stalled (s : BlockingThreads Page) (request : Int × DsmPacket Page) : Prop where
  copying : s.copying = some request
  inside : request.2.pageIndex < s.node.numPages
  valid : s.node.pageTable request.2.pageIndex = .valid
  unmapped : (s.node.mapping request.2.pageIndex).isMapped = false
  blocks : ∀ fault ∈ s.waiting, fault.pageIndex = request.2.pageIndex
  posted : s.waiting = none → ∃ fault ∈ s.node.uffdMessages, fault.pageIndex = request.2.pageIndex

/-- The turns that are left to the fault handler. -/
def handlerTurns (s : BlockingThreads Page) (idx : Nat) : Nat :=
  if s.waiting.isSome then 0 else s.node.uffdMessages.findIdx (fun fault => fault.pageIndex == idx) + 1

omit [Zero Page] in
theorem handlerTurns_free {idx : Nat} (free : s.waiting = none) : s.handlerTurns idx =
    s.node.uffdMessages.findIdx (fun fault => fault.pageIndex == idx) + 1 := by
  simp [handlerTurns, free]

omit [Zero Page] in
theorem handlerTurns_waiting {idx : Nat} (waiting : s.waiting ≠ none) : s.handlerTurns idx = 0 := by
  simp [handlerTurns, Option.isSome_iff_ne_none.mpr waiting]

/-- What a turn of another thread than the engine does to the node. -/
structure NodeTurn (n n' : Node Page) : Prop where
  numPages : n'.numPages = n.numPages
  unmaps : ∀ p, (n'.mapping p).isMapped = true → (n.mapping p).isMapped = true
  queue : n.sharedReqQueue <+: n'.sharedReqQueue

omit [Zero Page] in
/-- An eviction unmaps a page, if any, and leaves the page table. -/
theorem evicted_page {n n' : Node Page} {victim : Option Nat}
    (after : n'.residence = victim.elim n.residence fun idx =>
      Function.update n.residence idx ⟨n.pageTable idx, .unmapped⟩) (p : Nat) :
    n'.pageTable p = n.pageTable p ∧
      ((n'.mapping p).isMapped = true → (n.mapping p).isMapped = true) := by
  have page := congrFun after p
  cases victim with
  | none => exact ⟨congrArg Residence.status page, fun mapped =>
      (congrArg (fun r => r.mapping.isMapped) page).symm.trans mapped⟩
  | some idx =>
    by_cases own : p = idx
    · subst own
      rw [Option.elim_some, Function.update_self] at page
      refine ⟨congrArg Residence.status page, fun mapped => ?_⟩
      have gone := congrArg (fun r => r.mapping.isMapped) page
      exact absurd (gone.symm.trans mapped) (by simp [Mapping.isMapped])
    · rw [Option.elim_some, Function.update_of_ne own] at page
      exact ⟨congrArg Residence.status page, fun mapped =>
        (congrArg (fun r => r.mapping.isMapped) page).symm.trans mapped⟩

omit [Zero Page] in
theorem NodeTurn.unmapped {n n' : Node Page} (turn : NodeTurn n n') {p : Nat}
    (unmapped : (n.mapping p).isMapped = false) : (n'.mapping p).isMapped = false := by
  rw [Bool.eq_false_iff] at unmapped ⊢
  exact fun mapped => unmapped (turn.unmaps p mapped)

/-- The applications and the eviction thread. -/
theorem nodeTurn_others {t t' : NodeThreads Page} (next : t.step event = some t')
    (notEngine : event.isEngine = false) (notFault : event ≠ .fault) :
    NodeTurn t.node t'.node ∧ t'.node.pageTable = t.node.pageTable ∧
      t.node.uffdMessages <+: t'.node.uffdMessages := by
  cases NodeThreads.turn_of_step next with
  | load => exact ⟨⟨rfl, fun _ mapped => mapped, List.prefix_rfl⟩, rfl, List.prefix_rfl⟩
  | loadFault | storeFault =>
    exact ⟨⟨rfl, fun _ mapped => mapped, List.prefix_rfl⟩, rfl, List.prefix_append _ _⟩
  | store idx contents _ writable =>
    refine ⟨⟨rfl, fun p mapped => ?_, List.prefix_rfl⟩, rfl, List.prefix_rfl⟩
    by_cases own : p = idx
    · subst own
      exact Mapping.isMapped_of_isWritable writable
    · simpa [Node.setMapping, NodeThreads.resume, own] using mapped
  | evict networkFd result swept =>
    have frame := Node.evicts_dsmExecuteEviction swept
    have kept (p : Nat) := evicted_page (Node.residence_dsmExecuteEviction swept) p
    exact ⟨⟨frame.numPages, fun p => (kept p).2, frame.queue ▸ List.prefix_rfl⟩,
      funext fun p => (kept p).1, frame.messages ▸ List.prefix_rfl⟩
  | fault => exact absurd rfl notFault
  | drain | receive | finish | closed => cases notEngine

omit [Zero Page] in
/-- The fault handler leaves every mapping, and the page table but for the page of the fault. -/
theorem nodeTurn_handleFault (n : Node Page) (fault : PageRequest) :
    NodeTurn n (n.handleFault fault) ∧ (n.handleFault fault).uffdMessages = n.uffdMessages ∧
      ∀ p ≠ fault.pageIndex, (n.handleFault fault).pageTable p = n.pageTable p := by
  have residence := n.residence_handleFault fault
  have same (p : Nat) : (n.handleFault fault).mapping p = n.mapping p := by
    have page := congrArg Residence.mapping (congrFun residence p)
    by_cases own : p = fault.pageIndex
    · subst own
      rw [Function.update_self] at page
      refine page.trans ?_
      unfold Residence.faulted
      split <;> rfl
    · rw [Function.update_of_ne own] at page
      exact page
  obtain ⟨-, directory, -, messages, -⟩ := n.calls_handleFault_directory fault
  refine ⟨⟨congrArg Directory.numPages directory, fun p mapped => same p ▸ mapped, ?_⟩, messages, ?_⟩
  · rw [n.handleFault_queue fault]
    exact List.prefix_append _ _
  · intro p other
    have page := congrArg Residence.status (congrFun residence p)
    rw [Function.update_of_ne other] at page
    exact page

variable {request : Int × DsmPacket Page}

omit [Zero Page] in
theorem Stalled.holds (stalled : s.Stalled request) (idx : Nat) :
    s.engineHolds idx = (request.2.pageIndex == idx) := by
  simp [engineHolds, stalled.copying]

omit [Zero Page] in
theorem Stalled.handlerTurns_le (stalled : s.Stalled request) :
    s.handlerTurns request.2.pageIndex ≤ s.node.uffdMessages.length := by
  by_cases free : s.waiting = none
  · rw [handlerTurns_free free]
    obtain ⟨fault, posted, own⟩ := stalled.posted free
    exact List.findIdx_lt_length_of_exists ⟨fault, posted, by simp [own]⟩
  · rw [handlerTurns_waiting free]
    exact Nat.zero_le _

/-- While another thread takes a turn. -/
theorem Stalled.run (stalled : s.Stalled request) (notEngine : event.isEngine = false)
    (notFault : event ≠ .fault) (next : s.run event = some s') :
    s'.Stalled request ∧ NodeTurn s.node s'.node ∧
      s'.handlerTurns request.2.pageIndex ≤ s.handlerTurns request.2.pageIndex := by
  obtain ⟨t, stepped, rfl⟩ := Option.map_eq_some_iff.mp next
  obtain ⟨turn, table, messages⟩ := nodeTurn_others stepped notEngine notFault
  refine ⟨{ stalled with inside := ?_, valid := ?_, unmapped := ?_, posted := ?_ }, turn, ?_⟩
  · exact turn.numPages ▸ stalled.inside
  · exact (congrFun table _).trans stalled.valid
  · exact turn.unmapped stalled.unmapped
  · intro free
    obtain ⟨fault, posted, own⟩ := stalled.posted free
    exact ⟨fault, messages.subset posted, own⟩
  · by_cases free : s.waiting = none
    · -- the messages before the engine's stay as they are
      obtain ⟨fault, posted, own⟩ := stalled.posted free
      obtain ⟨more, longer⟩ := messages
      have found : s.node.uffdMessages.findIdx (fun fault => fault.pageIndex == request.2.pageIndex)
          < s.node.uffdMessages.length :=
        List.findIdx_lt_length_of_exists ⟨fault, posted, by simp [own]⟩
      rw [handlerTurns_free free, handlerTurns_free (s := ⟨t, s.copying, s.waiting⟩) free, ← longer,
        List.findIdx_append, if_pos found]
    · rw [handlerTurns_waiting free, handlerTurns_waiting (s := ⟨t, s.copying, s.waiting⟩) free]

/-- The fault handler takes its next fault: it is the engine's, or one less before it. -/
theorem Stalled.takeFault (stalled : s.Stalled request) (next : s.takeFault = some s') :
    s'.Stalled request ∧ NodeTurn s.node s'.node ∧
      s'.handlerTurns request.2.pageIndex + 1 ≤ s.handlerTurns request.2.pageIndex := by
  unfold BlockingThreads.takeFault at next
  split at next
  next fault rest free waiting =>
    rw [stalled.holds] at next
    by_cases own : request.2.pageIndex = fault.pageIndex
    · rw [if_pos (by simp [own])] at next
      cases next
      refine ⟨{ stalled with blocks := ?_, posted := by simp },
        ⟨rfl, fun _ mapped => mapped, List.prefix_rfl⟩, ?_⟩
      · rintro _ ⟨⟩
        exact own.symm
      · rw [handlerTurns_free free, handlerTurns_waiting (by simp)]
        exact Nat.succ_le_succ (Nat.zero_le _)
    · rw [if_neg (by simpa using own)] at next
      obtain ⟨t, stepped, rfl⟩ := Option.map_eq_some_iff.mp next
      cases NodeThreads.turn_of_step stepped with
      | fault other others head =>
        cases waiting.symm.trans head
        obtain ⟨turn, messages, table⟩ :=
          nodeTurn_handleFault { s.threads.resume with uffdMessages := rest } fault
        have later : ∃ posted ∈ rest, posted.pageIndex = request.2.pageIndex := by
          obtain ⟨posted, member, same⟩ := stalled.posted free
          rw [waiting] at member
          rcases List.mem_cons.mp member with rfl | member
          · exact absurd same.symm own
          · exact ⟨posted, member, same⟩
        refine ⟨{ stalled with inside := ?_, valid := ?_, unmapped := ?_, posted := ?_ },
          ⟨turn.numPages, turn.unmaps, turn.queue⟩, ?_⟩
        · exact turn.numPages ▸ stalled.inside
        · exact (table _ own).trans stalled.valid
        · exact turn.unmapped stalled.unmapped
        · intro _
          exact messages ▸ later
        · rw [handlerTurns_free (s := s) free, waiting, List.findIdx_cons,
            beq_false_of_ne (Ne.symm own)]
          refine Nat.succ_le_succ (le_of_eq ((handlerTurns_free (by exact free)).trans ?_))
          exact congrArg
            (fun posted => posted.findIdx (fun fault => fault.pageIndex == request.2.pageIndex) + 1)
            messages
  · cases next

/-- Nothing wakes the engine. -/
theorem Stalled.step (stalled : s.Stalled request) (next : s.step e = some s') :
    e.isEngine = false ∧ s'.Stalled request ∧ NodeTurn s.node s'.node ∧
      s'.handlerTurns request.2.pageIndex + (if e.isHandler then 1 else 0) ≤
        s.handlerTurns request.2.pageIndex := by
  cases e with
  | turn event =>
    simp only [BlockingThreads.step] at next
    split at next
    · cases next
    next goes =>
      have notEngine : event.isEngine = false := by simpa [stalled.copying] using goes
      refine ⟨notEngine, ?_⟩
      cases event with
      | fault => exact stalled.takeFault next
      | load | store | evict => exact stalled.run notEngine (by simp) next
      | drain | receive | finish | closed => cases notEngine
  | copied =>
    -- the page is still absent
    simp only [BlockingThreads.step, stalled.copying, Option.bind_some] at next
    obtain ⟨begun, copied, -⟩ := Option.map_eq_some_iff.mp next
    cases Node.takesRequest copied with
    | outside outside => exact absurd stalled.inside outside
    | fromCopy page _ _ contents =>
      have mapped := (Mapping.isMapped_iff _).mpr ⟨page, contents⟩
      exact absurd (stalled.unmapped.symm.trans mapped) (by simp)
    | fetch _ absent => exact absurd stalled.valid absent
    | withZeros _ absent => exact absurd stalled.valid absent
  | locked =>
    cases waiting : s.waiting with
    | none => simp [BlockingThreads.step, waiting] at next
    | some fault =>
      simp [BlockingThreads.step, waiting, stalled.holds, stalled.blocks fault waiting] at next

/-! ### Runs -/

/-- Threads that are blocked are so for the engine's copy, and in that case for good. -/
def BlockedByCopy (s : BlockingThreads Page) : Prop :=
  s.waiting = none ∧ s.copying = none ∨ ∃ request, s.Stalled request

theorem blockedByCopy_takePacket {clientFd : Int} {packet : DsmPacket Page} (free : s.waiting = none)
    (awake : s.copying = none) (next : s.takePacket clientFd packet = some s') :
    s'.BlockedByCopy := by
  unfold takePacket at next
  split at next
  next absent =>
    obtain ⟨-, -, inside, valid, unmapped⟩ := absent
    cases next
    refine Or.inr ⟨(clientFd, packet), rfl, inside, valid, unmapped, ?_, fun _ => ?_⟩
    · rintro fault waiting
      cases free.symm.trans waiting
    · exact ⟨⟨packet.pageIndex, false⟩, List.mem_append_right _ List.mem_cons_self, rfl⟩
  · obtain ⟨t, -, rfl⟩ := Option.map_eq_some_iff.mp next
    exact Or.inl ⟨free, awake⟩

theorem BlockedByCopy.step (ok : s.BlockedByCopy) (next : s.step e = some s') : s'.BlockedByCopy := by
  rcases ok with ⟨free, awake⟩ | ⟨request, stalled⟩
  · cases e with
    | turn event =>
      rw [BlockingThreads.step, if_neg (by simp [awake])] at next
      have kept (next : s.run event = some s') : s'.BlockedByCopy := by
        obtain ⟨t, -, rfl⟩ := Option.map_eq_some_iff.mp next
        exact Or.inl ⟨free, awake⟩
      cases event with
      | receive => exact blockedByCopy_takePacket free awake next
      | fault =>
        simp only [takeTurn, takeFault] at next
        split at next
        · rw [if_neg (by simp [engineHolds, awake])] at next
          exact kept next
        · cases next
      | load | store | drain | finish | closed | evict => exact kept next
    | copied => simp [BlockingThreads.step, awake] at next
    | locked => simp [BlockingThreads.step, free] at next
  · exact Or.inr ⟨request, (stalled.step next).2.1⟩

omit [Zero Page] in
theorem NodeTurn.trans {n n' n'' : Node Page} (first : NodeTurn n n') (second : NodeTurn n' n'') :
    NodeTurn n n'' where
  numPages := second.numPages.trans first.numPages
  unmaps p mapped := first.unmaps p (second.unmaps p mapped)
  queue := first.queue.trans second.queue

theorem Stalled.exec {es : List (BlockingEvent Page)} (stalled : s.Stalled request)
    (executed : Runs.execIf BlockingThreads.step (fun _ _ => True) s es = some s') :
    (∀ e ∈ es, e.isEngine = false) ∧ s'.Stalled request ∧ NodeTurn s.node s'.node ∧
      s'.handlerTurns request.2.pageIndex + es.countP BlockingEvent.isHandler ≤
        s.handlerTurns request.2.pageIndex := by
  induction es generalizing s with
  | nil =>
    cases executed
    exact ⟨by simp, stalled, ⟨rfl, fun _ mapped => mapped, List.prefix_rfl⟩, le_rfl⟩
  | cons e es ih =>
    rw [Runs.execIf, if_pos trivial] at executed
    obtain ⟨t, next, rest⟩ := Option.bind_eq_some_iff.mp executed
    obtain ⟨notEngine, stalled', turn, turns⟩ := stalled.step next
    obtain ⟨notEngines, stalled'', turn', turns'⟩ := ih stalled' rest
    refine ⟨?_, stalled'', turn.trans turn', ?_⟩
    · simpa [notEngine] using notEngines
    · rw [List.countP_cons]
      omega

end BlockingThreads

/-- Worker 2 evicts page 0 before it has it, fetches it and is asked for it. -/
def evictThenServe : List (BlockingEvent PageBytes) :=
  [.turn (.evict 7), .turn (.store 0 (fun _ => 7)), .turn .fault, .turn .drain,
    .turn (.receive 7 ⟨.sendPage, 0, 1, 0⟩), .turn (.receive 7 ⟨.requestPageRead, 0, 1, 0⟩)]

/-- Once the engine has faulted on a page it copies, it has taken its last turn, whatever the other
threads do: no page is ever mapped again, the requests in the queue stay there, and the fault
handler goes on for no longer than it takes to read the messages that are posted already. -/
theorem engine_stall [Zero Page] {id : Nat} {coordinatorFd : Int} {numPages : Nat}
    {s t : BlockingThreads Page} {request : Int × DsmPacket Page} {es : List (BlockingEvent Page)}
    (run : Runs.Run BlockingThreads.step (fun _ _ => True) (.start id coordinatorFd numPages) s)
    (faulted : s.copying = some request)
    (executed : Runs.execIf BlockingThreads.step (fun _ _ => True) s es = some t) :
    (∀ e ∈ es, e.isEngine = false) ∧ t.copying = some request ∧
      (∀ p, (t.node.mapping p).isMapped = true → (s.node.mapping p).isMapped = true) ∧
      s.node.sharedReqQueue <+: t.node.sharedReqQueue ∧
      es.countP BlockingEvent.isHandler ≤ s.node.uffdMessages.length := by
  have ok : s.BlockedByCopy := run.invariant BlockingThreads.BlockedByCopy (Or.inl ⟨rfl, rfl⟩)
    fun _ _ _ ok _ next => ok.step next
  rcases ok with ⟨-, awake⟩ | ⟨request', stalled⟩
  · cases awake.symm.trans faulted
  cases stalled.copying.symm.trans faulted
  obtain ⟨notEngines, stalled', turn, turns⟩ := stalled.exec executed
  refine ⟨notEngines, stalled'.copying, turn.unmaps, turn.queue, ?_⟩
  have few := stalled.handlerTurns_le
  omega

/-- Worker 2 is asked for the page that it has evicted. -/
def askedForEvicted : List (BlockingEvent PageBytes) :=
  fetchThenEvict.map .turn ++ [.turn (.receive 7 ⟨.requestPageRead, 0, 1, 0⟩)]

/-- The fault handler takes the engine's own fault, and two stores fault. -/
def afterOwnFault : List (BlockingEvent PageBytes) :=
  [.turn (.store 0 (fun _ => 8)), .turn .fault, .turn (.store 1 (fun _ => 9))]

theorem engine_stall_evicted : ∃ s t : BlockingThreads PageBytes, s.copying.isSome = true ∧
    t.waiting = some ⟨0, false⟩ ∧ t.copying.isSome = true ∧
    (∀ p, (t.node.mapping p).isMapped = true → (s.node.mapping p).isMapped = true) ∧
    afterOwnFault.countP BlockingEvent.isHandler ≤ s.node.uffdMessages.length := by
  obtain ⟨s, run, faulted, handled⟩ := Runs.exists_run BlockingThreads.step (fun _ _ => True)
    (.start 2 7 4) askedForEvicted
    (fun s => s.copying.isSome = true ∧ ((Runs.execIf BlockingThreads.step (fun _ _ => True) s
      afterOwnFault).any fun t => decide (t.waiting = some ⟨0, false⟩)) = true) (by decide +kernel)
  obtain ⟨t, executed, waits⟩ := Runs.exists_exec BlockingThreads.step (fun _ _ => True) s
    afterOwnFault (fun t => t.waiting = some ⟨0, false⟩) handled
  obtain ⟨request, copying⟩ := Option.isSome_iff_exists.mp faulted
  obtain ⟨-, still, unmaps, -, few⟩ := engine_stall run copying executed
  exact ⟨s, t, faulted, waits, by simp [still], unmaps, few⟩

end TeleportVM
