import TeleportVM.Residency
import TeleportVM.ClockEviction

/-!
The eviction ring keeps a record of its own of which pages are present. What the threads of a
node make of that record in a whole run, with the eviction thread interrupted between the choice
of a victim and its drop.
-/
namespace TeleportVM

variable {Page : Type}

namespace Node

/-- What the ring records of a page, apart from its use: the page's number and status. -/
def tracked (n : Node Page) (i : Nat) : Nat × Nat :=
  ((n.evictionRing i).pageIndex, (n.evictionRing i).status)

/-! ### Nobody but the eviction thread writes the record -/

@[simp] theorem tracked_dsmMarkAccessed (n : Node Page) (idx : Nat) :
    (n.dsmMarkAccessed idx).tracked = n.tracked := by
  funext i
  simp only [tracked, dsmMarkAccessed]
  split
  · by_cases own : i = idx
    · subst own
      rw [Function.update_self]
    · rw [Function.update_of_ne own]
  · rfl

@[simp] theorem tracked_installPage (n : Node Page) (idx : Nat) (page : Page) :
    (n.installPage idx page).tracked = n.tracked :=
  tracked_dsmMarkAccessed _ idx

section Engine

variable (n : Node Page)

@[simp] theorem tracked_ownDroppingLocal (idx writer : Nat) :
    (n.ownDroppingLocal idx writer).1.tracked = n.tracked := by
  unfold ownDroppingLocal
  dsimp only
  split <;> rfl

@[simp] theorem tracked_completePending (packet : DsmPacket Page) :
    (n.completePending packet).tracked = n.tracked := by
  unfold completePending
  dsimp only
  split
  · exact tracked_installPage n packet.pageIndex packet.payload
  · rfl

@[simp] theorem tracked_acceptPage (packet : DsmPacket Page) :
    (n.acceptPage packet).tracked = n.tracked := by
  unfold acceptPage
  dsimp only
  split
  · exact tracked_dsmMarkAccessed _ packet.pageIndex
  · exact tracked_installPage n packet.pageIndex packet.payload
  · exact tracked_installPage n packet.pageIndex packet.payload
  · rfl

@[simp] theorem tracked_grantDeferred (idx : Nat) : (n.grantDeferred idx).tracked = n.tracked := by
  unfold grantDeferred
  dsimp only
  split
  · split
    · exact tracked_dsmMarkAccessed _ idx
    · exact tracked_installPage n idx _
  · rfl

@[simp] theorem tracked_handleInvalidateAck (packet : DsmPacket Page) :
    (n.handleInvalidateAck packet).tracked = n.tracked := by
  unfold handleInvalidateAck
  dsimp only
  split
  · split
    · split
      · exact tracked_grantDeferred _ packet.pageIndex
      · rfl
    · rfl
  · rfl

variable [Zero Page]

@[simp] theorem tracked_deferOrSend (clientFd : Int) (requestingNode : Nat) (mask : BitVec 64)
    (response : DsmPacket Page) :
    (n.deferOrSend clientFd requestingNode mask response).tracked = n.tracked := by
  unfold deferOrSend
  dsimp only
  split <;> rfl

@[simp] theorem tracked_zeroFillLocal (idx : Nat) (isWrite : Bool) :
    (n.zeroFillLocal idx isWrite).tracked = n.tracked := by
  unfold zeroFillLocal
  dsimp only
  split
  · exact tracked_installPage n idx 0
  · exact tracked_installPage n idx 0

@[simp] theorem tracked_serveQueuedRequest (req : PageRequest) :
    (n.serveQueuedRequest req).tracked = n.tracked := by
  unfold serveQueuedRequest upgradeLocalCopy
  dsimp only
  split
  · rfl
  · split
    · split
      · split <;> rfl
      · rfl
    · split
      · rfl
      · exact tracked_zeroFillLocal n req.pageIndex req.isWrite

@[simp] theorem tracked_handleSendPage (packet : DsmPacket Page) :
    (n.handleSendPage packet).tracked = n.tracked := by
  unfold handleSendPage replyToPendingWrite
  dsimp only
  split
  · split
    · split
      · split
        · exact tracked_ownDroppingLocal n packet.pageIndex _
        · rw [tracked_completePending, tracked_ownDroppingLocal]
      · exact tracked_completePending _ packet
    · exact tracked_acceptPage n packet
  · rfl

@[simp] theorem tracked_handleInvalidate (clientFd : Int) (packet : DsmPacket Page) :
    (n.handleInvalidate clientFd packet).tracked = n.tracked := by
  unfold handleInvalidate
  dsimp only
  split
  · split <;> rfl
  · rfl

@[simp] theorem tracked_perform (task : EngineTask Page) : (n.perform task).tracked = n.tracked := by
  cases task with
  | zeroFill idx isWrite => exact tracked_zeroFillLocal n idx isWrite
  | answerFromCopy clientFd idx requestingNode isWrite page =>
    unfold perform serveWriteFromCopy serveReadFromCopy
    dsimp only
    split
    · exact tracked_deferOrSend _ clientFd requestingNode _ _
    · split <;> rfl
  | answerWithZeros clientFd idx requestingNode isWrite =>
    unfold perform serveZeroPage
    dsimp only
    split
    · rw [tracked_deferOrSend, tracked_ownDroppingLocal]
    · rfl

theorem tracked_beginQueuedRequest (req : PageRequest) :
    (n.beginQueuedRequest req).1.tracked = n.tracked := by
  unfold beginQueuedRequest
  split
  · rfl
  · exact tracked_serveQueuedRequest n req

theorem tracked_takesPacket {clientFd : Int} {packet : DsmPacket Page}
    {begun : Node Page × Option (EngineTask Page)} (takes : n.TakesPacket clientFd packet begun) :
    begun.1.tracked = n.tracked := by
  cases takes with
  | request begun _ takes =>
    cases takes with
    | outside | fromCopy | fetch | withZeros => rfl
  | page => exact tracked_handleSendPage n packet
  | invalidate => exact tracked_handleInvalidate n clientFd packet
  | ack => exact tracked_handleInvalidateAck n packet
  | join | other => rfl

end Engine

theorem tracked_handleFault (n : Node Page) (fault : PageRequest) :
    (n.handleFault fault).tracked = n.tracked := by
  unfold handleFault queuePush
  dsimp only
  split
  · rfl
  · split <;> rfl

end Node

theorem NodeThreads.step_tracked [Zero Page] {t t' : NodeThreads Page} {e : NodeEvent Page}
    (next : t.step e = some t') (notEvict : ∀ fd, e ≠ .evict fd) :
    t'.node.tracked = t.node.tracked := by
  cases turn_of_step next with
  | load | loadFault | store | storeFault | closed => rfl
  | fault fault rest => exact Node.tracked_handleFault { t.resume with uffdMessages := rest } fault
  | drain req rest => exact Node.tracked_beginQueuedRequest { t.resume with sharedReqQueue := rest } req
  | receive _ _ _ _ takes => exact Node.tracked_takesPacket t.resume takes
  | finish task => exact Node.tracked_perform t.resume task
  | evict fd => exact absurd rfl (notEvict fd)

/-! ### A call of the clock beside the other threads -/

/-- A victim that the eviction thread has chosen and not dropped yet: its position in the ring,
and whether `get_local_msi_state` called it `STATE_MODIFIED`. -/
structure PendingEviction where
  position : Nat
  modified : Bool

/-- The threads of a node, with its eviction thread, and the pages it has dropped so far. -/
structure RingThreads (Page : Type) where
  threads : NodeThreads Page
  evicting : Option PendingEviction
  evicted : List Nat

inductive RingEvent (Page : Type) where
  | turn (e : NodeEvent Page)
  | select
  | drop (calls : WritebackCalls Page) (networkFd : Int)

/-- The thread's own copy of the victim is due, and faults. -/
def PendingEviction.Waits (v : PendingEviction) (n : Node Page) : Prop :=
  v.modified = true ∧ (n.mapping (n.evictionRing v.position).pageIndex).isMapped = false

instance (v : PendingEviction) (n : Node Page) : Decidable (v.Waits n) :=
  inferInstanceAs (Decidable (_ ∧ _))

namespace Node

/-- `dsm_execute_eviction` up to the writeback of the victim. -/
def selectVictim (n : Node Page) : Node Page × Option PendingEviction :=
  let swept := trackerCells.sweep n.numPages n.evictionRing n.clockHand (n.numPages * 2)
  (n.turned swept.1 swept.2.1, swept.2.2.map fun v =>
    ⟨v, n.directory.localMsiState n.localNodeId (n.evictionRing v).pageIndex = .modified⟩)

theorem selectVictim_position (n : Node Page) :
    n.selectVictim.2.map PendingEviction.position =
      (trackerCells.sweep n.numPages n.evictionRing n.clockHand (n.numPages * 2)).2.2 := by
  simp only [selectVictim, Option.map_map]
  exact Option.map_id'

/-- The packet with a `MODIFIED` victim, if it is sent as a whole. -/
def sendVictim (n : Node Page) (calls : WritebackCalls Page) (networkFd : Int)
    (v : PendingEviction) : Node Page :=
  if v.modified = true ∧ (sendAllBytes packetSize calls.sends).2 = some 0 then
    n.sendAllNonblocking networkFd
      ⟨.sendPage, (n.evictionRing v.position).pageIndex, n.localNodeId,
        (n.mapping (n.evictionRing v.position).pageIndex).contents.getD calls.faultedIn⟩
  else n

theorem sendVictim_eq {n : Node Page} {calls : WritebackCalls Page} {networkFd : Int}
    {v : PendingEviction}
    (seen : v.modified = decide (n.directory.localMsiState n.localNodeId
      (n.evictionRing v.position).pageIndex = .modified)) :
    n.sendVictim calls networkFd v =
      n.writebackOn calls networkFd (n.evictionRing v.position).pageIndex := by
  unfold sendVictim writebackOn
  rw [seen]
  by_cases modified : n.directory.localMsiState n.localNodeId
      (n.evictionRing v.position).pageIndex = .modified
  · simp only [modified, decide_true, true_and, if_true]
  · simp only [modified, decide_false, Bool.false_eq_true, false_and, if_false]

theorem tracked_sendVictim (n : Node Page) (calls : WritebackCalls Page) (networkFd : Int)
    (v : PendingEviction) : (n.sendVictim calls networkFd v).tracked = n.tracked := by
  unfold sendVictim
  split <;> rfl

end Node

namespace RingThreads

variable [Zero Page]

abbrev node (s : RingThreads Page) : Node Page := s.threads.node

def step (s : RingThreads Page) : RingEvent Page → Option (RingThreads Page)
  | .turn (.evict _) => none
  | .turn e => (s.threads.step e).map fun t => { s with threads := t }
  | .select =>
    match s.evicting with
    | some _ => none
    | none =>
      let selected := s.threads.resume.selectVictim
      some { s with threads := { s.threads with node := selected.1 }, evicting := selected.2 }
  | .drop calls networkFd =>
    s.evicting.map fun v =>
      let n := s.threads.resume
      let idx := (n.evictionRing v.position).pageIndex
      -- reading the page to send it faults when another thread has unmapped it
      if v.Waits n then { s with threads := { s.threads with node := n.raise ⟨idx, false⟩ } }
      else
        { threads := { s.threads with node := (n.sendVictim calls networkFd v).dropVictim v.position }
          evicting := none
          evicted := s.evicted ++ [idx] }

def start (id : Nat) (coordinatorFd : Int) (numPages : Nat) : RingThreads Page :=
  ⟨.start id coordinatorFd numPages, none, []⟩

/-- When no other thread comes between, the two halves are one call. -/
theorem select_drop_agrees {s selected dropped : RingThreads Page} {v : PendingEviction}
    {calls : WritebackCalls Page} {networkFd : Int} (first : s.step .select = some selected)
    (found : selected.evicting = some v) (ready : ¬ v.Waits selected.threads.resume)
    (second : selected.step (.drop calls networkFd) = some dropped) :
    dropped.node = (s.threads.resume.dsmExecuteEvictionOn calls networkFd).node := by
  simp only [step] at first
  split at first
  · cases first
  · cases first
    obtain ⟨position, swept, rfl⟩ := Option.map_eq_some_iff.mp found
    obtain ⟨_, same, rfl⟩ := Option.map_eq_some_iff.mp second
    cases found.symm.trans same
    -- the sweep between changed no page number, so both halves mean the same page
    have number := (sweep_keeps s.node.numPages s.node.evictionRing s.node.clockHand
      (s.node.numPages * 2) position).1
    have seen := congrArg (fun idx => decide (s.threads.resume.directory.localMsiState
      s.threads.resume.localNodeId idx = .modified)) number.symm
    have written : s.threads.resume.selectVictim.1.sendVictim calls networkFd ⟨position, _⟩ = _ :=
      Node.sendVictim_eq seen
    rw [Node.dsmExecuteEvictionOn_eq, Node.swept, swept]
    dsimp only at ready ⊢
    rw [if_neg ready]
    exact congrArg (fun n => Node.dropVictim n position) written

/-! ### The record over a run -/

/-- The ring lists every page under its own number, as present until it is evicted. -/
structure Listed (s : RingThreads Page) : Prop where
  tracked : ∀ i, s.node.tracked i = (i, if i ∈ s.evicted then 0 else 1)
  pending : ∀ v ∈ s.evicting, v.position ∉ s.evicted
  once : s.evicted.Nodup

omit [Zero Page] in
theorem Listed.status {s : RingThreads Page} (listed : s.Listed) (i : Nat) :
    (s.node.evictionRing i).status ≠ 0 ↔ i ∉ s.evicted := by
  have status := congrArg Prod.snd (listed.tracked i)
  simp only [Node.tracked] at status
  rw [status]
  split <;> simp_all

omit [Zero Page] in
theorem Listed.pageIndex {s : RingThreads Page} (listed : s.Listed) (i : Nat) :
    (s.node.evictionRing i).pageIndex = i :=
  congrArg Prod.fst (listed.tracked i)

theorem start_listed (id : Nat) (coordinatorFd : Int) (numPages : Nat) :
    (start id coordinatorFd numPages : RingThreads Page).Listed :=
  ⟨fun _ => rfl, nofun, .nil⟩

omit [Zero Page] in
/-- A victim of the clock was never evicted before. -/
theorem Listed.victim {s : RingThreads Page} (listed : s.Listed) {p : Nat}
    (chosen : s.node.selectVictim.2.map PendingEviction.position = some p) : p ∉ s.evicted := by
  rw [Node.selectVictim_position] at chosen
  have stops := trackerCells.sweep_stops _ _ _ _ p chosen
  have kept := (sweep_keeps s.node.numPages s.node.evictionRing s.node.clockHand
    (s.node.numPages * 2) p).2
  apply (listed.status p).mp
  rw [← kept]
  exact of_decide_eq_true stops.2

/-- The hand of the clock changes no record, and stops at a page that is listed as present. -/
theorem Listed.select {s s' : RingThreads Page} (listed : s.Listed)
    (next : s.step .select = some s') : s'.Listed := by
  simp only [step] at next
  split at next
  · cases next
  · cases next
    refine ⟨fun i => ?_, ?_, listed.once⟩
    · -- the sweep clears access bits only
      rw [← listed.tracked i]
      obtain ⟨number, status⟩ := sweep_keeps s.node.numPages s.node.evictionRing s.node.clockHand
        (s.node.numPages * 2) i
      exact Prod.ext number status
    · intro v found
      exact listed.victim (congrArg (Option.map PendingEviction.position) found)

theorem Listed.drop {s s' : RingThreads Page} {calls : WritebackCalls Page} {networkFd : Int}
    (listed : s.Listed) (next : s.step (.drop calls networkFd) = some s') : s'.Listed := by
  obtain ⟨v, pending, rfl⟩ := Option.map_eq_some_iff.mp next
  have fresh := listed.pending v pending
  have number := listed.pageIndex v.position
  dsimp only
  split
  · -- the writeback faults: nothing is dropped yet
    exact ⟨listed.tracked, listed.pending, listed.once⟩
  · have dropped : (s.threads.resume.evictionRing v.position).pageIndex = v.position := number
    rw [dropped]
    refine ⟨fun i => ?_, nofun, ?_⟩
    · have before : (s.threads.resume.sendVictim calls networkFd v).tracked i = _ :=
        (congrFun (Node.tracked_sendVictim _ calls networkFd v) i).trans (listed.tracked i)
      simp only [Node.tracked, Node.dropVictim, Prod.mk.injEq] at before ⊢
      -- the victim alone is unlisted
      by_cases own : i = v.position
      · subst own
        rw [Function.update_self]
        exact ⟨before.1, by simp⟩
      · rw [Function.update_of_ne own]
        exact ⟨before.1, before.2.trans (by simp [own])⟩
    · exact listed.once.append (List.nodup_singleton _) (by simpa using fresh)

theorem Listed.step {s s' : RingThreads Page} {e : RingEvent Page} (listed : s.Listed)
    (next : s.step e = some s') : s'.Listed := by
  cases e with
  | turn e =>
    cases e with
    | evict fd => cases next
    | load | store | fault | drain | receive | finish | closed =>
      obtain ⟨t, turn, rfl⟩ := Option.map_eq_some_iff.mp next
      have same := NodeThreads.step_tracked turn nofun
      exact ⟨fun i => same ▸ listed.tracked i, listed.pending, listed.once⟩
  | select => exact listed.select next
  | drop calls networkFd => exact listed.drop next

theorem listed_of_run {id : Nat} {coordinatorFd : Int} {numPages : Nat} {s : RingThreads Page}
    (run : Runs.Run RingThreads.step (fun _ _ => True) (.start id coordinatorFd numPages) s) :
    s.Listed :=
  run.invariant Listed (start_listed id coordinatorFd numPages)
    fun _ _ _ listed _ next => listed.step next

/-! ### The record and the mapping -/

/-- For some access bits and some position of the hand the clock takes page `p`. -/
def CanChoose (s : RingThreads Page) (p : Nat) : Prop :=
  ∃ ring hand, (∀ i, (ring i).pageIndex = (s.node.evictionRing i).pageIndex ∧
      (ring i).status = (s.node.evictionRing i).status) ∧
    (s.node.turned ring hand).selectVictim.2.map PendingEviction.position = some p

/-- The ring follows the mapping of page `p`: it tracks the page exactly while it is mapped, so
that a mapped page can be chosen, and a chosen page is mapped. -/
structure Follows (s : RingThreads Page) (p : Nat) : Prop where
  tracks : (s.node.evictionRing p).status ≠ 0 ↔ (s.node.mapping p).isMapped = true
  eligible : (s.node.mapping p).isMapped = true → s.CanChoose p
  frees : s.node.selectVictim.2.map PendingEviction.position = some p →
    (s.node.mapping p).isMapped = true

/-- The page is absent after an eviction, or present and never evicted. -/
def AbsentAsEvicted (s : RingThreads Page) (p : Nat) : Prop :=
  p ∈ s.evicted ↔ (s.node.mapping p).isMapped = false

instance (s : RingThreads Page) (p : Nat) : Decidable (s.AbsentAsEvicted p) :=
  inferInstanceAs (Decidable (_ ↔ _))

omit [Zero Page] in
/-- A page listed as present is next when the hand points at it and it was not used. -/
theorem Listed.canChoose {s : RingThreads Page} (listed : s.Listed) {p : Nat}
    (inside : p < s.node.numPages) (present : p ∉ s.evicted) : s.CanChoose p := by
  let unused (i : Nat) : LocalPageTracker := { s.node.evictionRing i with accessBit := 0 }
  have stops : trackerCells.Stops (unused p) :=
    ⟨rfl, decide_eq_true ((listed.status p).mpr present)⟩
  obtain ⟨fuel, enough⟩ := Nat.exists_eq_succ_of_ne_zero (show s.node.numPages * 2 ≠ 0 by omega)
  have swept : trackerCells.sweep s.node.numPages unused p (fuel + 1) =
      (unused, (p + 1) % s.node.numPages, some p) := trackerCells.sweep_stop stops fuel
  refine ⟨unused, p, fun i => ⟨rfl, rfl⟩, ?_⟩
  rw [Node.selectVictim_position, show (s.node.turned unused p).numPages * 2 = fuel + 1 from enough]
  exact congrArg (fun result => result.2.2) swept

end RingThreads

/-- In every run from `main`'s initialisation the ring follows the mapping of a page exactly if
the page is either mapped and was never evicted, or unmapped and was. -/
theorem ring_tracks_residency_iff [Zero Page] {id : Nat} {coordinatorFd : Int} {numPages : Nat}
    {s : RingThreads Page}
    (run : Runs.Run RingThreads.step (fun _ _ => True) (.start id coordinatorFd numPages) s) {p : Nat}
    (inside : p < s.node.numPages) : s.Follows p ↔ s.AbsentAsEvicted p := by
  have listed := RingThreads.listed_of_run run
  constructor
  · intro follows
    have tracks := follows.tracks
    rw [listed.status] at tracks
    -- what the ring tracks is what was never evicted
    by_cases mapped : (s.node.mapping p).isMapped = true
    · simp [RingThreads.AbsentAsEvicted, mapped, tracks.mpr mapped]
    · simp [RingThreads.AbsentAsEvicted, mapped, not_not.mp (mt tracks.mp mapped)]
  · -- conversely a mapped page is still listed, and the clock takes listed pages only
    intro absent
    have present : p ∉ s.evicted ↔ (s.node.mapping p).isMapped = true :=
      (not_congr absent).trans (Bool.not_eq_false _ ▸ Iff.rfl)
    refine ⟨(listed.status p).trans present, fun mapped => ?_, fun chosen => ?_⟩
    · exact listed.canChoose inside (present.mpr mapped)
    · exact present.mp (listed.victim chosen)

/-- Worker 2 is sent page 0, its clock drops the four pages, and it is sent page 0 again. -/
def evictThenRefetch : List (RingEvent PageBytes) :=
  [.turn (.store 0 fun _ => 7), .turn .fault, .turn .drain, .turn (.receive 7 ⟨.sendPage, 0, 1, 0⟩),
    .select, .drop failedCalls 7, .select, .drop failedCalls 7, .select, .drop failedCalls 7,
    .select, .drop failedCalls 7, .turn (.receive 7 ⟨.invalidate, 0, 0, 0⟩), .turn (.load 0),
    .turn .fault, .turn .drain, .turn (.receive 7 ⟨.sendPage, 0, 1, 0⟩)]

theorem ring_tracks_residency_refetched : ∃ s : RingThreads PageBytes,
    Runs.Run RingThreads.step (fun _ _ => True) (.start 2 7 4) s ∧ 0 ∈ s.evicted ∧
      (s.node.mapping 0).isMapped = true ∧ (s.Follows 0 ↔ s.AbsentAsEvicted 0) := by
  obtain ⟨s, run, pages, evicted, mapped⟩ := Runs.exists_run RingThreads.step (fun _ _ => True)
    (.start 2 7 4) evictThenRefetch
    (fun s => 0 < s.node.numPages ∧ 0 ∈ s.evicted ∧ (s.node.mapping 0).isMapped = true)
    (by decide +kernel)
  exact ⟨s, run, evicted, mapped, ring_tracks_residency_iff run pages⟩

/-- A page that is fetched back is not in the clock any more. -/
theorem refetched_page_untracked : ¬ ∀ s : RingThreads PageBytes,
    Runs.Run RingThreads.step (fun _ _ => True) (.start 2 7 4) s →
      ∀ p < s.node.numPages, s.Follows p := by
  intro claim
  obtain ⟨s, run, pages, untracked, mapped⟩ := Runs.exists_run RingThreads.step (fun _ _ => True)
    (.start 2 7 4) evictThenRefetch
    (fun s => 0 < s.node.numPages ∧ (s.node.evictionRing 0).status = 0 ∧
      (s.node.mapping 0).isMapped = true)
    (by decide +kernel)
  exact (claim s run 0 pages).tracks.mpr mapped untracked

end TeleportVM
