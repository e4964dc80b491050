import TeleportVM.RingResidency
import TeleportVM.Frame

/-!
What becomes of the eviction of a node in the long run: the clock lists a page once, so it can drop
it once.
-/
namespace TeleportVM

variable {Page : Type}

namespace Node

/-- The hand of the clock and the size of the ring. -/
def clock (n : Node Page) : Nat × Nat := (n.clockHand, n.numPages)

theorem clock_of_elsewhere {n n' : Node Page} {p : Nat} (same : n'.elsewhere p = n.elsewhere p) :
    n'.clock = n.clock := by
  simp only [elsewhere, NodeElsewhere.mk.injEq] at same
  obtain ⟨-, -, -, pages, -, -, -, -, -, -, -, hand, -⟩ := same
  exact Prod.ext hand pages

theorem clock_handleFault (n : Node Page) (fault : PageRequest) :
    (n.handleFault fault).clock = n.clock := by
  unfold handleFault queuePush
  dsimp only
  split
  · rfl
  · split <;> rfl

theorem clock_sendVictim (n : Node Page) (calls : WritebackCalls Page) (networkFd : Int)
    (v : PendingEviction) : (n.sendVictim calls networkFd v).clock = n.clock := by
  unfold sendVictim
  split <;> rfl

theorem clock_dropVictim (n : Node Page) (inspectIdx : Nat) :
    (n.dropVictim inspectIdx).clock = n.clock := by
  simp only [clock, numPages, dropVictim, Directory.setLocalMsiState]
  split <;> rfl

variable [Zero Page] (n : Node Page)

theorem clock_beginQueuedRequest (req : PageRequest) :
    (n.beginQueuedRequest req).1.clock = n.clock := by
  unfold beginQueuedRequest
  split
  · rfl
  · exact clock_of_elsewhere (n.elsewhere_serveQueuedRequest req)

theorem clock_takesPacket {clientFd : Int} {packet : DsmPacket Page}
    {begun : Node Page × Option (EngineTask Page)} (takes : n.TakesPacket clientFd packet begun) :
    begun.1.clock = n.clock := by
  cases takes with
  | request begun _ takes =>
    cases takes with
    | outside | fromCopy | fetch | withZeros => rfl
  | page => exact clock_of_elsewhere (n.elsewhere_handleSendPage packet)
  | invalidate => exact clock_of_elsewhere (n.elsewhere_handleInvalidate clientFd packet)
  | ack => exact clock_of_elsewhere (n.elsewhere_handleInvalidateAck packet)
  | join | other => rfl

theorem clock_perform (task : EngineTask Page) : (n.perform task).clock = n.clock := by
  cases task with
  | zeroFill idx isWrite => exact clock_of_elsewhere (n.elsewhere_zeroFillLocal idx isWrite)
  | answerFromCopy clientFd idx requestingNode isWrite page =>
    cases isWrite with
    | true =>
      exact clock_of_elsewhere (n.elsewhere_serveWriteFromCopy idx clientFd requestingNode page)
    | false =>
      exact clock_of_elsewhere (n.elsewhere_serveReadFromCopy idx clientFd requestingNode page)
  | answerWithZeros clientFd idx requestingNode isWrite =>
    exact clock_of_elsewhere (n.elsewhere_serveZeroPage idx clientFd requestingNode isWrite)

end Node

/-- Nobody but the eviction thread moves the hand. -/
theorem NodeThreads.step_clock [Zero Page] {t t' : NodeThreads Page} {e : NodeEvent Page}
    (next : t.step e = some t') (notEvict : ∀ fd, e ≠ .evict fd) :
    t'.node.clock = t.node.clock := by
  cases turn_of_step next with
  | load | loadFault | store | storeFault | closed => rfl
  | fault fault rest => exact Node.clock_handleFault { t.resume with uffdMessages := rest } fault
  | drain req rest =>
    exact Node.clock_beginQueuedRequest { t.resume with sharedReqQueue := rest } req
  | receive _ _ _ _ takes => exact Node.clock_takesPacket t.resume takes
  | finish task => exact Node.clock_perform t.resume task
  | evict fd => exact absurd rfl (notEvict fd)

namespace RingThreads

variable [Zero Page] {s s' : RingThreads Page}

/-- The hand is on the ring of that many pages, and so is all that the clock has chosen. -/
structure OnRing (numPages : Nat) (s : RingThreads Page) : Prop where
  pages : s.node.numPages = numPages
  hand : 0 < numPages → s.node.clockHand < numPages
  pending : ∀ v ∈ s.evicting, v.position < numPages
  evicted : ∀ p ∈ s.evicted, p < numPages

theorem start_onRing (id : Nat) (coordinatorFd : Int) (numPages : Nat) :
    (start id coordinatorFd numPages : RingThreads Page).OnRing numPages where
  pages := rfl
  hand some := some
  pending v found := by cases found
  evicted p found := by cases found

omit [Zero Page] in
/-- The clock stops on the ring, and its hand stays there. -/
theorem OnRing.swept {numPages : Nat} (onRing : s.OnRing numPages) :
    (0 < numPages → s.threads.resume.selectVictim.1.clockHand < numPages) ∧
      ∀ v ∈ s.threads.resume.selectVictim.2, v.position < numPages := by
  obtain rfl := onRing.pages
  rcases Nat.eq_zero_or_pos s.node.numPages with empty | some
  · -- without pages the loop makes no iteration
    have none : s.threads.resume.selectVictim.2 = none := by
      have pages : s.threads.resume.numPages = 0 := empty
      simp only [Node.selectVictim, pages, Nat.zero_mul]
      rfl
    rw [none]
    exact ⟨fun some => absurd empty some.ne', fun v found => by cases found⟩
  · obtain ⟨hand, victim⟩ :=
      trackerCells.sweep_inside (onRing.hand some) (s.threads.resume.numPages * 2)
    refine ⟨fun _ => hand, fun v found => ?_⟩
    obtain ⟨position, stopped, rfl⟩ := Option.map_eq_some_iff.mp found
    exact victim position stopped

theorem OnRing.select {numPages : Nat} (onRing : s.OnRing numPages)
    (next : s.step .select = some s') : s'.OnRing numPages := by
  obtain ⟨hand, victim⟩ := onRing.swept
  simp only [step] at next
  split at next
  · cases next
  · cases next
    exact ⟨onRing.pages, hand, victim, onRing.evicted⟩

theorem OnRing.drop {numPages : Nat} (onRing : s.OnRing numPages) (listed : s.Listed)
    {calls : WritebackCalls Page} {networkFd : Int}
    (next : s.step (.drop calls networkFd) = some s') : s'.OnRing numPages := by
  obtain ⟨v, pending, rfl⟩ := Option.map_eq_some_iff.mp next
  dsimp only
  split
  · exact ⟨onRing.pages, onRing.hand, onRing.pending, onRing.evicted⟩
  · have kept : ((s.threads.resume.sendVictim calls networkFd v).dropVictim v.position).clock =
        s.node.clock :=
      (Node.clock_dropVictim _ _).trans (Node.clock_sendVictim _ _ _ _)
    have number : (s.threads.resume.evictionRing v.position).pageIndex = v.position :=
      listed.pageIndex v.position
    refine ⟨(congrArg Prod.snd kept).trans onRing.pages, fun some => ?_, fun v found => ?_,
      fun p found => ?_⟩
    · exact (congrArg Prod.fst kept).trans_lt (onRing.hand some)
    · cases found
    · rw [number] at found
      rcases List.mem_append.mp found with before | last
      · exact onRing.evicted p before
      · rw [List.mem_singleton.mp last]
        exact onRing.pending v pending

theorem OnRing.step {numPages : Nat} {e : RingEvent Page} (onRing : s.OnRing numPages)
    (listed : s.Listed) (next : s.step e = some s') : s'.OnRing numPages := by
  cases e with
  | turn e =>
    cases e with
    | evict fd => cases next
    | load | store | fault | drain | receive | finish | closed =>
      obtain ⟨t, turn, rfl⟩ := Option.map_eq_some_iff.mp next
      have same := NodeThreads.step_clock turn (by simp)
      exact ⟨(congrArg Prod.snd same).trans onRing.pages,
        fun some => (congrArg Prod.fst same).trans_lt (onRing.hand some), onRing.pending,
        onRing.evicted⟩
  | select => exact onRing.select next
  | drop calls networkFd => exact onRing.drop listed next

theorem onRing_of_run {id : Nat} {coordinatorFd : Int} {numPages : Nat}
    (run : Runs.Run RingThreads.step (fun _ _ => True) (.start id coordinatorFd numPages) s) :
    s.OnRing numPages := by
  refine (run.invariant (fun s => s.Listed ∧ s.OnRing numPages)
    ⟨start_listed id coordinatorFd numPages, start_onRing id coordinatorFd numPages⟩ ?_).2
  rintro a e b ⟨listed, onRing⟩ - next
  exact ⟨listed.step next, onRing.step listed next⟩

/-- What has been dropped stays in the record. -/
theorem evicted_of_run {allow : RingThreads Page → RingEvent Page → Prop}
    (run : Runs.Run RingThreads.step allow s s') : s.evicted <+: s'.evicted := by
  refine run.invariant (fun s' => s.evicted <+: s'.evicted) List.prefix_rfl ?_
  rintro a e b before - next
  cases e with
  | turn e =>
    cases e with
    | evict fd => cases next
    | load | store | fault | drain | receive | finish | closed =>
      obtain ⟨t, -, rfl⟩ := Option.map_eq_some_iff.mp next
      exact before
  | select =>
    simp only [step] at next
    split at next
    · cases next
    · cases next
      exact before
  | drop calls networkFd =>
    obtain ⟨v, -, rfl⟩ := Option.map_eq_some_iff.mp next
    dsimp only
    split
    · exact before
    · exact before.trans (List.prefix_append _ _)

omit [Zero Page] in
/-- As no page is dropped twice, the record fits the ring. -/
theorem Listed.subperm {numPages : Nat} (listed : s.Listed) (onRing : s.OnRing numPages) :
    s.evicted.Subperm (List.range numPages) :=
  listed.once.subperm fun p found => List.mem_range.mpr (onRing.evicted p found)

omit [Zero Page] in
/-- When every page has been dropped once, none is chosen. -/
theorem Listed.none_left {numPages : Nat} (listed : s.Listed) (onRing : s.OnRing numPages)
    (all : s.evicted.length = numPages) : s.evicting = none := by
  cases pending : s.evicting with
  | none => rfl
  | some v =>
    have fresh := listed.pending v pending
    have covers : s.evicted.Perm (List.range numPages) :=
      (listed.subperm onRing).perm_of_length_le (by rw [List.length_range, all])
    exact absurd (covers.mem_iff.mpr (List.mem_range.mpr (onRing.pending v pending))) fresh

end RingThreads

/-- In the life of a node its eviction thread drops every page at most once, whatever is fetched
back in between; when it has dropped them all it never chooses a page again, whatever happens. -/
theorem evictions_run_out [Zero Page] {id : Nat} {coordinatorFd : Int} {numPages : Nat}
    {s : RingThreads Page}
    (run : Runs.Run RingThreads.step (fun _ _ => True) (.start id coordinatorFd numPages) s) :
    s.evicted.Nodup ∧ s.evicted.length ≤ numPages ∧
      (s.evicted.length = numPages → ∀ s', Runs.Run RingThreads.step (fun _ _ => True) s s' →
        s'.evicted = s.evicted ∧ s'.evicting = none) := by
  have bound {u : RingThreads Page}
      (run : Runs.Run RingThreads.step (fun _ _ => True) (.start id coordinatorFd numPages) u) :
      u.evicted.length ≤ numPages := by
    have fits := (RingThreads.listed_of_run run).subperm (RingThreads.onRing_of_run run)
    simpa using fits.length_le
  refine ⟨(RingThreads.listed_of_run run).once, bound run, fun all s' more => ?_⟩
  have grown := RingThreads.evicted_of_run more
  have same : s'.evicted = s.evicted := by
    refine (grown.eq_of_length (le_antisymm grown.length_le ?_)).symm
    rw [all]
    exact bound (run.trans more)
  refine ⟨same, ?_⟩
  exact (RingThreads.listed_of_run (run.trans more)).none_left
    (RingThreads.onRing_of_run (run.trans more)) (same ▸ all)

/-- The four pages are dropped, and page 0 is fetched back. -/
theorem evictions_run_out_refetched : ∃ s : RingThreads PageBytes,
    Runs.Run RingThreads.step (fun _ _ => True) (.start 2 7 4) s ∧
      (s.node.mapping 0).isMapped = true ∧
      ∀ s', Runs.Run RingThreads.step (fun _ _ => True) s s' → s'.evicting = none := by
  obtain ⟨s, run, mapped, all⟩ := Runs.exists_run RingThreads.step (fun _ _ => True)
    (.start 2 7 4) evictThenRefetch
    (fun s => (s.node.mapping 0).isMapped = true ∧ s.evicted.length = 4) (by decide +kernel)
  exact ⟨s, run, mapped, fun s' more => ((evictions_run_out run).2.2 all s' more).2⟩

end TeleportVM
