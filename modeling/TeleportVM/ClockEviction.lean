import TeleportVM.LocalEviction
import TeleportVM.Send
import TeleportVM.Lib.SecondChance

/-!
One call of `dsm_execute_eviction` while nobody else touches the ring: which page it takes, and
what becomes of the page when the writeback fails.
-/
namespace TeleportVM

variable {Page : Type}

/-- `recv_all_bytes` for `len` bytes, `recvd` of them there. While no further `recv` has ended,
the loop has not returned. -/
def recvAllBytes (len : Nat) : List RecvResult → Nat → Option Int
  | [], recvd => if recvd < len then none else some 0
  | result :: results, recvd =>
    if recvd < len then
      match result with
      | .bytes chunk =>
        if 0 < chunk.length then recvAllBytes len results (recvd + chunk.length) else some (-1)
      | .wouldBlock | .closed => some (-1)
    else some 0

/-- How the socket calls of one writeback end. The socket does not block, so both loops return.
When the thread's own copy of the victim meets an absent page, it waits until the fault is
resolved with `faultedIn`. -/
structure WritebackCalls (Page : Type) where
  sends : List SendResult
  recvs : List RecvResult
  faultedIn : Page
  sendReturns : (sendAllBytes packetSize sends).2 ≠ none
  recvReturns : (sendAllBytes packetSize sends).2 = some 0 → recvAllBytes 1 recvs 0 ≠ none

/-- The whole packet was sent, and the acknowledgement came. -/
def WritebackCalls.Completed (calls : WritebackCalls Page) : Prop :=
  (sendAllBytes packetSize calls.sends).2 = some 0 ∧ recvAllBytes 1 calls.recvs 0 = some 0

instance (calls : WritebackCalls Page) : Decidable calls.Completed :=
  inferInstanceAs (Decidable (_ ∧ _))

/-- What a call leaves and returns, and the ring position it evicted. -/
structure EvictionOutcome (Page : Type) where
  node : Node Page
  returned : Int
  victim : Option Nat

namespace Node

/-- The writeback of a `MODIFIED` victim. Whatever `recv_all_bytes` returns is ignored, and a
packet that was not sent as a whole is none to the other end. -/
def writebackOn (n : Node Page) (calls : WritebackCalls Page) (networkFd : Int) (idx : Nat) :
    Node Page :=
  if n.directory.localMsiState n.localNodeId idx = .modified then
    if (sendAllBytes packetSize calls.sends).2 = some 0 then
      n.sendAllNonblocking networkFd
        ⟨.sendPage, idx, n.localNodeId, (n.mapping idx).contents.getD calls.faultedIn⟩
    else n
  else n

/-- The sweep, with the iterations that are left and every `page_mutex` free. -/
def evictionSweepOn (n : Node Page) (calls : WritebackCalls Page) (networkFd : Int) :
    Nat → EvictionOutcome Page
  | 0 => ⟨n, -1, none⟩
  | iterations + 1 =>
    let inspectIdx := n.clockHand
    let advanced := { n with clockHand := (n.clockHand + 1) % n.numPages }
    let victim := advanced.evictionRing inspectIdx
    if victim.accessBit = 1 then
      evictionSweepOn
        { advanced with
          evictionRing := Function.update advanced.evictionRing inspectIdx
            { victim with accessBit := 0 } }
        calls networkFd iterations
    else if victim.status = 0 then evictionSweepOn advanced calls networkFd iterations
    else ⟨(advanced.writebackOn calls networkFd victim.pageIndex).dropVictim inspectIdx, 0,
      some inspectIdx⟩

def dsmExecuteEvictionOn (n : Node Page) (calls : WritebackCalls Page) (networkFd : Int) :
    EvictionOutcome Page :=
  n.evictionSweepOn calls networkFd (n.numPages * 2)

end Node

/-! ### When the sockets work

The eviction of a cluster's worker is the call whose packet is sent as a whole. -/

namespace Node

variable {n : Node Page} {calls : WritebackCalls Page} {networkFd : Int}

theorem writeback_agrees (sent : (sendAllBytes packetSize calls.sends).2 = some 0) {idx : Nat}
    {n' : Node Page} (written : n.writeback networkFd idx = some n') :
    n.writebackOn calls networkFd idx = n' := by
  unfold writeback at written
  unfold writebackOn
  split at written
  next modified =>
    obtain ⟨page, copy, rfl⟩ := Option.map_eq_some_iff.mp written
    rw [if_pos modified, if_pos sent, copy]
    rfl
  next other =>
    cases written
    rw [if_neg other]

theorem evictionSweep_agrees (sent : (sendAllBytes packetSize calls.sends).2 = some 0)
    {iterations : Nat} {result : Node Page × Option Nat}
    (swept : n.evictionSweep networkFd iterations = some result) :
    (n.evictionSweepOn calls networkFd iterations).node = result.1 ∧
      (n.evictionSweepOn calls networkFd iterations).victim.map
        (fun v => (n.evictionRing v).pageIndex) = result.2 := by
  -- induction on the iterations left, for a node whose hand has moved
  induction iterations generalizing n with
  | zero =>
    cases swept
    exact ⟨rfl, rfl⟩
  | succ iterations ih =>
    simp only [evictionSweep] at swept
    simp only [evictionSweepOn]
    split at swept
    next accessed =>
      rw [if_pos accessed]
      -- clearing the access bit leaves the page number that is compared
      obtain ⟨node, victim⟩ := ih swept
      refine ⟨node, ?_⟩
      rw [← victim]
      congr 1
      funext v
      dsimp only
      by_cases here : v = n.clockHand
      · rw [here, Function.update_self]
      · rw [Function.update_of_ne here]
    next untouched =>
      rw [if_neg untouched]
      split at swept
      next gone =>
        rw [if_pos gone]
        exact ih swept
      next tracked =>
        rw [if_neg tracked]
        -- the victim: written back on sockets that work
        obtain ⟨written, back, rfl⟩ := Option.map_eq_some_iff.mp swept
        rw [writeback_agrees sent back]
        exact ⟨rfl, rfl⟩

theorem dsmExecuteEviction_agrees (sent : (sendAllBytes packetSize calls.sends).2 = some 0)
    {result : Node Page × Option Nat} (swept : n.dsmExecuteEviction networkFd = some result) :
    (n.dsmExecuteEvictionOn calls networkFd).node = result.1 ∧
      (n.dsmExecuteEvictionOn calls networkFd).victim.map
        (fun v => (n.evictionRing v).pageIndex) = result.2 :=
  evictionSweep_agrees sent swept

end Node

/-! ### The ring as a second-chance clock -/

def trackerCells : SecondChance.Cells LocalPageTracker where
  recent a := a.accessBit = 1
  occupied a := a.status ≠ 0
  age a := { a with accessBit := 0 }
  recent_age _ := rfl
  occupied_age _ := rfl

/-- The hand changes nothing but access bits. -/
theorem sweep_keeps (count : Nat) (ring : Nat → LocalPageTracker) (hand fuel i : Nat) :
    ((trackerCells.sweep count ring hand fuel).1 i).pageIndex = (ring i).pageIndex ∧
      ((trackerCells.sweep count ring hand fuel).1 i).status = (ring i).status := by
  have passed : (trackerCells.pass (ring i)).pageIndex = (ring i).pageIndex ∧
      (trackerCells.pass (ring i)).status = (ring i).status := by
    unfold SecondChance.Cells.pass
    split <;> exact ⟨rfl, rfl⟩
  rcases trackerCells.sweep_cell count ring hand fuel i with same | changed
  · rw [same]
    exact ⟨rfl, rfl⟩
  · rw [changed]
    exact passed

/-- A bit that is 0 or 1 is 0 after the hand passed over it. -/
theorem pass_eq {a : LocalPageTracker} (bit : a.accessBit ≤ 1) :
    trackerCells.pass a = { a with accessBit := 0 } := by
  unfold SecondChance.Cells.pass
  split
  · rfl
  next old =>
    have zero : a.accessBit = 0 := by
      have unset : a.accessBit ≠ 1 := by simpa [trackerCells] using old
      omega
    rw [← zero]

namespace Node

variable {n : Node Page} {calls : WritebackCalls Page} {networkFd : Int}

/-- The node with another ring and another hand. -/
def turned (n : Node Page) (ring : Nat → LocalPageTracker) (hand : Nat) : Node Page :=
  { n with evictionRing := ring, clockHand := hand }

/-- The end of a sweep. -/
def swept (n : Node Page) (calls : WritebackCalls Page) (networkFd : Int)
    (result : (Nat → LocalPageTracker) × Nat × Option Nat) : EvictionOutcome Page :=
  let turned := n.turned result.1 result.2.1
  match result.2.2 with
  | none => ⟨turned, -1, none⟩
  | some v => ⟨(turned.writebackOn calls networkFd (result.1 v).pageIndex).dropVictim v, 0, some v⟩

theorem evictionSweepOn_eq (n : Node Page) (iterations : Nat) :
    n.evictionSweepOn calls networkFd iterations = n.swept calls networkFd
      (trackerCells.sweep n.numPages n.evictionRing n.clockHand iterations) := by
  -- the iterations of the source are those of the clock, cell by cell
  induction iterations generalizing n with
  | zero => rfl
  | succ iterations ih =>
    simp only [evictionSweepOn, SecondChance.Cells.sweep]
    have recent : trackerCells.recent (n.evictionRing n.clockHand) =
        decide ((n.evictionRing n.clockHand).accessBit = 1) := rfl
    have occupied : trackerCells.occupied (n.evictionRing n.clockHand) =
        decide ((n.evictionRing n.clockHand).status ≠ 0) := rfl
    rw [recent, occupied]
    by_cases accessed : (n.evictionRing n.clockHand).accessBit = 1
    · simp only [accessed, if_true, decide_true]
      exact ih _
    · by_cases free : (n.evictionRing n.clockHand).status = 0
      · simp only [accessed, free, if_false, if_true, decide_false, ne_eq, not_true_eq_false,
          Bool.false_eq_true]
        exact ih _
      · simp only [accessed, free, if_false, decide_false, ne_eq, not_false_eq_true, decide_true,
          if_true, Bool.false_eq_true]
        rfl

theorem dsmExecuteEvictionOn_eq (n : Node Page) :
    n.dsmExecuteEvictionOn calls networkFd = n.swept calls networkFd
      (trackerCells.sweep n.numPages n.evictionRing n.clockHand (n.numPages * 2)) :=
  n.evictionSweepOn_eq _

/-! A writeback touches neither the ring nor the tables of pages. -/

@[simp] theorem writebackOn_evictionRing (idx : Nat) :
    (n.writebackOn calls networkFd idx).evictionRing = n.evictionRing := by
  unfold writebackOn
  split
  · split <;> rfl
  · rfl

@[simp] theorem writebackOn_clockHand (idx : Nat) :
    (n.writebackOn calls networkFd idx).clockHand = n.clockHand := by
  unfold writebackOn
  split
  · split <;> rfl
  · rfl

@[simp] theorem writebackOn_directory (idx : Nat) :
    (n.writebackOn calls networkFd idx).directory = n.directory := by
  unfold writebackOn
  split
  · split <;> rfl
  · rfl

end Node

/-! ### Which page is evicted -/

/-- One call of the clock: the page it chooses and every field of the ring that it changes. -/
structure ClockCall (before : Node Page) (outcome : EvictionOutcome Page) : Prop where
  returns : outcome.returned = 0 ↔ ∃ i < before.numPages, (before.evictionRing i).status ≠ 0
  evicts : outcome.returned = 0 → ∃ k,
    trackerCells.Chooses before.numPages before.evictionRing before.clockHand k ∧
    outcome.victim = some (Ring.pos before.numPages before.clockHand k) ∧
    outcome.node.clockHand =
      (Ring.pos before.numPages before.clockHand k + 1) % before.numPages ∧
    ∀ i < before.numPages, outcome.node.evictionRing i =
      { before.evictionRing i with
        accessBit :=
          if ∃ j < k, Ring.pos before.numPages before.clockHand j = i then 0
          else (before.evictionRing i).accessBit
        status :=
          if i = Ring.pos before.numPages before.clockHand k then 0
          else (before.evictionRing i).status }
  fails : outcome.returned ≠ 0 → outcome.returned = -1 ∧ outcome.victim = none ∧
    outcome.node.clockHand = before.clockHand ∧
    ∀ i < before.numPages,
      outcome.node.evictionRing i = { before.evictionRing i with accessBit := 0 }

/-- What the hand leaves of an entry, for bits that are 0 or 1. -/
theorem passed_eq {count hand k : Nat} {ring : Nat → LocalPageTracker} {i : Nat}
    (bit : (ring i).accessBit ≤ 1) : trackerCells.passed count ring hand k i =
      { ring i with
        accessBit := if ∃ j < k, Ring.pos count hand j = i then 0 else (ring i).accessBit } := by
  unfold SecondChance.Cells.passed
  split
  · exact pass_eq bit
  · rfl

/-- With every page lock free and no concurrent change `dsm_execute_eviction` is the second-chance
clock, however the writeback goes. -/
theorem eviction_second_chance (n : Node Page) (calls : WritebackCalls Page) (networkFd : Int)
    (hand : n.clockHand < n.numPages)
    (bits : ∀ i < n.numPages, (n.evictionRing i).accessBit ≤ 1) :
    ClockCall n (n.dsmExecuteEvictionOn calls networkFd) := by
  rw [Node.dsmExecuteEvictionOn_eq]
  by_cases some : ∃ i < n.numPages, (n.evictionRing i).status ≠ 0
  · -- some page is tracked: the clock chooses one within two turns
    obtain ⟨i, cell, tracked⟩ := some
    obtain ⟨k, chooses⟩ := trackerCells.exists_chooses hand cell (decide_eq_true tracked)
    rw [trackerCells.sweep_chooses hand chooses]
    refine ⟨iff_of_true rfl ⟨i, cell, tracked⟩, fun _ => ⟨k, chooses, rfl, ?_, ?_⟩,
      fun absurdity => absurd rfl absurdity⟩
    · simp [Node.swept, Node.dropVictim, Node.turned, Node.setMapping, Ring.pos, Nat.add_assoc]
    · intro j inside
      simp only [Node.swept, Node.dropVictim, Node.writebackOn_evictionRing, Node.turned]
      by_cases own : j = Ring.pos n.numPages n.clockHand k
      · rw [own, Function.update_self, passed_eq (bits _ (own ▸ inside)), if_pos rfl]
      · rw [Function.update_of_ne own, passed_eq (bits j inside), if_neg own]
  · -- no page is tracked: the hand makes two full turns and is back where it was
    have untracked (i : Nat) (inside : i < n.numPages) : (n.evictionRing i).status = 0 := by
      by_contra tracked
      exact some ⟨i, inside, tracked⟩
    have free (i : Nat) (inside : i < n.numPages) :
        trackerCells.occupied (n.evictionRing i) = false :=
      decide_eq_false (not_not.mpr (untracked i inside))
    rw [trackerCells.sweep_free hand free]
    refine ⟨iff_of_false (by decide : (-1 : Int) ≠ 0) some,
      fun absurdity => absurd absurdity (by decide : (-1 : Int) ≠ 0), fun _ => ⟨rfl, rfl, rfl, ?_⟩⟩
    intro i inside
    -- two turns meet every page
    exact (trackerCells.passed_turn hand (Nat.le_mul_of_pos_right _ (by decide)) inside).trans
      (pass_eq (bits i inside))

/-- Page 1 was used, page 2 is free, and the hand is at page 1. -/
def recentlyUsed : Node PageBytes :=
  { Node.boot 2 7 4 with
    clockHand := 1
    evictionRing := fun i => ⟨i, if i = 2 then 0 else 1, if i = 1 then 1 else 0⟩ }

/-- A socket on which nothing can be sent. -/
def failedCalls [Zero Page] : WritebackCalls Page where
  sends := [.failed]
  recvs := []
  faultedIn := 0
  sendReturns := by decide
  recvReturns := by decide

theorem eviction_second_chance_recent :
    ClockCall recentlyUsed (recentlyUsed.dsmExecuteEvictionOn failedCalls 7) :=
  eviction_second_chance recentlyUsed failedCalls 7 (by decide) (by decide)

/-! ### A writeback that fails -/

/-- The page of ring position `v` is where it was, and its eviction is not reported. -/
structure LeavesInPlace (before : Node Page) (outcome : EvictionOutcome Page) (v : Nat) : Prop where
  mapped : outcome.node.mapping (before.evictionRing v).pageIndex =
    before.mapping (before.evictionRing v).pageIndex
  status : (outcome.node.evictionRing v).status = (before.evictionRing v).status
  entry : outcome.node.directory.entry (before.evictionRing v).pageIndex =
    before.directory.entry (before.evictionRing v).pageIndex
  unreported : outcome.returned ≠ 0

/-- The page is gone from memory, ring and directory, and the call reports success. -/
structure Drops (before : Node Page) (outcome : EvictionOutcome Page) (v : Nat) : Prop where
  unmapped : (outcome.node.mapping (before.evictionRing v).pageIndex).isMapped = false
  untracked : (before.evictionRing v).status ≠ 0 ∧ (outcome.node.evictionRing v).status = 0
  invalid : (outcome.node.directory.entry (before.evictionRing v).pageIndex).state = .invalid
  reported : outcome.returned = 0

theorem localMsiState_modified {d : Directory} {node idx : Nat}
    (modified : d.localMsiState node idx = .modified) : idx < d.numPages := by
  by_contra outside
  rw [Directory.localMsiState, if_pos (Nat.not_lt.mp outside)] at modified
  cases modified

/-- Every page that the call selects is dropped. -/
theorem drops_victim {n : Node Page} {calls : WritebackCalls Page} {networkFd : Int} {v : Nat}
    (selected : (n.dsmExecuteEvictionOn calls networkFd).victim = some v)
    (inRange : (n.evictionRing v).pageIndex < n.numPages) :
    Drops n (n.dsmExecuteEvictionOn calls networkFd) v := by
  rw [Node.dsmExecuteEvictionOn_eq] at selected ⊢
  obtain ⟨page, status⟩ := sweep_keeps n.numPages n.evictionRing n.clockHand (n.numPages * 2) v
  have stopped := trackerCells.sweep_stops n.numPages n.evictionRing n.clockHand (n.numPages * 2) v
  -- only what the sweep keeps of the ring is needed from here on
  generalize trackerCells.sweep n.numPages n.evictionRing n.clockHand (n.numPages * 2) = result at *
  obtain ⟨ring, hand, victim⟩ := result
  cases victim with
  | none => cases selected
  | some found =>
    cases selected
    dsimp only at page status
    have tracked : (ring v).status ≠ 0 := of_decide_eq_true (stopped rfl).2
    rw [status] at tracked
    refine ⟨?_, ⟨tracked, ?_⟩, ?_, rfl⟩
    · simp [Node.swept, Node.dropVictim, Node.setMapping, Node.turned, page, Mapping.isMapped]
    · simp [Node.swept, Node.dropVictim, Node.turned]
    · simp only [Node.swept, Node.dropVictim, Node.writebackOn_directory,
        Node.writebackOn_evictionRing, Node.turned, page]
      rw [evict_entry inRange]
      rfl

/-- A `MODIFIED` victim is never left in place: it is dropped however its writeback ends. -/
theorem modified_victim_dropped (n : Node Page) (calls : WritebackCalls Page) (networkFd : Int)
    (v : Nat) (selected : (n.dsmExecuteEvictionOn calls networkFd).victim = some v)
    (modified :
      n.directory.localMsiState n.localNodeId (n.evictionRing v).pageIndex = .modified) :
    Drops n (n.dsmExecuteEvictionOn calls networkFd) v ∧
      ¬ LeavesInPlace n (n.dsmExecuteEvictionOn calls networkFd) v := by
  have drops := drops_victim selected (localMsiState_modified modified)
  exact ⟨drops, fun leaves => leaves.unreported drops.reported⟩

/-- Node 2 is recorded as the owner of page 0, which it has written and not used since. -/
def modifiedVictim : Node PageBytes :=
  ((Node.boot 2 7 4).setMapping 0 (.readWrite fun _ => 7)).setEntry 0 (.ownedBy 2)

theorem modified_victim_dropped_unsent :
    Drops modifiedVictim (modifiedVictim.dsmExecuteEvictionOn failedCalls 7) 0 ∧
      ¬ LeavesInPlace modifiedVictim (modifiedVictim.dsmExecuteEvictionOn failedCalls 7) 0 :=
  modified_victim_dropped modifiedVictim failedCalls 7 0 (by decide) (by decide)

/-- Not a byte of the page was sent, and it is gone. -/
theorem unsent_page_dropped : ¬ ∀ (n : Node PageBytes) (calls : WritebackCalls PageBytes)
    (networkFd : Int) (v : Nat), (n.dsmExecuteEvictionOn calls networkFd).victim = some v →
    n.directory.localMsiState n.localNodeId (n.evictionRing v).pageIndex = .modified →
    ¬ calls.Completed → LeavesInPlace n (n.dsmExecuteEvictionOn calls networkFd) v := by
  intro claim
  have leaves := claim modifiedVictim failedCalls 7 0 (by decide) (by decide) (by decide)
  exact absurd leaves.status (by decide)

end TeleportVM
