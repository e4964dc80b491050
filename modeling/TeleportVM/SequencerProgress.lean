import TeleportVM.SequencerQueue
import TeleportVM.SequencerWaits

/-!
The sequencer gets on. Each acknowledgement that a locked page is sent brings the page nearer to
being free, also when it starts a request that waits for acknowledgements of its own.
-/
namespace TeleportVM

variable {Page : Type}

namespace SequencerCall

def isAck : SequencerCall Page → Bool
  | .request .. => false
  | .invalidateAck .. => true

instance decidableIsPageCall : ∀ c : SequencerCall Page, Decidable c.IsPageCall
  | .request _ _ packet => inferInstanceAs (Decidable (packet.type.isPageRequest = true))
  | .invalidateAck .. => isTrue trivial

/-- A request for the page is to read or to write. -/
def AsksPage (p : Nat) (c : SequencerCall Page) : Prop := c.pageIndex = p → c.IsPageCall

instance (p : Nat) (c : SequencerCall Page) : Decidable (c.AsksPage p) :=
  inferInstanceAs (Decidable (_ → _))

end SequencerCall

/-- The acknowledgements that the page can still need: no transaction waits for more than 64. -/
def PageSequencer.acksLeft (seq : PageSequencer) : Nat :=
  if seq.transactionActive then seq.expectedAcks + 64 * seq.queue.length else 0

namespace Sequencer

theorem waitsFor_length_le (s : Sequencer Page) (p node : Nat) (type : MsgType) :
    (s.waitsFor p node type).length ≤ 64 := by
  unfold waitsFor
  cases type with
  | requestPageWrite => exact (List.length_filter_le _ _).trans (by simp)
  | requestPageRead =>
    dsimp only
    split <;> simp
  | _ => simp

/-- A transaction on a free page waits for at most 64 nodes and leaves what is deferred. -/
theorem acksLeft_recordAfter {s : Sequencer Page} {p : Nat} (none : (s.table p).expectedAcks = 0)
    (node : Nat) (type : MsgType) :
    (s.recordAfter p node type).acksLeft ≤ 64 + 64 * (s.table p).queue.length := by
  have few := s.waitsFor_length_le p node .requestPageWrite
  unfold PageSequencer.acksLeft recordAfter
  cases type with
  | requestPageWrite =>
    dsimp only
    split
    · simp
    · simpa using few
  | requestPageRead =>
    dsimp only
    split <;> simp
  | _ => simp [none]

variable [Zero Page] {s : Sequencer Page} {p : Nat}

/-- An acknowledgement takes one off what the page still needs, and takes requests only from the
front of its queue. -/
theorem ack_progress (own : s.Defers fun p req => req.pageIndex = p)
    (releasable : (s.table p).Releasable) (managed : p < s.totalManagedPages) (nodeFds : Nat → Int)
    (ackNodeId : Nat) :
    ((s.call (.invalidateAck nodeFds p ackNodeId)).table p).acksLeft ≤ (s.table p).acksLeft - 1 ∧
      ((s.call (.invalidateAck nodeFds p ackNodeId)).table p).queue <:+ (s.table p).queue := by
  have outcome := s.call_outcome (.invalidateAck nodeFds p ackNodeId)
  generalize s.nextRequest _ = next, s.call _ = t at outcome ⊢
  cases outcome with
  | dropped unawaited =>
    -- nothing is awaited, so the page is free
    refine ⟨?_, List.suffix_rfl⟩
    have free : (s.table p).transactionActive = false := by
      by_contra active
      rw [Bool.not_eq_false] at active
      exact unawaited ⟨managed, active, Nat.pos_iff_ne_zero.mp (releasable.mp active)⟩
    simp [PageSequencer.acksLeft, free]
  | counted inside active more =>
    simp only [setSeq, Function.update_self, PageSequencer.acksLeft, active, if_true]
    exact ⟨by omega, List.suffix_rfl⟩
  | drained done none_waits =>
    simp only [freed, Function.update_self, PageSequencer.acksLeft]
    exact ⟨Nat.zero_le _, List.nil_suffix⟩
  | @resumed _ _ _ first rest done waits =>
    obtain ⟨-, active, one⟩ := done
    have about : first.pageIndex = p := own p first (by simp [waits])
    subst about
    rw [execute_eq]
    simp only [Function.update_self, recordAfter_queue]
    have few := acksLeft_recordAfter (s := s.freed nodeFds first.pageIndex rest)
      (p := first.pageIndex) (by simp [freed]) first.nodeId first.type
    simp only [freed, Function.update_self] at few ⊢
    refine ⟨?_, waits ▸ List.suffix_cons first rest⟩
    -- the transaction that ends awaited one, and the one that starts waits for at most 64
    simp only [PageSequencer.acksLeft, active, one, waits, if_true, List.length_cons] at few ⊢
    omega

end Sequencer

/-! ### Runs -/

section Runs

variable [Zero Page] {s : Sequencer Page} {p : Nat}

/-- What is known of page `p` while the requests for it are to read or to write. -/
structure Sequencer.Sound (s : Sequencer Page) (totalPages p : Nat) : Prop where
  pages : s.totalManagedPages = totalPages
  own : s.Defers fun q req => req.pageIndex = q
  kinds : s.Defers fun q req => q = p → req.type.isPageRequest = true
  releasable : (s.table p).Releasable

omit [Zero Page] in
theorem init_sound (totalPages : Nat) (directory : Directory) (p : Nat) :
    (coordinatorSequencerOver totalPages directory : Sequencer Page).Sound totalPages p where
  pages := rfl
  own := init_defers totalPages directory _
  kinds := init_defers totalPages directory _
  releasable := init_releasable totalPages directory p

theorem Sequencer.Sound.call {totalPages : Nat} (sound : s.Sound totalPages p)
    {c : SequencerCall Page} (asks : c.AsksPage p) : (s.call c).Sound totalPages p where
  pages := (call_pages s c).1.trans sound.pages
  own := defersOwn_call sound.own c
  kinds := defers_call sound.kinds fun req arrives about =>
    have ⟨here, kind⟩ := arrives_about arrives
    kind (asks (here ▸ about))
  releasable := by
    by_cases about : c.pageIndex = p
    · subst about
      refine (page_releasable_iff sound.own sound.releasable).mpr ?_
      exact startsPageRequest (fun req waits => sound.kinds _ req waits rfl) (asks rfl)
    · rw [table_elsewhere sound.own about]
      exact sound.releasable

/-- No new request is made for the page. -/
def SequencerCall.Spares (p : Nat) (c : SequencerCall Page) : Prop :=
  c.pageIndex = p → c.isAck = true

omit [Zero Page] in
theorem SequencerCall.Spares.asksPage {c : SequencerCall Page} (spares : c.Spares p) :
    c.AsksPage p := by
  cases c with
  | request => exact fun about => absurd (spares about) (by simp [SequencerCall.isAck])
  | invalidateAck => exact fun _ => trivial

def SequencerCall.isAckOf (p : Nat) (c : SequencerCall Page) : Bool := c.isAck && c.pageIndex == p

theorem acksLeft_call {totalPages : Nat} (sound : s.Sound totalPages p) (managed : p < totalPages)
    {c : SequencerCall Page} (spares : c.Spares p) :
    ((s.call c).table p).acksLeft ≤ (s.table p).acksLeft - (if c.isAckOf p then 1 else 0) ∧
      ((s.call c).table p).queue <:+ (s.table p).queue := by
  by_cases about : c.pageIndex = p
  · cases c with
    | request => exact absurd (spares about) (by simp [SequencerCall.isAck])
    | invalidateAck nodeFds q ackNodeId =>
      have about : q = p := about
      subst about
      have counts : (SequencerCall.invalidateAck nodeFds q ackNodeId : SequencerCall Page).isAckOf q =
          true := by simp [SequencerCall.isAckOf, SequencerCall.isAck, SequencerCall.pageIndex]
      rw [if_pos counts]
      exact Sequencer.ack_progress sound.own sound.releasable (sound.pages ▸ managed) nodeFds ackNodeId
  · rw [table_elsewhere sound.own about]
    simp [SequencerCall.isAckOf, about]

theorem acksLeft_calls {totalPages : Nat} (sound : s.Sound totalPages p) (managed : p < totalPages)
    {calls : List (SequencerCall Page)} (spares : ∀ c ∈ calls, c.Spares p) :
    (calls.foldl Sequencer.call s).Sound totalPages p ∧
      ((calls.foldl Sequencer.call s).table p).acksLeft ≤
        (s.table p).acksLeft - calls.countP (·.isAckOf p) ∧
      ((calls.foldl Sequencer.call s).table p).queue <:+ (s.table p).queue := by
  induction calls generalizing s with
  | nil => exact ⟨sound, le_rfl, List.suffix_rfl⟩
  | cons c calls ih =>
    have first := spares c List.mem_cons_self
    obtain ⟨fewer, queue⟩ := acksLeft_call sound managed first
    obtain ⟨sound', fewer', queue'⟩ :=
      ih (sound.call first.asksPage) fun c member => spares c (List.mem_cons_of_mem _ member)
    refine ⟨sound', ?_, queue'.trans queue⟩
    rw [List.countP_cons, List.foldl_cons]
    omega

/-- Once the calls bring no new request for a page, it is free after as many acknowledgements as
its transaction still awaits and 64 for each deferred request, whatever else is called between
them; the requests that it has not started by then are the last of those that were deferred. -/
theorem freed_by_acks (totalPages : Nat) (directory : Directory) {calls : List (SequencerCall Page)}
    (run : Runs.Run Sequencer.step (fun _ c => c.AsksPage p)
      (coordinatorSequencerOver totalPages directory) s)
    (managed : p < totalPages) (spares : ∀ c ∈ calls, c.Spares p)
    (enough : (s.table p).expectedAcks + 64 * (s.table p).queue.length ≤
      calls.countP (·.isAckOf p)) :
    ((calls.foldl Sequencer.call s).table p).transactionActive = false ∧
      ((calls.foldl Sequencer.call s).table p).queue <:+ (s.table p).queue := by
  have sound : s.Sound totalPages p := run.invariant (·.Sound totalPages p)
    (init_sound totalPages directory p) fun s c t sound asks next => by
      cases next
      exact sound.call asks
  obtain ⟨sound', fewer, queue⟩ := acksLeft_calls sound managed spares
  refine ⟨?_, queue⟩
  by_contra active
  rw [Bool.not_eq_false] at active
  have awaited := sound'.releasable.mp active
  have most : (s.table p).acksLeft ≤
      (s.table p).expectedAcks + 64 * (s.table p).queue.length := by
    unfold PageSequencer.acksLeft
    split
    · exact le_rfl
    · exact Nat.zero_le _
  rw [PageSequencer.acksLeft, if_pos active] at fewer
  omega

end Runs

/-- Node 2 writes page 0, node 3 reads it and waits for node 2, and node 4 asks meanwhile. -/
def askedMeanwhile (nodeFds : Nat → Int) : List (SequencerCall PageBytes) :=
  [.request nodeFds 12 ⟨.requestPageWrite, 0, 2, 0⟩, .request nodeFds 13 ⟨.requestPageRead, 0, 3, 0⟩,
    .request nodeFds 14 ⟨.requestPageWrite, 0, 4, 0⟩]

/-- Acknowledgements for page 0 around a request for page 1. -/
def acksAround (nodeFds : Nat → Int) : List (SequencerCall PageBytes) :=
  .invalidateAck nodeFds 0 2 :: .request nodeFds 15 ⟨.requestPageWrite, 1, 5, 0⟩ ::
    List.replicate 64 (.invalidateAck nodeFds 0 2)

theorem freed_by_acks_around : ∃ s : Sequencer PageBytes, (s.table 0).transactionActive = true ∧
    (s.table 0).queue.length = 1 ∧
    (((acksAround fun n => 10 + n).foldl Sequencer.call s).table 0).transactionActive = false ∧
    (((acksAround fun n => 10 + n).foldl Sequencer.call s).table 0).queue <:+ (s.table 0).queue := by
  obtain ⟨s, run, active, one, queued⟩ := Runs.exists_run Sequencer.step
    (fun _ c => c.AsksPage 0) (coordinatorSequencerOver 4 (gpdInit 4)) (askedMeanwhile fun n => 10 + n)
    (fun s => (s.table 0).transactionActive = true ∧ (s.table 0).expectedAcks = 1 ∧
      (s.table 0).queue.length = 1) (by decide +kernel)
  refine ⟨s, active, queued, freed_by_acks 4 (gpdInit 4) run (by decide) ?_ ?_⟩
  · intro c member
    rcases List.mem_cons.mp member with rfl | member
    · exact fun _ => rfl
    rcases List.mem_cons.mp member with rfl | member
    · exact fun about => absurd about (by decide)
    · rw [List.eq_of_mem_replicate member]
      exact fun _ => rfl
  · rw [one, queued]
    decide

end TeleportVM
