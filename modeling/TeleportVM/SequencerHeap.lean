import TeleportVM.DeferredList
import TeleportVM.SequencerQueue
import Mathlib.Algebra.Order.BigOperators.Group.Finset

/-!
The cells of the sequencer in the heap, up to `coordinator_sequencer_destroy`: each of them is in
the list of one page, and is freed once.
-/
namespace TeleportVM

open LinkedQueue (Heap Ends Holds freeAll)

variable {Page : Type}

namespace LinkedSequencer

/-- Free the lists of these pages; `none` where the source would follow a pointer to no cell. -/
def freeQueues (ends : Nat → Ends Nat) (fuel : Nat) :
    List Nat → Heap Nat DeferredRequest → Option (Heap Nat DeferredRequest × List Nat)
  | [], heap => some (heap, [])
  | i :: rest, heap =>
    (freeAll fuel heap (ends i).head).bind fun (heap, freed) =>
      (freeQueues ends fuel rest heap).map fun (heap, more) => (heap, freed ++ more)

/-- The heap that is left, and the cells in the order in which they are freed. -/
def coordinatorSequencerDestroy (s : LinkedSequencer Page) (fuel : Nat) :
    Option (Heap Nat DeferredRequest × List Nat) :=
  freeQueues s.ends fuel (List.range s.sequencer.totalManagedPages) s.heap

/-- The requests in the cells at these addresses. -/
def requestsAt (s : LinkedSequencer Page) (addresses : List Nat) : List DeferredRequest :=
  addresses.filterMap fun a => (s.heap a).map LinkedQueue.Cell.value

/-- The lists of these pages share no cell, so that each frees its own. -/
theorem freeQueues_eq {ends : Nat → Ends Nat} {cells : Nat → List (Nat × DeferredRequest)}
    {pages : List Nat} {heap : Heap Nat DeferredRequest} {fuel : Nat} (once : pages.Nodup)
    (holds : ∀ p ∈ pages, Holds heap (ends p) (cells p))
    (apart : ∀ p ∈ pages, ∀ q ∈ pages, q ≠ p → ∀ a ∈ (cells q).map Prod.fst,
      a ∉ (cells p).map Prod.fst)
    (enough : ∀ p ∈ pages, (cells p).length ≤ fuel) :
    freeQueues ends fuel pages heap = some
      (Heap.without heap (pages.flatMap fun p => (cells p).map Prod.fst),
        pages.flatMap fun p => (cells p).map Prod.fst) := by
  induction pages generalizing heap with
  | nil => simp [freeQueues, LinkedQueue.Heap.without_nil]
  | cons p rest ih =>
    obtain ⟨fresh, once⟩ := List.nodup_cons.mp once
    have here := holds p List.mem_cons_self
    have freed := here.chain.freeAll here.distinct (enough p List.mem_cons_self)
    -- the lists of the other pages are still whole
    have kept : ∀ q ∈ rest, Holds (Heap.without heap ((cells p).map Prod.fst)) (ends q) (cells q) := by
      intro q member
      refine (holds q (List.mem_cons_of_mem _ member)).frame fun a own => if_neg ?_
      have other : q ≠ p := fun same => fresh (same ▸ member)
      exact apart p List.mem_cons_self q (List.mem_cons_of_mem _ member) other a own
    have others := ih once kept
      (fun p member q member' => apart p (List.mem_cons_of_mem _ member) q
        (List.mem_cons_of_mem _ member'))
      fun q member => enough q (List.mem_cons_of_mem _ member)
    simp only [freeQueues, freed, Option.bind_some, others, Option.map_some, List.flatMap_cons,
      LinkedQueue.Heap.without_append]

/-- What a call does to the heap: nothing, or it changes the list of its own page. -/
inductive HeapChange (s s' : LinkedSequencer Page) (p : Nat) (cells : List (Nat × DeferredRequest)) :
    Prop
  | kept (heap : s'.heap = s.heap) (ends : s'.ends = s.ends)
  | list (managed : p < s.sequencer.totalManagedPages) (own : List (Nat × DeferredRequest))
    (holds : Holds s'.heap (s'.ends p) own)
    (covers : ∀ a, s'.heap a ≠ none →
      a ∈ own.map Prod.fst ∨ (s.heap a ≠ none ∧ a ∉ cells.map Prod.fst))

variable [Zero Page] {s s' : LinkedSequencer Page} {cells : List (Nat × DeferredRequest)}

theorem heapChange_request {nodeFds : Nat → Int} {clientFd : Int} {packet : DsmPacket Page}
    {newReq : Nat} (holds : Holds s.heap (s.ends packet.pageIndex) cells)
    (free : s.heap newReq = none)
    (next : s.processNodeRequest nodeFds clientFd packet newReq = some s') :
    s.HeapChange s' packet.pageIndex cells := by
  unfold processNodeRequest at next
  dsimp only at next
  split at next
  · cases next
    exact .kept rfl rfl
  next inside =>
    split at next
    · obtain ⟨heap, ends, pushed, after, kept⟩ := holds.push free
        ⟨packet.senderNodeId, packet.type, clientFd, packet.pageIndex⟩
      rw [pushed] at next
      cases next
      refine .list (Nat.not_le.mp inside) _ (by simpa using after) fun a allocated => ?_
      by_cases new : a = newReq
      · exact Or.inl (by simp [new])
      · by_cases old : a ∈ cells.map Prod.fst
        · exact Or.inl (by rw [List.map_append]; exact List.mem_append_left _ old)
        · exact Or.inr ⟨kept a new old ▸ allocated, old⟩
    · cases next
      exact .kept rfl rfl

theorem heapChange_ack {nodeFds : Nat → Int} {p : Nat} (holds : Holds s.heap (s.ends p) cells)
    (next : s.processNodeInvalidateAck nodeFds p = some s') : s.HeapChange s' p cells := by
  unfold processNodeInvalidateAck at next
  dsimp only at next
  split at next
  next completes =>
    rw [Sequencer.count_eq] at completes
    have done := of_decide_eq_true completes
    unfold startDeferred at next
    split at next
    · cases next
      exact .kept rfl rfl
    next some =>
      cases cells with
      | nil => exact absurd (holds.eq_nil_iff.1.mp rfl) some
      | cons first rest =>
        obtain ⟨a, req⟩ := first
        obtain ⟨ends, popped, after⟩ := holds.pop
        rw [popped] at next
        cases next
        refine .list done.1 rest (by simpa using after) fun b allocated => ?_
        have other : b ≠ a := by
          rintro rfl
          exact allocated (Function.update_self ..)
        dsimp only at allocated
        rw [Function.update_of_ne other] at allocated
        by_cases later : b ∈ rest.map Prod.fst
        · exact Or.inl later
        · exact Or.inr ⟨allocated, by simp [other, later]⟩
  · cases next
    exact .kept rfl rfl

end LinkedSequencer

/-- Every cell of the heap is in the list of a page, and only managed pages have lists. -/
structure LinkedLog.Accounted (h : LinkedLog Page) (cells : Nat → List (Nat × DeferredRequest)) :
    Prop where
  listed : h.Listed cells
  managed : ∀ p, cells p ≠ [] → p < h.state.sequencer.totalManagedPages
  covers : ∀ a, h.state.heap a ≠ none → ∃ p, a ∈ (cells p).map Prod.fst

namespace LinkedLog.Accounted

variable {h h' : LinkedLog Page} {cells cells' : Nat → List (Nat × DeferredRequest)}

theorem init (totalPages : Nat) (directory : Directory) :
    (LinkedLog.init totalPages directory : LinkedLog Page).Accounted fun _ => [] where
  listed := .init totalPages directory
  managed _ some := absurd rfl some
  covers _ allocated := absurd rfl allocated

/-- The cells of a queue are determined by the heap. -/
theorem change (accounted : h.Accounted cells) (listed : h'.Listed cells') {p : Nat}
    (pages : h'.state.sequencer.totalManagedPages = h.state.sequencer.totalManagedPages)
    (others : ∀ q ≠ p, cells' q = cells q) (change : h.state.HeapChange h'.state p (cells p)) :
    h'.Accounted cells' := by
  cases change with
  | kept heap ends =>
    have same : cells' = cells := by
      funext q
      refine (listed.holds q).chain.unique ?_
      rw [heap, ends]
      exact (accounted.listed.holds q).chain
    subst same
    exact ⟨listed, fun q some => pages ▸ accounted.managed q some,
      fun a allocated => accounted.covers a (heap ▸ allocated)⟩
  | list managed own holds covers =>
    have own_cells : cells' p = own := (listed.holds p).chain.unique holds.chain
    refine ⟨listed, fun q some => ?_, fun a allocated => ?_⟩
    · rw [pages]
      by_cases own : q = p
      · exact own ▸ managed
      · exact accounted.managed q (others q own ▸ some)
    · rcases covers a allocated with new | ⟨old, elsewhere⟩
      · exact ⟨p, own_cells ▸ new⟩
      · obtain ⟨q, member⟩ := accounted.covers a old
        have other : q ≠ p := by
          rintro rfl
          exact elsewhere member
        exact ⟨q, others q other ▸ member⟩

variable [Zero Page]

theorem step (accounted : h.Accounted cells) {c : LinkedCall Page} (allocates : h.Allocates c)
    (next : h.step c = some h') : ∃ cells', h'.Accounted cells' := by
  obtain ⟨after, cells', stepped, listed, others, lists⟩ := accounted.listed.step allocates
  cases stepped.symm.trans next
  have pages : h'.state.sequencer.totalManagedPages = h.state.sequencer.totalManagedPages :=
    (congrArg Sequencer.totalManagedPages lists).trans (call_pages _ _).1
  obtain ⟨state, called, rfl⟩ := Option.map_eq_some_iff.mp next
  refine ⟨cells', accounted.change listed pages others ?_⟩
  cases c with
  | request nodeFds clientFd packet newReq =>
    exact LinkedSequencer.heapChange_request (accounted.listed.holds _) allocates called
  | invalidateAck nodeFds p ackNodeId =>
    exact LinkedSequencer.heapChange_ack (accounted.listed.holds p) called

end LinkedLog.Accounted

/-- After any calls `coordinator_sequencer_destroy` returns, with the loops running to their ends:
it follows no bad pointer and frees every cell of the heap and none twice. The cells that it frees
for a page hold the requests that were deferred and not executed, in their order of arrival: they
are the queues of the sequencer on lists. -/
theorem sequencer_destroy [Zero Page] {totalPages : Nat} {directory : Directory} {h : LinkedLog Page}
    (run : Runs.Run LinkedLog.step LinkedLog.Allocates (.init totalPages directory) h) :
    ∃ enough, ∀ fuel ≥ enough, ∃ (heap : Heap Nat DeferredRequest) (freed : Nat → List Nat),
      h.state.coordinatorSequencerDestroy fuel =
        some (heap, (List.range h.state.sequencer.totalManagedPages).flatMap freed) ∧
      (∀ a, heap a = none) ∧
      ((List.range h.state.sequencer.totalManagedPages).flatMap freed).Nodup ∧
      (∀ a, a ∈ (List.range h.state.sequencer.totalManagedPages).flatMap freed ↔
        h.state.heap a ≠ none) ∧
      (∀ p, h.deferred p = h.executed p ++ h.state.requestsAt (freed p)) ∧
      Runs.Run Sequencer.step (fun _ _ => True) (coordinatorSequencerOver totalPages directory)
        (h.state.sequencer.withQueues fun p => h.state.requestsAt (freed p)) := by
  obtain ⟨cells, accounted⟩ := run.invariant (fun h => ∃ cells, h.Accounted cells)
    ⟨_, .init totalPages directory⟩
    fun _ _ _ ⟨_, accounted⟩ allocates next => accounted.step allocates next
  obtain ⟨listed, managed, covers⟩ := accounted
  let total := h.state.sequencer.totalManagedPages
  let freed (p : Nat) := (cells p).map Prod.fst
  have member (a : Nat) : a ∈ (List.range total).flatMap freed ↔ ∃ p, a ∈ freed p := by
    constructor
    · intro found
      obtain ⟨p, -, own⟩ := List.mem_flatMap.mp found
      exact ⟨p, own⟩
    · rintro ⟨p, own⟩
      refine List.mem_flatMap.mpr ⟨p, List.mem_range.mpr (managed p ?_), own⟩
      intro empty
      simp [freed, empty] at own
  have waiting (p : Nat) : h.state.requestsAt (freed p) = (cells p).map Prod.snd :=
    (listed.holds p).chain.values
  refine ⟨∑ p ∈ Finset.range total, (cells p).length, fun fuel enough => ⟨_, freed,
    LinkedSequencer.freeQueues_eq List.nodup_range (fun p _ => listed.holds p) ?apart ?few, ?empty,
    ?once, ?all, ?left, ?lists⟩⟩
  case apart => exact fun p _ q _ other a own => listed.apart other own
  case few =>
    intro p inside
    refine le_trans ?_ enough
    exact Finset.single_le_sum (f := fun p => (cells p).length) (fun _ _ => Nat.zero_le _)
      (Finset.mem_range.mpr (List.mem_range.mp inside))
  case empty =>
    intro a
    by_cases found : a ∈ (List.range total).flatMap freed
    · exact if_pos found
    · refine (if_neg found).trans ?_
      by_contra allocated
      exact found ((member a).mpr (covers a allocated))
  case once =>
    refine List.nodup_flatMap.mpr ⟨fun p _ => (listed.holds p).distinct, ?_⟩
    exact List.nodup_range.imp fun other a own => listed.apart other own
  case all =>
    intro a
    refine (member a).trans ⟨?_, covers a⟩
    rintro ⟨p, own⟩ free
    exact (listed.holds p).not_mem_of_free free own
  case left =>
    intro p
    rw [waiting, listed.order p]
  case lists =>
    -- the cells are determined by the heap, so these are the lists of the run on lists
    obtain ⟨cells', listed', lists⟩ := listed_run run
    have same : cells' = cells :=
      funext fun p => (listed'.holds p).chain.unique (listed.holds p).chain
    rw [funext waiting]
    exact same ▸ lists

theorem sequencer_destroy_reused : ∃ h : LinkedLog PageBytes,
    h.executed 0 = [⟨4, .requestPageWrite, 14, 0⟩] ∧
    h.deferred 0 = [⟨4, .requestPageWrite, 14, 0⟩, ⟨5, .requestPageRead, 15, 0⟩,
      ⟨6, .requestPageRead, 16, 0⟩] ∧
    ∃ enough, ∀ fuel ≥ enough, ∃ (heap : Heap Nat DeferredRequest) (freed : Nat → List Nat),
      h.state.coordinatorSequencerDestroy fuel =
        some (heap, (List.range h.state.sequencer.totalManagedPages).flatMap freed) ∧
      (∀ a, heap a = none) ∧
      ((List.range h.state.sequencer.totalManagedPages).flatMap freed).Nodup ∧
      (∀ a, a ∈ (List.range h.state.sequencer.totalManagedPages).flatMap freed ↔
        h.state.heap a ≠ none) ∧
      h.state.requestsAt (freed 0) = [⟨5, .requestPageRead, 15, 0⟩, ⟨6, .requestPageRead, 16, 0⟩] ∧
      Runs.Run Sequencer.step (fun _ _ => True) (coordinatorSequencerOver 4 (gpdInit 4))
        (h.state.sequencer.withQueues fun p => h.state.requestsAt (freed p)) := by
  obtain ⟨h, run, executed, deferred⟩ := Runs.exists_run LinkedLog.step LinkedLog.Allocates
    (.init 4 (gpdInit 4)) (reusedCell fun n => 10 + n)
    (fun h => h.executed 0 = [⟨4, .requestPageWrite, 14, 0⟩] ∧
      h.deferred 0 = [⟨4, .requestPageWrite, 14, 0⟩, ⟨5, .requestPageRead, 15, 0⟩,
        ⟨6, .requestPageRead, 16, 0⟩])
    (by decide +kernel)
  obtain ⟨enough, destroyed⟩ := sequencer_destroy run
  refine ⟨h, executed, deferred, enough, fun fuel least => ?_⟩
  obtain ⟨heap, freed, returned, empty, once, all, left, lists⟩ := destroyed fuel least
  have order := left 0
  rw [executed, deferred] at order
  exact ⟨heap, freed, returned, empty, once, all, (List.cons.inj order).2.symm, lists⟩

end TeleportVM
