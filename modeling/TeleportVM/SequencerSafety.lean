import TeleportVM.SequencerRefinement
import TeleportVM.Lib.Links

/-!
Safety of the sequencer: from the grant of a write until the next transaction on the page
starts, the writer has the only copy. The expected acknowledgements are the invalidations
and acknowledgements in flight, and every copy is listed or about to be invalidated.
-/
namespace TeleportVM

variable {Page : Type}

namespace SequencedPage

/-- A copy of the page is mapped at peer `n` or on its way to it. -/
def HasCopy (v : SequencedPage) (n : Nat) : Prop := v.mapped n = true ∨ .sendPage ∈ v.down n

def Doomed (v : SequencedPage) (n : Nat) : Prop := .invalidate ∈ v.down n

def isInvalidate (m : MsgType) : Bool := m == .invalidate

def isAck (m : MsgType) : Bool := m == .invalidateAck

/-- What well-formedness says of one page. -/
structure Ok (T : Topology) (v : SequencedPage) : Prop where
  entry : v.entry.WellFormed
  waits : ∀ r isWrite, v.entry.waitsFor r isWrite ⊆ T.workers
  active : v.seq.transactionActive = true → v.seq.activeNode ∈ T.workers

structure Sequenced (T : Topology) (v : SequencedPage) : Prop where
  counted : Links.inFlight v.down isInvalidate T.workers + Links.inFlight v.up isAck T.workers =
    v.seq.expectedAcks
  active : v.seq.transactionActive = true ↔ 0 < v.seq.expectedAcks
  recipient : v.seq.transactionActive = true → v.seq.activeNode ∈ v.entry.holders
  owner : ∀ w, v.started = some (w, .requestPageWrite) → v.entry = .ownedBy w
  covered : ∀ n ∈ T.workers, v.HasCopy n → n ∈ v.entry.holders ∨ v.Doomed n
  ordered : ∀ n ∈ T.workers, (v.down n).Pairwise fun a b => a = .invalidate → b ≠ .sendPage

variable {T : Topology} {v v' : SequencedPage} {n r : Nat} {isWrite : Bool}

theorem not_doomed (none : Links.inFlight v.down isInvalidate T.workers = 0)
    (worker : n ∈ T.workers) : ¬ v.Doomed n := by
  intro doomed
  have other := Links.inFlight_eq_zero.mp none n worker _ doomed
  simp [isInvalidate] at other

/-- Without an active transaction nothing is outstanding. -/
theorem Sequenced.idle (sequenced : Sequenced T v) (free : v.seq.transactionActive = false) :
    v.seq.expectedAcks = 0 ∧ Links.inFlight v.down isInvalidate T.workers = 0 ∧
      Links.inFlight v.up isAck T.workers = 0 := by
  have none : v.seq.expectedAcks = 0 := by
    by_contra some
    rw [sequenced.active.mpr (Nat.pos_of_ne_zero some)] at free
    cases free
  have counted := sequenced.counted
  omega

/-- Without an active transaction every copy is listed. -/
theorem Sequenced.listed (sequenced : Sequenced T v) (free : v.seq.transactionActive = false)
    (worker : n ∈ T.workers) (copy : v.HasCopy n) : n ∈ v.entry.holders :=
  (sequenced.covered n worker copy).resolve_right
    (not_doomed (sequenced.idle free).2.1 worker)

/-! ### Sending -/

theorem HasCopy.of_send {targets : Finset Nat} {m : MsgType} (copy : (v.send targets m).HasCopy n) :
    (n ∈ targets ∧ m = .sendPage) ∨ v.HasCopy n := by
  rcases copy with mapped | found
  · exact Or.inr (Or.inl mapped)
  · simp only [send] at found
    split at found
    next target =>
      rcases List.mem_append.mp found with old | new
      · exact Or.inr (Or.inr old)
      · exact Or.inl ⟨target, (List.mem_singleton.mp new).symm⟩
    · exact Or.inr (Or.inr found)

theorem ordered_send (ordered : ∀ n ∈ T.workers,
      (v.down n).Pairwise fun a b => a = .invalidate → b ≠ .sendPage)
    {targets : Finset Nat} {m : MsgType}
    (fresh : m = .sendPage → ∀ n ∈ targets, n ∈ T.workers → ¬ v.Doomed n) :
    ∀ n ∈ T.workers, ((v.send targets m).down n).Pairwise
      fun a b => a = .invalidate → b ≠ .sendPage := by
  intro n worker
  simp only [send]
  split
  next target =>
    refine List.pairwise_append.mpr ⟨ordered n worker, List.pairwise_singleton _ _, ?_⟩
    intro a found b last invalidate page
    rw [List.mem_singleton] at last
    exact fresh (last.symm.trans page) n target worker (by rw [Doomed, ← invalidate]; exact found)
  · exact ordered n worker

theorem inFlight_send {targets : Finset Nat} (inside : targets ⊆ T.workers) (m : MsgType) :
    Links.inFlight (v.send targets m).down isInvalidate T.workers =
      Links.inFlight v.down isInvalidate T.workers +
        if m = .invalidate then targets.card else 0 := by
  simp only [send, Links.inFlight_broadcast inside, isInvalidate, beq_iff_eq]

/-! ### Transactions -/

theorem after_holders (isWrite : Bool) (ok : Ok T v) (worker : r ∈ T.workers) :
    r ∈ (v.entry.after r isWrite).holders ∧ (isWrite = false → ∀ n ∈ v.entry.holders,
      n ∈ (v.entry.after r isWrite).holders) := by
  -- a write lists the writer only, a read adds the reader
  cases isWrite with
  | true => simp [GpdEntry.after]
  | false =>
    simp only [GpdEntry.after, Bool.false_eq_true, if_false,
      toShared_holders _ ok.entry r (T.workers_valid r worker)]
    exact ⟨Finset.mem_insert_self _ _, fun _ n holder => Finset.mem_insert_of_mem holder⟩

/-- A transaction that starts on a free page keeps the invariant. -/
theorem Sequenced.execute (sequenced : Sequenced T v) (ok : Ok T v) (worker : r ∈ T.workers)
    (free : v.seq.transactionActive = false) : Sequenced T (v.execute r isWrite) := by
  obtain ⟨acks, invalidations, answers⟩ := sequenced.idle free
  obtain ⟨member, kept⟩ := after_holders isWrite ok worker
  have owned : ∀ w, some (r, Node.requestType isWrite) = some (w, .requestPageWrite) →
      v.entry.after r isWrite = .ownedBy w := by
    intro w same
    cases isWrite with
    | true => cases same; rfl
    | false => simp [Node.requestType] at same
  unfold SequencedPage.execute
  dsimp only
  split
  next alone =>
    -- nobody to wait for: the copies are those of the requester, or the entry keeps its holders
    refine ⟨?_, ?_, ?_, owned, fun n other copy => ?_, ?_⟩
    · rw [inFlight_send (Finset.singleton_subset_iff.mpr worker)]
      simp [send, invalidations, answers, acks, alone]
    · simp [send, alone, acks]
    · simp [send, alone]
    · refine Or.inl ?_
      rcases copy.of_send with ⟨own, -⟩ | before
      · rw [Finset.mem_singleton.mp own]; exact member
      · have listed := sequenced.listed free other before
        cases isWrite with
        | false => exact kept rfl n listed
        | true =>
          -- another listed node would have been waited for
          by_cases own : n = r
          · rw [own]; exact member
          · have target : n ∈ v.entry.waitsFor r true := by
              simpa [GpdEntry.waitsFor] using ⟨own, listed⟩
            rw [alone] at target
            exact absurd target (Finset.notMem_empty n)
    · exact ordered_send sequenced.ordered fun _ n _ other => not_doomed invalidations other
  next waiting =>
    refine ⟨?_, ?_, fun _ => ?_, owned, fun n other copy => ?_, ?_⟩
    · rw [inFlight_send (ok.waits r isWrite)]
      simp [send, invalidations, answers, waiting]
    · simp [send, waiting, Finset.card_pos, Finset.nonempty_iff_ne_empty]
    · simpa [send, waiting] using member
    · have before := copy.of_send.resolve_left (by simp)
      have listed := sequenced.listed free other before
      cases isWrite with
      | false => exact Or.inl (kept rfl n listed)
      | true =>
        by_cases own : n = r
        · rw [own]; exact Or.inl member
        · have target : n ∈ v.entry.waitsFor r true := by
            simpa [GpdEntry.waitsFor] using ⟨own, listed⟩
          exact Or.inr (by simp [Doomed, send, target])
    · exact ordered_send sequenced.ordered (by simp)

/-- A move that takes a packet off a link to the sequencer and changes neither what is
outstanding nor who is listed. -/
theorem Sequenced.popUp (sequenced : Sequenced T v) {w : Nat} {m : MsgType} {rest : List MsgType}
    (worker : w ∈ T.workers) (head : v.up w = m :: rest) (other : m ≠ .invalidateAck) :
    Sequenced T (v.popUp w rest) :=
  { sequenced with
    counted := by
      have popped := Links.inFlight_pop_other isAck worker head (by simpa [isAck] using other)
      have counted := sequenced.counted
      simp only [SequencedPage.popUp]
      omega }

/-- A peer takes a grant: its copy was on its way before. -/
theorem Sequenced.granted (sequenced : Sequenced T v) {w : Nat} {rest : List MsgType}
    (worker : w ∈ T.workers) (head : v.down w = .sendPage :: rest) (mapped : Bool) :
    Sequenced T
      { v with
        mapped := Function.update v.mapped w mapped
        down := Function.update v.down w rest } := by
  have popped := Links.inFlight_pop_other isInvalidate worker head rfl
  have keeps (n : Nat) (doomed : v.Doomed n) : .invalidate ∈ Function.update v.down w rest n :=
    Links.mem_pop head (by simp) doomed
  refine { sequenced with
    counted := ?_
    covered := fun n other copy => ?_
    ordered := fun n other => ?_ }
  · have counted := sequenced.counted
    dsimp only
    omega
  · -- the copy that is mapped now was the grant on the link before
    refine (sequenced.covered n other ?_).imp_right (keeps n)
    by_cases own : n = w
    · subst own
      exact Or.inr (by simp [head])
    · rcases copy with mapped | found
      · exact Or.inl (by simpa [own] using mapped)
      · exact Or.inr (Links.mem_of_pop head found)
  · by_cases own : n = w
    · subst own
      have order := sequenced.ordered n other
      rw [head] at order
      simpa using order.tail
    · simpa [own] using sequenced.ordered n other

/-- A peer drops its copy and acknowledges: no grant follows an invalidation on the link, so the
copy is gone for good. -/
theorem Sequenced.invalidated (sequenced : Sequenced T v) {w : Nat} {rest : List MsgType}
    (worker : w ∈ T.workers) (head : v.down w = .invalidate :: rest) :
    Sequenced T
      ({ v with
        mapped := Function.update v.mapped w false
        down := Function.update v.down w rest }.popUp w (v.up w ++ [MsgType.invalidateAck])) := by
  have popped := Links.inFlight_pop_counted isInvalidate worker head rfl
  have order := sequenced.ordered w worker
  rw [head] at order
  refine { sequenced with
    counted := ?_
    covered := fun n other copy => ?_
    ordered := fun n other => ?_ }
  · have counted := sequenced.counted
    have answered : isAck .invalidateAck = true := rfl
    simp only [SequencedPage.popUp, Links.inFlight_push worker, answered, if_true]
    omega
  · by_cases own : n = w
    · subst own
      rcases copy with mapped | found
      · simp [SequencedPage.popUp] at mapped
      · simp only [SequencedPage.popUp, Function.update_self] at found
        exact absurd rfl ((List.pairwise_cons.mp order).1 _ found rfl)
    · have before : v.HasCopy n := by simpa [HasCopy, SequencedPage.popUp, own] using copy
      refine (sequenced.covered n other before).imp_right fun doomed => ?_
      simpa [Doomed, SequencedPage.popUp, own] using doomed
  · by_cases own : n = w
    · subst own
      simpa [SequencedPage.popUp] using order.tail
    · simpa [SequencedPage.popUp, own] using sequenced.ordered n other

/-- The last acknowledgement: nothing else is outstanding, so the grant goes to a listed node and
every other copy is listed. -/
theorem Sequenced.granting (sequenced : Sequenced T v) (ok : Ok T v) {w : Nat}
    {rest : List MsgType} (worker : w ∈ T.workers) (head : v.up w = .invalidateAck :: rest)
    (active : v.seq.transactionActive = true) (last : v.seq.expectedAcks = 1) :
    Sequenced T
      ({ v.popUp w rest with
        seq := { v.seq with transactionActive := false, activeNode := 0, expectedAcks := 0 } }.send
          {v.seq.activeNode} .sendPage) := by
  have popped := Links.inFlight_pop_counted isAck worker head rfl
  have counted := sequenced.counted
  -- nothing is outstanding with the last acknowledgement in hand
  have none : Links.inFlight v.down isInvalidate T.workers = 0 := by omega
  have recipient := sequenced.recipient active
  refine ⟨?_, ?_, ?_, sequenced.owner, fun n other copy => ?_, ?_⟩
  · rw [inFlight_send (Finset.singleton_subset_iff.mpr (ok.active active))]
    rw [if_neg (by simp)]
    simp only [send, SequencedPage.popUp]
    omega
  · simp [send, SequencedPage.popUp]
  · simp [send, SequencedPage.popUp]
  · refine Or.inl ?_
    rcases copy.of_send with ⟨own, -⟩ | before
    · rw [Finset.mem_singleton.mp own]
      exact recipient
    · exact (sequenced.covered n other before).resolve_right (not_doomed none other)
  · exact ordered_send sequenced.ordered fun _ n _ other => not_doomed none other

theorem sequenced_of_move (ok : Ok T v) (sequenced : Sequenced T v) (move : Move T v v') :
    Sequenced T v' := by
  cases move with
  | ask w isWrite worker =>
    refine { sequenced with counted := ?_ }
    have other : isAck (Node.requestType isWrite) = false := by cases isWrite <;> rfl
    simpa [SequencedPage.popUp, Links.inFlight_push worker, other] using sequenced.counted
  | granted w mapped rest worker head => exact sequenced.granted worker head mapped
  | invalidated w rest worker head => exact sequenced.invalidated worker head
  | ignored w m rest worker head request => exact sequenced.popUp worker head request
  | defer w req rest worker head request =>
    exact { sequenced.popUp worker head request with }
  | start w isWrite rest worker head free =>
    have request : Node.requestType isWrite ≠ .invalidateAck := by
      cases isWrite <;> simp [Node.requestType]
    exact (sequenced.popUp worker head request).execute { ok with } worker free
  | ackIgnored w rest worker head done =>
    have positive : 0 < Links.inFlight v.up isAck T.workers :=
      Links.inFlight_pos worker (m := .invalidateAck) (by simp [head]) rfl
    have counted := sequenced.counted
    -- an acknowledgement on a link is one that is awaited, so none is ignored
    rcases done with free | none
    · have none := (sequenced.idle free).2.2
      omega
    · omega
  | ackCounted w rest worker head active more =>
    have popped := Links.inFlight_pop_counted isAck worker head rfl
    have counted := sequenced.counted
    refine { sequenced with counted := ?_, active := ?_ }
    · simp only [SequencedPage.popUp]
      omega
    · simp only [active, true_iff]
      omega
  | ackLast w rest worker head active last => exact sequenced.granting ok worker head active last
  | resume r isWrite rest worker free =>
    have queued : Sequenced T { v with seq := { v.seq with queue := rest } } := { sequenced with }
    exact queued.execute { ok with } worker free

end SequencedPage

/-! ### Runs -/

theorem SequencedOk.page {T : Topology} {s : SequencedCluster Page} (ok : SequencedOk T s)
    (p : Nat) : SequencedPage.Ok T (s.page p) where
  entry := ok.sequencer.entries p
  waits := waitsFor_subset ok.sequencer p
  active := ok.sequencer.active p

variable [Zero Page]

theorem sequenced_of_run {T : Topology} {s : SequencedCluster Page}
    (run : Runs.Run (SequencedCluster.step T) (fun _ _ => True) (SequencedCluster.initial T) s)
    (p : Nat) : SequencedPage.Sequenced T (s.page p) := by
  refine (run.invariant (fun s => SequencedOk T s ∧ SequencedPage.Sequenced T (s.page p))
    ⟨initial_sequencedOk T, ?_⟩ ?_).2
  · refine ⟨?_, ?_, ?_, ?_, fun n _ copy => ?_, fun n _ => ?_⟩ <;>
      simp_all [SequencedCluster.page, SequencedCluster.initial, coordinatorSequencerInit, gpdInit,
        pageTypes, Links.inFlight, SequencedPage.HasCopy, Node.boot, Mapping.isMapped]
  · rintro a e b ⟨ok, sequenced⟩ - next
    obtain ⟨good, moves⟩ := sequenced_step ok next
    refine ⟨good, ?_⟩
    rcases moves p with move | same
    · exact SequencedPage.sequenced_of_move (ok.page p) sequenced move
    · rw [same]; exact sequenced

omit [Zero Page] in
/-- The last transaction that started on page `p` is a write of `w`, and its grant is sent. -/
def SequencedCluster.WriteGranted (s : SequencedCluster Page) (p w : Nat) : Prop :=
  s.sequencer.started p = some (w, .requestPageWrite) ∧
    (s.sequencer.table p).transactionActive = false

omit [Zero Page] in
instance (s : SequencedCluster Page) (p w : Nat) : Decidable (s.WriteGranted p w) :=
  inferInstanceAs (Decidable (_ ∧ _))

/-- From the grant of a write to `w` until the next transaction on the page starts, no other
node has the page mapped and no page is on its way to another node. -/
theorem write_grant_exclusive (T : Topology) (s : SequencedCluster Page)
    (run : Runs.Run (SequencedCluster.step T) (fun _ _ => True) (SequencedCluster.initial T) s)
    (p w : Nat) (granted : s.WriteGranted p w) :
    ∀ n ∈ T.workers, n ≠ w → ((s.node n).mapping p).isMapped = false ∧
      ∀ packet ∈ s.toWorker n, ¬ (packet.type = .sendPage ∧ packet.pageIndex = p) := by
  have sequenced := sequenced_of_run run p
  intro n worker other
  have absent : ¬ (s.page p).HasCopy n := by
    intro copy
    have holder := sequenced.listed granted.2 worker copy
    rw [sequenced.owner w granted.1, ownedBy_holders, Finset.mem_singleton] at holder
    exact other holder
  constructor
  · by_contra mapped
    exact absent (Or.inl (Bool.not_eq_false _ ▸ mapped))
  · rintro packet found ⟨type, own⟩
    refine absent (Or.inr (List.mem_filterMap.mpr ⟨packet, found, ?_⟩))
    rw [if_pos own, type]

/-- Worker 2 reads page 0; worker 3 writes it while worker 2 asks again; the invalidation of
worker 2 is acknowledged, and the queued request of worker 2 is not started yet. -/
def sequencedWrite : List SequencedEvent :=
  [.ask 2 0 false, .toCoordinator 2, .toWorker 2, .ask 3 0 true, .toCoordinator 3, .ask 2 0 true,
    .toCoordinator 2, .toWorker 2, .toCoordinator 2]

theorem write_grant_exclusive_at_grant : ∃ s : SequencedCluster PageBytes,
    s.resume = some 0 ∧ s.WriteGranted 0 3 ∧ ((s.node 2).mapping 0).isMapped = false := by
  obtain ⟨s, run, resumes, granted⟩ := Runs.exists_run (SequencedCluster.step twoWorkers)
    (fun _ _ => True) (SequencedCluster.initial twoWorkers) sequencedWrite
    (fun s : SequencedCluster PageBytes => s.resume = some 0 ∧ s.WriteGranted 0 3) (by decide +kernel)
  exact ⟨s, resumes, granted,
    (write_grant_exclusive twoWorkers s run 0 3 granted 2 (by decide) (by decide)).1⟩

end TeleportVM
