import TeleportVM.SequencerWaits

/-!
Which acknowledgements a grant of the sequencer rests on. The sequencer keeps their number and
not their senders: a write is granted after as many acknowledgements as nodes were invalidated.
-/
namespace TeleportVM

open Bitmap (members)

variable {Page : Type}

/-- A request whose transaction has started, with its `invalidate_mask` and the `ack_node_id` of
each acknowledgement for its page since. -/
structure Transaction where
  request : DeferredRequest
  invalidateMask : BitVec 64
  acks : List Nat
  deriving DecidableEq, Repr

/-- The sequencer, with the transaction that started last on each page and those whose grant it has
sent. -/
structure GrantLedger (Page : Type) where
  sequencer : Sequencer Page
  current : Nat → Option Transaction
  granted : List Transaction

/-- A grant of the page is among these packets. -/
def sendsGrant (p : Nat) (effects : List (Effect Page)) : Bool :=
  effects.any fun
    | .send _ packet => packet.type == .sendPage && packet.pageIndex == p
    | _ => false

namespace Sequencer

/-- The mask that the directory reports for a write. -/
def invalidateMask (s : Sequencer Page) (req : DeferredRequest) : BitVec 64 :=
  match req.type with
  | .requestPageWrite =>
    ((gpdTransitionToModified s.directory req.pageIndex req.nodeId).map Prod.snd).getD 0
  | _ => 0

/-- The transaction that starts with a request. -/
def begin (s : Sequencer Page) (req : DeferredRequest) : Transaction :=
  ⟨req, s.invalidateMask req, []⟩

end Sequencer

namespace GrantLedger

def init (totalPages : Nat) (directory : Directory) : GrantLedger Page where
  sequencer := coordinatorSequencerOver totalPages directory
  current _ := none
  granted := []

/-- The transactions once the acknowledgement of a call is noted. -/
def noted (l : GrantLedger Page) : SequencerCall Page → Nat → Option Transaction
  | .request .. => l.current
  -- `process_node_invalidate_ack` prints the number of the node and looks at it nowhere
  | .invalidateAck _ p ackNodeId => Function.update l.current p
      ((l.current p).map fun t => { t with acks := t.acks ++ [ackNodeId] })

variable [Zero Page]

/-- The transaction that is granted by the acknowledgement of a call. -/
def finishes (l : GrantLedger Page) : SequencerCall Page → Option Transaction
  | .request .. => none
  | .invalidateAck nodeFds p ackNodeId =>
    let counted := l.sequencer.countInvalidateAck nodeFds p
    if sendsGrant p (counted.1.effects.drop l.sequencer.effects.length) then
      l.noted (.invalidateAck nodeFds p ackNodeId) p
    else none

/-- The transaction that a call starts and grants at once. -/
def grantsAtOnce (l : GrantLedger Page) (c : SequencerCall Page) : Option Transaction :=
  (l.sequencer.nextRequest c).bind fun req =>
    let sent := (l.sequencer.call c).effects.drop (l.sequencer.sentBefore c).length
    if sendsGrant req.pageIndex sent then some (l.sequencer.begin req) else none

def step (l : GrantLedger Page) (c : SequencerCall Page) : Option (GrantLedger Page) :=
  some
    { sequencer := l.sequencer.call c
      current := match l.sequencer.nextRequest c with
        | none => l.noted c
        | some req => Function.update (l.noted c) req.pageIndex (some (l.sequencer.begin req))
      granted := l.granted ++ (l.finishes c).toList ++ (l.grantsAtOnce c).toList }

end GrantLedger

/-! ### Counting acknowledgements -/

/-- A write waits for as many more acknowledgements as its mask has nodes that are not counted. -/
def Transaction.Awaits (t : Transaction) (seq : PageSequencer) : Prop :=
  t.request.type = .requestPageWrite →
    0 < seq.expectedAcks ∧ t.acks.length + seq.expectedAcks = (members t.invalidateMask).card

/-- A write was granted after as many acknowledgements as its mask has nodes. -/
def Transaction.Counted (t : Transaction) : Prop :=
  t.request.type = .requestPageWrite → t.acks.length = (members t.invalidateMask).card

structure GrantLedger.Accounts (l : GrantLedger Page) : Prop where
  own : l.sequencer.Defers fun p req => req.pageIndex = p
  inside : ∀ p, (l.sequencer.table p).transactionActive = true → p < l.sequencer.totalManagedPages
  awaits : ∀ p, (l.sequencer.table p).transactionActive = true →
    ∃ t, l.current p = some t ∧ t.Awaits (l.sequencer.table p)
  counted : ∀ t ∈ l.granted, t.Counted

/-- The writer is not among the nodes that it waits for. -/
theorem waitsFor_length (s : Sequencer Page) (p node : Nat) (fd : Int) :
    (s.waitsFor p node .requestPageWrite).length =
      (members (s.invalidateMask ⟨node, .requestPageWrite, fd, p⟩)).card := by
  unfold Sequencer.waitsFor Sequencer.invalidateMask gpdTransitionToModified
  by_cases outside : s.directory.numPages ≤ p
  · simp [outside]
  · simp only [outside, if_false, Option.map_some, Option.getD_some]
    rw [← List.toFinset_card_of_nodup (Bitmap.nodup_scan _)]
    congr 1
    ext i
    rw [List.mem_toFinset, Bitmap.mem_scan, GpdEntry.invalidateMask, Bitmap.members_clear]
    simp only [Finset.mem_filter, Finset.mem_erase, bne_iff_ne]
    tauto

section Start

variable {s : Sequencer Page}

theorem begin_awaits (req : DeferredRequest)
    (active : (s.recordAfter req.pageIndex req.nodeId req.type).transactionActive = true) :
    (s.begin req).Awaits (s.recordAfter req.pageIndex req.nodeId req.type) := by
  obtain ⟨node, type, fd, p⟩ := req
  rintro rfl
  have length := waitsFor_length s p node fd
  simp only [Sequencer.recordAfter, Sequencer.begin] at active ⊢
  split at active
  · cases active
  next some =>
    rw [if_neg some, List.length_nil, Nat.zero_add]
    exact ⟨List.length_pos_iff.mpr some, length⟩

variable [Zero Page]

/-- A write that is granted at once has nobody to wait for. -/
theorem begin_counted (req : DeferredRequest) (nodeFds : Nat → Int)
    (granted : sendsGrant req.pageIndex
      (s.sentBy nodeFds req.pageIndex req.nodeId req.type req.clientFd) = true) :
    (s.begin req).Counted := by
  obtain ⟨node, type, fd, p⟩ := req
  rintro rfl
  have length := waitsFor_length s p node fd
  simp only [Sequencer.sentBy, Sequencer.begin] at granted ⊢
  split at granted
  next alone => rw [← length, alone]
  · simp [sendsGrant] at granted

end Start

namespace GrantLedger

variable [Zero Page] {l : GrantLedger Page}

/-- A transaction is granted by the last acknowledgement it waits for. -/
theorem finishes_cases {nodeFds : Nat → Int} {p ackNodeId : Nat} {t : Transaction}
    (finishes : l.finishes (.invalidateAck nodeFds p ackNodeId) = some t) :
    l.sequencer.Completes p ∧
      ∃ before, l.current p = some before ∧
        t = { before with acks := before.acks ++ [ackNodeId] } := by
  simp only [GrantLedger.finishes, Sequencer.count_eq, List.drop_left, noted, Function.update_self]
    at finishes
  split at finishes
  next sent =>
    obtain ⟨before, current, rfl⟩ := Option.map_eq_some_iff.mp finishes
    refine ⟨?_, before, current, rfl⟩
    by_contra more
    simp [Sequencer.grantCounted, more, sendsGrant] at sent
  · cases finishes

namespace Accounts

/-- An acknowledgement that frees its page. -/
theorem finish (accounts : l.Accounts) (nodeFds : Nat → Int) {p : Nat} (ackNodeId : Nat)
    (done : l.sequencer.Completes p) (rest : List DeferredRequest)
    (kept : ∀ req ∈ rest, req ∈ (l.sequencer.table p).queue) :
    Accounts ⟨l.sequencer.freed nodeFds p rest, l.noted (.invalidateAck nodeFds p ackNodeId),
      l.granted ++ (l.finishes (.invalidateAck nodeFds p ackNodeId)).toList⟩ where
  own := defers_update accounts.own rfl fun req member => accounts.own p req (kept req member)
  inside q active := by
    by_cases here : q = p
    · exact here ▸ done.1
    · exact accounts.inside q (by simpa [Sequencer.freed, here] using active)
  awaits q active := by
    by_cases here : q = p
    · subst here
      simp [Sequencer.freed] at active
    · simp only [Sequencer.freed, noted, ne_eq, here, not_false_eq_true, Function.update_of_ne]
        at active ⊢
      exact accounts.awaits q active
  counted t member := by
    rcases List.mem_append.mp member with old | new
    · exact accounts.counted t old
    · -- it awaited one more acknowledgement, and this is the one
      obtain ⟨-, before, current, rfl⟩ := finishes_cases (Option.mem_toList.mp new)
      intro write
      obtain ⟨t, same, awaits⟩ := accounts.awaits p done.2.1
      cases current.symm.trans same
      have sum := (awaits write).2
      rw [done.2.2] at sum
      simpa using sum

/-- A request that starts on a free page. -/
theorem start (accounts : l.Accounts) (req : DeferredRequest)
    (inside : req.pageIndex < l.sequencer.totalManagedPages) (nodeFds : Nat → Int) :
    let sent := l.sequencer.sentBy nodeFds req.pageIndex req.nodeId req.type req.clientFd
    Accounts ⟨l.sequencer.executeGpdTransaction nodeFds req.pageIndex req.nodeId req.type
        req.clientFd,
      Function.update l.current req.pageIndex (some (l.sequencer.begin req)),
      l.granted ++ (if sendsGrant req.pageIndex sent then some (l.sequencer.begin req)
        else none).toList⟩ := by
  refine ⟨defers_execute accounts.own _ _ _ _ _, fun q active => ?_, fun q active => ?_,
    fun t member => ?_⟩
  · rw [Sequencer.execute_eq] at active ⊢
    by_cases here : q = req.pageIndex
    · exact here ▸ inside
    · exact accounts.inside q (by simpa [here] using active)
  · rw [Sequencer.execute_eq] at active ⊢
    by_cases here : q = req.pageIndex
    · subst here
      simp only [Function.update_self] at active ⊢
      exact ⟨_, rfl, begin_awaits req active⟩
    · simp only [ne_eq, here, not_false_eq_true, Function.update_of_ne] at active ⊢
      exact accounts.awaits q active
  · rcases List.mem_append.mp member with old | new
    · exact accounts.counted t old
    · split at new
      next granted =>
        cases Option.mem_toList.mp new
        exact begin_counted req nodeFds granted
      · cases new

omit [Zero Page] in
/-- A call that starts nothing and leaves the record of a page active, if it was. -/
theorem keep (accounts : l.Accounts) {s : Sequencer Page} {current : Nat → Option Transaction}
    {p : Nat} {seq : PageSequencer} (table : s.table = Function.update l.sequencer.table p seq)
    (pages : s.totalManagedPages = l.sequencer.totalManagedPages)
    (own : ∀ req ∈ seq.queue, req.pageIndex = p)
    (active : seq.transactionActive = true → (l.sequencer.table p).transactionActive = true)
    (others : ∀ q ≠ p, current q = l.current q)
    (awaits : seq.transactionActive = true → ∃ t, current p = some t ∧ t.Awaits seq) :
    Accounts ⟨s, current, l.granted⟩ where
  own := defers_update accounts.own table own
  inside q busy := by
    rw [pages]
    by_cases here : q = p
    · subst here
      exact accounts.inside q (active (by simpa [table] using busy))
    · exact accounts.inside q (by simpa [table, here] using busy)
  awaits q busy := by
    by_cases here : q = p
    · subst here
      simp only [table, Function.update_self] at busy ⊢
      exact awaits busy
    · simp only [table, ne_eq, here, not_false_eq_true, Function.update_of_ne] at busy ⊢
      rw [others q here]
      exact accounts.awaits q busy
  counted := accounts.counted

/-- An acknowledgement that is not the last one grants nothing. -/
theorem finishes_none {nodeFds : Nat → Int} {p ackNodeId : Nat} (more : ¬ l.sequencer.Completes p) :
    l.finishes (.invalidateAck nodeFds p ackNodeId) = none := by
  cases found : l.finishes (.invalidateAck nodeFds p ackNodeId) with
  | none => rfl
  | some t => exact absurd (finishes_cases found).1 more

theorem step (accounts : l.Accounts) {c : SequencerCall Page} {l' : GrantLedger Page}
    (next : l.step c = some l') : l'.Accounts := by
  cases next
  have outcome := l.sequencer.call_outcome c
  unfold grantsAtOnce
  generalize l.sequencer.nextRequest c = next, l.sequencer.call c = t at outcome ⊢
  cases outcome with
  | outside =>
    simpa [noted, finishes] using accounts
  | @deferred nodeFds clientFd packet inside busy =>
    simp only [noted, finishes, Option.bind_none, Option.toList_none, List.append_nil]
    refine accounts.keep rfl rfl ?_ id (fun _ _ => rfl) (accounts.awaits _)
    intro req member
    rcases List.mem_append.mp member with old | new
    · exact accounts.own _ req old
    · cases List.mem_singleton.mp new
      rfl
  | @direct nodeFds clientFd packet inside free =>
    have started := accounts.start
      ⟨packet.senderNodeId, packet.type, clientFd, packet.pageIndex⟩ inside nodeFds
    simpa [noted, finishes, Sequencer.sentBefore, Sequencer.execute_eq] using started
  | @dropped nodeFds p node unawaited =>
    have more : ¬ l.sequencer.Completes p := fun done =>
      unawaited ⟨done.1, done.2.1, by simp [done.2.2]⟩
    simp only [finishes_none more, Option.bind_none, Option.toList_none, List.append_nil]
    refine accounts.keep (Function.update_eq_self p _).symm rfl (accounts.own p) id
      (fun q other => Function.update_of_ne other _ _) fun busy => ?_
    obtain ⟨t, current, awaits⟩ := accounts.awaits p busy
    -- the page is locked for no write, which would await the acknowledgement
    refine ⟨_, by rw [noted, Function.update_self, current, Option.map_some], fun write => ?_⟩
    exact absurd ⟨accounts.inside p busy, busy, (awaits write).1.ne'⟩ unawaited
  | @counted nodeFds p node inside busy more =>
    have last : ¬ l.sequencer.Completes p := fun done => by
      rw [done.2.2] at more
      exact Nat.lt_irrefl 1 more
    simp only [finishes_none last, Option.bind_none, Option.toList_none, List.append_nil]
    refine accounts.keep rfl rfl (accounts.own p) id
      (fun q other => Function.update_of_ne other _ _) fun _ => ?_
    obtain ⟨t, current, awaits⟩ := accounts.awaits p busy
    refine ⟨_, by rw [noted, Function.update_self, current, Option.map_some], fun write => ?_⟩
    -- one more has come and one less is expected
    have sum := (awaits write).2
    simp only [List.length_append, List.length_singleton]
    omega
  | @drained nodeFds p node done =>
    simpa using accounts.finish nodeFds node done [] (by simp)
  | @resumed nodeFds p node first rest done waits =>
    have about : first.pageIndex = p := accounts.own p first (by simp [waits])
    subst about
    -- the grant of the old transaction comes first, then the new one starts on a free page
    have finished := accounts.finish nodeFds node done rest
      fun req member => by rw [waits]; exact List.mem_cons_of_mem _ member
    have started := finished.start first done.1 nodeFds
    have sent : l.sequencer.sentBefore (.invalidateAck nodeFds first.pageIndex node) =
        (l.sequencer.freed nodeFds first.pageIndex rest).effects := by
      simp only [Sequencer.sentBefore, Sequencer.count_eq, Sequencer.freed]
    simp only [Option.bind_some, sent]
    simp only [Sequencer.execute_eq, List.drop_left] at started ⊢
    exact started

end Accounts

end GrantLedger

variable [Zero Page]

theorem accounts_run {totalPages : Nat} {directory : Directory} {l : GrantLedger Page}
    (run : Runs.Run GrantLedger.step (fun _ _ => True) (.init totalPages directory) l) :
    l.Accounts := by
  refine run.invariant _ ⟨init_defers totalPages directory _, ?_, ?_, ?_⟩ ?_
  · intro p active
    cases active
  · intro p active
    cases active
  · intro t member
    cases member
  · intro l c l' accounts _ next
    exact accounts.step next

/-- A write is granted after exactly as many acknowledgements as its mask has nodes, from whichever
nodes. When they come from different nodes of the mask, each of these has acknowledged. -/
theorem granted_after_count (totalPages : Nat) (directory : Directory) (l : GrantLedger Page)
    (run : Runs.Run GrantLedger.step (fun _ _ => True) (.init totalPages directory) l) :
    ∀ t ∈ l.granted, t.request.type = .requestPageWrite →
      t.acks.length = (members t.invalidateMask).card ∧
      (t.acks.Nodup → (∀ m ∈ t.acks, m ∈ members t.invalidateMask) →
        ∀ m ∈ members t.invalidateMask, m ∈ t.acks) := by
  intro t member write
  have count := (accounts_run run).counted t member write
  refine ⟨count, fun distinct asked m holder => ?_⟩
  -- as many different nodes of the mask as it has
  have all : t.acks.toFinset = members t.invalidateMask := by
    apply Finset.eq_of_subset_of_card_le
    · intro m acked
      exact asked m (List.mem_toFinset.mp acked)
    · rw [List.toFinset_card_of_nodup distinct, count]
  rw [← all] at holder
  exact List.mem_toFinset.mp holder

/-- Nodes 2 and 3 share page 0 when node 4 writes it. -/
def sharedThenWritten (nodeFds : Nat → Int) : List (SequencerCall PageBytes) :=
  [.request nodeFds 12 ⟨.requestPageRead, 0, 2, 0⟩,
    .request nodeFds 13 ⟨.requestPageRead, 0, 3, 0⟩,
    .request nodeFds 14 ⟨.requestPageWrite, 0, 4, 0⟩]

theorem granted_after_two : ∃ l : GrantLedger PageBytes, ∃ t ∈ l.granted,
    t.request.type = .requestPageWrite ∧ t.acks = [3, 2] ∧
    t.acks.length = (members t.invalidateMask).card ∧
      (t.acks.Nodup → (∀ m ∈ t.acks, m ∈ members t.invalidateMask) →
        ∀ m ∈ members t.invalidateMask, m ∈ t.acks) := by
  let nodeFds : Nat → Int := fun n => 10 + n
  obtain ⟨l, run, t, member, write, acks⟩ := Runs.exists_run GrantLedger.step (fun _ _ => True)
    (.init 4 (gpdInit 4))
    (sharedThenWritten nodeFds ++ [.invalidateAck nodeFds 0 3, .invalidateAck nodeFds 0 2])
    (fun l => ∃ t ∈ l.granted, t.request.type = .requestPageWrite ∧ t.acks = [3, 2])
    (by decide +kernel)
  exact ⟨l, t, member, write, acks, granted_after_count 4 (gpdInit 4) l run t member write⟩

/-- Node 2 acknowledges twice, and the write is granted before node 3 has answered. -/
theorem granted_without_ack : ¬ ∀ (totalPages : Nat) (l : GrantLedger PageBytes),
    Runs.Run GrantLedger.step (fun _ c => c.FromNode) (.init totalPages (gpdInit totalPages)) l →
      ∀ t ∈ l.granted, t.request.type = .requestPageWrite →
        ∀ m ∈ members t.invalidateMask, m ∈ t.acks := by
  intro claim
  let nodeFds : Nat → Int := fun n => 10 + n
  obtain ⟨l, run, t, member, write, m, holder, missing⟩ := Runs.exists_run GrantLedger.step
    (fun _ c => c.FromNode) (.init 4 (gpdInit 4))
    (sharedThenWritten nodeFds ++ [.invalidateAck nodeFds 0 2, .invalidateAck nodeFds 0 2])
    (fun l => ∃ t ∈ l.granted, t.request.type = .requestPageWrite ∧
      ∃ m ∈ members t.invalidateMask, m ∉ t.acks)
    (by decide +kernel)
  exact missing (claim 4 l run t member write m holder)

end TeleportVM
