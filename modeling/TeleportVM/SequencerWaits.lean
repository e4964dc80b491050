import TeleportVM.SequencerCalls

/-!
What the sequencer waits for. A transaction is finished by the acknowledgements of the nodes that
it has invalidated: this takes a request that the sequencer knows, and nodes that it could reach.
-/
namespace TeleportVM

variable {Page : Type}

namespace SequencerCall

def pageIndex : SequencerCall Page → Nat
  | .request _ _ packet => packet.pageIndex
  | .invalidateAck _ pageIndex _ => pageIndex

def nodeFds : SequencerCall Page → Nat → Int
  | .request nodeFds _ _ => nodeFds
  | .invalidateAck nodeFds _ _ => nodeFds

/-- A request comes from a node. -/
def FromNode : SequencerCall Page → Prop
  | .request _ _ packet => ValidNode packet.senderNodeId
  | .invalidateAck .. => True

instance : ∀ c : SequencerCall Page, Decidable c.FromNode
  | .request _ _ packet => inferInstanceAs (Decidable (ValidNode packet.senderNodeId))
  | .invalidateAck .. => isTrue trivial

/-- A request is to read or to write. -/
def IsPageCall : SequencerCall Page → Prop
  | .request _ _ packet => packet.type.isPageRequest = true
  | .invalidateAck .. => True

end SequencerCall

/-! ### Transactions that acknowledgements finish -/

/-- The page is locked exactly while acknowledgements are awaited. -/
def PageSequencer.Releasable (seq : PageSequencer) : Prop :=
  seq.transactionActive = true ↔ 0 < seq.expectedAcks

instance (seq : PageSequencer) : Decidable seq.Releasable :=
  inferInstanceAs (Decidable (_ ↔ _))

namespace Sequencer

def Releasable (s : Sequencer Page) : Prop := ∀ p, (s.table p).Releasable

/-- The request that a call starts, if there is one, is to read or to write. -/
def StartsPageRequest (s : Sequencer Page) (c : SequencerCall Page) : Prop :=
  ∀ req ∈ s.nextRequest c, req.type.isPageRequest = true

end Sequencer

theorem init_releasable (totalPages : Nat) (directory : Directory) :
    (coordinatorSequencerOver totalPages directory : Sequencer Page).Releasable :=
  fun _ => by simp [PageSequencer.Releasable, coordinatorSequencerOver, coordinatorSequencerInit]

/-- A transaction on a free page leaves a record that acknowledgements can release, unless its
request is of no known type. -/
theorem recordAfter_releasable {s : Sequencer Page} {p : Nat} (none : (s.table p).expectedAcks = 0)
    (node : Nat) (type : MsgType) :
    (s.recordAfter p node type).Releasable ↔ type.isPageRequest = true := by
  unfold PageSequencer.Releasable Sequencer.recordAfter
  cases type with
  | requestPageWrite =>
    refine iff_of_true ?_ rfl
    dsimp only
    split
    · simp
    next some => simpa using List.length_pos_iff.mpr some
  | requestPageRead =>
    refine iff_of_true ?_ rfl
    dsimp only
    split
    · simp [none]
    · simp
  -- the page is locked before the type is looked at, and nothing unlocks it
  | _ => simp [none, MsgType.isPageRequest]

variable [Zero Page] {s : Sequencer Page}

/-- A call about another page leaves the record of this one. -/
theorem table_elsewhere (own : s.Defers fun p req => req.pageIndex = p) {c : SequencerCall Page}
    {p : Nat} (elsewhere : c.pageIndex ≠ p) : (s.call c).table p = s.table p := by
  have outcome := s.call_outcome c
  generalize s.nextRequest c = next, s.call c = t at outcome ⊢
  have other := Ne.symm elsewhere
  cases outcome with
  | outside | dropped => rfl
  | deferred | counted | drained => exact Function.update_of_ne other _ _
  | direct =>
    rw [Sequencer.execute_eq]
    exact Function.update_of_ne other _ _
  | @resumed _ q _ first rest _ waits =>
    have about : first.pageIndex = q := own q first (by simp [waits])
    subst about
    rw [Sequencer.execute_eq]
    exact (Function.update_of_ne other _ _).trans (Function.update_of_ne other _ _)

/-- A transaction on page `p` is all that happens to its record. -/
theorem execute_releasable {p : Nat} (none : (s.table p).expectedAcks = 0) (nodeFds : Nat → Int)
    (node : Nat) (type : MsgType) (clientFd : Int) :
    ((s.executeGpdTransaction nodeFds p node type clientFd).table p).Releasable ↔
      type.isPageRequest = true := by
  rw [Sequencer.execute_eq, ← recordAfter_releasable none node type]
  simp only [Function.update_self]

/-- A call keeps its page releasable exactly if it starts no request of an unknown type. -/
theorem page_releasable_iff (own : s.Defers fun p req => req.pageIndex = p) {c : SequencerCall Page}
    (releasable : (s.table c.pageIndex).Releasable) :
    ((s.call c).table c.pageIndex).Releasable ↔ s.StartsPageRequest c := by
  unfold Sequencer.StartsPageRequest
  have outcome := s.call_outcome c
  generalize s.nextRequest c = next, s.call c = t at outcome ⊢
  cases outcome with
  | outside | dropped => exact iff_of_true releasable (by simp)
  | deferred =>
    refine iff_of_true ?_ (by simp)
    simpa [SequencerCall.pageIndex, Sequencer.setSeq, PageSequencer.Releasable] using releasable
  | @direct nodeFds clientFd packet _ free =>
    have none : (s.table packet.pageIndex).expectedAcks = 0 := by
      have locked : (s.table packet.pageIndex).Releasable := releasable
      simpa [PageSequencer.Releasable, free] using locked
    simpa [SequencerCall.pageIndex] using
      execute_releasable none nodeFds packet.senderNodeId packet.type clientFd
  | @counted _ p _ _ active more =>
    refine iff_of_true ?_ (by simp)
    simp only [SequencerCall.pageIndex, Sequencer.setSeq, Function.update_self]
    exact iff_of_true active (Nat.sub_pos_of_lt more)
  | drained =>
    refine iff_of_true ?_ (by simp)
    simp [SequencerCall.pageIndex, Sequencer.freed, PageSequencer.Releasable]
  | @resumed nodeFds p _ first rest _ waits =>
    -- the first deferred request starts on the page that has just been freed
    have about : first.pageIndex = p := own p first (by simp [waits])
    subst about
    simpa [SequencerCall.pageIndex] using execute_releasable (s := s.freed nodeFds first.pageIndex rest)
      (p := first.pageIndex) (by simp [Sequencer.freed]) nodeFds first.nodeId first.type
      first.clientFd

theorem releasable_iff (own : s.Defers fun p req => req.pageIndex = p)
    (releasable : s.Releasable) (c : SequencerCall Page) :
    (s.call c).Releasable ↔ s.StartsPageRequest c := by
  rw [← page_releasable_iff own (releasable c.pageIndex)]
  constructor
  · exact fun after => after c.pageIndex
  · intro kept q
    by_cases about : c.pageIndex = q
    · exact about ▸ kept
    · exact table_elsewhere own about ▸ releasable q

/-- After every call each page is locked exactly while acknowledgements for it are awaited, if and
only if no call starts a request that is neither to read nor to write. -/
theorem locked_iff_awaiting (totalPages : Nat) (directory : Directory)
    (calls : List (SequencerCall Page)) :
    Runs.EveryStep Sequencer.step (fun _ _ s => s.Releasable)
        (coordinatorSequencerOver totalPages directory) calls ↔
      Runs.EveryStep Sequencer.step (fun s c _ => s.StartsPageRequest c)
        (coordinatorSequencerOver totalPages directory) calls := by
  have oneCall : ∀ (s : Sequencer Page) c s',
      (s.Defers fun p req => req.pageIndex = p) ∧ s.Releasable → s.step c = some s' →
      (s'.Releasable ↔ s.StartsPageRequest c) := by
    rintro s c s' ⟨own, releasable⟩ next
    cases next
    exact releasable_iff own releasable c
  apply Runs.everyStep_iff_while
    (fun s => (s.Defers fun p req => req.pageIndex = p) ∧ s.Releasable) oneCall
  · rintro s c s' both starts next
    refine ⟨?_, (oneCall s c s' both next).mpr starts⟩
    cases next
    exact defersOwn_call both.1 c
  · exact ⟨init_defers totalPages directory _, init_releasable totalPages directory⟩

/-- A packet of an unknown type locks page 0, with nobody to wait for. -/
theorem locked_by_unknown_type : ¬ ∀ (totalPages : Nat) (calls : List (SequencerCall PageBytes)),
    (∀ c ∈ calls, c.FromNode) → Runs.EveryStep Sequencer.step (fun _ _ s => s.Releasable)
      (coordinatorSequencerInit totalPages) calls := by
  intro claim
  obtain ⟨releasable, -⟩ := claim 4 [.request (fun n => 10 + n) 12 ⟨.other 7, 0, 2, 0⟩]
    (by simp [SequencerCall.FromNode, ValidNode]) _ rfl
  exact absurd (releasable 0) (by decide)

/-! ### Transactions that wait for what they have sent -/

/-- A call whose request, if it is one, is to read or to write. -/
abbrev PageCall (Page : Type) := { c : SequencerCall Page // c.IsPageCall }

/-- The invalidations that were sent on open connections. -/
def openInvalidates : List (Effect Page) → Nat :=
  List.countP fun
    | .send fd packet => fd != -1 && packet.type == .invalidate
    | _ => false

namespace Sequencer

/-- The state in which the transaction of a call starts has sent this much. -/
def sentBefore (s : Sequencer Page) : SequencerCall Page → List (Effect Page)
  | .request .. => s.effects
  | .invalidateAck nodeFds pageIndex _ => (s.countInvalidateAck nodeFds pageIndex).1.effects

/-- The transaction that a call starts, if there is one, waits for as many acknowledgements as it
has sent invalidations, and is granted at once when it has sent none. -/
def AwaitsSent (s : Sequencer Page) (c : SequencerCall Page) : Prop :=
  ∀ req ∈ s.nextRequest c, ∃ sent, (s.call c).effects = s.sentBefore c ++ sent ∧
    ((s.call c).table req.pageIndex).expectedAcks = openInvalidates sent ∧
    (openInvalidates sent = 0 →
      sent = [.send req.clientFd ⟨.sendPage, req.pageIndex, 0, 0⟩] ∧
      ((s.call c).table req.pageIndex).transactionActive = false)

omit [Zero Page] in
/-- The directory names `m` as a node that has to give up its copy for the request. -/
def Holds (s : Sequencer Page) (req : DeferredRequest) (m : Nat) : Prop :=
  let entry := s.directory.entry req.pageIndex
  req.pageIndex < s.directory.numPages ∧
    match req.type with
    -- the mask may name the writer, which is skipped
    | .requestPageWrite =>
      m < 64 ∧ (entry.invalidateMask req.nodeId).getLsbD m = true ∧ m ≠ req.nodeId
    -- owner 0 stands for none
    | .requestPageRead => m = entry.ownerNodeId ∧ m ≠ 0 ∧ m ≠ req.nodeId
    | _ => False

omit [Zero Page] in
/-- The nodes that have to give up their copies for the request of a call are connected. -/
def ReachesHolders (s : Sequencer Page) (c : SequencerCall Page) : Prop :=
  ∀ req ∈ s.nextRequest c, ∀ m, s.Holds req m → c.nodeFds m ≠ -1

omit [Zero Page] in
theorem mem_waitsFor (s : Sequencer Page) (req : DeferredRequest) (m : Nat) :
    m ∈ s.waitsFor req.pageIndex req.nodeId req.type ↔ s.Holds req m := by
  unfold waitsFor Holds gpdTransitionToModified gpdTransitionToShared
  by_cases outside : s.directory.numPages ≤ req.pageIndex
  · cases req.type <;> simp [outside, Nat.not_lt.mpr outside]
  · cases req.type with
    | requestPageWrite => simp [outside, Nat.not_le.mp outside]
    | requestPageRead =>
      simp only [outside, Nat.not_le.mp outside, if_false, Option.map_some, Option.getD_some,
        true_and]
      split
      next waits =>
        rw [List.mem_singleton]
        exact ⟨fun same => ⟨same, same ▸ waits⟩, fun holder => holder.1⟩
      next alone =>
        refine iff_of_false List.not_mem_nil ?_
        rintro ⟨rfl, holder⟩
        exact alone holder
    | _ => simp

end Sequencer

theorem openInvalidates_map (nodeFds : Nat → Int) (p sender : Nat) (nodes : List Nat) :
    openInvalidates (nodes.map fun i => .send (nodeFds i) ⟨.invalidate, p, sender, (0 : Page)⟩) =
      nodes.countP fun i => nodeFds i != -1 := by
  unfold openInvalidates
  rw [List.countP_map]
  congr 1
  funext i
  simp

/-- A transaction on a free page waits for what it sends exactly if it reaches all its holders. -/
theorem transaction_awaits {p : Nat} (none : (s.table p).expectedAcks = 0) (nodeFds : Nat → Int)
    (node : Nat) {type : MsgType} (known : type.isPageRequest = true) (clientFd : Int) :
    ((s.recordAfter p node type).expectedAcks =
        openInvalidates (s.sentBy nodeFds p node type clientFd) ∧
      (openInvalidates (s.sentBy nodeFds p node type clientFd) = 0 →
        s.sentBy nodeFds p node type clientFd = [.send clientFd ⟨.sendPage, p, 0, 0⟩] ∧
        (s.recordAfter p node type).transactionActive = false)) ↔
      ∀ m ∈ s.waitsFor p node type, nodeFds m ≠ -1 := by
  have granted : openInvalidates [.send clientFd ⟨.sendPage, p, 0, (0 : Page)⟩] = 0 := by
    simp [openInvalidates]
  -- with holders, `waits` counted of them are asked over an open connection
  have asked : ∀ {waits : List Nat}, waits ≠ [] → ∀ (sent : List (Effect Page)) (released : Prop),
      openInvalidates sent = waits.countP (fun i => nodeFds i != -1) →
      ((waits.length = openInvalidates sent ∧ (openInvalidates sent = 0 → released)) ↔
        ∀ m ∈ waits, nodeFds m ≠ -1) := by
    intro waits some sent released count
    have all := List.countP_eq_length (p := fun i => nodeFds i != -1) (l := waits)
    simp only [bne_iff_ne] at all
    rw [count, ← all]
    constructor
    · exact fun equal => equal.1.symm
    · intro equal
      refine ⟨equal.symm, fun zero => absurd ?_ some⟩
      exact List.length_eq_zero_iff.mp (equal.symm.trans zero)
  unfold Sequencer.recordAfter Sequencer.sentBy
  cases type with
  | requestPageWrite =>
    by_cases alone : s.waitsFor p node .requestPageWrite = []
    · simp [alone, granted]
    · simp only [alone, if_false]
      refine asked alone _ _ ?_
      -- a write skips the holders it cannot reach, a read sends to -1
      rw [openInvalidates_map, List.countP_filter]
      simp
  | requestPageRead =>
    by_cases alone : s.waitsFor p node .requestPageRead = []
    · simp [alone, granted, none]
    · simp only [alone, if_false, ← s.waitsFor_read_length p node alone]
      exact asked alone _ _ (openInvalidates_map nodeFds p node _)
  | sendPage | nodeJoin | invalidate | invalidateAck | other => cases known

theorem execute_awaits (req : DeferredRequest) (none : (s.table req.pageIndex).expectedAcks = 0)
    (known : req.type.isPageRequest = true) (nodeFds : Nat → Int) :
    let after := s.executeGpdTransaction nodeFds req.pageIndex req.nodeId req.type req.clientFd
    (∃ sent, after.effects = s.effects ++ sent ∧
      (after.table req.pageIndex).expectedAcks = openInvalidates sent ∧
      (openInvalidates sent = 0 →
        sent = [.send req.clientFd ⟨.sendPage, req.pageIndex, 0, 0⟩] ∧
        (after.table req.pageIndex).transactionActive = false)) ↔
      ∀ m, s.Holds req m → nodeFds m ≠ -1 := by
  have transaction := transaction_awaits none nodeFds req.nodeId known req.clientFd
  simp only [Sequencer.mem_waitsFor] at transaction
  rw [← transaction]
  dsimp only
  simp only [Sequencer.execute_eq, Function.update_self]
  constructor
  · rintro ⟨sent, effects, awaits⟩
    cases List.append_cancel_left effects
    exact awaits
  · exact fun awaits => ⟨_, rfl, awaits⟩

/-- A call waits for what it sends exactly if it reaches all the nodes that hold the page. -/
theorem awaitsSent_iff (own : s.Defers fun p req => req.pageIndex = p) (releasable : s.Releasable)
    {c : SequencerCall Page} (known : s.StartsPageRequest c) :
    s.AwaitsSent c ↔ s.ReachesHolders c := by
  unfold Sequencer.AwaitsSent Sequencer.ReachesHolders
  refine forall₂_congr fun req starts => ?_
  have kind := known req starts
  have outcome := s.call_outcome c
  rw [Option.mem_def.mp starts] at outcome
  generalize s.call c = t at outcome ⊢
  cases outcome with
  | @direct nodeFds clientFd packet _ free =>
    have none : (s.table packet.pageIndex).expectedAcks = 0 := by
      have locked := releasable packet.pageIndex
      simpa [PageSequencer.Releasable, free] using locked
    exact execute_awaits ⟨packet.senderNodeId, packet.type, clientFd, packet.pageIndex⟩ none kind
      nodeFds
  | @resumed nodeFds p _ _ rest _ waits =>
    have about : req.pageIndex = p := own p req (by simp [waits])
    subst about
    have none : ((s.freed nodeFds req.pageIndex rest).table req.pageIndex).expectedAcks = 0 := by
      simp [Sequencer.freed]
    have sent : s.sentBefore (.invalidateAck nodeFds req.pageIndex ‹_›) =
        (s.freed nodeFds req.pageIndex rest).effects := by
      simp only [Sequencer.sentBefore, Sequencer.count_eq, Sequencer.freed]
    rw [sent]
    exact execute_awaits req none kind nodeFds

/-- Page requests start, deferred or not. -/
theorem startsPageRequest {c : SequencerCall Page}
    (kinds : ∀ req ∈ (s.table c.pageIndex).queue, req.type.isPageRequest = true)
    (call : c.IsPageCall) : s.StartsPageRequest c := by
  intro req starts
  have outcome := s.call_outcome c
  rw [Option.mem_def.mp starts] at outcome
  generalize s.call c = t at outcome
  cases outcome with
  | direct => exact call
  | @resumed _ p _ _ rest _ waits => exact kinds req (by simp [SequencerCall.pageIndex, waits])

omit [Zero Page] in
theorem arrives_about {c : SequencerCall Page} {req : DeferredRequest}
    (arrives : s.arrives c = some req) :
    req.pageIndex = c.pageIndex ∧ (c.IsPageCall → req.type.isPageRequest = true) := by
  cases c with
  | request nodeFds clientFd packet =>
    simp only [Sequencer.arrives] at arrives
    split at arrives
    · cases arrives
    · cases arrives
      exact ⟨rfl, id⟩
  | invalidateAck => cases arrives

theorem defersKinds_call (kinds : s.Defers fun _ req => req.type.isPageRequest = true)
    {c : SequencerCall Page} (call : c.IsPageCall) :
    (s.call c).Defers fun _ req => req.type.isPageRequest = true :=
  defers_call kinds fun _ arrives => (arrives_about arrives).2 call

/-- Whatever is connected and whatever the directory holds: each transaction waits for as many
acknowledgements as it has sent invalidations on open connections, and is granted at once when it
has sent none, if and only if every node that has to give up its copy is connected then. -/
theorem awaits_what_it_sent_iff (totalPages : Nat) (directory : Directory)
    (calls : List (PageCall Page)) :
    Runs.EveryStep (fun (s : Sequencer Page) (c : PageCall Page) => s.step c)
        (fun s c _ => s.AwaitsSent c) (coordinatorSequencerOver totalPages directory) calls ↔
      Runs.EveryStep (fun (s : Sequencer Page) (c : PageCall Page) => s.step c)
        (fun s c _ => s.ReachesHolders c)
        (coordinatorSequencerOver totalPages directory) calls := by
  apply Runs.everyStep_iff fun s => (s.Defers fun p req => req.pageIndex = p) ∧
    (s.Defers fun _ req => req.type.isPageRequest = true) ∧ s.Releasable
  · rintro s ⟨c, call⟩ s' ⟨own, kinds, releasable⟩ next
    cases next
    exact ⟨defersOwn_call own c, defersKinds_call kinds call,
      (releasable_iff own releasable c).mpr (startsPageRequest (kinds _) call)⟩
  · rintro s ⟨c, call⟩ s' ⟨own, kinds, releasable⟩ next
    exact awaitsSent_iff own releasable (startsPageRequest (kinds _) call)
  · exact ⟨init_defers totalPages directory _, init_defers totalPages directory _,
      init_releasable totalPages directory⟩

theorem Sequencer.AwaitsSent.count {c : SequencerCall Page} (awaits : s.AwaitsSent c)
    (req : DeferredRequest) (starts : req ∈ s.nextRequest c) :
    ((s.call c).table req.pageIndex).expectedAcks =
      openInvalidates ((s.call c).effects.drop (s.sentBefore c).length) := by
  obtain ⟨sent, effects, count, -⟩ := awaits req starts
  rw [count, effects, List.drop_left]

/-- Node 2 has written page 0 and left when node 3 writes it: the sequencer waits for node 2, to
which it has sent nothing. -/
theorem awaits_unconnected_holder :
    ¬ ∀ (totalPages : Nat) (directory : Directory) (calls : List (PageCall PageBytes)),
      (∀ c ∈ calls, c.val.FromNode) →
      Runs.EveryStep (fun (s : Sequencer PageBytes) (c : PageCall PageBytes) => s.step c)
        (fun s c _ => s.AwaitsSent c) (coordinatorSequencerOver totalPages directory) calls := by
  intro claim
  let nodeFds : Nat → Int := fun n => if n = 3 then 13 else -1
  let calls : List (PageCall PageBytes) :=
    [⟨.request (fun n => 10 + n) 12 ⟨.requestPageWrite, 0, 2, 0⟩, rfl⟩,
      ⟨.request nodeFds 13 ⟨.requestPageWrite, 0, 3, 0⟩, rfl⟩]
  obtain ⟨-, every⟩ := claim 4 (gpdInit 4) calls
    (by simp [calls, SequencerCall.FromNode, ValidNode]) _ rfl
  obtain ⟨awaits, -⟩ := every _ rfl
  exact absurd (awaits.count ⟨3, .requestPageWrite, 13, 0⟩ (by decide)) (by decide +kernel)

end TeleportVM
