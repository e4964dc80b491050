import TeleportVM.Connections

/-!
Which acknowledgements the transaction of a page still waits for, while connections end at any
moment. `expected_acks` is set when the invalidations go out and only ever counts down by
acknowledgements: both paths that close a connection leave it.
-/
namespace TeleportVM

variable {Page : Type}

/-- The kind of packet that this one answers. -/
def MsgType.answers : MsgType → Option MsgType
  | .invalidateAck => some .invalidate
  | .sendPage => some .requestPageRead
  | _ => none

/-- The connection on which a packet of this kind about page `p` is answered. -/
def NodeEvent.answered (kind : MsgType) (p : Nat) : NodeEvent Page → Option Int
  | .receive clientFd packet =>
    if packet.type.answers = some kind ∧ packet.pageIndex = p then some clientFd else none
  | _ => none

/-- The turn takes up a request for page `p`. -/
def NodeThreads.asks (t : NodeThreads Page) (p : Nat) : NodeEvent Page → Bool
  | .drain => t.node.sharedReqQueue.head?.any fun req => decide (req.pageIndex = p)
  | .receive _ packet => packet.type.isPageRequest && decide (packet.pageIndex = p)
  | _ => false

/-! ### The account of a page -/

/-- How the slot of a page, the nodes that its transaction waits for, and the connections that owe it
an acknowledgement or the page agree. No nodes are asked before the invalidations go out. -/
structure PageAccount (peer : Int → Option Nat) (slot : CoordPending Page)
    (asked : Option (Finset Nat)) (acks fetches : List Int) : Prop where
  count : slot.expectedAcks = (asked.getD ∅).card
  idle : slot.requesterNodeId = 0 → asked.getD ∅ = ∅
  done : asked = some ∅ → slot.requesterNodeId = 0
  owed : ∀ fd ∈ acks, ∃ m ∈ asked.getD ∅, peer fd = some m
  once : (acks.map peer).Nodup
  fetched : fetches ≠ [] → slot.requesterNodeId ≠ 0 ∧ asked = none
  single : fetches.length ≤ 1

namespace PageAccount

variable {peer peer' : Int → Option Nat} {slot slot' : CoordPending Page}
  {asked : Option (Finset Nat)} {acks fetches : List Int}

theorem acks_nil (account : PageAccount peer slot asked acks fetches) (nobody : asked.getD ∅ = ∅) :
    acks = [] := by
  apply List.eq_nil_iff_forall_not_mem.mpr
  intro fd owes
  obtain ⟨m, member, -⟩ := account.owed fd owes
  rw [nobody] at member
  exact absurd member (Finset.notMem_empty m)

theorem free (account : PageAccount peer slot asked acks fetches) (free : slot.requesterNodeId = 0) :
    slot.expectedAcks = 0 ∧ acks = [] ∧ fetches = [] := by
  have nobody := account.idle free
  refine ⟨by rw [account.count, nobody, Finset.card_empty], account.acks_nil nobody, ?_⟩
  by_contra some
  exact (account.fetched some).1 free

/-- A request is taken up, and may be answered at once. -/
theorem taken (account : PageAccount peer slot asked acks fetches)
    (free : slot.requesterNodeId = 0) : PageAccount peer slot none acks fetches := by
  -- a free slot owes nothing, so forgetting who was asked loses nothing
  obtain ⟨none, rfl, rfl⟩ := account.free free
  exact ⟨none, fun _ => rfl, nofun, nofun, List.nodup_nil, nofun, Nat.zero_le 1⟩

/-- A transaction begins with a fetch. -/
theorem fetch (account : PageAccount peer slot asked acks fetches)
    (free : slot.requesterNodeId = 0) (requester : slot'.requesterNodeId ≠ 0)
    (count : slot'.expectedAcks = 0) (owner : Int) :
    PageAccount peer slot' none acks (fetches ++ [owner]) := by
  obtain ⟨-, rfl, rfl⟩ := account.free free
  exact ⟨count, fun idle => absurd idle requester, nofun, nofun, List.nodup_nil,
    fun _ => ⟨requester, rfl⟩, le_refl 1⟩

/-- The invalidations go out. -/
theorem wait {targets : List Nat} {fds : Nat → Int} (requester : slot'.requesterNodeId ≠ 0)
    (count : slot'.expectedAcks = targets.length) (nonempty : 0 < targets.length)
    (nodup : targets.Nodup) (peers : ∀ m ∈ targets, peer (fds m) = some m) :
    PageAccount peer slot' (some targets.toFinset) (targets.map fds) [] where
  count := by rw [count, Option.getD_some, List.toFinset_card_of_nodup nodup]
  idle free := absurd free requester
  done nobody := by
    rw [Option.some.injEq, List.toFinset_eq_empty_iff] at nobody
    rw [nobody] at nonempty
    exact absurd nonempty (Nat.lt_irrefl 0)
  owed fd owes := by
    obtain ⟨m, member, rfl⟩ := List.mem_map.mp owes
    exact ⟨m, List.mem_toFinset.mpr member, peers m member⟩
  once := by
    -- each connection is that of one target
    have same : (targets.map fds).map peer = targets.map some := by
      rw [List.map_map]
      exact List.map_congr_left peers
    rw [same]
    exact nodup.map (Option.some_injective Nat)
  fetched := nofun
  single := Nat.zero_le 1

/-- The fetched page arrives. -/
theorem arrived (account : PageAccount peer slot asked acks fetches) {fd : Int} (owes : fd ∈ fetches) :
    asked = none ∧ slot.requesterNodeId ≠ 0 ∧ acks = [] ∧ fetches.erase fd = [] := by
  obtain ⟨live, rfl⟩ := account.fetched (List.ne_nil_of_mem owes)
  refine ⟨rfl, live, account.acks_nil rfl, List.length_eq_zero_iff.mp ?_⟩
  -- one fetch at a time is in flight
  rw [List.length_erase_of_mem owes]
  have single := account.single
  omega

theorem complete (account : PageAccount peer slot none acks fetches) :
    PageAccount peer { slot with requesterNodeId := 0 } none acks [] :=
  ⟨account.count, fun _ => rfl, nofun, account.owed, account.once, nofun, Nat.zero_le 1⟩

/-- One of the connections that owe the page has answered, and nothing came of it. -/
theorem ignored (account : PageAccount peer slot asked acks fetches) (answered : List Int) :
    PageAccount peer slot asked acks (fetches.diff answered) := by
  have fewer := List.diff_sublist fetches answered
  refine { account with fetched := fun some => account.fetched ?_, single := ?_ }
  · rintro rfl
    exact some (List.sublist_nil.mp fewer)
  · exact fewer.length_le.trans account.single

/-- An acknowledgement is counted. -/
theorem counted (account : PageAccount peer slot asked acks fetches) {fd : Int} {m : Nat}
    (owes : fd ∈ acks) (from_node : peer fd = some m)
    (count : slot'.expectedAcks + 1 = slot.expectedAcks)
    (requester : slot'.requesterNodeId = if slot'.expectedAcks = 0 then 0 else slot.requesterNodeId) :
    PageAccount peer slot' (asked.map (·.erase m)) (acks.erase fd) fetches := by
  obtain ⟨m', member, same⟩ := account.owed fd owes
  cases from_node.symm.trans same
  cases asked with
  | none => exact absurd member (Finset.notMem_empty m)
  | some nodes =>
    rw [Option.getD_some] at member
    have fewer : slot'.expectedAcks = (nodes.erase m).card := by
      have all : slot.expectedAcks = nodes.card := account.count
      rw [Finset.card_erase_of_mem member]
      omega
    refine ⟨fewer, fun idle => ?_, fun none => ?_, fun fd' owes' => ?_, ?_, fun some => ?_, account.single⟩
    · -- the slot is free after the last one, or was free before
      rw [requester] at idle
      split at idle
      next last => exact Finset.card_eq_zero.mp (fewer.symm.trans last)
      · have nobody : nodes = ∅ := account.idle idle
        rw [nobody] at member
        exact absurd member (Finset.notMem_empty m)
    · have last : slot'.expectedAcks = 0 := by
        rw [fewer, Finset.card_eq_zero]
        exact Option.some.inj none
      rw [requester, if_pos last]
    · -- no other connection of the node owes an acknowledgement
      obtain ⟨other, there⟩ := (List.Nodup.mem_erase_iff (List.Nodup.of_map peer account.once)).mp owes'
      obtain ⟨m', member', connected⟩ := account.owed fd' there
      refine ⟨m', Finset.mem_erase.mpr ⟨?_, member'⟩, connected⟩
      rintro rfl
      exact other (List.inj_on_of_nodup_map account.once there owes (connected.trans from_node.symm))
    · exact account.once.sublist ((List.erase_sublist).map peer)
    · exact absurd (account.fetched some).2 nofun

/-- Connections come and go, but not those that owe an acknowledgement. -/
theorem reconnect (account : PageAccount peer slot asked acks fetches)
    (same : ∀ fd ∈ acks, peer' fd = peer fd) : PageAccount peer' slot asked acks fetches where
  count := account.count
  idle := account.idle
  done := account.done
  owed fd owes := by
    rw [same fd owes]
    exact account.owed fd owes
  once := by
    rw [List.map_congr_left same]
    exact account.once
  fetched := account.fetched
  single := account.single

/-- A connection ends, and owes nothing any more. -/
theorem dropped (account : PageAccount peer slot asked acks fetches) (clientFd : Int) :
    PageAccount peer slot asked (acks.filter (· ≠ clientFd)) (fetches.filter (· ≠ clientFd)) where
  count := account.count
  idle := account.idle
  done := account.done
  owed fd owes := account.owed fd (List.mem_filter.mp owes).1
  once := account.once.sublist (List.filter_sublist.map peer)
  fetched some := account.fetched fun none => some (by rw [none]; rfl)
  single := (List.length_filter_le _ fetches).trans account.single

end PageAccount

/-! ### The ledger of a coordinator -/

/-- The connections of a coordinator, those on which a packet of a kind about a page was sent and not
answered, and for each page the nodes to which the current transaction sent `MSG_INVALIDATE` and
whose acknowledgement was not processed: `none` until it sends any. -/
structure AckLedger (Page : Type) where
  connections : Connections Page
  unanswered : MsgType → Nat → List Int
  asked : Nat → Option (Finset Nat)

namespace AckLedger

def slot (s : AckLedger Page) (p : Nat) : CoordPending Page := s.connections.slot p

def awaited (s : AckLedger Page) (p : Nat) : Finset Nat := (s.asked p).getD ∅

/-- Nodes have numbers that `main` accepts, requests for a page do not overlap, and pages and
acknowledgements are answers. -/
def Allows (s : AckLedger Page) : ConnectionEvent Page → Prop
  | .accept _ w => ValidNode w
  | .turn (.receive clientFd packet) =>
    (packet.type.isPageRequest = true → (s.slot packet.pageIndex).requesterNodeId = 0) ∧
      ∀ kind ∈ packet.type.answers, clientFd ∈ s.unanswered kind packet.pageIndex
  | .turn .drain => ∀ req ∈ s.connections.threads.node.sharedReqQueue.head?,
      (s.slot req.pageIndex).requesterNodeId = 0
  | .turn _ => True

instance (s : AckLedger Page) : ∀ e, Decidable (s.Allows e)
  | .accept _ w => inferInstanceAs (Decidable (ValidNode w))
  | .turn (.receive clientFd packet) => inferInstanceAs (Decidable
      ((packet.type.isPageRequest = true → (s.slot packet.pageIndex).requesterNodeId = 0) ∧
        ∀ kind ∈ packet.type.answers, clientFd ∈ s.unanswered kind packet.pageIndex))
  | .turn .drain => inferInstanceAs (Decidable (∀ req ∈ s.connections.threads.node.sharedReqQueue.head?,
      (s.slot req.pageIndex).requesterNodeId = 0))
  | .turn (.load _) | .turn (.store _ _) | .turn .fault | .turn .finish | .turn (.closed _)
  | .turn (.evict _) => isTrue trivial

/-- The unanswered packets after an event that leads to the connections `c`. -/
def unansweredAfter (s : AckLedger Page) (c : Connections Page) (kind : MsgType) (p : Nat) :
    ConnectionEvent Page → List Int
  | .accept _ _ => s.unanswered kind p
  | .turn (.closed clientFd) => (s.unanswered kind p).filter (· ≠ clientFd)
  | .turn e => (s.unanswered kind p).diff (e.answered kind p).toList ++ c.threads.node.sentOf kind p

/-- The nodes asked after it. A request begins a new transaction. -/
def askedAfter (s : AckLedger Page) (c : Connections Page) (p : Nat) :
    ConnectionEvent Page → Option (Finset Nat)
  | .accept _ _ => s.asked p
  | .turn e =>
    let sent := c.threads.node.sentOf .invalidate p
    if sent ≠ [] then some (sent.filterMap s.connections.peer).toFinset
    else if s.connections.threads.asks p e then none
    else match (e.answered .invalidate p).bind s.connections.peer with
      | some w => (s.asked p).map (·.erase w)
      | none => s.asked p

def step [Zero Page] (s : AckLedger Page) (e : ConnectionEvent Page) : Option (AckLedger Page) :=
  if s.Allows e then
    (s.connections.step e).map fun c =>
      ⟨c, fun kind p => s.unansweredAfter c kind p e, fun p => s.askedAfter c p e⟩
  else none

def initial [Zero Page] (id numPages : Nat) : AckLedger Page :=
  ⟨.initial id numPages, fun _ _ => [], fun _ => none⟩

/-- The connected nodes that the current transaction of the page waits for. -/
def outstanding (s : AckLedger Page) (p : Nat) : Nat :=
  ((s.awaited p).filter fun m => s.connections.threads.node.nodeFds m ≠ -1).card

/-- `expected_acks` of every page is the number of connected nodes that its transaction waits for, and
a transaction that waits for none after its invalidations has ended. -/
def Balanced (s : AckLedger Page) : Prop :=
  ∀ p < s.connections.threads.node.numPages, (s.slot p).expectedAcks = s.outstanding p ∧
    ((s.asked p).isSome = true → s.outstanding p = 0 → (s.slot p).requesterNodeId = 0)

instance (s : AckLedger Page) : Decidable s.Balanced :=
  inferInstanceAs (Decidable (∀ p < s.connections.threads.node.numPages, _ ∧ _))

/-- The connection that ends is not that of a node that a transaction waits for. -/
def SparesAwaited (s : AckLedger Page) : ConnectionEvent Page → Prop
  | .turn (.closed clientFd) => ∀ p < s.connections.threads.node.numPages, ∀ m ∈ s.awaited p,
      s.connections.threads.node.nodeFds m ≠ clientFd
  | _ => True

instance (s : AckLedger Page) : ∀ e, Decidable (s.SparesAwaited e)
  | .turn (.closed clientFd) => inferInstanceAs (Decidable
      (∀ p < s.connections.threads.node.numPages, ∀ m ∈ s.awaited p,
        s.connections.threads.node.nodeFds m ≠ clientFd))
  | .turn (.load _) | .turn (.store _ _) | .turn .fault | .turn .drain | .turn .finish
  | .turn (.receive _ _) | .turn (.evict _) | .accept _ _ => isTrue trivial

/-! ### What holds of the ledger -/

/-- What holds of page `p` while no connection ends that a transaction waits for. -/
structure PageOk (s : AckLedger Page) (p : Nat) : Prop where
  account : PageAccount s.connections.peer (s.slot p) (s.asked p) (s.unanswered .invalidate p)
    (s.unanswered .requestPageRead p)
  connected : ∀ m ∈ s.awaited p, s.connections.threads.node.nodeFds m ≠ -1
  inside : 0 < (s.slot p).expectedAcks → p < s.connections.threads.node.numPages

/-- A handler that is about to record a transaction for a node has a free slot before it. -/
def TaskOk (s : AckLedger Page) (task : EngineTask Page) : Prop :=
  ∀ asked ∈ task.asker, asked.2 ≠ 0 ∧ (s.slot task.pageIndex).requesterNodeId = 0 ∧
    s.asked task.pageIndex = none

structure Ok (s : AckLedger Page) : Prop where
  registered : s.connections.Registered
  peers : ∀ fd, ∀ w ∈ s.connections.peer fd, ValidNode w
  pages : ∀ p, s.PageOk p
  tasks : ∀ task ∈ s.connections.threads.task, s.TaskOk task

variable {s s' : AckLedger Page} {e : NodeEvent Page} {p w : Nat} {clientFd : Int}

/-! ### What the turns are answers to -/

theorem answered_iff {kind : MsgType} {fd : Int} : e.answered kind p = some fd ↔
    ∃ packet, e = .receive fd packet ∧ packet.type.answers = some kind ∧ packet.pageIndex = p := by
  cases e with
  | receive clientFd packet =>
    simp only [NodeEvent.answered]
    constructor
    · intro answered
      split at answered
      next all =>
        cases answered
        exact ⟨packet, rfl, all⟩
      · cases answered
    · rintro ⟨packet, ⟨⟩, all⟩
      exact if_pos all
  | load | store | fault | drain | finish | closed | evict =>
    exact iff_of_false nofun (by rintro ⟨packet, ⟨⟩, -⟩)

theorem acknowledges_iff : e.acknowledges p = true ↔ ∃ fd, e.answered .invalidate p = some fd := by
  cases e with
  | receive clientFd packet =>
    have kinds : packet.type.answers = some .invalidate ↔ packet.type = .invalidateAck := by
      cases packet.type <;> simp [MsgType.answers]
    simp [NodeEvent.acknowledges, NodeEvent.answered, kinds]
  | load | store | fault | drain | finish | closed | evict =>
    simp [NodeEvent.acknowledges, NodeEvent.answered]

theorem owes_of_answered (allows : s.Allows (.turn e)) {kind : MsgType} {fd : Int}
    (answered : e.answered kind p = some fd) : fd ∈ s.unanswered kind p := by
  obtain ⟨packet, rfl, kinds, rfl⟩ := answered_iff.mp answered
  exact allows.2 kind kinds

theorem free_of_asks (allows : s.Allows (.turn e)) (asks : s.connections.threads.asks p e = true) :
    (s.slot p).requesterNodeId = 0 := by
  cases e with
  | drain =>
    obtain ⟨req, head, own⟩ := (Option.any_eq_true _ _).mp asks
    exact of_decide_eq_true own ▸ allows req head
  | receive clientFd packet =>
    obtain ⟨kind, own⟩ := (Bool.and_eq_true _ _).mp asks
    exact of_decide_eq_true own ▸ allows.1 kind
  | load | store | fault | finish | closed | evict => cases asks

theorem asks_of_takesUp {t : NodeThreads Page} (takes : t.TakesUp p w clientFd e) :
    t.asks p e = true := by
  cases e with
  | drain =>
    obtain ⟨⟨req, head, own⟩, -, -⟩ := takes
    exact (Option.any_eq_true _ _).mpr ⟨req, head, decide_eq_true own⟩
  | receive clientFd packet =>
    obtain ⟨kind, own, -, -⟩ := takes
    exact (Bool.and_eq_true _ _).mpr ⟨kind, decide_eq_true own⟩
  | load | store | fault | finish | closed | evict => exact absurd takes id

theorem not_asks_of_answered {t : NodeThreads Page} {kind : MsgType} {fd : Int}
    (answered : e.answered kind p = some fd) : t.asks p e = false := by
  obtain ⟨packet, rfl, kinds, -⟩ := answered_iff.mp answered
  have other : packet.type.isPageRequest = false := by
    cases type : packet.type with
    | requestPageRead | requestPageWrite =>
      rw [type] at kinds
      cases kinds
    | sendPage | nodeJoin | invalidate | invalidateAck | other => rfl
  rw [NodeThreads.asks, other, Bool.false_and]

theorem answered_of_replies {t : NodeThreads Page} (replies : t.Replies p w clientFd e) :
    ∃ fd, e.answered .requestPageRead p = some fd := by
  cases e with
  | receive fd packet =>
    obtain ⟨kind, own, -⟩ := replies
    exact ⟨fd, if_pos ⟨by rw [kind]; rfl, own⟩⟩
  | load | store | fault | drain | finish | closed | evict => exact absurd replies id

theorem answered_one {kind other : MsgType} {fd : Int} (answered : e.answered kind p = some fd)
    (apart : kind ≠ other) : e.answered other p = none := by
  obtain ⟨packet, rfl, kinds, -⟩ := answered_iff.mp answered
  apply if_neg
  rintro ⟨kinds', -⟩
  exact apart (Option.some.inj (kinds.symm.trans kinds'))

theorem answered_none_of_asks {t : NodeThreads Page} (asks : t.asks p e = true) (kind : MsgType) :
    e.answered kind p = none := by
  by_contra some
  obtain ⟨fd, answered⟩ := Option.ne_none_iff_exists'.mp some
  rw [not_asks_of_answered answered] at asks
  cases asks

variable {c : Connections Page}

theorem unansweredAfter_turn (notClosed : ∀ fd, e ≠ .closed fd) (kind : MsgType) :
    s.unansweredAfter c kind p (.turn e) =
      (s.unanswered kind p).diff (e.answered kind p).toList ++ c.threads.node.sentOf kind p := by
  cases e with
  | closed fd => exact absurd rfl (notClosed fd)
  | load | store | fault | drain | receive | finish | evict => rfl

theorem askedAfter_asks (quiet : c.threads.node.sentOf .invalidate p = [])
    (asks : s.connections.threads.asks p e = true) : s.askedAfter c p (.turn e) = none := by
  simp only [askedAfter, quiet, ne_eq, not_true_eq_false, if_false, asks, if_true]

theorem askedAfter_idle (quiet : c.threads.node.sentOf .invalidate p = [])
    (others : s.connections.threads.asks p e = false) (ack : e.answered .invalidate p = none) :
    s.askedAfter c p (.turn e) = s.asked p := by
  simp only [askedAfter, quiet, ne_eq, not_true_eq_false, if_false, others, Bool.false_eq_true, ack,
    Option.bind_none]

theorem askedAfter_nobody (quiet : c.threads.node.sentOf .invalidate p = [])
    (nobody : s.asked p = none) : s.askedAfter c p (.turn e) = none := by
  simp only [askedAfter, quiet, ne_eq, not_true_eq_false, if_false, nobody, Option.map_none]
  split
  · rfl
  · split <;> rfl

theorem askedAfter_ack (quiet : c.threads.node.sentOf .invalidate p = []) {fd : Int} {m : Nat}
    (answered : e.answered .invalidate p = some fd) (connected : s.connections.peer fd = some m) :
    s.askedAfter c p (.turn e) = (s.asked p).map (·.erase m) := by
  simp only [askedAfter, quiet, ne_eq, not_true_eq_false, if_false, not_asks_of_answered answered,
    Bool.false_eq_true, answered, Option.bind_some, connected]

theorem askedAfter_sent {targets : List Nat} {fds : Nat → Int}
    (sent : c.threads.node.sentOf .invalidate p = targets.map fds) (nonempty : 0 < targets.length)
    (peers : ∀ m ∈ targets, s.connections.peer (fds m) = some m) :
    s.askedAfter c p (.turn e) = some targets.toFinset := by
  have some_sent : targets.map fds ≠ [] := by
    rw [ne_eq, List.map_eq_nil_iff]
    exact List.ne_nil_of_length_pos nonempty
  have nodes : (targets.map fds).filterMap s.connections.peer = targets := by
    rw [List.filterMap_map]
    exact (List.filterMap_congr peers).trans List.filterMap_some
  simp only [askedAfter, sent, if_pos some_sent, nodes]

/-! ### A turn that closes no connection -/

variable [Zero Page]

/-- The state after such a turn. -/
def after (s : AckLedger Page) (e : NodeEvent Page) (t : NodeThreads Page) : AckLedger Page :=
  ⟨⟨t, s.connections.peer⟩, fun kind p => s.unansweredAfter ⟨t, s.connections.peer⟩ kind p (.turn e),
    fun p => s.askedAfter ⟨t, s.connections.peer⟩ p (.turn e)⟩

section Turn

variable (ok : s.Ok) (allows : s.Allows (.turn e)) (delivers : s.connections.Delivers e)
  (notClosed : ∀ fd, e ≠ .closed fd) {t : NodeThreads Page}
  (next : s.connections.threads.step e = some t)
include ok delivers

omit [Zero Page] in
/-- A request that is taken up is one of a node. -/
theorem node_of_takesUp (takes : s.connections.threads.TakesUp p w clientFd e) : w ≠ 0 := by
  rcases Connections.belongs_of_takesUp delivers takes with ⟨-, rfl⟩ | connected
  · exact ok.registered.ranged.id.ne_zero
  · exact (ok.peers clientFd w connected).ne_zero

include allows

omit [Zero Page] in
/-- Before the invalidations go out, no connection owes anything for the page. -/
theorem clear_of_source (source : s.connections.threads.TakesUp p w clientFd e ∨
      s.connections.threads.Answers p w clientFd e ∨ s.connections.threads.Replies p w clientFd e) :
    w ≠ 0 ∧ s.unanswered .invalidate p = [] ∧
      (s.unanswered .requestPageRead p).diff (e.answered .requestPageRead p).toList = [] := by
  have account := (ok.pages p).account
  rcases source with takes | answers | replies
  · obtain ⟨-, acks, fetches⟩ := account.free (free_of_asks allows (asks_of_takesUp takes))
    exact ⟨node_of_takesUp ok delivers takes, acks, by rw [fetches, List.nil_diff]⟩
  · cases e with
    | finish =>
      obtain ⟨task, busy, rfl, asker⟩ := answers
      obtain ⟨node, free, -⟩ := ok.tasks task busy _ asker
      obtain ⟨-, acks, fetches⟩ := account.free free
      exact ⟨node, acks, by rw [fetches, List.nil_diff]⟩
    | load | store | fault | drain | receive | closed | evict => exact absurd answers id
  · obtain ⟨fd, answered⟩ := answered_of_replies replies
    obtain ⟨-, live, acks, fetches⟩ := account.arrived (owes_of_answered allows answered)
    refine ⟨?_, acks, by rw [answered, Option.toList_some, List.diff_cons, List.diff_nil, fetches]⟩
    cases e with
    | receive fd packet =>
      -- a live slot has a requester
      obtain ⟨-, -, requester, rfl, -⟩ := replies
      exact requester
    | load | store | fault | drain | finish | closed | evict => exact absurd replies id

include notClosed next

/-- An acknowledgement. -/
theorem PageOk.acknowledged {fd : Int} (answered : e.answered .invalidate p = some fd) :
    (s.after e t).PageOk p := by
  have page := ok.pages p
  have owes := owes_of_answered allows answered
  obtain ⟨m, member, connected⟩ := page.account.owed fd owes
  have expected : 0 < (s.slot p).expectedAcks := by
    rw [page.account.count]
    exact Finset.card_pos.mpr ⟨m, member⟩
  have counts := NodeThreads.counts_of_ack (acknowledges_iff.mpr ⟨fd, answered⟩)
    (page.inside expected) expected next
  have asked := askedAfter_ack (s := s) (c := ⟨t, s.connections.peer⟩) counts.invalidates answered connected
  have stays := NodeThreads.stays_of_step ok.registered.ranged next
  -- the acknowledgement is answered, and its node is not awaited any more
  refine ⟨?_, fun m' member' => ?_, fun _ => ?_⟩
  · have acks : s.unansweredAfter ⟨t, s.connections.peer⟩ .invalidate p (.turn e) =
        (s.unanswered .invalidate p).erase fd := by
      rw [unansweredAfter_turn notClosed, answered, counts.invalidates]
      simp
    have fetches : s.unansweredAfter ⟨t, s.connections.peer⟩ .requestPageRead p (.turn e) =
        s.unanswered .requestPageRead p := by
      rw [unansweredAfter_turn notClosed, answered_one answered (by decide), counts.fetches]
      simp
    simp only [after, asked, acks, fetches]
    exact page.account.counted owes connected counts.acks counts.requester
  · apply ok.registered.connected_turn delivers notClosed next
    apply page.connected m'
    simp only [awaited, after, asked] at member' ⊢
    cases nodes : s.asked p with
    | none =>
      rw [nodes] at member'
      exact member'
    | some nodes' =>
      rw [nodes] at member'
      exact Finset.mem_of_mem_erase member'
  · exact stays.numPages ▸ page.inside expected

/-- Any other turn. -/
theorem PageOk.turned (ack : e.answered .invalidate p = none) : (s.after e t).PageOk p := by
  have page := ok.pages p
  have stays := NodeThreads.stays_of_step ok.registered.ranged next
  have still {m : Nat} (connected : s.connections.threads.node.nodeFds m ≠ -1) :
      t.node.nodeFds m ≠ -1 := ok.registered.connected_turn delivers notClosed next connected
  have acks : s.unansweredAfter ⟨t, s.connections.peer⟩ .invalidate p (.turn e) =
      s.unanswered .invalidate p ++ t.node.sentOf .invalidate p := by
    rw [unansweredAfter_turn notClosed, ack, Option.toList_none, List.diff_nil]
  have fetched := unansweredAfter_turn (s := s) (p := p) (c := ⟨t, s.connections.peer⟩) notClosed
    .requestPageRead
  cases NodeThreads.slotTurn_of_step ok.registered.role ok.registered.ranged next p with
  | leave leaves =>
    rw [leaves.invalidates, List.append_nil] at acks
    rw [leaves.fetches, List.append_nil] at fetched
    have slot : (s.after e t).slot p = s.slot p := leaves.slot
    -- nothing happens to the slot: a request begins, a page that nobody waits for arrives, or neither
    have inside : 0 < ((s.after e t).slot p).expectedAcks → p < t.node.numPages := by
      rw [slot, stays.numPages]
      exact page.inside
    by_cases asks : s.connections.threads.asks p e = true
    · have asked := askedAfter_asks (s := s) (c := ⟨t, s.connections.peer⟩) leaves.invalidates asks
      refine ⟨?_, fun m member => ?_, inside⟩
      · rw [slot]
        simp only [after, asked, acks, fetched]
        exact (page.account.taken (free_of_asks allows asks)).ignored _
      · simp only [awaited, after, asked, Option.getD_none] at member
        exact absurd member (Finset.notMem_empty m)
    · have asked := askedAfter_idle (s := s) (c := ⟨t, s.connections.peer⟩) leaves.invalidates
        (Bool.eq_false_iff.mpr asks) ack
      refine ⟨?_, fun m member => ?_, inside⟩
      · rw [slot]
        simp only [after, asked, acks, fetched]
        exact page.account.ignored _
      · simp only [awaited, after, asked] at member
        exact still (page.connected m member)
  | fetch w clientFd takes _ fetches =>
    have asks := asks_of_takesUp takes
    have asked := askedAfter_asks (s := s) (c := ⟨t, s.connections.peer⟩) fetches.invalidates asks
    obtain ⟨owner, sent⟩ := fetches.fetches
    rw [fetches.invalidates, List.append_nil] at acks
    rw [answered_none_of_asks asks, Option.toList_none, List.diff_nil, sent] at fetched
    refine ⟨?_, fun m member => ?_, fun some => ?_⟩
    · simp only [after, asked, acks, fetched]
      refine page.account.fetch (free_of_asks allows asks) ?_ fetches.acks owner
      exact fetches.requester.symm ▸ node_of_takesUp ok delivers takes
    · simp only [awaited, after, asked, Option.getD_none] at member
      exact absurd member (Finset.notMem_empty m)
    · exact absurd fetches.acks (Nat.ne_of_gt some)
  | wait w clientFd targets source _ waits =>
    -- the invalidations go out while nothing else is outstanding
    obtain ⟨node, noAcks, noFetches⟩ := clear_of_source ok allows delivers source
    have peers : ∀ m ∈ targets, s.connections.peer (s.connections.threads.node.nodeFds m) = some m :=
      fun m member => (ok.registered.nodes m (waits.connected m member)).2
    have asked := askedAfter_sent (s := s) (e := e) (c := ⟨t, s.connections.peer⟩) waits.invalidates
      waits.some peers
    rw [noAcks, List.nil_append, waits.invalidates] at acks
    rw [noFetches, List.nil_append, waits.fetches] at fetched
    refine ⟨?_, fun m member => ?_, fun _ => stays.numPages ▸ waits.inside⟩
    · simp only [after, asked, acks, fetched]
      exact .wait (waits.requester.symm ▸ node) waits.acks waits.some waits.nodup peers
    · simp only [awaited, after, asked, Option.getD_some, List.mem_toFinset] at member
      exact still (waits.connected m member)
  | complete w clientFd replies _ completes =>
    obtain ⟨fd, answered⟩ := answered_of_replies replies
    have owes := owes_of_answered allows answered
    -- the fetched page was the only answer that was due
    obtain ⟨nobody, -, -, rest⟩ := page.account.arrived owes
    have asked := askedAfter_idle (s := s) (c := ⟨t, s.connections.peer⟩) completes.invalidates
      (not_asks_of_answered answered) ack
    rw [completes.invalidates, List.append_nil] at acks
    rw [completes.fetches, answered, Option.toList_some, List.diff_cons, List.diff_nil, rest,
      List.append_nil] at fetched
    have slot : (s.after e t).slot p = { s.slot p with requesterNodeId := 0 } := completes.slot
    have account := page.account
    rw [nobody] at account asked
    refine ⟨?_, fun m member => ?_, ?_⟩
    · rw [slot]
      simp only [after, asked, acks, fetched]
      exact account.complete
    · simp only [awaited, after, asked, Option.getD_none] at member
      exact absurd member (Finset.notMem_empty m)
    · rw [slot]
      exact stays.numPages ▸ page.inside
  | count acknowledges =>
    obtain ⟨fd, answered⟩ := acknowledges_iff.mp acknowledges
    cases ack.symm.trans answered

theorem PageOk.turn (p : Nat) : (s.after e t).PageOk p := by
  cases ack : e.answered .invalidate p with
  | none => exact .turned ok allows delivers notClosed next ack
  | some fd => exact .acknowledged ok allows delivers notClosed next ack

omit notClosed in
/-- A task is kept while its page is left alone, or begins with a request. -/
theorem TaskOk.turn : ∀ task ∈ t.task, (s.after e t).TaskOk task := by
  intro task busy asked asker
  have free : t.task ≠ none := fun none => by simp [none] at busy
  cases NodeThreads.slotTurn_of_step ok.registered.role ok.registered.ranged next task.pageIndex with
  | leave leaves =>
    have slot : (s.after e t).slot task.pageIndex = s.slot task.pageIndex := leaves.slot
    rw [slot]
    -- an older task, or one that begins with this request on a free slot
    rcases NodeThreads.task_of_step next task busy with kept | takes
    · obtain ⟨node, idle, nobody⟩ := ok.tasks task kept asked asker
      exact ⟨node, idle, askedAfter_nobody leaves.invalidates nobody⟩
    · have takes := takes asked asker
      have asks := asks_of_takesUp takes
      exact ⟨node_of_takesUp ok delivers takes, free_of_asks allows asks,
        askedAfter_asks (s := s) (c := ⟨t, s.connections.peer⟩) leaves.invalidates asks⟩
  | fetch w clientFd _ done => exact absurd done free
  | wait w clientFd targets _ done => exact absurd done free
  | complete w clientFd _ done => exact absurd done free
  | count _ done => exact absurd done free

theorem Ok.turn : (s.after e t).Ok where
  registered := ok.registered.turn delivers notClosed next
  peers := ok.peers
  pages := PageOk.turn ok allows delivers notClosed next
  tasks := TaskOk.turn ok allows delivers next

end Turn

/-! ### Every event -/

omit [Zero Page] in
theorem Ok.accept (ok : s.Ok) {w : Nat} (node : ValidNode w) (unused : s.connections.peer clientFd = none)
    (valid : 0 ≤ clientFd) : Ok { s with
      connections := ⟨s.connections.threads, Function.update s.connections.peer clientFd (some w)⟩ } := by
  refine ⟨ok.registered.accept unused valid w, fun fd m connected => ?_, fun p => ?_, ok.tasks⟩
  · by_cases same : fd = clientFd
    · subst same
      have new : Function.update s.connections.peer fd (some w) fd = some m := connected
      rw [Function.update_self] at new
      cases new
      exact node
    · have old : Function.update s.connections.peer clientFd (some w) fd = some m := connected
      rw [Function.update_of_ne same] at old
      exact ok.peers fd m old
  · have page := ok.pages p
    refine ⟨page.account.reconnect fun fd owes => ?_, page.connected, page.inside⟩
    obtain ⟨m, -, connected⟩ := page.account.owed fd owes
    rw [connected]
    exact Connections.peer_accept unused connected

omit [Zero Page] in
/-- Outside the region no transaction waits for anyone. -/
theorem PageOk.awaited_outside (page : s.PageOk p)
    (outside : ¬ p < s.connections.threads.node.numPages) : s.awaited p = ∅ := by
  have none : (s.slot p).expectedAcks = 0 := by
    by_contra some
    exact outside (page.inside (Nat.pos_of_ne_zero some))
  exact Finset.card_eq_zero.mp (page.account.count.symm.trans none)

omit [Zero Page] in
theorem Ok.closed (ok : s.Ok) (spares : s.SparesAwaited (.turn (.closed clientFd))) : Ok {
    connections := ⟨⟨s.connections.threads.resume.closeConnection clientFd, none⟩,
      Function.update s.connections.peer clientFd none⟩
    unanswered := fun kind p => (s.unanswered kind p).filter (· ≠ clientFd)
    asked := s.asked } := by
  refine ⟨ok.registered.closed clientFd, fun fd m connected => ?_, fun p => ?_, nofun⟩
  · have old : Function.update s.connections.peer clientFd none fd = some m := connected
    by_cases same : fd = clientFd
    · rw [same, Function.update_self] at old
      cases old
    · rw [Function.update_of_ne same] at old
      exact ok.peers fd m old
  · have page := ok.pages p
    refine ⟨(page.account.dropped clientFd).reconnect fun fd owes => ?_, fun m member => ?_, page.inside⟩
    · have other : fd ≠ clientFd := of_decide_eq_true (List.mem_filter.mp owes).2
      exact Function.update_of_ne other _ _
    · -- the nodes that are awaited keep their entries
      have connected := page.connected m member
      have other : s.connections.threads.node.nodeFds m ≠ clientFd := by
        by_cases inside : p < s.connections.threads.node.numPages
        · exact spares p inside m member
        · have nobody : m ∈ (∅ : Finset Nat) := page.awaited_outside inside ▸ member
          exact absurd nobody (Finset.notMem_empty m)
      have kept : (s.connections.threads.resume.closeConnection clientFd).nodeFds m =
          s.connections.threads.node.nodeFds m := if_neg fun cleared => other cleared.1
      exact kept ▸ connected

theorem initial_ok {id : Nat} (valid : ValidNode id) (numPages : Nat) :
    (initial id numPages : AckLedger Page).Ok where
  registered := Connections.initial_registered valid numPages
  peers _ _ connected := absurd connected (Option.not_mem_none _)
  pages _ := {
    account := ⟨rfl, fun _ => rfl, nofun, nofun, List.nodup_nil, fun some => absurd rfl some, Nat.zero_le 1⟩
    connected := fun _ member => absurd member (Finset.notMem_empty _)
    inside := fun some => absurd some (Nat.lt_irrefl 0) }
  tasks _ busy := absurd busy (Option.not_mem_none _)

omit [Zero Page] in
theorem Ok.balanced (ok : s.Ok) : s.Balanced := by
  intro p _
  have page := ok.pages p
  have all : s.outstanding p = (s.awaited p).card := by
    rw [outstanding, Finset.filter_true_of_mem page.connected]
  refine ⟨page.account.count.trans all.symm, fun asked none => page.account.done ?_⟩
  obtain ⟨nodes, some⟩ := Option.isSome_iff_exists.mp asked
  rw [all, Finset.card_eq_zero, awaited, some] at none
  rw [some]
  exact congrArg _ none

/-- What an event is: a connection, the end of one, or a turn that closes none. -/
theorem step_cases {event : ConnectionEvent Page} (next : s.step event = some s') :
    (∃ clientFd w, event = .accept clientFd w ∧ ValidNode w ∧ 0 ≤ clientFd ∧
      s.connections.peer clientFd = none ∧ s' = { s with
        connections := ⟨s.connections.threads, Function.update s.connections.peer clientFd (some w)⟩ }) ∨
    (∃ clientFd, event = .turn (.closed clientFd) ∧ s' = {
      connections := ⟨⟨s.connections.threads.resume.closeConnection clientFd, none⟩,
        Function.update s.connections.peer clientFd none⟩
      unanswered := fun kind p => (s.unanswered kind p).filter (· ≠ clientFd)
      asked := s.asked }) ∨
    ∃ e t, event = .turn e ∧ s.Allows (.turn e) ∧ s.connections.Delivers e ∧
      (∀ fd, e ≠ .closed fd) ∧ s.connections.threads.step e = some t ∧ s' = s.after e t := by
  simp only [step] at next
  split at next
  next allows =>
    obtain ⟨c, connects, rfl⟩ := Option.map_eq_some_iff.mp next
    rcases Connections.step_cases connects with ⟨clientFd, w, rfl, -, valid, unused, rfl⟩ |
      ⟨clientFd, rfl, -, rfl⟩ | ⟨e, t, rfl, delivers, notClosed, turned, rfl⟩
    · exact Or.inl ⟨clientFd, w, rfl, allows, valid, unused, rfl⟩
    · exact Or.inr (Or.inl ⟨clientFd, rfl, rfl⟩)
    · exact Or.inr (Or.inr ⟨e, t, rfl, allows, delivers, notClosed, turned, rfl⟩)
  · cases next

theorem Ok.step {event : ConnectionEvent Page} (ok : s.Ok) (spares : s.SparesAwaited event)
    (next : s.step event = some s') : s'.Ok := by
  rcases step_cases next with ⟨_, _, rfl, node, valid, unused, rfl⟩ | ⟨_, rfl, rfl⟩ |
    ⟨_, _, rfl, allows, delivers, notClosed, turned, rfl⟩
  · exact ok.accept node unused valid
  · exact ok.closed spares
  · exact ok.turn allows delivers notClosed turned

omit [Zero Page] in
/-- Closing the connection of a node that a transaction waits for leaves `expected_acks` too high. -/
theorem Ok.unbalanced (ok : s.Ok) (inside : p < s.connections.threads.node.numPages) {m : Nat}
    (member : m ∈ s.awaited p) (closes : s.connections.threads.node.nodeFds m = clientFd)
    (peer : Int → Option Nat) (unanswered : MsgType → Nat → List Int) : ¬ Balanced {
      connections := ⟨⟨s.connections.threads.resume.closeConnection clientFd, none⟩, peer⟩
      unanswered := unanswered
      asked := s.asked } := by
  intro balanced
  have page := ok.pages p
  have small := (ok.registered.nodes m (page.connected m member)).1
  have count : (s.slot p).expectedAcks = ((s.awaited p).filter fun m' =>
      (s.connections.threads.resume.closeConnection clientFd).nodeFds m' ≠ -1).card :=
    (balanced p inside).1
  have all : (s.slot p).expectedAcks = (s.awaited p).card := page.account.count
  -- the departed node is no longer counted, but `expected_acks` still counts it
  have cleared : (s.connections.threads.resume.closeConnection clientFd).nodeFds m = -1 :=
    if_pos ⟨closes, small⟩
  have fewer : ((s.awaited p).filter fun m' =>
      (s.connections.threads.resume.closeConnection clientFd).nodeFds m' ≠ -1) ⊂ s.awaited p :=
    Finset.filter_ssubset.mpr ⟨m, member, fun connected => connected cleared⟩
  have less := Finset.card_lt_card fewer
  rw [← count, ← all] at less
  exact Nat.lt_irrefl _ less

theorem balanced_iff {event : ConnectionEvent Page} (ok : s.Ok) (next : s.step event = some s') :
    s'.Balanced ↔ s.SparesAwaited event := by
  constructor
  · intro balanced
    rcases step_cases next with ⟨_, _, rfl, -⟩ | ⟨clientFd, rfl, rfl⟩ | ⟨e, _, rfl, -, -, notClosed, -⟩
    · trivial
    · intro p inside m member closes
      exact ok.unbalanced inside member closes _ _ balanced
    · cases e with
      | closed fd => exact absurd rfl (notClosed fd)
      | load | store | fault | drain | receive | finish | evict => trivial
  · intro spares
    exact (ok.step spares next).balanced

end AckLedger

/-- Whatever is asked, answered, acknowledged and closed, `expected_acks` is the number of connected
nodes whose acknowledgement the transaction waits for, and the transaction ends with the last one,
exactly if no connection ends of a node that a transaction waits for. -/
theorem acks_accounted_iff [Zero Page] (id : Nat) (valid : ValidNode id) (numPages : Nat)
    (events : List (ConnectionEvent Page)) :
    Runs.EveryStep AckLedger.step (fun _ _ s' => s'.Balanced) (.initial id numPages) events ↔
      Runs.EveryStep AckLedger.step (fun s e _ => s.SparesAwaited e) (.initial id numPages) events := by
  apply Runs.everyStep_iff_while AckLedger.Ok
  · intro s e s' ok next
    exact AckLedger.balanced_iff ok next
  · intro s e s' ok spares next
    exact ok.step spares next
  · exact AckLedger.initial_ok valid numPages

/-- Nodes 2 and 3 share page 0 when node 4 writes it. Node 3 leaves after its acknowledgement and node
5 writes on the same descriptor. -/
def acknowledgedWrites : List (ConnectionEvent PageBytes) :=
  [.accept 12 2, .accept 13 3, .accept 14 4,
    .turn (.receive 12 ⟨.requestPageRead, 0, 2, 0⟩), .turn .finish,
    .turn (.receive 13 ⟨.requestPageRead, 0, 3, 0⟩), .turn .finish,
    .turn (.receive 14 ⟨.requestPageWrite, 0, 4, 0⟩), .turn .finish,
    .turn (.receive 13 ⟨.invalidateAck, 0, 3, 0⟩), .turn (.closed 13),
    .turn (.receive 12 ⟨.invalidateAck, 0, 2, 0⟩), .accept 13 5,
    .turn (.receive 13 ⟨.requestPageWrite, 0, 5, 0⟩), .turn (.receive 14 ⟨.sendPage, 0, 4, 0⟩),
    .turn (.receive 14 ⟨.invalidateAck, 0, 4, 0⟩)]

theorem acks_accounted_acknowledged : Runs.EveryStep AckLedger.step (fun _ _ s' => s'.Balanced)
    (.initial 1 4) acknowledgedWrites :=
  (acks_accounted_iff 1 (by decide) 4 acknowledgedWrites).mpr (by decide +kernel)

/-- Node 2 shares page 0 and leaves before it acknowledges the write of node 4. -/
theorem departed_node_awaited : ¬ ∀ events : List (ConnectionEvent PageBytes),
    Runs.EveryStep AckLedger.step (fun _ _ s' => s'.Balanced) (.initial 1 4) events := by
  intro claim
  exact absurd (claim [.accept 12 2, .accept 14 4, .turn (.receive 12 ⟨.requestPageRead, 0, 2, 0⟩),
    .turn .finish, .turn (.receive 14 ⟨.requestPageWrite, 0, 4, 0⟩), .turn .finish,
    .turn (.closed 12)]) (by decide +kernel)

end TeleportVM
