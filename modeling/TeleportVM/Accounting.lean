import TeleportVM.PageRefinement
import TeleportVM.Lib.Links

/-!
The pending slot accounts for every message of its transaction: one fetch or fetched page
while the owner is asked, and `expected_acks` invalidations and acknowledgements after
that. It does so as long as no request is recorded over a transaction that is. Where one is, what
the slot counts is still in flight, beside messages that nothing counts any more.
-/
namespace TeleportVM

variable {Page : Type}

namespace Msg

def isPage : Msg Page → Bool
  | .page _ => true
  | _ => false

def isFetch : Msg Page → Bool
  | .fetch => true
  | _ => false

def isInvalidate : Msg Page → Bool
  | .invalidate => true
  | _ => false

def isAck : Msg Page → Bool
  | .ack => true
  | _ => false

end Msg

namespace PageState

/-- The fetches and the fetched pages in flight. -/
def transfers (T : Topology) (s : PageState Page) : Nat :=
  Links.inFlight s.down Msg.isFetch T.workers + Links.inFlight s.up Msg.isPage T.workers

/-- The invalidations and the acknowledgements in flight. -/
def collections (T : Topology) (s : PageState Page) : Nat :=
  Links.inFlight s.down Msg.isInvalidate T.workers + Links.inFlight s.up Msg.isAck T.workers

/-- A transaction for the page is recorded. -/
def Live (s : PageState Page) : Prop := s.slot.requesterNodeId ≠ 0

instance (s : PageState Page) : Decidable s.Live := inferInstanceAs (Decidable (_ ≠ _))

/-- The request will be recorded in the slot: it waits for the owner's copy or for
acknowledgements. -/
def Records (T : Topology) (s : PageState Page) (r : Nat) (isWrite : Bool) : Prop :=
  if s.Present T r then isWrite = true ∧ s.targets r ≠ ∅
  else s.Fetchable r ∨ (r ≠ T.coordinator ∧ isWrite = true ∧ s.targets r ≠ ∅)

instance (T : Topology) (s : PageState Page) (r : Nat) (isWrite : Bool) :
    Decidable (s.Records T r isWrite) := inferInstanceAs (Decidable (ite _ _ _))

/-- A write of the coordinator that has others to invalidate is recorded. -/
theorem records_upgrade {T : Topology} {s : PageState Page}
    (present : s.Present T T.coordinator) (others : s.targets T.coordinator ≠ ∅) :
    s.Records T T.coordinator true := by
  rw [Records, if_pos present]
  exact ⟨rfl, others⟩

theorem records_fetch {T : Topology} {s taken : PageState Page} {r : Nat} {isWrite : Bool}
    (takes : Takes T s r isWrite taken) (absent : ¬ s.Present T r) (owned : taken.Fetchable r) :
    s.Records T r isWrite := by
  rw [Records, if_neg absent]
  exact Or.inl (takes.fetchable.mp owned)

theorem records_wait {T : Topology} {s taken : PageState Page} {r : Nat}
    (takes : Takes T s r true taken) (away : r ≠ T.coordinator) (others : taken.targets r ≠ ∅) :
    s.Records T r true := by
  rw [takes.targets] at others
  unfold Records
  split
  · exact ⟨rfl, others⟩
  · exact Or.inr ⟨away, rfl, others⟩

/-- No request is recorded over a transaction that is. -/
def Undisturbed (T : Topology) (s : PageState Page) : PageLabel Page → Prop
  | .request r isWrite => s.Live → ¬ s.Records T r isWrite
  | _ => True

instance (T : Topology) (s : PageState Page) (label : PageLabel Page) :
    Decidable (s.Undisturbed T label) :=
  match label with
  | .request r isWrite => inferInstanceAs (Decidable (s.Live → ¬ s.Records T r isWrite))
  | .join _ | .store _ _ | .enqueue _ _ | .overflow _ | .forward _ | .receive _ | .reply _
  | .ack _ => isTrue trivial

structure Accounted (T : Topology) (s : PageState Page) : Prop where
  transfers : s.transfers T = if s.Live ∧ s.slot.expectedAcks = 0 then 1 else 0
  collections : s.collections T = s.slot.expectedAcks
  counting : 0 < s.slot.expectedAcks → s.Live

variable {T : Topology} {s taken s' : PageState Page}

/-- Taking a request changes neither count. -/
theorem Takes.transfers {r : Nat} {isWrite : Bool} (takes : Takes T s r isWrite taken) :
    taken.transfers T = s.transfers T := by
  cases takes with
  | own => rfl
  | remote _ _ rest worker head =>
    have popped := Links.inFlight_pop Msg.isPage worker head
    simp only [Msg.isPage, Bool.false_eq_true, if_false, Nat.add_zero] at popped
    simp only [PageState.transfers, popped]

theorem Takes.collections {r : Nat} {isWrite : Bool} (takes : Takes T s r isWrite taken) :
    taken.collections T = s.collections T := by
  cases takes with
  | own => rfl
  | remote _ _ rest worker head =>
    have popped := Links.inFlight_pop Msg.isAck worker head
    simp only [Msg.isAck, Bool.false_eq_true, if_false, Nat.add_zero] at popped
    simp only [PageState.collections, popped]

theorem targets_subset (ok : PageOk T s) (r : Nat) : s.targets r ⊆ T.workers :=
  Finset.inter_subset_right.trans ok.joined

theorem initial_accounted [Zero Page] : Accounted T (.initial : PageState Page) where
  transfers := by simp [PageState.transfers, PageState.initial, Links.inFlight, Live]
  collections := by simp [PageState.collections, PageState.initial, Links.inFlight]
  counting := by simp [PageState.initial]

theorem Accounted.transfers_one (accounted : Accounted T s) (live : s.Live)
    (idle : s.slot.expectedAcks = 0) : s.transfers T = 1 := by
  rw [accounted.transfers, if_pos ⟨live, idle⟩]

theorem Accounted.transfers_zero (accounted : Accounted T s)
    (other : ¬ (s.Live ∧ s.slot.expectedAcks = 0)) : s.transfers T = 0 := by
  rw [accounted.transfers, if_neg other]

/-- The page of the recorded transaction has arrived. -/
theorem Accounted.fetched (accounted : Accounted T s) (arrived : 0 < s.transfers T) :
    s.Live ∧ s.slot.expectedAcks = 0 := by
  by_contra absent
  rw [accounted.transfers, if_neg absent] at arrived
  exact Nat.lt_irrefl 0 arrived

theorem transfers_of_page {o : Nat} {page : Page} {rest : List (Msg Page)} (worker : o ∈ T.workers)
    (head : s.up o = .page page :: rest) : 0 < s.transfers T :=
  Nat.lt_of_lt_of_le (Links.inFlight_pos worker (m := Msg.page page) (by simp [head]) rfl)
    (Nat.le_add_left _ _)

theorem collections_of_ack {w : Nat} {rest : List (Msg Page)} (worker : w ∈ T.workers)
    (head : s.up w = .ack :: rest) : 0 < s.collections T :=
  Nat.lt_of_lt_of_le (Links.inFlight_pos worker (m := Msg.ack) (by simp [head]) rfl)
    (Nat.le_add_left _ _)

/-- A grant puts at most a page on a link. -/
theorem inFlight_grant {kind : Msg Page → Bool} {page : Page} (other : kind (.page page) = false)
    (r : Nat) : Links.inFlight (s.grant T r page).down kind T.workers =
      Links.inFlight s.down kind T.workers := by
  unfold grant
  split
  · rfl
  · exact Links.inFlight_post_other other

/-! ### What a move does to the counts -/

/-- The requester, the count of the slot and what is in flight stay. -/
structure Keeps (T : Topology) (s s' : PageState Page) : Prop where
  requester : s'.slot.requesterNodeId = s.slot.requesterNodeId
  acks : s'.slot.expectedAcks = s.slot.expectedAcks
  transfers : s'.transfers T = s.transfers T
  collections : s'.collections T = s.collections T

/-- A transaction is recorded, with its fetch or its invalidations. -/
structure Recorded (T : Topology) (s s' : PageState Page) : Prop where
  live : s'.Live
  transfers : s'.transfers T = s.transfers T + if s'.slot.expectedAcks = 0 then 1 else 0
  collections : s'.collections T = s.collections T + s'.slot.expectedAcks

/-- A page is taken off its link. Nobody waits for it, or the transaction ends with it or goes on
with its invalidations. -/
structure Replied (T : Topology) (s s' : PageState Page) : Prop where
  transfers : s'.transfers T + 1 = s.transfers T
  outcome : (¬ s.Live ∧ s'.slot = s.slot ∧ s'.collections T = s.collections T) ∨
    (s.Live ∧ ¬ s'.Live ∧ s'.slot.expectedAcks = s.slot.expectedAcks ∧
      s'.collections T = s.collections T) ∨
    (s.Live ∧ s'.Live ∧ s'.slot.expectedAcks ≠ 0 ∧
      s'.collections T = s.collections T + s'.slot.expectedAcks)

/-- An acknowledgement is taken off its link. Nobody waits for it, or it is counted, and the
transaction ends with the last one. -/
structure Acknowledged (T : Topology) (s s' : PageState Page) : Prop where
  transfers : s'.transfers T = s.transfers T
  collections : s'.collections T + 1 = s.collections T
  outcome : (s.slot.expectedAcks = 0 ∧ s'.slot = s.slot) ∨
    (s'.slot.expectedAcks + 1 = s.slot.expectedAcks ∧
      (s'.Live ↔ s.Live ∧ s'.slot.expectedAcks ≠ 0))

/-- All that the workers are sent is pages. -/
def AddsPages (T : Topology) (s s' : PageState Page) : Prop :=
  ∀ kind : Msg Page → Bool, (∀ page, kind (.page page) = false) →
    Links.inFlight s'.down kind T.workers = Links.inFlight s.down kind T.workers

/-- A request that is served at once. -/
theorem Keeps.serve {r : Nat} {isWrite : Bool} (takes : Takes T s r isWrite taken)
    (slot : s'.slot = taken.slot) (up : s'.up = taken.up) (down : AddsPages T taken s') :
    Keeps T s s' where
  requester := by rw [slot, takes.slot]
  acks := by rw [slot, takes.slot]
  transfers := by
    rw [← takes.transfers]
    simp only [PageState.transfers, up, down Msg.isFetch fun _ => rfl]
  collections := by
    rw [← takes.collections]
    simp only [PageState.collections, up, down Msg.isInvalidate fun _ => rfl]

/-- The counts after a page or an acknowledgement was taken off a link. -/
theorem counts_popUp {w : Nat} {m : Msg Page} {rest : List (Msg Page)} {t : PageState Page}
    (worker : w ∈ T.workers) (head : s.up w = m :: rest) (up : t.up = Function.update s.up w rest)
    (down : AddsPages T s t) :
    t.transfers T + (if m.isPage then 1 else 0) = s.transfers T ∧
      t.collections T + (if m.isAck then 1 else 0) = s.collections T := by
  have pages := Links.inFlight_pop Msg.isPage worker head
  have acks := Links.inFlight_pop Msg.isAck worker head
  simp only [PageState.transfers, PageState.collections, up, down Msg.isFetch fun _ => rfl,
    down Msg.isInvalidate fun _ => rfl]
  omega

/-- The fetched page is handed out and the slot freed. -/
theorem Replied.answer {o : Nat} {page : Page} {rest : List (Msg Page)} (worker : o ∈ T.workers)
    (head : s.up o = .page page :: rest) (live : s.Live) (free : ¬ s'.Live)
    (acks : s'.slot.expectedAcks = s.slot.expectedAcks) (up : s'.up = Function.update s.up o rest)
    (down : AddsPages T s s') : Replied T s s' := by
  obtain ⟨transfers, collections⟩ := counts_popUp worker head up down
  exact ⟨transfers, Or.inr (Or.inl ⟨live, free, acks, collections⟩)⟩

/-- An acknowledgement is counted, and the slot freed with the last one. -/
theorem Acknowledged.count {w : Nat} {rest : List (Msg Page)} (worker : w ∈ T.workers)
    (head : s.up w = .ack :: rest) (acks : s'.slot.expectedAcks + 1 = s.slot.expectedAcks)
    (last : s'.Live ↔ s.Live ∧ s'.slot.expectedAcks ≠ 0) (up : s'.up = Function.update s.up w rest)
    (down : AddsPages T s s') : Acknowledged T s s' := by
  obtain ⟨transfers, collections⟩ := counts_popUp worker head up down
  exact ⟨transfers, collections, Or.inr ⟨acks, last⟩⟩

variable [Zero Page]

/-- A request is served at once, or recorded. -/
theorem tally_of_request (ok : PageOk T s) {r : Nat} {isWrite : Bool}
    (move : Move T s (.request r isWrite) s') :
    Keeps T s s' ∨ s.Records T r isWrite ∧ Recorded T s s' := by
  cases move with
  | readPresent _ takes => exact Or.inl (.serve takes rfl rfl fun _ _ => rfl)
  | upgrade _ takes => exact Or.inl (.serve takes rfl rfl fun _ _ => rfl)
  | upgradeWait _ takes present others =>
    -- one `MSG_INVALIDATE` for each acknowledgement that is expected
    have card : (s.targets T.coordinator).card ≠ 0 := by rwa [ne_eq, Finset.card_eq_zero]
    refine Or.inr ⟨records_upgrade present others, T.coordinator_valid.ne_zero, ?_, ?_⟩
    · rw [← takes.transfers]
      simp [PageState.transfers, Links.inFlight_broadcast (targets_subset ok _), Msg.isFetch, card]
    · rw [← takes.collections]
      simp only [PageState.collections, broadcast_down, broadcast_up, setSlot_down, setSlot_up,
        setEntry_down, setEntry_up, Links.inFlight_broadcast (targets_subset ok _),
        Msg.isInvalidate, broadcast_slot, setSlot_slot]
      simp only [if_true]
      omega
  | fetch r isWrite fd _ takes absent owned =>
    have requester : r ≠ 0 := (T.valid_of_mem takes.member).ne_zero
    -- the fetch is the one transfer of the transaction
    have owner : s.entry.ownerNodeId ∈ T.workers := ok.joined (takes.fetchable.mp owned).1
    refine Or.inr ⟨records_fetch takes absent owned, requester, ?_, ?_⟩
    · rw [← takes.transfers]
      simp only [PageState.transfers, post_down, post_up, setSlot_down, setSlot_up,
        Links.inFlight_post owner, Msg.isFetch, post_slot, setSlot_slot, if_true]
      omega
    · rw [← takes.collections]
      simp [PageState.collections, Links.inFlight_post owner, Msg.isInvalidate]
  | zeroLocal _ _ takes => exact Or.inl (.serve takes rfl rfl fun _ _ => rfl)
  | zeroRead _ _ takes =>
    exact Or.inl (.serve takes rfl rfl fun _ other => Links.inFlight_post_other (other _))
  | serveRead _ _ _ takes =>
    exact Or.inl (.serve takes rfl rfl fun _ other => Links.inFlight_post_other (other _))
  | serveWrite _ _ _ takes =>
    refine Or.inl (.serve takes (by simp) (by simp) fun _ other => ?_)
    simp [Links.inFlight_post_other (other _)]
  | serveWriteWait r page fd _ takes worker source others =>
    -- the same for a write whose reply is deferred
    have records := records_wait takes (T.ne_coordinator worker) others
    rw [takes.targets] at others ⊢
    have card : (s.targets r).card ≠ 0 := by rwa [ne_eq, Finset.card_eq_zero]
    refine Or.inr ⟨records, (T.workers_valid r worker).ne_zero, ?_, ?_⟩
    · rw [← takes.transfers]
      simp [PageState.transfers, Links.inFlight_broadcast (targets_subset ok _), Msg.isFetch, card]
    · rw [← takes.collections]
      simp only [PageState.collections, broadcast_down, broadcast_up, setSlot_down, setSlot_up,
        setEntry_down, setEntry_up, dropIf_down, dropIf_up,
        Links.inFlight_broadcast (targets_subset ok _), Msg.isInvalidate, broadcast_slot,
        setSlot_slot, if_true]
      omega

/-- A worker takes a packet: a fetch becomes a page, and an invalidation an acknowledgement. -/
theorem keeps_of_receive {w : Nat} (move : Move T s (.receive w) s') : Keeps T s s' := by
  cases move with
  | receivePage w page rest worker head =>
    have fetches := Links.inFlight_pop Msg.isFetch worker head
    have invalidates := Links.inFlight_pop Msg.isInvalidate worker head
    refine ⟨by simp, by simp, ?_, ?_⟩
    · simpa [transfers, Msg.isFetch] using fetches
    · simpa [collections, Msg.isInvalidate] using invalidates
  | receiveFetch w page rest worker head copied =>
    have fetches := Links.inFlight_pop Msg.isFetch worker head
    have invalidates := Links.inFlight_pop Msg.isInvalidate worker head
    refine ⟨rfl, rfl, ?_, ?_⟩
    · simp only [transfers, Links.inFlight_push worker, Msg.isPage, Msg.isFetch] at fetches ⊢
      omega
    · simpa [collections, Links.inFlight_push worker, Msg.isInvalidate, Msg.isAck] using invalidates
  | receiveInvalidate w rest worker head =>
    have fetches := Links.inFlight_pop Msg.isFetch worker head
    have invalidates := Links.inFlight_pop Msg.isInvalidate worker head
    refine ⟨rfl, rfl, ?_, ?_⟩
    · simpa [transfers, Links.inFlight_push worker, Msg.isFetch, Msg.isPage] using fetches
    · simp only [collections, Links.inFlight_push worker, drop_down, drop_up, Msg.isInvalidate,
        Msg.isAck] at invalidates ⊢
      omega

/-- The coordinator takes a page. -/
theorem replied_of_reply (ok : PageOk T s) {o : Nat} (move : Move T s (.reply o) s') :
    Replied T s s' := by
  cases move with
  | unsolicited o page rest worker head free =>
    obtain ⟨transfers, collections⟩ := counts_popUp (t := PageState.accept
      { s with up := Function.update s.up o rest } T.coordinator page) worker head (by simp)
      fun _ _ => by simp
    exact ⟨transfers, Or.inl ⟨fun live => live free, by simp, collections⟩⟩
  | replyRead o page rest worker head live read =>
    exact .answer worker head live (by simp [Live]) (by simp) (by simp)
      fun _ other => inFlight_grant (other _) _
  | replyWrite o page rest worker head live write alone =>
    refine .answer worker head live (by simp [Live]) (by simp) (by simp) fun _ other => ?_
    rw [inFlight_grant (other _)]
    simp
  | replyWriteWait o page rest worker head live write others =>
    have popped := counts_popUp (t := { s with up := Function.update s.up o rest }) worker head rfl
      fun _ _ => rfl
    have card : (s.targets s.slot.requesterNodeId).card ≠ 0 := by rwa [ne_eq, Finset.card_eq_zero]
    have inside := targets_subset ok s.slot.requesterNodeId
    simp only [transfers, collections, Msg.isPage, Msg.isAck, if_true, Bool.false_eq_true,
      if_false] at popped
    refine ⟨?_, Or.inr (Or.inr ⟨live, by simpa [Live] using live, by simpa using card, ?_⟩)⟩
    · simp only [transfers, broadcast_down, broadcast_up, setSlot_down, setSlot_up, setEntry_down,
        setEntry_up, dropIf_down, dropIf_up, Links.inFlight_broadcast inside, Msg.isFetch, if_false,
        Bool.false_eq_true]
      omega
    · simp only [collections, broadcast_down, broadcast_up, setSlot_down, setSlot_up, setEntry_down,
        setEntry_up, dropIf_down, dropIf_up, Links.inFlight_broadcast inside, Msg.isInvalidate,
        broadcast_slot, setSlot_slot, if_true]
      omega

/-- The coordinator takes an acknowledgement. -/
theorem acknowledged_of_ack {w : Nat} (move : Move T s (.ack w) s') : Acknowledged T s s' := by
  cases move with
  | ackIgnored w rest worker head none =>
    obtain ⟨transfers, collections⟩ := counts_popUp
      (t := { s with up := Function.update s.up w rest }) worker head rfl fun _ _ => rfl
    exact ⟨transfers, collections, Or.inl ⟨none, rfl⟩⟩
  | ackCounted w rest worker head more =>
    refine .count worker head ?_ ?_ rfl fun _ _ => rfl
    · simp only [setSlot_slot]; omega
    · simp only [Live, setSlot_slot]
      exact (and_iff_left (by omega)).symm
  | ackLift w rest worker head last =>
    exact .count worker head (by simp [last]) (by simp [Live]) rfl fun _ _ => rfl
  | ackGrant w rest worker head last =>
    exact .count worker head (by simp [last]) (by simp [Live]) (by simp)
      fun _ other => inFlight_grant (other _) _

/-- Every other move keeps the counts. -/
theorem keeps_of_other {label : PageLabel Page} (move : Move T s label s')
    (request : ∀ r isWrite, label ≠ .request r isWrite) (reply : ∀ o, label ≠ .reply o)
    (ack : ∀ w, label ≠ .ack w) : Keeps T s s' := by
  cases label with
  | request r isWrite => exact absurd rfl (request r isWrite)
  | reply o => exact absurd rfl (reply o)
  | ack w => exact absurd rfl (ack w)
  | receive w => exact keeps_of_receive move
  | join | store | enqueue | overflow =>
    cases move
    exact ⟨rfl, rfl, rfl, rfl⟩
  | forward =>
    cases move with
    | forward w isWrite rest worker head =>
      refine ⟨rfl, rfl, ?_, ?_⟩
      · simp [transfers, Links.inFlight_push worker, Msg.isPage]
      · simp [collections, Links.inFlight_push worker, Msg.isAck]

omit [Zero Page]

/-! ### One transaction at a time -/

theorem Accounted.keep (accounted : Accounted T s) (keeps : Keeps T s s') : Accounted T s' where
  transfers := by
    have live : s'.Live ↔ s.Live := by rw [Live, keeps.requester, Live]
    simp only [keeps.transfers, accounted.transfers, live, keeps.acks]
  collections := by rw [keeps.collections, accounted.collections, keeps.acks]
  counting := by simpa only [keeps.acks, Live, keeps.requester] using accounted.counting

/-- A transaction is recorded in a free slot. -/
theorem Accounted.record (accounted : Accounted T s) (free : ¬ s.Live) (recorded : Recorded T s s') :
    Accounted T s' where
  transfers := by
    rw [recorded.transfers, accounted.transfers_zero fun both => free both.1, Nat.zero_add]
    by_cases fetching : s'.slot.expectedAcks = 0
    · rw [if_pos fetching, if_pos ⟨recorded.live, fetching⟩]
    · rw [if_neg fetching, if_neg fun both => fetching both.2]
  collections := by
    have idle : s.slot.expectedAcks = 0 := by
      by_contra busy
      exact free (accounted.counting (Nat.pos_of_ne_zero busy))
    rw [recorded.collections, accounted.collections, idle, Nat.zero_add]
  counting _ := recorded.live

/-- A page in flight belongs to the recorded transaction. -/
theorem Accounted.reply (accounted : Accounted T s) (replied : Replied T s s') : Accounted T s' := by
  have taken := replied.transfers
  obtain ⟨live, idle⟩ := accounted.fetched (by omega)
  rw [accounted.transfers_one live idle] at taken
  have nothing : s'.transfers T = 0 := by omega
  rcases replied.outcome with ⟨free, -⟩ | ⟨-, free, acks, collections⟩ | ⟨-, live', some, collections⟩
  · exact absurd live free
  · refine ⟨?_, ?_, fun busy => ?_⟩
    · rw [nothing, if_neg fun both => free both.1]
    · rw [collections, accounted.collections, acks]
    · rw [acks, idle] at busy
      exact absurd busy (Nat.lt_irrefl 0)
  · refine ⟨?_, ?_, fun _ => live'⟩
    · rw [nothing, if_neg fun both => some both.2]
    · rw [collections, accounted.collections, idle, Nat.zero_add]

/-- An acknowledgement in flight is one that the recorded transaction counts. -/
theorem Accounted.ack (accounted : Accounted T s) (acknowledged : Acknowledged T s s') :
    Accounted T s' := by
  have taken := acknowledged.collections
  rw [accounted.collections] at taken
  rcases acknowledged.outcome with ⟨none, -⟩ | ⟨acks, last⟩
  · -- one that nobody counts would be one too many in flight
    omega
  have live := accounted.counting (by omega)
  have transfers := acknowledged.transfers
  rw [accounted.transfers_zero fun both => by omega] at transfers
  refine ⟨?_, by omega, fun busy => last.mpr ⟨live, Nat.ne_of_gt busy⟩⟩
  rw [transfers, if_neg fun both => (last.mp both.1).2 both.2]

/-! ### Transactions that overlap -/

/-- Whatever has been recorded over what, for the transaction that the slot names a fetch or a
fetched page is in flight, or as many invalidations and acknowledgements as it counts. -/
structure Owed (T : Topology) (s : PageState Page) : Prop where
  fetch : s.Live → s.slot.expectedAcks = 0 → 0 < s.transfers T
  acks : s.slot.expectedAcks ≤ s.collections T

theorem initial_owed [Zero Page] : Owed T (.initial : PageState Page) where
  fetch live := absurd rfl live
  acks := Nat.zero_le _

theorem Owed.keep (owed : Owed T s) (keeps : Keeps T s s') : Owed T s' where
  fetch live idle := by
    rw [keeps.transfers]
    exact owed.fetch (by rwa [Live, ← keeps.requester]) (by rwa [← keeps.acks])
  acks := by
    rw [keeps.acks, keeps.collections]
    exact owed.acks

theorem Owed.record (recorded : Recorded T s s') : Owed T s' where
  fetch _ idle := by
    rw [recorded.transfers, if_pos idle]
    exact Nat.succ_pos _
  acks := by
    rw [recorded.collections]
    exact Nat.le_add_left _ _

theorem Owed.reply (owed : Owed T s) (replied : Replied T s s') : Owed T s' := by
  rcases replied.outcome with ⟨free, slot, collections⟩ | ⟨-, free, acks, collections⟩ |
    ⟨-, -, some, collections⟩
  · refine ⟨fun live => absurd (by rwa [Live, ← slot]) free, ?_⟩
    rw [slot, collections]
    exact owed.acks
  · refine ⟨fun live => absurd live free, ?_⟩
    rw [acks, collections]
    exact owed.acks
  · exact ⟨fun _ idle => absurd idle some, by rw [collections]; exact Nat.le_add_left _ _⟩

theorem Owed.ack (owed : Owed T s) (acknowledged : Acknowledged T s s') : Owed T s' := by
  have taken := acknowledged.collections
  have covered := owed.acks
  rcases acknowledged.outcome with ⟨none, slot⟩ | ⟨acks, last⟩
  · refine ⟨fun live idle => ?_, by rw [slot]; omega⟩
    rw [acknowledged.transfers]
    exact owed.fetch (by rwa [Live, ← slot]) none
  · exact ⟨fun live idle => absurd idle (last.mp live).2, by omega⟩

/-- Where nothing about the page is in flight no transaction is recorded. -/
theorem Owed.free (owed : Owed T s) (transfers : s.transfers T = 0)
    (collections : s.collections T = 0) :
    s.slot.requesterNodeId = 0 ∧ s.slot.expectedAcks = 0 := by
  have idle : s.slot.expectedAcks = 0 := Nat.eq_zero_of_le_zero (collections ▸ owed.acks)
  refine ⟨?_, idle⟩
  by_contra live
  have some := owed.fetch live idle
  omega

/-! ### Moves -/

variable [Zero Page]

/-- Every move that records nothing over a live transaction keeps the account. -/
theorem accounted_of_move (ok : PageOk T s) (accounted : Accounted T s) {label : PageLabel Page}
    (undisturbed : s.Undisturbed T label) (move : Move T s label s') : Accounted T s' := by
  cases label with
  | request r isWrite =>
    rcases tally_of_request ok move with keeps | ⟨records, recorded⟩
    · exact accounted.keep keeps
    · exact accounted.record (fun live => undisturbed live records) recorded
  | reply o => exact accounted.reply (replied_of_reply ok move)
  | ack w => exact accounted.ack (acknowledged_of_ack move)
  | receive | join | store | enqueue | overflow | forward =>
    exact accounted.keep (keeps_of_other move nofun nofun nofun)

/-- Every move pays what is owed. -/
theorem owed_of_move (ok : PageOk T s) (owed : Owed T s) {label : PageLabel Page}
    (move : Move T s label s') : Owed T s' := by
  cases label with
  | request r isWrite =>
    rcases tally_of_request ok move with keeps | ⟨-, recorded⟩
    · exact owed.keep keeps
    · exact .record recorded
  | reply o => exact owed.reply (replied_of_reply ok move)
  | ack w => exact owed.ack (acknowledged_of_ack move)
  | receive | join | store | enqueue | overflow | forward =>
    exact owed.keep (keeps_of_other move nofun nofun nofun)

end PageState

end TeleportVM
