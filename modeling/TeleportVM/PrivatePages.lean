import TeleportVM.FaultHandling

/-!
Pages that are left to one node, whose threads touch them one at a time. Such a page faults once,
its node is given a page of zeros, and from then on the page is memory: whatever the cluster does
about other pages, it keeps what was last stored.
-/
namespace TeleportVM

variable {Page : Type}

namespace PageState

/-- The coordinator has recorded no request, and no other node has anything of the page. -/
structure LeftTo (n : Nat) (s : PageState Page) : Prop where
  requester : s.slot.requesterNodeId = 0
  acks : s.slot.expectedAcks = 0
  status : ∀ m, m ≠ n → s.status m = .empty
  mapping : ∀ m, m ≠ n → s.mapping m = .unmapped
  queued : ∀ m, m ≠ n → s.queued m = []
  up : ∀ m, m ≠ n → s.up m = []
  down : ∀ m, m ≠ n → s.down m = []

/-- What waits for the page at its node and on its links. -/
structure Carried (n : Nat) (s : PageState Page) (queued : List Bool) (up down : List (Msg Page)) :
    Prop where
  queued : s.queued n = queued
  up : s.up n = up
  down : s.down n = down

/-- The directory does not know the page yet, and its node does not have it. -/
structure Unlisted (n : Nat) (s : PageState Page) : Prop where
  entry : s.entry = ⟨.invalid, 0, 0⟩
  mapping : s.mapping n = .unmapped

/-- How far the only fault of the page has come, and what is stored in the page. -/
inductive Stage [Zero Page] (n : Nat) (s : PageState Page) : Page → Prop
  | untouched (unlisted : s.Unlisted n) (status : s.status n = .empty) (carried : s.Carried n [] [] []) :
      Stage n s 0
  | queued (isWrite : Bool) (unlisted : s.Unlisted n) (status : s.status n = .pending)
      (carried : s.Carried n [isWrite] [] []) : Stage n s 0
  | asked (isWrite : Bool) (unlisted : s.Unlisted n) (status : s.status n = .pending)
      (carried : s.Carried n [] [.request isWrite] []) : Stage n s 0
  | answered (holders : s.entry.holders ⊆ {n}) (mapping : s.mapping n = .unmapped)
      (status : s.status n = .pending) (carried : s.Carried n [] [] [.page 0]) : Stage n s 0
  | resident (page : Page) (holders : s.entry.holders ⊆ {n}) (mapping : s.mapping n = .readWrite page)
      (status : s.status n = .valid) (carried : s.Carried n [] [] []) : Stage n s page

/-- The page is left to node `n` and holds these contents. -/
structure Private [Zero Page] (n : Nat) (s : PageState Page) (page : Page) : Prop where
  left : s.LeftTo n
  stage : s.Stage n page

/-- Only node `n` touches the page, and its fault handler hears of it before anything is known. -/
def TouchedBy (n : Nat) (s : PageState Page) : PageLabel Page → Prop
  | .store m _ => m = n
  | .enqueue m _ | .overflow m => m = n ∧ s.status n = .empty
  | _ => True

end PageState

/-- The contents of the page after a move. -/
def PageLabel.leaves (page : Page) : PageLabel Page → Page
  | .store _ contents => contents
  | _ => page

namespace PageState

variable {T : Topology} {s s' taken : PageState Page} {n w r : Nat} {page : Page} {isWrite : Bool}

/-- Whatever happens at node `n` and on its links leaves the page to it. -/
theorem LeftTo.of (left : s.LeftTo n) (slot : s'.slot = s.slot)
    (status : ∀ m, m ≠ n → s'.status m = s.status m)
    (mapping : ∀ m, m ≠ n → s'.mapping m = s.mapping m)
    (queued : ∀ m, m ≠ n → s'.queued m = s.queued m) (up : ∀ m, m ≠ n → s'.up m = s.up m)
    (down : ∀ m, m ≠ n → s'.down m = s.down m) : s'.LeftTo n where
  requester := by rw [slot]; exact left.requester
  acks := by rw [slot]; exact left.acks
  status m other := (status m other).trans (left.status m other)
  mapping m other := (mapping m other).trans (left.mapping m other)
  queued m other := (queued m other).trans (left.queued m other)
  up m other := (up m other).trans (left.up m other)
  down m other := (down m other).trans (left.down m other)

theorem Unlisted.holders (unlisted : s.Unlisted n) : s.entry.holders = ∅ := by
  rw [unlisted.entry]
  rfl

variable [Zero Page]

theorem initial_private (n : Nat) : Private n (.initial : PageState Page) 0 where
  left := ⟨rfl, rfl, fun _ _ => rfl, fun _ _ => rfl, fun _ _ => rfl, fun _ _ => rfl, fun _ _ => rfl⟩
  stage := .untouched ⟨rfl, rfl⟩ rfl ⟨rfl, rfl, rfl⟩

namespace Private

theorem holders (held : s.Private n page) : s.entry.holders ⊆ {n} := by
  cases held.stage with
  | untouched unlisted | queued _ unlisted | asked _ unlisted =>
    rw [unlisted.holders]
    exact Finset.empty_subset _
  | answered holders | resident _ holders => exact holders

/-- The page is memory: zeros before the first access, then what was stored. -/
theorem contents (held : s.Private n page) :
    s.mapping n = .unmapped ∧ page = 0 ∨ s.mapping n = .readWrite page := by
  cases held.stage with
  | untouched unlisted | queued _ unlisted | asked _ unlisted => exact Or.inl ⟨unlisted.mapping, rfl⟩
  | answered _ mapping => exact Or.inl ⟨mapping, rfl⟩
  | resident _ _ mapping => exact Or.inr mapping

/-! ### What waits -/

/-- A queued request is the only one, and the page waits for it. -/
theorem queue_head (held : s.Private n page) {rest : List Bool} (head : s.queued w = isWrite :: rest) :
    w = n ∧ rest = [] ∧ page = 0 ∧ s.Unlisted n ∧ s.status n = .pending ∧
      s.Carried n [isWrite] [] [] := by
  have same : w = n := by
    by_contra other
    rw [held.left.queued w other] at head
    cases head
  subst same
  cases held.stage with
  | untouched _ _ carried | asked _ _ _ carried | answered _ _ _ carried | resident _ _ _ _ carried =>
    cases carried.queued.symm.trans head
  | queued isWrite unlisted status carried =>
    cases carried.queued.symm.trans head
    exact ⟨rfl, rfl, rfl, unlisted, status, carried⟩

/-- On the way up there is nothing but the request. -/
theorem up_head (held : s.Private n page) {m : Msg Page} {rest : List (Msg Page)}
    (head : s.up w = m :: rest) :
    w = n ∧ rest = [] ∧ page = 0 ∧ s.Unlisted n ∧ s.status n = .pending ∧
      ∃ isWrite, m = .request isWrite ∧ s.Carried n [] [.request isWrite] [] := by
  have same : w = n := by
    by_contra other
    rw [held.left.up w other] at head
    cases head
  subst same
  cases held.stage with
  | untouched _ _ carried | queued _ _ _ carried | answered _ _ _ carried | resident _ _ _ _ carried =>
    cases carried.up.symm.trans head
  | asked isWrite unlisted status carried =>
    cases carried.up.symm.trans head
    exact ⟨rfl, rfl, rfl, unlisted, status, isWrite, rfl, carried⟩

/-- No copy and no acknowledgement comes up. -/
theorem up_request (held : s.Private n page) {m : Msg Page} {rest : List (Msg Page)}
    (head : s.up w = m :: rest) : ∃ isWrite, m = .request isWrite := by
  obtain ⟨-, -, -, -, -, isWrite, request, -⟩ := held.up_head head
  exact ⟨isWrite, request⟩

/-- On the way down there is nothing but the page of zeros. -/
theorem down_head (held : s.Private n page) {m : Msg Page} {rest : List (Msg Page)}
    (head : s.down w = m :: rest) :
    w = n ∧ rest = [] ∧ page = 0 ∧ m = .page 0 ∧ s.entry.holders ⊆ {n} ∧
      s.status n = .pending ∧ s.Carried n [] [] [.page 0] := by
  have same : w = n := by
    by_contra other
    rw [held.left.down w other] at head
    cases head
  subst same
  cases held.stage with
  | untouched _ _ carried | queued _ _ _ carried | asked _ _ _ carried | resident _ _ _ _ carried =>
    cases carried.down.symm.trans head
  | answered holders mapping status carried =>
    cases carried.down.symm.trans head
    exact ⟨rfl, rfl, rfl, rfl, holders, status, carried⟩

/-- The request that the coordinator takes is that of the page's node, and nothing else is left. -/
theorem takes (held : s.Private n page) (takes : Takes T s r isWrite taken) :
    r = n ∧ page = 0 ∧ s.Unlisted n ∧ s.status n = .pending ∧ taken.LeftTo n ∧
      taken.Carried n [] [] [] := by
  cases takes with
  | own isWrite rest head =>
    obtain ⟨same, rfl, none, unlisted, pending, carried⟩ := held.queue_head head
    rw [same]
    refine ⟨rfl, none, unlisted, pending, ?_, Function.update_self _ _ _, carried.up, carried.down⟩
    exact held.left.of rfl (fun _ _ => rfl) (fun _ _ => rfl)
      (fun m other => Function.update_of_ne other _ _) (fun _ _ => rfl) (fun _ _ => rfl)
  | remote w isWrite rest worker head =>
    obtain ⟨rfl, rfl, none, unlisted, pending, _, _, carried⟩ := held.up_head head
    refine ⟨rfl, none, unlisted, pending, ?_, carried.queued, Function.update_self _ _ _, carried.down⟩
    exact held.left.of rfl (fun _ _ => rfl) (fun _ _ => rfl) (fun _ _ => rfl)
      (fun m other => Function.update_of_ne other _ _) (fun _ _ => rfl)

/-! ### One move -/

section Requests

variable (held : s.Private n page) (takes : Takes T s n isWrite taken)
include held takes

/-- The coordinator has no copy. -/
theorem absent : s.status T.coordinator ≠ .valid ∧ ¬ s.Present T n := by
  obtain ⟨-, -, -, pending, -, -⟩ := held.takes takes
  have missing : s.status T.coordinator = .empty ∨ s.status T.coordinator = .pending := by
    by_cases own : T.coordinator = n
    · exact Or.inr (own ▸ pending)
    · exact Or.inl (held.left.status _ own)
  constructor
  · rintro valid
    rcases missing with none | none <;> cases valid.symm.trans none
  · rintro (valid | ⟨-, upgrading⟩)
    · rcases missing with none | none <;> cases valid.symm.trans none
    · rcases missing with none | none <;> cases upgrading.symm.trans none

/-- Nobody owns the page, and nobody has to be told. -/
theorem unowned (ok : PageOk T s) : ¬ taken.Fetchable n ∧ taken.targets n = ∅ := by
  obtain ⟨-, -, unlisted, -, -, -⟩ := held.takes takes
  constructor
  · intro fetchable
    obtain ⟨joined, -⟩ := takes.fetchable.mp fetchable
    rw [unlisted.entry] at joined
    exact (T.workers_valid _ (ok.joined joined)).ne_zero rfl
  · rw [takes.targets, targets, unlisted.holders]
    rfl

/-- The node enters the directory alone. -/
theorem enters (ok : PageOk T s) : (s.entry.toShared n).holders ⊆ {n} := by
  obtain ⟨-, -, unlisted, -, -, -⟩ := held.takes takes
  rw [toShared_holders _ ok.entry n (T.valid_of_mem takes.member), unlisted.holders]
  exact Finset.Subset.refl _

/-- The coordinator answers with zeros. -/
theorem answer (entry : GpdEntry) (alone : entry.holders ⊆ {n}) :
    Private n ((taken.setEntry entry).post n (.page 0)) page := by
  obtain ⟨-, rfl, unlisted, pending, left, carried⟩ := held.takes takes
  constructor
  · exact left.of rfl (fun _ _ => rfl) (fun _ _ => rfl) (fun _ _ => rfl) (fun _ _ => rfl)
      (fun m other => by simp [other])
  · refine .answered alone ?_ ?_ ⟨carried.queued, carried.up, by simp [carried.down]⟩
    · rw [post_mapping, setEntry_mapping, takes.mapping]
      exact unlisted.mapping
    · rw [post_status, setEntry_status, takes.status]
      exact pending

end Requests

/-- A node takes in the zeros that it waits for. -/
theorem installed {v : PageState Page} (left : v.LeftTo n) (holders : v.entry.holders ⊆ {n})
    (carried : v.Carried n [] [] []) : Private n (v.install n 0) 0 where
  left := left.of rfl (fun _ other => Function.update_of_ne other _ _)
    (fun _ other => Function.update_of_ne other _ _) (fun _ _ => rfl) (fun _ _ => rfl)
    (fun _ _ => rfl)
  stage := .resident 0 holders (Function.update_self _ _ _) (Function.update_self _ _ _)
    ⟨carried.queued, carried.up, carried.down⟩

/-- Who is registered with the coordinator does not matter. -/
theorem register (held : s.Private n page) (joined : Finset Nat) :
    Private n { s with joined := joined } page where
  left := held.left.of rfl (fun _ _ => rfl) (fun _ _ => rfl) (fun _ _ => rfl) (fun _ _ => rfl)
    (fun _ _ => rfl)
  stage := by
    have same {queued : List Bool} {up down : List (Msg Page)} (carried : s.Carried n queued up down) :
        ({ s with joined := joined } : PageState Page).Carried n queued up down := { carried with }
    cases held.stage with
    | untouched unlisted status carried => exact .untouched { unlisted with } status (same carried)
    | queued isWrite unlisted status carried =>
      exact .queued isWrite { unlisted with } status (same carried)
    | asked isWrite unlisted status carried =>
      exact .asked isWrite { unlisted with } status (same carried)
    | answered holders mapping status carried =>
      exact .answered holders mapping status (same carried)
    | resident _ holders mapping status carried =>
      exact .resident page holders mapping status (same carried)

/-- Only a page that its node has can be stored to. -/
theorem store (held : s.Private n page) (writable : (s.mapping n).isWritable = true)
    (contents : Page) : (s.setMapping n (.readWrite contents)).Private n contents where
  left := held.left.of rfl (fun _ _ => rfl) (fun _ other => Function.update_of_ne other _ _)
    (fun _ _ => rfl) (fun _ _ => rfl) (fun _ _ => rfl)
  stage := by
    cases held.stage with
    | untouched unlisted | queued _ unlisted | asked _ unlisted =>
      rw [unlisted.mapping] at writable
      cases writable
    | answered _ mapping =>
      rw [mapping] at writable
      cases writable
    | resident _ holders _ status carried =>
      exact .resident contents holders (Function.update_self _ _ _) status
        ⟨carried.queued, carried.up, carried.down⟩

/-- A page whose status is `PAGE_EMPTY` has not been asked for. -/
theorem untouched (held : s.Private n page) (empty : s.status n = .empty) :
    page = 0 ∧ s.Unlisted n ∧ s.Carried n [] [] [] := by
  cases held.stage with
  | untouched unlisted _ carried => exact ⟨rfl, unlisted, carried⟩
  | queued _ _ status | asked _ _ status | answered _ _ status | resident _ _ _ status =>
    cases status.symm.trans empty

/-- The fault of the page is queued. -/
theorem enqueue (held : s.Private n page) (empty : s.status n = .empty) (isWrite : Bool) :
    Private n
      { s.setStatus n (Node.faultStatus (s.status n) isWrite) with
        queued := Function.update s.queued n (s.queued n ++ [isWrite]) } page := by
  obtain ⟨rfl, unlisted, carried⟩ := held.untouched empty
  constructor
  · exact held.left.of rfl (fun _ other => Function.update_of_ne other _ _) (fun _ _ => rfl)
      (fun _ other => Function.update_of_ne other _ _) (fun _ _ => rfl) (fun _ _ => rfl)
  · refine .queued isWrite ⟨unlisted.entry, unlisted.mapping⟩ ?_ ⟨?_, carried.up, carried.down⟩
    · simp [empty, Node.faultStatus]
    · simp [carried.queued]

/-- The fault of the page finds the queue full, and is forgotten. -/
theorem overflow (held : s.Private n page) (empty : s.status n = .empty) :
    (s.setStatus n .empty).Private n page := by
  have same : s.setStatus n .empty = s := by
    rw [setStatus, ← empty, Function.update_eq_self]
  rw [same]
  exact held

/-- A worker's engine sends the request to the coordinator. -/
theorem forward (held : s.Private n page) {rest : List Bool} (head : s.queued n = isWrite :: rest) :
    Private n
      { s with
        queued := Function.update s.queued n rest
        up := Function.update s.up n (s.up n ++ [.request isWrite]) } page := by
  obtain ⟨-, rfl, rfl, unlisted, pending, carried⟩ := held.queue_head head
  constructor
  · exact held.left.of rfl (fun _ _ => rfl) (fun _ _ => rfl)
      (fun _ other => Function.update_of_ne other _ _)
      (fun _ other => Function.update_of_ne other _ _) (fun _ _ => rfl)
  · refine .asked isWrite ⟨unlisted.entry, unlisted.mapping⟩ pending ⟨?_, ?_, carried.down⟩
    · exact Function.update_self _ _ _
    · simp [carried.up]

/-- A worker's engine takes in the zeros. -/
theorem receive (held : s.Private n page) {contents : Page} {rest : List (Msg Page)}
    (head : s.down n = .page contents :: rest) :
    Private n ({ s with down := Function.update s.down n rest }.accept n contents) page := by
  obtain ⟨-, rfl, rfl, zeros, holders, pending, carried⟩ := held.down_head head
  cases zeros
  have accepts : ({ s with down := Function.update s.down n [] } : PageState Page).accept n 0 =
      ({ s with down := Function.update s.down n [] } : PageState Page).install n 0 := by
    unfold accept
    rw [show ({ s with down := Function.update s.down n [] } : PageState Page).status n = .pending
      from pending]
  rw [accepts]
  apply installed
  · exact held.left.of rfl (fun _ _ => rfl) (fun _ _ => rfl) (fun _ _ => rfl) (fun _ _ => rfl)
      (fun _ other => Function.update_of_ne other _ _)
  · exact holders
  · exact ⟨carried.queued, carried.up, Function.update_self _ _ _⟩

/-- A move keeps the page with its node. A page that has not been faulted on stays so until the
fault handler hears of it. -/
theorem move {label : PageLabel Page} (ok : PageOk T s) (held : s.Private n page)
    (touched : s.TouchedBy n label) (moved : Move T s label s') :
    s'.Private n (label.leaves page) ∧
      (s.status n = .empty → s'.status n = .empty ∨ ∃ isWrite, label = .enqueue n isWrite) := by
  have waits (pending : s.status n = .pending) : s.status n = .empty →
      s'.status n = .empty ∨ ∃ isWrite, label = .enqueue n isWrite :=
    fun empty => nomatch pending.symm.trans empty
  cases moved with
  | join => exact ⟨held.register _, Or.inl⟩
  | store m contents member writable =>
    cases touched
    exact ⟨held.store writable contents, Or.inl⟩
  | enqueue m isWrite =>
    obtain ⟨rfl, empty⟩ := touched
    exact ⟨held.enqueue empty isWrite, fun _ => Or.inr ⟨isWrite, rfl⟩⟩
  | overflow m =>
    obtain ⟨rfl, empty⟩ := touched
    exact ⟨held.overflow empty, fun _ => Or.inl (Function.update_self _ _ _)⟩
  | forward w isWrite rest worker head =>
    obtain ⟨rfl, -, -, -, pending, -⟩ := held.queue_head head
    exact ⟨held.forward head, waits pending⟩
  | receivePage w contents rest worker head =>
    obtain ⟨rfl, -, -, -, -, pending, -⟩ := held.down_head head
    exact ⟨held.receive head, waits pending⟩
  | receiveFetch _ _ _ _ head | receiveInvalidate _ _ _ head => cases (held.down_head head).2.2.2.1
  | readPresent taken takes present | upgrade taken takes present
  | upgradeWait taken takes present =>
    -- the coordinator would have to have the page
    obtain ⟨rfl, -⟩ := held.takes takes
    exact absurd present (held.absent takes).2
  | fetch r isWrite fd taken takes absent owned =>
    obtain ⟨rfl, -⟩ := held.takes takes
    exact absurd owned (held.unowned takes ok).1
  | zeroLocal isWrite taken takes =>
    obtain ⟨rfl, rfl, -, pending, left, carried⟩ := held.takes takes
    refine ⟨installed (left.of rfl (fun _ _ => rfl) (fun _ _ => rfl) (fun _ _ => rfl)
      (fun _ _ => rfl) (fun _ _ => rfl)) ?_ ⟨carried.queued, carried.up, carried.down⟩, waits pending⟩
    cases isWrite with
    | false => exact held.enters takes ok
    | true => rw [setEntry_entry, if_pos rfl, ownedBy_holders]
  | zeroRead r taken takes =>
    obtain ⟨rfl, -, -, pending, -, -⟩ := held.takes takes
    exact ⟨held.answer takes _ (held.enters takes ok), waits pending⟩
  | serveRead r contents taken takes worker valid =>
    obtain ⟨rfl, -⟩ := held.takes takes
    exact absurd valid (held.absent takes).1
  | serveWrite r contents taken takes worker source =>
    obtain ⟨rfl, rfl, unlisted, pending, -, -⟩ := held.takes takes
    -- the coordinator has no copy to give up, and the contents are zeros
    have keeps : ¬ s.GivesUp T r := by
      rintro (valid | listed)
      · exact (held.absent takes).1 valid
      · rw [unlisted.holders] at listed
        cases listed
    rcases source with ⟨valid, -⟩ | ⟨-, -, rfl⟩
    · rw [takes.status] at valid
      exact absurd valid (held.absent takes).1
    · refine ⟨?_, waits pending⟩
      rw [dropIf, if_neg keeps]
      exact held.answer takes _ (by rw [ownedBy_holders])
  | serveWriteWait r contents fd taken takes worker source others =>
    obtain ⟨rfl, -⟩ := held.takes takes
    exact absurd (held.unowned takes ok).2 others
  -- no transaction was ever opened, so there is nothing to reply to and nothing to acknowledge
  | unsolicited _ _ _ _ head | ackIgnored _ _ _ head | ackCounted _ _ _ head | ackLift _ _ _ head
  | ackGrant _ _ _ head =>
    obtain ⟨isWrite, request⟩ := held.up_request head
    cases request
  | replyRead _ _ _ _ _ live | replyWrite _ _ _ _ _ live | replyWriteWait _ _ _ _ _ live =>
    exact absurd held.left.requester live

end Private

end PageState

/-! ### Programs that share no page -/

namespace Cluster

/-- A fault of node `n` on the page is under way. -/
def Faulting (s : Cluster Page) (n p : Nat) : Prop :=
  (∃ fault ∈ (s.node n).uffdMessages, fault.pageIndex = p) ∨
    (s.node n).pageTable p = .pending ∨ (s.node n).pageTable p = .writePending

instance (s : Cluster Page) (n p : Nat) : Decidable (s.Faulting n p) :=
  inferInstanceAs (Decidable (_ ∨ _))

/-- The programs leave page `p` to one node, whose threads touch it one at a time: while one waits for
its fault no other one faults. Nothing is evicted. -/
def Partitioned (user p : Nat) (s : Cluster Page) : Event Page → Prop
  | .load n q => q = p → n = user ∧ (((s.node n).mapping p).isMapped = true ∨ ¬ s.Faulting n p)
  | .store n q _ =>
    q = p → n = user ∧ (((s.node n).mapping p).isWritable = true ∨ ¬ s.Faulting n p)
  | .evict _ => False
  | .fault _ | .drain _ | .toCoordinator _ | .toWorker _ => True

instance (user p : Nat) (s : Cluster Page) (e : Event Page) : Decidable (s.Partitioned user p e) :=
  match e with
  | .load _ _ | .store _ _ _ => inferInstanceAs (Decidable (_ → _))
  | .evict _ => isFalse id
  | .fault _ | .drain _ | .toCoordinator _ | .toWorker _ => isTrue trivial

/-- Plain memory after the same access: a store that goes through is a store to it. -/
def stored (s : Cluster Page) (memory : Nat → Page) : Event Page → Nat → Page
  | .store n p contents =>
    if ((s.node n).mapping p).isWritable = true then Function.update memory p contents else memory
  | _ => memory

/-- The cluster and plain memory side by side. -/
def stepBeside [Zero Page] (T : Topology) (x : Cluster Page × (Nat → Page)) (e : Event Page) :
    Option (Cluster Page × (Nat → Page)) :=
  (x.1.step T e).map fun t => (t, x.1.stored x.2 e)

/-- A page left to node `n`: no fault message about it is anywhere else, and there is at most one,
before the page has been asked for. -/
structure KeepsPrivate [Zero Page] (T : Topology) (n p : Nat) (s : Cluster Page) (page : Page) :
    Prop where
  ok : ClusterOk T s
  held : (s.pageState T p).Private n page
  messages : ∀ m, ∀ fault ∈ (s.node m).uffdMessages, fault.pageIndex = p →
    m = n ∧ (s.node n).pageTable p = .empty
  single : (s.node n).uffdMessages.countP (fun fault => fault.pageIndex == p) ≤ 1

namespace KeepsPrivate

variable [Zero Page] {T : Topology} {n p : Nat} {s t : Cluster Page} {page : Page}

theorem initial (T : Topology) (n p : Nat) : KeepsPrivate T n p (Cluster.initial T : Cluster Page) 0 where
  ok := .initial T
  held := by
    rw [pageState_initial]
    exact PageState.initial_private n
  messages _ _ member := absurd member List.not_mem_nil
  single := Nat.zero_le _

/-- What a step makes of the page. -/
theorem page_step (keeps : KeepsPrivate T n p s page) (inRange : p < T.numPages) {e : Event Page}
    (stays : e.isEviction = false) (next : s.step T e = some t)
    (touched : ∀ label ∈ s.pageLabel T p e, (s.pageState T p).TouchedBy n label) :
    (t.pageState T p).Private n ((s.pageLabel T p e).elim page (PageLabel.leaves page)) ∧
      ((s.node n).pageTable p = .empty → (t.node n).pageTable p = .empty ∨
        ∃ isWrite, s.pageLabel T p e = some (.enqueue n isWrite)) := by
  have idle : (s.slot T p).expectedAcks = 0 := keeps.held.left.acks
  have moved := step_moves keeps.ok inRange (fun _ busy => absurd idle busy.ne') stays next
  cases label : s.pageLabel T p e with
  | none =>
    rw [label] at moved
    have same : t.pageState T p = s.pageState T p := moved
    refine ⟨same ▸ keeps.held, fun empty => Or.inl ?_⟩
    exact (congrArg (fun v => v.status n) same).trans empty
  | some label' =>
    rw [label] at moved
    obtain ⟨held, quiet⟩ := keeps.held.move (keeps.ok.pageOk p) (touched label' label) moved
    exact ⟨held, fun empty => (quiet empty).imp_right fun ⟨isWrite, same⟩ => ⟨isWrite, by rw [same]⟩⟩

/-- The engine handles a packet or a queued request. -/
theorem engine (keeps : KeepsPrivate T n p s page) (inRange : p < T.numPages) {e : Event Page}
    (handling : e.isHandling = true) (engine : ∀ m, e ≠ .fault m) (next : s.step T e = some t) :
    KeepsPrivate T n p t page := by
  have handles : ∀ label ∈ s.pageLabel T p e, label.Handles := fun label same =>
    handles_of_label handling engine same
  have others := fun m => uffdMessages_step handling engine next m
  obtain ⟨held, quiet⟩ := keeps.page_step inRange (isEviction_of_handling handling) next
    fun label same => by
      have handled := handles label same
      cases label with
      | store | enqueue | overflow => exact handled.elim
      | join | forward | receive | request | reply | ack => trivial
  refine ⟨keeps.ok.step next, ?_, fun m fault member about => ?_, ?_⟩
  · cases label : s.pageLabel T p e with
    | none => rwa [label] at held
    | some label' =>
      -- what an engine handles stores nothing
      have handled := handles label' label
      rw [label] at held
      cases label' with
      | store | enqueue | overflow => exact handled.elim
      | join | forward | receive | request | reply | ack => exact held
  · rw [others m] at member
    obtain ⟨own, empty⟩ := keeps.messages m fault member about
    refine ⟨own, (quiet empty).resolve_right ?_⟩
    rintro ⟨isWrite, queued⟩
    exact handles _ queued
  · rw [others n]
    exact keeps.single

/-- The fault handler takes a message. -/
theorem fault (keeps : KeepsPrivate T n p s page) (inRange : p < T.numPages) {m : Nat}
    (next : s.step T (.fault m) = some t) : KeepsPrivate T n p t page := by
  obtain ⟨-, fault, rest, waiting, rfl⟩ := Cluster.faultStep_cases next
  have head : fault ∈ (s.node m).uffdMessages := waiting ▸ List.mem_cons_self
  -- the label of the step: the message is about the page, and its node's handler marks the page
  have labels : ∀ label ∈ s.pageLabel T p (.fault m), fault.pageIndex = p ∧
      (label = .overflow m ∨ label = .enqueue m fault.isWrite) := by
    intro label same
    simp only [Cluster.pageLabel, waiting, List.head?_cons, Option.bind_some] at same
    split at same
    · cases same
    next own =>
      refine ⟨not_not.mp fun other => own (Or.inl other), ?_⟩
      split at same
      · exact Or.inl (Option.mem_some.mp same).symm
      · exact Or.inr (Option.mem_some.mp same).symm
  obtain ⟨held, quiet⟩ := keeps.page_step inRange rfl next fun label same => by
    obtain ⟨about, marked⟩ := labels label same
    obtain ⟨rfl, empty⟩ := keeps.messages m fault head about
    rcases marked with rfl | rfl <;> exact ⟨rfl, empty⟩
  have left : ∀ k, ((s.settle T m ({ s.node m with uffdMessages := rest }.handleFault fault)).node
      k).uffdMessages = if k = m then rest else (s.node k).uffdMessages := by
    intro k
    by_cases own : k = m
    · subst own
      simp [Cluster.settle, (Node.handleFault_rest { s.node k with uffdMessages := rest } fault).1]
    · simp [Cluster.settle, own]
  have fewer : (∀ k, ∀ other ∈ ((s.settle T m ({ s.node m with
      uffdMessages := rest }.handleFault fault)).node k).uffdMessages,
        other ∈ (s.node k).uffdMessages ∧ (k = m → other ∈ rest)) := by
    intro k other member
    rw [left k] at member
    split at member
    next own => exact ⟨own ▸ waiting ▸ List.mem_cons_of_mem _ member, fun _ => member⟩
    next away => exact ⟨member, fun own => absurd own away⟩
  refine ⟨keeps.ok.step next, ?_, fun k other member about => ?_, ?_⟩
  · cases label : s.pageLabel T p (.fault m) with
    | none => rwa [label] at held
    | some label' =>
      rw [label] at held
      rcases (labels label' label).2 with rfl | rfl <;> exact held
  · obtain ⟨before, inRest⟩ := fewer k other member
    obtain ⟨rfl, empty⟩ := keeps.messages k other before about
    refine ⟨rfl, (quiet empty).resolve_right ?_⟩
    rintro ⟨isWrite, queued⟩
    -- then the message just taken was the one about the page, and this would be a second
    obtain ⟨own, marked⟩ := labels _ queued
    have same : k = m := by
      rcases marked with overflow | enqueue
      · cases overflow
      · cases enqueue
        rfl
    have single := keeps.single
    rw [same, waiting, List.countP_cons_of_pos (by simpa using own)] at single
    have another : 0 < rest.countP fun fault => fault.pageIndex == p :=
      List.countP_pos_iff.mpr ⟨other, inRest same, by simpa using about⟩
    omega
  · rw [left n]
    split
    next own =>
      have single := keeps.single
      rw [own, waiting] at single
      exact (List.sublist_cons_self fault rest).countP_le.trans single
    · exact keeps.single

/-- A page that its node does not have, and for which no fault is under way. -/
theorem empty (keeps : KeepsPrivate T n p s page) (missing : ((s.node n).mapping p).isWritable = false)
    (calm : ¬ s.Faulting n p) : (s.node n).pageTable p = .empty := by
  have waiting : (s.node n).pageTable p ≠ .pending := fun pending => calm (Or.inr (Or.inl pending))
  cases keeps.held.stage with
  | untouched _ status => exact status
  | queued _ _ status | asked _ _ status | answered _ _ status => exact absurd status waiting
  | resident _ _ mapping =>
    have writable : ((s.node n).mapping p).isWritable = true := by
      rw [show (s.node n).mapping p = .readWrite page from mapping]
      rfl
    cases writable.symm.trans missing

/-- A thread faults on the page while no other one waits for it, or on another page. -/
theorem raise (keeps : KeepsPrivate T n p s page) {m q : Nat} (isWrite : Bool)
    (inside : q < T.numPages) (missing : q = p → m = n ∧ ((s.node n).mapping p).isWritable = false ∧
      ¬ s.Faulting n p) : KeepsPrivate T n p (s.raise m ⟨q, isWrite⟩) page where
  ok := keeps.ok.raise isWrite inside
  held := by
    rw [pageState_raise]
    exact keeps.held
  messages k fault member about := by
    have status : ((s.raise m ⟨q, isWrite⟩).node n).pageTable p = (s.node n).pageTable p := by
      by_cases own : n = m <;> simp [Cluster.raise, own]
    rw [status]
    by_cases new : fault ∈ (s.node k).uffdMessages
    · exact keeps.messages k fault new about
    · by_cases own : k = m
      · subst own
        simp only [Cluster.raise, Function.update_self, List.mem_append, List.mem_singleton, new,
          false_or] at member
        subst member
        obtain ⟨rfl, readOnly, calm⟩ := missing about
        exact ⟨rfl, keeps.empty readOnly calm⟩
      · simp [Cluster.raise, own, new] at member
  single := by
    by_cases own : n = m
    · subst own
      simp only [Cluster.raise, Function.update_self, List.countP_append]
      by_cases about : q = p
      · have none : (s.node n).uffdMessages.countP (fun fault => fault.pageIndex == p) = 0 := by
          rw [List.countP_eq_zero]
          intro fault member same
          exact (missing about).2.2 (Or.inl ⟨fault, member, by simpa using same⟩)
        rw [none, Nat.zero_add]
        exact List.countP_le_length
      · simpa [about] using keeps.single
    · simpa [Cluster.raise, own] using keeps.single

/-- A program touches a page. -/
theorem access (memory : Nat → Page) (keeps : KeepsPrivate T n p s (memory p))
    (inRange : p < T.numPages) {e : Event Page} (program : e.isHandling = false)
    (allowed : s.Partitioned n p e) (next : s.step T e = some t) :
    KeepsPrivate T n p t (s.stored memory e p) := by
  cases e with
  | fault | drain | toCoordinator | toWorker => cases program
  | evict => exact allowed.elim
  | load m q =>
    obtain ⟨-, inside, ⟨-, rfl⟩ | ⟨unmapped, rfl⟩⟩ := Cluster.loadStep_cases next
    · exact keeps
    · -- a load faults only on an unmapped page, which is then not writable either
      refine keeps.raise false inside fun about => ?_
      subst about
      obtain ⟨rfl, mapped | calm⟩ := allowed rfl
      · cases mapped.symm.trans unmapped
      · refine ⟨rfl, Bool.eq_false_iff.mpr fun writable => ?_, calm⟩
        exact Bool.eq_false_iff.mp unmapped (Mapping.isMapped_of_isWritable writable)
  | store m q contents =>
    obtain ⟨-, inside, ⟨writable, rfl⟩ | ⟨readOnly, rfl⟩⟩ := Cluster.storeStep_cases next
    · have others : ∀ k, ((s.settle T m ((s.node m).setMapping q (.readWrite contents))).node
          k).uffdMessages = (s.node k).uffdMessages := uffdMessages_settle rfl
      obtain ⟨held, quiet⟩ := keeps.page_step inRange rfl next fun label same => by
        simp only [Cluster.pageLabel] at same
        split at same
        next own =>
          cases same
          exact (allowed own.1).1
        · cases same
      refine ⟨keeps.ok.step next, ?_, fun k fault member about => ?_, ?_⟩
      · simp only [Cluster.stored, writable, if_true]
        by_cases about : q = p
        · subst about
          simpa [Cluster.pageLabel, writable, PageLabel.leaves] using held
        · simpa [Cluster.pageLabel, about, Function.update_of_ne (Ne.symm about)] using held
      · rw [others k] at member
        obtain ⟨own, empty⟩ := keeps.messages k fault member about
        refine ⟨own, (quiet empty).resolve_right ?_⟩
        rintro ⟨isWrite, queued⟩
        simp only [Cluster.pageLabel] at queued
        split at queued <;> cases queued
      · rw [others]
        exact keeps.single
    · have same : s.stored memory (.store m q contents) = memory := by
        simp [Cluster.stored, readOnly]
      rw [same]
      refine keeps.raise true inside fun about => ?_
      subst about
      obtain ⟨rfl, writable | calm⟩ := allowed rfl
      · cases writable.symm.trans readOnly
      · exact ⟨rfl, readOnly, calm⟩

theorem step (memory : Nat → Page) (keeps : KeepsPrivate T n p s (memory p))
    (inRange : p < T.numPages) {e : Event Page} (allowed : s.Partitioned n p e)
    (next : s.step T e = some t) : KeepsPrivate T n p t (s.stored memory e p) := by
  cases e with
  | load | store | evict => exact keeps.access memory inRange rfl allowed next
  | fault m => exact keeps.fault inRange next
  | drain | toCoordinator | toWorker => exact keeps.engine inRange rfl (by simp) next

end KeepsPrivate

end Cluster

/-- A page that the programs leave to one node, with one thread at a time on it, is plain memory. Over
every order of faults, packets and queued requests, and whatever the programs do with other pages, the
page is mapped at its own node only, with what was last stored to it, or is not mapped yet and still
all zeros. The directory names nobody else. -/
theorem partitioned_memory [Zero Page] {T : Topology} {user p : Nat} {s : Cluster Page}
    {memory : Nat → Page} (run : Runs.Run (Cluster.stepBeside T)
      (fun x e => x.1.Partitioned user p e) (Cluster.initial T, fun _ => 0) (s, memory))
    (inRange : p < T.numPages) :
    ((s.node user).mapping p = .unmapped ∧ memory p = 0 ∨
        (s.node user).mapping p = .readWrite (memory p)) ∧
      (∀ n, n ≠ user → (s.node n).mapping p = .unmapped) ∧
      (s.entry T p).holders ⊆ {user} := by
  have keeps : Cluster.KeepsPrivate T user p s (memory p) := by
    refine run.invariant (fun x => Cluster.KeepsPrivate T user p x.1 (x.2 p)) (.initial T user p) ?_
    rintro ⟨a, before⟩ e ⟨b, after⟩ keeps allowed next
    obtain ⟨b', taken, same⟩ := Option.map_eq_some_iff.mp next
    cases same
    exact keeps.step before inRange allowed taken
  exact ⟨keeps.held.contents, keeps.held.left.mapping, keeps.held.holders⟩

/-- Worker 2 stores to page 0 while worker 3 stores to page 1, which worker 2 reads as well. -/
def separateStores : List (Event PageBytes) :=
  [.toCoordinator 2, .toCoordinator 3] ++ writeMiss 2 0 (fun _ => 7) ++ writeMiss 3 1 (fun _ => 8) ++
    [.toCoordinator 3, .toCoordinator 2, .toWorker 2, .toWorker 3, .store 2 0 fun _ => 7,
      .store 3 1 fun _ => 8] ++ readMiss 2 1

theorem partitioned_memory_separate : ∃ s : Cluster PageBytes,
    (∃ page, (s.node 2).mapping 0 = .readWrite page ∧ page 0 = 7) ∧
      (s.node 3).mapping 0 = .unmapped := by
  obtain ⟨⟨s, memory⟩, run, seven⟩ := Runs.exists_run (Cluster.stepBeside twoWorkers)
    (fun x e => x.1.Partitioned 2 0 e) (Cluster.initial twoWorkers, fun _ => 0)
    separateStores (fun x => x.2 0 0 = 7) (by decide +kernel)
  obtain ⟨contents, apart, -⟩ := partitioned_memory run (by decide)
  -- the page is no longer zeros, so it is mapped
  refine ⟨s, ⟨memory 0, contents.resolve_left ?_, seven⟩, apart 3 (by decide)⟩
  rintro ⟨-, zeros⟩
  have zero : memory 0 0 = 0 := congrFun zeros 0
  exact absurd (seven.symm.trans zero) (by decide)

end TeleportVM
