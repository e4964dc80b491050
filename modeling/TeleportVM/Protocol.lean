import TeleportVM.Cluster
import Mathlib.Tactic.Simps.Basic
import Mathlib.Tactic.Tauto

/-!
The coherence protocol of one page: what the cluster does about a page, with every
message and table that concerns other pages left out. `Move` says once what each kind
of step can do; the invariants are proved of it.
-/
namespace TeleportVM

/-- A message about the page. `page` is `MSG_SEND_PAGE`, in either direction. -/
inductive Msg (Page : Type) where
  | request (isWrite : Bool)
  | page (contents : Page)
  | fetch
  | invalidate
  | ack

structure PageState (Page : Type) where
  entry : GpdEntry
  slot : CoordPending Page
  joined : Finset Nat
  status : Nat → PageStatus
  mapping : Nat → Mapping Page
  queued : Nat → List Bool
  up : Nat → List (Msg Page)
  down : Nat → List (Msg Page)

/-- Which handler runs, and for whom. -/
inductive PageLabel (Page : Type) where
  | join (w : Nat)
  | store (n : Nat) (contents : Page)
  | enqueue (n : Nat) (isWrite : Bool)
  | overflow (n : Nat)
  | forward (w : Nat)
  | receive (w : Nat)
  | request (r : Nat) (isWrite : Bool)
  | reply (o : Nat)
  | ack (w : Nat)

variable {Page : Type}

namespace PageState

/-! ### Operations -/

@[simps -fullyApplied]
def setStatus (s : PageState Page) (n : Nat) (status : PageStatus) : PageState Page :=
  { s with status := Function.update s.status n status }

@[simps -fullyApplied]
def setMapping (s : PageState Page) (n : Nat) (m : Mapping Page) : PageState Page :=
  { s with mapping := Function.update s.mapping n m }

@[simps! -fullyApplied]
def install (s : PageState Page) (n : Nat) (page : Page) : PageState Page :=
  (s.setMapping n (.readWrite page)).setStatus n .valid

@[simps! -fullyApplied]
def lift (s : PageState Page) (n : Nat) : PageState Page :=
  (s.setMapping n (s.mapping n).unprotect).setStatus n .valid

@[simps! -fullyApplied]
def drop (s : PageState Page) (n : Nat) : PageState Page :=
  (s.setMapping n .unmapped).setStatus n .empty

def dropIf (s : PageState Page) (condition : Prop) [Decidable condition] (n : Nat) :
    PageState Page :=
  if condition then s.drop n else s

/-- What a node does with a page that no recorded request asked it to pass on. -/
def accept (s : PageState Page) (n : Nat) (page : Page) : PageState Page :=
  match s.status n with
  | .writePending => s.lift n
  | .pending | .empty => s.install n page
  | .valid => s

@[simps -fullyApplied]
def post (s : PageState Page) (w : Nat) (m : Msg Page) : PageState Page :=
  { s with down := fun v => if v = w then s.down v ++ [m] else s.down v }

@[simps -fullyApplied]
def broadcast (s : PageState Page) (targets : Finset Nat) : PageState Page :=
  { s with down := fun v => if v ∈ targets then s.down v ++ [.invalidate] else s.down v }

/-- Give a page to the requester: the coordinator installs its own. -/
def grant (T : Topology) (s : PageState Page) (r : Nat) (page : Page) : PageState Page :=
  if r = T.coordinator then s.install r page else s.post r (.page page)

@[simps -fullyApplied]
def setEntry (s : PageState Page) (e : GpdEntry) : PageState Page := { s with entry := e }

@[simps -fullyApplied]
def setSlot (s : PageState Page) (slot : CoordPending Page) : PageState Page :=
  { s with slot := slot }

/-- The slot after its transaction is complete. -/
@[simps! -fullyApplied]
def closeSlot (s : PageState Page) : PageState Page :=
  s.setSlot { s.slot with requesterNodeId := 0, expectedAcks := 0 }

section Fields

variable (T : Topology) (s : PageState Page) (condition : Prop) [Decidable condition] (n : Nat)
  (page : Page)

@[simp] theorem dropIf_entry : (s.dropIf condition n).entry = s.entry := by
  unfold dropIf; split <;> rfl

@[simp] theorem dropIf_slot : (s.dropIf condition n).slot = s.slot := by
  unfold dropIf; split <;> rfl

@[simp] theorem dropIf_joined : (s.dropIf condition n).joined = s.joined := by
  unfold dropIf; split <;> rfl

@[simp] theorem dropIf_queued : (s.dropIf condition n).queued = s.queued := by
  unfold dropIf; split <;> rfl

@[simp] theorem dropIf_up : (s.dropIf condition n).up = s.up := by
  unfold dropIf; split <;> rfl

@[simp] theorem dropIf_down : (s.dropIf condition n).down = s.down := by
  unfold dropIf; split <;> rfl

@[simp] theorem accept_entry : (s.accept n page).entry = s.entry := by
  unfold accept; split <;> rfl

@[simp] theorem accept_slot : (s.accept n page).slot = s.slot := by
  unfold accept; split <;> rfl

@[simp] theorem accept_joined : (s.accept n page).joined = s.joined := by
  unfold accept; split <;> rfl

@[simp] theorem accept_queued : (s.accept n page).queued = s.queued := by
  unfold accept; split <;> rfl

@[simp] theorem accept_up : (s.accept n page).up = s.up := by
  unfold accept; split <;> rfl

@[simp] theorem accept_down : (s.accept n page).down = s.down := by
  unfold accept; split <;> rfl

@[simp] theorem grant_entry : (s.grant T n page).entry = s.entry := by
  unfold grant; split <;> rfl

@[simp] theorem grant_slot : (s.grant T n page).slot = s.slot := by
  unfold grant; split <;> rfl

@[simp] theorem grant_joined : (s.grant T n page).joined = s.joined := by
  unfold grant; split <;> rfl

@[simp] theorem grant_queued : (s.grant T n page).queued = s.queued := by
  unfold grant; split <;> rfl

@[simp] theorem grant_up : (s.grant T n page).up = s.up := by
  unfold grant; split <;> rfl

theorem dropIf_status : (s.dropIf condition n).status =
    if condition then Function.update s.status n .empty else s.status := by
  unfold dropIf; split <;> rfl

theorem dropIf_mapping : (s.dropIf condition n).mapping =
    if condition then Function.update s.mapping n .unmapped else s.mapping := by
  unfold dropIf; split <;> rfl

/-- An accepted page leaves the page valid, whatever its status was. -/
@[simp] theorem accept_status : (s.accept n page).status = Function.update s.status n .valid := by
  unfold accept
  split
  · rfl
  · rfl
  · rfl
  next valid => rw [← valid, Function.update_eq_self]

theorem grant_status : (s.grant T n page).status =
    if n = T.coordinator then Function.update s.status n .valid else s.status := by
  unfold grant; split <;> rfl

theorem mem_post {v : Nat} {m sent : Msg Page} (found : m ∈ s.down v) :
    m ∈ (s.post n sent).down v := by
  simp only [post_down]
  split
  · exact List.mem_append_left _ found
  · exact found

theorem post_mem (sent : Msg Page) : sent ∈ (s.post n sent).down n := by simp

theorem mem_broadcast {v : Nat} {m : Msg Page} (targets : Finset Nat) (found : m ∈ s.down v) :
    m ∈ (s.broadcast targets).down v := by
  simp only [broadcast_down]
  split
  · exact List.mem_append_left _ found
  · exact found

theorem mem_grant {v : Nat} {m : Msg Page} (found : m ∈ s.down v) :
    m ∈ (s.grant T n page).down v := by
  unfold grant
  split
  · exact found
  · exact mem_post s n found

theorem grant_mem (away : n ≠ T.coordinator) : Msg.page page ∈ (s.grant T n page).down n := by
  unfold grant
  rw [if_neg away]
  exact post_mem s n _

end Fields

/-! ### Conditions -/

/-- The owner named by the entry can be asked for the page. -/
def Fetchable (s : PageState Page) (r : Nat) : Prop :=
  s.entry.ownerNodeId ∈ s.joined ∧ s.entry.ownerNodeId ≠ r

instance (s : PageState Page) (r : Nat) : Decidable (s.Fetchable r) :=
  inferInstanceAs (Decidable (_ ∧ _))

/-- The coordinator finds its own copy present: a queued request counts `PAGE_WRITE_PENDING`
as present, a packet does not. -/
def Present (T : Topology) (s : PageState Page) (r : Nat) : Prop :=
  s.status T.coordinator = .valid ∨
    (r = T.coordinator ∧ s.status T.coordinator = .writePending)

instance (T : Topology) (s : PageState Page) (r : Nat) : Decidable (s.Present T r) :=
  inferInstanceAs (Decidable (_ ∨ _))

/-- The nodes that a write by `r` sends `MSG_INVALIDATE` to. -/
def targets (s : PageState Page) (r : Nat) : Finset Nat := s.entry.holders.erase r ∩ s.joined

/-- The coordinator takes a request off its own queue or off a link. -/
inductive Takes (T : Topology) (s : PageState Page) : Nat → Bool → PageState Page → Prop
  | own (isWrite : Bool) (rest : List Bool) (head : s.queued T.coordinator = isWrite :: rest) :
      Takes T s T.coordinator isWrite
        { s with queued := Function.update s.queued T.coordinator rest }
  | remote (w : Nat) (isWrite : Bool) (rest : List (Msg Page)) (worker : w ∈ T.workers)
      (head : s.up w = .request isWrite :: rest) :
      Takes T s w isWrite
        { s with up := Function.update s.up w rest, joined := insert w s.joined }

namespace Takes

variable {T : Topology} {s taken : PageState Page} {r : Nat} {isWrite : Bool}
  (takes : Takes T s r isWrite taken)
include takes

theorem member : r ∈ T.nodes := by
  cases takes with
  | own => exact Finset.mem_insert_self _ _
  | remote _ _ rest worker head => exact Finset.mem_insert_of_mem worker

theorem entry : taken.entry = s.entry := by cases takes <;> rfl

theorem slot : taken.slot = s.slot := by cases takes <;> rfl

theorem status : taken.status = s.status := by cases takes <;> rfl

theorem mapping : taken.mapping = s.mapping := by cases takes <;> rfl

theorem down : taken.down = s.down := by cases takes <;> rfl

theorem present (r' : Nat) : taken.Present T r' ↔ s.Present T r' := by
  rw [Present, takes.status, Present]

theorem other {w : Nat} (apart : w ≠ r) :
    taken.queued w = s.queued w ∧ taken.up w = s.up w := by
  cases takes with
  | own => exact ⟨Function.update_of_ne apart _ _, rfl⟩
  | remote => exact ⟨rfl, Function.update_of_ne apart _ _⟩

omit takes in
/-- A request of the coordinator comes off its own queue. -/
theorem own_queue (takes : Takes T s T.coordinator isWrite taken) :
    ∃ rest, s.queued T.coordinator = isWrite :: rest ∧ taken.queued T.coordinator = rest := by
  generalize same : T.coordinator = c at takes
  cases takes with
  | own _ rest head => exact ⟨rest, head, Function.update_self _ _ _⟩
  | remote _ _ rest worker => exact absurd (same ▸ worker) T.coordinator_not_worker

/-- Whether the owner can be asked, and who is invalidated, do not depend on the requester
being registered. -/
theorem fetchable : taken.Fetchable r ↔ s.Fetchable r := by
  cases takes with
  | own => exact Iff.rfl
  | remote _ _ rest worker head =>
    simp only [Fetchable, Finset.mem_insert]
    tauto

theorem targets : taken.targets r = s.targets r := by
  cases takes with
  | own => rfl
  | remote _ _ rest worker head =>
    ext m
    simp only [PageState.targets, Finset.mem_inter, Finset.mem_erase, Finset.mem_insert]
    tauto

end Takes

/-- Where the coordinator gets the contents for a remote write: its own valid copy, or a
page of zeros when it has none and there is no owner to ask. -/
def Source [Zero Page] (T : Topology) (s : PageState Page) (r : Nat) (page : Page) : Prop :=
  (s.status T.coordinator = .valid ∧ (s.mapping T.coordinator).contents = some page) ∨
    (s.status T.coordinator ≠ .valid ∧ ¬ s.Fetchable r ∧ page = 0)

/-- The coordinator gives up its own copy when it serves from it or is a listed holder. -/
def GivesUp (T : Topology) (s : PageState Page) (r : Nat) : Prop :=
  s.status T.coordinator = .valid ∨ T.coordinator ∈ s.entry.holders.erase r

instance (T : Topology) (s : PageState Page) (r : Nat) : Decidable (s.GivesUp T r) :=
  inferInstanceAs (Decidable (_ ∨ _))

variable [Zero Page]

/-! ### Moves -/

inductive Move (T : Topology) (s : PageState Page) : PageLabel Page → PageState Page → Prop
  | join (w : Nat) (worker : w ∈ T.workers) :
      Move T s (.join w) { s with joined := insert w s.joined }
  | store (n : Nat) (page : Page) (member : n ∈ T.nodes)
      (writable : (s.mapping n).isWritable = true) :
      Move T s (.store n page) (s.setMapping n (.readWrite page))
  | enqueue (n : Nat) (isWrite : Bool) (member : n ∈ T.nodes)
      (needed : ¬ (s.status n = .valid ∧ isWrite = false)) :
      Move T s (.enqueue n isWrite)
        { s.setStatus n (Node.faultStatus (s.status n) isWrite) with
          queued := Function.update s.queued n (s.queued n ++ [isWrite]) }
  | overflow (n : Nat) (member : n ∈ T.nodes) :
      Move T s (.overflow n) (s.setStatus n .empty)
  | forward (w : Nat) (isWrite : Bool) (rest : List Bool) (worker : w ∈ T.workers)
      (head : s.queued w = isWrite :: rest) :
      Move T s (.forward w)
        { s with
          queued := Function.update s.queued w rest
          up := Function.update s.up w (s.up w ++ [.request isWrite]) }
  -- a worker and the packets from the coordinator
  | receivePage (w : Nat) (page : Page) (rest : List (Msg Page)) (worker : w ∈ T.workers)
      (head : s.down w = .page page :: rest) :
      Move T s (.receive w)
        ({ s with down := Function.update s.down w rest }.accept w page)
  | receiveFetch (w : Nat) (page : Page) (rest : List (Msg Page)) (worker : w ∈ T.workers)
      (head : s.down w = .fetch :: rest)
      (copied : if s.status w = .valid then (s.mapping w).contents = some page else page = 0) :
      Move T s (.receive w)
        { s with
          down := Function.update s.down w rest
          up := Function.update s.up w (s.up w ++ [.page page]) }
  | receiveInvalidate (w : Nat) (rest : List (Msg Page)) (worker : w ∈ T.workers)
      (head : s.down w = .invalidate :: rest) :
      Move T s (.receive w)
        ({ s with
          down := Function.update s.down w rest
          up := Function.update s.up w (s.up w ++ [Msg.ack]) }.drop w)
  -- the coordinator and a request
  | readPresent (taken : PageState Page) (takes : Takes T s T.coordinator false taken)
      (present : s.Present T T.coordinator) :
      Move T s (.request T.coordinator false) taken
  | upgrade (taken : PageState Page) (takes : Takes T s T.coordinator true taken)
      (present : s.Present T T.coordinator) (alone : s.targets T.coordinator = ∅) :
      Move T s (.request T.coordinator true)
        ((taken.setEntry (.ownedBy T.coordinator)).lift T.coordinator)
  | upgradeWait (taken : PageState Page) (takes : Takes T s T.coordinator true taken)
      (present : s.Present T T.coordinator) (others : s.targets T.coordinator ≠ ∅) :
      Move T s (.request T.coordinator true)
        (((taken.setEntry (.ownedBy T.coordinator)).setSlot
          { s.slot with
            requesterNodeId := T.coordinator
            type := .requestPageWrite
            clientFd := -1
            expectedAcks := (s.targets T.coordinator).card }).broadcast (s.targets T.coordinator))
  | fetch (r : Nat) (isWrite : Bool) (fd : Int) (taken : PageState Page)
      (takes : Takes T s r isWrite taken) (absent : ¬ s.Present T r) (owned : taken.Fetchable r) :
      Move T s (.request r isWrite)
        ((taken.setSlot
          { s.slot with
            requesterNodeId := r
            type := Node.requestType isWrite
            clientFd := fd
            expectedAcks := 0 }).post s.entry.ownerNodeId .fetch)
  | zeroLocal (isWrite : Bool) (taken : PageState Page)
      (takes : Takes T s T.coordinator isWrite taken) (absent : ¬ s.Present T T.coordinator)
      (unowned : ¬ taken.Fetchable T.coordinator) :
      Move T s (.request T.coordinator isWrite)
        ((taken.setEntry
          (if isWrite then .ownedBy T.coordinator else s.entry.toShared T.coordinator)).install
            T.coordinator 0)
  | zeroRead (r : Nat) (taken : PageState Page) (takes : Takes T s r false taken)
      (worker : r ∈ T.workers) (absent : ¬ s.Present T r) (unowned : ¬ taken.Fetchable r) :
      Move T s (.request r false) ((taken.setEntry (s.entry.toShared r)).post r (.page 0))
  | serveRead (r : Nat) (page : Page) (taken : PageState Page) (takes : Takes T s r false taken)
      (worker : r ∈ T.workers) (valid : s.status T.coordinator = .valid)
      (copied : (s.mapping T.coordinator).contents = some page) :
      Move T s (.request r false)
        (((taken.setEntry (s.entry.toShared r)).setMapping T.coordinator
          (if s.entry.ownerNodeId = T.coordinator then (s.mapping T.coordinator).protect
            else s.mapping T.coordinator)).post r (.page page))
  | serveWrite (r : Nat) (page : Page) (taken : PageState Page) (takes : Takes T s r true taken)
      (worker : r ∈ T.workers) (source : taken.Source T r page) (alone : taken.targets r = ∅) :
      Move T s (.request r true)
        (((taken.dropIf (s.GivesUp T r) T.coordinator).setEntry (.ownedBy r)).post r (.page page))
  | serveWriteWait (r : Nat) (page : Page) (fd : Int) (taken : PageState Page)
      (takes : Takes T s r true taken) (worker : r ∈ T.workers) (source : taken.Source T r page)
      (others : taken.targets r ≠ ∅) :
      Move T s (.request r true)
        ((((taken.dropIf (s.GivesUp T r) T.coordinator).setEntry (.ownedBy r)).setSlot
          ⟨r, .requestPageWrite, fd, (taken.targets r).card, page⟩).broadcast (taken.targets r))
  -- the coordinator and a page from a worker
  | unsolicited (o : Nat) (page : Page) (rest : List (Msg Page)) (worker : o ∈ T.workers)
      (head : s.up o = .page page :: rest) (free : s.slot.requesterNodeId = 0) :
      Move T s (.reply o)
        ({ s with up := Function.update s.up o rest }.accept T.coordinator page)
  | replyRead (o : Nat) (page : Page) (rest : List (Msg Page)) (worker : o ∈ T.workers)
      (head : s.up o = .page page :: rest) (live : s.slot.requesterNodeId ≠ 0)
      (read : s.slot.type ≠ .requestPageWrite) :
      Move T s (.reply o)
        ((({ s with up := Function.update s.up o rest }.setEntry
          (s.entry.toShared s.slot.requesterNodeId)).setSlot
            { s.slot with requesterNodeId := 0 }).grant T s.slot.requesterNodeId page)
  | replyWrite (o : Nat) (page : Page) (rest : List (Msg Page)) (worker : o ∈ T.workers)
      (head : s.up o = .page page :: rest) (live : s.slot.requesterNodeId ≠ 0)
      (write : s.slot.type = .requestPageWrite) (alone : s.targets s.slot.requesterNodeId = ∅) :
      Move T s (.reply o)
        (((({ s with up := Function.update s.up o rest }.dropIf
          (T.coordinator ∈ s.entry.holders.erase s.slot.requesterNodeId) T.coordinator).setEntry
            (.ownedBy s.slot.requesterNodeId)).setSlot
              { s.slot with requesterNodeId := 0 }).grant T s.slot.requesterNodeId page)
  | replyWriteWait (o : Nat) (page : Page) (rest : List (Msg Page)) (worker : o ∈ T.workers)
      (head : s.up o = .page page :: rest) (live : s.slot.requesterNodeId ≠ 0)
      (write : s.slot.type = .requestPageWrite) (others : s.targets s.slot.requesterNodeId ≠ ∅) :
      Move T s (.reply o)
        (((({ s with up := Function.update s.up o rest }.dropIf
          (T.coordinator ∈ s.entry.holders.erase s.slot.requesterNodeId) T.coordinator).setEntry
            (.ownedBy s.slot.requesterNodeId)).setSlot
              { s.slot with
                expectedAcks := (s.targets s.slot.requesterNodeId).card
                deferredPayload := page }).broadcast (s.targets s.slot.requesterNodeId))
  -- the coordinator and an acknowledgement
  | ackIgnored (w : Nat) (rest : List (Msg Page)) (worker : w ∈ T.workers)
      (head : s.up w = .ack :: rest) (none : s.slot.expectedAcks = 0) :
      Move T s (.ack w) { s with up := Function.update s.up w rest }
  | ackCounted (w : Nat) (rest : List (Msg Page)) (worker : w ∈ T.workers)
      (head : s.up w = .ack :: rest) (more : 1 < s.slot.expectedAcks) :
      Move T s (.ack w)
        ({ s with up := Function.update s.up w rest }.setSlot
          { s.slot with expectedAcks := s.slot.expectedAcks - 1 })
  | ackLift (w : Nat) (rest : List (Msg Page)) (worker : w ∈ T.workers)
      (head : s.up w = .ack :: rest) (last : s.slot.expectedAcks = 1)
      (own : s.slot.requesterNodeId = T.coordinator)
      (upgrading : s.status T.coordinator = .writePending) :
      Move T s (.ack w)
        ({ s with up := Function.update s.up w rest }.closeSlot.lift T.coordinator)
  | ackGrant (w : Nat) (rest : List (Msg Page)) (worker : w ∈ T.workers)
      (head : s.up w = .ack :: rest) (last : s.slot.expectedAcks = 1)
      (live : s.slot.requesterNodeId ≠ 0)
      (payload : ¬ (s.slot.requesterNodeId = T.coordinator ∧
        s.status T.coordinator = .writePending)) :
      Move T s (.ack w)
        ({ s with up := Function.update s.up w rest }.closeSlot.grant T s.slot.requesterNodeId
          s.slot.deferredPayload)

end PageState

end TeleportVM
