import TeleportVM.PageRefinement
import TeleportVM.SequencerRefinement
import TeleportVM.Lib.Links

/-!
One request handled by the network engine while nothing else happens to the page: the phases it
goes through, whatever the order of the steps, and how it leaves the page.
-/
namespace TeleportVM

open Links (each)

variable {Page : Type}

/-- The request of `r` is answered with the contents of another node, the owner. -/
def GpdEntry.Fetches (e : GpdEntry) (r : Nat) : Prop := e.ownerNodeId ≠ 0 ∧ e.ownerNodeId ≠ r

instance (e : GpdEntry) (r : Nat) : Decidable (e.Fetches r) := inferInstanceAs (Decidable (_ ∧ _))

/-- The copies that the engine has dropped by the time it grants the request. -/
def GpdEntry.dropped (e : GpdEntry) (r : Nat) (isWrite : Bool) : Finset Nat :=
  if isWrite then e.holders.erase r else ∅

theorem GpdEntry.WellFormed.owner_mem {e : GpdEntry} (wf : e.WellFormed)
    (owned : e.ownerNodeId ≠ 0) : e = .ownedBy e.ownerNodeId ∧ e.holders = {e.ownerNodeId} := by
  obtain ⟨state, owner, bitmap⟩ := e
  obtain ⟨-, shape⟩ := wf
  cases state with
  | modified =>
    obtain ⟨-, rfl⟩ := shape
    exact ⟨rfl, rfl⟩
  | shared => exact absurd shape.1 owned
  | invalid => exact absurd shape.1 owned

/-- A step that handles a packet or a queued request. -/
def PageLabel.Handles : PageLabel Page → Prop
  | .store _ _ | .enqueue _ _ | .overflow _ => False
  | _ => True

/-- A delivery to the coordinator from a worker, or to a worker. -/
def PageLabel.Delivers (T : Topology) : PageLabel Page → Prop
  | .join _ | .receive _ | .reply _ | .ack _ => True
  | .request r _ => r ≠ T.coordinator
  | _ => False

def Event.isDelivery : Event Page → Bool
  | .toCoordinator _ | .toWorker _ => true
  | _ => false

theorem Event.notEviction_of_isDelivery {e : Event Page} (delivery : e.isDelivery = true) :
    e.isEviction = false := by
  cases e with
  | toCoordinator | toWorker => rfl
  | load | store | fault | drain | evict => cases delivery

namespace PageState

/-- The page has changed as far as this: the copies of `dropped` are gone, `queues` are the
requests on the nodes' queues, and the links carry one message each. -/
structure Reached (start v : PageState Page) (r : Nat) (entry : GpdEntry) (dropped : Finset Nat)
    (queues : Nat → List Bool) (U : Finset Nat) (up : Msg Page) (D : Finset Nat) (down : Msg Page) :
    Prop where
  entry : v.entry = entry
  own : v.mapping r = start.mapping r
  contents : ∀ n, (v.mapping n).contents = if n ∈ dropped then none else (start.mapping n).contents
  status : ∀ n, v.status n = if n ∈ dropped then .empty else start.status n
  queued : v.queued = queues
  up : v.up = each U up
  down : v.down = each D down

/-- The page before the request of `r`: every other holder has the current contents, a copy of
the coordinator is listed, and the coordinator asks only for what it has not got. -/
structure Asked (T : Topology) (r : Nat) (isWrite : Bool) (contents : Page) (start : PageState Page) :
    Prop where
  node : r ∈ T.nodes
  seen : ∀ n ∈ start.entry.holders, n ≠ r →
    start.status n = .valid ∧ (start.mapping n).contents = some contents
  listed : start.status T.coordinator = .valid → T.coordinator ∈ start.entry.holders
  own : r = T.coordinator →
    start.status r ≠ .valid ∧ (start.status r = .writePending → isWrite = true)
  spares : r = T.coordinator → isWrite = true → start.status r ≠ .writePending →
    ¬ start.entry.Fetches r → start.entry.holders.erase r = ∅

/-- What the requester is sent. -/
def answer [Zero Page] (T : Topology) (start : PageState Page) (r : Nat) (contents : Page) : Page :=
  if start.status T.coordinator = .valid ∨ start.entry.Fetches r then contents else 0

/-- The phases of the transaction, each with a bound on the steps left before the grant. -/
inductive Phase [Zero Page] (T : Topology) (r : Nat) (isWrite : Bool) (contents : Page)
    (start : PageState Page) (queues : Nat → List Bool) : Nat → PageState Page → Prop
  | queued {v : PageState Page}
      (reached : Reached start v r start.entry ∅ (Function.update queues r (isWrite :: queues r)) ∅ .ack
        ∅ .fetch)
      (free : v.slot.requesterNodeId = 0) (idle : v.slot.expectedAcks = 0) :
      Phase T r isWrite contents start queues (2 * start.entry.holders.card + 5) v
  | asked {v : PageState Page} (worker : r ∈ T.workers)
      (reached : Reached start v r start.entry ∅ queues {r} (.request isWrite) ∅ .fetch)
      (free : v.slot.requesterNodeId = 0) (idle : v.slot.expectedAcks = 0) :
      Phase T r isWrite contents start queues (2 * start.entry.holders.card + 4) v
  | fetching {v : PageState Page} (absent : ¬ start.Present T r) (fetches : start.entry.Fetches r)
      (reached : Reached start v r start.entry ∅ queues ∅ .ack {start.entry.ownerNodeId} .fetch)
      (requester : v.slot.requesterNodeId = r) (type : v.slot.type = Node.requestType isWrite)
      (idle : v.slot.expectedAcks = 0) :
      Phase T r isWrite contents start queues (2 * start.entry.holders.card + 3) v
  | replied {v : PageState Page} (absent : ¬ start.Present T r) (fetches : start.entry.Fetches r)
      (reached : Reached start v r start.entry ∅ queues {start.entry.ownerNodeId} (.page contents) ∅
        .fetch)
      (requester : v.slot.requesterNodeId = r) (type : v.slot.type = Node.requestType isWrite)
      (idle : v.slot.expectedAcks = 0) :
      Phase T r isWrite contents start queues (2 * start.entry.holders.card + 2) v
  | collecting {v : PageState Page} (told acked : Finset Nat) (apart : Disjoint told acked)
      (holders : told ∪ acked ⊆ (start.entry.holders.erase r).erase T.coordinator)
      (write : isWrite = true)
      (reached : Reached start v r (.ownedBy r) (start.entry.holders.erase r \ told) queues acked .ack
        told .invalidate)
      (requester : v.slot.requesterNodeId = r)
      (waiting : 0 < v.slot.expectedAcks) (counted : v.slot.expectedAcks = told.card + acked.card)
      (payload : ¬ (r = T.coordinator ∧ start.status r = .writePending) →
        v.slot.deferredPayload = start.answer T r contents) :
      Phase T r isWrite contents start queues (2 * told.card + acked.card) v
  | granted {v : PageState Page} (worker : r ∈ T.workers)
      (reached : Reached start v r (start.entry.after r isWrite) (start.entry.dropped r isWrite) queues
        ∅ .ack {r} (.page (start.answer T r contents)))
      (free : v.slot.requesterNodeId = 0) (idle : v.slot.expectedAcks = 0) :
      Phase T r isWrite contents start queues 0 v

/-- After the requester has taken the grant. -/
structure Settled [Zero Page] (T : Topology) (r : Nat) (isWrite : Bool) (contents : Page)
    (start : PageState Page) (queues : Nat → List Bool) (v : PageState Page) : Prop where
  entry : v.entry = start.entry.after r isWrite
  own : v.mapping r = (start.accept r (start.answer T r contents)).mapping r
  contents : ∀ n ≠ r, (v.mapping n).contents =
    if n ∈ start.entry.dropped r isWrite then none else (start.mapping n).contents
  status : ∀ n, v.status n =
    if n = r then .valid
    else if n ∈ start.entry.dropped r isWrite then .empty
    else start.status n
  queued : v.queued = queues
  up : v.up = each ∅ .ack
  down : v.down = each ∅ .fetch
  free : v.slot.requesterNodeId = 0
  idle : v.slot.expectedAcks = 0

variable {T : Topology} {r : Nat} {isWrite : Bool} {contents : Page} {start v v' taken : PageState Page}
  {queues : Nat → List Bool}

/-! ### What a step takes off a link or a queue -/

theorem Takes.head {r' : Nat} {isWrite' : Bool} (takes : Takes T v r' isWrite' taken)
    (away : r' ≠ T.coordinator) :
    ∃ rest, v.up r' = .request isWrite' :: rest ∧ taken.up = Function.update v.up r' rest ∧
      taken.queued = v.queued := by
  cases takes with
  | own => exact absurd rfl away
  | remote _ _ rest _ head => exact ⟨rest, head, rfl, rfl⟩

theorem Takes.own_head {isWrite' : Bool} (takes : Takes T v T.coordinator isWrite' taken) :
    ∃ rest, v.queued T.coordinator = isWrite' :: rest ∧
      taken.queued = Function.update v.queued T.coordinator rest ∧ taken.up = v.up := by
  generalize same : T.coordinator = c at takes
  cases takes with
  | own _ rest head => exact ⟨rest, head, rfl, rfl⟩
  | remote _ _ rest worker => exact absurd (same ▸ worker) T.coordinator_not_worker

variable [Zero Page]

theorem Move.takes {r' : Nat} {isWrite' : Bool} (move : Move T v (.request r' isWrite') v') :
    ∃ taken, Takes T v r' isWrite' taken := by
  cases move with
  | readPresent _ takes | upgrade _ takes | upgradeWait _ takes | fetch _ _ _ _ takes
  | zeroLocal _ _ takes | zeroRead _ _ takes | serveRead _ _ _ takes | serveWrite _ _ _ takes
  | serveWriteWait _ _ _ _ takes => exact ⟨_, takes⟩

theorem Move.reply_head {o : Nat} (move : Move T v (.reply o) v') :
    ∃ page rest, v.up o = .page page :: rest := by
  cases move with
  | unsolicited _ page rest _ head => exact ⟨page, rest, head⟩
  | replyRead _ page rest _ head => exact ⟨page, rest, head⟩
  | replyWrite _ page rest _ head => exact ⟨page, rest, head⟩
  | replyWriteWait _ page rest _ head => exact ⟨page, rest, head⟩

theorem Move.ack_head {w : Nat} (move : Move T v (.ack w) v') : ∃ rest, v.up w = .ack :: rest := by
  cases move with
  | ackIgnored _ rest _ head | ackCounted _ rest _ head | ackLift _ rest _ head
  | ackGrant _ rest _ head => exact ⟨rest, head⟩

theorem Move.receive_head {w : Nat} (move : Move T v (.receive w) v') :
    ∃ m rest, v.down w = m :: rest := by
  cases move with
  | receivePage _ page rest _ head => exact ⟨_, rest, head⟩
  | receiveFetch _ page rest _ head => exact ⟨_, rest, head⟩
  | receiveInvalidate _ rest _ head => exact ⟨_, rest, head⟩

theorem Move.stored {n : Nat} {page : Page} (move : Move T v (.store n page) v') :
    v' = v.setMapping n (.readWrite page) := by
  cases move
  rfl

/-! ### How the operations change a page in a phase -/

namespace Reached

variable {entry : GpdEntry} {dropped U D : Finset Nat} {up down : Msg Page} {w : Nat} {m : Msg Page}
  {rest : List (Msg Page)}

omit [Zero Page]

theorem nothing_down (reached : Reached start v r entry dropped queues U up ∅ down) :
    v.down w ≠ m :: rest := by
  rw [reached.down]
  exact fun head => absurd (Links.each_head head).1 (Finset.notMem_empty w)

theorem nothing_up (reached : Reached start v r entry dropped queues ∅ up D down) :
    v.up w ≠ m :: rest := by
  rw [reached.up]
  exact fun head => absurd (Links.each_head head).1 (Finset.notMem_empty w)

variable (reached : Reached start v r entry dropped queues U up D down)
include reached

theorem up_head (head : v.up w = m :: rest) : w ∈ U ∧ m = up ∧ rest = [] :=
  Links.each_head (reached.up ▸ head)

theorem down_head (head : v.down w = m :: rest) : w ∈ D ∧ m = down ∧ rest = [] :=
  Links.each_head (reached.down ▸ head)

theorem redrop {gone : Finset Nat} (same : dropped = gone) :
    Reached start v r entry gone queues U up D down := same ▸ reached

theorem reentry {e : GpdEntry} (same : entry = e) :
    Reached start v r e dropped queues U up D down := same ▸ reached

theorem setEntry (e : GpdEntry) : Reached start (v.setEntry e) r e dropped queues U up D down :=
  { reached with entry := rfl }

theorem setSlot (slot : CoordPending Page) :
    Reached start (v.setSlot slot) r entry dropped queues U up D down :=
  { reached with }

/-- The head of a link to the coordinator is gone. -/
theorem popUp (head : v.up w = m :: rest) :
    Reached start { v with up := Function.update v.up w rest } r entry dropped queues (U.erase w) up D
      down :=
  { reached with
    up := by
      obtain ⟨-, -, rfl⟩ := reached.up_head head
      rw [reached.up]
      exact Links.each_pop _ _ _ }

theorem popDown (head : v.down w = m :: rest) :
    Reached start { v with down := Function.update v.down w rest } r entry dropped queues U up
      (D.erase w) down :=
  { reached with
    down := by
      obtain ⟨-, -, rfl⟩ := reached.down_head head
      rw [reached.down]
      exact Links.each_pop _ _ _ }

theorem pushUp (outside : w ∉ U) :
    Reached start { v with up := Function.update v.up w (v.up w ++ [up]) } r entry dropped queues
      (insert w U) up D down :=
  { reached with
    up := by
      rw [reached.up]
      exact Links.each_push outside _ }

theorem drop {n : Nat} (other : n ≠ r) :
    Reached start (v.drop n) r entry (insert n dropped) queues U up D down :=
  { reached with
    own := by
      rw [drop_mapping, Function.update_of_ne (Ne.symm other)]
      exact reached.own
    contents := by
      intro k
      by_cases same : k = n
      · subst same
        simp [Mapping.contents]
      · simpa [same] using reached.contents k
    status := by
      intro k
      by_cases same : k = n
      · subst same
        simp
      · simpa [same] using reached.status k }

/-- A change of access that leaves the contents as they are. -/
theorem setMapping {n : Nat} {mapping : Mapping Page} (other : n ≠ r)
    (same : mapping.contents = (v.mapping n).contents) :
    Reached start (v.setMapping n mapping) r entry dropped queues U up D down :=
  { reached with
    own := by
      rw [setMapping_mapping, Function.update_of_ne (Ne.symm other)]
      exact reached.own
    contents := by
      intro k
      rw [setMapping_mapping, ← reached.contents k]
      by_cases equal : k = n
      · subst equal
        rw [Function.update_self, same]
      · rw [Function.update_of_ne equal] }

omit reached

/-- A message of another kind on a set of links that carry nothing. -/
theorem post (reached : Reached start v r entry dropped queues U up ∅ down) (w : Nat) (m : Msg Page) :
    Reached start (v.post w m) r entry dropped queues U up {w} m :=
  { reached with
    down := by
      rw [post_down, reached.down]
      funext n
      simp [each] }

theorem broadcast (reached : Reached start v r entry dropped queues U up ∅ down)
    (targets : Finset Nat) :
    Reached start (v.broadcast targets) r entry dropped queues U up targets .invalidate :=
  { reached with
    down := by
      rw [broadcast_down, reached.down]
      exact Links.each_start _ _ _ }

/-- Another holder's store, seen as if it had come before. -/
theorem store (reached : Reached start v r entry ∅ queues U up D down) {n : Nat} (other : n ≠ r)
    (mapping : Mapping Page) :
    Reached (start.setMapping n mapping) (v.setMapping n mapping) r entry ∅ queues U up D down :=
  { reached with
    own := by
      simp only [setMapping_mapping, Function.update_of_ne (Ne.symm other)]
      exact reached.own
    contents := by
      intro k
      have same := reached.contents k
      by_cases equal : k = n
      · subst equal
        simp
      · simpa [equal] using same }

/-- Links that carry nothing carry nothing of any kind. -/
theorem relabelUp (reached : Reached start v r entry dropped queues ∅ up D down) (up' : Msg Page) :
    Reached start v r entry dropped queues ∅ up' D down :=
  { reached with up := reached.up.trans (Links.each_empty _ _) }

theorem relabelDown (reached : Reached start v r entry dropped queues U up ∅ down) (down' : Msg Page) :
    Reached start v r entry dropped queues U up ∅ down' :=
  { reached with down := reached.down.trans (Links.each_empty _ _) }

theorem popOnlyUp (reached : Reached start v r entry dropped queues {w} up D down)
    (head : v.up w = m :: rest) (up' : Msg Page) :
    Reached start { v with up := Function.update v.up w rest } r entry dropped queues ∅ up' D down := by
  have popped := reached.popUp head
  rw [Finset.erase_singleton] at popped
  exact popped.relabelUp up'

theorem popOnlyDown (reached : Reached start v r entry dropped queues U up {w} down)
    (head : v.down w = m :: rest) (down' : Msg Page) :
    Reached start { v with down := Function.update v.down w rest } r entry dropped queues U up ∅
      down' := by
  have popped := reached.popDown head
  rw [Finset.erase_singleton] at popped
  exact popped.relabelDown down'

end Reached

omit [Zero Page] in
theorem accept_mapping_other {n m : Nat} (other : m ≠ n) (page : Page) :
    (v.accept n page).mapping m = v.mapping m := by
  unfold accept
  split
  · simp [other]
  · simp [other]
  · simp [other]
  · rfl

omit [Zero Page] in
theorem accept_mapping_congr {n : Nat} (status : v.status n = v'.status n)
    (mapping : v.mapping n = v'.mapping n) (page : Page) :
    (v.accept n page).mapping n = (v'.accept n page).mapping n := by
  unfold accept
  rw [status]
  cases v'.status n <;> simp [mapping]

/-- The requester takes its answer. -/
theorem Reached.accept {up down : Msg Page}
    (reached : Reached start v r (start.entry.after r isWrite) (start.entry.dropped r isWrite) queues ∅
      up ∅ down)
    (spared : r ∉ start.entry.dropped r isWrite) (free : v.slot.requesterNodeId = 0)
    (idle : v.slot.expectedAcks = 0) :
    Settled T r isWrite contents start queues (v.accept r (start.answer T r contents)) where
  entry := by rw [accept_entry, reached.entry]
  own := by
    apply accept_mapping_congr
    · rw [reached.status, if_neg spared]
    · exact reached.own
  contents n other := by rw [accept_mapping_other other, reached.contents]
  status n := by
    rw [accept_status]
    by_cases own : n = r
    · rw [own, Function.update_self, if_pos rfl]
    · rw [Function.update_of_ne own, if_neg own, reached.status]
  queued := by rw [accept_queued, reached.queued]
  up := by rw [accept_up, reached.up, Links.each_empty]
  down := by rw [accept_down, reached.down, Links.each_empty]
  free := by rw [accept_slot, free]
  idle := by rw [accept_slot, idle]

omit [Zero Page] in
theorem accept_of_absent {n : Nat} (absent : v.status n ≠ .valid ∧ v.status n ≠ .writePending)
    (page : Page) : v.install n page = v.accept n page := by
  unfold accept
  cases status : v.status n with
  | valid => exact absurd status absent.1
  | writePending => exact absurd status absent.2
  | pending | empty => rfl

omit [Zero Page] in
theorem accept_of_writePending {n : Nat} (pending : v.status n = .writePending) (page : Page) :
    v.lift n = v.accept n page := by
  unfold accept
  rw [pending]

omit [Zero Page] in
theorem dropped_spares (e : GpdEntry) (r : Nat) (isWrite : Bool) : r ∉ e.dropped r isWrite := by
  unfold GpdEntry.dropped
  split
  · exact Finset.notMem_erase _ _
  · exact Finset.notMem_empty _

/-! ### The phases, one by one -/

namespace Phase

theorem join {k : Nat} (phase : Phase T r isWrite contents start queues k v) (w : Nat) :
    Phase T r isWrite contents start queues k { v with joined := insert w v.joined } := by
  cases phase with
  | queued reached free idle => exact .queued { reached with } free idle
  | asked worker reached free idle => exact .asked worker { reached with } free idle
  | fetching absent fetches reached requester type idle =>
    exact .fetching absent fetches { reached with } requester type idle
  | replied absent fetches reached requester type idle =>
    exact .replied absent fetches { reached with } requester type idle
  | collecting told acked apart holders write reached requester waiting counted payload =>
    exact .collecting told acked apart holders write { reached with } requester waiting counted payload
  | granted worker reached free idle => exact .granted worker { reached with } free idle

/-- While acknowledgements are awaited there is a requester. -/
theorem counting (node : r ∈ T.nodes) {k : Nat} (phase : Phase T r isWrite contents start queues k v)
    (waiting : 0 < v.slot.expectedAcks) : v.slot.requesterNodeId ≠ 0 := by
  have valid := (T.valid_of_mem node).ne_zero
  cases phase with
  | queued _ _ idle | asked _ _ _ idle | granted _ _ _ idle =>
    exact absurd idle (Nat.ne_of_gt waiting)
  | fetching _ _ _ requester | replied _ _ _ requester => exact requester ▸ valid
  | collecting _ _ _ _ _ _ requester => exact requester ▸ valid

/-- Until it is answered the requester's mapping is what it was. -/
theorem own {k : Nat} (phase : Phase T r isWrite contents start queues k v) :
    v.mapping r = start.mapping r := by
  cases phase with
  | queued reached | asked _ reached | fetching _ _ reached | replied _ _ reached
  | granted _ reached => exact reached.own
  | collecting _ _ _ _ _ reached => exact reached.own

end Phase

section Asked

variable (ok : PageOk T v) (entry : v.entry = start.entry)
include ok entry

omit [Zero Page] in
theorem holder_joined {n : Nat} (holder : n ∈ start.entry.holders) (away : n ≠ T.coordinator) :
    n ∈ v.joined :=
  (Finset.mem_insert.mp (ok.holders (entry ▸ holder))).resolve_left away

omit [Zero Page] in
/-- Every other holder of a page with an owner to fetch from is that owner. -/
theorem owner_holds (fetches : start.entry.Fetches r) :
    start.entry.ownerNodeId ∈ start.entry.holders.erase r := by
  have wf : start.entry.WellFormed := entry ▸ ok.entry
  rw [(wf.owner_mem fetches.1).2]
  exact Finset.mem_erase.mpr ⟨fetches.2, Finset.mem_singleton_self _⟩

omit [Zero Page] in
theorem owner_alone (fetches : start.entry.Fetches r) :
    start.entry.holders.erase r = {start.entry.ownerNodeId} := by
  have wf : start.entry.WellFormed := entry ▸ ok.entry
  rw [(wf.owner_mem fetches.1).2]
  apply Finset.erase_eq_of_notMem
  rw [Finset.mem_singleton]
  exact Ne.symm fetches.2

omit [Zero Page] in
/-- The nodes to be told are the other holders but the coordinator. -/
theorem targets_eq_others :
    v.targets r = (start.entry.holders.erase r).erase T.coordinator := by
  unfold PageState.targets
  rw [entry]
  ext n
  simp only [Finset.mem_inter, Finset.mem_erase]
  constructor
  · rintro ⟨⟨apart, holder⟩, joined⟩
    exact ⟨T.ne_coordinator (ok.joined joined), apart, holder⟩
  · rintro ⟨away, apart, holder⟩
    exact ⟨⟨apart, holder⟩, holder_joined ok entry holder away⟩

variable (asked : Asked T r isWrite contents start) (absent : ¬ start.Present T r)
include asked absent

omit [Zero Page] in
/-- Without a copy of its own the coordinator asks the owner, if there is another one. -/
theorem owner_away (fetches : start.entry.Fetches r) :
    start.entry.ownerNodeId ≠ T.coordinator := by
  intro same
  obtain ⟨apart, holder⟩ := Finset.mem_erase.mp (owner_holds ok entry fetches)
  have valid := (asked.seen _ holder apart).1
  rw [same] at valid
  exact absent (Or.inl valid)

omit [Zero Page] in
theorem fetchable_iff_fetches : v.Fetchable r ↔ start.entry.Fetches r := by
  have wf : start.entry.WellFormed := entry ▸ ok.entry
  unfold Fetchable
  rw [entry]
  constructor
  · rintro ⟨joined, apart⟩
    exact ⟨(T.workers_valid _ (ok.joined joined)).ne_zero, apart⟩
  · intro fetches
    have holder := Finset.mem_of_mem_erase (owner_holds ok entry fetches)
    exact ⟨holder_joined ok entry holder (owner_away ok entry asked absent fetches), fetches.2⟩

end Asked

section Steps

variable (asked : Asked T r isWrite contents start)
include asked

omit [Zero Page] in
/-- The coordinator gives up its copy exactly if it is another holder than the requester. -/
theorem Reached.giveUp {D U : Finset Nat} {up down : Msg Page} (away : r ≠ T.coordinator)
    (reached : Reached start taken r start.entry ∅ queues U up D down)
    (entry : v.entry = start.entry) (status : v.status T.coordinator = start.status T.coordinator) :
    Reached start (taken.dropIf (v.GivesUp T r) T.coordinator) r start.entry
      (start.entry.holders.erase r \ (start.entry.holders.erase r).erase T.coordinator) queues U up D
      down := by
  have gives : v.GivesUp T r ↔ T.coordinator ∈ start.entry.holders.erase r := by
    unfold GivesUp
    rw [entry, status]
    refine ⟨fun either => either.elim (fun valid => ?_) id, Or.inr⟩
    exact Finset.mem_erase.mpr ⟨Ne.symm away, asked.listed valid⟩
  unfold dropIf
  split
  next up =>
    have holder := gives.mp up
    have only : start.entry.holders.erase r \ (start.entry.holders.erase r).erase T.coordinator =
        insert T.coordinator ∅ := by
      ext n
      simp only [Finset.mem_sdiff, Finset.mem_erase, Finset.mem_insert, Finset.notMem_empty, or_false]
      constructor
      · rintro ⟨listed, kept⟩
        by_contra apart
        exact kept ⟨apart, listed⟩
      · rintro rfl
        exact ⟨Finset.mem_erase.mp holder, fun both => both.1 rfl⟩
    rw [only]
    exact reached.drop (Ne.symm away)
  next kept =>
    rw [Finset.erase_eq_of_notMem (mt gives.mpr kept), Finset.sdiff_self]
    exact reached

omit [Zero Page] asked in
theorem not_present_iff (away : r ≠ T.coordinator) :
    ¬ start.Present T r ↔ start.status T.coordinator ≠ .valid :=
  not_congr ⟨fun present => present.resolve_right fun own => away own.1, Or.inl⟩

variable (ok : PageOk T v)
include ok

/-- The contents that a write request is answered with. -/
theorem source_eq_answer (entry : v.entry = start.entry) (worker : r ∈ T.workers)
    (takes : Takes T v r isWrite taken)
    (status : taken.status T.coordinator = start.status T.coordinator)
    (copies : (taken.mapping T.coordinator).contents = (start.mapping T.coordinator).contents)
    {page : Page} (source : taken.Source T r page) : page = start.answer T r contents := by
  have away := T.ne_coordinator worker
  unfold answer
  rcases source with ⟨valid, copied⟩ | ⟨absent, unowned, zero⟩
  · rw [status] at valid
    have seen := asked.seen _ (asked.listed valid) (Ne.symm away)
    rw [if_pos (Or.inl valid)]
    rw [copies, seen.2, Option.some.injEq] at copied
    exact copied.symm
  · rw [status] at absent
    have unfetched : ¬ start.entry.Fetches r := by
      intro fetches
      apply unowned
      apply takes.fetchable.mpr
      exact (fetchable_iff_fetches ok entry asked ((not_present_iff away).mpr absent)).mpr
        fetches
    rw [if_neg (not_or.mpr ⟨absent, unfetched⟩)]
    exact zero

omit [Zero Page] asked ok in
theorem Reached.present_iff {entry : GpdEntry} {held : Nat → List Bool} {U D : Finset Nat}
    {up down : Msg Page} (reached : Reached start v r entry ∅ held U up D down) :
    v.Present T r ↔ start.Present T r := by
  have status : v.status T.coordinator = start.status T.coordinator := by
    simpa using reached.status T.coordinator
  unfold Present
  rw [status]

omit [Zero Page] asked ok in
/-- The page with the request gone. -/
theorem Reached.take {held : Nat → List Bool} {U : Finset Nat} {up : Msg Page}
    (reached : Reached start v r start.entry ∅ held U up ∅ .fetch)
    (takes : Takes T v r isWrite taken) (sent : taken.up = each ∅ .ack)
    (kept : taken.queued = queues) :
    Reached start taken r start.entry ∅ queues ∅ .ack ∅ .fetch where
  entry := takes.entry.trans reached.entry
  own := takes.mapping ▸ reached.own
  contents := takes.mapping ▸ reached.contents
  status := takes.status ▸ reached.status
  queued := kept
  up := sent
  down := takes.down.trans reached.down

omit asked ok in
/-- Write permission on a copy that nobody else has. -/
theorem phase_upgrade (reached : Reached start v r start.entry ∅ queues ∅ .ack ∅ .fetch)
    (free : v.slot.requesterNodeId = 0) (idle : v.slot.expectedAcks = 0)
    (pending : start.status r = .writePending) (alone : start.entry.dropped r true = ∅) :
    Settled T r true contents start queues ((v.setEntry (.ownedBy r)).lift r) := by
  have settled := (reached.setEntry (.ownedBy r)).redrop alone.symm
  have status : (v.setEntry (.ownedBy r)).status r = .writePending := by
    simpa [pending] using reached.status r
  rw [accept_of_writePending status (start.answer T r contents)]
  exact settled.accept (dropped_spares _ _ _) free idle

omit asked ok in
/-- The coordinator takes the answer to its own request. -/
theorem phase_install
    (reached : Reached start v r (start.entry.after r isWrite) (start.entry.dropped r isWrite) queues ∅
      .ack ∅ .fetch)
    (free : v.slot.requesterNodeId = 0) (idle : v.slot.expectedAcks = 0)
    (absent : start.status r ≠ .valid ∧ start.status r ≠ .writePending) :
    Settled T r isWrite contents start queues (v.install r (start.answer T r contents)) := by
  have status := reached.status r
  rw [if_neg (dropped_spares _ _ _)] at status
  rw [accept_of_absent (status ▸ absent)]
  exact reached.accept (dropped_spares _ _ _) free idle

omit ok in
/-- The grant: the coordinator takes the page itself, and a worker is sent it. -/
theorem phase_grant
    (reached : Reached start v r (start.entry.after r isWrite) (start.entry.dropped r isWrite) queues ∅
      .ack ∅ .fetch)
    (free : v.slot.requesterNodeId = 0) (idle : v.slot.expectedAcks = 0)
    (absent : r = T.coordinator → start.status r ≠ .valid ∧ start.status r ≠ .writePending) :
    Phase T r isWrite contents start queues 0 (v.grant T r (start.answer T r contents)) ∨
      (r = T.coordinator ∧
        Settled T r isWrite contents start queues (v.grant T r (start.answer T r contents))) := by
  unfold grant
  split
  next own => exact Or.inr ⟨own, phase_install reached free idle (absent own)⟩
  next other =>
    have worker : r ∈ T.workers := (Finset.mem_insert.mp asked.node).resolve_left other
    exact Or.inl (.granted worker (reached.post r _) free idle)

omit asked ok in
/-- The other holders of a page that is written are told to drop it, and the requester waits for
their acknowledgements. -/
theorem phase_broadcast {others : Finset Nat} (slot : CoordPending Page)
    (reached : Reached start v r (.ownedBy r) (start.entry.holders.erase r \ others) queues ∅ .ack ∅
      .fetch)
    (inside : others ⊆ (start.entry.holders.erase r).erase T.coordinator) (some : others ≠ ∅)
    (write : isWrite = true)
    (requester : slot.requesterNodeId = r) (counted : slot.expectedAcks = others.card)
    (payload : ¬ (r = T.coordinator ∧ start.status r = .writePending) →
      slot.deferredPayload = start.answer T r contents)
    {k : Nat} (bound : 2 * start.entry.holders.card < k) :
    ∃ j < k, Phase T r isWrite contents start queues j ((v.setSlot slot).broadcast others) := by
  have few : others.card ≤ start.entry.holders.card := Finset.card_le_card
    (inside.trans ((Finset.erase_subset _ _).trans (Finset.erase_subset _ _)))
  refine ⟨_, ?_, .collecting others ∅ (Finset.disjoint_empty_right _) ?_ write
    ((reached.setSlot slot).broadcast others) requester ?_ ?_ payload⟩
  · rw [Finset.card_empty]
    omega
  · rwa [Finset.union_empty]
  · exact counted ▸ Finset.card_pos.mpr (Finset.nonempty_iff_ne_empty.mpr some)
  · simpa using counted

/-- The request is handled: fetched, served from the coordinator's copy, answered with zeros, or
an upgrade of the coordinator's own copy. -/
theorem phase_request {U : Finset Nat} {up : Msg Page} {held : Nat → List Bool}
    (reached : Reached start v r start.entry ∅ held U up ∅ .fetch)
    (free : v.slot.requesterNodeId = 0) (idle : v.slot.expectedAcks = 0)
    (took : ∀ taken, Takes T v r isWrite taken → taken.up = each ∅ .ack ∧ taken.queued = queues)
    (move : Move T v (.request r isWrite) v') :
    (∃ j < 2 * start.entry.holders.card + 4, Phase T r isWrite contents start queues j v') ∨
      (r = T.coordinator ∧ Settled T r isWrite contents start queues v') := by
  have status (n : Nat) : v.status n = start.status n := by simpa using reached.status n
  have copies (n : Nat) : (v.mapping n).contents = (start.mapping n).contents := by
    simpa using reached.contents n
  have others := targets_eq_others ok reached.entry (r := r)
  have take {taken : PageState Page} (takes : Takes T v r isWrite taken) :
      Reached start taken r start.entry ∅ queues ∅ .ack ∅ .fetch :=
    reached.take takes (took taken takes).1 (took taken takes).2
  have slot {taken : PageState Page} (takes : Takes T v r isWrite taken) :
      taken.slot.requesterNodeId = 0 ∧ taken.slot.expectedAcks = 0 :=
    takes.slot ▸ ⟨free, idle⟩
  -- a page that is not fetched has no owner to fetch it from
  have unfetched {taken : PageState Page} (takes : Takes T v r isWrite taken)
      (absent : ¬ v.Present T r) (unowned : ¬ taken.Fetchable r) : ¬ start.entry.Fetches r :=
    fun fetches => unowned (takes.fetchable.mpr ((fetchable_iff_fetches ok reached.entry asked
      (mt reached.present_iff.mpr absent)).mpr fetches))
  cases move with
  | readPresent taken takes here =>
    -- the coordinator does not read-fault on a page it has
    obtain ⟨unseen, upgrading⟩ := asked.own rfl
    rcases reached.present_iff.mp here with valid | ⟨-, pending⟩
    · exact absurd valid unseen
    · exact absurd (upgrading pending) nofun
  -- the coordinator upgrades its own copy, at once or after the acknowledgements
  | upgrade taken takes here alone =>
    have pending : start.status T.coordinator = .writePending :=
      ((reached.present_iff.mp here).resolve_left (asked.own rfl).1).2
    have nobody : start.entry.dropped T.coordinator true = ∅ := by
      rw [others, Finset.erase_right_comm, Finset.erase_idem] at alone
      exact alone
    exact Or.inr ⟨rfl, phase_upgrade (take takes) (slot takes).1 (slot takes).2 pending nobody⟩
  | upgradeWait taken takes here some =>
    have pending : start.status T.coordinator = .writePending :=
      ((reached.present_iff.mp here).resolve_left (asked.own rfl).1).2
    rw [others] at some ⊢
    have none : ∅ = start.entry.holders.erase T.coordinator \
        (start.entry.holders.erase T.coordinator).erase T.coordinator := by
      rw [Finset.erase_idem, Finset.sdiff_self]
    have kept := ((take takes).setEntry (.ownedBy T.coordinator)).redrop none
    exact Or.inl (phase_broadcast _ kept subset_rfl some rfl rfl rfl
      (fun other => absurd ⟨rfl, pending⟩ other) (by omega))
  | fetch _ _ fd taken takes absent owned =>
    have unseen := mt reached.present_iff.mpr absent
    have fetches : start.entry.Fetches r :=
      (fetchable_iff_fetches ok reached.entry asked unseen).mp (takes.fetchable.mp owned)
    refine Or.inl ⟨_, by omega, .fetching unseen fetches ?_ rfl rfl rfl⟩
    rw [reached.entry]
    exact ((take takes).setSlot _).post _ _
  -- nobody has the page: zeros, for the coordinator or for a reader
  | zeroLocal _ taken takes absent unowned =>
    have none := unfetched takes absent unowned
    have notPending : start.status T.coordinator ≠ .writePending := fun pending =>
      absent (reached.present_iff.mpr (Or.inr ⟨rfl, pending⟩))
    have nobody : start.entry.dropped T.coordinator isWrite = ∅ := by
      cases isWrite with
      | false => rfl
      | true => exact asked.spares rfl rfl notPending none
    have zero : start.answer T T.coordinator contents = 0 :=
      if_neg (not_or.mpr ⟨(asked.own rfl).1, none⟩)
    have alone := ((take takes).setEntry (start.entry.after T.coordinator isWrite)).redrop nobody.symm
    rw [reached.entry, ← zero]
    exact Or.inr ⟨rfl, phase_install alone (slot takes).1 (slot takes).2
      ⟨(asked.own rfl).1, notPending⟩⟩
  | zeroRead _ taken takes worker absent unowned =>
    have away := T.ne_coordinator worker
    have zero : start.answer T r contents = 0 :=
      if_neg (not_or.mpr ⟨(not_present_iff away).mp (mt reached.present_iff.mpr absent),
        unfetched takes absent unowned⟩)
    rw [reached.entry, ← zero]
    exact Or.inl ⟨0, by omega,
      .granted worker (((take takes).setEntry _).post _ _) (slot takes).1 (slot takes).2⟩
  -- the coordinator has a copy: a read shares it, a write takes it
  | serveRead _ page taken takes worker valid copied =>
    have away := T.ne_coordinator worker
    rw [status] at valid
    have seen := asked.seen _ (asked.listed valid) (Ne.symm away)
    have given : start.answer T r contents = page := by
      rw [copies, seen.2, Option.some.injEq] at copied
      exact (if_pos (Or.inl valid)).trans copied
    rw [reached.entry, ← given]
    refine Or.inl ⟨0, by omega, .granted worker ((((take takes).setEntry _).setMapping (Ne.symm away)
      ?_).post _ _) (slot takes).1 (slot takes).2⟩
    simp only [setEntry_mapping, takes.mapping]
    split <;> simp
  | serveWrite _ page taken takes worker source alone =>
    have given := source_eq_answer asked ok reached.entry worker takes (by rw [takes.status, status])
      (by rw [takes.mapping, copies]) source
    -- with no other worker to tell, the answer goes out with the copy gone
    have gone := (take takes).giveUp asked (T.ne_coordinator worker) reached.entry (status _)
    rw [takes.targets, others] at alone
    rw [alone, Finset.sdiff_empty] at gone
    rw [given]
    refine Or.inl ⟨0, by omega, .granted worker ((gone.setEntry _).post _ _) ?_ ?_⟩
    · simpa using (slot takes).1
    · simpa using (slot takes).2
  | serveWriteWait _ page fd taken takes worker source some =>
    have given := source_eq_answer asked ok reached.entry worker takes (by rw [takes.status, status])
      (by rw [takes.mapping, copies]) source
    have gone := (take takes).giveUp asked (T.ne_coordinator worker) reached.entry (status _)
    rw [takes.targets, others] at some ⊢
    exact Or.inl
      (phase_broadcast _ (gone.setEntry _) subset_rfl some rfl rfl rfl (fun _ => given) (by omega))

omit asked ok in
/-- A worker sends the request from its queue. -/
theorem phase_forward
    (reached : Reached start v r start.entry ∅ (Function.update queues r (isWrite :: queues r)) ∅ .ack ∅
      .fetch)
    (free : v.slot.requesterNodeId = 0) (idle : v.slot.expectedAcks = 0)
    (move : Move T v (.forward r) v') :
    Phase T r isWrite contents start queues (2 * start.entry.holders.card + 4) v' := by
  cases move with
  | forward _ first rest worker head =>
    rw [reached.queued, Function.update_self, List.cons.injEq] at head
    obtain ⟨rfl, rfl⟩ := head
    refine .asked worker { reached with queued := ?_, up := ?_, down := reached.down } free idle
    · rw [reached.queued, Function.update_idem, Function.update_eq_self]
    · rw [reached.up, Links.each_empty _ (Msg.request isWrite)]
      exact Links.each_push (Finset.notMem_empty r) _

/-- The owner is asked for its copy, and sends it. -/
theorem phase_fetch (absent : ¬ start.Present T r) (fetches : start.entry.Fetches r)
    (reached : Reached start v r start.entry ∅ queues ∅ .ack {start.entry.ownerNodeId} .fetch)
    (requester : v.slot.requesterNodeId = r) (type : v.slot.type = Node.requestType isWrite)
    (idle : v.slot.expectedAcks = 0) {w : Nat} (move : Move T v (.receive w) v') :
    Phase T r isWrite contents start queues (2 * start.entry.holders.card + 2) v' := by
  cases move with
  | receivePage _ page rest _ head => cases (reached.down_head head).2.1
  | receiveInvalidate _ rest _ head => cases (reached.down_head head).2.1
  | receiveFetch _ page rest _ head copied =>
    obtain ⟨owner, -, -⟩ := reached.down_head head
    rw [Finset.mem_singleton] at owner
    subst owner
    obtain ⟨apart, holder⟩ := Finset.mem_erase.mp (owner_holds ok reached.entry fetches)
    obtain ⟨valid, copy⟩ := asked.seen _ holder apart
    -- the owner still has the copy it had at the start
    have same : page = contents := by
      rw [if_pos (by simpa [reached.status] using valid)] at copied
      simp only [reached.contents, Finset.notMem_empty, if_false, copy, Option.some.injEq] at copied
      exact copied.symm
    subst same
    have sent := ((reached.popOnlyDown head .fetch).relabelUp (.page page)).pushUp
      (Finset.notMem_empty start.entry.ownerNodeId)
    exact .replied absent fetches sent requester type idle

/-- The owner's copy arrives and is forwarded, or waits for the owner's acknowledgement. -/
theorem phase_reply (absent : ¬ start.Present T r) (fetches : start.entry.Fetches r)
    (reached : Reached start v r start.entry ∅ queues {start.entry.ownerNodeId} (.page contents) ∅
      .fetch)
    (requester : v.slot.requesterNodeId = r) (type : v.slot.type = Node.requestType isWrite)
    (idle : v.slot.expectedAcks = 0) {o : Nat} (move : Move T v (.reply o) v') :
    (∃ j < 2 * start.entry.holders.card + 2, Phase T r isWrite contents start queues j v') ∨
      (r = T.coordinator ∧ Settled T r isWrite contents start queues v') := by
  have live : v.slot.requesterNodeId ≠ 0 := by
    rw [requester]
    exact (T.valid_of_mem asked.node).ne_zero
  have away := owner_away ok reached.entry asked absent fetches
  have alone := owner_alone ok reached.entry fetches
  have told : v.targets r = start.entry.holders.erase r := by
    rw [targets_eq_others ok reached.entry, alone]
    apply Finset.erase_eq_of_notMem
    rw [Finset.mem_singleton]
    exact Ne.symm away
  have spared : T.coordinator ∉ v.entry.holders.erase r := by
    rw [reached.entry, alone, Finset.mem_singleton]
    exact Ne.symm away
  have given : start.answer T r contents = contents := if_pos (Or.inr fetches)
  have arrived {page : Page} {rest : List (Msg Page)} (head : v.up o = .page page :: rest) :
      page = contents ∧ Reached start { v with up := Function.update v.up o rest } r start.entry ∅
        queues ∅ .ack ∅ .fetch := by
    obtain ⟨owner, same, -⟩ := reached.up_head head
    rw [Finset.mem_singleton] at owner
    subst owner
    exact ⟨Msg.page.inj same, reached.popOnlyUp head .ack⟩
  cases move with
  | unsolicited _ _ _ _ _ free => exact absurd free live
  | replyRead _ page rest _ head _ read =>
    obtain ⟨rfl, popped⟩ := arrived head
    -- the page answers the request that the slot holds
    have isRead : isWrite = false := by
      rw [type] at read
      cases isWrite with
      | false => rfl
      | true => exact absurd rfl read
    subst isRead
    have same : v.entry.toShared r = start.entry.after r false := by
      rw [reached.entry]
      rfl
    have shared := ((popped.setEntry (v.entry.toShared r)).setSlot
      { v.slot with requesterNodeId := 0 }).reentry same
    have granted := phase_grant asked shared rfl idle fun own =>
      ⟨fun valid => absent (Or.inl (own ▸ valid)),
        fun pending => absent (Or.inr ⟨own, own ▸ pending⟩)⟩
    rw [given] at granted
    rw [requester]
    exact granted.imp_left fun phase => ⟨0, by omega, phase⟩
  | replyWrite _ page rest _ head _ write nobody =>
    -- the owner itself still has to be told
    rw [requester, told] at nobody
    exact absurd (nobody ▸ owner_holds ok reached.entry fetches) (Finset.notMem_empty _)
  | replyWriteWait _ page rest _ head _ write others =>
    obtain ⟨rfl, popped⟩ := arrived head
    have isWrites : isWrite = true := by
      rw [type] at write
      cases isWrite with
      | true => rfl
      | false => cases write
    subst isWrites
    have kept := (popped.setEntry (.ownedBy r)).redrop
      (Finset.sdiff_self (start.entry.holders.erase r)).symm
    have inside : start.entry.holders.erase r ⊆ (start.entry.holders.erase r).erase T.coordinator := by
      rw [← told, targets_eq_others ok reached.entry, Finset.erase_idem]
    -- the owner is told, and is not the coordinator
    rw [requester, told] at others ⊢
    unfold dropIf
    rw [if_neg spared]
    exact Or.inl (phase_broadcast { v.slot with
      expectedAcks := (start.entry.holders.erase r).card
      deferredPayload := page } kept inside others rfl requester rfl (fun _ => given.symm) (by omega))

end Steps

/-- A holder drops its copy. -/
theorem phase_told {told acked : Finset Nat} (apart : Disjoint told acked)
    (holders : told ∪ acked ⊆ (start.entry.holders.erase r).erase T.coordinator)
    (write : isWrite = true)
    (reached : Reached start v r (.ownedBy r) (start.entry.holders.erase r \ told) queues acked .ack told
      .invalidate)
    (requester : v.slot.requesterNodeId = r) (waiting : 0 < v.slot.expectedAcks)
    (counted : v.slot.expectedAcks = told.card + acked.card)
    (payload : ¬ (r = T.coordinator ∧ start.status r = .writePending) →
      v.slot.deferredPayload = start.answer T r contents) {w : Nat}
    (move : Move T v (.receive w) v') :
    ∃ j < 2 * told.card + acked.card, Phase T r isWrite contents start queues j v' := by
  cases move with
  | receivePage _ page rest _ head => cases (reached.down_head head).2.1
  | receiveFetch _ page rest _ head => cases (reached.down_head head).2.1
  | receiveInvalidate _ rest _ head =>
    obtain ⟨member, -, -⟩ := reached.down_head head
    have fresh : w ∉ acked := Finset.disjoint_left.mp apart member
    have target := holders (Finset.mem_union_left _ member)
    have holder := Finset.mem_of_mem_erase target
    have fewer : (told.erase w).card + 1 = told.card := Finset.card_erase_add_one member
    have more : (insert w acked).card = acked.card + 1 := Finset.card_insert_of_notMem fresh
    -- one holder moves from those told to those whose copy is gone
    have gone : insert w (start.entry.holders.erase r \ told) =
        start.entry.holders.erase r \ told.erase w := by
      ext n
      simp only [Finset.mem_sdiff, Finset.mem_erase, Finset.mem_insert]
      by_cases same : n = w
      · subst same
        simpa using Finset.mem_erase.mp holder
      · simp [same]
    have dropped := (((reached.popDown head).pushUp fresh).drop (Finset.ne_of_mem_erase holder)).redrop
      gone
    refine ⟨_, ?_, .collecting (told.erase w) (insert w acked) ?_ ?_ write dropped requester waiting ?_
      payload⟩
    · omega
    · rw [Finset.disjoint_insert_right]
      exact ⟨Finset.notMem_erase w told, apart.mono_left (Finset.erase_subset _ _)⟩
    · intro n found
      simp only [Finset.mem_union, Finset.mem_erase, Finset.mem_insert] at found
      rcases found with left | rfl | acked
      · exact holders (Finset.mem_union_left _ left.2)
      · exact target
      · exact holders (Finset.mem_union_right _ acked)
    · rw [drop_slot]
      change v.slot.expectedAcks = _
      omega

/-- An acknowledgement is counted; the last one grants. -/
theorem phase_ack (asked : Asked T r isWrite contents start) {told acked : Finset Nat}
    (apart : Disjoint told acked)
    (holders : told ∪ acked ⊆ (start.entry.holders.erase r).erase T.coordinator)
    (write : isWrite = true)
    (reached : Reached start v r (.ownedBy r) (start.entry.holders.erase r \ told) queues acked .ack told
      .invalidate)
    (requester : v.slot.requesterNodeId = r) (waiting : 0 < v.slot.expectedAcks)
    (counted : v.slot.expectedAcks = told.card + acked.card)
    (payload : ¬ (r = T.coordinator ∧ start.status r = .writePending) →
      v.slot.deferredPayload = start.answer T r contents) {w : Nat}
    (move : Move T v (.ack w) v') :
    (∃ j < 2 * told.card + acked.card, Phase T r isWrite contents start queues j v') ∨
      (r = T.coordinator ∧ Settled T r isWrite contents start queues v') := by
  have spared : r ∉ start.entry.holders.erase r \ told := fun gone =>
    Finset.notMem_erase r _ (Finset.mem_sdiff.mp gone).1
  have status : v.status r = start.status r := by rw [reached.status, if_neg spared]
  -- with the last acknowledgement every other holder has dropped its copy
  have complete {rest : List (Msg Page)} (head : v.up w = .ack :: rest)
      (last : v.slot.expectedAcks = 1) (slot : CoordPending Page) :
      2 * told.card + acked.card ≠ 0 ∧
        Reached start ({ v with up := Function.update v.up w rest }.setSlot slot) r
          (start.entry.after r isWrite) (start.entry.dropped r isWrite) queues ∅ .ack ∅ .fetch := by
    obtain ⟨member, -, -⟩ := reached.up_head head
    have some : 0 < acked.card := Finset.card_pos.mpr ⟨w, member⟩
    have nobody : told = ∅ := Finset.card_eq_zero.mp (by omega)
    obtain ⟨only, same⟩ := Finset.card_eq_one.mp (show acked.card = 1 by omega)
    subst same
    rw [Finset.mem_singleton] at member
    subst member nobody write
    rw [Finset.sdiff_empty] at reached
    exact ⟨by omega, ((reached.popOnlyUp head .ack).setSlot slot).relabelDown .fetch⟩
  cases move with
  | ackIgnored _ rest _ head none => exact absurd none (Nat.ne_of_gt waiting)
  | ackLift _ rest _ head last own upgrading =>
    obtain ⟨-, popped⟩ := complete head last { v.slot with requesterNodeId := 0, expectedAcks := 0 }
    rw [requester] at own
    subst own
    refine Or.inr ⟨rfl, ?_⟩
    have settled : Settled T T.coordinator isWrite contents start queues _ :=
      popped.accept (dropped_spares _ _ _) rfl rfl
    rw [← accept_of_writePending] at settled
    · exact settled
    · exact upgrading
  -- more are to come: one node fewer is waited for
  | ackCounted _ rest _ head more =>
    obtain ⟨member, -, -⟩ := reached.up_head head
    have fewer : (acked.erase w).card + 1 = acked.card := Finset.card_erase_add_one member
    refine Or.inl ⟨_, ?_, .collecting told (acked.erase w) ?_ ?_ write
      ((reached.popUp head).setSlot _) requester ?_ ?_ payload⟩
    · omega
    · exact apart.mono_right (Finset.erase_subset _ _)
    · exact (Finset.union_subset_union_right (Finset.erase_subset _ _)).trans holders
    · exact Nat.sub_pos_of_lt more
    · change v.slot.expectedAcks - 1 = _
      omega
  | ackGrant _ rest _ head last live notLift =>
    obtain ⟨more, popped⟩ := complete head last { v.slot with requesterNodeId := 0, expectedAcks := 0 }
    have given : v.slot.deferredPayload = start.answer T r contents := by
      apply payload
      rintro ⟨own, pending⟩
      rw [requester] at notLift
      exact notLift ⟨own, own ▸ status ▸ pending⟩
    have absent (own : r = T.coordinator) : start.status r ≠ .valid ∧ start.status r ≠ .writePending :=
      ⟨(asked.own own).1, fun pending =>
        notLift ⟨requester.trans own, own ▸ status.trans pending⟩⟩
    rw [requester, given]
    exact (phase_grant asked popped rfl rfl absent).imp_left fun phase => ⟨0, by omega, phase⟩

/-- The requester takes the grant. -/
theorem settled_of_receive
    (reached : Reached start v r (start.entry.after r isWrite) (start.entry.dropped r isWrite) queues ∅
      .ack {r} (.page (start.answer T r contents)))
    (free : v.slot.requesterNodeId = 0) (idle : v.slot.expectedAcks = 0) {w : Nat}
    (move : Move T v (.receive w) v') : Settled T r isWrite contents start queues v' := by
  cases move with
  | receiveFetch _ page rest _ head => cases (reached.down_head head).2.1
  | receiveInvalidate _ rest _ head => cases (reached.down_head head).2.1
  | receivePage _ page rest _ head =>
    obtain ⟨member, same, -⟩ := reached.down_head head
    rw [Finset.mem_singleton] at member
    subst member
    cases same
    exact (reached.popOnlyDown head .fetch).accept (dropped_spares _ _ _) free idle

/-- A delivery takes the transaction on, or leaves it where it was. -/
theorem Phase.advance (asked : Asked T r isWrite contents start) (ok : PageOk T v) {k : Nat}
    (phase : Phase T r isWrite contents start queues k v) {label : PageLabel Page}
    (delivers : label.Delivers T) (move : Move T v label v') :
    ((∃ w, label = .join w) ∧ Phase T r isWrite contents start queues k v') ∨
      (∃ j < k, Phase T r isWrite contents start queues j v') ∨
      ((k = 0 ∨ r = T.coordinator) ∧ Settled T r isWrite contents start queues v') := by
  have either {bound : Nat} (later : (∃ j < bound, Phase T r isWrite contents start queues j v') ∨
      (r = T.coordinator ∧ Settled T r isWrite contents start queues v')) :
      (∃ j < bound, Phase T r isWrite contents start queues j v') ∨
        ((bound = 0 ∨ r = T.coordinator) ∧ Settled T r isWrite contents start queues v') :=
    later.imp_right fun settled => ⟨Or.inr settled.1, settled.2⟩
  -- a phase knows what is on the links, so most deliveries do not happen in it
  cases label with
  | store | enqueue | overflow | forward => cases delivers
  | join w =>
    cases move with
    | join => exact Or.inl ⟨⟨w, rfl⟩, phase.join w⟩
  | request r' isWrite' =>
    obtain ⟨taken, takes⟩ := move.takes
    obtain ⟨rest, head, -⟩ := takes.head delivers
    cases phase with
    | queued reached | fetching _ _ reached | granted _ reached =>
      exact absurd head reached.nothing_up
    | asked worker reached free idle =>
      obtain ⟨own, same, -⟩ := reached.up_head head
      cases same
      rw [Finset.mem_singleton] at own
      subst own
      refine Or.inr (either (phase_request asked ok reached free idle (fun other takes => ?_) move))
      obtain ⟨rest, head, up, queued⟩ := takes.head delivers
      exact ⟨up.trans (reached.popOnlyUp head .ack).up, queued.trans reached.queued⟩
    | replied _ _ reached => cases (reached.up_head head).2.1
    | collecting _ _ _ _ _ reached => cases (reached.up_head head).2.1
  | reply o =>
    obtain ⟨page, rest, head⟩ := move.reply_head
    cases phase with
    | asked _ reached => cases (reached.up_head head).2.1
    | queued reached | fetching _ _ reached | granted _ reached =>
      exact absurd head reached.nothing_up
    | replied absent fetches reached requester type idle =>
      exact Or.inr (either (phase_reply asked ok absent fetches reached requester type idle move))
    | collecting _ _ _ _ _ reached => cases (reached.up_head head).2.1
  | ack w =>
    obtain ⟨rest, head⟩ := move.ack_head
    cases phase with
    | asked _ reached => cases (reached.up_head head).2.1
    | queued reached | fetching _ _ reached | granted _ reached =>
      exact absurd head reached.nothing_up
    | replied _ _ reached => cases (reached.up_head head).2.1
    | collecting told acked apart holders write reached requester waiting counted payload =>
      exact Or.inr (either (phase_ack asked apart holders write reached requester waiting counted
        payload move))
  | receive w =>
    obtain ⟨m, rest, head⟩ := move.receive_head
    cases phase with
    | queued reached | asked _ reached | replied _ _ reached => exact absurd head reached.nothing_down
    | fetching absent fetches reached requester type idle =>
      exact Or.inr (Or.inl
        ⟨_, by omega, phase_fetch asked ok absent fetches reached requester type idle move⟩)
    | collecting told acked apart holders write reached requester waiting counted payload =>
      exact Or.inr (Or.inl (phase_told apart holders write reached requester waiting counted
        payload move))
    | granted _ reached free idle =>
      exact Or.inr (Or.inr ⟨Or.inl rfl, settled_of_receive reached free idle move⟩)

theorem Move.forward_head {w : Nat} (move : Move T v (.forward w) v') :
    ∃ first rest, v.queued w = first :: rest := by
  cases move with
  | forward _ first rest _ head => exact ⟨first, rest, head⟩

/-- The same where nothing else is queued, for every step that handles something. -/
theorem Phase.handle (asked : Asked T r isWrite contents start) (ok : PageOk T v) {k : Nat}
    (phase : Phase T r isWrite contents start (fun _ => []) k v) {label : PageLabel Page}
    (handles : label.Handles) (move : Move T v label v') :
    ((∃ w, label = .join w) ∧ Phase T r isWrite contents start (fun _ => []) k v') ∨
      (∃ j < k, Phase T r isWrite contents start (fun _ => []) j v') ∨
      ((k = 0 ∨ r = T.coordinator) ∧ Settled T r isWrite contents start (fun _ => []) v') := by
  -- only the first phase has a request on a queue, and it is that of `r`
  have own {w : Nat} {first : Bool} {rest : List Bool} (head : v.queued w = first :: rest) :
      w = r ∧ first = isWrite ∧ rest = [] ∧ k = 2 * start.entry.holders.card + 5 ∧
        Reached start v r start.entry ∅ (Function.update (fun _ => []) r [isWrite]) ∅ .ack ∅ .fetch ∧
        v.slot.requesterNodeId = 0 ∧ v.slot.expectedAcks = 0 := by
    cases phase with
    | queued reached free idle =>
      rw [reached.queued] at head
      by_cases same : w = r
      · subst same
        rw [Function.update_self, List.cons.injEq] at head
        exact ⟨rfl, head.1.symm, head.2.symm, rfl, reached, free, idle⟩
      · rw [Function.update_of_ne same] at head
        cases head
    | asked _ reached | fetching _ _ reached | replied _ _ reached | granted _ reached =>
      rw [reached.queued] at head
      cases head
    | collecting _ _ _ _ _ reached =>
      rw [reached.queued] at head
      cases head
  by_cases delivers : label.Delivers T
  · exact phase.advance asked ok delivers move
  · cases label with
    | store | enqueue | overflow => exact absurd handles id
    | join | receive | reply | ack => exact absurd trivial delivers
    | forward w =>
      obtain ⟨first, rest, head⟩ := move.forward_head
      obtain ⟨rfl, -, -, rfl, reached, free, idle⟩ := own head
      exact Or.inr (Or.inl ⟨_, by omega, phase_forward reached free idle move⟩)
    | request r' isWrite' =>
      obtain rfl : r' = T.coordinator := not_not.mp delivers
      obtain ⟨taken, takes⟩ := move.takes
      obtain ⟨rest, head, -⟩ := takes.own_head
      obtain ⟨rfl, rfl, -, rfl, reached, free, idle⟩ := own head
      have took : ∀ taken, Takes T v T.coordinator isWrite' taken →
          taken.up = each ∅ .ack ∧ taken.queued = fun _ => [] := by
        intro taken takes
        obtain ⟨rest, head, queued, up⟩ := takes.own_head
        obtain rfl := (own head).2.2.1
        refine ⟨up.trans reached.up, ?_⟩
        rw [queued, reached.queued, Function.update_idem]
        exact Function.update_eq_self _ _
      rcases phase_request asked ok reached free idle took move with ⟨j, less, later⟩ | ⟨-, settled⟩
      · exact Or.inr (Or.inl ⟨j, by omega, later⟩)
      · exact Or.inr (Or.inr ⟨Or.inr rfl, settled⟩)

/-! ### What is left to handle -/

omit [Zero Page] in
/-- A node that believes to have the page still has it. -/
theorem Reached.backed {entry : GpdEntry} {dropped U D : Finset Nat} {up down : Msg Page}
    (reached : Reached start v r entry dropped queues U up D down)
    (backed : ∀ n, start.status n = .valid → ∃ page, (start.mapping n).contents = some page) (n : Nat)
    (valid : v.status n = .valid) : ∃ page, (v.mapping n).contents = some page := by
  rw [reached.status] at valid
  rw [reached.contents]
  split at valid
  · cases valid
  next kept =>
    rw [if_neg kept]
    exact backed n valid

theorem Phase.backed {k : Nat} (phase : Phase T r isWrite contents start queues k v)
    (backed : ∀ n, start.status n = .valid → ∃ page, (start.mapping n).contents = some page) :
    ∀ n, v.status n = .valid → ∃ page, (v.mapping n).contents = some page := by
  cases phase with
  | queued reached | asked _ reached | fetching _ _ reached | replied _ _ reached
  | granted _ reached => exact reached.backed backed
  | collecting _ _ _ _ _ reached => exact reached.backed backed

/-- Until the request is granted and taken there is something to handle. -/
theorem Phase.waits (asked : Asked T r isWrite contents start) (placed : start.entry.holders ⊆ T.nodes)
    (ok : PageOk T v) {k : Nat} (phase : Phase T r isWrite contents start queues k v) :
    v.queued r ≠ [] ∨ (∃ w ∈ T.workers, v.up w ≠ []) ∨ ∃ w ∈ T.workers, v.down w ≠ [] := by
  -- one message on each link of a set is a message on a link
  have some {S : Finset Nat} {w : Nat} (m : Msg Page) (member : w ∈ S) : each S m w ≠ [] := by
    rw [Links.each_mem member]
    exact List.cons_ne_nil _ _
  have worker {n : Nat} (holder : n ∈ start.entry.holders) (away : n ≠ T.coordinator) :
      n ∈ T.workers := (Finset.mem_insert.mp (placed holder)).resolve_left away
  cases phase with
  | queued reached =>
    left
    rw [reached.queued, Function.update_self]
    exact List.cons_ne_nil _ _
  | asked worker reached =>
    exact Or.inr (Or.inl ⟨r, worker, reached.up ▸ some _ (Finset.mem_singleton_self r)⟩)
  | fetching absent fetches reached =>
    have holder := Finset.mem_of_mem_erase (owner_holds ok reached.entry fetches)
    exact Or.inr (Or.inr ⟨_, worker holder (owner_away ok reached.entry asked absent fetches),
      reached.down ▸ some _ (Finset.mem_singleton_self _)⟩)
  | replied absent fetches reached =>
    have holder := Finset.mem_of_mem_erase (owner_holds ok reached.entry fetches)
    exact Or.inr (Or.inl ⟨_, worker holder (owner_away ok reached.entry asked absent fetches),
      reached.up ▸ some _ (Finset.mem_singleton_self _)⟩)
  | collecting told acked _ holders _ reached _ waiting counted =>
    have other {n : Nat} (member : n ∈ told ∪ acked) : n ∈ T.workers := by
      obtain ⟨away, holder⟩ := Finset.mem_erase.mp (holders member)
      exact worker (Finset.mem_of_mem_erase holder) away
    rcases told.eq_empty_or_nonempty with rfl | ⟨n, member⟩
    · obtain ⟨n, member⟩ := Finset.card_pos.mp (show 0 < acked.card by simpa [counted] using waiting)
      exact Or.inr (Or.inl ⟨n, other (Finset.mem_union_right _ member), reached.up ▸ some _ member⟩)
    · exact Or.inr (Or.inr ⟨n, other (Finset.mem_union_left _ member), reached.down ▸ some _ member⟩)
  | granted worker reached =>
    exact Or.inr (Or.inr ⟨r, worker, reached.down ▸ some _ (Finset.mem_singleton_self r)⟩)

/-! ### A page that nothing is going on about -/

/-- Nothing about the page is queued or in flight. -/
structure Silent (v : PageState Page) : Prop where
  queued : ∀ n, v.queued n = []
  up : ∀ w, v.up w = []
  down : ∀ w, v.down w = []

theorem Settled.silent (settled : Settled T r isWrite contents start (fun _ => []) v) :
    v.Silent where
  queued n := congrFun settled.queued n
  up w := congrFun settled.up w
  down w := congrFun settled.down w

/-- A silent page can only hear of workers that join. -/
theorem Silent.handle (silent : v.Silent) {label : PageLabel Page} (handles : label.Handles)
    (move : Move T v label v') : ∃ w, v' = { v with joined := insert w v.joined } := by
  cases label with
  | store | enqueue | overflow => cases handles
  | join w =>
    cases move with
    | join => exact ⟨w, rfl⟩
  | forward w =>
    obtain ⟨first, rest, head⟩ := move.forward_head
    cases (silent.queued w).symm.trans head
  | receive w =>
    obtain ⟨m, rest, head⟩ := move.receive_head
    cases (silent.down w).symm.trans head
  | reply o =>
    obtain ⟨page, rest, head⟩ := move.reply_head
    cases (silent.up o).symm.trans head
  | ack w =>
    obtain ⟨rest, head⟩ := move.ack_head
    cases (silent.up w).symm.trans head
  | request r' isWrite' =>
    obtain ⟨taken, takes⟩ := move.takes
    cases takes with
    | own _ rest head => cases (silent.queued T.coordinator).symm.trans head
    | remote _ _ rest _ head => cases (silent.up r').symm.trans head

end PageState

end TeleportVM
