import TeleportVM.FaultHandling
import TeleportVM.SlotTurns

/-!
A read that nobody asks for. The fault handler skips a read of a page that the page table calls
present. Where the page is not mapped nothing is sent on behalf of such a read, and unless the node
has another request for the page under way the page never comes.
-/
namespace TeleportVM

variable {Page : Type}

def Msg.isRequest : Msg Page → Bool
  | .request _ => true
  | _ => false

/-! ### The descriptor that a slot answers -/

/-- The transaction of the slot, or what is left of it, ends with a page sent to this descriptor. -/
def CoordPending.Serves (slot : CoordPending Page) (fd : Int) : Prop :=
  slot.clientFd = fd ∧ (slot.requesterNodeId ≠ 0 ∨ 0 < slot.expectedAcks)

instance (slot : CoordPending Page) (fd : Int) : Decidable (slot.Serves fd) :=
  inferInstanceAs (Decidable (_ ∧ _))

namespace Node

variable {n n' : Node Page} {p w : Nat} {fd clientFd : Int} {targets : List Nat}

/-- The slot of page `p` serves this descriptor in `n'` only if it did in `n`. -/
def Spares (n n' : Node Page) (p : Nat) (fd : Int) : Prop :=
  (n'.gpdPendingReqs p).Serves fd → (n.gpdPendingReqs p).Serves fd

theorem Spares.of_slot (slot : n'.gpdPendingReqs p = n.gpdPendingReqs p) : n.Spares n' p fd :=
  fun serves => slot ▸ serves

theorem Leaves.spares (leaves : n.Leaves n' p) : n.Spares n' p fd := .of_slot leaves.slot

theorem Fetches.spares (fetches : n'.Fetches p w clientFd) (other : fd ≠ clientFd) :
    n.Spares n' p fd :=
  fun serves => absurd (serves.1.symm.trans fetches.clientFd) other

theorem Waits.spares (waits : n.Waits n' p w clientFd targets) (other : fd ≠ clientFd) :
    n.Spares n' p fd :=
  fun serves => absurd (serves.1.symm.trans waits.clientFd) other

theorem Completes.spares (completes : n.Completes n' p) : n.Spares n' p fd := by
  rintro ⟨same, some⟩
  rw [completes.slot] at same some
  exact ⟨same, Or.inr (some.resolve_left fun asked => asked rfl)⟩

theorem Counts.spares (counts : n.Counts n' p) : n.Spares n' p fd := by
  rintro ⟨same, -⟩
  refine ⟨counts.clientFd.symm.trans same, Or.inr ?_⟩
  rw [← counts.acks]
  exact Nat.succ_pos _

theorem spares_handleFault (n : Node Page) (fault : PageRequest) :
    n.Spares (n.handleFault fault) p fd := by
  unfold handleFault queuePush
  dsimp only
  split
  · exact .of_slot rfl
  · split <;> exact .of_slot rfl

variable [Zero Page] {packet : DsmPacket Page} (quiet : n.effects = [])
include quiet

theorem spares_serveQueuedRequest (role : n.coordinatorFd = -1) {req : PageRequest}
    (inside : req.pageIndex < n.numPages) (p : Nat) (other : fd ≠ -1) :
    n.Spares (n.serveQueuedRequest req) p fd := by
  by_cases own : req.pageIndex = p
  · subst own
    rcases serveQueuedRequest_turn quiet role inside with leaves | fetches | ⟨targets, waits⟩
    · exact leaves.spares
    · exact fetches.spares other
    · exact waits.spares other
  · exact .of_slot (SamePage.of_about (about_serveQueuedRequest own n req rfl)).slot

/-- The second section of a handler sends the page to the descriptor of the request. -/
theorem spares_perform (task : EngineTask Page) {m : Node Page}
    (slot : m.gpdPendingReqs = n.gpdPendingReqs) (effects : m.effects = n.effects)
    (inside : task.pageIndex < m.numPages) (asker : task.asker = some (clientFd, w))
    (other : fd ≠ clientFd) : n.Spares (m.perform task) task.pageIndex fd := by
  unfold Spares
  rw [← slot]
  rcases perform_turn (effects.trans quiet) inside with leaves | ⟨fd', w', targets, same, waits⟩
  · exact leaves.spares
  · cases asker.symm.trans same
    exact waits.spares other

theorem spares_handlePageRequest (handled : n.handlePageRequest clientFd packet = some n')
    (other : fd ≠ clientFd) : n.Spares n' packet.pageIndex fd := by
  rw [← handlePageRequest_sections] at handled
  obtain ⟨begun, begins, rfl⟩ := Option.map_eq_some_iff.mp handled
  cases takesRequest begins with
  | outside => exact .of_slot rfl
  | fromCopy page inside =>
    exact spares_perform quiet (.answerFromCopy clientFd packet.pageIndex packet.senderNodeId
      (packet.type = .requestPageWrite) page) (m := n.registerSender clientFd packet.senderNodeId)
      rfl rfl inside rfl other
  | fetch inside =>
    exact (fetches_fetchFromOwner (n := n.registerSender clientFd packet.senderNodeId) quiet
      packet.pageIndex packet.senderNodeId packet.type clientFd _).spares other
  | withZeros inside =>
    exact spares_perform quiet (.answerWithZeros clientFd packet.pageIndex packet.senderNodeId
      (packet.type = .requestPageWrite)) (m := n.registerSender clientFd packet.senderNodeId)
      rfl rfl inside rfl other

theorem spares_handleSendPage (kind : packet.type = .sendPage) :
    n.Spares (n.handleSendPage packet) packet.pageIndex fd := by
  rcases handleSendPage_turn quiet kind with leaves | ⟨live, completes | ⟨targets, waits⟩⟩
  · exact leaves.spares
  · exact completes.spares
  · -- the same request waits, now for acknowledgements
    exact fun serves => ⟨waits.clientFd.symm.trans serves.1, Or.inl live⟩

omit quiet in
theorem slot_dispatchPacket (handled : n.dispatchPacket clientFd packet = some n')
    (apart : packet.pageIndex ≠ p) : n'.gpdPendingReqs p = n.gpdPendingReqs p := by
  cases type : packet.type with
  | requestPageRead | requestPageWrite =>
    simp only [dispatchPacket, type] at handled
    refine (congrArg NodePage.slot
      (about_handlePageRequest apart n clientFd packet rfl handled)).trans ?_
    split <;> rfl
  | sendPage =>
    simp only [dispatchPacket, type, Option.some.injEq] at handled
    exact handled ▸ congrArg NodePage.slot (about_handleSendPage apart n packet rfl)
  | invalidateAck =>
    simp only [dispatchPacket, type, Option.some.injEq] at handled
    exact handled ▸ congrArg NodePage.slot (about_handleInvalidateAck apart n packet rfl)
  | invalidate =>
    simp only [dispatchPacket, type, Option.some.injEq] at handled
    exact handled ▸ congrArg NodePage.slot (about_handleInvalidate apart n clientFd packet rfl)
  | nodeJoin | other =>
    simp only [dispatchPacket, type, Option.some.injEq] at handled
    exact handled ▸ rfl

/-- Only a request for the page puts another descriptor into its slot. -/
theorem spares_dispatchPacket (handled : n.dispatchPacket clientFd packet = some n') (p : Nat)
    (other : packet.type.isPageRequest = true → packet.pageIndex = p → fd ≠ clientFd) :
    n.Spares n' p fd := by
  by_cases apart : packet.pageIndex ≠ p
  · exact .of_slot (slot_dispatchPacket handled apart)
  · obtain rfl := not_not.mp apart
    cases type : packet.type with
    | requestPageRead | requestPageWrite =>
      simp only [dispatchPacket, type] at handled
      exact spares_handlePageRequest quiet handled (other (by rw [type]; rfl) rfl)
    | sendPage =>
      simp only [dispatchPacket, type, Option.some.injEq] at handled
      exact handled ▸ spares_handleSendPage quiet type
    | invalidateAck =>
      simp only [dispatchPacket, type, Option.some.injEq] at handled
      rcases handleInvalidateAck_turn quiet packet with leaves | counts
      · exact handled ▸ leaves.spares
      · exact handled ▸ counts.spares
    | invalidate =>
      simp only [dispatchPacket, type, Option.some.injEq] at handled
      exact handled ▸ (leaves_handleInvalidate quiet clientFd packet).spares
    | nodeJoin | other =>
      simp only [dispatchPacket, type, Option.some.injEq] at handled
      exact handled ▸ .of_slot rfl

end Node

/-! ### A page that does not come -/

namespace PageState

/-- Nothing that node `w` has asked for is queued, on its way or being sent back. -/
structure Unasked (w : Nat) (v : PageState Page) : Prop where
  queued : v.queued w = []
  up : ∀ m ∈ v.up w, m.isRequest = false
  down : ∀ m ∈ v.down w, m.isPage = false

/-- Nor does it have the page. -/
structure Missing (w : Nat) (v : PageState Page) : Prop extends Unasked w v where
  mapping : v.mapping w = .unmapped

variable {T : Topology} {v v' taken : PageState Page} {w r n : Nat} {isWrite : Bool} {page : Page}

theorem all_tail {u : Nat} {links : Nat → List (Msg Page)} {m : Msg Page} {rest : List (Msg Page)}
    (head : links u = m :: rest) {kind : Msg Page → Bool} (none : ∀ m ∈ links w, kind m = false) :
    ∀ m ∈ Function.update links u rest w, kind m = false := by
  by_cases own : w = u
  · subst own
    rw [Function.update_self]
    exact fun other member => none other (head ▸ List.mem_cons_of_mem _ member)
  · rwa [Function.update_of_ne own]

theorem all_append {u : Nat} {links : Nat → List (Msg Page)} {m : Msg Page}
    {kind : Msg Page → Bool} (none : ∀ m ∈ links w, kind m = false) (other : kind m = false) :
    ∀ m' ∈ Function.update links u (links u ++ [m]) w, kind m' = false := by
  by_cases own : w = u
  · subst own
    rw [Function.update_self]
    intro m' member
    rcases List.mem_append.mp member with old | new
    · exact none m' old
    · exact List.mem_singleton.mp new ▸ other
  · rwa [Function.update_of_ne own]

namespace Missing

/-- What happens at other nodes leaves the page missing. -/
theorem of (missing : v.Missing w) (queued : v'.queued w = v.queued w) (up : v'.up w = v.up w)
    (down : v'.down w = v.down w) (mapping : v'.mapping w = v.mapping w) : v'.Missing w :=
  ⟨⟨queued ▸ missing.queued, up ▸ missing.up, down ▸ missing.down⟩, mapping ▸ missing.mapping⟩

/-- The coordinator takes a request of another node. -/
theorem takes (missing : v.Missing w) (worker : w ∈ T.workers) (takes : Takes T v r isWrite taken) :
    r ≠ w ∧ taken.Missing w := by
  have other : r ≠ w := by
    rintro rfl
    cases takes with
    | own => exact T.coordinator_not_worker worker
    | remote _ _ rest _ head => cases missing.up _ (head ▸ List.mem_cons_self)
  obtain ⟨queued, up⟩ := takes.other other.symm
  exact ⟨other, missing.of queued up (congrFun takes.down w) (congrFun takes.mapping w)⟩

theorem popUp (missing : v.Missing w) {u : Nat} {m : Msg Page} {rest : List (Msg Page)}
    (head : v.up u = m :: rest) : { v with up := Function.update v.up u rest }.Missing w :=
  { missing with up := all_tail head missing.up }

theorem post (missing : v.Missing w) {m : Msg Page} {u : Nat} (sent : u = w → m.isPage = false) :
    (v.post u m).Missing w := by
  refine { missing with down := fun other member => ?_ }
  rw [post_down] at member
  dsimp only at member
  split at member
  next own =>
    rcases List.mem_append.mp member with old | new
    · exact missing.down other old
    · exact List.mem_singleton.mp new ▸ sent own.symm
  · exact missing.down other member

theorem broadcast (missing : v.Missing w) (targets : Finset Nat) :
    (v.broadcast targets).Missing w := by
  refine { missing with down := fun other member => ?_ }
  rw [broadcast_down] at member
  dsimp only at member
  split at member
  · rcases List.mem_append.mp member with old | new
    · exact missing.down other old
    · exact List.mem_singleton.mp new ▸ rfl
  · exact missing.down other member

theorem setEntry (missing : v.Missing w) (e : GpdEntry) : (v.setEntry e).Missing w := { missing with }

theorem setSlot (missing : v.Missing w) (slot : CoordPending Page) : (v.setSlot slot).Missing w :=
  { missing with }

theorem setMapping (missing : v.Missing w) {m : Mapping Page} (other : w ≠ n) :
    (v.setMapping n m).Missing w :=
  missing.of rfl rfl rfl (Function.update_of_ne other _ _)

theorem install (missing : v.Missing w) (other : w ≠ n) : (v.install n page).Missing w :=
  missing.of rfl rfl rfl (Function.update_of_ne other _ _)

theorem lift (missing : v.Missing w) (other : w ≠ n) : (v.lift n).Missing w :=
  missing.of rfl rfl rfl (Function.update_of_ne other _ _)

theorem accept (missing : v.Missing w) (other : w ≠ n) : (v.accept n page).Missing w := by
  unfold PageState.accept
  split
  · exact missing.lift other
  · exact missing.install other
  · exact missing.install other
  · exact missing

theorem grant (missing : v.Missing w) (other : r ≠ w) :
    (v.grant T r page).Missing w := by
  unfold PageState.grant
  split
  · exact missing.install other.symm
  · exact missing.post fun own => absurd own other

/-- A copy that is dropped is missing, too. -/
theorem drop (missing : v.Missing w) (n : Nat) : (v.drop n).Missing w := by
  refine ⟨{ missing with }, ?_⟩
  by_cases own : w = n
  · exact own ▸ Function.update_self _ _ _
  · exact (Function.update_of_ne own _ _).trans missing.mapping

theorem dropIf (missing : v.Missing w) (condition : Prop) [Decidable condition] (n : Nat) :
    (v.dropIf condition n).Missing w := by
  unfold PageState.dropIf
  split
  · exact missing.drop n
  · exact missing

variable [Zero Page]

/-- No move brings the page to node `w` but a request of its own, which the fault handler queues. -/
theorem move (missing : v.Missing w) (worker : w ∈ T.workers)
    (requester : v.slot.requesterNodeId ≠ w) {label : PageLabel Page}
    (silent : ∀ isWrite, label ≠ .enqueue w isWrite) (moved : Move T v label v') : v'.Missing w := by
  have home : w ≠ T.coordinator := T.ne_coordinator worker
  cases moved with
  | join | overflow => exact missing.of rfl rfl rfl rfl
  | store n page member writable =>
    -- a store goes through only where the page is mapped
    refine missing.of rfl rfl rfl (Function.update_of_ne ?_ _ _)
    rintro rfl
    simp [missing.mapping, Mapping.isWritable] at writable
  | enqueue n isWrite =>
    refine missing.of (Function.update_of_ne ?_ _ _) rfl rfl rfl
    rintro rfl
    exact silent isWrite rfl
  | forward u isWrite rest _ head =>
    -- what is forwarded, received or served was asked for by somebody else
    have other : w ≠ u := by
      rintro rfl
      cases missing.queued.symm.trans head
    exact missing.of (Function.update_of_ne other _ _) (Function.update_of_ne other _ _) rfl rfl
  | receivePage u page rest _ head =>
    have other : w ≠ u := by
      rintro rfl
      cases missing.down _ (head ▸ List.mem_cons_self)
    refine accept ?_ other
    exact missing.of rfl rfl (Function.update_of_ne other _ _) rfl
  | receiveFetch u page rest _ head =>
    refine ⟨⟨missing.queued, ?_, all_tail head missing.down⟩, missing.mapping⟩
    exact all_append missing.up rfl
  | receiveInvalidate u rest _ head =>
    refine drop (v := { v with
      down := Function.update v.down u rest
      up := Function.update v.up u (v.up u ++ [Msg.ack]) }) ⟨⟨missing.queued, ?_, ?_⟩, ?_⟩ u
    · exact all_append missing.up rfl
    · exact all_tail head missing.down
    · exact missing.mapping
  | readPresent taken takes => exact (missing.takes worker takes).2
  | upgrade taken takes => exact ((missing.takes worker takes).2.setEntry _).lift home
  | upgradeWait taken takes =>
    exact (((missing.takes worker takes).2.setEntry _).setSlot _).broadcast _
  | fetch r isWrite fd taken takes =>
    exact ((missing.takes worker takes).2.setSlot _).post fun _ => rfl
  | zeroLocal isWrite taken takes =>
    exact ((missing.takes worker takes).2.setEntry _).install home
  | zeroRead r taken takes =>
    obtain ⟨other, missing⟩ := missing.takes worker takes
    exact (missing.setEntry _).post fun own => absurd own other
  | serveRead r page taken takes =>
    obtain ⟨other, missing⟩ := missing.takes worker takes
    exact ((missing.setEntry _).setMapping home).post fun own => absurd own other
  | serveWrite r page taken takes =>
    obtain ⟨other, missing⟩ := missing.takes worker takes
    exact ((missing.dropIf _ _).setEntry _).post fun own => absurd own other
  | serveWriteWait r page fd taken takes =>
    exact ((((missing.takes worker takes).2.dropIf _ _).setEntry _).setSlot _).broadcast _
  | unsolicited o page rest _ head => exact (missing.popUp head).accept home
  | replyRead o page rest _ head =>
    -- a transaction ends with a grant to the requester of the slot
    exact (((missing.popUp head).setEntry _).setSlot _).grant requester
  | replyWrite o page rest _ head =>
    exact ((((missing.popUp head).dropIf _ _).setEntry _).setSlot _).grant requester
  | replyWriteWait o page rest _ head =>
    exact ((((missing.popUp head).dropIf _ _).setEntry _).setSlot _).broadcast _
  | ackIgnored u rest _ head => exact missing.popUp head
  | ackCounted u rest _ head => exact (missing.popUp head).setSlot _
  | ackLift u rest _ head => exact ((missing.popUp head).setSlot _).lift home
  | ackGrant u rest _ head => exact ((missing.popUp head).setSlot _).grant requester

end Missing

end PageState

theorem downMsg_page {p : Nat} {packet : DsmPacket Page} {m : Msg Page}
    (decoded : downMsg p packet = some m) (page : m.isPage = true) :
    packet.type = .sendPage ∧ packet.pageIndex = p := by
  unfold downMsg at decoded
  split at decoded
  next own =>
    split at decoded
    · cases decoded
      cases page
    next type => exact ⟨type, own⟩
    · cases decoded
      cases page
    · cases decoded
  · cases decoded

/-- Only a message that waits is queued. -/
theorem message_of_enqueue {T : Topology} {s : Cluster Page} {e : Event Page} {n p : Nat}
    {isWrite : Bool} (label : s.pageLabel T p e = some (.enqueue n isWrite)) :
    ∃ fault ∈ (s.node n).uffdMessages, fault.pageIndex = p := by
  cases e with
  | load | evict => cases label
  | store =>
    simp only [Cluster.pageLabel] at label
    split at label <;> cases label
  | fault m =>
    obtain ⟨fault, head, label⟩ := Option.bind_eq_some_iff.mp label
    split at label
    · cases label
    next heard =>
      -- a message about the page that is not skipped
      split at label
      · cases label
      · cases label
        exact ⟨fault, List.mem_of_mem_head? head, not_not.mp fun other => heard (Or.inl other)⟩
  | drain m =>
    obtain ⟨req, -, label⟩ := Option.bind_eq_some_iff.mp label
    split at label
    · cases label
    · split at label <;> cases label
  | toCoordinator u =>
    obtain ⟨packet, -, label⟩ := Option.bind_eq_some_iff.mp label
    split at label
    · cases label
    · split at label
      · split at label <;> cases label
      · split at label <;> cases label
  | toWorker u =>
    obtain ⟨packet, -, label⟩ := Option.bind_eq_some_iff.mp label
    split at label <;> cases label

namespace Cluster

/-- Worker `w` does not have page `p`, has nothing of its own about it under way, and no thread of its
program waits to be heard. -/
structure Lost (T : Topology) (w p : Nat) (s : Cluster Page) : Prop where
  missing : (s.pageState T p).Missing w
  messages : ∀ fault ∈ (s.node w).uffdMessages, fault.pageIndex ≠ p
  slot : ¬ (s.slot T p).Serves (T.acceptedFd w)

namespace Lost

variable {T : Topology} {s t : Cluster Page} {w p : Nat} {e : Event Page}

/-- The slot does not record the worker as its requester. -/
theorem requester (lost : s.Lost T w p) (ok : ClusterOk T s) (worker : w ∈ T.workers) :
    (s.slot T p).requesterNodeId ≠ w := by
  intro own
  have asked : (s.slot T p).requesterNodeId ≠ 0 := own ▸ (T.workers_valid w worker).ne_zero
  obtain ⟨-, descriptor⟩ := (ok.coordinator.slots p).resolve_left asked
  refine lost.slot ⟨?_, Or.inl asked⟩
  exact (descriptor (own ▸ T.ne_coordinator worker)).trans (congrArg T.acceptedFd own)

variable [Zero Page]

theorem messages_step (lost : s.Lost T w p) (handling : e.isHandling = true)
    (next : s.step T e = some t) : ∀ fault ∈ (t.node w).uffdMessages, fault.pageIndex ≠ p := by
  by_cases engine : ∀ m, e ≠ .fault m
  · rw [uffdMessages_step handling engine next w]
    exact lost.messages
  · obtain ⟨m, rfl⟩ := not_forall_not.mp engine
    obtain ⟨-, fault, rest, waiting, rfl⟩ := Cluster.faultStep_cases next
    intro other member
    by_cases own : w = m
    · subst own
      simp only [Cluster.settle, Function.update_self,
        (Node.handleFault_rest { s.node w with uffdMessages := rest } fault).1] at member
      exact lost.messages other (waiting ▸ List.mem_cons_of_mem _ member)
    · simp only [Cluster.settle, Function.update_of_ne own] at member
      exact lost.messages other member

/-- The handlers leave the slot to other nodes. -/
theorem slot_step (lost : s.Lost T w p) (ok : ClusterOk T s) (worker : w ∈ T.workers)
    (handling : e.isHandling = true) (next : s.step T e = some t) :
    ¬ (t.slot T p).Serves (T.acceptedFd w) := by
  refine fun serves => lost.slot ?_
  have elsewhere {n : Nat} {c : Cluster Page} {node : Node Page} (nodes : c.node = s.node)
      (other : T.coordinator ≠ n) : (c.settle T n node).slot T p = s.slot T p := by
    simp [Cluster.slot, Cluster.settle, other, nodes]
  have here {c : Cluster Page} {node : Node Page} :
      (c.settle T T.coordinator node).slot T p = node.gpdPendingReqs p := by
    simp [Cluster.slot, Cluster.settle]
  cases e with
  | load | store | evict => cases handling
  | fault n =>
    obtain ⟨-, fault, rest, -, rfl⟩ := Cluster.faultStep_cases next
    by_cases home : T.coordinator = n
    · subst home
      rw [here] at serves
      exact Node.spares_handleFault { s.node T.coordinator with uffdMessages := rest } fault serves
    · exact elsewhere rfl home ▸ serves
  | drain n =>
    obtain ⟨-, req, rest, queue, rfl⟩ := Cluster.drainStep_cases next
    by_cases home : T.coordinator = n
    · -- a request of the coordinator is recorded without a descriptor
      subst home
      rw [here] at serves
      have inside : req.pageIndex < (s.node T.coordinator).numPages :=
        ok.coordinator.pages ▸ ok.coordinator.requests req (Or.inl (queue ▸ List.mem_cons_self))
      exact Node.spares_serveQueuedRequest
        (n := { s.node T.coordinator with sharedReqQueue := rest }) (ok.idle T.coordinator)
        ok.coordinator.fd inside p (T.acceptedFd_open w worker) serves
    · exact elsewhere rfl home ▸ serves
  | toCoordinator u =>
    obtain ⟨sender, packet, rest, node, head, handled, rfl⟩ := Cluster.toCoordinatorStep_cases next
    rw [here] at serves
    refine Node.spares_dispatchPacket (ok.idle T.coordinator) handled p (fun request about => ?_) serves
    intro same
    -- then the packet is a request of the worker itself
    obtain rfl := T.acceptedFd_injective w worker u sender same
    obtain ⟨isWrite, decoded⟩ : ∃ isWrite, upMsg p packet = some (.request isWrite) := by
      cases type : packet.type with
      | requestPageRead => exact ⟨false, by simp [upMsg, about, type]⟩
      | requestPageWrite => exact ⟨true, by simp [upMsg, about, type]⟩
      | _ =>
        rw [type] at request
        cases request
    have asks := up_cons (T := T) head decoded
    cases lost.missing.up _ (asks ▸ List.mem_cons_self)
  | toWorker u =>
    obtain ⟨sender, packet, rest, node, -, -, rfl⟩ := Cluster.toWorkerStep_cases next
    exact elsewhere rfl (T.ne_coordinator sender).symm ▸ serves

/-- An acknowledgement that finds no requester recorded may send the page, but not to the worker. -/
theorem stray (lost : s.Lost T w p) (ok : ClusterOk T s) (worker : w ∈ T.workers) {u : Nat}
    (label : s.pageLabel T p (.toCoordinator u) = some (.ack u))
    (waiting : 0 < (s.slot T p).expectedAcks) (next : s.toCoordinatorStep T u = some t) :
    (t.pageState T p).Missing w := by
  obtain ⟨sender, packet, rest, node, head, handled, rfl⟩ := Cluster.toCoordinatorStep_cases next
  obtain ⟨type, rfl⟩ := ack_of_label head label
  simp only [Node.dispatchPacket, type, Option.some.injEq] at handled
  subst handled
  have home : w ≠ T.coordinator := T.ne_coordinator worker
  have popped : (s.pageState T packet.pageIndex).up u =
      .ack :: rest.filterMap (upMsg packet.pageIndex) :=
    up_cons head (by simp [upMsg, type])
  have dropped := lost.missing.popUp popped
  rw [← pageState_dropUp] at dropped
  change (coordinatorView T packet.pageIndex _ _).Missing w
  rw [coordinatorView_eq]
  refine ⟨⟨?_, dropped.up, ?_⟩, ?_⟩
  · exact (Function.update_of_ne home _ _).trans dropped.queued
  · intro m member
    dsimp only at member
    rw [if_pos worker] at member
    rcases List.mem_append.mp member with old | new
    · exact dropped.down m old
    · -- a page would go to the descriptor of the slot
      obtain ⟨sent, found, decoded⟩ := List.mem_filterMap.mp new
      by_contra page
      obtain ⟨page, about⟩ := downMsg_page decoded (Bool.not_eq_false _ ▸ page)
      have goes := Node.forwards_handleInvalidateAck (ok.idle T.coordinator) packet (T.acceptedFd w)
        (List.mem_filterMap.mpr ⟨_, mem_sentOn.mp found, if_pos ⟨page, about⟩⟩)
      exact lost.slot ⟨goes.2.2.symm, Or.inr waiting⟩
  · exact (Function.update_of_ne home _ _).trans dropped.mapping

theorem step (lost : s.Lost T w p) (ok : ClusterOk T s) (worker : w ∈ T.workers)
    (inRange : p < T.numPages) (handling : e.isHandling = true) (next : s.step T e = some t) :
    t.Lost T w p := by
  refine ⟨?_, lost.messages_step handling next, lost.slot_step ok worker handling next⟩
  by_cases stray : (∃ u, s.pageLabel T p e = some (.ack u)) ∧ 0 < (s.slot T p).expectedAcks ∧
      (s.slot T p).requesterNodeId = 0
  · obtain ⟨⟨u, label⟩, waiting, -⟩ := stray
    obtain rfl : e = .toCoordinator u := event_of_ack label
    exact lost.stray ok worker label waiting next
  · have moved := step_moves ok inRange (fun ack waiting free => stray ⟨ack, waiting, free⟩)
      (isEviction_of_handling handling) next
    unfold PageStep at moved
    split at moved
    · exact moved ▸ lost.missing
    next label found =>
      refine lost.missing.move worker (lost.requester ok worker) (fun isWrite same => ?_) moved
      subst same
      obtain ⟨fault, waits, about⟩ := message_of_enqueue found
      exact lost.messages fault waits about

end Lost

end Cluster

/-! ### The read -/

/-- A read of node `n` returns these contents: however the handlers and engines are scheduled, they
map the page with them before they map it with anything else. -/
def Cluster.Reads [Zero Page] (T : Topology) (n p : Nat) (contents : Page) : Cluster Page → Prop :=
  Runs.Inevitable (Cluster.step T) (fun _ e => e.isHandling = true)
    (fun s => (s.node n).mapping p = .unmapped)
    (fun s => ((s.node n).mapping p).contents = some contents)

/-- Worker `w` calls page `p` present, and has no request for it under way. -/
structure Cluster.Unasked (T : Topology) (w p : Nat) (s : Cluster Page) : Prop where
  status : (s.node w).pageTable p = .valid
  reads : ∀ fault ∈ (s.node w).uffdMessages, fault.pageIndex = p → fault.isWrite = false
  page : (s.pageState T p).Unasked w
  slot : ¬ (s.slot T p).Serves (T.acceptedFd w)

instance (w : Nat) (v : PageState Page) : Decidable (v.Unasked w) :=
  decidable_of_iff (v.queued w = [] ∧ (∀ m ∈ v.up w, m.isRequest = false) ∧
      ∀ m ∈ v.down w, m.isPage = false)
    ⟨fun ⟨queued, up, down⟩ => ⟨queued, up, down⟩, fun ⟨queued, up, down⟩ => ⟨queued, up, down⟩⟩

instance (T : Topology) (w p : Nat) (s : Cluster Page) : Decidable (s.Unasked T w p) :=
  decidable_of_iff ((s.node w).pageTable p = .valid ∧
      (∀ fault ∈ (s.node w).uffdMessages, fault.pageIndex = p → fault.isWrite = false) ∧
      (s.pageState T p).Unasked w ∧ ¬ (s.slot T p).Serves (T.acceptedFd w))
    ⟨fun ⟨status, reads, page, slot⟩ => ⟨status, reads, page, slot⟩,
      fun ⟨status, reads, page, slot⟩ => ⟨status, reads, page, slot⟩⟩

section Read

variable [Zero Page] {T : Topology} {s t : Cluster Page} {w p : Nat}

omit [Zero Page] in
/-- A fault on another page, or a read of a page that the page table calls present. -/
theorem about_handleFault_ignored (n : Node Page) {fault : PageRequest}
    (ignored : fault.pageIndex = p → n.pageTable p = .valid ∧ fault.isWrite = false) :
    (n.handleFault fault).about p = n.about p := by
  by_cases own : fault.pageIndex = p
  · obtain ⟨valid, read⟩ := ignored own
    rw [Node.handleFault, if_pos ⟨own ▸ valid, read⟩]
  · exact Node.about_handleFault own n fault rfl

/-- The fault handler of a node takes all its messages, and leaves a page alone that none of them is
about but reads while it is called present. -/
theorem faults_ignored (idle : (s.node w).effects = []) (node : w ∈ T.nodes)
    (valid : (s.node w).pageTable p = .valid) (unmapped : (s.node w).mapping p = .unmapped)
    (reads : ∀ fault ∈ (s.node w).uffdMessages, fault.pageIndex = p → fault.isWrite = false) :
    ∃ v, Runs.Run (Cluster.step T)
        (fun s e => e.isHandling = true ∧ (s.node w).mapping p = .unmapped) s v ∧
      (v.node w).uffdMessages = [] ∧ (v.node w).about p = (s.node w).about p ∧
      v.toCoordinator = s.toCoordinator ∧ v.toWorker = s.toWorker ∧ ∀ m ≠ w, v.node m = s.node m := by
  -- induction on the messages: each is taken, and says nothing new about the page
  generalize messages : (s.node w).uffdMessages = waiting
  induction waiting generalizing s with
  | nil => exact ⟨s, .refl, messages, rfl, rfl, rfl, fun _ _ => rfl⟩
  | cons fault rest ih =>
    have next : s.step T (.fault w) = some (s.settle T w
        ({ s.node w with uffdMessages := rest }.handleFault fault)) := by
      simp only [Cluster.step, Cluster.faultStep, node, if_true, messages]
    obtain ⟨left, effects⟩ :=
      Node.handleFault_rest { s.node w with uffdMessages := rest } fault
    have silent := effects.trans idle
    have same := about_handleFault_ignored (p := p) { s.node w with uffdMessages := rest }
      fun own => ⟨valid, reads fault (by simp [messages]) own⟩
    obtain ⟨up, down⟩ := settle_silent (T := T) (s := s) (n := w) _ silent
    generalize handled : ({ s.node w with uffdMessages := rest } : Node Page).handleFault fault = n
      at next left silent same up down
    have here : (s.settle T w n).node w = { n with effects := [] } := Function.update_self _ _ _
    have about : ((s.settle T w n).node w).about p = (s.node w).about p := by
      rw [here, show ({ n with effects := [] } : Node Page) = n by rw [← silent]]
      exact same
    obtain ⟨v, run, none, kept, ups, downs, others⟩ := ih (s := s.settle T w n) (by rw [here])
      (by rw [← valid]; exact congrArg NodePage.status about)
      (by rw [← unmapped]; exact congrArg NodePage.mapping about)
      (fun later waits => reads later (by
        rw [here, show ({ n with effects := [] } : Node Page).uffdMessages = rest from left] at waits
        simp [messages, waits]))
      (by rw [here]; exact left)
    refine ⟨v, .head ⟨_, ⟨rfl, unmapped⟩, next⟩ run, none, kept.trans about, ups.trans up,
      downs.trans down, fun m other => (others m other).trans (Function.update_of_ne other _ _)⟩

omit [Zero Page] in
/-- The worker has nothing under way once its fault handler has taken all messages. -/
theorem Cluster.Unasked.lost {v : Cluster Page} (unasked : s.Unasked T w p)
    (unmapped : (s.node w).mapping p = .unmapped) (messages : (v.node w).uffdMessages = [])
    (about : (v.node w).about p = (s.node w).about p) (up : v.toCoordinator = s.toCoordinator)
    (down : v.toWorker = s.toWorker) (home : v.node T.coordinator = s.node T.coordinator) :
    v.Lost T w p := by
  refine ⟨⟨⟨?_, ?_, ?_⟩, (congrArg NodePage.mapping about).trans unmapped⟩, ?_, ?_⟩
  · exact (congrArg NodePage.queued about).trans unasked.page.queued
  · rw [Cluster.pageState, up]
    exact unasked.page.up
  · rw [Cluster.pageState, down]
    exact unasked.page.down
  · rw [messages]
    exact List.forall_mem_nil _
  · rw [Cluster.slot, home]
    exact unasked.slot

/-- A worker that calls the page present but does not have it reads it in vain, unless something of
its own is under way. -/
theorem read_swallowed (ok : ClusterOk T s) (worker : w ∈ T.workers) (inRange : p < T.numPages)
    (unasked : s.Unasked T w p) (unmapped : (s.node w).mapping p = .unmapped) :
    ∃ asked, s.step T (.load w p) = some asked ∧ ∀ contents, ¬ asked.Reads T w p contents := by
  have node := T.worker_mem worker
  have here : (s.raise w ⟨p, false⟩).node w =
      { s.node w with uffdMessages := (s.node w).uffdMessages ++ [⟨p, false⟩] } :=
    Function.update_self _ _ _
  refine ⟨s.raise w ⟨p, false⟩, ?_, fun contents reads => ?_⟩
  · simp [Cluster.step, Cluster.loadStep, node, inRange, unmapped, Mapping.isMapped]
  -- the fault handler skips the new message with the others
  obtain ⟨v, run, messages, about, up, down, others⟩ := faults_ignored (T := T) (p := p)
    (s := s.raise w ⟨p, false⟩) (w := w) (by rw [here]; exact ok.idle w) node
    (by rw [here]; exact unasked.status) (by rw [here]; exact unmapped) (by
      intro fault waits own
      rw [here] at waits
      rcases List.mem_append.mp waits with old | new
      · exact unasked.reads fault old own
      · rw [List.mem_singleton.mp new])
  rw [here] at about
  have sound : ClusterOk T v :=
    run.invariant (ClusterOk T) (ok.raise false inRange) fun _ _ _ ok _ next => ok.step next
  have away := (T.ne_coordinator worker).symm
  have lost : v.Lost T w p := unasked.lost unmapped messages about up down
    ((others _ away).trans (Function.update_of_ne away _ _))
  -- from there the read would have to be answered, but the page stays away
  have still : v.Reads T w p contents := reads.along <| run.mono fun _ _ both =>
    ⟨both.1, by simp [both.2, Mapping.contents]⟩
  refine still.not_trapped (fun s => ClusterOk T s ∧ s.Lost T w p) ?_ ?_ ⟨sound, lost⟩
  · intro s both
    have gone : (s.node w).mapping p = .unmapped := both.2.missing.mapping
    simp [gone, Mapping.contents]
  · rintro s t ⟨ok, lost⟩ ⟨e, handling, next⟩
    exact ⟨ok.step next, lost.step ok worker inRange handling next⟩

end Read

end TeleportVM
