import TeleportVM.SlotTurns

/-!
Which node is at the other end of each descriptor of a coordinator, while connections end and the
operating system hands out their descriptors again. The engine keeps descriptors in `node_fds`,
`coordinator_fd` and the pending slots, and both paths that close a connection clear the first two
only.
-/
namespace TeleportVM

variable {Page : Type}

/-- The threads of a node, and the node at the other end of each open connection. -/
structure Connections (Page : Type) where
  threads : NodeThreads Page
  peer : Int → Option Nat

inductive ConnectionEvent (Page : Type) where
  | accept (clientFd : Int) (w : Nat)
  | turn (e : NodeEvent Page)

namespace Connections

/-- Packets and the end of a stream come from open connections. A node names itself in its joins and
requests. -/
def Delivers (s : Connections Page) : NodeEvent Page → Prop
  | .receive clientFd packet => ∃ w ∈ s.peer clientFd,
      packet.type = .nodeJoin ∨ packet.type.isPageRequest = true → packet.senderNodeId = w
  | .closed clientFd => (s.peer clientFd).isSome = true
  | _ => True

instance (s : Connections Page) : ∀ e, Decidable (s.Delivers e)
  | .receive clientFd packet => inferInstanceAs (Decidable (∃ w ∈ s.peer clientFd,
      packet.type = .nodeJoin ∨ packet.type.isPageRequest = true → packet.senderNodeId = w))
  | .closed clientFd => inferInstanceAs (Decidable ((s.peer clientFd).isSome = true))
  | .load _ | .store _ _ | .fault | .drain | .finish | .evict _ => isTrue trivial

def peerAfter (s : Connections Page) : NodeEvent Page → Int → Option Nat
  | .closed clientFd => Function.update s.peer clientFd none
  | _ => s.peer

/-- `accept` returns any descriptor that is not open, one of an earlier connection among them. -/
def step [Zero Page] (s : Connections Page) : ConnectionEvent Page → Option (Connections Page)
  | .accept clientFd w =>
    if s.threads.task.isNone = true ∧ 0 ≤ clientFd ∧ s.peer clientFd = none then
      some { s with peer := Function.update s.peer clientFd (some w) }
    else none
  | .turn e => if s.Delivers e then (s.threads.step e).map fun t => ⟨t, s.peerAfter e⟩ else none

/-- A coordinator as `main` leaves it. -/
def initial [Zero Page] (id numPages : Nat) : Connections Page := ⟨.start id (-1) numPages, fun _ => none⟩

def slot (s : Connections Page) (p : Nat) : CoordPending Page := s.threads.node.gpdPendingReqs p

/-- Every stored descriptor is -1 or that of an open connection: in a live slot, of a connection of
the node that asked. -/
def StoredOpen (s : Connections Page) : Prop :=
  (∀ p < s.threads.node.numPages, (s.slot p).requesterNodeId ≠ 0 →
    (s.slot p).clientFd = -1 ∨ s.peer (s.slot p).clientFd = some (s.slot p).requesterNodeId) ∧
  (∀ m < 64, s.threads.node.nodeFds m = -1 ∨ (s.peer (s.threads.node.nodeFds m)).isSome = true) ∧
  (s.threads.node.coordinatorFd = -1 ∨ (s.peer s.threads.node.coordinatorFd).isSome = true)

instance (s : Connections Page) : Decidable s.StoredOpen :=
  inferInstanceAs (Decidable (_ ∧ _ ∧ _))

/-- A page that a live slot forwards or grants is sent on a connection of the node that asked. -/
def ForwardsToRequester (s : Connections Page) : ConnectionEvent Page → Connections Page → Prop
  | .turn (.receive _ packet), s' =>
    packet.type = .sendPage ∨ packet.type = .invalidateAck →
      (s.slot packet.pageIndex).requesterNodeId ≠ 0 →
      ∀ fd ∈ s'.threads.node.sentOf .sendPage packet.pageIndex,
        s.peer fd = some (s.slot packet.pageIndex).requesterNodeId
  | _, _ => True

instance (s : Connections Page) : ∀ e s', Decidable (s.ForwardsToRequester e s')
  | .turn (.receive _ packet), s' => inferInstanceAs (Decidable
      (packet.type = .sendPage ∨ packet.type = .invalidateAck →
        (s.slot packet.pageIndex).requesterNodeId ≠ 0 →
        ∀ fd ∈ s'.threads.node.sentOf .sendPage packet.pageIndex,
          s.peer fd = some (s.slot packet.pageIndex).requesterNodeId))
  | .turn (.load _), _ | .turn (.store _ _), _ | .turn .fault, _ | .turn .drain, _
  | .turn .finish, _ | .turn (.closed _), _ | .turn (.evict _), _ | .accept _ _, _ => isTrue trivial

/-- After the step every stored descriptor is open, and in it no page went to another node. -/
def Reaches (s : Connections Page) (e : ConnectionEvent Page) (s' : Connections Page) : Prop :=
  s'.StoredOpen ∧ s.ForwardsToRequester e s'

instance (s : Connections Page) (e : ConnectionEvent Page) (s' : Connections Page) :
    Decidable (s.Reaches e s') := inferInstanceAs (Decidable (_ ∧ _))

/-- The connection that ends is not one that a live slot would answer on. -/
def SparesSlots (s : Connections Page) : ConnectionEvent Page → Prop
  | .turn (.closed clientFd) => ∀ p < s.threads.node.numPages,
      (s.slot p).requesterNodeId ≠ 0 → (s.slot p).clientFd ≠ clientFd
  | _ => True

instance (s : Connections Page) : ∀ e, Decidable (s.SparesSlots e)
  | .turn (.closed clientFd) => inferInstanceAs (Decidable (∀ p < s.threads.node.numPages,
      (s.slot p).requesterNodeId ≠ 0 → (s.slot p).clientFd ≠ clientFd))
  | .turn (.load _) | .turn (.store _ _) | .turn .fault | .turn .drain | .turn .finish
  | .turn (.receive _ _) | .turn (.evict _) | .accept _ _ => isTrue trivial

/-! ### The descriptors in every state -/

/-- The descriptor is -1 for this node itself, and of an open connection for another. -/
def Belongs (s : Connections Page) (clientFd : Int) (w : Nat) : Prop :=
  clientFd = -1 ∧ w = s.threads.node.localNodeId ∨ s.peer clientFd = some w

/-- The entries of `node_fds` are connections of their nodes, in every run of a coordinator. -/
structure Registered (s : Connections Page) : Prop where
  role : s.threads.node.coordinatorFd = -1
  ranged : s.threads.Ranged
  absent : s.peer (-1) = none
  nodes : ∀ m, s.threads.node.nodeFds m ≠ -1 →
    m < 64 ∧ s.peer (s.threads.node.nodeFds m) = some m

/-- So are the descriptors in live slots, and those that a handler has yet to store. -/
structure Ok (s : Connections Page) : Prop where
  registered : s.Registered
  slots : ∀ p < s.threads.node.numPages, (s.slot p).requesterNodeId ≠ 0 →
    s.Belongs (s.slot p).clientFd (s.slot p).requesterNodeId
  tasks : ∀ task ∈ s.threads.task, ∀ asked ∈ task.asker, s.Belongs asked.1 asked.2

variable {s s' : Connections Page} {e : ConnectionEvent Page}

theorem Ok.storedOpen (ok : s.Ok) : s.StoredOpen := by
  refine ⟨fun p inside live => (ok.slots p inside live).imp_left And.left, fun m _ => ?_,
    Or.inl ok.registered.role⟩
  by_cases stored : s.threads.node.nodeFds m = -1
  · exact Or.inl stored
  · exact Or.inr (by rw [(ok.registered.nodes m stored).2]; rfl)

/-! ### A node connects -/

/-- The connections that are open stay open. -/
theorem peer_accept {clientFd fd : Int} {w m : Nat} (unused : s.peer clientFd = none)
    (connected : s.peer fd = some m) : Function.update s.peer clientFd (some w) fd = some m := by
  rw [Function.update_of_ne, connected]
  rintro rfl
  exact nomatch unused.symm.trans connected

theorem Registered.accept (registered : s.Registered) {clientFd : Int}
    (unused : s.peer clientFd = none) (valid : 0 ≤ clientFd) (w : Nat) :
    Registered ⟨s.threads, Function.update s.peer clientFd (some w)⟩ := by
  refine ⟨registered.role, registered.ranged, ?_, fun m stored => ?_⟩
  · -- descriptors the system hands out are not negative
    have other : (-1 : Int) ≠ clientFd := by omega
    exact (Function.update_of_ne other _ _).trans registered.absent
  · exact (registered.nodes m stored).imp_right (peer_accept unused)

theorem Ok.accept (ok : s.Ok) {clientFd : Int} (unused : s.peer clientFd = none)
    (valid : 0 ≤ clientFd) (w : Nat) :
    Ok ⟨s.threads, Function.update s.peer clientFd (some w)⟩ := by
  refine ⟨ok.registered.accept unused valid w, fun p inside live => ?_, fun task busy asked asker => ?_⟩
  · exact (ok.slots p inside live).imp_right (peer_accept unused)
  · exact (ok.tasks task busy asked asker).imp_right (peer_accept unused)

/-! ### A connection ends -/

theorem peer_closed {clientFd fd : Int} {m : Nat} (other : fd ≠ clientFd)
    (connected : s.peer fd = some m) : Function.update s.peer clientFd none fd = some m := by
  rw [Function.update_of_ne other, connected]

theorem Registered.closed (registered : s.Registered) (clientFd : Int) :
    Registered ⟨⟨s.threads.resume.closeConnection clientFd, none⟩,
      Function.update s.peer clientFd none⟩ := by
  have ranged := registered.ranged
  refine ⟨?_, ⟨ranged.id, ranged.queue, ranged.messages, nofun⟩, ?_, fun m stored => ?_⟩
  · simp [Node.closeConnection, NodeThreads.resume, registered.role]
  · show Function.update s.peer clientFd none (-1) = none
    rw [Function.update_apply, registered.absent, ite_self]
  · -- the entries of the connection were cleared
    by_cases cleared : s.threads.node.nodeFds m = clientFd ∧ m < 64
    · exact absurd (if_pos cleared) stored
    · have same : (s.threads.resume.closeConnection clientFd).nodeFds m = s.threads.node.nodeFds m :=
        if_neg cleared
      rw [same] at stored ⊢
      obtain ⟨small, connected⟩ := registered.nodes m stored
      exact ⟨small, peer_closed (fun own => cleared ⟨own, small⟩) connected⟩

theorem Ok.closed (ok : s.Ok) {clientFd : Int} (spares : s.SparesSlots (.turn (.closed clientFd))) :
    Ok ⟨⟨s.threads.resume.closeConnection clientFd, none⟩, Function.update s.peer clientFd none⟩ := by
  refine ⟨ok.registered.closed clientFd, fun p inside live => ?_, nofun⟩
  exact (ok.slots p inside live).imp_right (peer_closed (spares p inside live))

/-! ### A turn that closes no connection -/

/-- The node of a request that is taken up, and its connection. -/
theorem belongs_of_takesUp {p w : Nat} {clientFd : Int} {e : NodeEvent Page}
    (delivers : s.Delivers e) (takes : s.threads.TakesUp p w clientFd e) : s.Belongs clientFd w := by
  cases e with
  | drain => exact Or.inl ⟨takes.2.2, takes.2.1⟩
  | receive fd packet =>
    -- the sender of a request is the peer of its connection
    obtain ⟨kind, -, rfl, rfl⟩ := takes
    obtain ⟨w, connected, named⟩ := delivers
    exact Or.inr (named (Or.inr kind) ▸ connected)
  | load | store | fault | finish | closed | evict => exact absurd takes id

/-- The node and the connection that a slot is filled in with. -/
theorem Ok.answered (ok : s.Ok) {p w : Nat} {clientFd : Int} {e : NodeEvent Page}
    (inside : p < s.threads.node.numPages) (delivers : s.Delivers e)
    (source : s.threads.TakesUp p w clientFd e ∨ s.threads.Answers p w clientFd e ∨
      s.threads.Replies p w clientFd e) : s.Belongs clientFd w := by
  rcases source with takes | answers | replies
  · exact belongs_of_takesUp delivers takes
  · cases e with
    | finish =>
      -- the second half of a handler answers on the connection of the first
      obtain ⟨task, busy, -, asker⟩ := answers
      exact ok.tasks task busy _ asker
    | load | store | fault | drain | receive | closed | evict => exact absurd answers id
  · cases e with
    | receive fd packet =>
      -- the slot stays with its requester
      obtain ⟨-, -, live, rfl, rfl⟩ := replies
      exact ok.slots p inside live
    | load | store | fault | drain | finish | closed | evict => exact absurd replies id

variable [Zero Page]

theorem Registered.turn (registered : s.Registered) {e : NodeEvent Page} (delivers : s.Delivers e)
    (notClosed : ∀ fd, e ≠ .closed fd) {t : NodeThreads Page} (next : s.threads.step e = some t) :
    Registered ⟨t, s.peer⟩ := by
  have stays := NodeThreads.stays_of_step registered.ranged next
  refine ⟨stays.role registered.role, stays.ranged, registered.absent, fun m stored => ?_⟩
  -- only a join or a request stores a descriptor: its connection is one of the node it names
  by_cases received : ∃ fd packet, e = .receive fd packet
  · obtain ⟨fd, packet, rfl⟩ := received
    rcases NodeThreads.nodeFds_of_receive next m with same | ⟨kind, sender, small, fds⟩
    · rw [same] at stored ⊢
      exact registered.nodes m stored
    · obtain ⟨w, connected, named⟩ := delivers
      refine ⟨small, ?_⟩
      rw [fds, sender, named kind]
      exact connected
  · have same := NodeThreads.nodeFds_of_step next (fun fd packet is => received ⟨fd, packet, is⟩) notClosed
    rw [same] at stored ⊢
    exact registered.nodes m stored

/-- Such a turn disconnects nobody. -/
theorem Registered.connected_turn (registered : s.Registered) {e : NodeEvent Page}
    (delivers : s.Delivers e) (notClosed : ∀ fd, e ≠ .closed fd) {t : NodeThreads Page}
    (next : s.threads.step e = some t) {m : Nat} (connected : s.threads.node.nodeFds m ≠ -1) :
    t.node.nodeFds m ≠ -1 := by
  by_cases received : ∃ fd packet, e = .receive fd packet
  · obtain ⟨fd, packet, rfl⟩ := received
    rcases NodeThreads.nodeFds_of_receive next m with same | ⟨-, -, -, fds⟩
    · rwa [same]
    · -- the new entry is an open connection, and -1 is none
      obtain ⟨w, opened, -⟩ := delivers
      rw [fds]
      rintro rfl
      rw [registered.absent] at opened
      exact absurd opened (Option.not_mem_none w)
  · rwa [NodeThreads.nodeFds_of_step next (fun fd packet is => received ⟨fd, packet, is⟩) notClosed]

theorem Ok.turn (ok : s.Ok) {e : NodeEvent Page} (delivers : s.Delivers e)
    (notClosed : ∀ fd, e ≠ .closed fd) {t : NodeThreads Page} (next : s.threads.step e = some t) :
    Ok ⟨t, s.peer⟩ := by
  have registered := ok.registered
  have stays := NodeThreads.stays_of_step registered.ranged next
  refine ⟨registered.turn delivers notClosed next, fun p inside live => ?_,
    fun task busy asked asker => ?_⟩
  · -- a slot keeps its requester and descriptor, or is filled in for the request that is served
    simp only [slot] at live ⊢
    rw [stays.numPages] at inside
    rw [Belongs, stays.id]
    cases NodeThreads.slotTurn_of_step registered.role registered.ranged next p with
    | leave leaves =>
      rw [leaves.slot] at live ⊢
      exact ok.slots p inside live
    | fetch w clientFd takes _ fetches =>
      rw [fetches.requester, fetches.clientFd]
      exact belongs_of_takesUp delivers takes
    | wait w clientFd targets source _ waits =>
      rw [waits.requester, waits.clientFd]
      exact ok.answered inside delivers source
    | complete w clientFd _ _ completes =>
      rw [completes.slot] at live
      exact absurd rfl live
    | count _ _ counts =>
      -- with the last acknowledgement the slot is free
      rw [counts.requester] at live ⊢
      rw [counts.clientFd]
      split at live
      · exact absurd rfl live
      next more =>
        rw [if_neg more]
        exact ok.slots p inside live
  · rw [Belongs, stays.id]
    rcases NodeThreads.task_of_step next task busy with kept | takes
    · exact ok.tasks task kept asked asker
    · exact belongs_of_takesUp delivers (takes asked asker)

/-! ### Every step -/

theorem initial_registered {id : Nat} (valid : ValidNode id) (numPages : Nat) :
    (initial id numPages : Connections Page).Registered where
  role := rfl
  ranged := NodeThreads.start_ranged valid (-1) numPages
  absent := rfl
  nodes _ stored := absurd rfl stored

theorem initial_ok {id : Nat} (valid : ValidNode id) (numPages : Nat) :
    (initial id numPages : Connections Page).Ok where
  registered := initial_registered valid numPages
  slots _ _ live := absurd rfl live
  tasks _ busy := absurd busy (Option.not_mem_none _)

theorem step_turn_cases {e : NodeEvent Page} (next : s.step (.turn e) = some s') :
    s.Delivers e ∧ ∃ t, s.threads.step e = some t ∧ s' = ⟨t, s.peerAfter e⟩ := by
  simp only [step] at next
  split at next
  next delivers =>
    obtain ⟨t, turned, rfl⟩ := Option.map_eq_some_iff.mp next
    exact ⟨delivers, t, turned, rfl⟩
  · cases next

/-- What a step is: a connection, the end of one, or a turn that closes none. -/
theorem step_cases (next : s.step e = some s') :
    (∃ clientFd w, e = .accept clientFd w ∧ s.threads.task = none ∧ 0 ≤ clientFd ∧
      s.peer clientFd = none ∧ s' = ⟨s.threads, Function.update s.peer clientFd (some w)⟩) ∨
    (∃ clientFd, e = .turn (.closed clientFd) ∧ (s.peer clientFd).isSome = true ∧
      s' = ⟨⟨s.threads.resume.closeConnection clientFd, none⟩, Function.update s.peer clientFd none⟩) ∨
    ∃ turn t, e = .turn turn ∧ s.Delivers turn ∧ (∀ fd, turn ≠ .closed fd) ∧
      s.threads.step turn = some t ∧ s' = ⟨t, s.peer⟩ := by
  cases e with
  | accept clientFd w =>
    simp only [Connections.step] at next
    split at next
    next free =>
      cases next
      exact Or.inl ⟨clientFd, w, rfl, Option.isNone_iff_eq_none.mp free.1, free.2.1, free.2.2, rfl⟩
    · cases next
  | turn turn =>
    obtain ⟨delivers, t, turned, rfl⟩ := step_turn_cases next
    right
    cases turn with
    | closed clientFd =>
      cases NodeThreads.turn_of_step turned with
      | closed => exact Or.inl ⟨clientFd, rfl, delivers, rfl⟩
    | load | store | fault | drain | receive | finish | evict =>
      exact Or.inr ⟨_, t, rfl, delivers, nofun, turned, rfl⟩

theorem Registered.step (registered : s.Registered) (next : s.step e = some s') : s'.Registered := by
  rcases step_cases next with ⟨_, w, rfl, -, valid, unused, rfl⟩ | ⟨clientFd, rfl, -, rfl⟩ |
    ⟨_, _, rfl, delivers, notClosed, turned, rfl⟩
  · exact registered.accept unused valid w
  · exact registered.closed clientFd
  · exact registered.turn delivers notClosed turned

theorem Ok.step (ok : s.Ok) (spares : s.SparesSlots e) (next : s.step e = some s') : s'.Ok := by
  rcases step_cases next with ⟨_, w, rfl, -, valid, unused, rfl⟩ | ⟨_, rfl, -, rfl⟩ |
    ⟨_, _, rfl, delivers, notClosed, turned, rfl⟩
  · exact ok.accept unused valid w
  · exact ok.closed spares
  · exact ok.turn delivers notClosed turned

theorem Ok.forwards (ok : s.Ok) (next : s.step e = some s') : s.ForwardsToRequester e s' := by
  cases e with
  | accept => trivial
  | turn e =>
    cases e with
    | receive clientFd packet =>
      intro kind live fd sent
      obtain ⟨-, t, turned, rfl⟩ := step_turn_cases next
      -- the page goes to the descriptor in the slot, which is the requester's
      obtain ⟨inside, other, rfl⟩ := NodeThreads.forwards_of_receive ok.registered.role kind live turned fd sent
      rcases ok.slots packet.pageIndex inside live with ⟨-, own⟩ | connected
      · exact absurd own other
      · exact connected
    | load | store | fault | drain | finish | closed | evict => trivial

theorem reaches_iff (ok : s.Ok) (next : s.step e = some s') : s.Reaches e s' ↔ s.SparesSlots e := by
  constructor
  · intro reaches
    rcases step_cases next with ⟨_, _, rfl, -⟩ | ⟨clientFd, rfl, opened, rfl⟩ |
      ⟨turn, _, rfl, -, notClosed, -⟩
    · trivial
    · intro p inside live same
      -- the slot keeps the descriptor, which is no longer one of an open connection
      rcases reaches.1.1 p inside live with none | connected
      · have closes : (s.slot p).clientFd = -1 := none
        rw [← same, closes, ok.registered.absent] at opened
        cases opened
      · have gone : Function.update s.peer clientFd none (s.slot p).clientFd = some _ := connected
        rw [same, Function.update_self] at gone
        cases gone
    · cases turn with
      | closed fd => exact absurd rfl (notClosed fd)
      | load | store | fault | drain | receive | finish | evict => trivial
  · intro spares
    exact ⟨(ok.step spares next).storedOpen, ok.forwards next⟩

end Connections

/-- Whatever connects, asks and disconnects, and whatever descriptors the operating system hands out,
every stored descriptor is open and every page of a live slot goes to the node that asked, exactly if
no connection ends on which a live slot would answer. -/
theorem grants_reach_requester_iff [Zero Page] (id : Nat) (valid : ValidNode id) (numPages : Nat)
    (events : List (ConnectionEvent Page)) :
    Runs.EveryStep Connections.step Connections.Reaches (.initial id numPages) events ↔
      Runs.EveryStep Connections.step (fun s e _ => s.SparesSlots e) (.initial id numPages) events := by
  apply Runs.everyStep_iff_while Connections.Ok
  · intro s e s' ok next
    exact Connections.reaches_iff ok next
  · intro s e s' ok spares next
    exact ok.step spares next
  · exact Connections.initial_ok valid numPages

/-- Node 2 owns page 0 when node 3 asks for it, and node 4, which had connected and left, comes back
on the descriptor of its first connection. -/
def reusedDescriptor : List (ConnectionEvent PageBytes) :=
  [.accept 12 2, .accept 14 4, .turn (.receive 12 ⟨.requestPageWrite, 0, 2, 0⟩), .turn .finish,
    .turn (.closed 14), .accept 13 3, .turn (.receive 13 ⟨.requestPageRead, 0, 3, 0⟩), .accept 14 4,
    .turn (.receive 12 ⟨.sendPage, 0, 2, 0⟩)]

theorem grants_reach_requester_reused :
    Runs.EveryStep Connections.step Connections.Reaches (.initial 1 4) reusedDescriptor :=
  (grants_reach_requester_iff 1 (by decide) 4 reusedDescriptor).mpr (by decide +kernel)

/-- Node 3 leaves while page 0 is fetched for it, and node 4 is sent the page. -/
theorem page_sent_to_other_node : ¬ ∀ events : List (ConnectionEvent PageBytes),
    Runs.EveryStep Connections.step Connections.Reaches (.initial 1 4) events := by
  intro claim
  exact absurd (claim [.accept 12 2, .turn (.receive 12 ⟨.requestPageWrite, 0, 2, 0⟩), .turn .finish,
    .accept 13 3, .turn (.receive 13 ⟨.requestPageRead, 0, 3, 0⟩), .turn (.closed 13), .accept 13 4,
    .turn (.receive 12 ⟨.sendPage, 0, 2, 0⟩)]) (by decide +kernel)

end TeleportVM
