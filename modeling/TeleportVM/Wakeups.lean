import TeleportVM.SessionLifetime
import TeleportVM.Lib.EdgeTriggered

/-!
Every descriptor of the event loop is edge-triggered, so that epoll says once that there is
something to read. When the engine waits, it has read everything.
-/
namespace TeleportVM

namespace EventLoop

variable {s s' : EventLoop} {fd : Int} {a : Nat}

/-! ### No source of work is overlooked -/

open EdgeTriggered (Poll)
open EdgeTriggered.Poll (Moves Move)

/-- The descriptor whose loop the engine is in; that of the request queue has been read by then. -/
def handling (s : EventLoop) : Option Int :=
  match s.activity with
  | .accepting => some s.sockFd
  | .reading a => (s.heap a).map Session.fd
  | .polling | .popping => none

/-- The loop as one that polls descriptors. -/
def poll (s : EventLoop) : Poll Int where
  ready := s.ready
  taken := s.epollEvents.filterMap fun event => (s.heap event.1).map Session.fd
  handling := s.handling

def watch (s : EventLoop) : Poll Int × (Int → Prop) := (s.poll, fun fd => s.readable fd = true)

theorem poll_trigger (known : (s.interests fd).isSome = true) :
    (s.trigger fd).poll = s.poll.trigger fd := by
  unfold trigger Poll.trigger
  by_cases announced : fd ∈ s.ready
  · rw [if_neg fun both => both.2 announced, if_pos (show fd ∈ s.poll.ready from announced)]
  · rw [if_pos ⟨known, announced⟩, if_neg (show fd ∉ s.poll.ready from announced)]
    rfl

theorem readable_trigger (fd other : Int) : (s.trigger fd).readable other = s.readable other := by
  unfold trigger
  split <;> rfl

theorem moves_works (same : s'.poll = s.poll)
    (fewer : ∀ fd, s'.readable fd = true → s.readable fd = true) : Moves s.watch s'.watch := by
  unfold watch
  rw [same]
  exact .single (.works fewer)

/-- Work arrives at a descriptor of the epoll set, which is announced. -/
theorem moves_arrives (same : s'.poll = s.poll) (known : (s'.interests fd).isSome = true)
    (others : ∀ other, other ≠ fd → s'.readable other = true → s.readable other = true) :
    Moves s.watch (s'.trigger fd).watch := by
  unfold watch
  rw [poll_trigger known, same]
  refine .single (.arrives fd fun other apart work => others other apart ?_)
  rw [← readable_trigger fd other]
  exact work

theorem readable_setSocket_other (socket : Socket) {other : Int} (apart : other ≠ fd) :
    (s.setSocket fd socket).readable other = s.readable other := by
  have same : (s.setSocket fd socket).sockets other = s.sockets other :=
    Function.update_of_ne apart _ _
  unfold readable
  rw [same]
  rfl

theorem readable_connected {socket : Socket} (peer : s.kind fd = .peer)
    (connected : s.sockets fd = some socket) :
    s.readable fd = (!socket.unread.isEmpty || socket.ended) := by
  obtain ⟨notSock, notNotify⟩ := kind_peer peer
  simp [readable, notSock, notNotify, connected]

/-- A descriptor without a session has nothing to read. -/
theorem Sound.readable_interest (sound : s.Sound) (work : s.readable fd = true) :
    (s.interests fd).isSome = true := by
  unfold readable at work
  split at work
  next own => exact own ▸ sound.listening
  · split at work
    next own => exact own ▸ sound.notified
    · obtain ⟨socket, connected, -⟩ := (Option.any_eq_true _ _).mp work
      exact ((sound.connected fd).mp (by rw [connected]; rfl)).1

theorem moves_withThreads (sound : s.Sound) (t : NodeThreads PageBytes) :
    Moves s.watch (s.withThreads t).watch := by
  unfold withThreads
  split
  · -- a request more is announced by the descriptor of the queue
    refine moves_arrives rfl sound.notified fun other apart work => ?_
    unfold readable at work ⊢
    rw [if_neg apart] at work ⊢
    exact work
  · exact moves_works rfl fun _ work => work

/-- Something happens on a connection. -/
theorem moves_socket (sound : s.Sound) {socket : Socket} (connected : s.sockets fd = some socket)
    (socket' : Socket) : Moves s.watch ((s.setSocket fd socket').trigger fd).watch := by
  have known := ((sound.connected fd).mp (by rw [connected]; rfl)).1
  refine moves_arrives rfl known fun other apart work => ?_
  rwa [readable_setSocket_other socket' apart] at work

/-! ### Work that comes to an end -/

section Handling

variable {p : Poll Int} {pending : Int → Prop} (handling : p.handling = some fd)
  (fewer : ∀ other, s'.readable other = true → pending other)
include fewer

/-- The loop stays with the descriptor. -/
theorem moves_stays (same : s'.poll = p) : Moves (p, pending) s'.watch := by
  unfold watch
  rw [same]
  exact .single (.works fewer)

include handling

/-- The loop leaves a descriptor at which nothing is left. -/
theorem moves_finishes (same : s'.poll = { p with handling := none })
    (done : s'.readable fd = false) : Moves (p, pending) s'.watch := by
  unfold watch
  rw [same]
  refine .tail (.single (.works fewer)) (.finishes fun other turned => ?_)
  rw [handling] at turned
  cases turned
  rw [done]
  exact Bool.false_ne_true

/-- The descriptor is closed. -/
theorem moves_closes
    (same : s'.poll = { p with
      ready := p.ready.filter (· ≠ fd)
      handling := none })
    (done : s'.readable fd = false) : Moves (p, pending) s'.watch := by
  have idle : ¬ s'.readable fd = true := by
    rw [done]
    exact Bool.false_ne_true
  unfold watch
  rw [same]
  refine .tail (.tail (.single (.works fewer)) (.finishes fun other turned => ?_))
    (.withdraws fd idle)
  rw [handling] at turned
  cases turned
  exact idle

end Handling

/-- A session that no event points to may change. -/
theorem taken_update (last : a ∉ s.epollEvents.map Prod.fst) (session : Option Session) :
    s.epollEvents.filterMap (fun event => (Function.update s.heap a session event.1).map Session.fd) =
      s.poll.taken := by
  refine List.filterMap_congr fun event later => ?_
  have other : event.1 ≠ a := by
    rintro rfl
    exact last (List.mem_map_of_mem later)
  rw [Function.update_of_ne other]

theorem readable_closed (peer : s.kind fd = .peer) (other : Int) :
    ({ s with sockets := Function.update s.sockets fd none } : EventLoop).readable other =
      if other = fd then false else s.readable other := by
  obtain ⟨notSock, notNotify⟩ := kind_peer peer
  by_cases own : other = fd
  · subst own
    simp [readable, notSock, notNotify]
  · have same : Function.update s.sockets fd none other = s.sockets other :=
      Function.update_of_ne own _ _
    rw [if_neg own]
    unfold readable
    dsimp only
    rw [same]

theorem moves_closeSession {pending : Int → Prop} (sound : s.Sound) {io : PeerSession}
    (allocated : s.heap a = some ⟨fd, .peer, io⟩) (last : a ∉ s.epollEvents.map Prod.fst)
    (fewer : ∀ other, s.readable other = true → pending other)
    (closed : s.closeSession a fd = some s') :
    Moves ({ s.poll with handling := some fd }, pending) s'.watch := by
  obtain ⟨t, -, rfl⟩ := Option.map_eq_some_iff.mp closed
  have peer : s.kind fd = .peer := (sound.type_eq allocated).symm
  have readable := readable_closed peer
  refine moves_closes rfl (fun other work => fewer other ?_) ?_ ?_
  · have work : ({ s with sockets := Function.update s.sockets fd none } : EventLoop).readable other =
        true := work
    rw [readable other] at work
    split at work
    · cases work
    · exact work
  · exact congrArg (fun taken => (⟨s.ready.filter (· ≠ fd), taken, none⟩ : Poll Int))
      (taken_update last none)
  · exact (readable fd).trans (if_pos rfl)

theorem moves_turnsTo {mask : EventMask} {rest : List (Nat × EventMask)} {session : Session}
    (polling : s.activity = .polling) (first : s.epollEvents = (a, mask) :: rest)
    (allocated : s.heap a = some session) : Moves s.watch
      ({ ({ s with epollEvents := rest } : EventLoop).poll with handling := some session.fd },
        fun fd => s.readable fd = true) := by
  have free : s.poll.handling = none := by
    change s.handling = none
    unfold EventLoop.handling
    rw [polling]
  refine .single (.turns (p := s.poll) session.fd _ ?_ free)
  unfold poll
  rw [first, List.filterMap_cons, allocated]
  rfl

/-- The interest of the descriptor changes, and the kernel looks at it again. -/
theorem moves_epollCtl {pending : Int → Prop} {interest : Interest}
    (idle : s.poll = { s.poll with handling := none })
    (fewer : ∀ other, s.readable other = true → pending other) :
    Moves ({ s.poll with handling := some fd }, pending) (s.epollCtl fd interest).watch := by
  unfold epollCtl
  dsimp only
  have found : Function.update s.interests fd (some interest) fd = some interest :=
    Function.update_self _ _ _
  split
  · unfold watch
    rw [poll_trigger (congrArg Option.isSome found)]
    have announced : s.poll.trigger fd =
        { ({ s.poll with handling := some fd } : Poll Int).trigger fd with handling := none } := by
      have handled := Poll.trigger_with s.poll fd (some fd)
      have unhandled := Poll.trigger_with s.poll fd none
      rw [handled]
      exact (congrArg (Poll.trigger · fd) idle).trans unhandled
    refine .tail (.single (.rearms fd rfl)) ?_
    rw [← announced]
    refine .works fun other work => fewer other ?_
    rw [readable_trigger] at work
    exact work
  next silent =>
    refine moves_finishes rfl fewer idle ?_
    rw [polled_of_interest found] at silent
    by_contra work
    rw [Bool.not_eq_false] at work
    refine silent ?_
    rw [if_pos]
    · rfl
    · rw [Bool.or_eq_true]
      exact Or.inl work

theorem moves_handleEvent {pending : Int → Prop} (sound : s.Sound) {mask : EventMask}
    {session : Session} (polling : s.activity = .polling) (allocated : s.heap a = some session)
    (last : a ∉ s.epollEvents.map Prod.fst)
    (fewer : ∀ other, s.readable other = true → pending other)
    (handled : s.handleEvent a mask = some s') :
    Moves ({ s.poll with handling := some session.fd }, pending) s'.watch := by
  have type := sound.type_eq allocated
  have idle : s.poll = { s.poll with handling := none } := by
    unfold poll EventLoop.handling
    rw [polling]
  unfold EventLoop.handleEvent at handled
  rw [allocated] at handled
  dsimp only at handled
  obtain ⟨fd, kind, io⟩ := session
  cases kind with
  | listener =>
    cases handled
    obtain rfl : fd = s.sockFd := kind_listener type.symm
    exact moves_stays fewer rfl
  | queue =>
    obtain rfl : fd = s.notifyFd := kind_queue type.symm
    have readable : s.readable s.notifyFd = decide (0 < s.counter) := by
      unfold EventLoop.readable
      rw [if_neg (Ne.symm sound.apart), if_pos rfl]
    dsimp only at handled
    split at handled
    · -- the counter is reset before the queue is emptied
      cases handled
      refine moves_finishes rfl (fun other work => ?_) rfl ?_
      · unfold EventLoop.readable at work
        by_cases own : other = s.notifyFd
        · subst own
          simp [Ne.symm sound.apart] at work
        · refine fewer other ?_
          unfold EventLoop.readable
          rw [if_neg own] at work ⊢
          exact work
      · unfold EventLoop.readable
        simp [Ne.symm sound.apart]
    next silent =>
      cases handled
      refine moves_finishes rfl fewer idle ?_
      rw [readable]
      exact decide_eq_false silent
  | peer =>
    dsimp only at handled
    unfold peerEvent at handled
    split at handled
    · split at handled
      · exact moves_closeSession sound allocated last fewer handled
      · -- the end of a connect: what there is to read is announced again
        cases handled
        obtain ⟨out, known⟩ : ∃ out, s.interests fd = some ⟨a, out⟩ := sound.held a _ allocated
        exact moves_epollCtl idle fewer
    · cases handled
      refine moves_stays fewer ?_
      exact congrArg (fun session : Option Session =>
        ({ s.poll with handling := session.map Session.fd } : Poll Int)) allocated

/-- A round of `recv` takes bytes that were there, closes the connection or leaves it empty. -/
theorem moves_receive (sound : s.Sound) {count : Nat} (reading : s.activity = .reading a)
    (received : s.receive a count = some s') : Moves s.watch s'.watch := by
  obtain ⟨last, fd, io, allocated⟩ := sound.reading a reading
  obtain ⟨socket, connected⟩ := sound.socket_of_peer allocated
  have peer : s.kind fd = .peer := (sound.type_eq allocated).symm
  have own : s.poll = { s.poll with handling := some fd } := by
    have handling : s.handling = some fd := by
      unfold EventLoop.handling
      rw [reading]
      exact congrArg (Option.map Session.fd) allocated
    unfold poll
    rw [handling]
  have close (closed : s.closeSession a fd = some s') : Moves s.watch s'.watch := by
    unfold watch
    rw [own]
    exact moves_closeSession sound allocated last (fun _ work => work) closed
  unfold receive at received
  rw [allocated] at received
  dsimp only at received
  rw [connected] at received
  dsimp only at received
  have readable := readable_connected peer connected
  split at received
  next some =>
    split at received
    · let io' := ((io.store (socket.unread.take count)).dispatch).1
      let rest : Socket := { socket with unread := socket.unread.drop count }
      let stored : EventLoop := { s with heap := Function.update s.heap a (.some ⟨fd, .peer, io'⟩) }
      have kept : (stored.setSocket fd rest).poll = s.poll := by
        have again : (Function.update s.heap a (.some ⟨fd, .peer, io'⟩) a).map Session.fd =
            (s.heap a).map Session.fd := by
          rw [Function.update_self, allocated]
          rfl
        have handling : (stored.setSocket fd rest).handling = s.handling := by
          unfold EventLoop.handling
          rw [show (stored.setSocket fd rest).activity = .reading a from reading, reading]
          exact again
        have taken := taken_update last (.some ⟨fd, .peer, io'⟩)
        unfold poll
        rw [handling]
        exact congrArg (fun taken => (⟨s.ready, taken, s.handling⟩ : Poll Int)) taken
      have takes : Moves s.watch (stored.setSocket fd rest).watch := by
        refine moves_works kept fun other work => ?_
        by_cases same : other = fd
        · rw [same, readable]
          simp [some]
        · rw [readable_setSocket_other _ same] at work
          exact work
      split at received
      · cases received
        exact takes
      · obtain ⟨t, -, rfl⟩ := Option.map_eq_some_iff.mp received
        have sound' : (stored.setSocket fd rest).Sound :=
          (sound.setIo allocated io').setSocket (congrArg Option.isSome connected) rest
        exact takes.trans (moves_withThreads sound' t)
    · cases received
  next empty =>
    have empty : socket.unread = [] := not_not.mp empty
    split at received
    · exact close received
    next going =>
      cases received
      unfold watch
      rw [own]
      refine moves_finishes rfl (fun _ work => work) rfl ?_
      refine Eq.trans readable ?_
      simp [empty, Bool.eq_false_iff.mpr going]

/-- An accepted connection is announced if something has come on it already. -/
theorem moves_accept (sound : s.Sound) {socket : Socket} (accepting : s.activity = .accepting) (waiting : 0 < s.backlog)
    (newFd : s.interests fd = none) (newAddress : s.heap a = none) :
    Moves s.watch (({ s with
      backlog := s.backlog - 1
      heap := Function.update s.heap a (some ⟨fd, .peer, .cleared⟩) }.setSocket fd
        socket).epollCtl fd ⟨a, false⟩).watch := by
  have last : a ∉ s.epollEvents.map Prod.fst := by
    intro found
    obtain ⟨event, later, rfl⟩ := List.mem_map.mp found
    have allocated := sound.pointed event later
    simp [newAddress] at allocated
  let entered : EventLoop := { s with
    backlog := s.backlog - 1
    heap := Function.update s.heap a (some ⟨fd, .peer, .cleared⟩)
    sockets := Function.update s.sockets fd (some socket)
    interests := Function.update s.interests fd (some ⟨a, false⟩) }
  have found : entered.interests fd = some ⟨a, false⟩ := Function.update_self _ _ _
  have kept : entered.poll = s.poll := by
    have handling : entered.handling = s.handling := by
      unfold EventLoop.handling
      rw [show entered.activity = .accepting from accepting]
    unfold poll
    rw [handling]
    exact congrArg (fun taken => (⟨s.ready, taken, s.handling⟩ : Poll Int))
      (taken_update last (some ⟨fd, .peer, .cleared⟩))
  have others (other : Int) (apart : other ≠ fd) (work : entered.readable other = true) :
      s.readable other = true := by
    have same : entered.sockets other = s.sockets other := Function.update_of_ne apart _ _
    unfold readable at work ⊢
    rw [same] at work
    split
    · exact decide_eq_true waiting
    next notSock =>
      rw [if_neg notSock] at work
      exact work
  change Moves s.watch (if (entered.polled fd).isSome then entered.trigger fd else entered).watch
  split
  · exact moves_arrives kept (congrArg Option.isSome found) others
  next silent =>
    refine moves_works kept fun other work => ?_
    by_cases same : other = fd
    · subst same
      rw [polled_of_interest found, work] at silent
      simp at silent
    · exact others other same work

theorem moves_step (sound : s.Sound) {e : LoopEvent} (accepts : e.isAcceptError = false)
    (next : s.step e = some s') : Moves s.watch s'.watch := by
  cases turn_of_step next with
  | thread e t => exact moves_withThreads sound t
  | arrives =>
    refine moves_arrives rfl sound.listening fun other apart work => ?_
    unfold readable at work ⊢
    rw [if_neg apart] at work ⊢
    exact work
  | delivers fd chunk socket connected => exact moves_socket sound connected _
  | ends fd socket connected | connectFails fd socket connected =>
    exact moves_socket sound connected _
  | becomesWritable fd socket connected =>
    split
    · exact moves_socket sound connected _
    · refine moves_works rfl fun other work => ?_
      have peer := ((sound.connected fd).mp (by rw [connected]; rfl)).2
      by_cases same : other = fd
      · subst same
        have connected' : (s.setSocket other { socket with writable := true }).sockets other =
            some { socket with writable := true } := Function.update_self _ _ _
        have readable := readable_connected (s := s.setSocket other { socket with writable := true })
          peer connected'
        rw [readable_connected peer connected]
        rw [readable] at work
        exact work
      · rwa [readable_setSocket_other _ same] at work
  | epollWait count polling spent =>
    have none : s.poll.taken = [] := by
      unfold poll
      rw [spent]
      rfl
    refine .single (.waits count _ none fun fd announced work => ?_)
    -- a readable descriptor is returned, with its session
    obtain ⟨i, known⟩ := Option.isSome_iff_exists.mp (sound.readable_interest work)
    obtain ⟨io, allocated⟩ := sound.registered fd i known
    have found : s.polled fd = some (i.session, ⟨s.readable fd, i.epollout && s.writable fd⟩) := by
      rw [polled_of_interest known, if_pos]
      rw [Bool.or_eq_true]
      exact Or.inl work
    refine List.mem_filterMap.mpr ⟨_, List.mem_filterMap.mpr ⟨fd, announced, found⟩, ?_⟩
    exact congrArg (Option.map Session.fd) allocated
  | nextEvent a mask rest s' polling free first handled =>
    obtain ⟨sound', last, session, allocated⟩ := sound.turnsTo polling first
    exact (moves_turnsTo polling first allocated).trans
      (moves_handleEvent sound' polling allocated last (fun _ work => work) handled)
  | acceptNoMemory fd socket accepting waiting =>
    refine moves_works rfl fun other work => ?_
    unfold readable at work ⊢
    split
    · exact decide_eq_true waiting
    next notSock =>
      rw [if_neg notSock] at work
      exact work
  | accept fd a socket accepting waiting newFd newAddress =>
    exact moves_accept sound accepting waiting newFd newAddress
  | acceptAgain accepting nobody =>
    have own : s.poll.handling = some s.sockFd := by
      change s.handling = _
      unfold EventLoop.handling
      rw [accepting]
    refine moves_finishes own (fun _ work => work) rfl ?_
    simp [readable, nobody]
  | acceptError => cases accepts
  | popNothing popping =>
    have same : ({ s with activity := .polling } : EventLoop).poll = s.poll := by
      unfold poll EventLoop.handling
      rw [popping]
    exact moves_works same fun _ work => work
  | pop popping t => exact moves_withThreads sound t
  | recv count a s' reading received => exact moves_receive sound reading received

/-! ### The listening socket -/

theorem sockFd_trigger (fd : Int) : (s.trigger fd).sockFd = s.sockFd := by
  unfold trigger
  split <;> rfl

theorem sockFd_withThreads (t : NodeThreads PageBytes) : (s.withThreads t).sockFd = s.sockFd := by
  unfold withThreads
  split
  · exact sockFd_trigger _
  · rfl

theorem sockFd_epollCtl (interest : Interest) : (s.epollCtl fd interest).sockFd = s.sockFd := by
  unfold epollCtl
  dsimp only
  split
  · exact sockFd_trigger fd
  · rfl

theorem sockFd_closeSession (closed : s.closeSession a fd = some s') : s'.sockFd = s.sockFd := by
  obtain ⟨t, -, rfl⟩ := Option.map_eq_some_iff.mp closed
  rfl

theorem sockFd_handleEvent {mask : EventMask} (handled : s.handleEvent a mask = some s') :
    s'.sockFd = s.sockFd := by
  unfold EventLoop.handleEvent at handled
  split at handled
  · cases handled
    rfl
  next session allocated =>
    split at handled
    · cases handled
      rfl
    · split at handled <;> cases handled <;> rfl
    · unfold peerEvent at handled
      split at handled
      · split at handled
        · exact sockFd_closeSession handled
        · cases handled
          exact sockFd_epollCtl _
      · cases handled
        rfl

theorem sockFd_receive {count : Nat} (received : s.receive a count = some s') :
    s'.sockFd = s.sockFd := by
  unfold EventLoop.receive at received
  split at received
  · cases received
    rfl
  · split at received
    · exact sockFd_closeSession received
    · split at received
      · split at received
        · dsimp only at received
          split at received
          · cases received
            rfl
          · obtain ⟨t, -, rfl⟩ := Option.map_eq_some_iff.mp received
            exact sockFd_withThreads t
        · cases received
      · split at received
        · exact sockFd_closeSession received
        · cases received
          rfl

theorem sockFd_step {e : LoopEvent} (next : s.step e = some s') : s'.sockFd = s.sockFd := by
  cases turn_of_step next with
  | thread e t => exact sockFd_withThreads t
  | arrives | delivers | ends | connectFails => exact sockFd_trigger _
  | becomesWritable =>
    split
    · exact sockFd_trigger _
    · rfl
  | nextEvent a mask rest s' polling free first handled =>
    exact sockFd_handleEvent (s := { s with epollEvents := rest }) handled
  | accept => exact sockFd_epollCtl _
  | pop popping t => exact sockFd_withThreads t
  | recv count a s' reading received => exact sockFd_receive received
  | epollWait | acceptNoMemory | acceptAgain | acceptError | popNothing => rfl

/-- An `accept` that fails leaves the other descriptors watched. -/
theorem moves_but_listener (sound : s.Sound) {e : LoopEvent} (next : s.step e = some s') :
    Moves (s.poll, fun fd => fd ≠ s.sockFd ∧ s.readable fd = true)
      (s'.poll, fun fd => fd ≠ s.sockFd ∧ s'.readable fd = true) := by
  cases failed : e.isAcceptError with
  | false => exact (moves_step sound failed next).among (· ≠ s.sockFd)
  | true =>
    cases turn_of_step next with
    | acceptError accepting =>
      refine .single (.finishes fun fd turned work => work.1 ?_)
      have own : s.poll.handling = some s.sockFd := by
        change s.handling = _
        unfold EventLoop.handling
        rw [accepting]
      exact Option.some.inj (turned.symm.trans own)
    | _ => cases failed

/-! ### The queue of page requests -/

/-- A request that waits will be popped in the loop of `queue_pop` or is counted in `notify_fd`. -/
def Signalled (s : EventLoop) : Prop :=
  s.threads.node.sharedReqQueue ≠ [] → s.activity = .popping ∨ 0 < s.counter

theorem Signalled.kept (signalled : s.Signalled)
    (queue : s'.threads.node.sharedReqQueue = s.threads.node.sharedReqQueue)
    (counter : s'.counter = s.counter)
    (activity : s.activity = .popping → s'.activity = .popping) : s'.Signalled := by
  intro waiting
  rw [queue] at waiting
  rw [counter]
  exact (signalled waiting).imp_left activity

theorem Signalled.trigger (signalled : s.Signalled) (fd : Int) : (s.trigger fd).Signalled := by
  obtain ⟨ready, same, -⟩ := s.trigger_eq fd
  rw [same]
  exact signalled

theorem Signalled.withThreads (signalled : s.Signalled) (t : NodeThreads PageBytes) :
    (s.withThreads t).Signalled := by
  unfold EventLoop.withThreads
  split
  · refine Signalled.trigger (fun _ => Or.inr ?_) _
    exact Nat.succ_pos _
  next shorter =>
    intro waiting
    refine signalled fun empty => shorter ?_
    rw [empty]
    exact List.length_pos_iff.mpr waiting

theorem Signalled.closeSession (signalled : s.Signalled) (busy : s.activity ≠ .popping)
    (closed : s.closeSession a fd = some s') : s'.Signalled := by
  obtain ⟨t, next, rfl⟩ := Option.map_eq_some_iff.mp closed
  refine signalled.kept ?_ rfl fun popping => absurd popping busy
  cases NodeThreads.turn_of_step next with
  | closed => rfl

theorem Signalled.epollCtl (signalled : s.Signalled) (interest : Interest) :
    (s.epollCtl fd interest).Signalled := by
  unfold EventLoop.epollCtl
  dsimp only
  split
  · refine Signalled.trigger ?_ fd
    exact signalled
  · exact signalled

theorem Signalled.handleEvent (signalled : s.Signalled) {mask : EventMask}
    (polling : s.activity = .polling) (handled : s.handleEvent a mask = some s') :
    s'.Signalled := by
  have busy : s.activity ≠ .popping := by
    rw [polling]
    simp
  have leaves {s' : EventLoop} (queue : s'.threads = s.threads) (counter : s'.counter = s.counter) :
      s'.Signalled :=
    signalled.kept (by rw [queue]) counter fun popping => absurd popping busy
  unfold EventLoop.handleEvent at handled
  split at handled
  · cases handled
    exact leaves rfl rfl
  next session allocated =>
    split at handled
    · cases handled
      exact leaves rfl rfl
    · split at handled
      · cases handled
        exact fun _ => Or.inl rfl
      · cases handled
        exact signalled
    · unfold peerEvent at handled
      split at handled
      · split at handled
        · exact signalled.closeSession busy handled
        · cases handled
          exact signalled.epollCtl _
      · cases handled
        exact leaves rfl rfl

theorem Signalled.receive (signalled : s.Signalled) {count : Nat} (reading : s.activity = .reading a)
    (received : s.receive a count = some s') : s'.Signalled := by
  have busy : s.activity ≠ .popping := by
    rw [reading]
    simp
  unfold EventLoop.receive at received
  split at received
  · cases received
    exact signalled
  · split at received
    · exact signalled.closeSession busy received
    · split at received
      · split at received
        · dsimp only at received
          split at received
          · cases received
            exact signalled
          · obtain ⟨t, -, rfl⟩ := Option.map_eq_some_iff.mp received
            refine Signalled.withThreads ?_ t
            exact signalled
        · cases received
      · split at received
        · exact signalled.closeSession busy received
        · cases received
          exact signalled.kept rfl rfl fun popping => absurd popping busy

theorem Signalled.step (signalled : s.Signalled) {e : LoopEvent} (next : s.step e = some s') :
    s'.Signalled := by
  cases turn_of_step next with
  | thread e t => exact signalled.withThreads t
  | arrives | delivers | ends | connectFails =>
    refine Signalled.trigger ?_ _
    exact signalled
  | becomesWritable =>
    split
    · refine Signalled.trigger ?_ _
      exact signalled
    · exact signalled
  | epollWait => exact signalled
  | nextEvent a mask rest s' polling free first handled =>
    have next : ({ s with epollEvents := rest } : EventLoop).Signalled := signalled
    exact next.handleEvent polling handled
  | acceptNoMemory => exact signalled
  | accept =>
    refine Signalled.epollCtl ?_ _
    exact signalled
  | acceptAgain accepting | acceptError accepting =>
    exact signalled.kept rfl rfl fun popping => by cases accepting.symm.trans popping
  | popNothing popping empty => exact fun waiting => absurd empty waiting
  | pop popping t => exact signalled.withThreads t
  | recv count a s' reading received => exact signalled.receive reading received

/-! ### Whole runs -/

section Start

variable {id numPages : Nat} {coordinatorFd sockFd notifyFd : Int} (apart : sockFd ≠ notifyFd)
  (notSock : coordinatorFd ≠ sockFd) (notNotify : coordinatorFd ≠ notifyFd)
include apart notSock notNotify

theorem start_watches (fd : Int) :
    ¬ (start id coordinatorFd sockFd notifyFd numPages).readable fd = true := by
  by_cases sock : fd = sockFd
  · simp [readable, start, sock]
  · by_cases notify : fd = notifyFd
    · simp [readable, start, notify, apart.symm]
    · by_cases own : fd = coordinatorFd ∧ coordinatorFd ≠ -1
      · simp [readable, start, own.1, own.2, notSock, notNotify]
      · simp [readable, start, sock, notify, own]

end Start

end EventLoop

section Runs

variable {id numPages : Nat} {coordinatorFd sockFd notifyFd : Int} {s : EventLoop}

/-- When the engine waits and epoll has nothing to report, nothing is left to do: no request is
queued, no connection has anything to read, and nobody waits to be accepted. Only an `accept` that
fails for want of something leaves a connection waiting. -/
theorem sleeps_only_when_idle (apart : sockFd ≠ notifyFd) (notSock : coordinatorFd ≠ sockFd)
    (notNotify : coordinatorFd ≠ notifyFd)
    (run : Runs.Run EventLoop.step (fun _ _ => True)
      (.start id coordinatorFd sockFd notifyFd numPages) s)
    (waits : s.activity = .polling) (spent : s.epollEvents = []) (silent : s.ready = []) :
    s.threads.node.sharedReqQueue = [] ∧
      (∀ fd socket, s.sockets fd = some socket → socket.unread = [] ∧ socket.ended = false) ∧
      (Runs.Run EventLoop.step (fun _ e => e.isAcceptError = false)
        (.start id coordinatorFd sockFd notifyFd numPages) s → s.backlog = 0) := by
  have sound₀ : (EventLoop.start id coordinatorFd sockFd notifyFd numPages).Sound :=
    EventLoop.start_sound apart notSock notNotify
  have silent₀ (fd : Int) :
      ¬ (EventLoop.start id coordinatorFd sockFd notifyFd numPages).readable fd = true :=
    EventLoop.start_watches apart notSock notNotify fd
  have asleep : s.poll.Asleep := by
    refine ⟨silent, ?_, ?_⟩
    · unfold EventLoop.poll
      rw [spent]
      rfl
    · change s.handling = none
      unfold EventLoop.handling
      rw [waits]
  obtain ⟨sound, signalled, watches⟩ : s.Sound ∧ s.Signalled ∧
      s.poll.Watches fun fd => fd ≠ s.sockFd ∧ s.readable fd = true := by
    refine run.invariant (fun s => s.Sound ∧ s.Signalled ∧
        s.poll.Watches fun fd => fd ≠ s.sockFd ∧ s.readable fd = true)
      ⟨sound₀, fun waiting => absurd rfl waiting, fun fd work => absurd work.2 (silent₀ fd)⟩ ?_
    rintro a e b ⟨sound, signalled, watches⟩ - next
    refine ⟨sound.step next, signalled.step next, ?_⟩
    rw [EventLoop.sockFd_step next]
    exact watches.moves (EventLoop.moves_but_listener sound next)
  have idle := watches.asleep asleep
  refine ⟨?_, fun fd socket connected => ?_, fun accepts => ?_⟩
  · by_contra waiting
    rcases signalled waiting with popping | counted
    · cases waits.symm.trans popping
    · refine idle s.notifyFd ⟨sound.apart.symm, ?_⟩
      simp [EventLoop.readable, sound.apart.symm, counted]
  · have peer := ((sound.connected fd).mp (by rw [connected]; rfl)).2
    have nothing : ¬ s.readable fd = true := fun work => idle fd ⟨(EventLoop.kind_peer peer).1, work⟩
    rw [EventLoop.readable_connected peer connected] at nothing
    simpa using nothing
  · -- without such a failure the listening socket is watched like the others
    obtain ⟨-, watches⟩ : s.Sound ∧ s.poll.Watches fun fd => s.readable fd = true := by
      refine accepts.invariant
        (fun s => s.Sound ∧ s.poll.Watches fun fd => s.readable fd = true)
        ⟨sound₀, fun fd work => absurd work (silent₀ fd)⟩ ?_
      rintro a e b ⟨sound, watches⟩ accepts next
      exact ⟨sound.step next, watches.moves (EventLoop.moves_step sound accepts next)⟩
    by_contra waiting
    refine watches.asleep asleep s.sockFd ?_
    simp [EventLoop.readable, Nat.pos_of_ne_zero waiting]

/-- After such a failure somebody waits, and nothing is announced. -/
example : ((Runs.execIf EventLoop.step (fun _ _ => True) (.start 1 (-1) 3 4 2)
    [.arrives, .epollWait 10, .nextEvent, .acceptError]).any fun s =>
      s.ready.isEmpty && s.epollEvents.isEmpty && s.backlog == 1) = true := by decide

/-- The two bytes of the second connection are received. -/
def receivedAll : List LoopEvent := reusedSession ++ [.epollWait 10, .nextEvent, .recv 2, .recv 0]

theorem sleeps_only_when_idle_received : ∃ s : EventLoop, s.backlog = 0 ∧
    s.threads.node.sharedReqQueue = [] ∧
    ∃ socket, s.sockets 5 = some socket ∧ socket.unread = [] ∧ socket.ended = false := by
  obtain ⟨s, run, waits, spent, silent, connected⟩ := Runs.exists_run EventLoop.step
    (fun _ e => e.isAcceptError = false) (.start 1 (-1) 3 4 2) receivedAll
    (fun s => s.activity = .polling ∧ s.epollEvents.length = 0 ∧ s.ready = [] ∧
      (s.sockets 5).isSome = true) (by decide +kernel)
  have idle := sleeps_only_when_idle (by decide) (by decide) (by decide)
    (run.mono fun _ _ _ => trivial) waits (List.length_eq_zero_iff.mp spent) silent
  obtain ⟨socket, connected⟩ := Option.isSome_iff_exists.mp connected
  exact ⟨s, idle.2.2 run, idle.1, socket, connected, idle.2.1 5 socket connected⟩

end Runs

end TeleportVM
