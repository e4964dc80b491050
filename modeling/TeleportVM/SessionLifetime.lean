import TeleportVM.EventLoop

/-!
How long the sessions of the event loop live: what the events of one batch point to, while
connections are closed and accepted between them.
-/
namespace TeleportVM

namespace EventLoop

/-! ### The sessions -/

/-- The kind of session that a descriptor has. -/
def kind (s : EventLoop) (fd : Int) : SessionType :=
  if fd = s.sockFd then .listener else if fd = s.notifyFd then .queue else .peer

/-- Every descriptor of the epoll set has a session of its own, every session has its descriptor,
and the events still to come point to different sessions, none of them the one that is read. -/
structure Sound (s : EventLoop) : Prop where
  intact : s.corrupted = false
  apart : s.sockFd ≠ s.notifyFd
  listening : (s.interests s.sockFd).isSome = true
  notified : (s.interests s.notifyFd).isSome = true
  registered : ∀ fd i, s.interests fd = some i → ∃ io, s.heap i.session = some ⟨fd, s.kind fd, io⟩
  held : ∀ a session, s.heap a = some session → ∃ out, s.interests session.fd = some ⟨a, out⟩
  connected : ∀ fd, (s.sockets fd).isSome = true ↔
    (s.interests fd).isSome = true ∧ s.kind fd = .peer
  announced : s.ready.Nodup
  pointed : ∀ event ∈ s.epollEvents, (s.heap event.1).isSome = true
  once : (s.epollEvents.map Prod.fst).Nodup
  reading : ∀ a, s.activity = .reading a →
    a ∉ s.epollEvents.map Prod.fst ∧ ∃ fd io, s.heap a = some ⟨fd, .peer, io⟩

variable {s s' : EventLoop} {fd : Int} {a : Nat}

theorem kind_peer (peer : s.kind fd = .peer) : fd ≠ s.sockFd ∧ fd ≠ s.notifyFd := by
  unfold kind at peer
  split at peer
  · cases peer
  · split at peer
    · cases peer
    next sock notify => exact ⟨sock, notify⟩

theorem kind_listener (listener : s.kind fd = .listener) : fd = s.sockFd := by
  unfold kind at listener
  split at listener
  next own => exact own
  · split at listener <;> cases listener

theorem kind_queue (queue : s.kind fd = .queue) : fd = s.notifyFd := by
  unfold kind at queue
  split at queue
  · cases queue
  · split at queue
    next own => exact own
    · cases queue

namespace Sound

variable (sound : s.Sound)
include sound

theorem trigger (fd : Int) : (s.trigger fd).Sound := by
  obtain ⟨ready, same, nodup⟩ := s.trigger_eq fd
  rw [same]
  exact { sound with announced := nodup sound.announced }

/-- The session of a descriptor is its own. -/
theorem fd_of_session {fd₁ fd₂ : Int} {i₁ i₂ : Interest} (first : s.interests fd₁ = some i₁)
    (second : s.interests fd₂ = some i₂) (same : i₁.session = i₂.session) : fd₁ = fd₂ := by
  obtain ⟨io₁, own₁⟩ := sound.registered fd₁ i₁ first
  obtain ⟨io₂, own₂⟩ := sound.registered fd₂ i₂ second
  rw [same, own₂] at own₁
  exact (congrArg Session.fd (Option.some.inj own₁)).symm

/-- A session is of the kind of its descriptor. -/
theorem type_eq {session : Session} (allocated : s.heap a = some session) :
    session.type = s.kind session.fd := by
  obtain ⟨out, own⟩ := sound.held a session allocated
  obtain ⟨io, same⟩ := sound.registered _ _ own
  rw [allocated] at same
  exact congrArg Session.type (Option.some.inj same)

theorem withThreads (t : NodeThreads PageBytes) : (s.withThreads t).Sound := by
  unfold EventLoop.withThreads
  split
  · refine Sound.trigger ?_ _
    exact { sound with }
  · exact { sound with }

theorem setSocket (connected : (s.sockets fd).isSome = true) (socket : Socket) :
    (s.setSocket fd socket).Sound := by
  refine { sound with connected := fun other => ?_ }
  have same : ((s.setSocket fd socket).sockets other).isSome = (s.sockets other).isSome := by
    by_cases own : other = fd
    · subst own
      simp [EventLoop.setSocket, connected]
    · simp [EventLoop.setSocket, own]
  rw [same]
  exact sound.connected other

/-- A connection is closed whose session no event points to any more. -/
theorem closeSession {io : PeerSession} (allocated : s.heap a = some ⟨fd, .peer, io⟩)
    (last : a ∉ s.epollEvents.map Prod.fst) (closed : s.closeSession a fd = some s') : s'.Sound := by
  obtain ⟨t, -, rfl⟩ := Option.map_eq_some_iff.mp closed
  have peer : s.kind fd = .peer := (sound.type_eq allocated).symm
  obtain ⟨notSock, notNotify⟩ := kind_peer peer
  obtain ⟨out, own⟩ : ∃ out, s.interests fd = some ⟨a, out⟩ := sound.held a _ allocated
  have kept {other : Int} (apart : other ≠ fd) :
      Function.update s.interests fd none other = s.interests other := Function.update_of_ne apart _ _
  have keeps {b : Nat} (apart : b ≠ a) : Function.update s.heap a none b = s.heap b :=
    Function.update_of_ne apart _ _
  refine { sound with
    listening := (congrArg Option.isSome (kept (Ne.symm notSock))).trans sound.listening
    notified := (congrArg Option.isSome (kept (Ne.symm notNotify))).trans sound.notified
    registered := fun other i found => ?_
    held := fun b session found => ?_
    connected := fun other => ?_
    announced := sound.announced.filter _
    pointed := fun event later => ?_
    reading := fun b absurdity => by cases absurdity }
  · -- another descriptor has another session
    have found : Function.update s.interests fd none other = some i := found
    have apart : other ≠ fd := by
      rintro rfl
      simp at found
    rw [kept apart] at found
    obtain ⟨io, registered⟩ := sound.registered other i found
    exact ⟨io, (keeps fun same => apart (sound.fd_of_session found own same)).trans registered⟩
  · have found : Function.update s.heap a none b = some session := found
    have apart : b ≠ a := by
      rintro rfl
      simp at found
    rw [keeps apart] at found
    obtain ⟨out', held⟩ := sound.held b session found
    refine ⟨out', (kept ?_).trans held⟩
    intro same
    rw [same] at held
    exact apart (congrArg Interest.session (Option.some.inj (held.symm.trans own)))
  · have connected := sound.connected other
    by_cases same : other = fd
    · subst same
      refine iff_of_false ?_ (fun both => ?_)
      · simp
      · exact absurd both.1 (by simp)
    · have sockets : Function.update s.sockets fd none other = s.sockets other :=
        Function.update_of_ne same _ _
      refine (iff_of_eq (congrArg (fun socket => socket.isSome = true) sockets)).trans
        (connected.trans ?_)
      exact and_congr_left' (iff_of_eq (congrArg (fun i => i.isSome = true) (kept same).symm))
  · have other : event.1 ≠ a := by
      rintro rfl
      exact last (List.mem_map_of_mem later)
    exact (congrArg Option.isSome (keeps other)).trans (sound.pointed event later)

omit sound in
theorem sound_epollCtl {interest : Interest} (changed : ({ s with
    interests := Function.update s.interests fd (some interest) } : EventLoop).Sound) :
    (s.epollCtl fd interest).Sound := by
  unfold EventLoop.epollCtl
  dsimp only
  split
  · exact changed.trigger fd
  · exact changed

/-- The interest of a descriptor changes, not its session. -/
theorem epollCtl {out : Bool} (known : s.interests fd = some ⟨a, out⟩) (out' : Bool) :
    (s.epollCtl fd ⟨a, out'⟩).Sound := by
  have same (other : Int) : (Function.update s.interests fd (some ⟨a, out'⟩) other).isSome =
      (s.interests other).isSome := by
    by_cases own : other = fd
    · subst own
      simp [known]
    · simp [own]
  refine sound_epollCtl { sound with
    listening := (same _).trans sound.listening
    notified := (same _).trans sound.notified
    registered := fun other i found => ?_
    held := fun b session found => ?_
    connected := fun other => ?_ }
  · have found : Function.update s.interests fd (some ⟨a, out'⟩) other = some i := found
    by_cases own : other = fd
    · subst own
      rw [Function.update_self] at found
      cases found
      exact sound.registered other ⟨a, out⟩ known
    · rw [Function.update_of_ne own] at found
      exact sound.registered other i found
  · obtain ⟨held, kept⟩ := sound.held b session found
    by_cases own : session.fd = fd
    · rw [own] at kept ⊢
      cases known.symm.trans kept
      exact ⟨out', Function.update_self _ _ _⟩
    · exact ⟨held, (Function.update_of_ne own _ _).trans kept⟩
  · exact (sound.connected other).trans
      (and_congr_left' (iff_of_eq (congrArg (· = true) (same other).symm)))

/-- A connection is accepted, with a new descriptor and a session of its own. -/
theorem accepted {socket : Socket} (newFd : s.interests fd = none) (newAddress : s.heap a = none) :
    (({ s with heap := Function.update s.heap a (some ⟨fd, .peer, .cleared⟩) }.setSocket fd
      socket).epollCtl fd ⟨a, false⟩).Sound := by
  have peer : s.kind fd = .peer := by
    have listening := sound.listening
    have notified := sound.notified
    unfold kind
    rw [if_neg, if_neg]
    · rintro rfl
      simp [newFd] at notified
    · rintro rfl
      simp [newFd] at listening
  have keeps {b : Nat} (apart : b ≠ a) :
      Function.update s.heap a (some ⟨fd, .peer, .cleared⟩) b = s.heap b :=
    Function.update_of_ne apart _ _
  have kept {other : Int} (apart : other ≠ fd) :
      Function.update s.interests fd (some ⟨a, false⟩) other = s.interests other :=
    Function.update_of_ne apart _ _
  have known {other : Int} (registered : (s.interests other).isSome = true) : other ≠ fd := by
    rintro rfl
    simp [newFd] at registered
  have allocated {b : Nat} (held : (s.heap b).isSome = true) : b ≠ a := by
    rintro rfl
    simp [newAddress] at held
  refine sound_epollCtl { sound with
    listening := (congrArg Option.isSome (kept (known sound.listening))).trans sound.listening
    notified := (congrArg Option.isSome (kept (known sound.notified))).trans sound.notified
    registered := fun other i found => ?_
    held := fun b session found => ?_
    connected := fun other => ?_
    pointed := fun event later => ?_
    reading := fun b reads => ?_ }
  · have found : Function.update s.interests fd (some ⟨a, false⟩) other = some i := found
    by_cases own : other = fd
    · subst own
      rw [Function.update_self] at found
      cases found
      refine ⟨.cleared, (Function.update_self _ _ _).trans ?_⟩
      rw [← peer]
      rfl
    · rw [kept own] at found
      obtain ⟨io, registered⟩ := sound.registered other i found
      exact ⟨io, (keeps (allocated (by rw [registered]; rfl))).trans registered⟩
  · have found : Function.update s.heap a (some ⟨fd, .peer, .cleared⟩) b = some session := found
    by_cases own : b = a
    · subst own
      rw [Function.update_self] at found
      cases found
      exact ⟨false, Function.update_self _ _ _⟩
    · rw [keeps own] at found
      obtain ⟨out, held⟩ := sound.held b session found
      exact ⟨out, (kept (known (by rw [held]; rfl))).trans held⟩
  · by_cases own : other = fd
    · subst own
      have connects : (Function.update s.sockets other (some socket) other).isSome = true := by simp
      have watched : (Function.update s.interests other (some ⟨a, false⟩) other).isSome = true := by
        simp
      exact iff_of_true connects ⟨watched, peer⟩
    · have sockets : Function.update s.sockets fd (some socket) other = s.sockets other :=
        Function.update_of_ne own _ _
      refine (iff_of_eq (congrArg (fun socket => socket.isSome = true) sockets)).trans
        ((sound.connected other).trans ?_)
      exact and_congr_left' (iff_of_eq (congrArg (fun i => i.isSome = true) (kept own).symm))
  · have held := sound.pointed event later
    exact (congrArg Option.isSome (keeps (allocated held))).trans held
  · obtain ⟨last, other, io, held⟩ := sound.reading b reads
    exact ⟨last, other, io, (keeps (allocated (by rw [held]; rfl))).trans held⟩

/-- The engine turns to the first event, which points to none of the later ones' sessions. -/
theorem turnsTo {mask : EventMask} {rest : List (Nat × EventMask)}
    (polling : s.activity = .polling) (first : s.epollEvents = (a, mask) :: rest) :
    ({ s with epollEvents := rest } : EventLoop).Sound ∧ a ∉ rest.map Prod.fst ∧
      ∃ session, s.heap a = some session := by
  have once := sound.once
  have pointed := sound.pointed
  rw [first, List.map_cons, List.nodup_cons] at once
  rw [first] at pointed
  refine ⟨{ sound with
    pointed := fun event later => pointed event (List.mem_cons_of_mem _ later)
    once := once.2
    reading := fun b reads => ?_ }, once.1,
    Option.isSome_iff_exists.mp (pointed (a, mask) List.mem_cons_self)⟩
  cases polling.symm.trans reads

/-- A round of `recv` changes the buffer of the session. -/
theorem setIo {session : Session} (allocated : s.heap a = some session) (io : PeerSession) :
    ({ s with heap := Function.update s.heap a (some { session with io := io }) } : EventLoop).Sound := by
  have keeps {b : Nat} (apart : b ≠ a) :
      Function.update s.heap a (some { session with io := io }) b = s.heap b :=
    Function.update_of_ne apart _ _
  have own : Function.update s.heap a (some { session with io := io }) a =
      some { session with io := io } := Function.update_self _ _ _
  refine { sound with
    registered := fun other i found => ?_
    held := fun b session' found => ?_
    pointed := fun event later => ?_
    reading := fun b reads => ?_ }
  · obtain ⟨io', registered⟩ := sound.registered other i found
    by_cases same : i.session = a
    · rw [same] at registered
      cases allocated.symm.trans registered
      exact ⟨io, (congrArg _ same).trans own⟩
    · exact ⟨io', (keeps same).trans registered⟩
  · have found : Function.update s.heap a (some { session with io := io }) b = some session' := found
    by_cases same : b = a
    · subst same
      cases own.symm.trans found
      exact sound.held b session allocated
    · exact sound.held b session' ((keeps same).symm.trans found)
  · by_cases same : event.1 = a
    · exact congrArg Option.isSome ((congrArg _ same).trans own)
    · exact (congrArg Option.isSome (keeps same)).trans (sound.pointed event later)
  · obtain ⟨last, fd, io', registered⟩ := sound.reading b reads
    refine ⟨last, ?_⟩
    by_cases same : b = a
    · subst same
      cases allocated.symm.trans registered
      exact ⟨fd, io, own⟩
    · exact ⟨fd, io', (keeps same).trans registered⟩

theorem socket_of_peer {io : PeerSession} (allocated : s.heap a = some ⟨fd, .peer, io⟩) :
    ∃ socket, s.sockets fd = some socket := by
  obtain ⟨out, registered⟩ : ∃ out, s.interests fd = some ⟨a, out⟩ := sound.held a _ allocated
  have peer : s.kind fd = .peer := (sound.type_eq allocated).symm
  exact Option.isSome_iff_exists.mp
    ((sound.connected fd).mpr ⟨by rw [registered]; rfl, peer⟩)

theorem epollWait (count : Nat) (polling : s.activity = .polling) : ({ s with
    ready := s.ready.drop count
    epollEvents := (s.ready.take count).filterMap s.polled } : EventLoop).Sound := by
  refine { sound with
    announced := sound.announced.sublist (List.drop_sublist _ _)
    pointed := fun event later => ?_
    once := ?_
    reading := fun b reads => ?_ }
  · obtain ⟨fd, -, found⟩ := List.mem_filterMap.mp later
    obtain ⟨i, known, same⟩ := session_of_polled found
    obtain ⟨io, registered⟩ := sound.registered fd i known
    rw [← same]
    exact congrArg Option.isSome registered
  · -- different descriptors have different sessions
    have few := sound.announced.sublist (List.take_sublist count s.ready)
    rw [List.map_filterMap]
    refine few.filterMap fun fd₁ fd₂ b first second => ?_
    obtain ⟨event₁, found₁, same₁⟩ := Option.map_eq_some_iff.mp first
    obtain ⟨event₂, found₂, same₂⟩ := Option.map_eq_some_iff.mp second
    obtain ⟨i₁, known₁, own₁⟩ := session_of_polled found₁
    obtain ⟨i₂, known₂, own₂⟩ := session_of_polled found₂
    exact sound.fd_of_session known₁ known₂
      (own₁.trans (same₁.trans (same₂.symm.trans own₂.symm)))
  · cases polling.symm.trans reads

theorem peerEvent {mask : EventMask} {io : PeerSession}
    (allocated : s.heap a = some ⟨fd, .peer, io⟩) (last : a ∉ s.epollEvents.map Prod.fst)
    (handled : s.peerEvent a fd mask = some s') : s'.Sound := by
  unfold EventLoop.peerEvent at handled
  split at handled
  · split at handled
    · exact sound.closeSession allocated last handled
    · cases handled
      obtain ⟨out, known⟩ : ∃ out, s.interests fd = some ⟨a, out⟩ := sound.held a _ allocated
      exact sound.epollCtl known false
  · cases handled
    refine { sound with reading := fun b reads => ?_ }
    cases reads
    exact ⟨last, fd, io, allocated⟩

theorem handleEvent {mask : EventMask} {session : Session} (allocated : s.heap a = some session)
    (last : a ∉ s.epollEvents.map Prod.fst) (handled : s.handleEvent a mask = some s') :
    s'.Sound := by
  unfold EventLoop.handleEvent at handled
  rw [allocated] at handled
  dsimp only at handled
  obtain ⟨fd, type, io⟩ := session
  cases type with
  | listener =>
    cases handled
    exact { sound with reading := fun b reads => by cases reads }
  | queue =>
    dsimp only at handled
    split at handled
    · cases handled
      exact { sound with reading := fun b reads => by cases reads }
    · cases handled
      exact sound
  | peer => exact sound.peerEvent allocated last handled

theorem receive {count : Nat} (reading : s.activity = .reading a)
    (received : s.receive a count = some s') : s'.Sound := by
  obtain ⟨last, fd, io, allocated⟩ := sound.reading a reading
  obtain ⟨socket, connected⟩ := sound.socket_of_peer allocated
  unfold EventLoop.receive at received
  rw [allocated] at received
  dsimp only at received
  rw [connected] at received
  dsimp only at received
  split at received
  · split at received
    · have remains : (s.sockets fd).isSome = true := congrArg Option.isSome connected
      have stored := (sound.setIo allocated
        ((io.store (socket.unread.take count)).dispatch).1).setSocket remains
        { socket with unread := socket.unread.drop count }
      split at received
      · cases received
        exact stored
      · obtain ⟨t, -, rfl⟩ := Option.map_eq_some_iff.mp received
        exact stored.withThreads t
    · cases received
  · split at received
    · exact sound.closeSession allocated last received
    · cases received
      exact { sound with reading := fun b reads => by cases reads }

theorem step {e : LoopEvent} (next : s.step e = some s') : s'.Sound := by
  cases turn_of_step next with
  | thread e t => exact sound.withThreads t
  | arrives =>
    refine Sound.trigger ?_ _
    exact { sound with }
  | delivers fd chunk socket connected =>
    exact (sound.setSocket (congrArg Option.isSome connected) _).trigger fd
  | ends fd socket connected | connectFails fd socket connected =>
    exact (sound.setSocket (congrArg Option.isSome connected) _).trigger fd
  | becomesWritable fd socket connected =>
    have set := sound.setSocket (congrArg Option.isSome connected) { socket with writable := true }
    split
    · exact set.trigger fd
    · exact set
  | epollWait count polling => exact sound.epollWait count polling
  | nextEvent a mask rest s' polling free first handled =>
    obtain ⟨sound', last, session, allocated⟩ := sound.turnsTo polling first
    exact sound'.handleEvent allocated last handled
  | acceptNoMemory => exact { sound with }
  | accept fd a socket accepting waiting newFd newAddress =>
    have fewer : ({ s with backlog := s.backlog - 1 } : EventLoop).Sound := { sound with }
    exact fewer.accepted newFd newAddress
  | acceptAgain | acceptError | popNothing =>
    exact { sound with reading := fun b reads => by cases reads }
  | pop popping t => exact sound.withThreads t
  | recv count a s' reading received => exact sound.receive reading received

end Sound

/-! ### Whole runs -/

section Start

variable {id numPages : Nat} {coordinatorFd sockFd notifyFd : Int} (apart : sockFd ≠ notifyFd)
  (notSock : coordinatorFd ≠ sockFd) (notNotify : coordinatorFd ≠ notifyFd)
include apart notSock notNotify

theorem start_sound : (start id coordinatorFd sockFd notifyFd numPages).Sound where
  intact := rfl
  apart := apart
  listening := by simp [start]
  notified := by simp [start, apart.symm]
  registered := by
    intro fd i known
    simp only [start] at known
    split at known
    next own =>
      cases known
      exact ⟨.cleared, by simp [start, kind, own]⟩
    next other =>
      split at known
      next own =>
        cases known
        exact ⟨.cleared, by simp [start, kind, own, apart.symm]⟩
      next other' =>
        split at known
        next own =>
          cases known
          exact ⟨.cleared, by simp [start, kind, own.1, own.2, notSock, notNotify]⟩
        · cases known
  held := by
    intro a session allocated
    simp only [start] at allocated
    split at allocated
    next first =>
      cases allocated
      exact ⟨false, by simp [start, first]⟩
    next =>
      split at allocated
      next second =>
        cases allocated
        exact ⟨false, by simp [start, second, apart.symm]⟩
      next =>
        split at allocated
        next third =>
          cases allocated
          exact ⟨true, by simp [start, third.1, third.2, notSock, notNotify]⟩
        · cases allocated
  connected := by
    intro fd
    simp only [start, kind]
    by_cases own : fd = coordinatorFd ∧ coordinatorFd ≠ -1
    · simp [own.1, own.2, notSock, notNotify]
    · rw [if_neg own, if_neg own]
      by_cases sock : fd = sockFd
      · simp [sock]
      · by_cases notify : fd = notifyFd
        · simp [notify, apart.symm]
        · simp [sock, notify]
  announced := List.nodup_nil
  pointed := by simp [start]
  once := List.nodup_nil
  reading := by simp [start]

end Start

end EventLoop

section Runs

variable {id numPages : Nat} {coordinatorFd sockFd notifyFd : Int} {s : EventLoop}

/-- Whatever the network and the other threads do between any two system calls of the engine, and
however descriptors and addresses are used again: no event and no loop of the engine follows a
pointer to a session that has been freed, the listener, the request queue and every open connection
have a session of their own, and no other session is left allocated. -/
theorem sessions_safe (apart : sockFd ≠ notifyFd) (notSock : coordinatorFd ≠ sockFd)
    (notNotify : coordinatorFd ≠ notifyFd)
    (run : Runs.Run EventLoop.step (fun _ _ => True)
      (.start id coordinatorFd sockFd notifyFd numPages) s) :
    s.corrupted = false ∧ (∀ event ∈ s.epollEvents, (s.heap event.1).isSome = true) ∧
      (∀ fd, fd = s.sockFd ∨ fd = s.notifyFd ∨ (s.sockets fd).isSome = true →
        ∃! a, (s.heap a).map Session.fd = some fd) ∧
      ∀ a session, s.heap a = some session →
        session.fd = s.sockFd ∨ session.fd = s.notifyFd ∨ (s.sockets session.fd).isSome = true := by
  have sound : s.Sound := run.invariant EventLoop.Sound
    (EventLoop.start_sound apart notSock notNotify) fun _ _ _ sound _ next => sound.step next
  refine ⟨sound.intact, sound.pointed, fun fd used => ?_, fun a session allocated => ?_⟩
  · have watched : (s.interests fd).isSome = true := by
      rcases used with rfl | rfl | connected
      · exact sound.listening
      · exact sound.notified
      · exact ((sound.connected fd).mp connected).1
    obtain ⟨i, known⟩ := Option.isSome_iff_exists.mp watched
    obtain ⟨io, allocated⟩ := sound.registered fd i known
    refine ⟨i.session, congrArg (Option.map Session.fd) allocated, fun a own => ?_⟩
    obtain ⟨session, held, rfl⟩ := Option.map_eq_some_iff.mp own
    obtain ⟨out, same⟩ := sound.held a session held
    exact (congrArg Interest.session (Option.some.inj (known.symm.trans same))).symm
  · obtain ⟨out, known⟩ := sound.held a session allocated
    by_cases peer : s.kind session.fd = .peer
    · exact Or.inr (Or.inr ((sound.connected _).mpr ⟨by rw [known]; rfl, peer⟩))
    · cases kind : s.kind session.fd with
      | listener => exact Or.inl (EventLoop.kind_listener kind)
      | queue => exact Or.inr (Or.inl (EventLoop.kind_queue kind))
      | peer => exact absurd kind peer

/-- A connection ends while another one waits, which is given the descriptor and the address of the
first one in the same batch of events. -/
def reusedSession : List LoopEvent :=
  [.arrives, .epollWait 10, .nextEvent, .accept 5 (some 7) ⟨[], false, true, false⟩, .acceptAgain,
    .ends 5, .arrives, .epollWait 10, .nextEvent, .recv 0, .nextEvent,
    .accept 5 (some 7) ⟨[1, 2], false, true, false⟩, .acceptAgain]

theorem sessions_safe_reused : ∃ s : EventLoop, (s.sockets 5).isSome = true ∧ s.corrupted = false ∧
    ∃! a, (s.heap a).map Session.fd = some 5 := by
  obtain ⟨s, run, connected⟩ := Runs.exists_run EventLoop.step (fun _ _ => True)
    (.start 1 (-1) 3 4 2) reusedSession (fun s => (s.sockets 5).isSome = true) (by decide +kernel)
  have safe := sessions_safe (by decide) (by decide) (by decide) run
  exact ⟨s, connected, safe.1, safe.2.2.1 5 (Or.inr (Or.inr connected))⟩

end Runs

end TeleportVM
