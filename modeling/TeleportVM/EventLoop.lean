import TeleportVM.Receive
import TeleportVM.Threads

/-!
The engine's event loop over an edge-triggered epoll set: the sessions that the events point to,
the batch of at most ten events that one `epoll_wait` returns, and the loops of the three kinds of
session. Between any two system calls of the engine the other threads and the network may act.
-/
namespace TeleportVM

/-- `session_type_t` -/
inductive SessionType where
  | listener
  | peer
  | queue
deriving DecidableEq

/-- `peer_session_t` -/
structure Session where
  fd : Int
  type : SessionType
  io : PeerSession

/-- `EPOLLIN` and `EPOLLOUT` in the events of `epoll_wait`. -/
structure EventMask where
  epollin : Bool
  epollout : Bool

/-- A descriptor in the epoll set: `data.ptr`, and whether `EPOLLOUT` is asked for as well. -/
structure Interest where
  session : Nat
  epollout : Bool

/-- A connection as the kernel has it: the bytes that are not received yet, whether `recv` ends
with 0 or an error after them, whether it can be written to, and `SO_ERROR`. -/
structure Socket where
  unread : List UInt8
  ended : Bool
  writable : Bool
  soError : Bool

/-- Where the engine is: between two events, or in the loop of `accept`, `queue_pop` or `recv`. -/
inductive Activity where
  | polling
  | accepting
  | popping
  | reading (session : Nat)
deriving DecidableEq

structure EventLoop where
  threads : NodeThreads PageBytes
  sockFd : Int
  notifyFd : Int
  /-- the sessions that are allocated, by their addresses -/
  heap : Nat → Option Session
  interests : Int → Option Interest
  sockets : Int → Option Socket
  /-- the connections that wait for `accept` -/
  backlog : Nat
  /-- the counter of `notify_fd` -/
  counter : Nat
  ready : List Int
  /-- the events of the last `epoll_wait` that are still to come -/
  epollEvents : List (Nat × EventMask)
  activity : Activity
  /-- a pointer to a freed session has been followed -/
  corrupted : Bool

inductive LoopEvent where
  /-- a turn of another thread, or the second section of a handler -/
  | thread (e : NodeEvent PageBytes)
  | arrives
  | delivers (fd : Int) (chunk : List UInt8)
  | ends (fd : Int)
  | becomesWritable (fd : Int)
  | connectFails (fd : Int)
  | epollWait (count : Nat)
  | nextEvent
  /-- `accept` returns `fd`, and `malloc` an address or null -/
  | accept (fd : Int) (session : Option Nat) (socket : Socket)
  | acceptAgain
  /-- `accept` fails otherwise than with `EAGAIN` -/
  | acceptError
  | queuePop
  | recv (count : Nat)

/-- `accept` fails for want of something, and the loop of `accept` is left all the same. -/
def LoopEvent.isAcceptError : LoopEvent → Bool
  | .acceptError => true
  | _ => false

namespace NodeEvent

/-- What the engine does in its event loop. -/
def isEngineLoop {Page : Type} : NodeEvent Page → Bool
  | .drain | .receive _ _ | .closed _ => true
  | .load _ | .store _ _ | .fault | .finish | .evict _ => false

end NodeEvent

namespace EventLoop

/-- There is something to read, to accept or to pop. -/
def readable (s : EventLoop) (fd : Int) : Bool :=
  if fd = s.sockFd then 0 < s.backlog
  else if fd = s.notifyFd then 0 < s.counter
  else (s.sockets fd).any fun socket => !socket.unread.isEmpty || socket.ended

def writable (s : EventLoop) (fd : Int) : Bool := (s.sockets fd).any Socket.writable

/-- What the kernel finds when it looks at a descriptor on its ready list. -/
def polled (s : EventLoop) (fd : Int) : Option (Nat × EventMask) :=
  (s.interests fd).bind fun i =>
    let mask : EventMask := ⟨s.readable fd, i.epollout && s.writable fd⟩
    if mask.epollin || mask.epollout then some (i.session, mask) else none

/-- The kernel puts a descriptor of the epoll set on the ready list. -/
def trigger (s : EventLoop) (fd : Int) : EventLoop :=
  if (s.interests fd).isSome ∧ fd ∉ s.ready then { s with ready := s.ready ++ [fd] } else s

/-- `EPOLL_CTL_ADD` and `EPOLL_CTL_MOD` look whether there is something to report already. -/
def epollCtl (s : EventLoop) (fd : Int) (interest : Interest) : EventLoop :=
  let s := { s with interests := Function.update s.interests fd (some interest) }
  if (s.polled fd).isSome then s.trigger fd else s

/-- A turn of the node; `queue_push` writes to `notify_fd`. -/
def withThreads (s : EventLoop) (t : NodeThreads PageBytes) : EventLoop :=
  if s.threads.node.sharedReqQueue.length < t.node.sharedReqQueue.length then
    { s with
      threads := t
      counter := s.counter + 1 }.trigger s.notifyFd
  else { s with threads := t }

def setSocket (s : EventLoop) (fd : Int) (socket : Socket) : EventLoop :=
  { s with sockets := Function.update s.sockets fd (some socket) }

/-- Both paths that close a connection: `EPOLL_CTL_DEL`, `close`, `free`. -/
def closeSession (s : EventLoop) (a : Nat) (fd : Int) : Option EventLoop :=
  (s.threads.step (.closed fd)).map fun t =>
    { s with
      threads := t
      heap := Function.update s.heap a none
      interests := Function.update s.interests fd none
      sockets := Function.update s.sockets fd none
      ready := s.ready.filter (· ≠ fd)
      activity := .polling }

/-- An event of a peer session: the end of a connect if it says `EPOLLOUT`, else bytes. -/
def peerEvent (s : EventLoop) (a : Nat) (fd : Int) (mask : EventMask) : Option EventLoop :=
  if mask.epollout then
    if (s.sockets fd).all Socket.soError then s.closeSession a fd
    else some (s.epollCtl fd ⟨a, false⟩)
  else some { s with activity := .reading a }

def handleEvent (s : EventLoop) (a : Nat) (mask : EventMask) : Option EventLoop :=
  match s.heap a with
  | none => some { s with corrupted := true }
  | some session =>
    match session.type with
    | .listener => some { s with activity := .accepting }
    | .queue =>
      if 0 < s.counter then
        some { s with
          counter := 0
          activity := .popping }
      else some s
    | .peer => s.peerEvent a session.fd mask

/-- One round of the loop of `recv`. -/
def receive (s : EventLoop) (a : Nat) (count : Nat) : Option EventLoop :=
  match s.heap a with
  | none => some { s with corrupted := true }
  | some session =>
    match s.sockets session.fd with
    | none => s.closeSession a session.fd
    | some socket =>
      if socket.unread ≠ [] then
        if 0 < count ∧ count ≤ socket.unread.length ∧ count ≤ session.io.request then
          let result := (session.io.store (socket.unread.take count)).dispatch
          let s := { s with heap := Function.update s.heap a (some { session with io := result.1 }) }.setSocket
            session.fd { socket with unread := socket.unread.drop count }
          match result.2 with
          | none => some s
          | some packet => (s.threads.step (.receive session.fd packet)).map s.withThreads
        else none
      else if socket.ended then s.closeSession a session.fd
      else some { s with activity := .polling }

def step (s : EventLoop) : LoopEvent → Option EventLoop
  | .thread e => if e.isEngineLoop then none else (s.threads.step e).map s.withThreads
  | .arrives => some ({ s with backlog := s.backlog + 1 }.trigger s.sockFd)
  | .delivers fd chunk =>
    (s.sockets fd).bind fun socket =>
      if socket.ended then none
      else some ((s.setSocket fd { socket with unread := socket.unread ++ chunk }).trigger fd)
  | .ends fd =>
    (s.sockets fd).map fun socket => (s.setSocket fd { socket with ended := true }).trigger fd
  | .becomesWritable fd =>
    (s.sockets fd).map fun socket =>
      let s := s.setSocket fd { socket with writable := true }
      if (s.interests fd).any Interest.epollout then s.trigger fd else s
  | .connectFails fd =>
    (s.sockets fd).map fun socket =>
      (s.setSocket fd { socket with
        ended := true
        writable := true
        soError := true }).trigger fd
  | .epollWait count =>
    match s.threads.task, s.activity, s.epollEvents with
    | none, .polling, [] =>
      if 0 < count ∧ count ≤ 10 then
        some { s with
          ready := s.ready.drop count
          epollEvents := (s.ready.take count).filterMap s.polled }
      else none
    | _, _, _ => none
  | .nextEvent =>
    match s.threads.task, s.activity, s.epollEvents with
    | none, .polling, (a, mask) :: rest => { s with epollEvents := rest }.handleEvent a mask
    | _, _, _ => none
  | .accept fd session socket =>
    match s.activity with
    | .accepting =>
      -- a new descriptor, and a new address
      if 0 < s.backlog ∧ 0 ≤ fd ∧ s.interests fd = none ∧ s.sockets fd = none ∧
          ∀ a ∈ session, s.heap a = none then
        let s := { s with backlog := s.backlog - 1 }
        match session with
        | none => some s
        | some a =>
          some (({ s with heap := Function.update s.heap a (some ⟨fd, .peer, .cleared⟩) }.setSocket fd
            socket).epollCtl fd ⟨a, false⟩)
      else none
    | _ => none
  | .acceptAgain =>
    match s.activity with
    | .accepting => if s.backlog = 0 then some { s with activity := .polling } else none
    | _ => none
  | .acceptError =>
    match s.activity with
    | .accepting => some { s with activity := .polling }
    | _ => none
  | .queuePop =>
    match s.threads.task, s.activity with
    | none, .popping =>
      if s.threads.node.sharedReqQueue = [] then some { s with activity := .polling }
      else (s.threads.step .drain).map s.withThreads
    | _, _ => none
  | .recv count =>
    match s.threads.task, s.activity with
    | none, .reading a => s.receive a count
    | _, _ => none

/-- The loop as `network_engine` enters it: listening, with the request queue and, on a worker, a
connection to the coordinator that is being set up. -/
def start (id : Nat) (coordinatorFd sockFd notifyFd : Int) (numPages : Nat) : EventLoop where
  threads := .start id coordinatorFd numPages
  sockFd := sockFd
  notifyFd := notifyFd
  heap a :=
    if a = 0 then some ⟨sockFd, .listener, .cleared⟩
    else if a = 1 then some ⟨notifyFd, .queue, .cleared⟩
    else if a = 2 ∧ coordinatorFd ≠ -1 then some ⟨coordinatorFd, .peer, .cleared⟩
    else none
  interests fd :=
    if fd = sockFd then some ⟨0, false⟩
    else if fd = notifyFd then some ⟨1, false⟩
    else if fd = coordinatorFd ∧ coordinatorFd ≠ -1 then some ⟨2, true⟩
    else none
  sockets fd := if fd = coordinatorFd ∧ coordinatorFd ≠ -1 then some ⟨[], false, false, false⟩ else none
  backlog := 0
  counter := 0
  ready := []
  epollEvents := []
  activity := .polling
  corrupted := false

/-! ### What a step is -/

/-- The steps from `s`, each with what it needs. -/
inductive Turn (s : EventLoop) : LoopEvent → EventLoop → Prop where
  | thread (e : NodeEvent PageBytes) (t : NodeThreads PageBytes) (other : e.isEngineLoop = false)
      (next : s.threads.step e = some t) : Turn s (.thread e) (s.withThreads t)
  | arrives : Turn s .arrives ({ s with backlog := s.backlog + 1 }.trigger s.sockFd)
  | delivers (fd : Int) (chunk : List UInt8) (socket : Socket) (connected : s.sockets fd = some socket)
      (going : socket.ended = false) : Turn s (.delivers fd chunk)
        ((s.setSocket fd { socket with unread := socket.unread ++ chunk }).trigger fd)
  | ends (fd : Int) (socket : Socket) (connected : s.sockets fd = some socket) :
      Turn s (.ends fd) ((s.setSocket fd { socket with ended := true }).trigger fd)
  | becomesWritable (fd : Int) (socket : Socket) (connected : s.sockets fd = some socket) :
      Turn s (.becomesWritable fd)
        (if (s.interests fd).any Interest.epollout then
          (s.setSocket fd { socket with writable := true }).trigger fd
        else s.setSocket fd { socket with writable := true })
  | connectFails (fd : Int) (socket : Socket) (connected : s.sockets fd = some socket) :
      Turn s (.connectFails fd) ((s.setSocket fd { socket with
        ended := true
        writable := true
        soError := true }).trigger fd)
  | epollWait (count : Nat) (polling : s.activity = .polling) (spent : s.epollEvents = []) :
      Turn s (.epollWait count) { s with
        ready := s.ready.drop count
        epollEvents := (s.ready.take count).filterMap s.polled }
  | nextEvent (a : Nat) (mask : EventMask) (rest : List (Nat × EventMask)) (s' : EventLoop)
      (polling : s.activity = .polling) (free : s.threads.task = none)
      (first : s.epollEvents = (a, mask) :: rest)
      (handled : { s with epollEvents := rest }.handleEvent a mask = some s') : Turn s .nextEvent s'
  | acceptNoMemory (fd : Int) (socket : Socket) (accepting : s.activity = .accepting)
      (waiting : 0 < s.backlog) : Turn s (.accept fd none socket) { s with backlog := s.backlog - 1 }
  | accept (fd : Int) (a : Nat) (socket : Socket) (accepting : s.activity = .accepting)
      (waiting : 0 < s.backlog) (newFd : s.interests fd = none) (newAddress : s.heap a = none) :
      Turn s (.accept fd (some a) socket)
        (({ s with
            backlog := s.backlog - 1
            heap := Function.update s.heap a (some ⟨fd, .peer, .cleared⟩) }.setSocket fd
          socket).epollCtl fd ⟨a, false⟩)
  | acceptAgain (accepting : s.activity = .accepting) (nobody : s.backlog = 0) :
      Turn s .acceptAgain { s with activity := .polling }
  | acceptError (accepting : s.activity = .accepting) :
      Turn s .acceptError { s with activity := .polling }
  | popNothing (popping : s.activity = .popping) (empty : s.threads.node.sharedReqQueue = []) :
      Turn s .queuePop { s with activity := .polling }
  | pop (popping : s.activity = .popping) (t : NodeThreads PageBytes)
      (next : s.threads.step .drain = some t) : Turn s .queuePop (s.withThreads t)
  | recv (count : Nat) (a : Nat) (s' : EventLoop) (reading : s.activity = .reading a)
      (received : s.receive a count = some s') : Turn s (.recv count) s'

theorem turn_of_step {s s' : EventLoop} {e : LoopEvent} (next : s.step e = some s') : s.Turn e s' := by
  cases e with
  | thread e =>
    simp only [step] at next
    split at next
    · cases next
    next other =>
      obtain ⟨t, turn, rfl⟩ := Option.map_eq_some_iff.mp next
      exact .thread e t (Bool.eq_false_iff.mpr other) turn
  | arrives =>
    cases next
    exact .arrives
  | delivers fd chunk =>
    obtain ⟨socket, connected, next⟩ := Option.bind_eq_some_iff.mp next
    split at next
    · cases next
    next going =>
      cases next
      exact .delivers fd chunk socket connected (Bool.eq_false_iff.mpr going)
  | ends fd =>
    obtain ⟨socket, connected, rfl⟩ := Option.map_eq_some_iff.mp next
    exact .ends fd socket connected
  | becomesWritable fd =>
    obtain ⟨socket, connected, rfl⟩ := Option.map_eq_some_iff.mp next
    exact .becomesWritable fd socket connected
  | connectFails fd =>
    obtain ⟨socket, connected, rfl⟩ := Option.map_eq_some_iff.mp next
    exact .connectFails fd socket connected
  | epollWait count =>
    simp only [step] at next
    split at next
    next polling spent =>
      split at next
      · cases next
        exact .epollWait count polling spent
      · cases next
    · cases next
  | nextEvent =>
    simp only [step] at next
    split at next
    next a mask rest free polling first => exact .nextEvent a mask rest s' polling free first next
    · cases next
  | accept fd session socket =>
    simp only [step] at next
    split at next
    next accepting =>
      split at next
      next possible =>
        obtain ⟨waiting, -, newFd, -, newAddress⟩ := possible
        cases session with
        | none =>
          cases next
          exact .acceptNoMemory fd socket accepting waiting
        | some a =>
          cases next
          exact .accept fd a socket accepting waiting newFd (newAddress a rfl)
      · cases next
    · cases next
  | acceptAgain =>
    simp only [step] at next
    split at next
    next accepting =>
      split at next
      next nobody =>
        cases next
        exact .acceptAgain accepting nobody
      · cases next
    · cases next
  | acceptError =>
    simp only [step] at next
    split at next
    next accepting =>
      cases next
      exact .acceptError accepting
    · cases next
  | queuePop =>
    simp only [step] at next
    split at next
    next free popping =>
      split at next
      next empty =>
        cases next
        exact .popNothing popping empty
      · obtain ⟨t, turn, rfl⟩ := Option.map_eq_some_iff.mp next
        exact .pop popping t turn
    · cases next
  | recv count =>
    simp only [step] at next
    split at next
    next a free reading => exact .recv count a s' reading next
    · cases next

variable {s s' : EventLoop} {fd : Int} {a : Nat}

theorem polled_of_interest {i : Interest} (known : s.interests fd = some i) : s.polled fd =
    if s.readable fd || (i.epollout && s.writable fd) then
      some (i.session, ⟨s.readable fd, i.epollout && s.writable fd⟩)
    else none := by
  rw [polled, known]
  rfl

theorem session_of_polled {event : Nat × EventMask} (found : s.polled fd = some event) :
    ∃ i, s.interests fd = some i ∧ i.session = event.1 := by
  obtain ⟨i, known, -⟩ := Option.bind_eq_some_iff.mp found
  rw [polled_of_interest known] at found
  split at found
  · cases found
    exact ⟨i, known, rfl⟩
  · cases found

theorem trigger_eq (s : EventLoop) (fd : Int) :
    ∃ ready, s.trigger fd = { s with ready := ready } ∧ (s.ready.Nodup → ready.Nodup) := by
  unfold trigger
  split
  next new =>
    refine ⟨_, rfl, fun nodup => ?_⟩
    exact List.nodup_append.mpr ⟨nodup, List.nodup_singleton fd, fun x known y last same => by
      rw [List.mem_singleton.mp last] at same
      exact new.2 (same ▸ known)⟩
  · exact ⟨s.ready, rfl, id⟩

/-! ### The node inside the loop -/

theorem threads_trigger (s : EventLoop) (fd : Int) : (s.trigger fd).threads = s.threads := by
  obtain ⟨ready, same, -⟩ := s.trigger_eq fd
  rw [same]

theorem threads_withThreads (s : EventLoop) (t : NodeThreads PageBytes) :
    (s.withThreads t).threads = t := by
  unfold withThreads
  split
  · exact threads_trigger _ _
  · rfl

theorem threads_epollCtl (s : EventLoop) (fd : Int) (interest : Interest) :
    (s.epollCtl fd interest).threads = s.threads := by
  unfold epollCtl
  dsimp only
  split
  · exact threads_trigger _ _
  · rfl

/-- A step of the loop leaves the node alone, or is one of its turns. -/
def TurnsNode (s s' : EventLoop) : Prop :=
  s'.threads = s.threads ∨ ∃ e, s.threads.step e = some s'.threads

theorem turnsNode_withThreads {e : NodeEvent PageBytes} {t : NodeThreads PageBytes}
    (next : s.threads.step e = some t) : s.TurnsNode (s.withThreads t) :=
  Or.inr ⟨e, by rw [next, threads_withThreads]⟩

theorem turnsNode_closeSession (closed : s.closeSession a fd = some s') : s.TurnsNode s' := by
  obtain ⟨t, next, rfl⟩ := Option.map_eq_some_iff.mp closed
  exact Or.inr ⟨_, next⟩

theorem turnsNode_handleEvent {mask : EventMask} (handled : s.handleEvent a mask = some s') :
    s.TurnsNode s' := by
  unfold handleEvent at handled
  split at handled
  · cases handled
    exact Or.inl rfl
  · split at handled
    · cases handled
      exact Or.inl rfl
    · split at handled <;> cases handled <;> exact Or.inl rfl
    · unfold peerEvent at handled
      split at handled
      · split at handled
        · exact turnsNode_closeSession handled
        · cases handled
          exact Or.inl (threads_epollCtl _ _ _)
      · cases handled
        exact Or.inl rfl

theorem turnsNode_receive {count : Nat} (received : s.receive a count = some s') :
    s.TurnsNode s' := by
  unfold receive at received
  split at received
  · cases received
    exact Or.inl rfl
  · split at received
    · exact turnsNode_closeSession received
    · split at received
      · split at received
        · dsimp only at received
          split at received
          · cases received
            exact Or.inl rfl
          · obtain ⟨t, next, rfl⟩ := Option.map_eq_some_iff.mp received
            exact Or.inr ⟨_, next.trans (congrArg some (threads_withThreads _ t).symm)⟩
        · cases received
      · split at received
        · exact turnsNode_closeSession received
        · cases received
          exact Or.inl rfl

theorem turnsNode_step {e : LoopEvent} (next : s.step e = some s') : s.TurnsNode s' := by
  cases turn_of_step next with
  | thread e t other turn => exact turnsNode_withThreads turn
  | arrives | delivers | ends | connectFails => exact Or.inl (threads_trigger _ _)
  | becomesWritable =>
    split
    · exact Or.inl (threads_trigger _ _)
    · exact Or.inl rfl
  | nextEvent a mask rest s' polling free first handled =>
    have turned := turnsNode_handleEvent handled
    exact turned
  | accept => exact Or.inl (threads_epollCtl _ _ _)
  | epollWait | acceptNoMemory | acceptAgain | acceptError | popNothing => exact Or.inl rfl
  | pop popping t turn => exact turnsNode_withThreads turn
  | recv count a s' reading received => exact turnsNode_receive received

/-- What holds of every run of a node holds of the node inside the loop. -/
theorem threads_run {allow : EventLoop → LoopEvent → Prop} {s₀ : EventLoop}
    (run : Runs.Run EventLoop.step allow s₀ s) :
    Runs.Run NodeThreads.step (fun _ _ => True) s₀.threads s.threads := by
  induction run with
  | refl => exact .refl
  | tail _ next ih =>
    obtain ⟨e, -, next⟩ := next
    rcases turnsNode_step next with same | ⟨e, turn⟩
    · rwa [same]
    · exact ih.tail ⟨e, trivial, turn⟩

end EventLoop

end TeleportVM
