import TeleportVM.WellFormed

/-!
The threads of one node. A page's lock is held for one critical section at a time, and the
engine gives it up in the middle of three handlers: between the two sections the fault handler,
the eviction thread and the application may run.
-/
namespace TeleportVM

variable {Page : Type}

/-- What the engine still has to do after it looked at a page's status and released the lock. -/
inductive EngineTask (Page : Type) where
  | zeroFill (idx : Nat) (isWrite : Bool)
  | answerFromCopy (clientFd : Int) (idx requestingNode : Nat) (isWrite : Bool) (page : Page)
  | answerWithZeros (clientFd : Int) (idx requestingNode : Nat) (isWrite : Bool)

/-- A node, and the task of its engine if it is inside a handler. -/
structure NodeThreads (Page : Type) where
  node : Node Page
  task : Option (EngineTask Page)

/-- One critical section, one access of the application, or the end of a connection. -/
inductive NodeEvent (Page : Type) where
  | load (idx : Nat)
  | store (idx : Nat) (contents : Page)
  | fault
  | drain
  | receive (clientFd : Int) (packet : DsmPacket Page)
  | finish
  | closed (clientFd : Int)
  | evict (networkFd : Int)

namespace Node

/-- The socket error and end-of-stream paths. -/
def closeConnection (n : Node Page) (clientFd : Int) : Node Page :=
  { n with
    nodeFds := fun m => if n.nodeFds m = clientFd ∧ m < 64 then -1 else n.nodeFds m
    coordinatorFd := if clientFd = n.coordinatorFd then -1 else n.coordinatorFd }

def raise (n : Node Page) (fault : PageRequest) : Node Page :=
  { n with uffdMessages := n.uffdMessages ++ [fault] }

/-- The page has an owner that the engine can ask for it. -/
def CanFetch (n : Node Page) (idx : Nat) : Prop :=
  gpdGetOwner n.directory idx ≠ 0 ∧ gpdGetOwner n.directory idx < 64 ∧
    n.nodeFds (gpdGetOwner n.directory idx) ≠ -1

instance (n : Node Page) (idx : Nat) : Decidable (n.CanFetch idx) :=
  inferInstanceAs (Decidable (_ ∧ _))

/-- The engine finds the page neither here nor at an owner. -/
def MissesLocally (n : Node Page) (idx : Nat) : Prop :=
  n.coordinatorFd = -1 ∧ ¬ (n.pageTable idx = .valid ∨ n.pageTable idx = .writePending) ∧
    ¬ n.CanFetch idx

instance (n : Node Page) (idx : Nat) : Decidable (n.MissesLocally idx) :=
  inferInstanceAs (Decidable (_ ∧ _))

variable [Zero Page]

/-- A queued request up to the point where the engine releases the page's lock. -/
def beginQueuedRequest (n : Node Page) (req : PageRequest) : Node Page × Option (EngineTask Page) :=
  if n.MissesLocally req.pageIndex then (n, some (.zeroFill req.pageIndex req.isWrite))
  else (n.serveQueuedRequest req, none)

/-- A page request up to the point where the engine releases the page's lock, after copying a
`PAGE_VALID` page into the response. -/
def beginPageRequest (n : Node Page) (clientFd : Int) (packet : DsmPacket Page) :
    Option (Node Page × Option (EngineTask Page)) :=
  let idx := packet.pageIndex
  if idx < n.numPages then
    let requestingNode := packet.senderNodeId
    let n := n.registerSender clientFd requestingNode
    if n.pageTable idx = .valid then
      (n.mapping idx).contents.map fun page =>
        (n, some (.answerFromCopy clientFd idx requestingNode (packet.type = .requestPageWrite) page))
    else if n.CanFetch idx ∧ gpdGetOwner n.directory idx ≠ requestingNode then
      some (n.fetchFromOwner idx requestingNode packet.type clientFd (gpdGetOwner n.directory idx), none)
    else
      some (n, some (.answerWithZeros clientFd idx requestingNode (packet.type = .requestPageWrite)))
  else some (n, none)

def beginPacket (n : Node Page) (clientFd : Int) (packet : DsmPacket Page) :
    Option (Node Page × Option (EngineTask Page)) :=
  match packet.type with
  | .requestPageRead | .requestPageWrite => n.beginPageRequest clientFd packet
  | _ => (n.dispatchPacket clientFd packet).map fun handled => (handled, none)

/-- The rest of a handler. -/
def perform (n : Node Page) : EngineTask Page → Node Page
  | .zeroFill idx isWrite => n.zeroFillLocal idx isWrite
  | .answerFromCopy clientFd idx requestingNode isWrite page =>
    if isWrite then n.serveWriteFromCopy clientFd idx requestingNode page
    else n.serveReadFromCopy clientFd idx requestingNode page
  | .answerWithZeros clientFd idx requestingNode isWrite =>
    n.serveZeroPage clientFd idx requestingNode isWrite

def performAll (n : Node Page) (task : Option (EngineTask Page)) : Node Page :=
  task.elim n n.perform

/-! ### The two sections of a handler, one right after the other -/

theorem serveQueuedRequest_sections (n : Node Page) (req : PageRequest) :
    (n.beginQueuedRequest req).1.performAll (n.beginQueuedRequest req).2 = n.serveQueuedRequest req := by
  unfold beginQueuedRequest
  split
  next missing =>
    -- the first section of a local miss does nothing: all is left to the second
    obtain ⟨coordinator, absent, unowned⟩ := missing
    simp only [CanFetch] at unowned
    simp only [performAll, Option.elim_some, perform, serveQueuedRequest]
    rw [if_neg (not_not.mpr coordinator), if_neg absent, if_neg unowned]
  · rfl

theorem handlePageRequest_sections (n : Node Page) (clientFd : Int) (packet : DsmPacket Page) :
    (n.beginPageRequest clientFd packet).map (fun begun => begun.1.performAll begun.2) =
      n.handlePageRequest clientFd packet := by
  unfold beginPageRequest handlePageRequest
  dsimp only
  split
  · split
    · -- the copy is taken in the first section and sent in the second
      cases (Mapping.contents _) with
      | none => rfl
      | some page =>
        by_cases write : packet.type = .requestPageWrite <;>
          simp [performAll, perform, write]
    · split
      -- a fetch has no second section
      next fetch =>
        obtain ⟨⟨owned, small, connected⟩, other⟩ := fetch
        rw [if_pos ⟨owned, small, connected, other⟩]
        rfl
      next elsewhere =>
        split
        next fetch => exact absurd ⟨⟨fetch.1, fetch.2.1, fetch.2.2.1⟩, fetch.2.2.2⟩ elsewhere
        · rfl
  · rfl

theorem dispatchPacket_sections (n : Node Page) (clientFd : Int) (packet : DsmPacket Page) :
    (n.beginPacket clientFd packet).map (fun begun => begun.1.performAll begun.2) =
      n.dispatchPacket clientFd packet := by
  unfold beginPacket
  split
  next read =>
    rw [handlePageRequest_sections, dispatchPacket, read]
  next write =>
    rw [handlePageRequest_sections, dispatchPacket, write]
  · simp [performAll, Function.comp_def]

end Node

namespace NodeThreads

variable [Zero Page]

/-- A thread takes its turn: the calls it makes are those of this turn alone. -/
def resume (t : NodeThreads Page) : Node Page := { t.node with effects := [] }

def step (t : NodeThreads Page) : NodeEvent Page → Option (NodeThreads Page)
  | .load idx =>
    if idx < t.node.numPages then
      if (t.node.mapping idx).isMapped then some { t with node := t.resume }
      else some { t with node := t.resume.raise ⟨idx, false⟩ }
    else none
  | .store idx contents =>
    if idx < t.node.numPages then
      if (t.node.mapping idx).isWritable then
        some { t with node := t.resume.setMapping idx (.readWrite contents) }
      else some { t with node := t.resume.raise ⟨idx, true⟩ }
    else none
  | .fault =>
    match t.node.uffdMessages with
    | [] => none
    | fault :: rest => some { t with node := { t.resume with uffdMessages := rest }.handleFault fault }
  | .drain =>
    match t.task, t.node.sharedReqQueue with
    | none, req :: rest =>
      let begun := { t.resume with sharedReqQueue := rest }.beginQueuedRequest req
      some ⟨begun.1, begun.2⟩
    | _, _ => none
  | .receive clientFd packet =>
    match t.task with
    | none => (t.resume.beginPacket clientFd packet).map fun begun => ⟨begun.1, begun.2⟩
    | some _ => none
  | .finish => t.task.map fun task => ⟨t.resume.perform task, none⟩
  | .closed clientFd =>
    match t.task with
    | none => some ⟨t.resume.closeConnection clientFd, none⟩
    | some _ => none
  | .evict networkFd =>
    (t.resume.dsmExecuteEviction networkFd).map fun result => { t with node := result.1 }

/-- A node as `main` leaves it. -/
def start (id : Nat) (coordinatorFd : Int) (numPages : Nat) : NodeThreads Page :=
  ⟨.boot id coordinatorFd numPages, none⟩

end NodeThreads

/-! ### What a turn is -/

namespace Node

variable [Zero Page]

/-- The ways a page request is taken up. -/
inductive TakesRequest (n : Node Page) (clientFd : Int) (packet : DsmPacket Page) :
    Node Page × Option (EngineTask Page) → Prop where
  | outside (outside : ¬ packet.pageIndex < n.numPages) : TakesRequest n clientFd packet (n, none)
  | fromCopy (page : Page) (inside : packet.pageIndex < n.numPages)
      (valid : n.pageTable packet.pageIndex = .valid)
      (contents : (n.mapping packet.pageIndex).contents = some page) :
      TakesRequest n clientFd packet (n.registerSender clientFd packet.senderNodeId,
        some (.answerFromCopy clientFd packet.pageIndex packet.senderNodeId
          (packet.type = .requestPageWrite) page))
  | fetch (inside : packet.pageIndex < n.numPages) (absent : n.pageTable packet.pageIndex ≠ .valid)
      (owned : (n.registerSender clientFd packet.senderNodeId).CanFetch packet.pageIndex ∧
        gpdGetOwner n.directory packet.pageIndex ≠ packet.senderNodeId) :
      TakesRequest n clientFd packet ((n.registerSender clientFd packet.senderNodeId).fetchFromOwner
        packet.pageIndex packet.senderNodeId packet.type clientFd
        (gpdGetOwner n.directory packet.pageIndex), none)
  | withZeros (inside : packet.pageIndex < n.numPages)
      (absent : n.pageTable packet.pageIndex ≠ .valid)
      (unowned : ¬ ((n.registerSender clientFd packet.senderNodeId).CanFetch packet.pageIndex ∧
        gpdGetOwner n.directory packet.pageIndex ≠ packet.senderNodeId)) :
      TakesRequest n clientFd packet (n.registerSender clientFd packet.senderNodeId,
        some (.answerWithZeros clientFd packet.pageIndex packet.senderNodeId
          (packet.type = .requestPageWrite)))

variable {n : Node Page} {clientFd : Int} {packet : DsmPacket Page}
  {begun : Node Page × Option (EngineTask Page)}

theorem takesRequest (next : n.beginPageRequest clientFd packet = some begun) :
    n.TakesRequest clientFd packet begun := by
  unfold beginPageRequest at next
  dsimp only at next
  split at next
  next inside =>
    split at next
    next valid =>
      obtain ⟨page, contents, rfl⟩ := Option.map_eq_some_iff.mp next
      exact .fromCopy page inside valid contents
    next absent =>
      split at next
      next owned =>
        cases next
        exact .fetch inside absent owned
      next unowned =>
        cases next
        exact .withZeros inside absent unowned
  next outside =>
    cases next
    exact .outside outside

/-- The ways a packet is taken up. -/
inductive TakesPacket (n : Node Page) (clientFd : Int) (packet : DsmPacket Page) :
    Node Page × Option (EngineTask Page) → Prop where
  | request (begun : Node Page × Option (EngineTask Page))
      (kind : packet.type = .requestPageRead ∨ packet.type = .requestPageWrite)
      (takes : n.TakesRequest clientFd packet begun) : TakesPacket n clientFd packet begun
  | page (kind : packet.type = .sendPage) :
      TakesPacket n clientFd packet (n.handleSendPage packet, none)
  | join (kind : packet.type = .nodeJoin) :
      TakesPacket n clientFd packet (n.handleNodeJoin clientFd packet, none)
  | invalidate (kind : packet.type = .invalidate) :
      TakesPacket n clientFd packet (n.handleInvalidate clientFd packet, none)
  | ack (kind : packet.type = .invalidateAck) :
      TakesPacket n clientFd packet (n.handleInvalidateAck packet, none)
  | other (code : UInt8) (kind : packet.type = .other code) : TakesPacket n clientFd packet (n, none)

theorem takesPacket (next : n.beginPacket clientFd packet = some begun) :
    n.TakesPacket clientFd packet begun := by
  unfold beginPacket dispatchPacket at next
  cases kind : packet.type with
  | requestPageRead =>
    rw [kind] at next
    exact .request begun (Or.inl kind) (takesRequest next)
  | requestPageWrite =>
    rw [kind] at next
    exact .request begun (Or.inr kind) (takesRequest next)
  | sendPage =>
    rw [kind] at next
    cases next
    exact .page kind
  | nodeJoin =>
    rw [kind] at next
    cases next
    exact .join kind
  | invalidate =>
    rw [kind] at next
    cases next
    exact .invalidate kind
  | invalidateAck =>
    rw [kind] at next
    cases next
    exact .ack kind
  | other code =>
    rw [kind] at next
    cases next
    exact .other code kind

end Node

namespace NodeThreads

variable [Zero Page]

/-- The turns from `t`, each with what it needs. -/
inductive Turn (t : NodeThreads Page) : NodeEvent Page → NodeThreads Page → Prop where
  | load (idx : Nat) (inside : idx < t.node.numPages) (mapped : (t.node.mapping idx).isMapped = true) :
      Turn t (.load idx) { t with node := t.resume }
  | loadFault (idx : Nat) (inside : idx < t.node.numPages)
      (unmapped : ¬ (t.node.mapping idx).isMapped = true) :
      Turn t (.load idx) { t with node := t.resume.raise ⟨idx, false⟩ }
  | store (idx : Nat) (contents : Page) (inside : idx < t.node.numPages)
      (writable : (t.node.mapping idx).isWritable = true) :
      Turn t (.store idx contents) { t with node := t.resume.setMapping idx (.readWrite contents) }
  | storeFault (idx : Nat) (contents : Page) (inside : idx < t.node.numPages)
      (refused : ¬ (t.node.mapping idx).isWritable = true) :
      Turn t (.store idx contents) { t with node := t.resume.raise ⟨idx, true⟩ }
  | fault (fault : PageRequest) (rest : List PageRequest)
      (waiting : t.node.uffdMessages = fault :: rest) :
      Turn t .fault { t with node := { t.resume with uffdMessages := rest }.handleFault fault }
  | drain (req : PageRequest) (rest : List PageRequest) (free : t.task = none)
      (waiting : t.node.sharedReqQueue = req :: rest) :
      Turn t .drain ⟨({ t.resume with sharedReqQueue := rest }.beginQueuedRequest req).1,
        ({ t.resume with sharedReqQueue := rest }.beginQueuedRequest req).2⟩
  | receive (clientFd : Int) (packet : DsmPacket Page) (begun : Node Page × Option (EngineTask Page))
      (free : t.task = none) (takes : t.resume.TakesPacket clientFd packet begun) :
      Turn t (.receive clientFd packet) ⟨begun.1, begun.2⟩
  | finish (task : EngineTask Page) (busy : t.task = some task) :
      Turn t .finish ⟨t.resume.perform task, none⟩
  | closed (clientFd : Int) (free : t.task = none) :
      Turn t (.closed clientFd) ⟨t.resume.closeConnection clientFd, none⟩
  | evict (networkFd : Int) (result : Node Page × Option Nat)
      (swept : t.resume.dsmExecuteEviction networkFd = some result) :
      Turn t (.evict networkFd) { t with node := result.1 }

theorem turn_of_step {t t' : NodeThreads Page} {e : NodeEvent Page} (next : t.step e = some t') :
    t.Turn e t' := by
  cases e with
  | load idx =>
    simp only [step] at next
    split at next
    next inside =>
      split at next
      next mapped =>
        cases next
        exact .load idx inside mapped
      next unmapped =>
        cases next
        exact .loadFault idx inside unmapped
    · cases next
  | store idx contents =>
    simp only [step] at next
    split at next
    next inside =>
      split at next
      next writable =>
        cases next
        exact .store idx contents inside writable
      next refused =>
        cases next
        exact .storeFault idx contents inside refused
    · cases next
  | fault =>
    simp only [step] at next
    split at next
    · cases next
    next fault rest waiting =>
      cases next
      exact .fault fault rest waiting
  | drain =>
    simp only [step] at next
    split at next
    next req rest free waiting =>
      cases next
      exact .drain req rest free waiting
    · cases next
  | receive clientFd packet =>
    simp only [step] at next
    split at next
    next free =>
      obtain ⟨begun, handled, rfl⟩ := Option.map_eq_some_iff.mp next
      exact .receive clientFd packet begun free (Node.takesPacket handled)
    · cases next
  | finish =>
    obtain ⟨task, busy, rfl⟩ := Option.map_eq_some_iff.mp next
    exact .finish task busy
  | closed clientFd =>
    simp only [step] at next
    split at next
    next free =>
      cases next
      exact .closed clientFd free
    · cases next
  | evict networkFd =>
    obtain ⟨result, swept, rfl⟩ := Option.map_eq_some_iff.mp next
    exact .evict networkFd result swept

section Received

variable {t t' : NodeThreads Page} {clientFd : Int} {packet : DsmPacket Page}
  (next : t.step (.receive clientFd packet) = some t')
include next

/-- The contents of a page are handled in one turn. -/
theorem step_page (kind : packet.type = .sendPage) :
    t.task = none ∧ t' = ⟨t.resume.handleSendPage packet, none⟩ := by
  simp only [step, Node.beginPacket, Node.dispatchPacket, kind, Option.map_some] at next
  split at next
  next free =>
    cases next
    exact ⟨free, rfl⟩
  · cases next

/-- So is an acknowledgement. -/
theorem step_ack (kind : packet.type = .invalidateAck) :
    t.task = none ∧ t' = ⟨t.resume.handleInvalidateAck packet, none⟩ := by
  simp only [step, Node.beginPacket, Node.dispatchPacket, kind, Option.map_some] at next
  split at next
  next free =>
    cases next
    exact ⟨free, rfl⟩
  · cases next

end Received

/-! ### The nodes of a cluster -/

/-- The threads of a node `n` of a cluster, none of them inside a handler. -/
def Matches (t : NodeThreads Page) (n : Node Page) : Prop := t.task = none ∧ t.resume = n

/-- What the threads of a node can lead to, starting between two handlers. -/
def Reaches (n n' : Node Page) : Prop :=
  ∀ t : NodeThreads Page, t.Matches n →
    ∃ t', Runs.Run step (fun _ _ => True) t t' ∧ t'.Matches n'

omit [Zero Page] in
theorem resume_of_quiet {n : Node Page} (quiet : n.effects = []) (task : Option (EngineTask Page)) :
    resume ⟨n, task⟩ = n := by
  rw [resume, ← quiet]

/-- A step does not depend on the calls made before it. -/
theorem step_resume (t : NodeThreads Page) (e : NodeEvent Page) :
    step ⟨t.resume, t.task⟩ e = t.step e := by
  cases e <;> rfl

/-- One turn, after which the engine runs its handler to the end. -/
theorem Reaches.turn {n node : Node Page} {task : Option (EngineTask Page)} (e : NodeEvent Page)
    (next : step ⟨n, none⟩ e = some ⟨node, task⟩) (quiet : task ≠ none → node.effects = []) :
    Reaches n { node.performAll task with effects := [] } := by
  intro t agrees
  have turn : Runs.Step step (fun _ _ => True) t ⟨node, task⟩ := by
    refine ⟨e, trivial, ?_⟩
    rw [← step_resume, agrees.1, agrees.2]
    exact next
  cases task with
  | none => exact ⟨⟨node, none⟩, .single turn, rfl, rfl⟩
  -- no other thread comes between the two sections
  | some task =>
    have finish : step ⟨node, some task⟩ .finish = some ⟨node.perform task, none⟩ := by
      simp only [step, Option.map_some, resume_of_quiet (quiet nofun)]
    exact ⟨⟨node.perform task, none⟩, .tail (.single turn) ⟨.finish, trivial, finish⟩, rfl, rfl⟩

/-- One turn of a thread other than the engine. -/
theorem Reaches.single {n node : Node Page} (e : NodeEvent Page)
    (next : step ⟨n, none⟩ e = some ⟨node, none⟩) : Reaches n { node with effects := [] } :=
  .turn e next fun busy => absurd rfl busy

/-- An access that the mapping does not allow. -/
theorem Reaches.raise {n : Node Page} {fault : PageRequest} (quiet : n.effects = [])
    (e : NodeEvent Page) (next : step ⟨n, none⟩ e = some ⟨n.raise fault, none⟩) :
    Reaches n (n.raise fault) := by
  have same : ({ n.raise fault with effects := [] } : Node Page) = n.raise fault := by
    simp [Node.raise, quiet]
  rw [← same]
  exact .single e next

theorem beginQueuedRequest_quiet (n : Node Page) (req : PageRequest)
    (busy : (n.beginQueuedRequest req).2 ≠ none) : (n.beginQueuedRequest req).1.effects = n.effects := by
  unfold Node.beginQueuedRequest at busy ⊢
  split at busy
  next missing => rw [if_pos missing]
  · exact absurd rfl busy

theorem beginPacket_quiet {n : Node Page} {clientFd : Int} {packet : DsmPacket Page}
    {begun : Node Page × Option (EngineTask Page)} (next : n.beginPacket clientFd packet = some begun)
    (busy : begun.2 ≠ none) : begun.1.effects = n.effects := by
  cases Node.takesPacket next with
  | request begun _ takes =>
    cases takes with
    | outside | fromCopy | withZeros => rfl
    | fetch => exact absurd rfl busy
  | page | join | invalidate | ack | other => exact absurd rfl busy

theorem reaches_dispatchPacket {n handled : Node Page} {clientFd : Int} {packet : DsmPacket Page}
    (quiet : n.effects = []) (next : n.dispatchPacket clientFd packet = some handled) :
    Reaches n { handled with effects := [] } := by
  -- a handler of the cluster is the two sections of its packet
  rw [← Node.dispatchPacket_sections] at next
  obtain ⟨begun, received, rfl⟩ := Option.map_eq_some_iff.mp next
  refine .turn (.receive clientFd packet) ?_ fun busy => (beginPacket_quiet received busy).trans quiet
  simp only [step, resume_of_quiet quiet, received]
  rfl

omit [Zero Page] in
theorem numPages_of_mem {T : Topology} {s : Cluster Page} (ok : ClusterOk T s) {m : Nat}
    (member : m ∈ T.nodes) : (s.node m).numPages = T.numPages := by
  rcases Finset.mem_insert.mp member with rfl | worker
  · exact ok.coordinator.pages
  · exact (ok.workers m worker).pages

/-- One event of a cluster is a run of the threads of the node where it happens. -/
theorem run_of_event {T : Topology} {s s' : Cluster Page} (ok : ClusterOk T s) {e : Event Page}
    (next : s.step T e = some s') :
    ∃ m node, s'.node = Function.update s.node m node ∧ Reaches (s.node m) node := by
  cases e with
  | load m p =>
    have quiet := resume_of_quiet (ok.idle m) none
    obtain ⟨member, inRange, ⟨-, rfl⟩ | ⟨unmapped, rfl⟩⟩ := Cluster.loadStep_cases next
    · -- an access that succeeds leaves the node as it was
      exact ⟨m, s'.node m, (Function.update_eq_self m s'.node).symm, fun t agrees => ⟨t, .refl, agrees⟩⟩
    · refine ⟨m, (s.node m).raise ⟨p, false⟩, rfl, .raise (ok.idle m) (.load p) ?_⟩
      simp only [step]
      rw [if_pos (numPages_of_mem ok member ▸ inRange), if_neg (Bool.eq_false_iff.mp unmapped), quiet]
  | store m p contents =>
    have quiet := resume_of_quiet (ok.idle m) none
    obtain ⟨member, inRange, ⟨writable, rfl⟩ | ⟨refused, rfl⟩⟩ := Cluster.storeStep_cases next
    · refine ⟨m, _, rfl, .single (.store p contents) ?_⟩
      simp only [step]
      rw [if_pos (numPages_of_mem ok member ▸ inRange), if_pos writable, quiet]
    · refine ⟨m, (s.node m).raise ⟨p, true⟩, rfl, .raise (ok.idle m) (.store p contents) ?_⟩
      simp only [step]
      rw [if_pos (numPages_of_mem ok member ▸ inRange), if_neg (Bool.eq_false_iff.mp refused), quiet]
  | fault m =>
    obtain ⟨-, fault, rest, waiting, rfl⟩ := Cluster.faultStep_cases next
    refine ⟨m, _, rfl, .single .fault ?_⟩
    simp only [step, waiting, resume_of_quiet (ok.idle m)]
  | drain m =>
    obtain ⟨-, req, rest, waiting, rfl⟩ := Cluster.drainStep_cases next
    refine ⟨m, _, rfl, ?_⟩
    rw [← Node.serveQueuedRequest_sections]
    refine .turn .drain ?_ fun busy => (beginQueuedRequest_quiet _ req busy).trans (ok.idle m)
    simp only [step, waiting, resume_of_quiet (ok.idle m)]
  | toCoordinator w =>
    obtain ⟨-, _, _, node, -, handled, rfl⟩ := Cluster.toCoordinatorStep_cases next
    exact ⟨T.coordinator, _, rfl, reaches_dispatchPacket (ok.idle _) handled⟩
  | toWorker w =>
    obtain ⟨-, _, _, node, -, handled, rfl⟩ := Cluster.toWorkerStep_cases next
    exact ⟨w, _, rfl, reaches_dispatchPacket (ok.idle _) handled⟩
  | evict w =>
    obtain ⟨-, result, swept, rfl⟩ := Cluster.evictStep_cases next
    refine ⟨w, _, rfl, .single (.evict (T.connectFd w)) ?_⟩
    simp only [step, resume_of_quiet (ok.idle w), swept]
    rfl

/-- Every node of a reachable cluster is reached by its threads from the state `main` leaves. -/
theorem run_of_cluster {T : Topology} {allow : Cluster Page → Event Page → Prop} {s : Cluster Page}
    (run : Runs.Run (Cluster.step T) allow (Cluster.initial T) s) (n : Nat) :
    ∃ t, Runs.Run step (fun _ _ => True)
        (start n (if n ∈ T.workers then T.connectFd n else -1) T.numPages) t ∧ t.Matches (s.node n) := by
  induction run with
  | refl => exact ⟨_, .refl, rfl, rfl⟩
  | @tail s s' reached last ih =>
    obtain ⟨e, -, next⟩ := last
    obtain ⟨t, before, agrees⟩ := ih
    obtain ⟨m, node, after, turn⟩ := run_of_event (clusterOk_of_run reached) next
    -- only the threads of the node where the event happens move
    by_cases same : n = m
    · subst same
      obtain ⟨t', more, agrees'⟩ := turn t agrees
      exact ⟨t', before.trans more, by rw [after, Function.update_self]; exact agrees'⟩
    · exact ⟨t, before, by rw [after, Function.update_of_ne same]; exact agrees⟩

end NodeThreads

end TeleportVM
