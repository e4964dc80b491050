import TeleportVM.Coherence
import TeleportVM.EngineHandling
import TeleportVM.NoLostRequest

/-!
One page fault handled to its end while nothing else is going on in the cluster: by the fault
handler, the queue of its node, the coordinator and whoever else is asked.
-/
namespace TeleportVM

variable {Page : Type}

/-- The fault handlers and the engines run, and no program does. -/
def Event.isHandling : Event Page → Bool
  | .fault _ | .drain _ | .toCoordinator _ | .toWorker _ => true
  | .load _ _ | .store _ _ _ | .evict _ => false

theorem isHandling_of_delivery {e : Event Page} (delivery : e.isDelivery = true) :
    e.isHandling = true := by
  cases e with
  | toCoordinator | toWorker => rfl
  | load | store | fault | drain | evict => cases delivery

theorem isEviction_of_handling {e : Event Page} (handling : e.isHandling = true) :
    e.isEviction = false := by
  cases e with
  | evict => cases handling
  | load | store | fault | drain | toCoordinator | toWorker => rfl

/-- Nothing is left to handle. -/
def Cluster.Drained (T : Topology) (s : Cluster Page) : Prop :=
  s.Quiet T ∧ ∀ n ∈ T.nodes, (s.node n).uffdMessages = []

instance (T : Topology) (s : Cluster Page) : Decidable (s.Drained T) :=
  inferInstanceAs (Decidable (_ ∧ _))

/-! ### Page-fault messages -/

namespace Node

variable [Zero Page] (n : Node Page) (fd : Int) (idx r : Nat)

/-! The engine neither takes nor leaves one. -/

omit [Zero Page] in
@[simp] theorem uffdMessages_ownDroppingLocal :
    (n.ownDroppingLocal idx r).1.uffdMessages = n.uffdMessages := by
  unfold ownDroppingLocal
  dsimp only
  split <;> rfl

@[simp] theorem uffdMessages_deferOrSend (mask : BitVec 64) (response : DsmPacket Page) :
    (n.deferOrSend fd r mask response).uffdMessages = n.uffdMessages := by
  unfold deferOrSend
  dsimp only
  split <;> rfl

@[simp] theorem uffdMessages_serveZeroPage (isWrite : Bool) :
    (n.serveZeroPage fd idx r isWrite).uffdMessages = n.uffdMessages := by
  unfold serveZeroPage
  dsimp only
  split
  · simp
  · rfl

omit [Zero Page] in
theorem uffdMessages_serveReadFromCopy (page : Page) :
    (n.serveReadFromCopy fd idx r page).uffdMessages = n.uffdMessages := by
  unfold serveReadFromCopy
  dsimp only
  split <;> rfl

omit [Zero Page] in
theorem uffdMessages_completePending (packet : DsmPacket Page) :
    (n.completePending packet).uffdMessages = n.uffdMessages := by
  unfold completePending
  dsimp only
  split <;> rfl

theorem uffdMessages_handleSendPage (packet : DsmPacket Page) :
    (n.handleSendPage packet).uffdMessages = n.uffdMessages := by
  unfold handleSendPage
  dsimp only
  split
  · split
    · split
      · unfold replyToPendingWrite
        dsimp only
        split
        · exact uffdMessages_ownDroppingLocal ..
        · exact (uffdMessages_completePending _ _).trans (uffdMessages_ownDroppingLocal ..)
      · exact uffdMessages_completePending _ _
    · unfold acceptPage
      dsimp only
      split <;> rfl
  · rfl

omit [Zero Page] in
theorem uffdMessages_handleInvalidateAck (packet : DsmPacket Page) :
    (n.handleInvalidateAck packet).uffdMessages = n.uffdMessages := by
  unfold handleInvalidateAck
  dsimp only
  split
  · split
    · split
      · unfold grantDeferred
        dsimp only
        split
        · split <;> rfl
        · rfl
      · rfl
    · rfl
  · rfl

theorem uffdMessages_handleInvalidate (packet : DsmPacket Page) :
    (n.handleInvalidate fd packet).uffdMessages = n.uffdMessages := by
  unfold handleInvalidate
  dsimp only
  split
  · split <;> rfl
  · rfl

theorem uffdMessages_handlePageRequest {n' : Node Page} {packet : DsmPacket Page}
    (handled : n.handlePageRequest fd packet = some n') : n'.uffdMessages = n.uffdMessages := by
  unfold handlePageRequest at handled
  dsimp only at handled
  split at handled
  · split at handled
    · split at handled
      · cases handled
      · split at handled
        · cases handled
          exact uffdMessages_deferOrSend ..
        · cases handled
          exact uffdMessages_serveReadFromCopy ..
    · split at handled
      · cases handled
        rfl
      · cases handled
        exact uffdMessages_serveZeroPage ..
  · cases handled
    rfl

theorem uffdMessages_dispatchPacket {n' : Node Page} {packet : DsmPacket Page}
    (handled : n.dispatchPacket fd packet = some n') : n'.uffdMessages = n.uffdMessages := by
  unfold dispatchPacket at handled
  split at handled
  · cases handled; rfl
  · cases handled; exact uffdMessages_handleSendPage ..
  · cases handled; exact uffdMessages_handleInvalidate ..
  · cases handled; exact uffdMessages_handleInvalidateAck ..
  · exact uffdMessages_handlePageRequest _ _ handled
  · exact uffdMessages_handlePageRequest _ _ handled
  · cases handled; rfl

theorem uffdMessages_serveQueuedRequest (req : PageRequest) :
    (n.serveQueuedRequest req).uffdMessages = n.uffdMessages := by
  unfold serveQueuedRequest
  dsimp only
  split
  · rfl
  · split
    · split
      · unfold upgradeLocalCopy
        dsimp only
        split <;> rfl
      · rfl
    · split
      · rfl
      · unfold zeroFillLocal
        dsimp only
        split <;> rfl

omit [Zero Page] in
/-- The fault handler leaves the rest of the messages, and calls nobody. -/
theorem handleFault_rest (fault : PageRequest) :
    (n.handleFault fault).uffdMessages = n.uffdMessages ∧ (n.handleFault fault).effects = n.effects := by
  unfold handleFault queuePush
  dsimp only
  split
  · exact ⟨rfl, rfl⟩
  · split <;> exact ⟨rfl, rfl⟩

end Node

section Messages

variable [Zero Page] {T : Topology} {s t : Cluster Page} {e : Event Page} {q : Nat}

omit [Zero Page] in
theorem uffdMessages_settle {m : Nat} {node : Node Page}
    (same : node.uffdMessages = (s.node m).uffdMessages) (n : Nat) :
    ((s.settle T m node).node n).uffdMessages = (s.node n).uffdMessages := by
  by_cases own : n = m
  · subst own
    simp [Cluster.settle, same]
  · simp [Cluster.settle, own]

/-- Only the fault handler takes a page-fault message. -/
theorem uffdMessages_step (handling : e.isHandling = true) (engine : ∀ n, e ≠ .fault n)
    (next : s.step T e = some t) (n : Nat) : (t.node n).uffdMessages = (s.node n).uffdMessages := by
  cases e with
  | load | store | evict => cases handling
  | fault m => exact absurd rfl (engine m)
  | drain m =>
    obtain ⟨-, req, rest, _, rfl⟩ := Cluster.drainStep_cases next
    exact uffdMessages_settle
      (Node.uffdMessages_serveQueuedRequest { s.node m with sharedReqQueue := rest } req) n
  | toCoordinator w =>
    obtain ⟨-, _, _, node, -, handled, rfl⟩ := Cluster.toCoordinatorStep_cases next
    exact uffdMessages_settle (T := T) (Node.uffdMessages_dispatchPacket _ _ handled) n
  | toWorker w =>
    obtain ⟨-, _, _, node, -, handled, rfl⟩ := Cluster.toWorkerStep_cases next
    exact uffdMessages_settle (T := T) (Node.uffdMessages_dispatchPacket _ _ handled) n

omit [Zero Page] in
/-- What the engine does about a page is to handle a packet or a queued request. -/
theorem handles_of_label (handling : e.isHandling = true) (engine : ∀ n, e ≠ .fault n)
    {label : PageLabel Page} (same : s.pageLabel T q e = some label) : label.Handles := by
  cases e with
  | load | store | evict => cases handling
  | fault m => exact absurd rfl (engine m)
  | drain m =>
    obtain ⟨req, -, same⟩ := Option.bind_eq_some_iff.mp same
    split at same
    · cases same
    · split at same <;> cases same <;> trivial
  | toCoordinator w =>
    obtain ⟨packet, -, same⟩ := Option.bind_eq_some_iff.mp same
    split at same
    · cases same
      trivial
    · split at same
      · split at same <;> cases same <;> trivial
      · split at same <;> cases same
        trivial
  | toWorker w =>
    obtain ⟨packet, -, same⟩ := Option.bind_eq_some_iff.mp same
    split at same <;> cases same
    trivial

omit [Zero Page] in
/-- The packet that is an acknowledgement for a page. -/
theorem ack_of_label {w : Nat} {packet : DsmPacket Page} {rest : List (DsmPacket Page)}
    (head : s.toCoordinator w = packet :: rest)
    (label : s.pageLabel T q (.toCoordinator w) = some (.ack w)) :
    packet.type = .invalidateAck ∧ packet.pageIndex = q := by
  simp only [Cluster.pageLabel, head, List.head?_cons, Option.bind_some] at label
  split at label
  · cases label
  · split at label
    next own => split at label <;> first | exact ⟨‹_›, own⟩ | cases label
    · split at label <;> cases label

omit [Zero Page] in
/-- Only a packet to the coordinator is an acknowledgement. -/
theorem event_of_ack {e : Event Page} {w : Nat} (label : s.pageLabel T q e = some (.ack w)) :
    e = .toCoordinator w := by
  cases e with
  | toCoordinator v =>
    obtain ⟨packet, -, label⟩ := Option.bind_eq_some_iff.mp label
    split at label
    · cases label
    · split at label
      · split at label <;> cases label
        rfl
      · split at label <;> cases label
  | drain n =>
    obtain ⟨req, -, label⟩ := Option.bind_eq_some_iff.mp label
    split at label
    · cases label
    · split at label <;> cases label
  | fault n =>
    obtain ⟨fault, -, label⟩ := Option.bind_eq_some_iff.mp label
    split at label
    · cases label
    · split at label <;> cases label
  | toWorker v =>
    obtain ⟨packet, -, label⟩ := Option.bind_eq_some_iff.mp label
    split at label <;> cases label
  | store n q page =>
    simp only [Cluster.pageLabel] at label
    split at label <;> cases label
  | load | evict => cases label

end Messages

/-! ### Nothing to handle -/

section Drained

variable [Zero Page] {T : Topology} {s t : Cluster Page} {e : Event Page}

/-- With nothing in flight and nothing queued only a fault handler can do something. -/
theorem Cluster.Quiet.stuck (quiet : s.Quiet T) (handling : e.isHandling = true)
    (engine : ∀ n, e ≠ .fault n) : s.step T e ≠ some t := by
  obtain ⟨links, queues⟩ := quiet
  intro next
  cases e with
  | load | store | evict => cases handling
  | fault n => exact engine n rfl
  | drain n =>
    obtain ⟨node, req, rest, waiting, -⟩ := Cluster.drainStep_cases next
    cases (queues n node).symm.trans waiting
  | toCoordinator w =>
    obtain ⟨worker, packet, rest, -, head, -, -⟩ := Cluster.toCoordinatorStep_cases next
    cases (links w worker).1.symm.trans head
  | toWorker w =>
    obtain ⟨worker, packet, rest, -, head, -, -⟩ := Cluster.toWorkerStep_cases next
    cases (links w worker).2.symm.trans head

theorem Cluster.Drained.stuck (drained : s.Drained T) (handling : e.isHandling = true) :
    s.step T e ≠ some t := by
  cases e with
  | fault n =>
    intro next
    obtain ⟨node, fault, rest, waiting, -⟩ := Cluster.faultStep_cases next
    cases (drained.2 n node).symm.trans waiting
  | load | store | drain | toCoordinator | toWorker | evict =>
    exact drained.1.stuck handling (by simp)

end Drained

/-- The engine leaves a page alone that nothing is going on about. -/
theorem PageState.Coherent.step [Zero Page] {T : Topology} {s t : Cluster Page} {e : Event Page}
    {q : Nat} {val : Page} (coherent : (s.pageState T q).Coherent val) (ok : ClusterOk T s)
    (inRange : q < T.numPages) (handling : e.isHandling = true) (engine : ∀ n, e ≠ .fault n)
    (next : s.step T e = some t) : (t.pageState T q).Coherent val := by
  have idle : (s.slot T q).expectedAcks = 0 := coherent.idle
  have moved := step_moves ok inRange (fun _ waiting => absurd idle (Nat.ne_of_gt waiting))
    (isEviction_of_handling handling) next
  unfold PageStep at moved
  split at moved
  · rw [moved]
    exact coherent
  next label same => exact coherent.handle (handles_of_label handling engine same) moved

/-! ### One page at a time -/

/-- Nothing is going on but what the engines do about page `p`. -/
structure OnlyPage [Zero Page] (T : Topology) (latest : Nat → Page) (p : Nat) (s : Cluster Page) :
    Prop where
  ok : ClusterOk T s
  sole : Sole T p s
  handled : ∀ n ∈ T.nodes, (s.node n).uffdMessages = []
  others : ∀ q < T.numPages, q ≠ p → (s.pageState T q).Coherent (latest q)

section OnlyPage

variable [Zero Page] {T : Topology} {latest : Nat → Page} {p : Nat} {s t : Cluster Page}
  {e : Event Page}

omit [Zero Page] in
theorem ClusterOk.queued (ok : ClusterOk T s) {n : Nat} (node : n ∈ T.nodes) {req : PageRequest}
    (found : req ∈ (s.node n).sharedReqQueue) : req.pageIndex < T.numPages := by
  rcases Finset.mem_insert.mp node with rfl | worker
  · exact ok.coordinator.requests req (Or.inl found)
  · exact (ok.workers n worker).requests req (Or.inl found)

namespace OnlyPage

variable (only : OnlyPage T latest p s)
include only

/-- All queued requests are for the page. -/
theorem queued {n : Nat} (node : n ∈ T.nodes) :
    ∀ req ∈ (s.node n).sharedReqQueue, req.pageIndex = p := by
  intro req found
  by_contra apart
  have silent := (only.others _ (only.ok.queued node found) apart).silent.queued n
  have listed : req.isWrite ∈ (s.pageState T req.pageIndex).queued n :=
    List.mem_filterMap.mpr ⟨req, found, by simp⟩
  rw [silent] at listed
  cases listed

theorem no_fault {n : Nat} : s.step T (.fault n) ≠ some t := by
  intro next
  obtain ⟨node, fault, rest, waiting, -⟩ := Cluster.faultStep_cases next
  cases (only.handled n node).symm.trans waiting

theorem step (handling : e.isHandling = true) (next : s.step T e = some t) :
    OnlyPage T latest p t := by
  have engine : ∀ n, e ≠ .fault n := by
    rintro n rfl
    exact only.no_fault next
  refine ⟨only.ok.step next, ?_, fun n node => ?_, fun q inRange apart => ?_⟩
  · cases e with
    | load | store | evict => cases handling
    | fault n => exact absurd rfl (engine n)
    | drain n =>
      obtain ⟨node, -⟩ := Cluster.drainStep_cases next
      exact only.sole.drain only.ok (only.queued node) next
    | toCoordinator w => exact only.sole.toCoordinator only.ok next
    | toWorker w => exact only.sole.toWorker only.ok next
  · rw [uffdMessages_step handling engine next n]
    exact only.handled n node
  · exact (only.others q inRange apart).step only.ok inRange handling engine next

/-- Everything that is handled is about the page. -/
theorem label (handling : e.isHandling = true) (next : s.step T e = some t) :
    ∃ label, s.pageLabel T p e = some label ∧ label.Handles ∧ ∀ w, label ≠ .join w := by
  cases e with
  | load | store | evict => cases handling
  | fault n => exact absurd next only.no_fault
  | drain n =>
    obtain ⟨node, req, rest, waiting, -⟩ := Cluster.drainStep_cases next
    have own := only.queued node req (by simp [waiting])
    simp only [Cluster.pageLabel, waiting, List.head?_cons, Option.bind_some, own, ne_eq,
      not_true_eq_false, if_false]
    split
    · exact ⟨_, rfl, trivial, by simp⟩
    · exact ⟨_, rfl, trivial, by simp⟩
  | toCoordinator w =>
    obtain ⟨label, same, -, ahead⟩ := only.sole.delivers rfl next
    exact ⟨label, same, handles_of_label rfl (by simp) same, ahead⟩
  | toWorker w =>
    obtain ⟨label, same, -, ahead⟩ := only.sole.delivers rfl next
    exact ⟨label, same, handles_of_label rfl (by simp) same, ahead⟩

/-- When nothing is left to do about the page, nothing is left to do. -/
theorem drained (silent : (s.pageState T p).Silent) : s.Drained T := by
  refine ⟨⟨fun w worker => ⟨?_, ?_⟩, fun n node => ?_⟩, only.handled⟩
  · exact (decoded_link fun packet found => (only.sole.up w worker packet found).2).1 (silent.up w)
  · exact (decoded_link fun packet found => (only.sole.down w worker packet found).2).1
      (silent.down w)
  · rw [List.eq_nil_iff_forall_not_mem]
    intro req found
    -- a request left in the queue would be one for the page
    have listed : req.isWrite ∈ (s.pageState T p).queued n :=
      List.mem_filterMap.mpr ⟨req, found, if_pos (only.queued node req found)⟩
    rw [silent.queued] at listed
    cases listed

end OnlyPage

end OnlyPage

/-! ### One page fault -/

/-- The page fault of `n`, which left the page in `start`, is being handled. -/
structure Serving [Zero Page] (T : Topology) (latest : Nat → Page) (p n : Nat) (isWrite : Bool)
    (start : PageState Page) (k : Nat) (s : Cluster Page) : Prop where
  only : OnlyPage T latest p s
  phase : PageState.Phase T n isWrite (latest p) start (fun _ => []) k (s.pageState T p)

/-- The page fault of `n` has been handled. -/
structure Served [Zero Page] (T : Topology) (latest : Nat → Page) (p n : Nat) (isWrite : Bool)
    (start : PageState Page) (s : Cluster Page) : Prop where
  only : OnlyPage T latest p s
  settled : PageState.Settled T n isWrite (latest p) start (fun _ => []) (s.pageState T p)

section Serving

variable [Zero Page] {T : Topology} {latest : Nat → Page} {p n : Nat} {isWrite : Bool}
  {start : PageState Page} {s t : Cluster Page} {e : Event Page} {k : Nat}

theorem Served.drained (served : Served T latest p n isWrite start s) : s.Drained T :=
  served.only.drained served.settled.silent

/-- Whatever is handled next brings the page fault nearer to its end. -/
theorem Serving.step (asked : PageState.Asked T n isWrite (latest p) start) (inRange : p < T.numPages)
    (serving : Serving T latest p n isWrite start k s) (handling : e.isHandling = true)
    (next : s.step T e = some t) :
    (∃ j < k, Serving T latest p n isWrite start j t) ∨ Served T latest p n isWrite start t := by
  obtain ⟨only, phase⟩ := serving
  obtain ⟨label, same, handles, ahead⟩ := only.label handling next
  have moved := step_moves only.ok inRange (fun _ => phase.counting asked.node)
    (isEviction_of_handling handling) next
  unfold PageStep at moved
  rw [same] at moved
  rcases phase.handle asked (only.ok.pageOk p) handles moved with
    ⟨⟨w, joins⟩, -⟩ | ⟨j, less, later⟩ | ⟨-, settled⟩
  · exact absurd joins (ahead w)
  · exact Or.inl ⟨j, less, only.step handling next, later⟩
  · exact Or.inr ⟨only.step handling next, settled⟩

/-- Until then something can be handled. -/
theorem Serving.progress (asked : PageState.Asked T n isWrite (latest p) start)
    (placed : start.entry.holders ⊆ T.nodes)
    (backed : ∀ m, start.status m = .valid → ∃ page, (start.mapping m).contents = some page)
    (serving : Serving T latest p n isWrite start k s) :
    ∃ e t, e.isHandling = true ∧ s.step T e = some t := by
  obtain ⟨only, phase⟩ := serving
  have backed := phase.backed backed
  rcases phase.waits asked placed (only.ok.pageOk p) with queued | ⟨w, worker, up⟩ | ⟨w, worker, down⟩
  · cases waiting : (s.node n).sharedReqQueue with
    | nil => exact absurd (by simp [Cluster.pageState, waiting, queuedFor]) queued
    | cons req rest =>
      have next : s.step T (.drain n) = some (s.settle T n
          ({ s.node n with sharedReqQueue := rest }.serveQueuedRequest req)) := by
        simp only [Cluster.step, Cluster.drainStep, asked.node, if_true, waiting]
      exact ⟨.drain n, _, rfl, next⟩
  · obtain ⟨e, t, delivery, next⟩ := delivers_up only.sole worker up (backed T.coordinator)
    exact ⟨e, t, isHandling_of_delivery delivery, next⟩
  · obtain ⟨e, t, delivery, next⟩ := delivers_down only.sole worker down (backed w)
    exact ⟨e, t, isHandling_of_delivery delivery, next⟩

/-- A page fault is handled to its end. -/
theorem Serving.complete (asked : PageState.Asked T n isWrite (latest p) start)
    (inRange : p < T.numPages) (placed : start.entry.holders ⊆ T.nodes)
    (backed : ∀ m, start.status m = .valid → ∃ page, (start.mapping m).contents = some page)
    (serving : Serving T latest p n isWrite start k s) :
    ∃ t, Runs.Run (Cluster.step T) (fun _ e => e.isHandling = true) s t ∧
      Served T latest p n isWrite start t := by
  -- the rank bounds the steps that are left of the phase
  refine Runs.Run.complete
    (fun rank t => (∃ j < rank, Serving T latest p n isWrite start j t) ∨
      Served T latest p n isWrite start t) _ ?_ (Or.inl ⟨k, Nat.lt_succ_self k, serving⟩)
  intro rank a ranked unserved
  obtain ⟨j, less, serving⟩ := ranked.resolve_right unserved
  obtain ⟨e, b, handling, next⟩ := serving.progress asked placed backed
  refine ⟨e, b, j, handling, next, ?_, less⟩
  exact serving.step asked inRange handling next

/-- What is handled of a page fault stays within it. -/
theorem serving_of_run (asked : PageState.Asked T n isWrite (latest p) start)
    (inRange : p < T.numPages) (serving : Serving T latest p n isWrite start k s)
    (run : Runs.Run (Cluster.step T) (fun _ e => e.isHandling = true) s t) :
    (∃ j, Serving T latest p n isWrite start j t) ∨ Served T latest p n isWrite start t := by
  apply run.invariant
  · exact Or.inl ⟨k, serving⟩
  · rintro a e b (⟨j, serving⟩ | served) handling next
    · rcases serving.step asked inRange handling next with ⟨i, -, later⟩ | served
      · exact Or.inl ⟨i, later⟩
      · exact Or.inr served
    · exact absurd next (served.drained.stuck handling)

end Serving

/-! ### From one access to the next -/

/-- Nothing is going on, and every page holds what has last been written to it. -/
structure Calm [Zero Page] (T : Topology) (latest : Nat → Page) (s : Cluster Page) : Prop where
  ok : ClusterOk T s
  drained : s.Drained T
  pages : ∀ p < T.numPages, (s.pageState T p).Coherent (latest p)

section Calm

variable [Zero Page] {T : Topology} {latest : Nat → Page} {p n : Nat} {isWrite : Bool}
  {s t : Cluster Page} {e : Event Page}

omit [Zero Page] in
theorem settle_silent (node : Node Page) (silent : node.effects = []) :
    (s.settle T n node).toCoordinator = s.toCoordinator ∧ (s.settle T n node).toWorker = s.toWorker := by
  simp [Cluster.settle, silent]

omit [Zero Page] in
theorem Cluster.Quiet.raise (quiet : s.Quiet T) (fault : PageRequest) : (s.raise n fault).Quiet T := by
  refine ⟨quiet.1, fun m node => ?_⟩
  by_cases own : m = n
  · subst own
    simpa [Cluster.raise] using quiet.2 m node
  · simpa [Cluster.raise, own] using quiet.2 m node

omit [Zero Page] in
theorem Cluster.Drained.raise_messages (drained : s.Drained T) (fault : PageRequest) {m : Nat}
    (node : m ∈ T.nodes) :
    ((s.raise n fault).node m).uffdMessages = if m = n then [fault] else [] := by
  have messages := drained.2 m node
  by_cases own : m = n
  · subst own
    simp [Cluster.raise, messages]
  · simp [Cluster.raise, own, messages]

/-- After a page fault there is one thing to do, for the fault handler. -/
theorem Cluster.Drained.only_fault (drained : s.Drained T) {fault : PageRequest}
    (handling : e.isHandling = true) (next : (s.raise n fault).step T e = some t) :
    e = .fault n ∧ n ∈ T.nodes ∧ t = (s.raise n fault).settle T n
      ({ (s.raise n fault).node n with uffdMessages := [] }.handleFault fault) := by
  cases e with
  | load | store | evict => cases handling
  | fault m =>
    obtain ⟨node, first, rest, waiting, rfl⟩ := Cluster.faultStep_cases next
    rw [drained.raise_messages fault node] at waiting
    split at waiting
    next own =>
      subst own
      cases waiting
      exact ⟨rfl, node, rfl⟩
    · cases waiting
  | drain | toCoordinator | toWorker =>
    exact absurd next ((drained.1.raise fault).stuck handling (by simp))

/-- An access that faults leaves a request for the page, and all else as it was. -/
theorem Calm.faulted (calm : Calm T latest s) (inRange : p < T.numPages)
    (needed : isWrite = false → ((s.node n).mapping p).isMapped = false)
    (handling : e.isHandling = true) (next : (s.raise n ⟨p, isWrite⟩).step T e = some t) :
    Serving T latest p n isWrite ((s.pageState T p).faulted n isWrite)
      (2 * (s.pageState T p).entry.holders.card + 5) t := by
  obtain ⟨ok, drained, pages⟩ := calm
  have raised := ok.raise (n := n) isWrite inRange
  obtain ⟨rfl, node, after⟩ := drained.only_fault handling next
  have messages := drained.raise_messages ⟨p, isWrite⟩ (n := n) node
  rw [if_pos rfl] at messages
  have quiet := (drained.1.raise ⟨p, isWrite⟩ (n := n)).2 n node
  have left := Node.handleFault_rest { (s.raise n ⟨p, isWrite⟩).node n with uffdMessages := [] }
    ⟨p, isWrite⟩
  have silent := settle_silent (T := T) (s := s.raise n ⟨p, isWrite⟩) (n := n) _
    (left.2.trans (raised.idle n))
  have idle {q : Nat} (inRange : q < T.numPages) :
      ((s.raise n ⟨p, isWrite⟩).slot T q).expectedAcks = 0 := by
    have same : (s.raise n ⟨p, isWrite⟩).pageState T q = s.pageState T q := pageState_raise n _
    exact (congrArg (fun v => v.slot.expectedAcks) same).trans (pages q inRange).idle
  have moves (q : Nat) (inRange : q < T.numPages) := step_moves (p := q) raised inRange
    (fun _ waiting => absurd (idle inRange) (Nat.ne_of_gt waiting)) rfl next
  refine ⟨⟨raised.step next, ⟨?_, ?_⟩, fun m member => ?_, fun q inRange' apart => ?_⟩, ?_⟩
  · intro w worker packet found
    rw [after, silent.1] at found
    change packet ∈ s.toCoordinator w at found
    rw [(drained.1.1 w worker).1] at found
    cases found
  · intro w worker packet found
    rw [after, silent.2] at found
    change packet ∈ s.toWorker w at found
    rw [(drained.1.1 w worker).2] at found
    cases found
  · rw [after]
    by_cases own : m = n
    · subst own
      simpa [Cluster.settle] using left.1
    · have waiting := drained.raise_messages ⟨p, isWrite⟩ (n := n) member
      rw [if_neg own] at waiting
      simpa [Cluster.settle, own] using waiting
  · have moved := moves q inRange'
    have label : (s.raise n ⟨p, isWrite⟩).pageLabel T q (.fault n) = none := by
      simp [Cluster.pageLabel, messages, Ne.symm apart]
    unfold PageStep at moved
    rw [label, pageState_raise] at moved
    rw [moved]
    exact pages q inRange'
  · have moved := moves p inRange
    have status : ((s.raise n ⟨p, isWrite⟩).node n).pageTable p = (s.pageState T p).status n := by
      simp [Cluster.raise, Cluster.pageState]
    have label : (s.raise n ⟨p, isWrite⟩).pageLabel T p (.fault n) = some (.enqueue n isWrite) := by
      -- the handler drops only a read of a valid page, and that would not have faulted
      have needed : ¬ ((s.pageState T p).status n = .valid ∧ isWrite = false) := by
        rintro ⟨valid, read⟩
        rw [(pages p inRange).status, if_neg ((pages p inRange).absent (needed read))] at valid
        cases valid
      simp only [Cluster.pageLabel, messages, List.head?_cons, Option.bind_some, ne_eq,
        not_true_eq_false, false_or, status, needed, if_false, quiet, List.length_nil]
      rfl
    unfold PageStep at moved
    rw [label, pageState_raise] at moved
    exact (pages p inRange).queued moved

/-- When the access is allowed the page fault has been handled. -/
theorem Calm.served (calm : Calm T latest s) (isWrite : Bool) (inRange : p < T.numPages)
    (needed : isWrite = false → ((s.node n).mapping p).isMapped = false)
    (asked : PageState.Asked T n isWrite (latest p) ((s.pageState T p).faulted n isWrite))
    (run : Runs.Run (Cluster.step T) (fun _ e => e.isHandling = true) (s.raise n ⟨p, isWrite⟩) t)
    (changed : (t.node n).mapping p ≠ (s.node n).mapping p) :
    Served T latest p n isWrite ((s.pageState T p).faulted n isWrite) t := by
  rcases run.cases_head with rfl | ⟨first, ⟨e, handling, next⟩, rest⟩
  · -- the fault is still waiting, and the mapping is as it was
    exact absurd (by simp [Cluster.raise]) changed
  · have serving := calm.faulted inRange needed handling next
    rcases serving_of_run asked inRange serving rest with ⟨k, serving⟩ | served
    · exact absurd serving.phase.own changed
    · exact served

/-- A page fault comes to its end. -/
theorem Calm.complete (calm : Calm T latest s) (isWrite : Bool) (inRange : p < T.numPages)
    (needed : isWrite = false → ((s.node n).mapping p).isMapped = false)
    (asked : PageState.Asked T n isWrite (latest p) ((s.pageState T p).faulted n isWrite)) :
    ∃ t, Runs.Run (Cluster.step T) (fun _ e => e.isHandling = true) (s.raise n ⟨p, isWrite⟩) t ∧
      Served T latest p n isWrite ((s.pageState T p).faulted n isWrite) t := by
  have coherent := calm.pages p inRange
  have messages := calm.drained.raise_messages ⟨p, isWrite⟩ (n := n) asked.node
  rw [if_pos rfl] at messages
  obtain ⟨first, next⟩ : ∃ first, (s.raise n ⟨p, isWrite⟩).step T (.fault n) = some first := by
    simp only [Cluster.step, Cluster.faultStep, asked.node, if_true, messages]
    exact ⟨_, rfl⟩
  have serving := calm.faulted inRange needed rfl next
  have backed (m : Nat) (valid : ((s.pageState T p).faulted n isWrite).status m = .valid) :
      ∃ page, (((s.pageState T p).faulted n isWrite).mapping m).contents = some page := by
    -- the faulting node's page is pending; any other valid page is a holder's
    by_cases own : m = n
    · subst own
      rw [coherent.faulted_status] at valid
      split at valid <;> cases valid
    · rw [PageState.faulted_status_other own, coherent.status] at valid
      split at valid
      next holder => exact ⟨latest p, (coherent.contents m).trans (if_pos holder)⟩
      · cases valid
  obtain ⟨t, run, served⟩ := serving.complete asked inRange
    (fun m holder => (calm.ok.pageOk p).holder_mem holder) backed
  exact ⟨t, .head ⟨_, rfl, next⟩ run, served⟩

/-- A store leaves the cluster calm that leaves the page coherent. -/
theorem calm_store (ok : ClusterOk T s) (drained : s.Drained T) (inRange : p < T.numPages)
    {contents : Page} (writable : ((s.node n).mapping p).isWritable = true)
    (own : ((s.pageState T p).setMapping n (.readWrite contents)).Coherent contents)
    (others : ∀ q < T.numPages, q ≠ p → (s.pageState T q).Coherent (latest q))
    (next : s.step T (.store n p contents) = some t) :
    Calm T (Function.update latest p contents) t := by
  have moves (q : Nat) : PageStep T (s.pageState T q) (s.pageLabel T q (.store n p contents))
      (t.pageState T q) := store_step ok next
  have after : t = s.settle T n ((s.node n).setMapping p (.readWrite contents)) := by
    simp only [Cluster.step, Cluster.storeStep, writable, if_true] at next
    split at next
    · exact (Option.some.inj next).symm
    · cases next
  refine ⟨ok.step next, ⟨⟨fun w worker => ?_, fun m node => ?_⟩, fun m node => ?_⟩, fun q inRange => ?_⟩
  · have silent := settle_silent (T := T) (s := s) (n := n)
      ((s.node n).setMapping p (.readWrite contents)) (ok.idle n)
    rw [after, silent.1, silent.2]
    exact drained.1.1 w worker
  · have queue := drained.1.2 m node
    rw [after]
    by_cases same : m = n
    · subst same
      simpa [Cluster.settle, Node.setMapping] using queue
    · simpa [Cluster.settle, same] using queue
  · have same : (t.node m).uffdMessages = (s.node m).uffdMessages := by
      rw [after]
      refine uffdMessages_settle ?_ m
      rfl
    exact same.trans (drained.2 m node)
  · -- a store is a move of its own page only
    have moved := moves q
    unfold PageStep at moved
    by_cases same : q = p
    · subst same
      have label : s.pageLabel T q (.store n q contents) = some (.store n contents) :=
        if_pos ⟨rfl, writable⟩
      rw [label] at moved
      rw [moved.stored, Function.update_self]
      exact own
    · have label : s.pageLabel T q (.store n p contents) = none :=
        if_neg fun both => same both.1.symm
      rw [label] at moved
      rw [moved, Function.update_of_ne same]
      exact others q inRange same

end Calm

end TeleportVM
