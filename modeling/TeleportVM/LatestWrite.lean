import TeleportVM.FaultHandling

/-!
Programs that read and write pages, one operation after the other: what a read returns.
-/
namespace TeleportVM

variable {Page : Type}

/-- What a program does with a page. -/
inductive Operation (Page : Type) where
  | read (n p : Nat)
  | write (n p : Nat) (contents : Page)

/-- An operation, with the order in which the cluster handles what it leads to: until the access is
allowed, and from then on. -/
structure Turn (Page : Type) where
  operation : Operation Page
  before : List (Event Page)
  after : List (Event Page)

namespace Operation

def access : Operation Page → Event Page
  | .read n p => .load n p
  | .write n p contents => .store n p contents

/-- The mapping allows the access. -/
def Allowed (s : Cluster Page) : Operation Page → Prop
  | .read n p => ((s.node n).mapping p).isMapped = true
  | .write n p _ => ((s.node n).mapping p).isWritable = true

instance (s : Cluster Page) : (op : Operation Page) → Decidable (op.Allowed s)
  | .read _ _ => inferInstanceAs (Decidable (_ = true))
  | .write _ _ _ => inferInstanceAs (Decidable (_ = true))

/-- What has last been written to each page. -/
def record (latest : Nat → Page) : Operation Page → Nat → Page
  | .read _ _ => latest
  | .write _ p contents => Function.update latest p contents

variable [Zero Page]

/-- A store finds no other copy that it would not invalidate, and a load has a source. -/
def Meets (T : Topology) (s : Cluster Page) : Operation Page → Prop
  | .read n p => (s.pageState T p).Sourced T n
  | .write n p _ => (s.pageState T p).WritesAlone T n

instance [DecidableEq Page] (T : Topology) (s : Cluster Page) :
    (op : Operation Page) → Decidable (op.Meets T s)
  | .read n p => inferInstanceAs (Decidable ((s.pageState T p).Sourced T n))
  | .write n p _ => inferInstanceAs (Decidable ((s.pageState T p).WritesAlone T n))

end Operation

namespace Cluster

variable [Zero Page] (T : Topology)

/-- The cluster at the access of an operation: it is allowed at once, or once the page fault has
been handled. -/
def woken (s : Cluster Page) (turn : Turn Page) : Option (Cluster Page) :=
  if turn.operation.Allowed s then some s
  else ((s.step T turn.operation.access).bind fun raised =>
    Runs.execIf (step T) (fun _ e => e.isHandling = true) raised turn.before).filter
      fun m => turn.operation.Allowed m

/-- An operation is carried out, and everything it leads to is handled. -/
def perform (s : Cluster Page) (turn : Turn Page) : Option (Cluster Page) :=
  (((s.woken T turn).bind fun m => m.step T turn.operation.access).bind fun done =>
    Runs.execIf (step T) (fun _ e => e.isHandling = true) done turn.after).filter
      fun t => t.Drained T

/-- An operation, and what has last been written to each page. -/
def performRecorded (s : Cluster Page × (Nat → Page)) (turn : Turn Page) :
    Option (Cluster Page × (Nat → Page)) :=
  (s.1.perform T turn).map fun t => (t, turn.operation.record s.2)

end Cluster

section Turns

variable [Zero Page] {T : Topology} {latest : Nat → Page} {n p : Nat} {contents : Page}
  {s m t : Cluster Page} {turn : Turn Page}

theorem woken_cases (woken : s.woken T turn = some m) : turn.operation.Allowed m ∧
    (m = s ∨ ¬ turn.operation.Allowed s ∧ ∃ raised, s.step T turn.operation.access = some raised ∧
      Runs.Run (Cluster.step T) (fun _ e => e.isHandling = true) raised m) := by
  unfold Cluster.woken at woken
  split at woken
  next allowed =>
    cases woken
    exact ⟨allowed, Or.inl rfl⟩
  next denied =>
    obtain ⟨reached, allowed⟩ := Option.filter_eq_some_iff.mp woken
    obtain ⟨raised, next, executed⟩ := Option.bind_eq_some_iff.mp reached
    exact ⟨of_decide_eq_true allowed, Or.inr ⟨denied, raised, next, Runs.run_of_execIf executed⟩⟩

theorem perform_cases (performed : s.perform T turn = some t) :
    ∃ m done, s.woken T turn = some m ∧ m.step T turn.operation.access = some done ∧
      Runs.Run (Cluster.step T) (fun _ e => e.isHandling = true) done t := by
  obtain ⟨reached, -⟩ := Option.filter_eq_some_iff.mp performed
  obtain ⟨done, accessed, executed⟩ := Option.bind_eq_some_iff.mp reached
  obtain ⟨m, woken, next⟩ := Option.bind_eq_some_iff.mp accessed
  exact ⟨m, done, woken, next, Runs.run_of_execIf executed⟩

/-- Once everything has been handled nothing more is. -/
theorem Calm.rest (calm : Calm T latest s)
    (run : Runs.Run (Cluster.step T) (fun _ e => e.isHandling = true) s t) : t = s := by
  rcases run.cases_head with same | ⟨first, ⟨e, handling, next⟩, -⟩
  · exact same.symm
  · exact absurd next (calm.drained.stuck handling)

/-! ### One operation -/

/-- A load finds what has last been written exactly if it has a source for it, and then changes
nothing. -/
theorem Calm.read (calm : Calm T latest s) (read : turn.operation = .read n p) (node : n ∈ T.nodes)
    (inRange : p < T.numPages) (woken : s.woken T turn = some m) :
    (((m.node n).mapping p).contents = some (latest p) ↔ (s.pageState T p).Sourced T n) ∧
      ((s.pageState T p).Sourced T n → Calm T latest m) := by
  have coherent := calm.pages p inRange
  have ok := calm.ok.pageOk p
  obtain ⟨allowed, rfl | ⟨denied, raised, next, run⟩⟩ := woken_cases woken
  · -- its own copy
    rw [read] at allowed
    have copy := coherent.contents n
    rw [if_pos (coherent.isMapped_iff.mp allowed)] at copy
    exact ⟨iff_of_true copy (Or.inl allowed), fun _ => calm⟩
  · rw [read] at allowed denied next
    have unmapped : ((s.node n).mapping p).isMapped = false := by
      rw [Bool.eq_false_iff]
      exact denied
    obtain ⟨-, -, ⟨mapped, -⟩ | ⟨unmapped, rfl⟩⟩ := Cluster.loadStep_cases next
    · exact absurd mapped denied
    have served := calm.served false inRange (fun _ => unmapped)
      (coherent.asked false node ok nofun) run
      (fun same => denied ((congrArg Mapping.isMapped same).symm.trans allowed))
    have loaded : (m.node n).mapping p = _ := coherent.loaded served.settled
    rw [loaded]
    refine ⟨?_, fun sourced => ⟨served.only.ok, served.drained, fun q inRange => ?_⟩⟩
    · rw [← coherent.answer_iff false ok unmapped]
      exact Option.some_inj
    · by_cases same : q = p
      · subst same
        exact coherent.load ok node unmapped sourced served.settled
      · exact served.only.others q inRange same

/-- A store that leaves no other copy behind leaves what it stores. -/
theorem Calm.write (calm : Calm T latest s) (write : turn.operation = .write n p contents)
    (alone : (s.pageState T p).WritesAlone T n) (woken : s.woken T turn = some m)
    (next : m.step T (.store n p contents) = some t) :
    Calm T (Function.update latest p contents) t := by
  obtain ⟨node, inRange, -⟩ := Cluster.storeStep_cases next
  have coherent := calm.pages p inRange
  have ok := calm.ok.pageOk p
  obtain ⟨allowed, rfl | ⟨denied, raised, fault, run⟩⟩ := woken_cases woken
  · rw [write] at allowed
    have writable : ((m.pageState T p).mapping n).isWritable = true := allowed
    unfold PageState.WritesAlone at alone
    rw [if_pos writable] at alone
    exact calm_store calm.ok calm.drained inRange allowed
      (coherent.store_direct ok writable alone contents) (fun q inRange _ => calm.pages q inRange) next
  · rw [write] at allowed denied fault
    obtain ⟨-, -, ⟨writable, -⟩ | ⟨readOnly, rfl⟩⟩ := Cluster.storeStep_cases fault
    · exact absurd writable denied
    have served := calm.served true inRange (fun read => nomatch read)
      (coherent.asked true node ok fun _ => ⟨readOnly, alone⟩) run
      (fun same => denied ((congrArg Mapping.isWritable same).symm.trans allowed))
    exact calm_store served.only.ok served.drained inRange allowed
      (coherent.store_settled served.settled contents) served.only.others next

/-- An operation under the condition leaves in every page what has last been written to it. -/
theorem Calm.perform (calm : Calm T latest s) (meets : turn.operation.Meets T s)
    (performed : s.perform T turn = some t) : Calm T (turn.operation.record latest) t := by
  obtain ⟨m, done, woken, next, run⟩ := perform_cases performed
  cases op : turn.operation with
  | read n p =>
    rw [op] at meets next
    have allowed := (woken_cases woken).1
    rw [op] at allowed
    obtain ⟨node, inRange, loads⟩ := Cluster.loadStep_cases next
    obtain ⟨-, rfl⟩ := loads.resolve_right fun raises => Bool.eq_false_iff.mp raises.1 allowed
    have after := (calm.read op node inRange woken).2 meets
    rw [after.rest run]
    exact after
  | write n p contents =>
    rw [op] at meets next
    have after := calm.write op meets woken next
    rw [after.rest run]
    exact after

/-! ### Every operation can be carried out -/

theorem perform_of_woken {op : Operation Page} {before : List (Event Page)}
    (woken : s.woken T ⟨op, before, []⟩ = some m) (next : m.step T op.access = some t)
    (drained : t.Drained T) : s.perform T ⟨op, before, []⟩ = some t := by
  simp only [Cluster.perform, woken, Option.bind_some, next, Runs.execIf]
  exact Option.filter_eq_some_iff.mpr ⟨rfl, decide_eq_true drained⟩

theorem woken_of_run (op : Operation Page) {raised : Cluster Page} (denied : ¬ op.Allowed s)
    (next : s.step T op.access = some raised)
    (run : Runs.Run (Cluster.step T) (fun _ e => e.isHandling = true) raised m)
    (allowed : op.Allowed m) : ∃ before, s.woken T ⟨op, before, []⟩ = some m := by
  obtain ⟨before, executed⟩ := Runs.execIf_of_run run
  refine ⟨before, ?_⟩
  unfold Cluster.woken
  rw [if_neg (by exact denied)]
  simp only [next, Option.bind_some, executed]
  exact Option.filter_eq_some_iff.mpr ⟨rfl, decide_eq_true allowed⟩

/-- A load can always be carried out. -/
theorem Calm.reads (calm : Calm T latest s) (node : n ∈ T.nodes) (inRange : p < T.numPages) :
    ∃ turn t, turn.operation = .read n p ∧ s.perform T turn = some t := by
  have coherent := calm.pages p inRange
  have load (m : Cluster Page) (mapped : ((m.node n).mapping p).isMapped = true) :
      m.step T (.load n p) = some m := by
    simp [Cluster.step, Cluster.loadStep, node, inRange, mapped]
  by_cases mapped : ((s.node n).mapping p).isMapped = true
  · exact ⟨⟨.read n p, [], []⟩, s, rfl, perform_of_woken (if_pos mapped) (load s mapped) calm.drained⟩
  · have unmapped : ((s.node n).mapping p).isMapped = false := by simpa using mapped
    have raised : s.step T (.load n p) = some (s.raise n ⟨p, false⟩) := by
      simp [Cluster.step, Cluster.loadStep, node, inRange, unmapped]
    obtain ⟨m, run, served⟩ := calm.complete false inRange (fun _ => unmapped)
      (coherent.asked false node (calm.ok.pageOk p) fun write => absurd write Bool.false_ne_true)
    have loaded : (m.node n).mapping p = _ := coherent.loaded served.settled
    have allowed : ((m.node n).mapping p).isMapped = true := by
      rw [loaded]
      rfl
    obtain ⟨before, woken⟩ := woken_of_run (.read n p) mapped raised run allowed
    exact ⟨_, m, rfl, perform_of_woken woken (load m allowed) served.drained⟩

/-- So can a store that leaves no other copy behind. -/
theorem Calm.writes (calm : Calm T latest s) (node : n ∈ T.nodes) (inRange : p < T.numPages)
    (alone : (s.pageState T p).WritesAlone T n) (contents : Page) :
    ∃ turn t, turn.operation = .write n p contents ∧ s.perform T turn = some t := by
  have coherent := calm.pages p inRange
  -- a store that the mapping allows is carried out at once
  have carried {m : Cluster Page} (before : List (Event Page))
      (woken : s.woken T ⟨.write n p contents, before, []⟩ = some m) :
      ∃ turn t, turn.operation = .write n p contents ∧ s.perform T turn = some t := by
    have writable : ((m.node n).mapping p).isWritable = true := (woken_cases woken).1
    have next : m.step T (.store n p contents) =
        some (m.settle T n ((m.node n).setMapping p (.readWrite contents))) := by
      simp [Cluster.step, Cluster.storeStep, node, inRange, writable]
    exact ⟨_, _, rfl, perform_of_woken woken next (calm.write rfl alone woken next).drained⟩
  by_cases writable : ((s.node n).mapping p).isWritable = true
  · exact carried [] (if_pos writable)
  · have readOnly : ((s.node n).mapping p).isWritable = false := by simpa using writable
    have raised : s.step T (.store n p contents) = some (s.raise n ⟨p, true⟩) := by
      simp [Cluster.step, Cluster.storeStep, node, inRange, readOnly]
    obtain ⟨m, run, served⟩ := calm.complete true inRange
      (fun read => absurd read.symm Bool.false_ne_true)
      (coherent.asked true node (calm.ok.pageOk p) fun _ => ⟨readOnly, alone⟩)
    obtain ⟨before, woken⟩ := woken_of_run (.write n p contents) writable raised run
      (coherent.writable served.settled)
    exact carried before woken

/-! ### Any number of operations -/

/-- A cluster whose nodes have joined is calm, with nothing written. -/
theorem calm_of_boot
    (run : Runs.Run (Cluster.step T) (fun _ e => e.isHandling = true) (Cluster.initial T) s)
    (drained : s.Drained T) : Calm T (fun _ => 0) s := by
  obtain ⟨ok, -, coherent⟩ : ClusterOk T s ∧ (∀ n, (s.node n).uffdMessages = []) ∧
      ∀ p < T.numPages, (s.pageState T p).Coherent 0 := by
    refine run.invariant (fun s => ClusterOk T s ∧ (∀ n, (s.node n).uffdMessages = []) ∧
      ∀ p < T.numPages, (s.pageState T p).Coherent 0)
      ⟨ClusterOk.initial T, fun _ => rfl, fun p _ => ?_⟩ ?_
    · rw [pageState_initial]
      exact PageState.coherent_initial
    · rintro a e b ⟨ok, messages, coherent⟩ handling next
      -- no access, so no page fault
      have engine : ∀ n, e ≠ .fault n := by
        rintro n rfl
        obtain ⟨-, fault, rest, waiting, -⟩ := Cluster.faultStep_cases next
        cases (messages n).symm.trans waiting
      exact ⟨ok.step next, fun n => (uffdMessages_step handling engine next n).trans (messages n),
        fun p inRange => (coherent p inRange).step ok inRange handling engine next⟩
  exact ⟨ok, drained, coherent⟩

/-- When each operation is carried out before the next one, and each meets the condition, the next
one can be carried out as well, and a load returns what has last been written to its page exactly
if it has a source for it. -/
theorem reads_return_latest {s₀ : Cluster Page}
    (booted : Runs.Run (Cluster.step T) (fun _ e => e.isHandling = true) (Cluster.initial T) s₀)
    (drained : s₀.Drained T)
    (run : Runs.Run (Cluster.performRecorded T) (fun s turn => turn.operation.Meets T s.1)
      (s₀, fun _ => 0) (s, latest)) (node : n ∈ T.nodes) (inRange : p < T.numPages) :
    (∃ turn t, turn.operation = .read n p ∧ s.perform T turn = some t) ∧
      (∀ contents, (Operation.write n p contents).Meets T s →
        ∃ turn t, turn.operation = .write n p contents ∧ s.perform T turn = some t) ∧
      ∀ turn m, turn.operation = .read n p → s.woken T turn = some m →
        (((m.node n).mapping p).contents = some (latest p) ↔ turn.operation.Meets T s) := by
  have calm : Calm T latest s := by
    refine run.invariant (fun s => Calm T s.2 s.1) (calm_of_boot booted drained) ?_
    rintro ⟨a, before⟩ turn ⟨b, after⟩ calm meets next
    obtain ⟨b, performed, same⟩ := Option.map_eq_some_iff.mp next
    cases same
    exact calm.perform meets performed
  refine ⟨calm.reads node inRange, fun contents alone => calm.writes node inRange alone contents,
    fun turn m read woken => ?_⟩
  rw [read]
  exact (calm.read read node inRange woken).1

end Turns

/-- Worker 2 writes page 0, and the coordinator reads it from worker 2. -/
def writeThenFetch (contents : PageBytes) : List (Turn PageBytes) :=
  [⟨.write 2 0 contents, [.fault 2, .drain 2, .toCoordinator 2, .toWorker 2], []⟩,
    ⟨.read 1 0, [.fault 1, .drain 1, .toWorker 2, .toCoordinator 2], []⟩]

/-- Worker 3 reads the page from the coordinator. -/
def readFromCoordinator : Turn PageBytes :=
  ⟨.read 3 0, [.fault 3, .drain 3, .toCoordinator 3, .toWorker 3], []⟩

theorem reads_return_latest_from_coordinator : ∃ (s m : Cluster PageBytes) (latest : Nat → PageBytes),
    s.woken twoWorkers readFromCoordinator = some m ∧ latest 0 0 = 7 ∧
      ((m.node 3).mapping 0).contents = some (latest 0) := by
  obtain ⟨s₀, booted, drained, later⟩ := Runs.exists_run (Cluster.step twoWorkers)
    (fun _ e => e.isHandling = true) (Cluster.initial twoWorkers) [.toCoordinator 2, .toCoordinator 3]
    (fun s₀ => s₀.Drained twoWorkers ∧ ((Runs.execIf (Cluster.performRecorded twoWorkers)
      (fun s turn => turn.operation.Meets twoWorkers s.1) (s₀, fun _ => 0)
      (writeThenFetch fun _ => 7)).any fun s => decide (
        (s.1.woken twoWorkers readFromCoordinator).isSome ∧ s.2 0 0 = 7 ∧
          (Operation.read 3 0).Meets twoWorkers s.1)) = true) (by decide +kernel)
  obtain ⟨⟨s, latest⟩, run, woken, seven, meets⟩ := Runs.exists_run (Cluster.performRecorded twoWorkers)
    _ _ (writeThenFetch fun _ => 7) _ later
  obtain ⟨m, woken⟩ := Option.isSome_iff_exists.mp woken
  have reads := reads_return_latest booted drained run (n := 3) (p := 0) (by decide) (by decide)
  exact ⟨s, m, latest, woken, seven, (reads.2.2 _ m rfl woken).mpr meets⟩

/-- Coordinator 1 and worker 2. -/
def oneWorker : Topology := .small {2} (by decide) (by decide)

/-- The two nodes of the coherence test, up to the write of node 1. -/
def coherenceTest : List (Turn PageBytes) :=
  writeThenFetch (fun _ => 111) ++ [⟨.write 1 0 (fun _ => 222), [], []⟩]

/-- A store of the coordinator to the page it has read faults no more: worker 2 keeps what it wrote
before. -/
theorem stale_read : ¬ ∀ (T : Topology) (s₀ s : Cluster PageBytes) (latest : Nat → PageBytes)
    (n p : Nat),
    Runs.Run (Cluster.step T) (fun _ e => e.isHandling = true) (Cluster.initial T) s₀ →
    s₀.Drained T →
    Runs.Run (Cluster.performRecorded T) (fun _ _ => True) (s₀, fun _ => 0) (s, latest) →
    n ∈ T.nodes → p < T.numPages →
    ∀ turn m, turn.operation = .read n p → s.woken T turn = some m →
      ((m.node n).mapping p).contents = some (latest p) := by
  intro claim
  obtain ⟨s₀, booted, drained, later⟩ := Runs.exists_run (Cluster.step oneWorker)
    (fun _ e => e.isHandling = true) (Cluster.initial oneWorker) [.toCoordinator 2]
    (fun s₀ => s₀.Drained oneWorker ∧ ((Runs.execIf (Cluster.performRecorded oneWorker)
      (fun _ _ => True) (s₀, fun _ => 0) coherenceTest).any fun s => decide (
        ((s.1.node 2).mapping 0).contents.map (fun page => page 0) = some 111 ∧
          s.2 0 0 = 222)) = true) (by decide +kernel)
  obtain ⟨⟨s, latest⟩, run, stale, recent⟩ := Runs.exists_run (Cluster.performRecorded oneWorker)
    _ _ coherenceTest _ later
  obtain ⟨found, copy, first⟩ := Option.map_eq_some_iff.mp stale
  have woken : s.woken oneWorker ⟨.read 2 0, [], []⟩ = some s :=
    if_pos ((Mapping.isMapped_iff _).mpr ⟨found, copy⟩)
  have read := claim oneWorker s₀ s latest 2 0 booted drained run (by decide) (by decide) _ s rfl woken
  obtain rfl : found = latest 0 := Option.some.inj (copy.symm.trans read)
  exact absurd (first.symm.trans recent) (by decide)

end TeleportVM
