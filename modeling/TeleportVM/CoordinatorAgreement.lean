import TeleportVM.SequencerHandling

/-!
The network engine and the sequencer on the same request: when they leave the same directory
entry and the same copies, and answer with the same contents.
-/
namespace TeleportVM

open Links (each)

variable {Page : Type}

/-- Before the request the sequencer knows the page as the engine does, and so do the nodes. -/
structure SameStart (T : Topology) (p : Nat) (s : Cluster Page) (q : SequencedCluster Page) :
    Prop where
  entry : q.sequencer.directory.entry p = s.entry T p
  mapping : ∀ n ∈ T.nodes, (q.node n).mapping p = (s.node n).mapping p
  status : ∀ n ∈ T.nodes, (q.node n).pageTable p = (s.node n).pageTable p

/-- The engine answered with `x` and ended in `t`, the sequencer with `y` in `u`. -/
structure SameOutcome (T : Topology) (p : Nat) (x : Page) (t : Cluster Page) (y : Page)
    (u : SequencedCluster Page) : Prop where
  contents : x = y
  entry : t.entry T p = u.sequencer.directory.entry p
  mapped : ∀ n ∈ T.nodes, ((t.node n).mapping p).isMapped = ((u.node n).mapping p).isMapped

/-! ### The copies that are dropped -/

section Dropped

variable {e : GpdEntry} {r : Nat}

/-- Only for a read of an owned page does the sequencer drop a copy that the engine keeps. -/
theorem waitsFor_eq_dropped {isWrite : Bool} (kept : isWrite = true ∨ ¬ e.Fetches r) :
    e.waitsFor r isWrite = e.dropped r isWrite := by
  cases isWrite with
  | true => rfl
  | false =>
    unfold GpdEntry.waitsFor GpdEntry.dropped
    have unfetched := kept.resolve_left nofun
    simp only [Bool.false_eq_true, if_false]
    exact if_neg unfetched

theorem waitsFor_fetched (fetches : e.Fetches r) : e.waitsFor r false = {e.ownerNodeId} := by
  unfold GpdEntry.waitsFor
  simp only [Bool.false_eq_true, if_false]
  exact if_pos fetches

theorem mapsAfter_congr {T : Topology} {dropped : Finset Nat} {status : PageStatus}
    {mapped mapped' : Nat → Bool} (same : ∀ n ∈ T.nodes, mapped n = mapped' n) {n : Nat}
    (node : n ∈ T.nodes) : mapsAfter dropped r status mapped n = mapsAfter dropped r status mapped' n := by
  unfold mapsAfter
  rw [same n node]

end Dropped

section Agreement

variable [Zero Page] {T : Topology} {p r : Nat} {isWrite : Bool} {contents x y : Page}
  {s t : Cluster Page} {q u : SequencedCluster Page}

/-- Two handlings of the same request agree unless the engine fetches the page from its owner,
for a read or with contents that are not all zero. -/
theorem sameOutcome_iff (inRange : p < T.numPages) (engine : s.Asks T p r isWrite contents)
    (sequencer : q.Asks T p r isWrite) (same : SameStart T p s q)
    (handled : Cluster.Handles T p r x s t) (sequenced : SequencedCluster.Handles T p r y q u) :
    SameOutcome T p x t y u ↔
      ¬ ((s.entry T p).Fetches r ∧ (isWrite = false ∨ contents ≠ 0)) := by
  obtain ⟨answer, entry, mapped⟩ := handled.outcome inRange engine
  obtain ⟨zero, entry', mapped'⟩ := sequenced.outcome inRange sequencer
  rw [same.entry] at entry' mapped'
  rw [same.status r (T.worker_mem engine.worker)] at mapped'
  have starts : ∀ n ∈ T.nodes, ((q.node n).mapping p).isMapped = ((s.node n).mapping p).isMapped :=
    fun n node => congrArg Mapping.isMapped (same.mapping n node)
  constructor
  · rintro agree ⟨fetches, read | differs⟩
    · -- the old owner keeps its copy under the engine and loses it under the sequencer
      subst read
      have wf : (s.entry T p).WellFormed := engine.ok.coordinator.entries p
      have holder : (s.entry T p).ownerNodeId ∈ (s.entry T p).holders := by
        rw [(wf.owner_mem fetches.1).2]
        exact Finset.mem_singleton_self _
      have node := T.worker_mem (engine.holders holder)
      have kept := agree.mapped _ node
      rw [mapped, mapped', waitsFor_fetched fetches] at kept
      simp only [mapsAfter, fetches.2, if_false, Finset.mem_singleton, if_true,
        GpdEntry.dropped, Bool.false_eq_true, Finset.notMem_empty] at kept
      have copy := (engine.copies _ holder).1
      rw [Bool.eq_false_iff] at kept
      exact kept ((Mapping.isMapped_iff _).mpr ⟨contents, copy⟩)
    · -- the engine answers with the contents, the sequencer with zeros
      rw [if_pos fetches] at answer
      exact differs (answer ▸ agree.contents.trans zero)
  · intro alike
    have kept : isWrite = true ∨ ¬ (s.entry T p).Fetches r := by
      by_contra both
      rw [not_or, not_not, Bool.not_eq_true] at both
      exact alike ⟨both.2, Or.inl both.1⟩
    constructor
    · rw [answer, zero]
      split
      next fetches => exact not_not.mp fun differs => alike ⟨fetches, Or.inr differs⟩
      · rfl
    · rw [entry, entry']
    · intro n node
      rw [mapped, mapped', waitsFor_eq_dropped kept]
      exact (mapsAfter_congr starts node).symm

/-- The engine and the sequencer agree on a request exactly if no other node owns the page, or if
the request is a write and the page is all zero. -/
theorem coordinators_agree_iff (inRange : p < T.numPages) (engine : s.Asks T p r isWrite contents)
    (sequencer : q.Asks T p r isWrite) (same : SameStart T p s q) :
    (∀ x t y u, Cluster.Handles T p r x s t → SequencedCluster.Handles T p r y q u →
        SameOutcome T p x t y u) ↔
      ¬ ((s.entry T p).Fetches r ∧ (isWrite = false ∨ contents ≠ 0)) := by
  constructor
  · intro agree
    obtain ⟨x, t, handled⟩ := engine.handled inRange
    obtain ⟨y, u, sequenced⟩ := sequencer.handled inRange
    exact (sameOutcome_iff inRange engine sequencer same handled sequenced).mp
      (agree x t y u handled sequenced)
  · intro alike x t y u handled sequenced
    exact (sameOutcome_iff inRange engine sequencer same handled sequenced).mpr alike

end Agreement

/-! ### Starting states -/

section Start

variable [Zero Page] {T : Topology} {p r : Nat} {isWrite : Bool} {contents : Page} {s : Cluster Page}

/-- The same nodes with the request of `r` as the only packet in flight. -/
def Cluster.onlyRequest (s : Cluster Page) (p r : Nat) (isWrite : Bool) : Cluster Page :=
  { s with
    toCoordinator := each {r} ⟨Node.requestType isWrite, p, r, 0⟩
    toWorker := fun _ => [] }

/-- The sequencer with the engine's entry for page `p`, over the same nodes and links. -/
def Cluster.sequenced (T : Topology) (s : Cluster Page) (p : Nat) : SequencedCluster Page where
  sequencer :=
    { coordinatorSequencerInit T.numPages with
      directory := (gpdInit T.numPages).setEntry p (s.entry T p) }
  resume := none
  node := s.node
  toCoordinator := s.toCoordinator
  toWorker := s.toWorker

theorem ClusterOk.onlyRequest (ok : ClusterOk T s) (p r : Nat) (isWrite : Bool) :
    ClusterOk T (s.onlyRequest p r isWrite) :=
  { ok with
    up := by
      intro w _ packet found
      unfold Cluster.onlyRequest Links.each at found
      dsimp only at found
      split at found
      next own =>
        rw [List.mem_singleton.mp found, Finset.mem_singleton.mp own]
        exact ⟨rfl, by cases isWrite <;> nofun⟩
      · cases found
    down := by
      intro w _ packet found
      cases found }

/-- Wherever the engine can be asked, a sequencer in its place can. -/
theorem Cluster.Asks.sequenced (asks : s.Asks T p r isWrite contents) :
    (s.sequenced T p).Asks T p r isWrite ∧ SameStart T p s (s.sequenced T p) := by
  have entry (k : Nat) : ((s.sequenced T p).sequencer.directory.entry k).WellFormed ∧
      ((s.sequenced T p).sequencer.directory.entry k).holders ⊆ T.workers := by
    simp only [Cluster.sequenced]
    by_cases own : k = p
    · subst own
      rw [setEntry_same]
      exact ⟨asks.ok.coordinator.entries k, asks.holders⟩
    · rw [setEntry_other _ _ own]
      exact ⟨gpdInit_wellFormed T.numPages k, by simp [gpdInit, GpdEntry.holders]⟩
  have ok : SequencedOk T (s.sequenced T p) :=
    { sequencer :=
        { total := rfl
          pages := rfl
          entries := fun k => (entry k).1
          holders := fun k => (entry k).2
          active := fun _ absurdity => by cases absurdity
          queues := fun _ _ absurdity => absurd absurdity List.not_mem_nil }
      idle := rfl
      resume := fun _ absurdity => by cases absurdity
      peers := fun w worker =>
        { pages := (asks.ok.workers w worker).pages
          fd := (asks.ok.workers w worker).fd
          idle := asks.ok.idle w }
      up := by
        intro w _ packet found
        simp only [Cluster.sequenced, asks.sent.up] at found
        unfold Links.each at found
        split at found
        next own =>
          rw [List.mem_singleton.mp found, Finset.mem_singleton.mp own]
          exact Or.inr ⟨rfl, isWrite, rfl⟩
        · cases found
      down := by
        intro w _ packet found
        simp only [Cluster.sequenced, asks.sent.down] at found
        cases found }
  constructor
  · exact ⟨ok, asks.worker, rfl, rfl, rfl, asks.sent⟩
  · exact ⟨by simp [Cluster.sequenced], fun _ _ => rfl, fun _ _ => rfl⟩

theorem ClusterOk.asks (ok : ClusterOk T s) (worker : r ∈ T.workers) {o : Nat}
    (holder : (s.entry T p).holders = {o}) (member : o ∈ T.workers)
    (absent : (s.node T.coordinator).pageTable p ≠ .valid)
    (free : (s.slot T p).requesterNodeId = 0 ∧ (s.slot T p).expectedAcks = 0)
    (valid : (s.node o).pageTable p = .valid)
    (copy : ((s.node o).mapping p).contents = some contents) (isWrite : Bool) :
    (s.onlyRequest p r isWrite).Asks T p r isWrite contents where
  ok := ok.onlyRequest p r isWrite
  worker := worker
  holders := by
    change (s.entry T p).holders ⊆ T.workers
    rw [holder]
    exact Finset.singleton_subset_iff.mpr member
  absent := absent
  free := free.1
  idle := free.2
  copies n found := by
    change n ∈ (s.entry T p).holders at found
    rw [holder, Finset.mem_singleton] at found
    subst found
    exact ⟨copy, fun _ => valid⟩
  sent := ⟨rfl, fun _ => rfl⟩

end Start

/-- Worker 2 reads page 0. -/
def oneReader : List (Event PageBytes) :=
  [.toCoordinator 2, .toCoordinator 3] ++ readMiss 2 0 ++ [.toCoordinator 2, .toWorker 2]

/-- When worker 3 then writes page 0, the two coordinators agree. -/
theorem coordinators_agree_write_over_reader : ∃ s : Cluster PageBytes,
    (s.entry twoWorkers 0).holders = {2} ∧
    ∀ x t y u, Cluster.Handles twoWorkers 0 3 x s t →
      SequencedCluster.Handles twoWorkers 0 3 y (s.sequenced twoWorkers 0) u →
      SameOutcome twoWorkers 0 x t y u := by
  obtain ⟨s, run, unowned, holder, absent, free, valid, mapped⟩ := Runs.exists_run
    (Cluster.step twoWorkers) (fun _ _ => True) (Cluster.initial twoWorkers) oneReader
    (fun s => (s.entry twoWorkers 0).ownerNodeId = 0 ∧ (s.entry twoWorkers 0).holders = {2} ∧
      (s.node 1).pageTable 0 ≠ .valid ∧
      ((s.slot twoWorkers 0).requesterNodeId = 0 ∧ (s.slot twoWorkers 0).expectedAcks = 0) ∧
      (s.node 2).pageTable 0 = .valid ∧ ((s.node 2).mapping 0).contents.isSome = true)
    (by decide +kernel)
  obtain ⟨contents, copy⟩ := Option.isSome_iff_exists.mp mapped
  have asks := (clusterOk_of_run run).asks (r := 3) (by decide) holder (by decide) absent free valid
    copy true
  obtain ⟨sequencer, same⟩ := asks.sequenced
  refine ⟨s.onlyRequest 0 3 true, holder,
    (coordinators_agree_iff (by decide) asks sequencer same).mpr ?_⟩
  rintro ⟨⟨owned, -⟩, -⟩
  exact owned unowned

/-- Worker 2 writes sevens to page 0. -/
def oneWriter : List (Event PageBytes) :=
  [.toCoordinator 2, .toCoordinator 3] ++ writeMiss 2 0 (fun _ => 7) ++
    [.toCoordinator 2, .toWorker 2, .store 2 0 (fun _ => 7)]

/-- When worker 3 then reads page 0, it gets sevens from the engine and zeros from the sequencer. -/
theorem coordinators_differ : ¬ ∀ (T : Topology) (p r : Nat) (isWrite : Bool) (contents : PageBytes)
    (s : Cluster PageBytes) (q : SequencedCluster PageBytes), p < T.numPages →
    s.Asks T p r isWrite contents → q.Asks T p r isWrite → SameStart T p s q →
    ∀ x t y u, Cluster.Handles T p r x s t → SequencedCluster.Handles T p r y q u →
      SameOutcome T p x t y u := by
  intro claim
  obtain ⟨s, run, fetches, holder, absent, free, valid, seven⟩ := Runs.exists_run
    (Cluster.step twoWorkers) (fun _ _ => True) (Cluster.initial twoWorkers) oneWriter
    (fun s => (s.entry twoWorkers 0).Fetches 3 ∧ (s.entry twoWorkers 0).holders = {2} ∧
      (s.node 1).pageTable 0 ≠ .valid ∧
      ((s.slot twoWorkers 0).requesterNodeId = 0 ∧ (s.slot twoWorkers 0).expectedAcks = 0) ∧
      (s.node 2).pageTable 0 = .valid ∧
      (((s.node 2).mapping 0).contents.map fun page => page 0) = some 7)
    (by decide +kernel)
  obtain ⟨contents, copy, first⟩ := Option.map_eq_some_iff.mp seven
  have asks := (clusterOk_of_run run).asks (r := 3) (by decide) holder (by decide) absent free valid
    copy false
  obtain ⟨sequencer, same⟩ := asks.sequenced
  obtain ⟨x, t, handled⟩ := asks.handled (by decide)
  obtain ⟨y, u, sequenced⟩ := sequencer.handled (by decide)
  have agree := claim twoWorkers 0 3 false contents _ _ (by decide) asks sequencer same x t y u handled
    sequenced
  have answer : x = if (s.entry twoWorkers 0).Fetches 3 then contents else 0 :=
    (handled.outcome (by decide) asks).1
  have zero := (sequenced.outcome (by decide) sequencer).1
  rw [if_pos fetches, agree.contents, zero] at answer
  exact absurd (answer ▸ first) (by decide)

end TeleportVM
