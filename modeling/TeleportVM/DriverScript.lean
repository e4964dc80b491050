import TeleportVM.LatestWrite

/-!
The script of the coherence test's driver: a worker writes a page, the coordinator reads it and
then writes it, and the worker reads it again. Each step is sent once the one before has printed
its result, and all that it leads to has been handled.
-/
namespace TeleportVM

variable {Page : Type} {T : Topology} {n w p : Nat} {c₁ c₂ : Page}

/-- Steps 1 to 4 of the driver. -/
def driverScript (T : Topology) (w p : Nat) (c₁ c₂ : Page) : List (Operation Page) :=
  [.write w p c₁, .read T.coordinator p, .write T.coordinator p c₂, .read w p]

/-- What the node finds in the page that the operation is about. -/
def Operation.found (s : Cluster Page) : Operation Page → Option Page
  | .read n p | .write n p _ => ((s.node n).mapping p).contents

/-- The results that the nodes print, one for each operation. -/
def Cluster.results [Zero Page] (T : Topology) (s : Cluster Page) :
    List (Turn Page) → Option (List Page)
  | [] => some []
  | turn :: turns =>
    (s.woken T turn).bind fun m => (m.step T turn.operation.access).bind fun done =>
      (turn.operation.found done).bind fun result =>
        (s.perform T turn).bind fun t => (t.results T turns).map (result :: ·)

variable [Zero Page] {s m t : Cluster Page} {latest : Nat → Page} {turn : Turn Page}
  {turns : List (Turn Page)} {found : List Page}

theorem results_cons (ran : s.results T (turn :: turns) = some found) :
    ∃ m done result t rest, s.woken T turn = some m ∧ m.step T turn.operation.access = some done ∧
      turn.operation.found done = some result ∧
      Runs.Run (Cluster.step T) (fun _ e => e.isHandling = true) done t ∧
      t.results T turns = some rest ∧ found = result :: rest := by
  simp only [Cluster.results, Option.bind_eq_some_iff, Option.map_eq_some_iff] at ran
  obtain ⟨m, woken, done, next, result, read, t, performed, rest, others, rfl⟩ := ran
  obtain ⟨m', done', woken', next', run⟩ := perform_cases performed
  cases woken.symm.trans woken'
  cases next.symm.trans next'
  exact ⟨m, done, result, t, rest, woken, next, read, run, others, rfl⟩

/-! ### Before the first operation -/

/-- Until the first access nothing happens to a page but that workers join. -/
theorem pageState_of_boot
    (run : Runs.Run (Cluster.step T) (fun _ e => e.isHandling = true) (Cluster.initial T) s)
    (inRange : p < T.numPages) :
    ∃ joined, s.pageState T p = { PageState.initial with joined := joined } := by
  obtain ⟨-, -, joined⟩ : ClusterOk T s ∧ (∀ n, (s.node n).uffdMessages = []) ∧
      ∃ joined, s.pageState T p = { PageState.initial with joined := joined } := by
    refine run.invariant (fun s => ClusterOk T s ∧ (∀ n, (s.node n).uffdMessages = []) ∧
      ∃ joined, s.pageState T p = { PageState.initial with joined := joined })
      ⟨ClusterOk.initial T, fun _ => rfl, _, pageState_initial T p⟩ ?_
    rintro a e b ⟨ok, messages, joined, same⟩ handling next
    have engine : ∀ n, e ≠ .fault n := by
      rintro n rfl
      obtain ⟨-, fault, rest, waiting, -⟩ := Cluster.faultStep_cases next
      cases (messages n).symm.trans waiting
    refine ⟨ok.step next, fun n => (uffdMessages_step handling engine next n).trans (messages n), ?_⟩
    have idle : (a.slot T p).expectedAcks = 0 := congrArg (·.slot.expectedAcks) same
    have moved := step_moves ok inRange (fun _ waiting => absurd idle (Nat.ne_of_gt waiting))
      (isEviction_of_handling handling) next
    unfold PageStep at moved
    split at moved
    · exact ⟨joined, moved.trans same⟩
    next label known =>
      have silent : (a.pageState T p).Silent := by
        rw [same]
        exact ⟨fun _ => rfl, fun _ => rfl, fun _ => rfl⟩
      obtain ⟨worker, after⟩ := silent.handle (handles_of_label handling engine known) moved
      rw [after, same]
      exact ⟨_, rfl⟩
  exact joined

/-! ### The steps of the script -/

/-- A store that faults leaves the page to its node. -/
theorem Calm.written (calm : Calm T latest s) (write : turn.operation = .write n p c₁)
    (readOnly : ((s.node n).mapping p).isWritable = false)
    (alone : (s.pageState T p).WritesAlone T n) (woken : s.woken T turn = some m)
    (next : m.step T (.store n p c₁) = some t) : (t.pageState T p).entry = .ownedBy n := by
  obtain ⟨node, inRange, -⟩ := Cluster.storeStep_cases next
  have coherent := calm.pages p inRange
  obtain ⟨allowed, rfl | ⟨denied, raised, fault, run⟩⟩ := woken_cases woken
  · rw [write] at allowed
    exact absurd allowed (Bool.eq_false_iff.mp readOnly)
  · rw [write] at allowed denied fault
    obtain ⟨-, -, ⟨writable, -⟩ | ⟨-, rfl⟩⟩ := Cluster.storeStep_cases fault
    · exact absurd writable denied
    have served := calm.served true inRange (fun read => absurd read.symm Bool.false_ne_true)
      (coherent.asked true node (calm.ok.pageOk p) fun _ => ⟨readOnly, alone⟩) run
      (fun same => denied ((congrArg Mapping.isWritable same).symm.trans allowed))
    have moved := store_step (p := p) served.only.ok next
    have label : m.pageLabel T p (.store n p c₁) = some (.store n c₁) := if_pos ⟨rfl, allowed⟩
    unfold PageStep at moved
    rw [label] at moved
    rw [moved.stored, PageState.setMapping_entry]
    exact served.settled.entry

/-- A load that faults leaves the page writable for its node, and the other copies as they were. -/
theorem Calm.fetched (calm : Calm T latest s) (read : turn.operation = .read n p)
    (node : n ∈ T.nodes) (inRange : p < T.numPages)
    (unmapped : ((s.node n).mapping p).isMapped = false) (woken : s.woken T turn = some m) :
    ((m.node n).mapping p).isWritable = true ∧
      ∀ k, k ≠ n → ((m.node k).mapping p).contents = ((s.node k).mapping p).contents := by
  have coherent := calm.pages p inRange
  obtain ⟨allowed, rfl | ⟨denied, raised, next, run⟩⟩ := woken_cases woken
  · rw [read] at allowed
    exact absurd allowed (Bool.eq_false_iff.mp unmapped)
  · rw [read] at allowed denied next
    obtain ⟨-, -, ⟨mapped, -⟩ | ⟨-, rfl⟩⟩ := Cluster.loadStep_cases next
    · exact absurd mapped denied
    have served := calm.served false inRange (fun _ => unmapped)
      (coherent.asked false node (calm.ok.pageOk p) fun write => absurd write Bool.false_ne_true) run
      (fun same => denied ((congrArg Mapping.isMapped same).symm.trans allowed))
    have loaded : (m.node n).mapping p = _ := coherent.loaded served.settled
    refine ⟨?_, fun k other => ?_⟩
    · rw [loaded]
      rfl
    · exact (served.settled.contents k other).trans (if_neg (Finset.notMem_empty k))

/-- A store that the mapping allows is known to its node only: there is nothing to handle. -/
theorem Cluster.Drained.stored (drained : s.Drained T) (ok : ClusterOk T s)
    (writable : ((s.node n).mapping p).isWritable = true)
    (next : s.step T (.store n p c₂) = some t) :
    t.Drained T ∧ ((t.node n).mapping p).contents = some c₂ ∧ ∀ k, k ≠ n → t.node k = s.node k := by
  obtain ⟨-, -, ⟨-, rfl⟩ | ⟨readOnly, -⟩⟩ := Cluster.storeStep_cases next
  · have silent := settle_silent (T := T) (s := s) (n := n)
      ((s.node n).setMapping p (.readWrite c₂)) (ok.idle n)
    have others : ∀ k, k ≠ n →
        (s.settle T n ((s.node n).setMapping p (.readWrite c₂))).node k = s.node k := fun k other => by
      simp [Cluster.settle, other]
    have own : (s.settle T n ((s.node n).setMapping p (.readWrite c₂))).node n =
        { (s.node n).setMapping p (.readWrite c₂) with effects := [] } := by
      simp [Cluster.settle]
    refine ⟨⟨⟨fun w worker => ?_, fun k node => ?_⟩, fun k node => ?_⟩, ?_, others⟩
    · rw [silent.1, silent.2]
      exact drained.1.1 w worker
    · by_cases same : k = n
      · rw [same, own]
        exact drained.1.2 n (same ▸ node)
      · rw [others k same]
        exact drained.1.2 k node
    · by_cases same : k = n
      · rw [same, own]
        exact drained.2 n (same ▸ node)
      · rw [others k same]
        exact drained.2 k node
    · rw [own]
      simp [Node.setMapping, Mapping.contents]
  · exact absurd writable (Bool.eq_false_iff.mp readOnly)

/-- The page after step 1: the worker has the only copy, and the directory knows it. -/
structure Handed (T : Topology) (w p : Nat) (page : Page) (s : Cluster Page) : Prop where
  calm : Calm T (Function.update (fun _ => 0) p page) s
  entry : (s.pageState T p).entry = .ownedBy w

/-- The first store of a worker faults, and is told to the coordinator. -/
theorem writesAlone_of_boot {s₀ : Cluster Page} (worker : w ∈ T.workers)
    (booted : Runs.Run (Cluster.step T) (fun _ e => e.isHandling = true) (Cluster.initial T) s₀)
    (inRange : p < T.numPages) :
    ((s₀.node w).mapping p).isWritable = false ∧ (s₀.pageState T p).WritesAlone T w := by
  obtain ⟨joined, same⟩ := pageState_of_boot booted inRange
  have readOnly : ((s₀.pageState T p).mapping w).isWritable = false := by
    rw [same]
    rfl
  refine ⟨readOnly, ?_⟩
  unfold PageState.WritesAlone
  rw [if_neg (Bool.eq_false_iff.mp readOnly)]
  exact fun own => absurd own (T.ne_coordinator worker)

theorem handed_of_write {s₀ : Cluster Page} (worker : w ∈ T.workers)
    (booted : Runs.Run (Cluster.step T) (fun _ e => e.isHandling = true) (Cluster.initial T) s₀)
    (drained : s₀.Drained T) (write : turn.operation = .write w p c₁)
    (woken : s₀.woken T turn = some m) (next : m.step T (.store w p c₁) = some t) :
    Handed T w p c₁ t := by
  obtain ⟨-, inRange, -⟩ := Cluster.storeStep_cases next
  have calm := calm_of_boot booted drained
  obtain ⟨readOnly, alone⟩ := writesAlone_of_boot worker booted inRange
  exact ⟨calm.write write alone woken next, calm.written write readOnly alone woken next⟩

namespace Handed

variable (handed : Handed T w p c₁ s)
include handed

theorem copy (inRange : p < T.numPages) (k : Nat) :
    ((s.node k).mapping p).contents = if k = w then some c₁ else none := by
  have copy := (handed.calm.pages p inRange).contents k
  rw [handed.entry, Function.update_self, ownedBy_holders] at copy
  simp only [Finset.mem_singleton] at copy
  exact copy

/-- The coordinator fetches the page from the worker, and both have it then. -/
theorem fetch (worker : w ∈ T.workers) (read : turn.operation = .read T.coordinator p)
    (woken : s.woken T turn = some m) (inRange : p < T.numPages) :
    m.Drained T ∧ ClusterOk T m ∧ ((m.node T.coordinator).mapping p).contents = some c₁ ∧
      ((m.node T.coordinator).mapping p).isWritable = true ∧
      ((m.node w).mapping p).contents = some c₁ := by
  have other : T.coordinator ≠ w := (T.ne_coordinator worker).symm
  have unmapped : ((s.node T.coordinator).mapping p).isMapped = false := by
    rw [← Mapping.isSome_contents, handed.copy inRange, if_neg other]
    rfl
  have sourced : (s.pageState T p).Sourced T T.coordinator := by
    refine Or.inr (Or.inr (Or.inl ?_))
    rw [handed.entry]
    exact ⟨(T.valid_of_mem (T.worker_mem worker)).ne_zero, other.symm⟩
  have reads := handed.calm.read read T.coordinator_mem inRange woken
  have calm := reads.2 sourced
  have latest := reads.1.mpr sourced
  rw [Function.update_self] at latest
  obtain ⟨writable, kept⟩ := handed.calm.fetched read T.coordinator_mem inRange unmapped woken
  refine ⟨calm.drained, calm.ok, latest, writable, ?_⟩
  rw [kept w other.symm, handed.copy inRange, if_pos rfl]

end Handed

theorem rest_of_drained (drained : s.Drained T)
    (run : Runs.Run (Cluster.step T) (fun _ e => e.isHandling = true) s t) : t = s := by
  rcases run.cases_head with same | ⟨first, ⟨e, handling, next⟩, -⟩
  · exact same.symm
  · exact absurd next (drained.stuck handling)

/-- An operation that the mapping allows waits for nothing. -/
theorem woken_of_allowed (allowed : turn.operation.Allowed s) (woken : s.woken T turn = some m) :
    m = s :=
  (woken_cases woken).2.elim id fun raises => absurd allowed raises.1

/-- However the messages of each step are scheduled: in the end the worker finds what it wrote. -/
theorem results_of_script {s₀ : Cluster Page} (worker : w ∈ T.workers)
    (booted : Runs.Run (Cluster.step T) (fun _ e => e.isHandling = true) (Cluster.initial T) s₀)
    (drained : s₀.Drained T) (script : turns.map Turn.operation = driverScript T w p c₁ c₂)
    (ran : s₀.results T turns = some found) : found = [c₁, c₁, c₂, c₁] := by
  simp only [driverScript, List.map_eq_cons_iff, List.map_eq_nil_iff] at script
  obtain ⟨first, _, rfl, write, second, _, rfl, read, third, _, rfl, rewrite, last, _, rfl, reread, rfl⟩ :=
    script
  have other : w ≠ T.coordinator := T.ne_coordinator worker
  -- step 1, after which the worker owns the page
  obtain ⟨m₁, s₁, result₁, t₁, rest₁, woken₁, next₁, found₁, run₁, ran₁, rfl⟩ := results_cons ran
  rw [write] at next₁ found₁
  have handed := handed_of_write worker booted drained write woken₁ next₁
  obtain ⟨-, inRange, -⟩ := Cluster.storeStep_cases next₁
  cases rest_of_drained handed.calm.drained run₁
  have own := handed.copy inRange w
  rw [if_pos rfl] at own
  cases own.symm.trans found₁
  -- step 2, which leaves both with a copy
  obtain ⟨m₂, s₂, result₂, t₂, rest₂, woken₂, next₂, found₂, run₂, ran₂, rfl⟩ := results_cons ran₁
  rw [read] at next₂ found₂
  obtain ⟨drained₂, ok₂, copy₂, writable₂, kept₂⟩ := handed.fetch worker read woken₂ inRange
  have mapped₂ := Mapping.isMapped_of_isWritable writable₂
  obtain ⟨-, -, loads⟩ := Cluster.loadStep_cases next₂
  obtain ⟨-, rfl⟩ := loads.resolve_right fun raises => Bool.eq_false_iff.mp raises.1 mapped₂
  cases copy₂.symm.trans found₂
  cases rest_of_drained drained₂ run₂
  -- step 3, of which the worker does not hear
  obtain ⟨m₃, s₃, result₃, t₃, rest₃, woken₃, next₃, found₃, run₃, ran₃, rfl⟩ := results_cons ran₂
  have allowed₃ : third.operation.Allowed s₂ := by
    rw [rewrite]
    exact writable₂
  cases woken_of_allowed allowed₃ woken₃
  rw [rewrite] at next₃ found₃
  obtain ⟨drained₃, copy₃, others₃⟩ := drained₂.stored ok₂ writable₂ next₃
  cases copy₃.symm.trans found₃
  cases rest_of_drained drained₃ run₃
  -- step 4, which finds the worker's own copy
  obtain ⟨m₄, s₄, result₄, t₄, rest₄, woken₄, next₄, found₄, run₄, ran₄, rfl⟩ := results_cons ran₃
  have kept₄ : ((s₃.node w).mapping p).contents = some c₁ := by
    rw [others₃ w other]
    exact kept₂
  have mapped₄ : ((s₃.node w).mapping p).isMapped = true := (Mapping.isMapped_iff _).mpr ⟨c₁, kept₄⟩
  have allowed₄ : last.operation.Allowed s₃ := by
    rw [reread]
    exact mapped₄
  cases woken_of_allowed allowed₄ woken₄
  rw [reread] at next₄ found₄
  obtain ⟨-, -, loads⟩ := Cluster.loadStep_cases next₄
  obtain ⟨-, rfl⟩ := loads.resolve_right fun raises => Bool.eq_false_iff.mp raises.1 mapped₄
  cases kept₄.symm.trans found₄
  cases ran₄
  rfl

/-! ### Every step can be carried out -/

/-- An operation that is carried out finds something. -/
theorem exists_found (allowed : turn.operation.Allowed m)
    (next : m.step T turn.operation.access = some t) :
    ∃ result, turn.operation.found t = some result := by
  cases op : turn.operation with
  | read n p =>
    rw [op] at allowed next
    obtain ⟨-, -, loads⟩ := Cluster.loadStep_cases next
    obtain ⟨mapped, rfl⟩ := loads.resolve_right fun raises => Bool.eq_false_iff.mp raises.1 allowed
    exact (Mapping.isMapped_iff _).mp mapped
  | write n p contents =>
    rw [op] at allowed next
    obtain ⟨-, -, stores⟩ := Cluster.storeStep_cases next
    obtain ⟨-, rfl⟩ := stores.resolve_right fun raises => Bool.eq_false_iff.mp raises.1 allowed
    exact ⟨contents, by simp [Operation.found, Cluster.settle, Node.setMapping, Mapping.contents]⟩

theorem results_of_perform (performed : s.perform T turn = some t)
    (ran : t.results T turns = some found) : ∃ more, s.results T (turn :: turns) = some more := by
  obtain ⟨m, done, woken, next, -⟩ := perform_cases performed
  obtain ⟨result, read⟩ := exists_found (woken_cases woken).1 next
  exact ⟨result :: found, by simp [Cluster.results, woken, next, read, performed, ran]⟩

/-- The script can be run to its end. -/
theorem script_runs {s₀ : Cluster Page} (worker : w ∈ T.workers) (inRange : p < T.numPages)
    (booted : Runs.Run (Cluster.step T) (fun _ e => e.isHandling = true) (Cluster.initial T) s₀)
    (drained : s₀.Drained T) : ∃ turns found,
      turns.map Turn.operation = driverScript T w p c₁ c₂ ∧ s₀.results T turns = some found := by
  have node := T.worker_mem worker
  have other : w ≠ T.coordinator := T.ne_coordinator worker
  -- steps 1 and 2 fault
  obtain ⟨first, s₁, write, performed₁⟩ := (calm_of_boot booted drained).writes node inRange
    (writesAlone_of_boot worker booted inRange).2 c₁
  obtain ⟨m₁, t₁, woken₁, next₁, run₁⟩ := perform_cases performed₁
  rw [write] at next₁
  have handed := handed_of_write worker booted drained write woken₁ next₁
  cases rest_of_drained handed.calm.drained run₁
  obtain ⟨second, s₂, read, performed₂⟩ := handed.calm.reads T.coordinator_mem inRange
  obtain ⟨m₂, t₂, woken₂, next₂, run₂⟩ := perform_cases performed₂
  rw [read] at next₂
  obtain ⟨drained₂, ok₂, -, writable₂, kept₂⟩ := handed.fetch worker read woken₂ inRange
  obtain ⟨-, -, loads⟩ := Cluster.loadStep_cases next₂
  obtain ⟨-, rfl⟩ := loads.resolve_right fun raises =>
    Bool.eq_false_iff.mp raises.1 (Mapping.isMapped_of_isWritable writable₂)
  cases rest_of_drained drained₂ run₂
  -- steps 3 and 4 do not
  obtain ⟨s₃, next₃⟩ : ∃ t, s₂.step T (.store T.coordinator p c₂) = some t := by
    simp [Cluster.step, Cluster.storeStep, T.coordinator_mem, inRange, writable₂]
  obtain ⟨drained₃, -, others₃⟩ := drained₂.stored ok₂ writable₂ next₃
  have performed₃ : s₂.perform T ⟨.write T.coordinator p c₂, [], []⟩ = some s₃ :=
    perform_of_woken (if_pos writable₂) next₃ drained₃
  have mapped₃ : ((s₃.node w).mapping p).isMapped = true := by
    rw [others₃ w other]
    exact (Mapping.isMapped_iff _).mpr ⟨c₁, kept₂⟩
  have performed₄ : s₃.perform T ⟨.read w p, [], []⟩ = some s₃ :=
    perform_of_woken (if_pos mapped₃) (by simp [Operation.access, Cluster.step, Cluster.loadStep,
      node, inRange, mapped₃]) drained₃
  have spent : s₃.results T [] = some [] := rfl
  obtain ⟨_, ran₄⟩ := results_of_perform performed₄ spent
  obtain ⟨_, ran₃⟩ := results_of_perform performed₃ ran₄
  obtain ⟨_, ran₂⟩ := results_of_perform performed₂ ran₃
  obtain ⟨found, ran₁⟩ := results_of_perform performed₁ ran₂
  exact ⟨_, found, by simp [driverScript, write, read], ran₁⟩

/-- The driver's script can always be run, and however the messages of its steps are scheduled the
four results are the same: the last one is what the worker wrote in step 1, never what the
coordinator wrote in step 3, of which the worker is not told. -/
theorem driver_script {s₀ : Cluster Page} (worker : w ∈ T.workers) (inRange : p < T.numPages)
    (booted : Runs.Run (Cluster.step T) (fun _ e => e.isHandling = true) (Cluster.initial T) s₀)
    (drained : s₀.Drained T) :
    (∃ turns found, turns.map Turn.operation = driverScript T w p c₁ c₂ ∧
      s₀.results T turns = some found) ∧
    ∀ turns found, turns.map Turn.operation = driverScript T w p c₁ c₂ →
      s₀.results T turns = some found → found = [c₁, c₁, c₂, c₁] :=
  ⟨script_runs worker inRange booted drained,
    fun _ _ script ran => results_of_script worker booted drained script ran⟩

/-- Steps 1 to 4 with the nodes and the values of the driver. -/
def script111 : List (Operation PageBytes) := driverScript oneWorker 2 0 (fun _ => 111) fun _ => 222

/-- Step 4 of the driver expects 222. -/
theorem driver_script_fails : ∃ s₀ : Cluster PageBytes,
    (∃ turns found, turns.map Turn.operation = script111 ∧ s₀.results oneWorker turns = some found) ∧
    ∀ turns found, turns.map Turn.operation = script111 → s₀.results oneWorker turns = some found →
      found.map (fun page => page 0) ≠ [111, 111, 222, 222] := by
  obtain ⟨s₀, booted, drained⟩ := Runs.exists_run (Cluster.step oneWorker)
    (fun _ e => e.isHandling = true) (Cluster.initial oneWorker) [.toCoordinator 2]
    (fun s₀ : Cluster PageBytes => s₀.Drained oneWorker) (by decide +kernel)
  have worker : 2 ∈ oneWorker.workers := by decide
  have inRange : 0 < oneWorker.numPages := by decide
  obtain ⟨runs, finds⟩ := @driver_script _ oneWorker 2 0 (fun _ => 111) (fun _ => 222) _ s₀ worker
    inRange booted drained
  refine ⟨s₀, runs, fun turns found script ran expected => ?_⟩
  rw [finds turns found script ran] at expected
  exact absurd expected (by decide)

end TeleportVM
