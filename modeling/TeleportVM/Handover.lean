import TeleportVM.Accounting
import TeleportVM.EngineHandling

/-!
A worker owns a page and keeps storing to it while another node's write request is handled: which
of its stores the new owner finds in the page.
-/
namespace TeleportVM

open Links (each)

variable {Page : Type}

namespace PageState

/-- The owner `o` has not answered the fetch: the page is still its own, and its copy is not on
the way to the coordinator. -/
def Unanswered (o : Nat) (v : PageState Page) : Prop :=
  v.entry.ownerNodeId = o ∧ (v.up o).all (fun m => !m.isPage) = true

instance (o : Nat) (v : PageState Page) : Decidable (v.Unanswered o) :=
  inferInstanceAs (Decidable (_ ∧ _))

/-- What a handover is made of: packets and queued requests are handled, and `o` stores. -/
def HandoverStep (o : Nat) (_ : PageState Page) : PageLabel Page → Prop
  | .store n _ => n = o
  | .enqueue _ _ | .overflow _ => False
  | _ => True

/-- The same, with no store of `o` once it has answered the fetch. -/
def CalmStep (o : Nat) (v : PageState Page) : PageLabel Page → Prop
  | .store n _ => n = o ∧ v.Unanswered o
  | .enqueue _ _ | .overflow _ => False
  | _ => True

instance (o : Nat) (v : PageState Page) (label : PageLabel Page) : Decidable (v.HandoverStep o label) :=
  match label with
  | .store n _ => inferInstanceAs (Decidable (n = o))
  | .enqueue _ _ | .overflow _ => isFalse id
  | .join _ | .forward _ | .receive _ | .request _ _ | .reply _ | .ack _ => isTrue trivial

instance (o : Nat) (v : PageState Page) (label : PageLabel Page) : Decidable (v.CalmStep o label) :=
  match label with
  | .store n _ => inferInstanceAs (Decidable (n = o ∧ v.Unanswered o))
  | .enqueue _ _ | .overflow _ => isFalse id
  | .join _ | .forward _ | .receive _ | .request _ _ | .reply _ | .ack _ => isTrue trivial

end PageState

/-- What `o` last stored in page `p`, after this event. -/
def Cluster.lastStored (p o : Nat) (s : Cluster Page) (latest : Page) : Event Page → Page
  | .store n q contents =>
    if n = o ∧ q = p ∧ ((s.node n).mapping p).isWritable = true then contents else latest
  | _ => latest

/-- The cluster with what `o` last stored in page `p`. -/
def Cluster.trackedStep [Zero Page] (T : Topology) (p o : Nat) (s : Cluster Page × Page)
    (e : Event Page) : Option (Cluster Page × Page) :=
  (s.1.step T e).map fun t => (t, s.1.lastStored p o s.2 e)

/-- Worker `o` owns page `p`, with these contents, and a write request of `r`, which has no copy,
is all that is going on about the page. -/
structure Cluster.HandsOver (T : Topology) (p o r : Nat) (contents : Page) (s : Cluster Page) :
    Prop where
  ok : ClusterOk T s
  worker : o ∈ T.workers
  node : r ∈ T.nodes
  apart : o ≠ r
  entry : s.entry T p = .ownedBy o
  copy : (s.node o).pageTable p = .valid ∧ ((s.node o).mapping p).contents = some contents
  absent : (s.node T.coordinator).pageTable p ≠ .valid
  faulted : (s.node r).pageTable p = .pending ∧ ((s.node r).mapping p).contents = none
  free : (s.slot T p).requesterNodeId = 0 ∧ (s.slot T p).expectedAcks = 0
  down : (s.pageState T p).down = each ∅ .fetch
  request :
    (r ∈ T.workers ∧ (s.pageState T p).up = each {r} (.request true) ∧
      (s.pageState T p).queued = fun _ => []) ∨
    ((s.pageState T p).up = each ∅ .ack ∧
      (s.pageState T p).queued = Function.update (fun _ => []) r [true])

/-! ### The page during the handover -/

namespace PageState

section Store

variable {T : Topology} {o r : Nat} {contents page : Page} {start v v' : PageState Page}
  {label : PageLabel Page}

/-- With another contents of the owner's copy the request is still the same. -/
theorem Asked.store (asked : Asked T r true contents start) (owned : start.entry = .ownedBy o)
    (page : Page) : Asked T r true page (start.setMapping o (.readWrite page)) :=
  { asked with
    seen := by
      intro n holder apart
      refine ⟨(asked.seen n holder apart).1, ?_⟩
      rw [setMapping_entry, owned, ownedBy_holders, Finset.mem_singleton] at holder
      subst holder
      simp [Mapping.contents] }

variable [Zero Page]

/-- Until it has answered the fetch, a store of the owner is as good as one before the request. -/
theorem Phase.store {k : Nat} (phase : Phase T r true contents start (fun _ => []) k v)
    (owned : start.entry = .ownedBy o) (apart : o ≠ r) (unanswered : v.Unanswered o) (page : Page) :
    Phase T r true page (start.setMapping o (.readWrite page)) (fun _ => []) k
      (v.setMapping o (.readWrite page)) := by
  have same : start.entry.ownerNodeId = o := by rw [owned]; rfl
  -- afterwards the page belongs to `r`
  have moved (entry : v.entry = .ownedBy r) : False := by
    have owner := unanswered.1
    rw [entry] at owner
    exact apart owner.symm
  cases phase with
  | queued reached free idle => exact .queued (reached.store apart _) free idle
  | asked worker reached free idle => exact .asked worker (reached.store apart _) free idle
  | fetching absent fetches reached requester type idle =>
    exact .fetching absent fetches (reached.store apart _) requester type idle
  | replied absent fetches reached =>
    -- the owner's copy is on its way
    have silent := unanswered.2
    rw [reached.up, same, Links.each_mem (Finset.mem_singleton_self o)] at silent
    exact absurd silent (by simp [Msg.isPage])
  | collecting _ _ _ _ _ reached => exact (moved reached.entry).elim
  | granted _ reached => exact (moved reached.entry).elim

theorem Settled.join (settled : Settled T r true contents start (fun _ => []) v) (w : Nat) :
    Settled T r true contents start (fun _ => []) { v with joined := insert w v.joined } :=
  { settled with }

/-- After the handover there is nothing to handle. -/
theorem Settled.handle (settled : Settled T r true contents start (fun _ => []) v)
    (handles : label.Handles) (move : Move T v label v') :
    Settled T r true contents start (fun _ => []) v' := by
  obtain ⟨w, rfl⟩ := settled.silent.handle handles move
  exact settled.join w

/-- The page on its way from `o` to `r`, when `o` has last stored these contents in it. -/
def HandingOver (T : Topology) (o r : Nat) (latest : Page) (v : PageState Page) : Prop :=
  ∃ start, Asked T r true latest start ∧ start.entry = .ownedBy o ∧
    (start.status r = .pending ∧ (start.mapping r).contents = none) ∧
    ((∃ k, Phase T r true latest start (fun _ => []) k v) ∨
      Settled T r true latest start (fun _ => []) v)

theorem HandingOver.counting (handing : HandingOver T o r contents v) (waiting : 0 < v.slot.expectedAcks) :
    v.slot.requesterNodeId ≠ 0 := by
  obtain ⟨start, asked, -, -, ⟨k, phase⟩ | settled⟩ := handing
  · exact phase.counting asked.node waiting
  · exact absurd settled.idle (Nat.ne_of_gt waiting)

theorem HandingOver.handle (handing : HandingOver T o r contents v) (ok : PageOk T v)
    (handles : label.Handles) (move : Move T v label v') : HandingOver T o r contents v' := by
  obtain ⟨start, asked, owned, faulted, ⟨k, phase⟩ | settled⟩ := handing
  · refine ⟨start, asked, owned, faulted, ?_⟩
    rcases phase.handle asked ok handles move with ⟨-, later⟩ | ⟨j, -, later⟩ | ⟨-, settled⟩
    · exact Or.inl ⟨k, later⟩
    · exact Or.inl ⟨j, later⟩
    · exact Or.inr settled
  · exact ⟨start, asked, owned, faulted, Or.inr (settled.handle handles move)⟩

theorem HandingOver.store (handing : HandingOver T o r contents v) (apart : o ≠ r)
    (unanswered : v.Unanswered o) (page : Page) :
    HandingOver T o r page (v.setMapping o (.readWrite page)) := by
  obtain ⟨start, asked, owned, faulted, ⟨k, phase⟩ | settled⟩ := handing
  · refine ⟨start.setMapping o (.readWrite page), asked.store owned page, owned, ⟨faulted.1, ?_⟩,
      Or.inl ⟨k, phase.store owned apart unanswered page⟩⟩
    rw [setMapping_mapping, Function.update_of_ne (Ne.symm apart)]
    exact faulted.2
  · have owner := unanswered.1
    rw [settled.entry] at owner
    exact absurd owner.symm apart

/-- Whatever `r` has mapped is what `o` has last stored. -/
theorem HandingOver.installed (handing : HandingOver T o r contents v) (owner : ValidNode o)
    (apart : o ≠ r) {found : Page} (mapped : (v.mapping r).contents = some found) :
    found = contents := by
  obtain ⟨start, asked, owned, ⟨pending, unmapped⟩, ⟨k, phase⟩ | settled⟩ := handing
  · rw [phase.own, unmapped] at mapped
    cases mapped
  · have fetches : start.entry.Fetches r := by
      rw [owned]
      exact ⟨owner.ne_zero, apart⟩
    have given : start.answer T r contents = contents := if_pos (Or.inr fetches)
    have own := settled.own
    unfold accept at own
    rw [pending] at own
    simp only [install_mapping, Function.update_self, given] at own
    rw [own] at mapped
    exact (Option.some.inj mapped).symm

end Store

end PageState

/-! ### The handover in a cluster -/

section Handover

variable [Zero Page] {T : Topology} {p o r : Nat} {contents : Page} {s : Cluster Page}

theorem Cluster.HandsOver.handing (hands : s.HandsOver T p o r contents) :
    PageState.HandingOver T o r contents (s.pageState T p) := by
  have owned : (s.pageState T p).entry = .ownedBy o := hands.entry
  refine ⟨s.pageState T p, ?_, owned, hands.faulted, Or.inl ?_⟩
  · refine ⟨hands.node, ?_, fun valid => absurd valid hands.absent, fun _ => ?_,
      fun _ _ _ alone => ?_⟩
    · intro n holder _
      rw [owned, ownedBy_holders, Finset.mem_singleton] at holder
      subst holder
      exact hands.copy
    · have pending : (s.pageState T p).status r = .pending := hands.faulted.1
      rw [pending]
      exact ⟨nofun, nofun⟩
    · refine absurd ?_ alone
      rw [owned]
      exact ⟨(T.workers_valid o hands.worker).ne_zero, hands.apart⟩
  · rcases hands.request with ⟨worker, up, queued⟩ | ⟨up, queued⟩
    · exact ⟨_, .asked worker ⟨rfl, rfl, by simp, by simp, queued, up, hands.down⟩ hands.free.1
        hands.free.2⟩
    · exact ⟨_, .queued ⟨rfl, rfl, by simp, by simp, queued, up, hands.down⟩ hands.free.1
        hands.free.2⟩

omit [Zero Page] in
theorem calm_handles {v : PageState Page} {label : PageLabel Page} (calm : v.CalmStep o label) :
    label.Handles ∨ ∃ page, label = .store o page ∧ v.Unanswered o := by
  cases label with
  | store n page =>
    obtain ⟨rfl, unanswered⟩ := calm
    exact Or.inr ⟨page, rfl, unanswered⟩
  | enqueue | overflow => cases calm
  | join | forward | receive | request | reply | ack => exact Or.inl trivial

omit [Zero Page] in
/-- Only a store event stores. -/
theorem store_of_label {e : Event Page} {n : Nat} {page : Page}
    (label : s.pageLabel T p e = some (.store n page)) :
    e = .store n p page ∧ ((s.node n).mapping p).isWritable = true := by
  cases e with
  | load | evict => cases label
  | store m q page' =>
    simp only [Cluster.pageLabel] at label
    split at label
    next writable =>
      cases label
      exact ⟨by rw [writable.1], writable.2⟩
    · cases label
  | fault m =>
    obtain ⟨fault, -, label⟩ := Option.bind_eq_some_iff.mp label
    split at label
    · cases label
    · split at label <;> cases label
  | drain m =>
    obtain ⟨req, -, label⟩ := Option.bind_eq_some_iff.mp label
    split at label
    · cases label
    · split at label <;> cases label
  | toCoordinator w =>
    obtain ⟨packet, -, label⟩ := Option.bind_eq_some_iff.mp label
    split at label
    · cases label
    · split at label
      · split at label <;> cases label
      · split at label <;> cases label
  | toWorker w =>
    obtain ⟨packet, -, label⟩ := Option.bind_eq_some_iff.mp label
    split at label <;> cases label

omit [Zero Page] in
/-- An event that is not a store of `o` in the page leaves what it last stored there. -/
theorem lastStored_other {e : Event Page} {latest : Page}
    (other : ∀ page, s.pageLabel T p e ≠ some (.store o page)) :
    s.lastStored p o latest e = latest := by
  cases e with
  | store n q page =>
    refine if_neg ?_
    rintro ⟨rfl, rfl, writable⟩
    exact other page (if_pos ⟨rfl, writable⟩)
  | load | fault | drain | toCoordinator | toWorker | evict => rfl

/-- While the page is handed over, what `r` maps is what `o` has last stored, if `o` does not
store between its answer to the fetch and the invalidation of its copy. -/
theorem handover_keeps_stores (inRange : p < T.numPages) (hands : s.HandsOver T p o r contents)
    {t : Cluster Page} {latest : Page}
    (run : Runs.Run (Cluster.trackedStep T p o)
      (fun s e => s.1.Meets T p (PageState.CalmStep o) e) (s, contents) (t, latest)) :
    ∀ found, ((t.node r).mapping p).contents = some found → found = latest := by
  have kept : ClusterOk T t ∧ PageState.HandingOver T o r latest (t.pageState T p) := by
    refine run.invariant
      (fun s => ClusterOk T s.1 ∧ PageState.HandingOver T o r s.2 (s.1.pageState T p))
      ⟨hands.ok, hands.handing⟩ ?_
    rintro ⟨a, before⟩ e ⟨b, after⟩ ⟨ok, handing⟩ ⟨keeps, calm⟩ next
    obtain ⟨b, step, same⟩ := Option.map_eq_some_iff.mp next
    cases same
    refine ⟨ok.step step, ?_⟩
    have moved := step_moves ok inRange (fun _ => handing.counting) keeps step
    unfold PageStep at moved
    split at moved
    next silent =>
      dsimp only
      rw [moved, lastStored_other (T := T) (by simp [silent])]
      exact handing
    next label same =>
      -- handling keeps what `o` has stored, a store of `o` comes before its answer
      rcases calm_handles (calm label same) with handles | ⟨page, rfl, unanswered⟩
      · have unstored : a.lastStored p o before e = before := by
          apply lastStored_other (T := T)
          intro page equal
          rw [same, Option.some.injEq] at equal
          subst equal
          cases handles
        dsimp only
        rw [unstored]
        exact handing.handle (ok.pageOk p) handles moved
      · obtain ⟨rfl, writable⟩ := store_of_label same
        have stored : a.lastStored p o before (.store o p page) = page := if_pos ⟨rfl, rfl, writable⟩
        dsimp only
        rw [stored, moved.stored]
        exact handing.store hands.apart unanswered page
  intro found mapped
  exact kept.2.installed (T.workers_valid o hands.worker) hands.apart mapped

/-! ### Two handovers -/

omit [Zero Page] in
/-- With nothing on the links and one write request queued, a page can be handed over. -/
theorem Bare.handsOver (bare : Bare T s) (ok : ClusterOk T s) (worker : o ∈ T.workers)
    (node : r ∈ T.nodes) (apart : o ≠ r) (entry : s.entry T p = .ownedBy o)
    (copy : (s.node o).pageTable p = .valid ∧ ((s.node o).mapping p).contents = some contents)
    (absent : (s.node T.coordinator).pageTable p ≠ .valid)
    (faulted : (s.node r).pageTable p = .pending ∧ ((s.node r).mapping p).contents = none)
    (free : (s.slot T p).requesterNodeId = 0 ∧ (s.slot T p).expectedAcks = 0)
    (links : ∀ w ∈ T.workers, s.toCoordinator w = [] ∧ s.toWorker w = [])
    (queue : ∀ n ∈ T.nodes, (s.node n).sharedReqQueue = if n = r then [⟨p, true⟩] else []) :
    s.HandsOver T p o r contents where
  ok := ok
  worker := worker
  node := node
  apart := apart
  entry := entry
  copy := copy
  absent := absent
  faulted := faulted
  free := free
  down := by
    funext w
    have empty : s.toWorker w = [] := by
      by_cases member : w ∈ T.workers
      · exact (links w member).2
      · exact bare.down w member
    simp [Cluster.pageState, empty, each]
  request := by
    refine Or.inr ⟨?_, ?_⟩
    · funext w
      have empty : s.toCoordinator w = [] := by
        by_cases member : w ∈ T.workers
        · exact (links w member).1
        · exact bare.up w member
      simp [Cluster.pageState, empty, each]
    · funext n
      by_cases own : n = r
      · subst own
        simp [Cluster.pageState, queue n node, queuedFor]
      · have empty : (s.node n).sharedReqQueue = [] := by
          by_cases member : n ∈ T.nodes
          · rw [queue n member, if_neg own]
          · exact bare.queue n member
        simp [Cluster.pageState, empty, queuedFor, own]

end Handover

/-- Worker 2 writes sevens to page 0, and the write fault of worker 3 is queued. -/
def sevensWanted : List (Event PageBytes) :=
  [.toCoordinator 2, .toCoordinator 3] ++ writeMiss 2 0 (fun _ => 7) ++
    [.toCoordinator 2, .toWorker 2, .store 2 0 (fun _ => 7), .store 3 0 (fun _ => 8), .fault 3]

/-- Worker 2 stores nines before it answers the fetch. -/
def storeThenAnswer : List (Event PageBytes) :=
  [.drain 3, .toCoordinator 3, .store 2 0 (fun _ => 9), .toWorker 2, .toCoordinator 2, .toWorker 2,
    .toCoordinator 2, .toWorker 3]

/-- Worker 2 stores nines after it has answered the fetch. -/
def answerThenStore : List (Event PageBytes) :=
  [.drain 3, .toCoordinator 3, .toWorker 2, .store 2 0 (fun _ => 9), .toCoordinator 2, .toWorker 2,
    .toCoordinator 2, .toWorker 3]

/-- What `handover_keeps_stores` asks of the start, with worker 2 as the owner and worker 3 as the
writer, as far as it can be computed. -/
def OwnedByTwo (s : Cluster PageBytes) : Prop :=
  s.entry twoWorkers 0 = .ownedBy 2 ∧ (s.node 2).pageTable 0 = .valid ∧
    ((s.node 2).mapping 0).isMapped = true ∧ (s.node 1).pageTable 0 ≠ .valid ∧
    (s.node 3).pageTable 0 = .pending ∧ ((s.node 3).mapping 0).isMapped = false ∧
    ((s.slot twoWorkers 0).requesterNodeId = 0 ∧ (s.slot twoWorkers 0).expectedAcks = 0) ∧
    (∀ w ∈ twoWorkers.workers, s.toCoordinator w = [] ∧ s.toWorker w = []) ∧
    ∀ n ∈ twoWorkers.nodes, (s.node n).sharedReqQueue = if n = 3 then [⟨0, true⟩] else []

instance (s : Cluster PageBytes) : Decidable (OwnedByTwo s) :=
  inferInstanceAs (Decidable (_ ∧ _))

theorem OwnedByTwo.handsOver {s : Cluster PageBytes}
    {allow : Cluster PageBytes → Event PageBytes → Prop} (owned : OwnedByTwo s)
    (run : Runs.Run (Cluster.step twoWorkers) allow (.initial twoWorkers) s) :
    s.HandsOver twoWorkers 0 2 3 (((s.node 2).mapping 0).contents.getD 0) := by
  obtain ⟨entry, valid, mapped, absent, pending, unmapped, free, links, queue⟩ := owned
  obtain ⟨contents, copy⟩ := (Mapping.isMapped_iff _).mp mapped
  have gone : ((s.node 3).mapping 0).contents = none := by
    rw [← Mapping.isSome_contents] at unmapped
    exact Option.not_isSome_iff_eq_none.mp (by simp [unmapped])
  exact (bare_of_run run).handsOver (clusterOk_of_run run) (by decide) (by decide) (by decide) entry
    ⟨valid, by rw [copy, Option.getD_some]⟩ absent ⟨pending, gone⟩ free links queue

theorem handover_keeps_stores_before_answer : ∃ (s t : Cluster PageBytes) (latest : PageBytes),
    OwnedByTwo s ∧ latest 0 = 9 ∧ ((t.node 3).mapping 0).contents = some latest := by
  obtain ⟨s, run, owned, later⟩ := Runs.exists_run (Cluster.step twoWorkers) (fun _ _ => True)
    (Cluster.initial twoWorkers) sevensWanted
    (fun s => OwnedByTwo s ∧ ((Runs.execIf (Cluster.trackedStep twoWorkers 0 2)
      (fun s e => s.1.Meets twoWorkers 0 (PageState.CalmStep 2) e)
      (s, ((s.node 2).mapping 0).contents.getD 0) storeThenAnswer).any fun t =>
        decide (((t.1.node 3).mapping 0).isMapped = true ∧ t.2 0 = 9)) = true) (by decide +kernel)
  obtain ⟨⟨t, latest⟩, handover, mapped, nine⟩ := Runs.exists_run (Cluster.trackedStep twoWorkers 0 2)
    _ _ storeThenAnswer _ later
  obtain ⟨found, copy⟩ := (Mapping.isMapped_iff _).mp mapped
  have same := handover_keeps_stores (by decide) (owned.handsOver run) handover found copy
  exact ⟨s, t, latest, owned, nine, same ▸ copy⟩

/-- Worker 3 gets the sevens; the nines are lost. -/
theorem store_lost : ¬ ∀ (T : Topology) (p o r : Nat) (contents : PageBytes) (s t : Cluster PageBytes)
    (latest : PageBytes), p < T.numPages → s.HandsOver T p o r contents →
    Runs.Run (Cluster.trackedStep T p o) (fun s e => s.1.Meets T p (PageState.HandoverStep o) e)
      (s, contents) (t, latest) →
    ∀ found, ((t.node r).mapping p).contents = some found → found = latest := by
  intro claim
  obtain ⟨s, run, owned, later⟩ := Runs.exists_run (Cluster.step twoWorkers) (fun _ _ => True)
    (Cluster.initial twoWorkers) sevensWanted
    (fun s => OwnedByTwo s ∧ ((Runs.execIf (Cluster.trackedStep twoWorkers 0 2)
      (fun s e => s.1.Meets twoWorkers 0 (PageState.HandoverStep 2) e)
      (s, ((s.node 2).mapping 0).contents.getD 0) answerThenStore).any fun t =>
        decide ((((t.1.node 3).mapping 0).contents.map fun page => page 0) = some 7 ∧ t.2 0 = 9)) =
          true) (by decide +kernel)
  obtain ⟨⟨t, latest⟩, handover, seven, nine⟩ := Runs.exists_run (Cluster.trackedStep twoWorkers 0 2)
    _ _ answerThenStore _ later
  obtain ⟨found, copy, first⟩ := Option.map_eq_some_iff.mp seven
  have same := claim twoWorkers 0 2 3 _ s t latest (by decide) (owned.handsOver run) handover found copy
  have nine : latest 0 = 9 := nine
  have first : found 0 = 7 := first
  rw [same, nine] at first
  exact absurd first (by decide)

end TeleportVM
