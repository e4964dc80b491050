import TeleportVM.Coverage

/-!
When the coordinator answers with a page of zeros that nobody wrote. Having no copy and no
owner to ask, it takes the page for unused; in state `SHARED` the entry names no owner
although the sharers hold the page.
-/
namespace TeleportVM

variable {Page : Type} [Zero Page]

namespace PageState

/-- A request that the coordinator resolves at once with a page of zeros. -/
def ZeroServed (T : Topology) (s : PageState Page) (r : Nat) (isWrite : Bool) : Prop :=
  ¬ s.Present T r ∧ ¬ s.Fetchable r ∧ (r = T.coordinator ∨ isWrite = false ∨ s.targets r = ∅)

omit [Zero Page] in
instance (T : Topology) (s : PageState Page) (r : Nat) (isWrite : Bool) :
    Decidable (s.ZeroServed T r isWrite) := inferInstanceAs (Decidable (_ ∧ _ ∧ _))

/-- The move resolves a request of `r` with a page of zeros: at once, or with the deferred
payload when the last acknowledgement arrives. -/
def Fabricates (T : Topology) (s : PageState Page) (r : Nat) : PageLabel Page → Prop
  | .request r' isWrite => r' = r ∧ s.ZeroServed T r isWrite
  | .ack _ => s.slot.requesterNodeId = r ∧ s.slot.expectedAcks = 1 ∧ s.slot.deferredPayload = 0 ∧
    ¬ (r = T.coordinator ∧ s.status T.coordinator = .writePending)
  | _ => False

/-- The request is not one of those that zeros go to over live data: a read, or a write of
the coordinator, of a page that others share; a read of a page that the coordinator owns
while its own write is pending. -/
def FillsUnused (T : Topology) (s : PageState Page) : PageLabel Page → Prop
  | .request r isWrite => isWrite = false ∨ r = T.coordinator →
    (s.entry.state = .shared → s.entry.holders ⊆ {r}) ∧
      (r ≠ T.coordinator → s.entry.ownerNodeId ≠ T.coordinator)
  | _ => True

omit [Zero Page] in
instance (T : Topology) (s : PageState Page) (label : PageLabel Page) :
    Decidable (s.FillsUnused T label) :=
  match label with
  | .request r isWrite =>
    inferInstanceAs (Decidable (isWrite = false ∨ r = T.coordinator →
      (s.entry.state = .shared → s.entry.holders ⊆ {r}) ∧
        (r ≠ T.coordinator → s.entry.ownerNodeId ≠ T.coordinator)))
  | .join _ | .store _ _ | .enqueue _ _ | .overflow _ | .forward _ | .receive _ | .reply _
  | .ack _ => isTrue trivial

/-- Nobody but the requester has the page, and the entry the answer is given under lists
nobody else: a local fault is answered before its transition, a remote one after it. -/
structure Unused (T : Topology) (s s' : PageState Page) (r : Nat) : Prop where
  unmapped : ∀ n ∈ T.nodes, n ≠ r → (s'.mapping n).isMapped = false
  listed : s'.entry.holders ⊆ {r}
  before : r = T.coordinator → s.entry.holders ⊆ {r}

variable {T : Topology} {s taken s' : PageState Page} {n r : Nat} {isWrite : Bool}
  {label : PageLabel Page}

theorem requester_valid (move : Move T s (.request r isWrite) s') : ValidNode r := by
  cases move with
  | readPresent | upgrade | upgradeWait | zeroLocal => exact T.coordinator_valid
  | fetch _ _ _ _ takes => exact T.valid_of_mem takes.member
  | zeroRead _ _ takes => exact T.valid_of_mem takes.member
  | serveRead _ _ _ takes => exact T.valid_of_mem takes.member
  | serveWrite _ _ _ takes => exact T.valid_of_mem takes.member
  | serveWriteWait _ _ _ _ takes => exact T.valid_of_mem takes.member

/-- The directory transition of a request answered with zeros. -/
theorem entry_of_zeroServed (zero : s.ZeroServed T r isWrite)
    (move : Move T s (.request r isWrite) s') :
    s'.entry = (if isWrite then .ownedBy r else s.entry.toShared r) ∧ s'.slot = s.slot := by
  obtain ⟨absent, unowned, atOnce⟩ := zero
  cases move with
  | readPresent taken takes present => exact absurd present absent
  | upgrade taken takes present => exact absurd present absent
  | upgradeWait taken takes present => exact absurd present absent
  | fetch r isWrite fd taken takes _ owned => exact absurd (takes.fetchable.mp owned) unowned
  | zeroLocal isWrite taken takes => exact ⟨rfl, by simp [takes.slot]⟩
  | zeroRead r taken takes => exact ⟨rfl, by simp [takes.slot]⟩
  | serveRead r page taken takes worker valid => exact absurd (Or.inl valid) absent
  | serveWrite r page taken takes => exact ⟨rfl, by simp [takes.slot]⟩
  | serveWriteWait r page fd taken takes worker source others =>
    rw [takes.targets] at others
    -- a write that waits for acknowledgements has others to tell, and is not answered at once
    rcases atOnce with own | read | none
    · exact absurd own (T.ne_coordinator worker)
    · cases read
    · exact absurd none others

omit [Zero Page] in
/-- With no owner to ask, a page that is not shared has no holder but the requester and the
coordinator. -/
theorem FillsUnused.holders (ok : PageOk T s) (unowned : ¬ s.Fetchable r)
    (fills : s.FillsUnused T (.request r isWrite))
    (risky : isWrite = false ∨ r = T.coordinator) : s.entry.holders ⊆ {r} := by
  obtain ⟨sharers, foreign⟩ := fills risky
  cases state : s.entry.state with
  | shared => exact sharers state
  | invalid => rw [invalid_holders _ state]; exact Finset.empty_subset _
  | modified =>
    have holders : s.entry.holders = {s.entry.ownerNodeId} := by simp [GpdEntry.holders, state]
    have listed := ok.holders (by rw [holders]; exact Finset.mem_singleton_self _)
    rw [holders, Finset.singleton_subset_singleton]
    -- a `MODIFIED` owner other than the requester can be fetched from, unless it is the coordinator
    by_contra other
    rcases Finset.mem_insert.mp listed with own | joined
    · by_cases home : r = T.coordinator
      · exact other (own.trans home.symm)
      · exact foreign home own
    · exact unowned ⟨joined, other⟩

omit [Zero Page] in
theorem FillsUnused.spares (fills : s.FillsUnused T label) : s.SparesSharers T label := by
  cases label with
  | request r isWrite => exact fun own _ _ => (fills (Or.inr own)).1
  | _ => trivial

omit [Zero Page] in
/-- A copy that the settled directory does not list is not mapped. -/
theorem Covered.unmapped (covered : Covered T s) (idle : s.slot.expectedAcks = 0)
    (listed : s.entry.holders ⊆ {r}) (n : Nat) (other : n ≠ r) :
    (s.mapping n).isMapped = false := by
  by_contra mapped
  rw [Bool.not_eq_false] at mapped
  exact other (Finset.mem_singleton.mp (listed (covered.listed idle n (Or.inl mapped))))

/-- The request kinds that `FillsUnused` names are exactly those that zeros go to over live
data. -/
theorem unused_iff_request (ok : PageOk T s) (covered : Covered T s)
    (serial : s.Serial T (.request r isWrite)) (zero : s.ZeroServed T r isWrite)
    (move : Move T s (.request r isWrite) s') :
    Unused T s s' r ↔ s.FillsUnused T (.request r isWrite) := by
  obtain ⟨entry, slot⟩ := entry_of_zeroServed zero move
  obtain ⟨absent, unowned, -⟩ := zero
  have member : ValidNode r := requester_valid move
  have shared : (s.entry.toShared r).holders = insert r s.entry.holders :=
    toShared_holders _ ok.entry _ member
  constructor
  · rintro ⟨-, listed, before⟩ risky
    have holders : s.entry.holders ⊆ {r} := by
      rcases risky with rfl | own
      · rw [entry, if_neg Bool.false_ne_true, shared] at listed
        exact (Finset.subset_insert _ _).trans listed
      · exact before own
    refine ⟨fun _ => holders, fun home owner => home ?_⟩
    -- an owner is listed, so it is the requester
    have named : s.entry.ownerNodeId ∈ s.entry.holders := by
      obtain ⟨-, shape⟩ := ok.entry
      cases state : s.entry.state <;> simp only [state] at shape
      · simp [GpdEntry.holders, state]
      · exact absurd (owner.symm.trans shape.1) T.coordinator_valid.ne_zero
      · exact absurd (owner.symm.trans shape.1) T.coordinator_valid.ne_zero
    exact ((Finset.mem_singleton.mp (holders named)).symm.trans owner)
  · intro fills
    have settled := covered_of_move ok covered serial fills.spares move
    have free := serial.free fun both => absent both.2.2
    have idle : s'.slot.expectedAcks = 0 := by rw [slot]; exact covered.account.free_idle free
    have listed : s'.entry.holders ⊆ {r} := by
      rw [entry]
      split
      · rw [ownedBy_holders]
      next read =>
        rw [shared]
        exact Finset.insert_subset (Finset.mem_singleton_self r)
          (fills.holders ok unowned (Or.inl (Bool.not_eq_true _ ▸ read)))
    exact ⟨fun n _ => settled.unmapped idle listed n, listed,
      fun own => fills.holders ok unowned (Or.inr own)⟩

/-- The deferred payload goes out when nobody else is left. -/
theorem unused_ack {w : Nat} (ok : PageOk T s) (covered : Covered T s)
    (last : s.slot.expectedAcks = 1) (move : Move T s (.ack w) s') :
    Unused T s s' s.slot.requesterNodeId := by
  have settled := covered_of_move ok covered (show s.Serial T (.ack w) from trivial) trivial move
  have owned := covered.owned (by omega)
  have closed : s'.entry = s.entry ∧ s'.slot.expectedAcks = 0 := by
    cases move with
    | ackIgnored _ _ _ none => omega
    | ackCounted _ _ _ more => omega
    | ackLift => simp
    | ackGrant => simp
  have listed : s.entry.holders ⊆ {s.slot.requesterNodeId} := by rw [owned, ownedBy_holders]
  exact ⟨fun n _ => settled.unmapped closed.2 (by rwa [closed.1]) n, by rwa [closed.1], fun _ => listed⟩

/-- A page of zeros is invented over live data exactly in the requests that `FillsUnused`
excludes. -/
theorem unused_iff (ok : PageOk T s) (covered : Covered T s) (serial : s.Serial T label)
    (fabricates : s.Fabricates T r label) (move : Move T s label s') :
    Unused T s s' r ↔ s.FillsUnused T label := by
  cases label with
  | request r' isWrite =>
    obtain ⟨rfl, zero⟩ := fabricates
    exact unused_iff_request ok covered serial zero move
  | ack w =>
    obtain ⟨rfl, last, -⟩ := fabricates
    exact iff_of_true (unused_ack ok covered last move) trivial
  | _ => exact fabricates.elim

end PageState

/-! ### Runs -/

/-- Event `e` makes the coordinator resolve a request of `r` for page `p` with zeros. -/
def Cluster.ZeroFills (T : Topology) (s : Cluster Page) (p r : Nat) (e : Event Page) : Prop :=
  ∃ label, s.pageLabel T p e = some label ∧ (s.pageState T p).Fabricates T r label

/-- After an orderly run, a page of zeros goes to a requester that is alone with the page
exactly when the request is not one of the excluded kinds. -/
theorem zero_page_unused_iff (T : Topology) (p : Nat) (inRange : p < T.numPages)
    (s t : Cluster Page) (e : Event Page) (r : Nat)
    (run : Runs.Run (Cluster.step T) (Cluster.Meets T p (PageState.Orderly T))
      (Cluster.initial T) s)
    (serial : s.Meets T p (PageState.Serial T) e) (fills : s.ZeroFills T p r e)
    (next : s.step T e = some t) :
    ((∀ n ∈ T.nodes, n ≠ r → ((t.node n).mapping p).isMapped = false) ∧
      (t.entry T p).holders ⊆ {r} ∧ (r = T.coordinator → (s.entry T p).holders ⊆ {r})) ↔
    s.Meets T p (PageState.FillsUnused T) e := by
  obtain ⟨label, same, fabricates⟩ := fills
  have covered := covered_of_run inRange run
  have ok := clusterOk_of_run run
  have moved := step_moves ok inRange (fun _ => covered.account.counting) serial.1 next
  rw [same] at moved
  have exactly := PageState.unused_iff (ok.pageOk p) covered (serial.2 label same) fabricates moved
  have meets : s.Meets T p (PageState.FillsUnused T) e ↔
      (s.pageState T p).FillsUnused T label := by
    simp [Cluster.Meets, serial.1, same]
  rw [meets, ← exactly]
  constructor
  · rintro ⟨unmapped, listed, before⟩
    exact ⟨unmapped, listed, before⟩
  · rintro ⟨unmapped, listed, before⟩
    exact ⟨unmapped, listed, before⟩

theorem zeroFills_of_asks {T : Topology} {s t : Cluster Page} {e : Event Page} {ask : PageAsk}
    (ok : ClusterOk T s) (asked : s.asks T e = some ask)
    (zero : (s.pageState T ask.page).ZeroServed T ask.requester ask.isWrite)
    (next : s.step T e = some t) : s.ZeroFills T ask.page ask.requester e :=
  ⟨_, pageLabel_of_asks ok asked next, rfl, zero⟩

/-- The first read of a page, up to its request. -/
def firstRead : List (Event PageBytes) := [.toCoordinator 2] ++ readMiss 2 0

theorem zero_page_unused_first_read : ∃ s t : Cluster PageBytes,
    s.step twoWorkers (.toCoordinator 2) = some t ∧
      ((∀ n ∈ twoWorkers.nodes, n ≠ 2 → ((t.node n).mapping 0).isMapped = false) ∧
        (t.entry twoWorkers 0).holders ⊆ {2} ∧
          (2 = twoWorkers.coordinator → (s.entry twoWorkers 0).holders ⊆ {2}) ↔
        s.Meets twoWorkers 0 (PageState.FillsUnused twoWorkers) (.toCoordinator 2)) := by
  obtain ⟨s, run, enabled, serial, asked, zero⟩ := Runs.exists_run (Cluster.step twoWorkers)
    (Cluster.Meets twoWorkers 0 (PageState.Orderly twoWorkers)) (Cluster.initial twoWorkers)
    firstRead (fun s => (s.step twoWorkers (.toCoordinator 2)).isSome = true ∧
      s.Meets twoWorkers 0 (PageState.Serial twoWorkers) (.toCoordinator 2) ∧
      s.asks twoWorkers (.toCoordinator 2) = some ⟨0, 2, false⟩ ∧
      (s.pageState twoWorkers 0).ZeroServed twoWorkers 2 false) (by decide +kernel)
  obtain ⟨t, next⟩ := Option.isSome_iff_exists.mp enabled
  exact ⟨s, t, next, zero_page_unused_iff twoWorkers 0 (by decide) s t _ 2 run serial
    (zeroFills_of_asks (clusterOk_of_run run) asked zero next) next⟩

/-- Worker 2 has read page 0 and the read of worker 3 is on its way. -/
def secondRead : List (Event PageBytes) :=
  [.toCoordinator 2, .toCoordinator 3] ++ readMiss 2 0 ++ [.toCoordinator 2, .toWorker 2] ++
    readMiss 3 0

/-- The second reader of a page gets zeros although the first one has it mapped. -/
theorem zero_page_over_live_data : ¬ ∀ (T : Topology) (p : Nat), p < T.numPages →
    ∀ (s t : Cluster PageBytes) (e : Event PageBytes) (r : Nat),
    Runs.Run (Cluster.step T) (fun _ e => e.isEviction = false) (Cluster.initial T) s →
    e.isEviction = false → s.ZeroFills T p r e → s.step T e = some t →
    (∀ n ∈ T.nodes, n ≠ r → ((t.node n).mapping p).isMapped = false) ∧
      (t.entry T p).holders ⊆ {r} ∧ (r = T.coordinator → (s.entry T p).holders ⊆ {r}) := by
  intro claim
  obtain ⟨s, run, mapped, asked, zero⟩ := Runs.exists_run (Cluster.step twoWorkers)
    (fun _ e => e.isEviction = false) (Cluster.initial twoWorkers) secondRead
    (fun s => ((s.step twoWorkers (.toCoordinator 3)).any fun t =>
        ((t.node 2).mapping 0).isMapped) = true ∧
      s.asks twoWorkers (.toCoordinator 3) = some ⟨0, 3, false⟩ ∧
      (s.pageState twoWorkers 0).ZeroServed twoWorkers 3 false) (by decide +kernel)
  obtain ⟨t, next, mapped⟩ := (Option.any_eq_true _ _).mp mapped
  have fills := zeroFills_of_asks (clusterOk_of_run run) asked zero next
  have absent := (claim twoWorkers 0 (by decide) s t _ 3 run rfl fills next).1 2 (by decide)
    (by decide)
  rw [mapped] at absent
  cases absent

end TeleportVM
