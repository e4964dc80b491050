import TeleportVM.EngineTransaction

/-!
A page between two accesses, when nothing is going on about it: who has a copy, and what an access
that is carried out to its end leaves behind.
-/
namespace TeleportVM

open Links (each)

variable {Page : Type}

/-- The page-fault that node `n` takes on the page has been marked in its page table. -/
def PageState.faulted (v : PageState Page) (n : Nat) (isWrite : Bool) : PageState Page :=
  v.setStatus n (Node.faultStatus (v.status n) isWrite)

/-- No node but `n` has a copy. -/
def PageState.Alone (T : Topology) (n : Nat) (v : PageState Page) : Prop :=
  ∀ m ∈ T.nodes, m ≠ n → (v.mapping m).isMapped = false

instance (T : Topology) (n : Nat) (v : PageState Page) : Decidable (v.Alone T n) :=
  inferInstanceAs (Decidable (∀ m ∈ T.nodes, m ≠ n → _))

/-- A store of `n` without a page fault finds no other copy, and neither does a write fault of the
coordinator that nobody is asked for the page. -/
def PageState.WritesAlone (T : Topology) (n : Nat) (v : PageState Page) : Prop :=
  if (v.mapping n).isWritable = true then v.Alone T n
  else n = T.coordinator → (v.mapping n).isMapped = false → v.entry.Fetches n ∨ v.Alone T n

instance (T : Topology) (n : Nat) (v : PageState Page) : Decidable (v.WritesAlone T n) :=
  inferInstanceAs (Decidable (ite _ _ _))

/-- Where a load of `n` gets the page: from its own copy, from that of the coordinator or from the
owner. Otherwise it gets zeros, and then every copy is one of zeros. -/
def PageState.Sourced [Zero Page] (T : Topology) (n : Nat) (v : PageState Page) : Prop :=
  (v.mapping n).isMapped = true ∨ v.status T.coordinator = .valid ∨ v.entry.Fetches n ∨
    ∀ m ∈ T.nodes, ∀ page ∈ (v.mapping m).contents, page = 0

instance [Zero Page] [DecidableEq Page] (T : Topology) (n : Nat) (v : PageState Page) :
    Decidable (v.Sourced T n) :=
  inferInstanceAs (Decidable (_ ∨ _ ∨ _ ∨ ∀ m ∈ T.nodes, ∀ page ∈ (v.mapping m).contents, page = 0))

/-- The page holds `val`: its holders, as the directory lists them, are the nodes with a copy, and
every copy is up to date. -/
structure PageState.Coherent [Zero Page] (val : Page) (v : PageState Page) : Prop where
  silent : v.Silent
  free : v.slot.requesterNodeId = 0
  idle : v.slot.expectedAcks = 0
  contents : ∀ n, (v.mapping n).contents = if n ∈ v.entry.holders then some val else none
  status : ∀ n, v.status n = if n ∈ v.entry.holders then .valid else .empty
  unwritten : v.entry.holders = ∅ → val = 0

theorem PageOk.holder_mem {T : Topology} {v : PageState Page} (ok : PageOk T v) {n : Nat}
    (holder : n ∈ v.entry.holders) : n ∈ T.nodes := by
  rcases Finset.mem_insert.mp (ok.holders holder) with rfl | joined
  · exact T.coordinator_mem
  · exact T.worker_mem (ok.joined joined)

namespace PageState

variable [Zero Page] {T : Topology} {n : Nat} {isWrite : Bool} {val : Page}
  {v v' : PageState Page}

omit [Zero Page] in
@[simp] theorem faulted_entry : (v.faulted n isWrite).entry = v.entry := rfl

omit [Zero Page] in
@[simp] theorem faulted_mapping : (v.faulted n isWrite).mapping = v.mapping := rfl

omit [Zero Page] in
theorem faulted_status_other {m : Nat} (other : m ≠ n) :
    (v.faulted n isWrite).status m = v.status m := Function.update_of_ne other _ _

theorem coherent_initial : (initial : PageState Page).Coherent 0 where
  silent := ⟨fun _ => rfl, fun _ => rfl, fun _ => rfl⟩
  free := rfl
  idle := rfl
  contents _ := rfl
  status _ := rfl
  unwritten _ := rfl

namespace Coherent

variable (coherent : v.Coherent val)
include coherent

theorem join (w : Nat) : ({ v with joined := insert w v.joined } : PageState Page).Coherent val :=
  { coherent with silent := { coherent.silent with } }

theorem handle {label : PageLabel Page} (handles : label.Handles) (move : Move T v label v') :
    v'.Coherent val := by
  obtain ⟨w, rfl⟩ := coherent.silent.handle handles move
  exact coherent.join w

/-- A copy is the copy of a holder. -/
theorem isMapped_iff : (v.mapping n).isMapped = true ↔ n ∈ v.entry.holders := by
  rw [← Mapping.isSome_contents, coherent.contents]
  split <;> simp_all

theorem absent (unmapped : (v.mapping n).isMapped = false) : n ∉ v.entry.holders := by
  rw [← coherent.isMapped_iff, unmapped]
  nofun

theorem others (ok : PageOk T v) (alone : v.Alone T n) : v.entry.holders.erase n = ∅ := by
  rw [Finset.eq_empty_iff_forall_notMem]
  intro m member
  obtain ⟨apart, holder⟩ := Finset.mem_erase.mp member
  exact coherent.absent (alone m (ok.holder_mem holder) apart) holder

/-! ### An access that faults -/

theorem faulted_status (isWrite : Bool) :
    (v.faulted n isWrite).status n =
      if n ∈ v.entry.holders ∧ isWrite = true then .writePending else .pending := by
  simp only [faulted, setStatus_status, Function.update_self, coherent.status, Node.faultStatus]
  by_cases holder : n ∈ v.entry.holders <;> simp [holder]

/-- A request that the fault handler has queued is a request for a coherent page. -/
theorem asked (isWrite : Bool) (node : n ∈ T.nodes) (ok : PageOk T v)
    (denied : isWrite = true → (v.mapping n).isWritable = false ∧ v.WritesAlone T n) :
    Asked T n isWrite val (v.faulted n isWrite) where
  node := node
  seen m holder apart := by
    have holder : m ∈ v.entry.holders := holder
    have valid := coherent.status m
    have copy := coherent.contents m
    rw [if_pos holder] at valid copy
    exact ⟨(faulted_status_other apart).trans valid, copy⟩
  listed valid := by
    by_cases own : T.coordinator = n
    · rw [own, coherent.faulted_status] at valid
      split at valid <;> cases valid
    · rw [faulted_status_other own] at valid
      by_contra outside
      rw [coherent.status, if_neg (by exact outside)] at valid
      cases valid
  own _ := by
    rw [coherent.faulted_status]
    split
    next upgrade => exact ⟨nofun, fun _ => upgrade.2⟩
    next => exact ⟨nofun, nofun⟩
  spares own write absent alone := by
    -- a write fault on a page the coordinator has not mapped: it is no holder itself
    have outside : n ∉ v.entry.holders := by
      intro holder
      rw [coherent.faulted_status, if_pos ⟨holder, write⟩] at absent
      exact absent rfl
    have unmapped : (v.mapping n).isMapped = false := by
      rw [Bool.eq_false_iff]
      exact fun mapped => outside (coherent.isMapped_iff.mp mapped)
    obtain ⟨readOnly, spared⟩ := denied write
    unfold WritesAlone at spared
    rw [if_neg (by simp [readOnly])] at spared
    exact coherent.others ok ((spared own unmapped).resolve_left alone)

/-- The page once the fault handler has queued the request. -/
theorem queued (move : Move T v (.enqueue n isWrite) v') :
    Phase T n isWrite val (v.faulted n isWrite) (fun _ => []) (2 * v.entry.holders.card + 5) v' := by
  obtain rfl : v' = { v.faulted n isWrite with
      queued := Function.update v.queued n (v.queued n ++ [isWrite]) } := by
    cases move
    rfl
  refine .queued
    { entry := rfl
      own := rfl
      contents := by simp
      status := by simp
      queued := ?_
      up := funext coherent.silent.up
      down := funext coherent.silent.down } coherent.free coherent.idle
  rw [funext coherent.silent.queued]
  rfl

/-! ### An access carried out -/

/-- What a node is sent that reads a page it has not got. -/
theorem answer_eq (isWrite : Bool) (unmapped : (v.mapping n).isMapped = false) :
    (v.faulted n isWrite).answer T n val =
      if v.status T.coordinator = .valid ∨ v.entry.Fetches n then val else 0 := by
  have same : (v.faulted n isWrite).status T.coordinator = .valid ↔ v.status T.coordinator = .valid := by
    by_cases own : T.coordinator = n
    · have absent := coherent.absent unmapped
      rw [own, coherent.faulted_status, coherent.status]
      simp [absent]
    · rw [faulted_status_other own]
  unfold answer
  simp only [same]
  rfl

/-- It is sent the page exactly if there is a source for it. -/
theorem answer_iff (isWrite : Bool) (ok : PageOk T v) (unmapped : (v.mapping n).isMapped = false) :
    (v.faulted n isWrite).answer T n val = val ↔ v.Sourced T n := by
  rw [coherent.answer_eq isWrite unmapped]
  unfold Sourced
  rw [unmapped]
  split
  next source => simpa [or_assoc] using Or.inl source
  next zeros =>
    obtain ⟨invalid, unowned⟩ := not_or.mp zeros
    simp only [invalid, unowned, Bool.false_eq_true, false_or]
    constructor
    · rintro rfl m - page copy
      rw [coherent.contents] at copy
      split at copy
      · exact (Option.mem_some.mp copy).symm
      · cases copy
    · intro blank
      rcases v.entry.holders.eq_empty_or_nonempty with nobody | ⟨m, holder⟩
      · exact (coherent.unwritten nobody).symm
      · refine (blank m (ok.holder_mem holder) val ?_).symm
        rw [coherent.contents, if_pos holder]
        rfl

/-- What a load that faults finds. -/
theorem loaded (settled : Settled T n false val (v.faulted n false) (fun _ => []) v') :
    v'.mapping n = .readWrite ((v.faulted n false).answer T n val) := by
  have pending := coherent.faulted_status (n := n) false
  rw [if_neg (by simp)] at pending
  rw [settled.own]
  unfold accept
  rw [pending]
  simp

/-- A load with a source for the page leaves it as it is. -/
theorem load (ok : PageOk T v) (node : n ∈ T.nodes) (unmapped : (v.mapping n).isMapped = false)
    (sourced : v.Sourced T n)
    (settled : Settled T n false val (v.faulted n false) (fun _ => []) v') : v'.Coherent val := by
  have holders : v'.entry.holders = insert n v.entry.holders := by
    rw [settled.entry]
    exact toShared_holders _ ok.entry n (T.valid_of_mem node)
  refine ⟨settled.silent, settled.free, settled.idle, fun m => ?_, fun m => ?_, fun nobody => ?_⟩
  · rw [holders]
    by_cases own : m = n
    · subst own
      rw [coherent.loaded settled, (coherent.answer_iff false ok unmapped).mpr sourced,
        if_pos (Finset.mem_insert_self _ _)]
      rfl
    · rw [settled.contents m own]
      simpa [GpdEntry.dropped, own] using coherent.contents m
  · rw [settled.status m, holders]
    by_cases own : m = n
    · simp [own]
    · simpa [GpdEntry.dropped, own, faulted_status_other own] using coherent.status m
  · rw [holders] at nobody
    exact absurd nobody (Finset.insert_ne_empty _ _)

/-- After a write fault the page can be written to. -/
theorem writable
    (settled : Settled T n true val (v.faulted n true) (fun _ => []) v') :
    (v'.mapping n).isWritable = true := by
  have pending := coherent.faulted_status (n := n) true
  rw [settled.own]
  unfold accept
  rw [pending]
  by_cases holder : n ∈ v.entry.holders
  · rw [if_pos ⟨holder, rfl⟩]
    simp only [lift_mapping, Function.update_self, Mapping.isWritable_unprotect]
    exact coherent.isMapped_iff.mpr holder
  · rw [if_neg fun both => holder both.1]
    simp [Mapping.isWritable]

/-- A store after a write fault leaves the only copy. -/
theorem store_settled (settled : Settled T n true val (v.faulted n true) (fun _ => []) v')
    (contents : Page) : (v'.setMapping n (.readWrite contents)).Coherent contents := by
  have holders : v'.entry.holders = {n} := by
    rw [settled.entry]
    rfl
  -- a node that has dropped nothing had nothing
  have outside {m : Nat} (own : m ≠ n)
      (kept : m ∉ (v.faulted n true).entry.dropped n true) : m ∉ v.entry.holders := fun holder =>
    kept (Finset.mem_erase.mpr ⟨own, holder⟩)
  refine ⟨{ settled.silent with }, settled.free, settled.idle, fun m => ?_, fun m => ?_, fun nobody => ?_⟩
  · rw [setMapping_entry, holders]
    by_cases own : m = n
    · simp [own, Mapping.contents]
    · rw [setMapping_mapping, Function.update_of_ne own, settled.contents m own, faulted_mapping,
        coherent.contents, if_neg (mt Finset.mem_singleton.mp own)]
      split
      · rfl
      next kept => exact if_neg (outside own kept)
  · rw [setMapping_entry, setMapping_status, settled.status, holders]
    by_cases own : m = n
    · simp [own]
    · rw [if_neg own, faulted_status_other own, coherent.status, if_neg (mt Finset.mem_singleton.mp own)]
      split
      · rfl
      next kept => exact if_neg (outside own kept)
  · rw [setMapping_entry, holders] at nobody
    exact absurd nobody (Finset.singleton_ne_empty _)

/-- A store without a page fault, when there is no other copy. -/
theorem store_direct (ok : PageOk T v) (writable : (v.mapping n).isWritable = true)
    (alone : v.Alone T n) (contents : Page) :
    (v.setMapping n (.readWrite contents)).Coherent contents := by
  have holder := coherent.isMapped_iff.mp (Mapping.isMapped_of_isWritable writable)
  have others := coherent.others ok alone
  refine { coherent with
    silent := { coherent.silent with }
    contents := fun m => ?_
    unwritten := fun nobody => ?_ }
  · by_cases own : m = n
    · subst own
      simp [holder, Mapping.contents]
    · have outside : m ∉ v.entry.holders := fun other =>
        Finset.notMem_empty m (others ▸ Finset.mem_erase.mpr ⟨own, other⟩)
      have copy := coherent.contents m
      rw [if_neg outside] at copy
      simpa [own, outside] using copy
  · exact absurd holder (Finset.eq_empty_iff_forall_notMem.mp nobody n)

end Coherent

end PageState

end TeleportVM
