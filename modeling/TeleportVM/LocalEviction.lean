import TeleportVM.Eviction
import TeleportVM.DirectoryRefinement
import TeleportVM.Lib.Runs

/-!
`set_local_msi_state` against the set of holders that an entry stands for. An eviction makes the
whole entry `INVALID` and takes only its own node out of owner and bitmap.
-/
namespace TeleportVM

/-- A transition of a directory, or the eviction of a page from this node. -/
inductive EntryCall where
  | gpd (c : GpdCall)
  | evict (pageIndex : Nat)

/-- A call on the directory of node `e`, with node ids that `main` accepts. -/
def Directory.entryStep (e : Nat) (d : Directory) : EntryCall → Option Directory
  | .gpd c => if ValidNode c.node then some (d.call c) else none
  | .evict p => some (d.setLocalMsiState e p .invalid)

/-- The eviction of page `p` from node `e` took away this one holder: the entry is in order, and
the next writer is still told of every other one. -/
structure Directory.RemovesHolder (e p : Nat) (d d' : Directory) : Prop where
  holders : (d'.entry p).holders = (d.entry p).holders.erase e
  wellFormed : (d'.entry p).WellFormed
  invalidates : ∀ w, ValidNode w → ∃ d'' mask, gpdTransitionToModified d' p w = some (d'', mask) ∧
    ((d.entry p).holders.erase e).erase w ⊆ Bitmap.members mask

/-- No other node holds page `p`. -/
def Directory.HeldAlone (e p : Nat) (d : Directory) : Prop := (d.entry p).holders ⊆ {e}

instance (e p : Nat) (d : Directory) : Decidable (d.HeldAlone e p) :=
  inferInstanceAs (Decidable ((d.entry p).holders ⊆ {e}))

def EntryCall.Removes (e : Nat) (d : Directory) : EntryCall → Directory → Prop
  | .evict p, d' => p < d.numPages → d.RemovesHolder e p d'
  | .gpd _, _ => True

def EntryCall.Alone (e : Nat) (d : Directory) : EntryCall → Prop
  | .evict p => p < d.numPages → d.HeldAlone e p
  | .gpd _ => True

/-! ### One eviction -/

/-- Whoever held the page, nobody does any more. -/
theorem setLocal_invalid_holders (entry : GpdEntry) (e : Nat) :
    (entry.setLocal e .invalid).holders = ∅ := rfl

theorem holders_ownedBy {entry : GpdEntry} (state : entry.state = .modified) :
    entry.holders = {entry.ownerNodeId} := by
  simp [GpdEntry.holders, state]

theorem holders_shared {entry : GpdEntry} (state : entry.state = .shared) :
    entry.holders = Bitmap.members entry.sharedNodesBitmap := by
  simp [GpdEntry.holders, state]

/-- Of an entry with this one holder, or none, nothing is left. -/
theorem setLocal_invalid_eq {entry : GpdEntry} (wf : entry.WellFormed) {e : Nat}
    (alone : entry.holders ⊆ {e}) : entry.setLocal e .invalid = ⟨.invalid, 0, 0⟩ := by
  have cleared (bitmap : BitVec 64) (members : Bitmap.members bitmap ⊆ {e}) :
      bitmap &&& ~~~nodeBit e = 0 := by
    apply (Bitmap.members_eq_empty _).mp
    rw [Bitmap.members_clear, Finset.erase_eq_empty_iff]
    exact Finset.subset_singleton_iff.mp members
  obtain ⟨-, shape⟩ := wf
  unfold GpdEntry.setLocal
  rw [if_pos rfl]
  cases state : entry.state with
  | modified =>
    simp only [state] at shape
    rw [holders_ownedBy state, Finset.singleton_subset_singleton] at alone
    rw [if_pos alone, shape.2, cleared 0 (by simp)]
  | shared =>
    simp only [state] at shape
    rw [holders_shared state] at alone
    rw [cleared _ alone, shape.1, ite_self]
  | invalid =>
    simp only [state] at shape
    rw [shape.1, shape.2, cleared 0 (by simp), ite_self]

theorem evict_entry {d : Directory} {p : Nat} (inRange : p < d.numPages) (e : Nat) :
    (d.setLocalMsiState e p .invalid).entry p = (d.entry p).setLocal e .invalid := by
  rw [Directory.setLocalMsiState, if_neg (Nat.not_le.mpr inRange), setEntry_same]

/-- An eviction takes away its own node alone exactly if there is no other holder. -/
theorem removesHolder_iff {d : Directory} (wf : d.WellFormed) (e : Nat) {p : Nat}
    (inRange : p < d.numPages) :
    d.RemovesHolder e p (d.setLocalMsiState e p .invalid) ↔ d.HeldAlone e p := by
  constructor
  · intro removes m holder
    by_contra other
    -- another holder has to be left, but the whole entry is `INVALID`
    have kept : m ∈ (d.entry p).holders.erase e :=
      Finset.mem_erase.mpr ⟨fun same => other (Finset.mem_singleton.mpr same), holder⟩
    rw [← removes.holders, evict_entry inRange, setLocal_invalid_holders] at kept
    exact absurd kept (Finset.notMem_empty m)
  · intro alone
    have left := setLocal_invalid_eq (wf p) alone
    have nobody : (d.entry p).holders.erase e = ∅ := by
      rw [Finset.erase_eq_empty_iff]
      exact Finset.subset_singleton_iff.mp alone
    refine ⟨?_, ?_, fun w _ => ?_⟩
    · rw [evict_entry inRange, setLocal_invalid_holders, nobody]
    · rw [evict_entry inRange, left]
      exact gpdInit_wellFormed 0 0
    · refine ⟨_, _, gpdTransitionToModified_eq _ p w ?_, ?_⟩
      · rw [Directory.setLocalMsiState, if_neg (Nat.not_le.mpr inRange)]
        exact inRange
      · rw [nobody, Finset.erase_empty]
        exact Finset.empty_subset _

theorem Directory.WellFormed.evict {d : Directory} (wf : d.WellFormed) (e : Nat) {p : Nat}
    (alone : p < d.numPages → d.HeldAlone e p) : (d.setLocalMsiState e p .invalid).WellFormed := by
  intro q
  by_cases inRange : p < d.numPages
  · by_cases own : q = p
    · subst own
      exact ((removesHolder_iff wf e inRange).mpr (alone inRange)).wellFormed
    · rw [Directory.setLocalMsiState, if_neg (Nat.not_le.mpr inRange), setEntry_other _ _ own]
      exact wf q
  · rw [Directory.setLocalMsiState, if_pos (Nat.not_lt.mp inRange)]
    exact wf q

/-! ### Sequences of calls -/

/-- In a sequence of calls on a fresh directory every eviction removes just this node's holding,
exactly if none meets a page that another node holds. -/
theorem eviction_removes_holder_iff (e totalPages : Nat) (calls : List EntryCall) :
    Runs.EveryStep (Directory.entryStep e) (fun d c d' => c.Removes e d d') (gpdInit totalPages)
        calls ↔
      Runs.EveryStep (Directory.entryStep e) (fun d c _ => c.Alone e d) (gpdInit totalPages)
        calls := by
  apply Runs.everyStep_iff_while Directory.WellFormed
  · intro d c d' wf next
    cases c with
    | gpd c => exact Iff.rfl
    | evict p =>
      cases next
      exact forall_congr' fun inRange => removesHolder_iff wf e inRange
  · intro d c d' wf alone next
    cases c with
    | gpd c =>
      simp only [Directory.entryStep] at next
      split at next
      next valid =>
        cases next
        exact (call_refines d wf c valid).1
      · cases next
    | evict p =>
      cases next
      exact wf.evict e alone
  · exact fun p => gpdInit_wellFormed totalPages p

/-- Nodes 2 and 3 share page 0, and node 2 evicts it: node 3 will not be invalidated. -/
theorem sharer_forgotten : ¬ ∀ (e totalPages : Nat) (calls : List EntryCall), ValidNode e →
    Runs.EveryStep (Directory.entryStep e) (fun d c d' => c.Removes e d d') (gpdInit totalPages)
      calls := by
  intro claim
  have every := claim 2 4 [.gpd (.toShared 0 2), .gpd (.toShared 0 3), .evict 0] (by decide)
  have removes := (((every _ rfl).2 _ rfl).2 _ rfl).1 (by decide)
  exact absurd removes.holders (by decide)

end TeleportVM
