import TeleportVM.Directory

/-! The page directory refines a map from pages to sets of holders. -/
namespace TeleportVM

/-- A call of one of the two directory transitions. -/
inductive GpdCall where
  | toShared (pageIndex readingNode : Nat)
  | toModified (pageIndex writingNode : Nat)
  deriving DecidableEq, Repr

def GpdCall.node : GpdCall → Nat
  | .toShared _ node => node
  | .toModified _ node => node

/-- The directory after a call; a call that returns `false` leaves it as it was. -/
def Directory.call (d : Directory) : GpdCall → Directory
  | .toShared p r => ((gpdTransitionToShared d p r).map Prod.fst).getD d
  | .toModified p w => ((gpdTransitionToModified d p w).map Prod.fst).getD d

/-! ### The abstract directory: who holds each page -/

abbrev HolderMap := Nat → Finset Nat

/-- A reader joins the holders of a page; a writer replaces them. -/
def HolderMap.call (numPages : Nat) (m : HolderMap) : GpdCall → HolderMap
  | .toShared p r => if p < numPages then Function.update m p (insert r (m p)) else m
  | .toModified p w => if p < numPages then Function.update m p {w} else m

def Directory.holderMap (d : Directory) : HolderMap := fun p => (d.entry p).holders

/-- The owner that a `MODIFIED` entry names, and 0 for any other entry. -/
def GpdEntry.modifiedOwner (e : GpdEntry) : Nat :=
  match e.state with
  | .modified => e.ownerNodeId
  | _ => 0

/-! ### One call -/

theorem gpdTransitionToShared_eq (d : Directory) (p r : Nat) (inRange : p < d.numPages) :
    gpdTransitionToShared d p r =
      some (d.setEntry p ((d.entry p).toShared r), (d.entry p).ownerNodeId) := by
  simp [gpdTransitionToShared, Nat.not_le.mpr inRange]

theorem gpdTransitionToModified_eq (d : Directory) (p w : Nat) (inRange : p < d.numPages) :
    gpdTransitionToModified d p w =
      some (d.setEntry p (.ownedBy w), (d.entry p).invalidateMask w) := by
  simp [gpdTransitionToModified, Nat.not_le.mpr inRange]

theorem gpdTransition_out_of_range (d : Directory) (p node : Nat) (outside : d.numPages ≤ p) :
    gpdTransitionToShared d p node = none ∧ gpdTransitionToModified d p node = none := by
  simp [gpdTransitionToShared, gpdTransitionToModified, outside]

theorem zero_not_holder (e : GpdEntry) (wf : e.WellFormed) : 0 ∉ e.holders := by
  obtain ⟨unreserved, shape⟩ := wf
  cases h : e.state <;> simp only [h] at shape
  · simp only [GpdEntry.holders, h, Finset.mem_singleton]
    exact Ne.symm shape.1.ne_zero
  · simpa only [GpdEntry.holders, h] using unreserved
  · simp [GpdEntry.holders, h]

theorem toShared_wellFormed (e : GpdEntry) (wf : e.WellFormed) (node : Nat)
    (valid : ValidNode node) : (e.toShared node).WellFormed := by
  have present : node ∈ (e.toShared node).holders := by
    rw [toShared_holders e wf node valid]; exact Finset.mem_insert_self _ _
  have state : (e.toShared node).state = .shared := by unfold GpdEntry.toShared; split <;> rfl
  have owner : (e.toShared node).ownerNodeId = 0 := by unfold GpdEntry.toShared; split <;> rfl
  have same : (e.toShared node).holders = Bitmap.members (e.toShared node).sharedNodesBitmap := by
    simp only [GpdEntry.holders, state]
  refine ⟨?_, ?_⟩
  · -- bit 0 stays clear because neither an owner nor a reader is node 0
    rw [← same, toShared_holders e wf node valid, Finset.mem_insert, not_or]
    exact ⟨Ne.symm valid.ne_zero, zero_not_holder e wf⟩
  · simp only [state]
    refine ⟨owner, fun zero => ?_⟩
    rw [same, (Bitmap.members_eq_empty _).mpr zero] at present
    exact absurd present (Finset.notMem_empty _)

theorem ownedBy_wellFormed (node : Nat) (valid : ValidNode node) :
    (GpdEntry.ownedBy node).WellFormed :=
  ⟨by simp [GpdEntry.ownedBy], valid, rfl⟩

theorem gpdInit_wellFormed (totalPages p : Nat) : ((gpdInit totalPages).entry p).WellFormed :=
  ⟨by simp [gpdInit], rfl, rfl⟩

theorem modifiedOwner_eq (e : GpdEntry) (wf : e.WellFormed) : e.ownerNodeId = e.modifiedOwner := by
  obtain ⟨-, shape⟩ := wf
  cases h : e.state <;> simp only [h] at shape <;> simp [GpdEntry.modifiedOwner, h, shape.1]

@[simp] theorem setEntry_same (d : Directory) (p : Nat) (e : GpdEntry) :
    (d.setEntry p e).entry p = e := by simp [Directory.setEntry]

@[simp] theorem setEntry_other (d : Directory) {p q : Nat} (e : GpdEntry) (apart : q ≠ p) :
    (d.setEntry p e).entry q = d.entry q := by simp [Directory.setEntry, apart]

@[simp] theorem setEntry_numPages (d : Directory) (p : Nat) (e : GpdEntry) :
    (d.setEntry p e).numPages = d.numPages := rfl

/-- Every entry of the directory is well formed. -/
def Directory.WellFormed (d : Directory) : Prop := ∀ p, (d.entry p).WellFormed

theorem call_numPages (d : Directory) (c : GpdCall) : (d.call c).numPages = d.numPages := by
  cases c with
  | toShared p r =>
    by_cases inRange : p < d.numPages
    · simp [Directory.call, gpdTransitionToShared_eq d p r inRange]
    · simp [Directory.call, gpdTransition_out_of_range d p r (Nat.not_lt.mp inRange)]
  | toModified p w =>
    by_cases inRange : p < d.numPages
    · simp [Directory.call, gpdTransitionToModified_eq d p w inRange]
    · simp [Directory.call, gpdTransition_out_of_range d p w (Nat.not_lt.mp inRange)]

private theorem setEntry_wellFormed (d : Directory) (wf : d.WellFormed) (p : Nat) (e : GpdEntry)
    (entry : e.WellFormed) : (d.setEntry p e).WellFormed := by
  intro q
  by_cases same : q = p
  · subst q; simpa using entry
  · simpa [same] using wf q

private theorem setEntry_holderMap (d : Directory) (p : Nat) (e : GpdEntry) :
    (d.setEntry p e).holderMap = Function.update d.holderMap p e.holders := by
  funext q
  by_cases same : q = p
  · subst q; simp [Directory.holderMap]
  · simp [Directory.holderMap, same]

/-- One call keeps every entry well formed and acts on the holders as its abstraction does. -/
theorem call_refines (d : Directory) (wf : d.WellFormed) (c : GpdCall) (valid : ValidNode c.node) :
    (d.call c).WellFormed ∧ (d.call c).holderMap = d.holderMap.call d.numPages c := by
  cases c with
  | toShared p r =>
    by_cases inRange : p < d.numPages
    · simp only [Directory.call, gpdTransitionToShared_eq d p r inRange, Option.map_some,
        Option.getD_some, HolderMap.call, inRange, if_true]
      refine ⟨setEntry_wellFormed d wf p _ (toShared_wellFormed _ (wf p) r valid), ?_⟩
      rw [setEntry_holderMap, toShared_holders _ (wf p) r valid]
      rfl
    · simp only [Directory.call, HolderMap.call, inRange, if_false,
        gpdTransition_out_of_range d p r (Nat.not_lt.mp inRange), Option.map_none, Option.getD_none]
      exact ⟨wf, trivial⟩
  | toModified p w =>
    by_cases inRange : p < d.numPages
    · simp only [Directory.call, gpdTransitionToModified_eq d p w inRange, Option.map_some,
        Option.getD_some, HolderMap.call, inRange, if_true]
      refine ⟨setEntry_wellFormed d wf p _ (ownedBy_wellFormed w valid), ?_⟩
      rw [setEntry_holderMap, ownedBy_holders]
    · simp only [Directory.call, HolderMap.call, inRange, if_false,
        gpdTransition_out_of_range d p w (Nat.not_lt.mp inRange), Option.map_none, Option.getD_none]
      exact ⟨wf, trivial⟩

/-- A run of calls refines the run of the abstract directory. -/
theorem calls_refine (d : Directory) (wf : d.WellFormed) (calls : List GpdCall)
    (valid : ∀ c ∈ calls, ValidNode c.node) :
    (calls.foldl Directory.call d).WellFormed ∧
      (calls.foldl Directory.call d).numPages = d.numPages ∧
      (calls.foldl Directory.call d).holderMap =
        calls.foldl (HolderMap.call d.numPages) d.holderMap := by
  induction calls generalizing d with
  | nil => exact ⟨wf, rfl, rfl⟩
  | cons c rest ih =>
    have step := call_refines d wf c (valid c (by simp))
    have tail := ih (d.call c) step.1 (fun c' h => valid c' (by simp [h]))
    rw [call_numPages, step.2] at tail
    simpa only [List.foldl_cons] using tail

/-! ### The refinement -/

/-- What one more call does to a directory whose entries are well formed. -/
structure RefinesHolders (d : Directory) : Prop where
  wellFormed : ∀ p, p < d.numPages → (d.entry p).WellFormed
  toShared : ∀ p r, p < d.numPages → ValidNode r →
    ∃ d', gpdTransitionToShared d p r = some (d', (d.entry p).modifiedOwner) ∧
      (d'.entry p).holders = insert r (d.entry p).holders ∧ ∀ q, q ≠ p → d'.entry q = d.entry q
  toModified : ∀ p w, p < d.numPages → ValidNode w →
    ∃ d' mask, gpdTransitionToModified d p w = some (d', mask) ∧
      (d'.entry p).holders = {w} ∧ Bitmap.members mask = (d.entry p).holders.erase w ∧
      ∀ q, q ≠ p → d'.entry q = d.entry q
  outOfRange : ∀ p node, d.numPages ≤ p →
    gpdTransitionToShared d p node = none ∧ gpdTransitionToModified d p node = none ∧
      d.call (.toShared p node) = d ∧ d.call (.toModified p node) = d

theorem refinesHolders_of_wellFormed (d : Directory) (wf : d.WellFormed) : RefinesHolders d where
  wellFormed p _ := wf p
  toShared p r inRange valid := by
    refine ⟨d.setEntry p ((d.entry p).toShared r), ?_, ?_, fun q apart => setEntry_other d _ apart⟩
    · rw [gpdTransitionToShared_eq d p r inRange, modifiedOwner_eq _ (wf p)]
    · rw [setEntry_same, toShared_holders _ (wf p) r valid]
  toModified p w inRange valid := by
    refine ⟨d.setEntry p (.ownedBy w), (d.entry p).invalidateMask w,
      gpdTransitionToModified_eq d p w inRange, ?_, invalidateMask_members _ (wf p) w,
      fun q apart => setEntry_other d _ apart⟩
    rw [setEntry_same, ownedBy_holders]
  outOfRange p node outside := by
    have none := gpdTransition_out_of_range d p node outside
    simp [Directory.call, none]

/-- After any calls on a fresh directory the entries are well formed, the holders are
those of the abstract directory after the same calls, and every further call acts on
the holders exactly as its abstraction does. -/
theorem directory_refines_holders (totalPages : Nat) (calls : List GpdCall)
    (valid : ∀ c ∈ calls, ValidNode c.node) :
    RefinesHolders (calls.foldl Directory.call (gpdInit totalPages)) ∧
      (calls.foldl Directory.call (gpdInit totalPages)).numPages = totalPages ∧
      (calls.foldl Directory.call (gpdInit totalPages)).holderMap =
        calls.foldl (HolderMap.call totalPages) (fun _ => ∅) := by
  have run := calls_refine (gpdInit totalPages) (gpdInit_wellFormed totalPages) calls valid
  exact ⟨refinesHolders_of_wellFormed _ run.1, run.2.1, run.2.2⟩

/-- Owner re-reading, a second reader, an upgrade and an index out of range. -/
theorem directory_refines_holders_upgrade :
    RefinesHolders ([.toModified 0 2, .toShared 0 2, .toShared 0 63, .toModified 0 63,
        .toModified 7 1].foldl Directory.call (gpdInit 4)) :=
  (directory_refines_holders 4
    [.toModified 0 2, .toShared 0 2, .toShared 0 63, .toModified 0 63, .toModified 7 1]
    (by decide)).1

end TeleportVM
