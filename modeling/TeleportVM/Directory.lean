import TeleportVM.Lib.Bitmap

/-! The Global Page Directory: one MSI entry per page, and its two transitions. -/
namespace TeleportVM

inductive MsiState where
  | modified
  | shared
  | invalid
  deriving DecidableEq, Repr

structure GpdEntry where
  state : MsiState
  ownerNodeId : Nat
  sharedNodesBitmap : BitVec 64
  deriving DecidableEq, Repr

/-- `global_page_directory` with `gpd_num_pages`. -/
structure Directory where
  numPages : Nat
  entry : Nat → GpdEntry

/-- `1ULL << node`. -/
abbrev nodeBit (node : Nat) : BitVec 64 := Bitmap.bit 64 node

def gpdInit (totalPages : Nat) : Directory := ⟨totalPages, fun _ => ⟨.invalid, 0, 0⟩⟩

def gpdGetState (d : Directory) (pageIndex : Nat) : MsiState := (d.entry pageIndex).state
def gpdGetOwner (d : Directory) (pageIndex : Nat) : Nat := (d.entry pageIndex).ownerNodeId
def gpdGetSharedMask (d : Directory) (pageIndex : Nat) : BitVec 64 :=
  (d.entry pageIndex).sharedNodesBitmap

def Directory.setEntry (d : Directory) (pageIndex : Nat) (e : GpdEntry) : Directory :=
  { d with entry := Function.update d.entry pageIndex e }

/-- The entry stored by `gpd_transition_to_shared`. -/
def GpdEntry.toShared (e : GpdEntry) (readingNode : Nat) : GpdEntry :=
  if e.state = .modified then
    -- the owner becomes a sharer, and its bitmap of before is not read
    ⟨.shared, 0, nodeBit e.ownerNodeId ||| nodeBit readingNode⟩
  else
    ⟨.shared, 0, e.sharedNodesBitmap ||| nodeBit readingNode⟩

/-- The holders whose copies `gpd_transition_to_modified` reports for invalidation. -/
def GpdEntry.holdersMask (e : GpdEntry) : BitVec 64 :=
  match e.state with
  | .modified => if e.ownerNodeId ≠ 0 then nodeBit e.ownerNodeId else 0
  | .shared => e.sharedNodesBitmap
  | .invalid => 0

def GpdEntry.invalidateMask (e : GpdEntry) (writingNode : Nat) : BitVec 64 :=
  e.holdersMask &&& ~~~nodeBit writingNode

/-- The entry stored by `gpd_transition_to_modified`. -/
def GpdEntry.ownedBy (writingNode : Nat) : GpdEntry := ⟨.modified, writingNode, 0⟩

/-- Returns the previous owner; `none` is the `false` of an index out of range. -/
def gpdTransitionToShared (d : Directory) (pageIndex readingNode : Nat) :
    Option (Directory × Nat) :=
  if d.numPages ≤ pageIndex then none
  else
    let e := d.entry pageIndex
    some (d.setEntry pageIndex (e.toShared readingNode), e.ownerNodeId)

/-- Returns the invalidation mask; `none` is the `false` of an index out of range. -/
def gpdTransitionToModified (d : Directory) (pageIndex writingNode : Nat) :
    Option (Directory × BitVec 64) :=
  if d.numPages ≤ pageIndex then none
  else
    let e := d.entry pageIndex
    some (d.setEntry pageIndex (.ownedBy writingNode), e.invalidateMask writingNode)

/-! ## The set of holders an entry stands for -/

def GpdEntry.holders (e : GpdEntry) : Finset Nat :=
  match e.state with
  | .modified => {e.ownerNodeId}
  | .shared => Bitmap.members e.sharedNodesBitmap
  | .invalid => ∅

/-- A node identifier accepted by `main`. -/
def ValidNode (node : Nat) : Prop := 1 ≤ node ∧ node ≤ 63

instance (node : Nat) : Decidable (ValidNode node) := inferInstanceAs (Decidable (_ ∧ _))

/-- State, owner and bitmap agree on who holds the page. -/
def GpdEntry.WellFormed (e : GpdEntry) : Prop :=
  0 ∉ Bitmap.members e.sharedNodesBitmap ∧
    match e.state with
    | .modified => ValidNode e.ownerNodeId ∧ e.sharedNodesBitmap = 0
    | .shared => e.ownerNodeId = 0 ∧ e.sharedNodesBitmap ≠ 0
    | .invalid => e.ownerNodeId = 0 ∧ e.sharedNodesBitmap = 0

theorem ValidNode.lt {node : Nat} (valid : ValidNode node) : node < 64 := by
  have := valid.2; omega

theorem ValidNode.ne_zero {node : Nat} (valid : ValidNode node) : node ≠ 0 := by
  have := valid.1; omega

@[simp] theorem ownedBy_holders (node : Nat) : (GpdEntry.ownedBy node).holders = {node} := rfl

theorem invalid_holders (e : GpdEntry) (h : e.state = .invalid) : e.holders = ∅ := by
  simp [GpdEntry.holders, h]

theorem toShared_holders (e : GpdEntry) (wf : e.WellFormed) (node : Nat) (valid : ValidNode node) :
    (e.toShared node).holders = insert node e.holders := by
  obtain ⟨-, shape⟩ := wf
  cases h : e.state <;> simp only [h] at shape
  · simp [GpdEntry.toShared, GpdEntry.holders, h, Bitmap.members_bit _ shape.1.lt,
      Bitmap.members_bit _ valid.lt, Finset.pair_comm]
  · simp [GpdEntry.toShared, GpdEntry.holders, h, Bitmap.members_bit _ valid.lt]
  · simp [GpdEntry.toShared, GpdEntry.holders, h, shape.2, Bitmap.members_bit _ valid.lt]

theorem holdersMask_members (e : GpdEntry) (wf : e.WellFormed) :
    Bitmap.members e.holdersMask = e.holders := by
  obtain ⟨-, shape⟩ := wf
  cases h : e.state <;> simp only [h] at shape
  · simp [GpdEntry.holdersMask, GpdEntry.holders, h, shape.1.ne_zero,
      Bitmap.members_bit _ shape.1.lt]
  · simp [GpdEntry.holdersMask, GpdEntry.holders, h]
  · simp [GpdEntry.holdersMask, GpdEntry.holders, h]

theorem invalidateMask_members (e : GpdEntry) (wf : e.WellFormed) (node : Nat) :
    Bitmap.members (e.invalidateMask node) = e.holders.erase node := by
  rw [GpdEntry.invalidateMask, Bitmap.members_clear, holdersMask_members e wf]

end TeleportVM
