import Mathlib.Data.Finset.Filter
import Mathlib.Data.Finset.Range
import Mathlib.Data.Finset.Card
import Mathlib.Data.Finset.Insert
import Mathlib.Tactic.Tauto

/-! Fixed-width bit vectors read as finite sets of indices. -/
namespace Bitmap

variable {w : Nat}

/-- The mask with the single bit `i` set. -/
def bit (w i : Nat) : BitVec w := 1#w <<< i

def members (mask : BitVec w) : Finset Nat :=
  (Finset.range w).filter fun i => mask.getLsbD i

@[simp] theorem mem_members (mask : BitVec w) (i : Nat) :
    i ∈ members mask ↔ mask.getLsbD i = true := by
  simp only [members, Finset.mem_filter, Finset.mem_range, and_iff_right_iff_imp]
  exact BitVec.lt_of_getLsbD

theorem getLsbD_bit (i j : Nat) : (bit w i).getLsbD j = (decide (j < w) && decide (j = i)) := by
  simp only [bit, BitVec.getLsbD_shiftLeft, BitVec.getLsbD_one]
  by_cases small : j < w
  · rcases Nat.lt_trichotomy j i with below | rfl | above
    · simp [small, below, Nat.ne_of_lt below]
    · simp [small, Nat.zero_lt_of_lt small]
    · have apart : ¬ j < i := by omega
      have positive : j - i ≠ 0 := by omega
      simp [small, apart, positive, Nat.ne_of_gt above]
  · simp [small]

@[simp] theorem members_zero : members (0#w) = ∅ := by
  ext i; simp

theorem members_bit (i : Nat) (small : i < w) : members (bit w i) = {i} := by
  ext j
  simp only [mem_members, getLsbD_bit, Bool.and_eq_true, decide_eq_true_eq, Finset.mem_singleton]
  constructor
  · exact And.right
  · rintro rfl; exact ⟨small, rfl⟩

@[simp] theorem members_or (a b : BitVec w) : members (a ||| b) = members a ∪ members b := by
  ext i; simp

theorem getLsbD_clear (mask : BitVec w) (i j : Nat) :
    (mask &&& ~~~bit w i).getLsbD j = (mask.getLsbD j && decide (j ≠ i)) := by
  rw [BitVec.getLsbD_and, BitVec.getLsbD_not, getLsbD_bit]
  by_cases small : j < w
  · simp [small]
  · simp [BitVec.getLsbD_of_ge mask j (Nat.not_lt.mp small)]

/-- Clearing one bit removes one element. -/
@[simp] theorem members_clear (mask : BitVec w) (i : Nat) :
    members (mask &&& ~~~bit w i) = (members mask).erase i := by
  ext j
  rw [mem_members, getLsbD_clear, Bool.and_eq_true, decide_eq_true_eq, Finset.mem_erase, mem_members]
  exact and_comm

theorem members_eq_empty (mask : BitVec w) : members mask = ∅ ↔ mask = 0#w := by
  constructor
  · intro empty
    apply BitVec.eq_of_getLsbD_eq
    intro i _
    have absent : i ∉ members mask := by simp [empty]
    simpa using absent
  · rintro rfl; exact members_zero

/-- The low-to-high scan of a mask visits exactly its members, each once. -/
theorem mem_scan (mask : BitVec w) (keep : Nat → Bool) (i : Nat) :
    i ∈ (List.range w).filter (fun j => mask.getLsbD j && keep j) ↔
      i ∈ (members mask).filter (fun j => keep j) := by
  simp only [List.mem_filter, List.mem_range, Bool.and_eq_true, Finset.mem_filter, mem_members]
  constructor
  · exact And.right
  · rintro ⟨set, kept⟩; exact ⟨BitVec.lt_of_getLsbD set, set, kept⟩

theorem nodup_scan (keep : Nat → Bool) : ((List.range w).filter keep).Nodup :=
  List.nodup_range.filter keep

/-! ### Lists that scan a set -/

/-- A list that visits each member of a finite set once. -/
structure Enumerates (list : List Nat) (targets : Finset Nat) : Prop where
  unique : list.Nodup
  same : ∀ m, m ∈ list ↔ m ∈ targets

theorem Enumerates.length_eq {list : List Nat} {targets : Finset Nat}
    (listed : Enumerates list targets) : list.length = targets.card := by
  rw [← List.toFinset_card_of_nodup listed.unique]
  congr 1
  ext m
  rw [List.mem_toFinset, listed.same]

theorem Enumerates.length_pos {list : List Nat} {targets : Finset Nat}
    (listed : Enumerates list targets) : 0 < list.length ↔ targets ≠ ∅ := by
  rw [listed.length_eq, Finset.card_pos, Finset.nonempty_iff_ne_empty]

/-- A scan that also skips an element that is not there visits the same set. -/
theorem Enumerates.skip {list : List Nat} {r : Nat} {set other : Finset Nat}
    (listed : Enumerates list (set.erase r ∩ other)) :
    Enumerates (list.filter (· ≠ r)) (set.erase r ∩ other) where
  unique := listed.unique.filter _
  same m := by
    rw [List.mem_filter, listed.same]
    simp only [Finset.mem_inter, Finset.mem_erase, decide_eq_true_eq]
    tauto

end Bitmap
