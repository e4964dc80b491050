import TeleportVM.FaultHandler
import Mathlib.Data.BitVec

/-!
From the address of a fault to the index of its page. The source computes in 64-bit words, with
a mask built from the `int` 4096 whatever the page size, and returns an `int`.
-/
namespace TeleportVM

/-- `region_start`, `page_size` and `num_pages`, once `main` has mapped the region. -/
structure Region where
  regionStart : BitVec 64
  pageSize : BitVec 64
  numPages : BitVec 64
  -- `sysconf` gives the page size, and `mmap` aligns the region to it
  granular : 4096 ∣ pageSize.toNat
  powerOfTwo : ∃ k, pageSize.toNat = 2 ^ k
  aligned : pageSize.toNat ∣ regionStart.toNat
  fits : regionStart.toNat + numPages.toNat * pageSize.toNat ≤ 2 ^ 64
  countable : numPages.toNat < 2 ^ 31

/-- `page_base` of `fault_handler`: the mask is an `int`, extended to 64 bits with its sign. -/
def pageBase (faultAddress : BitVec 64) : BitVec 64 :=
  faultAddress &&& (~~~(4096#32 - 1#32)).signExtend 64

namespace Region

def getPageIndex (r : Region) (pageBase : BitVec 64) : BitVec 32 :=
  if pageBase < r.regionStart then -1#32
  else
    let offset := pageBase - r.regionStart
    let idx := offset / r.pageSize
    if idx < r.numPages then idx.setWidth 32 else -1#32

/-- `page_table[i].base_addr`, as `main` initialises it. -/
def baseAddr (r : Region) (i : Nat) : BitVec 64 := r.regionStart + BitVec.ofNat 64 i * r.pageSize

/-- The fault that `fault_handler` goes on with, if the address is in the region. -/
def decodeFault (r : Region) (faultAddress : BitVec 64) (isWrite : Bool) : Option PageRequest :=
  let idx := r.getPageIndex (pageBase faultAddress)
  if idx = -1#32 then none else some ⟨(idx.signExtend 64).toNat, isWrite⟩

/-- The address lies in the region. -/
def Contains (r : Region) (address : BitVec 64) : Prop :=
  r.regionStart.toNat ≤ address.toNat ∧
    address.toNat < r.regionStart.toNat + r.numPages.toNat * r.pageSize.toNat

end Region

/-! ### The steps of the computation -/

/-- The mask clears the last 12 bits and no others. -/
theorem pageBase_eq (address : BitVec 64) : pageBase address = (address >>> 12) <<< 12 := by
  have mask : (~~~(4096#32 - 1#32)).signExtend 64 = BitVec.allOnes 64 <<< 12 := by decide
  rw [pageBase, mask]
  apply BitVec.eq_of_getLsbD_eq
  intro i bound
  simp only [BitVec.getLsbD_and, BitVec.getLsbD_shiftLeft, BitVec.getLsbD_allOnes,
    BitVec.getLsbD_ushiftRight]
  by_cases low : i < 12
  · simp [low]
  · have high : i - 12 < 64 := by omega
    have back : 12 + (i - 12) = i := by omega
    simp [low, bound, high, back]

theorem pageBase_toNat (address : BitVec 64) :
    (pageBase address).toNat = address.toNat / 4096 * 4096 := by
  have bound := address.isLt
  rw [pageBase_eq, BitVec.toNat_shiftLeft, BitVec.toNat_ushiftRight, Nat.shiftLeft_eq,
    Nat.shiftRight_eq_div_pow, Nat.mod_eq_of_lt]
  · omega

namespace Region

variable (r : Region) (address : BitVec 64)

theorem pageSize_pos : 0 < r.pageSize.toNat := by
  obtain ⟨k, power⟩ := r.powerOfTwo
  rw [power]
  exact Nat.two_pow_pos k

theorem granular_start : 4096 ∣ r.regionStart.toNat := Nat.dvd_trans r.granular r.aligned

/-- Rounding down to 4096 does not move an address across the start of the region. -/
theorem pageBase_lt_start :
    pageBase address < r.regionStart ↔ address.toNat < r.regionStart.toNat := by
  obtain ⟨t, start⟩ := r.granular_start
  rw [BitVec.lt_def, pageBase_toNat, start]
  omega

theorem offset_toNat (inside : r.regionStart.toNat ≤ address.toNat) :
    (pageBase address - r.regionStart).toNat =
      (pageBase address).toNat - r.regionStart.toNat := by
  apply BitVec.toNat_sub_of_le
  rw [BitVec.le_def, ← Nat.not_lt, ← BitVec.lt_def, pageBase_lt_start]
  exact Nat.not_lt.mpr inside

/-- Nor does it move an address to another page. -/
theorem index_toNat (inside : r.regionStart.toNat ≤ address.toNat) :
    ((pageBase address - r.regionStart) / r.pageSize).toNat =
      (address.toNat - r.regionStart.toNat) / r.pageSize.toNat := by
  obtain ⟨t, start⟩ := r.granular_start
  obtain ⟨c, size⟩ := r.granular
  rw [BitVec.toNat_udiv, offset_toNat r address inside, pageBase_toNat, start, size]
  calc (address.toNat / 4096 * 4096 - 4096 * t) / (4096 * c)
      = 4096 * (address.toNat / 4096 - t) / (4096 * c) := by
        rw [Nat.mul_sub, Nat.mul_comm (address.toNat / 4096)]
    _ = (address.toNat / 4096 - t) / c := Nat.mul_div_mul_left _ _ (by decide)
    _ = (address.toNat - 4096 * t) / 4096 / c := by rw [Nat.sub_mul_div]
    _ = (address.toNat - 4096 * t) / (4096 * c) := Nat.div_div_eq_div_mul _ _ _

/-- An index of a page fits into an `int`. -/
theorem index_toInt {idx : BitVec 64} (inside : idx < r.numPages) :
    (idx.setWidth 32).toInt = idx.toNat := by
  have small : idx.toNat < 2 ^ 31 := Nat.lt_trans inside r.countable
  have width : (idx.setWidth 32).toNat = idx.toNat := by
    rw [BitVec.toNat_setWidth, Nat.mod_eq_of_lt (by omega)]
  rw [BitVec.toInt_eq_toNat_of_lt (by omega), width]

theorem mul_pageSize_lt {i : Nat} (inside : i < r.numPages.toNat) :
    r.regionStart.toNat + i * r.pageSize.toNat + r.pageSize.toNat ≤
      r.regionStart.toNat + r.numPages.toNat * r.pageSize.toNat := by
  have next := Nat.mul_le_mul_right r.pageSize.toNat (Nat.succ_le_of_lt inside)
  rw [Nat.succ_mul] at next
  omega

theorem baseAddr_toNat {i : Nat} (inside : i < r.numPages.toNat) :
    (BitVec.ofNat 64 i * r.pageSize).toNat = i * r.pageSize.toNat ∧
      (r.baseAddr i).toNat = r.regionStart.toNat + i * r.pageSize.toNat := by
  have last := r.mul_pageSize_lt inside
  have fits := r.fits
  have size := r.pageSize_pos
  have small : i < 2 ^ 64 := Nat.lt_trans inside r.numPages.isLt
  have product : (BitVec.ofNat 64 i * r.pageSize).toNat = i * r.pageSize.toNat := by
    rw [BitVec.toNat_mul, BitVec.toNat_ofNat, Nat.mod_eq_of_lt small, Nat.mod_eq_of_lt (by omega)]
  refine ⟨product, ?_⟩
  rw [baseAddr, BitVec.toNat_add, product, Nat.mod_eq_of_lt (by omega)]

/-! ### The index -/

/-- The comparison with `num_pages` tells whether the address lies before the end of the region. -/
theorem index_lt_iff (above : r.regionStart.toNat ≤ address.toNat) :
    (pageBase address - r.regionStart) / r.pageSize < r.numPages ↔ r.Contains address := by
  rw [BitVec.lt_def, index_toNat r address above, Nat.div_lt_iff_lt_mul r.pageSize_pos]
  unfold Contains
  omega

variable {r address}

theorem getPageIndex_inside (inside : r.Contains address) :
    (r.getPageIndex (pageBase address)).toInt =
      ((address.toNat - r.regionStart.toNat) / r.pageSize.toNat : Nat) := by
  have above : ¬ pageBase address < r.regionStart := by
    rw [pageBase_lt_start]
    exact Nat.not_lt.mpr inside.1
  have index := (r.index_lt_iff address inside.1).mpr inside
  unfold getPageIndex
  dsimp only
  rw [if_neg above, if_pos index, index_toInt r index, index_toNat r address inside.1]

theorem getPageIndex_outside (outside : ¬ r.Contains address) :
    r.getPageIndex (pageBase address) = -1#32 := by
  unfold getPageIndex
  dsimp only
  split
  · rfl
  next above =>
    rw [pageBase_lt_start, Nat.not_lt] at above
    rw [if_neg (mt (r.index_lt_iff address above).mp outside)]

/-- The pages tile the region. -/
theorem onPage_iff {i : Nat} :
    (i < r.numPages.toNat ∧ (r.baseAddr i).toNat ≤ address.toNat ∧
      address.toNat < (r.baseAddr i).toNat + r.pageSize.toNat) ↔
    r.Contains address ∧ (address.toNat - r.regionStart.toNat) / r.pageSize.toNat = i := by
  have size := r.pageSize_pos
  constructor
  · rintro ⟨inside, low, high⟩
    have last := r.mul_pageSize_lt inside
    rw [(r.baseAddr_toNat inside).2] at low high
    refine ⟨⟨by omega, by omega⟩, Nat.div_eq_of_lt_le (by omega) ?_⟩
    rw [Nat.succ_mul]
    omega
  · rintro ⟨⟨above, below⟩, rfl⟩
    have inside : (address.toNat - r.regionStart.toNat) / r.pageSize.toNat < r.numPages.toNat := by
      rw [Nat.div_lt_iff_lt_mul size]
      omega
    have low := Nat.div_mul_le_self (address.toNat - r.regionStart.toNat) r.pageSize.toNat
    have high := Nat.lt_div_mul_add (a := address.toNat - r.regionStart.toNat) size
    rw [(r.baseAddr_toNat inside).2]
    exact ⟨inside, by omega, by omega⟩

/-- No step of the computation wraps around or drops bits of its result. -/
structure Exact (r : Region) (address : BitVec 64) : Prop where
  mask : (pageBase address).toNat = address.toNat / 4096 * 4096
  offset : ¬ pageBase address < r.regionStart →
    ((pageBase address - r.regionStart).toNat : Int) =
      (pageBase address).toNat - r.regionStart.toNat
  index : ∀ idx < r.numPages, (idx.setWidth 32).toInt = idx.toNat
  base : ∀ i < r.numPages.toNat, (BitVec.ofNat 64 i * r.pageSize).toNat = i * r.pageSize.toNat ∧
    (r.baseAddr i).toNat = r.regionStart.toNat + i * r.pageSize.toNat

theorem exact (r : Region) (address : BitVec 64) : r.Exact address where
  mask := pageBase_toNat address
  offset above := by
    have low : r.regionStart.toNat ≤ (pageBase address).toNat := Nat.not_lt.mp above
    rw [pageBase_lt_start, Nat.not_lt] at above
    rw [offset_toNat r address above, Int.ofNat_sub low]
  index _ inside := r.index_toInt inside
  base _ inside := r.baseAddr_toNat inside

end Region

/-- A fault address is mapped to the index of the page that it lies on, and to -1 if it lies outside
of the region. -/
theorem fault_page (r : Region) (address : BitVec 64) :
    let index := (r.getPageIndex (pageBase address)).toInt
    (∀ i : Nat, index = i ↔ i < r.numPages.toNat ∧ (r.baseAddr i).toNat ≤ address.toNat ∧
      address.toNat < (r.baseAddr i).toNat + r.pageSize.toNat) ∧
    (index = -1 ↔ ¬ r.Contains address) ∧ r.Exact address := by
  have minus : (-1#32).toInt = -1 := by decide
  dsimp only
  refine ⟨fun i => ?_, ?_, r.exact address⟩
  · rw [Region.onPage_iff]
    by_cases inside : r.Contains address
    · rw [Region.getPageIndex_inside inside, Int.natCast_inj]
      exact (and_iff_right inside).symm
    · rw [Region.getPageIndex_outside inside, minus]
      exact iff_of_false (by omega) fun both => inside both.1
  · by_cases inside : r.Contains address
    · rw [Region.getPageIndex_inside inside]
      refine iff_of_false (ne_of_gt ?_) (not_not.mpr inside)
      exact Int.lt_of_lt_of_le (by decide) (Int.natCast_nonneg _)
    · rw [Region.getPageIndex_outside inside, minus]
      exact iff_of_true rfl inside

/-! ### Faults of the region -/

namespace Region

/-- The region of `main`: four pages of 4096 bytes. -/
def ofMain (regionStart : BitVec 64) (aligned : 4096 ∣ regionStart.toNat)
    (fits : regionStart.toNat + 4 * 4096 ≤ 2 ^ 64) : Region where
  regionStart := regionStart
  pageSize := 4096#64
  numPages := 16384#64 / 4096#64
  granular := by decide
  powerOfTwo := ⟨12, rfl⟩
  aligned := aligned
  fits := by
    have pages : (16384#64 / 4096#64).toNat = 4 := by decide
    rw [pages]
    exact fits
  countable := by decide

example : (ofMain 0x7f0000000000#64 (by decide) (by decide)).decodeFault 0x7f0000002abc#64 true =
    some ⟨2, true⟩ := by decide

/-- The fault handler goes on with the faults on the region's addresses, each with its page. -/
theorem decodeFault_eq_some_iff {r : Region} {address : BitVec 64} {isWrite : Bool}
    {fault : PageRequest} : r.decodeFault address isWrite = some fault ↔
      fault.isWrite = isWrite ∧ fault.pageIndex < r.numPages.toNat ∧
        (r.baseAddr fault.pageIndex).toNat ≤ address.toNat ∧
        address.toNat < (r.baseAddr fault.pageIndex).toNat + r.pageSize.toNat := by
  rw [onPage_iff]
  unfold decodeFault
  by_cases inside : r.Contains address
  · have index := getPageIndex_inside inside
    generalize (address.toNat - r.regionStart.toNat) / r.pageSize.toNat = page at index ⊢
    generalize r.getPageIndex (pageBase address) = idx at index ⊢
    -- the index is not negative, so the handler goes on and widens it without change
    have found : idx ≠ -1#32 := by
      rintro rfl
      exact absurd index (by simp)
    have wide : (idx.signExtend 64).toNat = page := by
      have extended := BitVec.toInt_signExtend_of_le (x := idx) (show 32 ≤ 64 by decide)
      have bound := (idx.signExtend 64).isLt
      rw [index, BitVec.toInt_eq_toNat_cond] at extended
      split at extended <;> omega
    rw [if_neg found, Option.some.injEq, wide]
    constructor
    · rintro rfl
      exact ⟨rfl, inside, rfl⟩
    · rintro ⟨rfl, -, rfl⟩
      rfl
  · simp [getPageIndex_outside inside, inside]

end Region

end TeleportVM
