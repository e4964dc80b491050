import TeleportVM.Wire
import TeleportVM.Lib.Runs

/-!
The command loop of the coherence test, on a region that behaves as plain memory. It means to be
an array with one 32-bit slot for each page; the bounds test and the address are computed in
64-bit words, and both wrap around.
-/
namespace TeleportVM

/-- `REGION_SIZE`. -/
abbrev regionSize : Nat := 4 * 4096

/-- What `sscanf` makes of a line: the number of its conversions, and their values or 0. -/
structure ParsedLine where
  conversions : Int
  cmd : String
  pageIdx : BitVec 64
  value : BitVec 64

namespace ParsedLine

/-- The line is a complete `WRITE`. -/
def IsWrite (line : ParsedLine) : Prop := line.cmd = "WRITE" ∧ 3 ≤ line.conversions

/-- The line is a complete `READ`. -/
def IsRead (line : ParsedLine) : Prop := line.cmd = "READ" ∧ 2 ≤ line.conversions

instance (line : ParsedLine) : Decidable line.IsWrite := inferInstanceAs (Decidable (_ ∧ _))

instance (line : ParsedLine) : Decidable line.IsRead := inferInstanceAs (Decidable (_ ∧ _))

end ParsedLine

/-- What the loop prints for a line. A `SLEEP` also passes a time to `usleep`. -/
inductive Reply where
  | writeOutOfRange (pageIdx : BitVec 64)
  | written (pageIdx : BitVec 64) (value : BitVec 32)
  | readOutOfRange (pageIdx : BitVec 64)
  | read (pageIdx : BitVec 64) (value : BitVec 32)
  | slept (ms : BitVec 64) (microseconds : BitVec 32)
  | done
  | unknownCommand (cmd : String)

def Reply.text : Reply → String
  | .writeOutOfRange pageIdx =>
    "RESULT WRITE page=" ++ toString pageIdx.toNat ++ " ERROR=out_of_range\n"
  | .written pageIdx value =>
    "RESULT WRITE page=" ++ toString pageIdx.toNat ++ " value=" ++ toString value.toNat ++ "\n"
  | .readOutOfRange pageIdx =>
    "RESULT READ page=" ++ toString pageIdx.toNat ++ " ERROR=out_of_range\n"
  | .read pageIdx value =>
    "RESULT READ page=" ++ toString pageIdx.toNat ++ " value=" ++ toString value.toNat ++ "\n"
  | .slept ms _ => "RESULT SLEEP ms=" ++ toString ms.toNat ++ "\n"
  | .done => "RESULT DONE\n"
  | .unknownCommand cmd => "RESULT ERROR unknown_command=" ++ cmd ++ "\n"

/-! ### The region -/

abbrev RegionBytes := Fin regionSize → UInt8

namespace RegionBytes

/-- Bytes of the region by their offset. -/
def byte (region : RegionBytes) (offset : Nat) : UInt8 :=
  if inside : offset < regionSize then region ⟨offset, inside⟩ else 0

/-- The 32-bit integer at an offset, in the byte order of the host. -/
def slot (region : RegionBytes) (offset : Nat) : BitVec 32 :=
  BitVec.ofNat 32 (readInteger region.byte offset 4)

def setSlot (region : RegionBytes) (offset : Nat) (value : BitVec 32) : RegionBytes := fun i =>
  if offset ≤ i ∧ i < offset + 4 then integerByte value.toNat (i - offset) else region i

/-- The region as `mmap` returns it. -/
def zeros : RegionBytes := fun _ => 0

theorem slot_zeros (offset : Nat) : zeros.slot offset = 0 := by
  have none : readInteger zeros.byte offset 4 = 0 := by
    refine Finset.sum_eq_zero fun i _ => ?_
    simp [byte, zeros]
  rw [slot, none]
  rfl

variable (region : RegionBytes) {offset : Nat} (value : BitVec 32)

theorem byte_setSlot {i : Nat} (inside : i < regionSize) : (region.setSlot offset value).byte i =
    if offset ≤ i ∧ i < offset + 4 then integerByte value.toNat (i - offset)
    else region.byte i := by
  simp only [byte, inside, dif_pos, setSlot]

theorem slot_setSlot (inside : offset + 4 ≤ regionSize) :
    (region.setSlot offset value).slot offset = value := by
  have stored : ∀ i < 4,
      (region.setSlot offset value).byte (offset + i) = integerByte value.toNat i := by
    intro i bound
    rw [byte_setSlot region value (by omega), if_pos (by omega), Nat.add_sub_cancel_left]
  rw [slot, readInteger_integerByte stored]
  apply BitVec.eq_of_toNat_eq
  have bound := value.isLt
  rw [BitVec.toNat_ofNat]
  omega

/-- A store leaves the slots that it does not overlap. -/
theorem slot_setSlot_apart {other : Nat} (apart : other + 4 ≤ offset ∨ offset + 4 ≤ other)
    (inside : other + 4 ≤ regionSize) :
    (region.setSlot offset value).slot other = region.slot other := by
  have same : ∀ i ∈ Finset.range 4,
      ((region.setSlot offset value).byte (other + i)).toNat * 256 ^ i =
        (region.byte (other + i)).toNat * 256 ^ i := by
    intro i bound
    have small := Finset.mem_range.mp bound
    rw [byte_setSlot region value (by omega), if_neg (by omega)]
  rw [slot, slot, readInteger, readInteger, Finset.sum_congr rfl same]

end RegionBytes

/-! ### The loop -/

/-- The region, what has been printed, and whether the loop has ended. -/
structure CoherenceTest where
  region : RegionBytes
  output : List String
  finished : Bool

/-- The bounds test. -/
def outOfRange (pageIdx : BitVec 64) : Bool :=
  decide (BitVec.ofNat 64 regionSize < pageIdx * 4096#64 + 4#64)

/-- Where `slot` points, from the start of the region. -/
def slotOffset (pageIdx : BitVec 64) : Nat := (pageIdx * 4096#64).toNat

namespace CoherenceTest

/-- The body of the loop: the region and the reply. -/
def execute (region : RegionBytes) (line : ParsedLine) : RegionBytes × Option Reply :=
  if line.conversions < 1 then (region, none)
  else if line.IsWrite then
    if outOfRange line.pageIdx then (region, some (.writeOutOfRange line.pageIdx))
    else
      let stored := region.setSlot (slotOffset line.pageIdx) (line.value.setWidth 32)
      (stored, some (.written line.pageIdx (stored.slot (slotOffset line.pageIdx))))
  else if line.IsRead then
    if outOfRange line.pageIdx then (region, some (.readOutOfRange line.pageIdx))
    else (region, some (.read line.pageIdx (region.slot (slotOffset line.pageIdx))))
  else if line.cmd = "SLEEP" ∧ 2 ≤ line.conversions then
    -- the first number is a time in milliseconds
    (region, some (.slept line.pageIdx (line.pageIdx.setWidth 32 * 1000)))
  else if line.cmd = "DONE" then (region, some .done)
  else (region, some (.unknownCommand line.cmd))

/-- One line; none is read after `DONE`. -/
def step (s : CoherenceTest) (line : ParsedLine) : Option CoherenceTest :=
  if s.finished then none
  else
    let result := execute s.region line
    some
      { region := result.1
        output := s.output ++ (result.2.map Reply.text).toList
        finished := result.2.any fun | .done => true | _ => false }

end CoherenceTest

/-! ### An array of slots -/

namespace ParsedLine

/-- The page has a slot in the region, in exact arithmetic. -/
def InRange (line : ParsedLine) : Prop := line.pageIdx.toNat * 4096 + 4 ≤ regionSize

instance (line : ParsedLine) : Decidable line.InRange := inferInstanceAs (Decidable (_ ≤ _))

/-- The page's address wraps around into the region. -/
def WrapsAround (line : ParsedLine) : Prop :=
  (line.IsWrite ∨ line.IsRead) ∧ 2 ^ 52 ≤ line.pageIdx.toNat ∧ line.pageIdx.toNat % 2 ^ 52 < 4

end ParsedLine

def Reply.isAccepted : Reply → Bool
  | .written .. | .read .. => true
  | _ => false

def Reply.isRejected : Reply → Bool
  | .writeOutOfRange _ | .readOutOfRange _ => true
  | _ => false

/-- The loop, with the value of the last accepted `WRITE` to each index, or 0. -/
structure TestSession where
  loop : CoherenceTest
  lastWritten : BitVec 64 → BitVec 32

namespace TestSession

def start : TestSession := ⟨⟨.zeros, [], false⟩, fun _ => 0⟩

/-- The reply to a line. -/
def reply (s : TestSession) (line : ParsedLine) : Option Reply :=
  (CoherenceTest.execute s.loop.region line).2

def step (s : TestSession) (line : ParsedLine) : Option TestSession :=
  (s.loop.step line).map fun loop =>
    { loop := loop
      lastWritten :=
        if line.IsWrite ∧ (s.reply line).any Reply.isAccepted then
          Function.update s.lastWritten line.pageIdx (line.value.setWidth 32)
        else s.lastWritten }

/-- The loop treats the line as an array of slots would. -/
structure Faithful (s : TestSession) (line : ParsedLine) (s' : TestSession) : Prop where
  accepts : line.IsWrite ∨ line.IsRead →
    ((s.reply line).any Reply.isAccepted = true ↔ line.InRange)
  reads : ∀ i v, s.reply line = some (.read i v) → v = s.lastWritten i
  rejects : (s.reply line).any Reply.isRejected = true → s'.loop.region = s.loop.region

/-- The slots hold what was written last. -/
def Holds (s : TestSession) : Prop :=
  ∀ i : BitVec 64, i.toNat < 4 → s.loop.region.slot (i.toNat * 4096) = s.lastWritten i

end TestSession

/-! ### The bounds test -/

/-- The product is taken modulo the 64-bit word. -/
theorem slotOffset_eq (pageIdx : BitVec 64) :
    slotOffset pageIdx = pageIdx.toNat % 2 ^ 52 * 4096 := by
  rw [slotOffset, BitVec.toNat_mul, BitVec.toNat_ofNat]
  omega

theorem outOfRange_iff (pageIdx : BitVec 64) :
    outOfRange pageIdx = false ↔ pageIdx.toNat % 2 ^ 52 < 4 := by
  have product := slotOffset_eq pageIdx
  have size : regionSize = 16384 := rfl
  rw [slotOffset] at product
  rw [outOfRange, decide_eq_false_iff_not, BitVec.lt_def, BitVec.toNat_add, product,
    BitVec.toNat_ofNat, BitVec.toNat_ofNat]
  omega

theorem inRange_iff (line : ParsedLine) : line.InRange ↔ line.pageIdx.toNat < 4 := by
  unfold ParsedLine.InRange regionSize
  omega

/-- The bounds test is exact for the addresses that do not wrap around. -/
theorem wrapsAround_iff {line : ParsedLine} (access : line.IsWrite ∨ line.IsRead) :
    (outOfRange line.pageIdx = false ↔ line.InRange) ↔ ¬ line.WrapsAround := by
  rw [outOfRange_iff, inRange_iff, ParsedLine.WrapsAround]
  simp only [access, true_and]
  omega

/-! ### One line -/

namespace CoherenceTest

variable (region : RegionBytes) {line : ParsedLine}

theorem execute_write (write : line.IsWrite) : execute region line =
    if outOfRange line.pageIdx then (region, some (.writeOutOfRange line.pageIdx))
    else (region.setSlot (slotOffset line.pageIdx) (line.value.setWidth 32),
      some (.written line.pageIdx (line.value.setWidth 32))) := by
  have complete : ¬ line.conversions < 1 := by have := write.2; omega
  unfold execute
  dsimp only
  rw [if_neg complete, if_pos write]
  split
  · rfl
  next inside =>
    have bound := (outOfRange_iff line.pageIdx).mp (Bool.eq_false_iff.mpr inside)
    have fits : slotOffset line.pageIdx + 4 ≤ regionSize := by
      rw [slotOffset_eq, regionSize]
      omega
    rw [RegionBytes.slot_setSlot region _ fits]

theorem execute_read (read : line.IsRead) : execute region line =
    if outOfRange line.pageIdx then (region, some (.readOutOfRange line.pageIdx))
    else (region, some (.read line.pageIdx (region.slot (slotOffset line.pageIdx)))) := by
  have complete : ¬ line.conversions < 1 := by have := read.2; omega
  have other : ¬ line.IsWrite := fun write => by
    have same := read.1.symm.trans write.1
    revert same
    decide
  unfold execute
  dsimp only
  rw [if_neg complete, if_neg other, if_pos read]

/-- Other lines leave the region alone, and are neither accepted nor rejected. -/
theorem execute_other (noWrite : ¬ line.IsWrite) (noRead : ¬ line.IsRead) :
    (execute region line).1 = region ∧ (execute region line).2.any Reply.isAccepted = false ∧
      (execute region line).2.any Reply.isRejected = false ∧
      ∀ i v, (execute region line).2 ≠ some (.read i v) := by
  unfold execute
  dsimp only
  rw [if_neg noWrite, if_neg noRead]
  repeat' split
  all_goals exact ⟨rfl, rfl, rfl, fun _ _ => by simp⟩

end CoherenceTest

namespace TestSession

variable {s s' : TestSession} {line : ParsedLine}

theorem step_cases (next : s.step line = some s') :
    s'.loop.region = (CoherenceTest.execute s.loop.region line).1 ∧
      s'.lastWritten = if line.IsWrite ∧ (s.reply line).any Reply.isAccepted = true then
        Function.update s.lastWritten line.pageIdx (line.value.setWidth 32) else s.lastWritten := by
  obtain ⟨loop, stepped, rfl⟩ := Option.map_eq_some_iff.mp next
  unfold CoherenceTest.step at stepped
  split at stepped
  · cases stepped
  · cases stepped
    exact ⟨rfl, rfl⟩

/-- A line that does not wrap around stores into the slot of its page, or stores nothing. -/
theorem Holds.step (holds : s.Holds) (straight : ¬ line.WrapsAround)
    (next : s.step line = some s') : s'.Holds := by
  obtain ⟨region, lastWritten⟩ := step_cases next
  intro i bound
  rw [region, lastWritten]
  by_cases write : line.IsWrite
  · rw [reply, CoherenceTest.execute_write _ write]
    cases out : outOfRange line.pageIdx with
    | true => simpa [Reply.isAccepted] using holds i bound
    | false =>
      have inRange := ((wrapsAround_iff (.inl write)).mpr straight).mp out
      rw [inRange_iff] at inRange
      have offset : slotOffset line.pageIdx = line.pageIdx.toNat * 4096 := by
        rw [slotOffset_eq, Nat.mod_eq_of_lt (by omega)]
      have size : regionSize = 16384 := rfl
      simp only [write, Option.any_some, Reply.isAccepted, Bool.false_eq_true, if_false, true_and,
        if_true, offset]
      -- slots of different pages are 4096 bytes apart, so a store changes one of them
      by_cases same : i = line.pageIdx
      · subst same
        rw [RegionBytes.slot_setSlot _ _ (by omega), Function.update_self]
      · have apart : i.toNat ≠ line.pageIdx.toNat := mt BitVec.eq_of_toNat_eq same
        rw [RegionBytes.slot_setSlot_apart _ _ (by omega) (by omega), Function.update_of_ne same]
        exact holds i bound
  · rw [if_neg fun both => write both.1]
    by_cases read : line.IsRead
    · rw [CoherenceTest.execute_read _ read]
      split <;> exact holds i bound
    · rw [(CoherenceTest.execute_other _ write read).1]
      exact holds i bound

theorem accepted_iff (access : line.IsWrite ∨ line.IsRead) :
    (s.reply line).any Reply.isAccepted = true ↔ outOfRange line.pageIdx = false := by
  rcases access with write | read
  · rw [reply, CoherenceTest.execute_write _ write]
    cases outOfRange line.pageIdx <;> simp [Reply.isAccepted]
  · rw [reply, CoherenceTest.execute_read _ read]
    cases outOfRange line.pageIdx <;> simp [Reply.isAccepted]

theorem rejects (next : s.step line = some s')
    (rejected : (s.reply line).any Reply.isRejected = true) : s'.loop.region = s.loop.region := by
  rw [(step_cases next).1]
  rw [reply] at rejected
  by_cases write : line.IsWrite
  · rw [CoherenceTest.execute_write _ write] at rejected ⊢
    cases out : outOfRange line.pageIdx with
    | true => rfl
    | false => simp [out, Reply.isRejected] at rejected
  · by_cases read : line.IsRead
    · rw [CoherenceTest.execute_read _ read]
      split <;> rfl
    · exact (CoherenceTest.execute_other _ write read).1

theorem reads (holds : s.Holds) (straight : ¬ line.WrapsAround) {i : BitVec 64} {v : BitVec 32}
    (replied : s.reply line = some (.read i v)) : v = s.lastWritten i := by
  rw [reply] at replied
  by_cases write : line.IsWrite
  · rw [CoherenceTest.execute_write _ write] at replied
    split at replied <;> cases replied
  · by_cases read : line.IsRead
    · rw [CoherenceTest.execute_read _ read] at replied
      split at replied
      · cases replied
      next inside =>
        cases replied
        -- the index itself is below 4, so the slot that is read is its own
        have exact_test := (wrapsAround_iff (.inr read)).mpr straight
        have inRange := exact_test.mp (Bool.eq_false_iff.mpr inside)
        rw [inRange_iff] at inRange
        rw [slotOffset_eq, Nat.mod_eq_of_lt (by omega)]
        exact holds line.pageIdx inRange
    · exact absurd replied ((CoherenceTest.execute_other _ write read).2.2.2 i v)

/-- A line is treated as an array of slots would treat it exactly if it does not wrap around. -/
theorem faithful_iff (holds : s.Holds) (next : s.step line = some s') :
    s.Faithful line s' ↔ ¬ line.WrapsAround := by
  constructor
  · intro faithful wraps
    have accepts := faithful.accepts wraps.1
    rw [accepted_iff wraps.1] at accepts
    exact (wrapsAround_iff wraps.1).mp accepts wraps
  · intro straight
    refine ⟨fun access => ?_, fun i v => reads holds straight, rejects next⟩
    rw [accepted_iff access]
    exact (wrapsAround_iff access).mpr straight

end TestSession

/-- The command loop is an array of slots, from the start on a zeroed region and for every sequence
of commands, if and only if no WRITE or READ has an index whose address wraps around into the
region. -/
theorem coherence_test_faithful_iff (lines : List ParsedLine) :
    Runs.EveryStep TestSession.step TestSession.Faithful .start lines ↔
      Runs.EveryStep TestSession.step (fun _ line _ => ¬ line.WrapsAround) .start lines := by
  apply Runs.everyStep_iff_while TestSession.Holds
  · intro s line s' holds next
    exact TestSession.faithful_iff holds next
  · intro s line s' holds straight next
    exact holds.step straight next
  · intro i _
    exact RegionBytes.slot_zeros _

/-- A WRITE to index 2^52 is accepted. -/
theorem wraps_into_page_zero : ¬ ∀ lines : List ParsedLine,
    Runs.EveryStep TestSession.step TestSession.Faithful .start lines := by
  intro claim
  obtain ⟨faithful, -⟩ := claim [⟨3, "WRITE", 4503599627370496#64, 7#64⟩] _ rfl
  exact absurd (faithful.accepts (by decide)) (by decide +kernel)

end TeleportVM
