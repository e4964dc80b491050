import Mathlib.Data.List.Basic
import Mathlib.Algebra.Order.Ring.Nat
import Mathlib.Tactic.Ring

/-!
Streams of fixed-size blocks: how a stream is cut into blocks, what one more chunk does to
the cut, and what a sender leaves on the stream when some of its blocks are incomplete.
-/
namespace Framing

variable {α : Type*} {n : Nat}

/-! ### Cutting a stream -/

/-- The complete blocks of `n` elements at the start of a stream. -/
def frames (n : Nat) (stream : List α) : List (List α) :=
  (List.range (stream.length / n)).map fun i => (stream.drop (i * n)).take n

/-- What is left of the stream after its complete blocks. -/
def leftover (n : Nat) (stream : List α) : List α := stream.drop (stream.length / n * n)

/-- A stream as whole blocks followed by less than a block. -/
structure Cut (n : Nat) (stream : List α) (blocks : List (List α)) (rest : List α) : Prop where
  whole : ∀ block ∈ blocks, block.length = n
  short : rest.length < n
  joined : stream = blocks.flatten ++ rest

theorem flatten_blocks (stream : List α) (k : Nat) (fits : k * n ≤ stream.length) :
    ((List.range k).map fun i => (stream.drop (i * n)).take n).flatten ++ stream.drop (k * n) =
      stream := by
  induction k with
  | zero => simp
  | succ k ih =>
    have next : (stream.drop (k * n)).take n ++ stream.drop ((k + 1) * n) = stream.drop (k * n) := by
      rw [Nat.succ_mul, ← List.drop_drop, List.take_append_drop]
    rw [List.range_succ, List.map_append, List.flatten_append, List.append_assoc]
    simp only [List.map_cons, List.map_nil, List.flatten_cons, List.flatten_nil, List.append_nil]
    rw [next]
    exact ih (by rw [Nat.succ_mul] at fits; omega)

theorem cut_frames (pos : 0 < n) (stream : List α) :
    Cut n stream (frames n stream) (leftover n stream) := by
  have fits : stream.length / n * n ≤ stream.length := Nat.div_mul_le_self _ _
  constructor
  · intro block member
    obtain ⟨i, bound, rfl⟩ := List.mem_map.mp member
    rw [List.mem_range] at bound
    have room : (i + 1) * n ≤ stream.length :=
      (Nat.mul_le_mul_right n bound).trans fits
    rw [Nat.succ_mul] at room
    simp only [List.length_take, List.length_drop]
    omega
  · have split := Nat.div_add_mod stream.length n
    have small := Nat.mod_lt stream.length pos
    rw [leftover, List.length_drop, Nat.mul_comm]
    omega
  · exact (flatten_blocks stream _ fits).symm

/-- There is one way to cut a stream. -/
theorem Cut.unique {stream rest rest' : List α} {blocks blocks' : List (List α)}
    (cut : Cut n stream blocks rest) (cut' : Cut n stream blocks' rest') :
    blocks = blocks' ∧ rest = rest' := by
  induction blocks generalizing stream blocks' with
  | nil =>
    cases blocks' with
    | nil =>
      have same := cut.joined.symm.trans cut'.joined
      simpa using same
    | cons block blocks' =>
      -- a whole block does not fit into the short rest
      have same := congrArg List.length (cut.joined.symm.trans cut'.joined)
      have whole := cut'.whole block List.mem_cons_self
      have short := cut.short
      simp only [List.flatten_nil, List.nil_append, List.flatten_cons, List.length_append] at same
      omega
  | cons block blocks ih =>
    cases blocks' with
    | nil =>
      have same := congrArg List.length (cut.joined.symm.trans cut'.joined)
      have whole := cut.whole block List.mem_cons_self
      have short := cut'.short
      simp only [List.flatten_nil, List.nil_append, List.flatten_cons, List.length_append] at same
      omega
    | cons block' blocks' =>
      have same := cut.joined.symm.trans cut'.joined
      simp only [List.flatten_cons, List.append_assoc] at same
      obtain ⟨rfl, tails⟩ := List.append_inj same
        ((cut.whole _ List.mem_cons_self).trans (cut'.whole _ List.mem_cons_self).symm)
      have tail : Cut n (blocks.flatten ++ rest) blocks rest :=
        ⟨fun b member => cut.whole b (List.mem_cons_of_mem _ member), cut.short, rfl⟩
      have tail' : Cut n (blocks.flatten ++ rest) blocks' rest' :=
        ⟨fun b member => cut'.whole b (List.mem_cons_of_mem _ member), cut'.short, tails⟩
      obtain ⟨rfl, rfl⟩ := ih tail tail'
      exact ⟨rfl, rfl⟩

theorem Cut.pos {stream rest : List α} {blocks : List (List α)} (cut : Cut n stream blocks rest) :
    0 < n := Nat.zero_lt_of_lt cut.short

theorem Cut.eq {stream rest : List α} {blocks : List (List α)} (cut : Cut n stream blocks rest) :
    frames n stream = blocks ∧ leftover n stream = rest :=
  (cut_frames cut.pos stream).unique cut

/-- A chunk that does not complete a block. -/
theorem append_short {stream chunk : List α} (short : (leftover n stream ++ chunk).length < n) :
    frames n (stream ++ chunk) = frames n stream ∧
      leftover n (stream ++ chunk) = leftover n stream ++ chunk := by
  have before := cut_frames (Nat.zero_lt_of_lt short) stream
  apply Cut.eq
  refine ⟨before.whole, short, ?_⟩
  rw [← List.append_assoc, ← before.joined]

/-- A chunk that completes a block and ends with it. -/
theorem append_full {stream chunk : List α} (pos : 0 < n)
    (full : (leftover n stream ++ chunk).length = n) :
    frames n (stream ++ chunk) = frames n stream ++ [leftover n stream ++ chunk] ∧
      leftover n (stream ++ chunk) = [] := by
  have before := cut_frames pos stream
  apply Cut.eq
  refine ⟨fun block member => ?_, pos, ?_⟩
  · rcases List.mem_append.mp member with old | new
    · exact before.whole block old
    · rw [List.mem_singleton.mp new]
      exact full
  · rw [List.flatten_append, List.append_nil, List.flatten_singleton, ← List.append_assoc,
      ← before.joined]

/-- What is read later adds blocks behind those already complete. -/
theorem frames_append (pos : 0 < n) (stream more : List α) :
    frames n (stream ++ more) = frames n stream ++ frames n (leftover n stream ++ more) := by
  have before := cut_frames pos stream
  have later := cut_frames pos (leftover n stream ++ more)
  have cut : Cut n (stream ++ more) (frames n stream ++ frames n (leftover n stream ++ more))
      (leftover n (leftover n stream ++ more)) := by
    refine ⟨fun block member => ?_, later.short, ?_⟩
    · rcases List.mem_append.mp member with old | new
      · exact before.whole block old
      · exact later.whole block new
    · rw [List.flatten_append, List.append_assoc, ← later.joined, ← List.append_assoc,
        ← before.joined]
  exact cut.eq.1

/-- Whole blocks are read back. -/
theorem frames_flatten (pos : 0 < n) {blocks : List (List α)}
    (whole : ∀ block ∈ blocks, block.length = n) : frames n blocks.flatten = blocks := by
  have cut : Cut n blocks.flatten blocks [] := ⟨whole, pos, (List.append_nil _).symm⟩
  exact cut.eq.1

theorem frames_nil : frames n ([] : List α) = [] ∧ leftover n ([] : List α) = [] := by
  simp [frames, leftover]

/-! ### Filling a buffer -/

/-- Write a chunk into a buffer from an offset on. -/
def overwrite (buffer : Fin n → α) (start : Nat) (chunk : List α) : Fin n → α := fun i =>
  if inside : start ≤ i ∧ i < start + chunk.length then chunk.get ⟨i - start, by omega⟩
  else buffer i

/-- The first elements of a buffer. -/
def filled (buffer : Fin n → α) (count : Nat) : List α := (List.ofFn buffer).take count

theorem filled_zero (buffer : Fin n → α) : filled buffer 0 = [] := List.take_zero

theorem filled_all (buffer : Fin n → α) : filled buffer n = List.ofFn buffer := by
  apply List.take_of_length_le
  rw [List.length_ofFn]

theorem filled_length (buffer : Fin n → α) {count : Nat} (inside : count ≤ n) :
    (filled buffer count).length = count := by
  simpa [filled] using inside

/-- A chunk written behind the first elements extends them. -/
theorem filled_overwrite (buffer : Fin n → α) (start : Nat) (chunk : List α)
    (fits : start + chunk.length ≤ n) :
    filled (overwrite buffer start chunk) (start + chunk.length) = filled buffer start ++ chunk := by
  have before := filled_length buffer (show start ≤ n by omega)
  apply List.ext_getElem
  · rw [filled_length _ fits, List.length_append, before]
  · intro i bound _
    rw [filled_length _ fits] at bound
    by_cases old : i < start
    · rw [List.getElem_append_left (by omega)]
      simp [filled, overwrite, Nat.not_le.mpr old]
    · rw [List.getElem_append_right (by omega)]
      simp [filled, overwrite, Nat.not_lt.mp old, bound, Nat.min_eq_left (show start ≤ n by omega)]

/-! ### What senders leave on a stream -/

/-- One attempt to send a block: the part of it that was put on the stream. -/
structure Transfer (α : Type*) where
  block : List α
  placed : List α

/-- Nothing or all of the block was put on the stream. -/
def Transfer.Clean (t : Transfer α) : Prop := t.placed = [] ∨ t.placed = t.block

instance [DecidableEq α] (t : Transfer α) : Decidable t.Clean := inferInstanceAs (Decidable (_ ∨ _))

/-- The attempt that put the first elements of the block on the stream. -/
def Transfer.upTo (block : List α) (count : Nat) : Transfer α := ⟨block, block.take count⟩

theorem Transfer.block_upTo (block : List α) (count : Nat) : (upTo block count).block = block := rfl

theorem Transfer.placed_upTo_prefix (block : List α) (count : Nat) :
    (upTo block count).placed <+: (upTo block count).block := List.take_prefix count block

theorem Transfer.placed_upTo_eq_nil {block : List α} (nonempty : 0 < block.length) (count : Nat) :
    (upTo block count).placed = [] ↔ count = 0 := by
  simp [upTo, List.take_eq_nil_iff, List.ne_nil_of_length_pos nonempty]

theorem Transfer.placed_upTo_eq_block (block : List α) (count : Nat) :
    (upTo block count).placed = (upTo block count).block ↔ block.length ≤ count := by
  constructor
  · intro whole
    have length := congrArg List.length whole
    simp only [upTo, List.length_take] at length
    omega
  · exact List.take_of_length_le

theorem Transfer.clean_upTo {block : List α} (nonempty : 0 < block.length) (count : Nat) :
    (upTo block count).Clean ↔ count = 0 ∨ block.length ≤ count := by
  rw [Clean, placed_upTo_eq_nil nonempty, placed_upTo_eq_block]

/-- What a list of attempts put on the stream, in order. -/
def placedBy (ts : List (Transfer α)) : List α := (ts.map Transfer.placed).flatten

/-- Complete blocks, then at most one incomplete block, and nothing after it. -/
def Untorn (ts : List (Transfer α)) : Prop :=
  ∃ before last after, ts = before ++ last ++ after ∧ (∀ t ∈ before, t.Clean) ∧
    last.length ≤ 1 ∧ ∀ t ∈ after, t.placed = []

theorem untorn_iff_pairwise (ts : List (Transfer α)) :
    Untorn ts ↔ ts.Pairwise fun t u => ¬ t.Clean → u.placed = [] := by
  constructor
  · rintro ⟨before, last, after, rfl, clean, single, silent⟩
    have one : last.Pairwise fun t u : Transfer α => ¬ t.Clean → u.placed = [] := by
      match last with
      | [] => exact .nil
      | [t] => exact List.pairwise_singleton _ t
    refine List.pairwise_append.mpr ⟨List.pairwise_append.mpr ⟨?_, one, ?_⟩, ?_, ?_⟩
    · exact List.Pairwise.imp_of_mem (fun member _ _ torn => absurd (clean _ member) torn)
        (List.pairwise_of_forall fun _ _ => trivial : before.Pairwise fun _ _ => True)
    · exact fun t member _ _ torn => absurd (clean t member) torn
    · exact List.Pairwise.imp_of_mem (fun _ member _ _ => silent _ member)
        (List.pairwise_of_forall fun _ _ => trivial : after.Pairwise fun _ _ => True)
    · exact fun _ _ u member _ => silent u member
  · intro pairwise
    induction ts with
    | nil => exact ⟨[], [], [], rfl, by simp, by simp, by simp⟩
    | cons t ts ih =>
      obtain ⟨first, rest⟩ := List.pairwise_cons.mp pairwise
      by_cases clean : t.Clean
      · obtain ⟨before, last, after, rfl, others, single, silent⟩ := ih rest
        exact ⟨t :: before, last, after, rfl, List.forall_mem_cons.mpr ⟨clean, others⟩, single, silent⟩
      · exact ⟨[], [t], ts, rfl, by simp, by simp, fun u member => first u member clean⟩

/-- The blocks that were put on the stream as a whole. -/
def completed [DecidableEq α] (ts : List (Transfer α)) : List (List α) :=
  (ts.filter fun t => t.placed = t.block).map Transfer.block

/-- The receiver of an untorn stream reads the completed blocks. -/
theorem frames_of_untorn [DecidableEq α] {ts : List (Transfer α)} (pos : 0 < n)
    (sizes : ∀ t ∈ ts, t.block.length = n ∧ t.placed <+: t.block) (untorn : Untorn ts) :
    frames n (placedBy ts) = completed ts := by
  rw [untorn_iff_pairwise] at untorn
  suffices cut : ∃ rest, Cut n (placedBy ts) (completed ts) rest from cut.choose_spec.eq.1
  induction ts with
  | nil => exact ⟨[], by simp [completed], pos, rfl⟩
  | cons t ts ih =>
    obtain ⟨first, others⟩ := List.pairwise_cons.mp untorn
    obtain ⟨size, part⟩ := sizes t List.mem_cons_self
    obtain ⟨rest, cut⟩ := ih (fun u member => sizes u (List.mem_cons_of_mem _ member)) others
    have joined : placedBy (t :: ts) = t.placed ++ placedBy ts := rfl
    by_cases whole : t.placed = t.block
    · refine ⟨rest, ?_, cut.short, ?_⟩
      · simp only [completed, List.filter_cons, whole, decide_true, if_true, List.map_cons]
        exact List.forall_mem_cons.mpr ⟨size, cut.whole⟩
      · rw [joined, cut.joined]
        simp [completed, whole]
    · have same : completed (t :: ts) = completed ts := by simp [completed, whole]
      by_cases none : t.placed = []
      · exact ⟨rest, by rw [same, joined, none]; exact cut⟩
      · -- an incomplete block: nothing follows it
        have silent : placedBy ts = [] := by
          rw [placedBy, List.flatten_eq_nil_iff]
          intro placed member
          obtain ⟨u, found, rfl⟩ := List.mem_map.mp member
          exact first u found fun clean => clean.elim none whole
        have empty : Cut n (placedBy ts) [] [] := ⟨by simp, pos, by simp [silent]⟩
        obtain ⟨nothing, -⟩ := cut.unique empty
        refine ⟨t.placed, ?_⟩
        rw [same, nothing, joined, silent, List.append_nil]
        refine ⟨by simp, ?_, rfl⟩
        have shorter := part.length_le
        have unequal : t.placed.length ≠ t.block.length := fun equal => whole (part.eq_of_length equal)
        omega

end Framing
