import Mathlib.Data.Nat.ModEq
import Mathlib.Logic.Function.Basic

/-! Positions on a ring of `n` cells, and the window of cells that a start and a size describe. -/
namespace Ring

variable {α : Type*} {n : Nat}

/-- The cell `k` steps after `start`. -/
def pos (n start k : Nat) : Nat := (start + k) % n

theorem pos_lt (positive : 0 < n) (start k : Nat) : pos n start k < n := Nat.mod_lt _ positive

theorem pos_zero {start : Nat} (inside : start < n) : pos n start 0 = start :=
  Nat.mod_eq_of_lt inside

theorem pos_succ (start k : Nat) : pos n ((start + 1) % n) k = pos n start (k + 1) := by
  unfold pos
  rw [Nat.mod_add_mod, Nat.add_assoc, Nat.add_comm 1 k]

/-- A whole turn. -/
theorem pos_self {start : Nat} (inside : start < n) : pos n start n = start := by
  unfold pos
  rw [Nat.add_mod_right, Nat.mod_eq_of_lt inside]

theorem pos_add_self (start k : Nat) : pos n start (k + n) = pos n start k := by
  unfold pos
  rw [← Nat.add_assoc, Nat.add_mod_right]

/-- One turn meets no cell twice. -/
theorem pos_inj {start j k : Nat} (first : j < n) (second : k < n)
    (same : pos n start j = pos n start k) : j = k := by
  have cancelled : Nat.ModEq n j k := Nat.ModEq.add_left_cancel' start same
  rw [Nat.ModEq, Nat.mod_eq_of_lt first, Nat.mod_eq_of_lt second] at cancelled
  exact cancelled

/-- One turn meets every cell. -/
theorem exists_pos {start i : Nat} (inside : start < n) (cell : i < n) :
    ∃ k < n, pos n start k = i := by
  by_cases ahead : start ≤ i
  · refine ⟨i - start, by omega, ?_⟩
    rw [pos, Nat.add_sub_cancel' ahead, Nat.mod_eq_of_lt cell]
  · refine ⟨n - start + i, by omega, ?_⟩
    rw [pos, show start + (n - start + i) = i + n by omega, Nat.add_mod_right,
      Nat.mod_eq_of_lt cell]

/-! ### Windows -/

/-- The contents of `size` cells from `start` on. -/
def window (data : Nat → α) (n start size : Nat) : List α :=
  (List.range size).map fun k => data (pos n start k)

variable (data : Nat → α)

@[simp] theorem window_zero (start : Nat) : window data n start 0 = [] := rfl

@[simp] theorem length_window (start size : Nat) : (window data n start size).length = size := by
  simp [window]

/-- Writing the cell behind a window that leaves room appends to it. -/
theorem window_push {start size : Nat} (room : size < n) (x : α) :
    window (Function.update data (pos n start size) x) n start (size + 1) =
      window data n start size ++ [x] := by
  unfold window
  rw [List.range_succ, List.map_append, List.map_singleton, Function.update_self]
  congr 1
  apply List.map_congr_left
  intro k member
  have earlier : k < size := List.mem_range.mp member
  rw [Function.update_of_ne]
  intro same
  exact absurd (pos_inj (Nat.lt_trans earlier room) room same) (Nat.ne_of_lt earlier)

/-- The first cell of a window, and the window behind it. -/
theorem window_pop {start : Nat} (inside : start < n) (size : Nat) :
    window data n start (size + 1) = data start :: window data n ((start + 1) % n) size := by
  unfold window
  rw [List.range_succ_eq_map, List.map_cons, List.map_map, pos_zero inside]
  congr 1
  apply List.map_congr_left
  intro k _
  rw [Function.comp_apply, ← pos_succ]

end Ring
