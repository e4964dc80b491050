import TeleportVM.Lib.Ring
import Mathlib.Data.Nat.Find

/-!
The second-chance clock over a ring of cells. The hand passes over a cell that was used recently,
which it marks as old, and over a free cell; it stops one past the first cell that is neither.
-/
namespace SecondChance

/-- The cells of a ring. -/
structure Cells (α : Type*) where
  recent : α → Bool
  occupied : α → Bool
  age : α → α
  recent_age : ∀ a, recent (age a) = false
  occupied_age : ∀ a, occupied (age a) = occupied a

namespace Cells

variable {α : Type*} (cells : Cells α)

/-- The cell after the hand passed over it. -/
def pass (a : α) : α := if cells.recent a then cells.age a else a

/-- The hand stops at this cell. -/
def Stops (a : α) : Prop := cells.recent a = false ∧ cells.occupied a = true

@[simp] theorem recent_pass (a : α) : cells.recent (cells.pass a) = false := by
  unfold pass
  split
  · exact cells.recent_age a
  next old => exact Bool.eq_false_iff.mpr old

@[simp] theorem occupied_pass (a : α) : cells.occupied (cells.pass a) = cells.occupied a := by
  unfold pass
  split
  · exact cells.occupied_age a
  · rfl

@[simp] theorem pass_pass (a : α) : cells.pass (cells.pass a) = cells.pass a := by
  conv_lhs => rw [pass, recent_pass]
  rfl

/-- A cell that the hand has passed over before stops it exactly if it is occupied. -/
theorem stops_pass (a : α) : cells.Stops (cells.pass a) ↔ cells.occupied a = true := by
  simp [Stops]

/-! ### The sweep -/

/-- At most `fuel` inspections: the ring, the hand, and the cell at which it stopped. -/
def sweep (n : Nat) : (Nat → α) → Nat → Nat → (Nat → α) × Nat × Option Nat
  | ring, hand, 0 => (ring, hand, none)
  | ring, hand, fuel + 1 =>
    if cells.recent (ring hand) then
      sweep n (Function.update ring hand (cells.age (ring hand))) ((hand + 1) % n) fuel
    else if cells.occupied (ring hand) then (ring, (hand + 1) % n, some hand)
    else sweep n ring ((hand + 1) % n) fuel

/-- The ring after the hand passed over `k` cells. -/
def passed (n : Nat) (ring : Nat → α) (hand k : Nat) : Nat → α :=
  fun i => if ∃ j < k, Ring.pos n hand j = i then cells.pass (ring i) else ring i

variable {n : Nat} {ring : Nat → α} {hand : Nat}

theorem passed_zero : cells.passed n ring hand 0 = ring := by
  funext i
  simp [passed]

theorem passed_succ (k : Nat) : cells.passed n ring hand (k + 1) =
    Function.update (cells.passed n ring hand k) (Ring.pos n hand k)
      (cells.pass (cells.passed n ring hand k (Ring.pos n hand k))) := by
  funext i
  by_cases here : i = Ring.pos n hand k
  · subst here
    have now : ∃ j < k + 1, Ring.pos n hand j = Ring.pos n hand k := ⟨k, Nat.lt_succ_self k, rfl⟩
    rw [Function.update_self, passed, if_pos now]
    -- a second visit finds the cell as the first one left it
    unfold passed
    split
    · rw [pass_pass]
    · rfl
  · rw [Function.update_of_ne here, passed, passed]
    refine if_congr ?_ rfl rfl
    constructor
    · rintro ⟨j, less, same⟩
      rcases Nat.lt_succ_iff_lt_or_eq.mp less with earlier | rfl
      · exact ⟨j, earlier, same⟩
      · exact absurd same.symm here
    · rintro ⟨j, less, same⟩
      exact ⟨j, Nat.lt_succ_of_lt less, same⟩

/-- A cell before the first visit. -/
theorem passed_ahead {j k : Nat} (order : k ≤ j) (turn : j < n) :
    cells.passed n ring hand k (Ring.pos n hand j) = ring (Ring.pos n hand j) := by
  apply if_neg
  rintro ⟨i, less, same⟩
  exact absurd (Ring.pos_inj (by omega) turn same) (by omega)

/-- A cell behind the hand. -/
theorem passed_behind {j k : Nat} (order : j < k) :
    cells.passed n ring hand k (Ring.pos n hand j) = cells.pass (ring (Ring.pos n hand j)) :=
  if_pos ⟨j, order, rfl⟩

theorem passed_turn (inside : hand < n) {k : Nat} (turn : n ≤ k) {i : Nat} (cell : i < n) :
    cells.passed n ring hand k i = cells.pass (ring i) := by
  obtain ⟨j, less, rfl⟩ := Ring.exists_pos inside cell
  exact cells.passed_behind (Nat.lt_of_lt_of_le less turn)

/-- One inspection of a cell at which the hand does not stop. -/
theorem sweep_pass (passes : ¬ cells.Stops (ring hand)) (fuel : Nat) :
    cells.sweep n ring hand (fuel + 1) =
      cells.sweep n (Function.update ring hand (cells.pass (ring hand))) ((hand + 1) % n) fuel := by
  rw [sweep, pass]
  split
  · rfl
  next old =>
    have free : cells.occupied (ring hand) = false :=
      Bool.eq_false_iff.mpr fun occupied => passes ⟨Bool.eq_false_iff.mpr old, occupied⟩
    rw [if_neg (Bool.eq_false_iff.mp free), Function.update_eq_self]

theorem sweep_stop (stops : cells.Stops (ring hand)) (fuel : Nat) :
    cells.sweep n ring hand (fuel + 1) = (ring, (hand + 1) % n, some hand) := by
  rw [sweep, if_neg (Bool.eq_false_iff.mp stops.1), if_pos stops.2]

/-- The hand passes over `k` cells in a row. -/
theorem sweep_skip (inside : hand < n) (k : Nat)
    (passes : ∀ j < k, ¬ cells.Stops (cells.passed n ring hand j (Ring.pos n hand j)))
    (fuel : Nat) : cells.sweep n ring hand (k + fuel) =
      cells.sweep n (cells.passed n ring hand k) (Ring.pos n hand k) fuel := by
  induction k generalizing fuel with
  | zero => rw [Nat.zero_add, passed_zero, Ring.pos_zero inside]
  | succ k ih =>
    have earlier := ih (fun j less => passes j (Nat.lt_succ_of_lt less)) (fuel + 1)
    rw [show k + 1 + fuel = k + (fuel + 1) by omega, earlier,
      sweep_pass cells (passes k (Nat.lt_succ_self k)), ← passed_succ]
    rw [show (Ring.pos n hand k + 1) % n = Ring.pos n hand (k + 1) by
      rw [Ring.pos, Nat.mod_add_mod, Ring.pos, Nat.add_assoc]]

/-- The hand stops at the first cell that it meets old and occupied. -/
theorem sweep_at (inside : hand < n) {k : Nat}
    (stops : cells.Stops (cells.passed n ring hand k (Ring.pos n hand k)))
    (passes : ∀ j < k, ¬ cells.Stops (cells.passed n ring hand j (Ring.pos n hand j)))
    {fuel : Nat} (enough : k < fuel) : cells.sweep n ring hand fuel =
      (cells.passed n ring hand k, Ring.pos n hand (k + 1), some (Ring.pos n hand k)) := by
  obtain ⟨rest, rfl⟩ := Nat.exists_eq_add_of_lt enough
  rw [Nat.add_assoc, sweep_skip cells inside k passes, sweep_stop cells stops, Ring.pos,
    Nat.mod_add_mod, Nat.add_assoc]
  rfl

/-- A sweep leaves every cell as it was or passed over. -/
theorem sweep_cell (n : Nat) (ring : Nat → α) (hand fuel : Nat) (i : Nat) :
    (cells.sweep n ring hand fuel).1 i = ring i ∨
      (cells.sweep n ring hand fuel).1 i = cells.pass (ring i) := by
  induction fuel generalizing ring hand with
  | zero => exact Or.inl rfl
  | succ fuel ih =>
    by_cases stops : cells.Stops (ring hand)
    · rw [sweep_stop cells stops]
      exact Or.inl rfl
    · rw [sweep_pass cells stops]
      by_cases here : i = hand
      · subst here
        right
        rcases ih (Function.update ring i (cells.pass (ring i))) ((i + 1) % n) with same | passed
        · rw [same, Function.update_self]
        · rw [passed, Function.update_self, pass_pass]
      · have other := ih (Function.update ring hand (cells.pass (ring hand))) ((hand + 1) % n)
        rwa [Function.update_of_ne here] at other

/-- The cell at which it stopped is occupied. -/
theorem sweep_stops (n : Nat) (ring : Nat → α) (hand fuel : Nat) :
    ∀ v ∈ (cells.sweep n ring hand fuel).2.2,
      cells.Stops ((cells.sweep n ring hand fuel).1 v) := by
  induction fuel generalizing ring hand with
  | zero => intro v found; cases found
  | succ fuel ih =>
    by_cases stops : cells.Stops (ring hand)
    · rw [sweep_stop cells stops]
      intro v found
      cases found
      exact stops
    · rw [sweep_pass cells stops]
      exact ih _ _

/-- The hand stays on the ring, and so does the cell at which it stopped. -/
theorem sweep_inside (inside : hand < n) (fuel : Nat) :
    (cells.sweep n ring hand fuel).2.1 < n ∧ ∀ v ∈ (cells.sweep n ring hand fuel).2.2, v < n := by
  induction fuel generalizing ring hand with
  | zero => exact ⟨inside, fun v found => by cases found⟩
  | succ fuel ih =>
    have next : (hand + 1) % n < n := Nat.mod_lt _ (Nat.zero_lt_of_lt inside)
    by_cases stops : cells.Stops (ring hand)
    · rw [sweep_stop cells stops]
      refine ⟨next, fun v found => ?_⟩
      cases found
      exact inside
    · rw [sweep_pass cells stops]
      exact ih next

/-! ### Which cell it is -/

/-- In the first turn the hand meets every cell as it was. -/
theorem stops_first {k : Nat} (turn : k < n) :
    cells.Stops (cells.passed n ring hand k (Ring.pos n hand k)) ↔
      cells.Stops (ring (Ring.pos n hand k)) := by
  rw [passed_ahead cells (Nat.le_refl k) turn]

/-- In the second turn every occupied cell stops it. -/
theorem stops_second (inside : hand < n) (d : Nat) :
    cells.Stops (cells.passed n ring hand (n + d) (Ring.pos n hand (n + d))) ↔
      cells.occupied (ring (Ring.pos n hand d)) = true := by
  have cell := Ring.pos_lt (Nat.zero_lt_of_lt inside) hand (n + d)
  rw [passed_turn cells inside (Nat.le_add_right n d) cell, stops_pass, Nat.add_comm n d,
    Ring.pos_add_self]

/-- After `k` inspections the hand is at the cell to choose: in the first turn the first one that
is old and occupied; when there is none, in the second turn the first one that is occupied. -/
inductive Chooses (n : Nat) (ring : Nat → α) (hand : Nat) : Nat → Prop where
  | first (k : Nat) (turn : k < n) (stops : cells.Stops (ring (Ring.pos n hand k)))
      (passes : ∀ j < k, ¬ cells.Stops (ring (Ring.pos n hand j))) : Chooses n ring hand k
  | second (d : Nat) (turn : d < n) (none : ∀ i < n, ¬ cells.Stops (ring i))
      (occupied : cells.occupied (ring (Ring.pos n hand d)) = true)
      (free : ∀ j < d, cells.occupied (ring (Ring.pos n hand j)) = false) :
      Chooses n ring hand (n + d)

theorem sweep_chooses (inside : hand < n) {k : Nat} (chooses : cells.Chooses n ring hand k) :
    cells.sweep n ring hand (n * 2) =
      (cells.passed n ring hand k, Ring.pos n hand (k + 1), some (Ring.pos n hand k)) := by
  cases chooses with
  | first _ turn stops passes =>
    apply sweep_at cells inside ((stops_first cells turn).mpr stops)
    · intro j less
      rw [stops_first cells (Nat.lt_trans less turn)]
      exact passes j less
    · omega
  | second d turn none occupied free =>
    apply sweep_at cells inside ((stops_second cells inside d).mpr occupied)
    · intro j less
      by_cases early : j < n
      · rw [stops_first cells early]
        exact none _ (Ring.pos_lt (Nat.zero_lt_of_lt inside) hand j)
      · obtain ⟨i, rfl⟩ := Nat.exists_eq_add_of_le (Nat.not_lt.mp early)
        rw [stops_second cells inside, free i (by omega)]
        exact Bool.false_ne_true
    · omega

/-- Two turns over free cells. -/
theorem sweep_free (inside : hand < n) (free : ∀ i < n, cells.occupied (ring i) = false) :
    cells.sweep n ring hand (n * 2) = (cells.passed n ring hand (n * 2), hand, none) := by
  have positive := Nat.zero_lt_of_lt inside
  have passes : ∀ j < n * 2, ¬ cells.Stops (cells.passed n ring hand j (Ring.pos n hand j)) := by
    intro j _ stops
    have occupied := stops.2
    unfold passed at occupied
    split at occupied
    · rw [occupied_pass, free _ (Ring.pos_lt positive hand j)] at occupied
      cases occupied
    · rw [free _ (Ring.pos_lt positive hand j)] at occupied
      cases occupied
  have skipped := sweep_skip cells inside (n * 2) passes 0
  rw [Nat.add_zero] at skipped
  rw [skipped, sweep, Nat.mul_two, Ring.pos_add_self, Ring.pos_self inside]

/-- The first number below a bound with a property. -/
theorem exists_first {p : Nat → Prop} {k : Nat} (holds : p k) : ∃ first ≤ k, p first ∧
    ∀ j < first, ¬ p j := by
  classical
  exact ⟨Nat.find ⟨k, holds⟩, Nat.find_min' _ holds, Nat.find_spec ⟨k, holds⟩,
    fun j less => Nat.find_min ⟨k, holds⟩ less⟩

/-- Some cell is chosen as soon as one is occupied. -/
theorem exists_chooses (inside : hand < n) {i : Nat} (cell : i < n)
    (occupied : cells.occupied (ring i) = true) : ∃ k, cells.Chooses n ring hand k := by
  by_cases some : ∃ i < n, cells.Stops (ring i)
  · obtain ⟨v, old, stops⟩ := some
    obtain ⟨k, turn, rfl⟩ := Ring.exists_pos inside old
    obtain ⟨first, before, stops, passes⟩ :=
      exists_first (p := fun k => cells.Stops (ring (Ring.pos n hand k))) stops
    exact ⟨first, .first first (Nat.lt_of_le_of_lt before turn) stops passes⟩
  · obtain ⟨k, turn, rfl⟩ := Ring.exists_pos inside cell
    obtain ⟨first, before, occupied, passes⟩ :=
      exists_first (p := fun k => cells.occupied (ring (Ring.pos n hand k)) = true) occupied
    refine ⟨n + first, .second first (Nat.lt_of_le_of_lt before turn) ?_ occupied ?_⟩
    · exact fun i cell stops => some ⟨i, cell, stops⟩
    · exact fun j less => Bool.eq_false_iff.mpr (passes j less)

end Cells

end SecondChance
