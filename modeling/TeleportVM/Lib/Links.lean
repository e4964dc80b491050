import Mathlib.Algebra.BigOperators.Group.Finset.Basic
import Mathlib.Algebra.BigOperators.Group.Finset.Piecewise
import Mathlib.Algebra.BigOperators.Ring.Finset

/-! Families of FIFO links, and how many messages of a kind are in flight on them. -/
namespace Links

variable {ι M : Type*} [DecidableEq ι]

/-! ### Messages on a link -/

section Members

variable {links : ι → List M} {i j : ι} {m : M}

/-- A message other than the one delivered stays on its link. -/
theorem mem_pop {head : M} {rest : List M} (first : links i = head :: rest) (other : m ≠ head)
    (found : m ∈ links j) : m ∈ Function.update links i rest j := by
  by_cases same : j = i
  · subst same
    rw [first] at found
    simpa using (List.mem_cons.mp found).resolve_left other
  · simpa [same] using found

theorem mem_of_pop {head : M} {rest : List M} (first : links i = head :: rest)
    (found : m ∈ Function.update links i rest j) : m ∈ links j := by
  by_cases same : j = i
  · subst same
    rw [Function.update_self] at found
    exact first ▸ List.mem_cons_of_mem _ found
  · simpa [same] using found

theorem mem_push {sent : M} (found : m ∈ links j) :
    m ∈ Function.update links i (links i ++ [sent]) j := by
  by_cases same : j = i
  · subst same; simp [found]
  · simpa [same] using found

end Members

/-! ### One message on each link of a set -/

section Each

variable {S : Finset ι} {i : ι} {m m' : M} {rest : List M}

def each (S : Finset ι) (m : M) (i : ι) : List M := if i ∈ S then [m] else []

theorem each_mem (member : i ∈ S) (m : M) : each S m i = [m] := if_pos member

theorem each_not_mem (outside : i ∉ S) (m : M) : each S m i = [] := if_neg outside

theorem each_empty (m m' : M) : each (∅ : Finset ι) m = each ∅ m' := rfl

theorem each_head (head : each S m i = m' :: rest) : i ∈ S ∧ m' = m ∧ rest = [] := by
  unfold each at head
  split at head
  next member =>
    cases head
    exact ⟨member, rfl, rfl⟩
  · cases head

theorem each_pop (S : Finset ι) (m : M) (i : ι) :
    Function.update (each S m) i [] = each (S.erase i) m := by
  funext j
  by_cases same : j = i
  · subst same
    simp [each]
  · simp [each, same]

theorem each_push (outside : i ∉ S) (m : M) :
    Function.update (each S m) i (each S m i ++ [m]) = each (insert i S) m := by
  funext j
  by_cases same : j = i
  · subst same
    simp [each, outside]
  · simp [each, same]

/-- The messages of one kind arrive on links that carry nothing. -/
theorem each_start (S : Finset ι) (m m' : M) :
    (fun i => if i ∈ S then each ∅ m' i ++ [m] else each ∅ m' i) = each S m := by
  funext i
  simp [each]

end Each

/-! ### Counting -/

variable (links : ι → List M) (kind : M → Bool) (S : Finset ι)

/-- The messages of a kind on the links of `S`. -/
def inFlight : Nat := ∑ i ∈ S, (links i).countP kind

variable {S}

theorem inFlight_update {i : ι} (member : i ∈ S) (queue : List M) :
    inFlight (Function.update links i queue) kind S + (links i).countP kind =
      inFlight links kind S + queue.countP kind := by
  have others : ∀ j ∈ S.erase i,
      (Function.update links i queue j).countP kind = (links j).countP kind := by
    intro j other
    rw [Function.update_of_ne (Finset.ne_of_mem_erase other)]
  simp only [inFlight]
  rw [← Finset.add_sum_erase S _ member, ← Finset.add_sum_erase S (fun j => (links j).countP kind) member,
    Finset.sum_congr rfl others, Function.update_self]
  omega

variable {links}

/-- Delivering the head of a link. -/
theorem inFlight_pop {i : ι} (member : i ∈ S) {m : M} {rest : List M} (head : links i = m :: rest) :
    inFlight (Function.update links i rest) kind S + (if kind m then 1 else 0) =
      inFlight links kind S := by
  have moved := inFlight_update links kind member rest
  rw [head, List.countP_cons] at moved
  omega

theorem inFlight_pop_counted {i : ι} (member : i ∈ S) {m : M} {rest : List M}
    (head : links i = m :: rest) (counted : kind m = true) :
    inFlight (Function.update links i rest) kind S + 1 = inFlight links kind S := by
  rw [← inFlight_pop kind member head, if_pos counted]

theorem inFlight_pop_other {i : ι} (member : i ∈ S) {m : M} {rest : List M}
    (head : links i = m :: rest) (other : kind m = false) :
    inFlight (Function.update links i rest) kind S = inFlight links kind S := by
  rw [← inFlight_pop kind member head, other, if_neg Bool.false_ne_true, Nat.add_zero]

variable {kind}

theorem inFlight_push {i : ι} (member : i ∈ S) (m : M) :
    inFlight (Function.update links i (links i ++ [m])) kind S =
      inFlight links kind S + (if kind m then 1 else 0) := by
  have moved := inFlight_update links kind member (links i ++ [m])
  rw [List.countP_append, List.countP_singleton] at moved
  omega

/-- The same as an update of one link, written as a choice. -/
theorem inFlight_post {i : ι} (member : i ∈ S) (m : M) :
    inFlight (fun j => if j = i then links j ++ [m] else links j) kind S =
      inFlight links kind S + (if kind m then 1 else 0) := by
  rw [← inFlight_push member m]
  congr 1
  funext j
  by_cases same : j = i
  · subst same; simp
  · simp [same]

/-- A message of another kind is not counted. -/
theorem inFlight_post_other {i : ι} {m : M} (other : kind m = false) :
    inFlight (fun j => if j = i then links j ++ [m] else links j) kind S = inFlight links kind S := by
  refine Finset.sum_congr rfl fun j _ => ?_
  dsimp only
  split
  · simp [other]
  · rfl

/-- One message to each of several links. -/
theorem inFlight_broadcast {targets : Finset ι} (inside : targets ⊆ S) (m : M) :
    inFlight (fun i => if i ∈ targets then links i ++ [m] else links i) kind S =
      inFlight links kind S + (if kind m then targets.card else 0) := by
  have each : ∀ i ∈ S, (if i ∈ targets then links i ++ [m] else links i).countP kind =
      (links i).countP kind + if i ∈ targets then (if kind m then 1 else 0) else 0 := by
    intro i _
    split
    · rw [List.countP_append, List.countP_singleton]
    · rfl
  unfold inFlight
  rw [Finset.sum_congr rfl each, Finset.sum_add_distrib, ← Finset.sum_filter,
    Finset.filter_mem_eq_inter, Finset.inter_eq_right.mpr inside]
  split <;> simp

omit [DecidableEq ι] in
theorem inFlight_eq_zero :
    inFlight links kind S = 0 ↔ ∀ i ∈ S, ∀ m ∈ links i, kind m = false := by
  simp [inFlight, Finset.sum_eq_zero_iff, List.countP_eq_zero]

omit [DecidableEq ι] in
theorem inFlight_pos {i : ι} (member : i ∈ S) {m : M} (present : m ∈ links i)
    (counted : kind m = true) : 0 < inFlight links kind S := by
  rw [Nat.pos_iff_ne_zero]
  intro zero
  rw [inFlight_eq_zero.mp zero i member m present] at counted
  cases counted

end Links
