import Mathlib.Logic.Relation
import Mathlib.Data.List.Basic

/-!
Edge-triggered notification. A source is announced when work arrives at it, not while work is left:
a loop that waits for announcements has to work off what it finds, or to look again.
-/
namespace EdgeTriggered

variable {K : Type*} [DecidableEq K]

/-- The sources that are announced, those that the last wait returned and the loop has yet to turn
to, and the one that it has turned to. -/
structure Poll (K : Type*) where
  ready : List K
  taken : List K
  handling : Option K

namespace Poll

def trigger (p : Poll K) (k : K) : Poll K :=
  if k ∈ p.ready then p else { p with ready := p.ready ++ [k] }

/-- No source with work is overlooked. -/
def Watches (p : Poll K) (pending : K → Prop) : Prop :=
  ∀ k, pending k → k ∈ p.ready ∨ k ∈ p.taken ∨ p.handling = some k

/-- The loop waits, and nothing is announced. -/
def Asleep (p : Poll K) : Prop := p.ready = [] ∧ p.taken = [] ∧ p.handling = none

/-- What may happen between a loop and its sources of work. -/
inductive Move : Poll K × (K → Prop) → Poll K × (K → Prop) → Prop where
  | works {p : Poll K} {pending pending' : K → Prop} (fewer : ∀ k, pending' k → pending k) :
      Move (p, pending) (p, pending')
  | arrives {p : Poll K} {pending pending' : K → Prop} (k : K)
      (others : ∀ j, j ≠ k → pending' j → pending j) : Move (p, pending) (p.trigger k, pending')
  /-- A wait may drop announcements of sources without work. -/
  | waits {p : Poll K} {pending : K → Prop} (n : Nat) (taken : List K) (spent : p.taken = [])
      (kept : ∀ k ∈ p.ready.take n, pending k → k ∈ taken) :
      Move (p, pending) ({ p with ready := p.ready.drop n, taken := taken }, pending)
  | turns {p : Poll K} {pending : K → Prop} (k : K) (rest : List K) (next : p.taken = k :: rest)
      (free : p.handling = none) :
      Move (p, pending) ({ p with taken := rest, handling := some k }, pending)
  | finishes {p : Poll K} {pending : K → Prop} (done : ∀ k, p.handling = some k → ¬ pending k) :
      Move (p, pending) ({ p with handling := none }, pending)
  /-- Instead of working a source off the loop may have it announced again. -/
  | rearms {p : Poll K} {pending : K → Prop} (k : K) (handling : p.handling = some k) :
      Move (p, pending) ({ p.trigger k with handling := none }, pending)
  | withdraws {p : Poll K} {pending : K → Prop} (k : K) (done : ¬ pending k) :
      Move (p, pending) ({ p with ready := p.ready.filter (· ≠ k) }, pending)

abbrev Moves : Poll K × (K → Prop) → Poll K × (K → Prop) → Prop := Relation.ReflTransGen Move

variable {p p' : Poll K} {pending pending' : K → Prop}

theorem mem_trigger (k : K) : k ∈ (p.trigger k).ready := by
  unfold trigger
  split
  next announced => exact announced
  · simp

theorem mem_trigger_of_mem {j : K} (k : K) (announced : j ∈ p.ready) : j ∈ (p.trigger k).ready := by
  unfold trigger
  split
  · exact announced
  · exact List.mem_append_left _ announced

@[simp] theorem trigger_taken (k : K) : (p.trigger k).taken = p.taken := by
  unfold trigger
  split <;> rfl

@[simp] theorem trigger_handling (k : K) : (p.trigger k).handling = p.handling := by
  unfold trigger
  split <;> rfl

theorem trigger_with (p : Poll K) (k : K) (handling : Option K) :
    { p with handling := handling }.trigger k = { p.trigger k with handling := handling } := by
  unfold trigger
  dsimp only
  split <;> rfl

/-- What happens to all sources happens to some of them. -/
theorem Moves.among (among : K → Prop) (moves : Moves (p, pending) (p', pending')) :
    Moves (p, fun k => among k ∧ pending k) (p', fun k => among k ∧ pending' k) := by
  refine Relation.ReflTransGen.lift
    (fun q : Poll K × (K → Prop) => (q.1, fun k => among k ∧ q.2 k)) (fun a b move => ?_) _ _ moves
  cases move with
  | works fewer => exact .works fun k work => ⟨work.1, fewer k work.2⟩
  | arrives k others => exact .arrives k fun j apart work => ⟨work.1, others j apart work.2⟩
  | waits n taken spent kept =>
    exact .waits n taken spent fun k announced work => kept k announced work.2
  | turns k rest next free => exact .turns k rest next free
  | finishes done => exact .finishes fun k turned work => done k turned work.2
  | rearms k handling => exact .rearms k handling
  | withdraws k done => exact .withdraws k fun work => done work.2

omit [DecidableEq K] in
theorem Watches.asleep (watches : p.Watches pending) (asleep : p.Asleep) (k : K) : ¬ pending k := by
  obtain ⟨ready, taken, handling⟩ := asleep
  intro work
  rcases watches k work with announced | returned | turned
  · simp [ready] at announced
  · simp [taken] at returned
  · simp [handling] at turned

theorem Watches.move (watches : p.Watches pending) (move : Move (p, pending) (p', pending')) :
    p'.Watches pending' := by
  intro k work
  cases move with
  | works fewer => exact watches k (fewer k work)
  | arrives j others =>
    by_cases own : k = j
    · subst own
      exact Or.inl (mem_trigger k)
    · rcases watches k (others k own work) with announced | returned | turned
      · exact Or.inl (mem_trigger_of_mem j announced)
      · exact Or.inr (Or.inl (by rwa [trigger_taken]))
      · exact Or.inr (Or.inr (by rwa [trigger_handling]))
  | waits n taken spent kept =>
    rcases watches k work with announced | returned | turned
    · rw [← List.take_append_drop n p.ready] at announced
      rcases List.mem_append.mp announced with first | later
      · exact Or.inr (Or.inl (kept k first work))
      · exact Or.inl later
    · simp [spent] at returned
    · exact Or.inr (Or.inr turned)
  | turns j rest next free =>
    rcases watches k work with announced | returned | turned
    · exact Or.inl announced
    · rw [next] at returned
      rcases List.mem_cons.mp returned with rfl | later
      · exact Or.inr (Or.inr rfl)
      · exact Or.inr (Or.inl later)
    · cases free.symm.trans turned
  | finishes done =>
    rcases watches k work with announced | returned | turned
    · exact Or.inl announced
    · exact Or.inr (Or.inl returned)
    · exact absurd work (done k turned)
  | rearms j handling =>
    rcases watches k work with announced | returned | turned
    · exact Or.inl (mem_trigger_of_mem j announced)
    · exact Or.inr (Or.inl (by rwa [trigger_taken]))
    · cases handling.symm.trans turned
      exact Or.inl (mem_trigger k)
  | withdraws j done =>
    rcases watches k work with announced | returned | turned
    · refine Or.inl (List.mem_filter.mpr ⟨announced, ?_⟩)
      have other : k ≠ j := by
        rintro rfl
        exact done work
      simpa using other
    · exact Or.inr (Or.inl returned)
    · exact Or.inr (Or.inr turned)

theorem Watches.moves (watches : p.Watches pending) (moves : Moves (p, pending) (p', pending')) :
    p'.Watches pending' := by
  suffices kept : ∀ a b : Poll K × (K → Prop), Moves a b → a.1.Watches a.2 → b.1.Watches b.2 from
    kept _ _ moves watches
  intro a b moves
  induction moves with
  | refl => exact id
  | tail _ move ih => exact fun before => (ih before).move move

end Poll

end EdgeTriggered
