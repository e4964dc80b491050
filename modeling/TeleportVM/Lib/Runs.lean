import Mathlib.Logic.Relation
import Mathlib.Data.Set.Basic

/-! Runs of a labelled transition function whose steps all meet a condition. -/
namespace Runs

variable {σ ε : Type*} (step : σ → ε → Option σ) (allow : σ → ε → Prop)

/-- One step under the condition `allow` on the state before it and its label. -/
def Step (s t : σ) : Prop := ∃ e, allow s e ∧ step s e = some t

abbrev Run : σ → σ → Prop := Relation.ReflTransGen (Step step allow)

variable {step allow}

theorem Run.mono {allow' : σ → ε → Prop} (weaker : ∀ s e, allow s e → allow' s e) {s t : σ}
    (run : Run step allow s t) : Run step allow' s t := by
  induction run with
  | refl => exact .refl
  | tail _ last ih =>
    obtain ⟨e, allowed, next⟩ := last
    exact ih.tail ⟨e, weaker _ e allowed, next⟩

/-- What holds at the start and survives every allowed step holds at the end. -/
theorem Run.invariant {s t : σ} (run : Run step allow s t) (inv : σ → Prop) (initial : inv s)
    (preserved : ∀ a e b, inv a → allow a e → step a e = some b → inv b) : inv t := by
  induction run with
  | refl => exact initial
  | tail _ last ih =>
    obtain ⟨e, allowed, next⟩ := last
    exact preserved _ e _ ih allowed next

/-- Where each step is matched from related states by a run of another step function, so is a
run. -/
theorem Run.simulates {σ' ε' : Type*} {step' : σ' → ε' → Option σ'} {allow' : σ' → ε' → Prop}
    (related : σ → σ' → Prop)
    (matched : ∀ a a' e b, related a a' → allow a e → step a e = some b →
      ∃ b', Run step' allow' a' b' ∧ related b b')
    {s t : σ} {s' : σ'} (start : related s s') (run : Run step allow s t) :
    ∃ t', Run step' allow' s' t' ∧ related t t' := by
  induction run with
  | refl => exact ⟨s', .refl, start⟩
  | tail _ last ih =>
    obtain ⟨e, allowed, next⟩ := last
    obtain ⟨a', before, here⟩ := ih
    obtain ⟨b', more, there⟩ := matched _ a' e _ here allowed next
    exact ⟨b', before.trans more, there⟩

/-- A state that is not final has an allowed step to a state of a lower rank: so a run ends in a
final state. -/
theorem Run.complete (ranked : Nat → σ → Prop) (final : σ → Prop)
    (progress : ∀ rank s, ranked rank s → ¬ final s →
      ∃ e t lower, allow s e ∧ step s e = some t ∧ ranked lower t ∧ lower < rank)
    {rank : Nat} {s : σ} (start : ranked rank s) : ∃ t, Run step allow s t ∧ final t := by
  induction rank using Nat.strong_induction_on generalizing s with
  | _ rank ih =>
    by_cases done : final s
    · exact ⟨s, .refl, done⟩
    · obtain ⟨e, t, lower, allowed, next, ranked, less⟩ := progress rank s start done
      obtain ⟨u, run, final⟩ := ih lower less ranked
      exact ⟨u, .head ⟨e, allowed, next⟩ run, final⟩

/-- Whatever allowed steps are taken, the run comes to a goal, and before it only to states that
wait for it. -/
inductive Inevitable (step : σ → ε → Option σ) (allow : σ → ε → Prop) (waits goal : σ → Prop) :
    σ → Prop
  | reached {s : σ} (here : goal s) : Inevitable step allow waits goal s
  | later {s : σ} (waiting : waits s) (moves : ∃ t, Step step allow s t)
      (next : ∀ t, Step step allow s t → Inevitable step allow waits goal t) :
      Inevitable step allow waits goal s

variable {waits goal : σ → Prop}

/-- States that no step leaves, and without a goal among them. -/
theorem Inevitable.not_trapped (trap : σ → Prop) (apart : ∀ s, trap s → ¬ goal s)
    (stays : ∀ s t, trap s → Step step allow s t → trap t) {s : σ}
    (inevitable : Inevitable step allow waits goal s) : ¬ trap s := by
  induction inevitable with
  | reached here => exact fun trapped => apart _ trapped here
  | later _ moves _ ih =>
    intro trapped
    obtain ⟨t, moved⟩ := moves
    exact ih t moved (stays _ t trapped moved)

/-- A run that has not come to a goal yet will. -/
theorem Inevitable.along {s t : σ} (inevitable : Inevitable step allow waits goal s)
    (run : Run step (fun s e => allow s e ∧ ¬ goal s) s t) : Inevitable step allow waits goal t := by
  induction run with
  | refl => exact inevitable
  | tail _ last ih =>
    obtain ⟨e, ⟨allowed, missed⟩, moved⟩ := last
    cases ih with
    | reached here => exact absurd here missed
    | later _ _ next => exact next _ ⟨e, allowed, moved⟩

variable (step allow)

/-- Execute labels in order, stopping with `none` at one that is disabled or not allowed. -/
def execIf [∀ s e, Decidable (allow s e)] : σ → List ε → Option σ
  | s, [] => some s
  | s, e :: es => if allow s e then (step s e).bind fun t => execIf t es else none

/-- Every step of the execution of these labels has the property. -/
def EveryStep (property : σ → ε → σ → Prop) : σ → List ε → Prop
  | _, [] => True
  | s, e :: es => ∀ t ∈ step s e, property s e t ∧ EveryStep property t es

instance decidableEveryStep {property : σ → ε → σ → Prop} [∀ s e t, Decidable (property s e t)] :
    ∀ s es, Decidable (EveryStep step property s es)
  | _, [] => isTrue trivial
  | s, e :: es =>
    have (t : σ) : Decidable (EveryStep step property t es) := decidableEveryStep t es
    inferInstanceAs (Decidable (∀ t ∈ step s e, property s e t ∧ EveryStep step property t es))

/-- Every label of the execution has the property at the state that it finds, up to the first one
that is disabled. -/
def AtEvery (property : σ → ε → Prop) : σ → List ε → Prop
  | _, [] => True
  | s, e :: es => property s e ∧ ∀ t ∈ step s e, AtEvery property t es

instance decidableAtEvery {property : σ → ε → Prop} [∀ s e, Decidable (property s e)] :
    ∀ s es, Decidable (AtEvery step property s es)
  | _, [] => isTrue trivial
  | s, e :: es =>
    have (t : σ) : Decidable (AtEvery step property t es) := decidableAtEvery t es
    inferInstanceAs (Decidable (property s e ∧ ∀ t ∈ step s e, AtEvery step property t es))

variable {step allow}

theorem run_of_execIf [∀ s e, Decidable (allow s e)] {s t : σ} {es : List ε}
    (executed : execIf step allow s es = some t) : Run step allow s t := by
  induction es generalizing s with
  | nil =>
    cases executed
    exact .refl
  | cons e es ih =>
    simp only [execIf] at executed
    split at executed
    next allowed =>
      obtain ⟨u, next, rest⟩ := Option.bind_eq_some_iff.mp executed
      exact Relation.ReflTransGen.head ⟨e, allowed, next⟩ (ih rest)
    · cases executed

/-- Every run is the execution of its labels. -/
theorem execIf_of_run [∀ s e, Decidable (allow s e)] {s t : σ} (run : Run step allow s t) :
    ∃ es, execIf step allow s es = some t := by
  induction run using Relation.ReflTransGen.head_induction_on with
  | refl => exact ⟨[], rfl⟩
  | head first _ ih =>
    obtain ⟨e, allowed, next⟩ := first
    obtain ⟨es, executed⟩ := ih
    exact ⟨e :: es, by simp only [execIf, allowed, if_true, next, Option.bind_some, executed]⟩

/-- When every step lowers a measure, an execution has no more steps than the measure allows. -/
theorem length_le_of_execIf [∀ s e, Decidable (allow s e)] (measure : σ → Nat) (inv : σ → Prop)
    (preserved : ∀ s e t, inv s → allow s e → step s e = some t → inv t)
    (lowers : ∀ s e t, inv s → allow s e → step s e = some t → measure t < measure s)
    {s t : σ} {es : List ε} (holds : inv s) (executed : execIf step allow s es = some t) :
    es.length + measure t ≤ measure s := by
  induction es generalizing s with
  | nil =>
    cases executed
    exact (Nat.zero_add _).le
  | cons e es ih =>
    simp only [execIf] at executed
    split at executed
    next allowed =>
      obtain ⟨u, next, rest⟩ := Option.bind_eq_some_iff.mp executed
      have fewer := ih (preserved s e u holds allowed next) rest
      have lower := lowers s e u holds allowed next
      rw [List.length_cons]
      omega
    · cases executed

/-- A list of labels that executes to a state with a property. -/
theorem exists_exec (step : σ → ε → Option σ) (allow : σ → ε → Prop)
    [∀ s e, Decidable (allow s e)] (s : σ) (es : List ε) (property : σ → Prop)
    [DecidablePred property]
    (executed : ((execIf step allow s es).any fun t => decide (property t)) = true) :
    ∃ t, execIf step allow s es = some t ∧ property t := by
  obtain ⟨t, final, holds⟩ := (Option.any_eq_true _ _).mp executed
  exact ⟨t, final, of_decide_eq_true holds⟩

theorem exists_run (step : σ → ε → Option σ) (allow : σ → ε → Prop)
    [∀ s e, Decidable (allow s e)] (s : σ) (es : List ε) (property : σ → Prop)
    [DecidablePred property]
    (executed : ((execIf step allow s es).any fun t => decide (property t)) = true) :
    ∃ t, Run step allow s t ∧ property t := by
  obtain ⟨t, final, holds⟩ := exists_exec step allow s es property executed
  exact ⟨t, run_of_execIf final, holds⟩

/-- The step after an execution all of whose steps have a property has it too. -/
theorem EveryStep.last [∀ s e, Decidable (allow s e)] {property : σ → ε → σ → Prop} {s t u : σ}
    {es : List ε} {e : ε} (every : EveryStep step property s (es ++ [e]))
    (executed : execIf step allow s es = some t) (next : step t e = some u) : property t e u := by
  induction es generalizing s with
  | nil =>
    cases executed
    exact (every u next).1
  | cons first es ih =>
    simp only [execIf] at executed
    split at executed
    · obtain ⟨v, enabled, rest⟩ := Option.bind_eq_some_iff.mp executed
      exact ih (every v enabled).2 rest
    · cases executed

/-- Two properties of steps that agree while an invariant holds, and keep it, agree on every
execution that starts with it. -/
theorem everyStep_iff_while (inv : σ → Prop) {p q : σ → ε → σ → Prop}
    (same : ∀ s e t, inv s → step s e = some t → (p s e t ↔ q s e t))
    (preserved : ∀ s e t, inv s → q s e t → step s e = some t → inv t)
    {s : σ} (initial : inv s) (es : List ε) : EveryStep step p s es ↔ EveryStep step q s es := by
  induction es generalizing s with
  | nil => exact Iff.rfl
  | cons e es ih =>
    simp only [EveryStep]
    refine forall_congr' fun t => imp_congr_right fun next => ?_
    have reached : step s e = some t := next
    rw [same s e t initial reached]
    exact and_congr_right fun holds => ih (preserved s e t initial holds reached)

/-- A property of single steps that depends on an invariant carries to executions. -/
theorem everyStep_iff (inv : σ → Prop) {p q : σ → ε → σ → Prop}
    (preserved : ∀ s e t, inv s → step s e = some t → inv t)
    (same : ∀ s e t, inv s → step s e = some t → (p s e t ↔ q s e t))
    {s : σ} (initial : inv s) (es : List ε) : EveryStep step p s es ↔ EveryStep step q s es :=
  everyStep_iff_while inv same (fun s e t holds _ next => preserved s e t holds next) initial es

theorem atEvery_congr {p q : σ → ε → Prop} (same : ∀ s e, p s e ↔ q s e) (s : σ) (es : List ε) :
    AtEvery step p s es ↔ AtEvery step q s es := by
  induction es generalizing s with
  | nil => exact Iff.rfl
  | cons e es ih => exact and_congr (same s e) (forall₂_congr fun t _ => ih t)

/-- Where a property enables each label, all of them are executed. -/
theorem AtEvery.executes {property : σ → ε → Prop}
    (enabled : ∀ s e, property s e → ∃ t, step s e = some t) {s : σ} {es : List ε}
    (every : AtEvery step property s es) : ∃ t, es.foldlM step s = some t := by
  induction es generalizing s with
  | nil => exact ⟨s, rfl⟩
  | cons e es ih =>
    obtain ⟨holds, rest⟩ := every
    obtain ⟨t, next⟩ := enabled s e holds
    obtain ⟨u, last⟩ := ih (rest t next)
    exact ⟨u, by rw [List.foldlM_cons, next]; exact last⟩

/-- What one step function can do from related states, the other one can over a whole sequence of
labels. -/
theorem foldlM_simulates {σ' : Type*} (related : σ → σ' → Prop) {f : σ → ε → Option σ}
    {g : σ' → ε → Option σ'}
    (simulates : ∀ s t e s', related s t → f s e = some s' → ∃ t', g t e = some t' ∧ related s' t')
    {es : List ε} {s s' : σ} {t : σ'} (start : related s t) (executed : es.foldlM f s = some s') :
    ∃ t', es.foldlM g t = some t' ∧ related s' t' := by
  induction es generalizing s t with
  | nil =>
    cases executed
    exact ⟨t, rfl, start⟩
  | cons e es ih =>
    rw [List.foldlM_cons] at executed
    obtain ⟨u, first, rest⟩ := Option.bind_eq_some_iff.mp executed
    obtain ⟨v, next, here⟩ := simulates s t e u start first
    obtain ⟨t', last, final⟩ := ih here rest
    exact ⟨t', by rw [List.foldlM_cons, next]; exact last, final⟩

end Runs
