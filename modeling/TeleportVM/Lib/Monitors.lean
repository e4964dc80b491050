import TeleportVM.Lib.Runs
import Mathlib.Logic.Function.Basic

/-!
Operations whose bodies run under the lock of what they work on, line by line, while other threads
run theirs. A proof outline, which says at each line what has become of the data since the lock was
taken, makes each operation atomic.
-/
namespace Monitors

/-- The operations `O` on data `D` under locks `K`: where the body of each starts, and what a line
does, which goes on to another line or ends with a result. -/
structure Monitor (K O L R D : Type*) where
  key : O → K
  first : O → L
  line : L → D → (L ⊕ R) × D

/-- Where a thread is: outside, in front of the lock, at a line of the body, or about to unlock. -/
inductive Phase (O L R : Type*) where
  | idle
  | waits (o : O)
  | inside (o : O) (l : L)
  | ends (o : O) (r : R)

/-- The data, who holds each lock, and the operations that have returned, in the order in which they
gave up their locks. -/
structure State (T K O L R D : Type*) where
  data : K → D
  holder : K → Option T
  phase : T → Phase O L R
  calls : List (O × R)

inductive Action (T O : Type*) where
  | call (t : T) (o : O)
  | acquire (t : T)
  | line (t : T)
  | release (t : T)

variable {T K O L R D : Type*} [DecidableEq T] [DecidableEq K]

def Phase.after (o : O) : L ⊕ R → Phase O L R := Sum.elim (.inside o) (.ends o)

/-- The thread is inside of the operation and has its lock. -/
def Phase.Holds (o : O) : Phase O L R → Prop
  | .inside o' _ | .ends o' _ => o' = o
  | .idle | .waits _ => False

omit [DecidableEq T] [DecidableEq K] in
theorem Phase.holds_after (o : O) (next : L ⊕ R) : (Phase.after o next).Holds o := by
  cases next <;> rfl

omit [DecidableEq T] [DecidableEq K] in
/-- Nobody has called anything. -/
def start (data : K → D) : State T K O L R D := ⟨data, fun _ => none, fun _ => .idle, []⟩

def Monitor.step (m : Monitor K O L R D) (s : State T K O L R D) :
    Action T O → Option (State T K O L R D)
  | .call t o =>
    match s.phase t with
    | .idle => some { s with phase := Function.update s.phase t (.waits o) }
    | _ => none
  | .acquire t =>
    match s.phase t with
    | .waits o =>
      if s.holder (m.key o) = none then
        some { s with
          holder := Function.update s.holder (m.key o) (some t)
          phase := Function.update s.phase t (.inside o (m.first o)) }
      else none
    | _ => none
  | .line t =>
    match s.phase t with
    | .inside o l =>
      let next := m.line l (s.data (m.key o))
      some { s with
        data := Function.update s.data (m.key o) next.2
        phase := Function.update s.phase t (.after o next.1) }
    | _ => none
  | .release t =>
    match s.phase t with
    | .ends o r =>
      some { s with
        holder := Function.update s.holder (m.key o) none
        phase := Function.update s.phase t .idle
        calls := s.calls ++ [(o, r)] }
    | _ => none

omit [DecidableEq T] in
/-- The operations on what one lock guards. -/
def Monitor.callsOn (m : Monitor K O L R D) (s : State T K O L R D) (k : K) : List (O × R) :=
  s.calls.filter fun call => m.key call.1 = k

/-- What a body has done at each line to the data that it found, and what it has done and returns at
its end. -/
structure Outline (m : Monitor K O L R D) where
  at_ : O → D → L → D → Prop
  post : O → D → R → D → Prop
  first : ∀ o d, at_ o d (m.first o) d
  next : ∀ {o found l d l' d'}, at_ o found l d → m.line l d = (.inl l', d') → at_ o found l' d'
  ends : ∀ {o found l d r d'}, at_ o found l d → m.line l d = (.inr r, d') → post o found r d'

namespace Outline

variable {m : Monitor K O L R D} (outline : Outline m)

/-- The operations one after the other, each from its beginning to its end. -/
def Sequential (outline : Outline m) : D → List (O × R) → D → Prop
  | d, [], d' => d' = d
  | d, (o, r) :: rest, d' => ∃ d₁, outline.post o d r d₁ ∧ Sequential outline d₁ rest d'

omit [DecidableEq K] in
theorem Sequential.snoc {d d₁ d' : D} {calls : List (O × R)} {o : O} {r : R}
    (before : outline.Sequential d calls d₁) (last : outline.post o d₁ r d') :
    outline.Sequential d (calls ++ [(o, r)]) d' := by
  induction calls generalizing d with
  | nil =>
    obtain rfl : d₁ = d := before
    exact ⟨d', last, rfl⟩
  | cons call calls ih =>
    obtain ⟨d₂, first, rest⟩ := before
    exact ⟨d₂, first, ih rest⟩

/-- With the data as the last operation left it: what each lock guards is as it was when the lock
was taken, but for the thread that holds it, which is where the outline says. -/
structure Atomic (d₀ : K → D) (s : State T K O L R D) (left : K → D) : Prop where
  replays : ∀ k, outline.Sequential (d₀ k) (m.callsOn s k) (left k)
  free : ∀ k, s.holder k = none → s.data k = left k
  inside : ∀ t o l, s.phase t = .inside o l →
    s.holder (m.key o) = some t ∧ outline.at_ o (left (m.key o)) l (s.data (m.key o))
  ends : ∀ t o r, s.phase t = .ends o r →
    s.holder (m.key o) = some t ∧ outline.post o (left (m.key o)) r (s.data (m.key o))
  holds : ∀ k t, s.holder k = some t → ∃ o, m.key o = k ∧ (s.phase t).Holds o

variable {outline} {d₀ left : K → D} {s s' : State T K O L R D}

omit [DecidableEq T] in
theorem atomic_start (d₀ : K → D) : outline.Atomic d₀ (start d₀ : State T K O L R D) d₀ where
  replays _ := rfl
  free _ _ := rfl
  inside t o l inside := by cases inside
  ends t o r ends := by cases ends
  holds k t held := by cases held

omit [DecidableEq K] in
/-- The phase of a thread changes that has none of these locks. -/
theorem holds_of_other {t : T} {phase : Phase O L R} {holder : K → Option T}
    (holds : ∀ k u, holder k = some u → ∃ o, m.key o = k ∧ (s.phase u).Holds o) {k : K} {u : T}
    (other : u ≠ t) (held : holder k = some u) :
    ∃ o, m.key o = k ∧ (Function.update s.phase t phase u).Holds o := by
  rw [Function.update_of_ne other]
  exact holds k u held

/-- A thread that is at neither place in its new phase, while the locks and the data stay. -/
theorem Atomic.move (atomic : outline.Atomic d₀ s left) {t : T} {phase : Phase O L R}
    (idle : s.phase t = .idle) (outside : ∀ o l, phase ≠ .inside o l)
    (running : ∀ o r, phase ≠ .ends o r) :
    outline.Atomic d₀ { s with phase := Function.update s.phase t phase } left := by
  refine { atomic with
    inside := fun u o l inside => ?_
    ends := fun u o r ends => ?_
    holds := fun k u held => holds_of_other atomic.holds ?_ held }
  · by_cases own : u = t
    · subst own
      exact absurd ((Function.update_self _ _ _).symm.trans inside) (outside o l)
    · exact atomic.inside u o l ((Function.update_of_ne own _ _).symm.trans inside)
  · by_cases own : u = t
    · subst own
      exact absurd ((Function.update_self _ _ _).symm.trans ends) (running o r)
    · exact atomic.ends u o r ((Function.update_of_ne own _ _).symm.trans ends)
  · rintro rfl
    obtain ⟨o, -, holds⟩ := atomic.holds k u held
    rw [idle] at holds
    exact holds

theorem Atomic.acquire (atomic : outline.Atomic d₀ s left) {t : T} {o : O}
    (waits : s.phase t = .waits o) (free : s.holder (m.key o) = none) : outline.Atomic d₀ { s with
      holder := Function.update s.holder (m.key o) (some t)
      phase := Function.update s.phase t (.inside o (m.first o)) } left := by
  have holder (k : K) (apart : k ≠ m.key o) :
      Function.update s.holder (m.key o) (some t) k = s.holder k := Function.update_of_ne apart _ _
  -- nobody else has this lock
  have apart {u : T} {o' : O} (held : s.holder (m.key o') = some u) : m.key o' ≠ m.key o := by
    intro same
    rw [same, free] at held
    cases held
  refine { atomic with
    free := fun k unheld => ?_
    inside := fun u o' l inside => ?_
    ends := fun u o' r ends => ?_
    holds := fun k u held => ?_ }
  · by_cases own : k = m.key o
    · subst own
      exact atomic.free _ free
    · exact atomic.free k ((holder k own).symm.trans unheld)
  · by_cases own : u = t
    · subst own
      cases (Function.update_self _ _ _).symm.trans inside
      refine ⟨Function.update_self _ _ _, ?_⟩
      have found : s.data (m.key o) = left (m.key o) := atomic.free _ free
      change outline.at_ o (left (m.key o)) (m.first o) (s.data (m.key o))
      rw [found]
      exact outline.first o _
    · obtain ⟨held, at_⟩ := atomic.inside u o' l ((Function.update_of_ne own _ _).symm.trans inside)
      exact ⟨(holder _ (apart held)).trans held, at_⟩
  · by_cases own : u = t
    · subst own
      cases (Function.update_self _ _ _).symm.trans ends
    · obtain ⟨held, post⟩ := atomic.ends u o' r ((Function.update_of_ne own _ _).symm.trans ends)
      exact ⟨(holder _ (apart held)).trans held, post⟩
  · by_cases same : k = m.key o
    · subst same
      cases (Function.update_self (m.key o) (some t) s.holder).symm.trans held
      refine ⟨o, rfl, ?_⟩
      change (Function.update s.phase t (.inside o (m.first o)) t).Holds o
      rw [Function.update_self]
      rfl
    · have before : s.holder k = some u := (holder k same).symm.trans held
      refine holds_of_other atomic.holds ?_ before
      rintro rfl
      obtain ⟨o', -, holds⟩ := atomic.holds k u before
      rw [waits] at holds
      exact holds

theorem Atomic.line (atomic : outline.Atomic d₀ s left) {t : T} {o : O} {l : L}
    (inside : s.phase t = .inside o l) : outline.Atomic d₀ { s with
      data := Function.update s.data (m.key o) (m.line l (s.data (m.key o))).2
      phase := Function.update s.phase t (.after o (m.line l (s.data (m.key o))).1) } left := by
  obtain ⟨held, at_⟩ := atomic.inside t o l inside
  have data (k : K) (apart : k ≠ m.key o) :
      Function.update s.data (m.key o) (m.line l (s.data (m.key o))).2 k = s.data k :=
    Function.update_of_ne apart _ _
  have here : Function.update s.data (m.key o) (m.line l (s.data (m.key o))).2 (m.key o) =
      (m.line l (s.data (m.key o))).2 := Function.update_self _ _ _
  -- another thread works under another lock
  have apart {u : T} {o' : O} (other : u ≠ t) (own : s.holder (m.key o') = some u) :
      m.key o' ≠ m.key o := by
    intro same
    rw [same, held] at own
    exact other (Option.some.inj own).symm
  refine { atomic with
    free := fun k unheld => ?_
    inside := fun u o' l' inside' => ?_
    ends := fun u o' r ends => ?_
    holds := fun k u held' => ?_ }
  · have other : k ≠ m.key o := by
      rintro rfl
      cases held.symm.trans unheld
    exact (data k other).trans (atomic.free k unheld)
  · by_cases own : u = t
    · subst own
      have after := (Function.update_self _ _ _).symm.trans inside'
      cases next : (m.line l (s.data (m.key o))).1 with
      | inl l₁ =>
        rw [next] at after
        cases after
        refine ⟨held, ?_⟩
        change outline.at_ o _ l' (Function.update s.data (m.key o) _ (m.key o))
        rw [here]
        exact outline.next at_ (Prod.ext next rfl)
      | inr r =>
        rw [next] at after
        cases after
    · obtain ⟨held', at'⟩ :=
        atomic.inside u o' l' ((Function.update_of_ne own _ _).symm.trans inside')
      refine ⟨held', ?_⟩
      change outline.at_ o' _ l' (Function.update s.data (m.key o) _ (m.key o'))
      rw [data _ (apart own held')]
      exact at'
  · by_cases own : u = t
    · subst own
      have after := (Function.update_self _ _ _).symm.trans ends
      cases next : (m.line l (s.data (m.key o))).1 with
      | inl l₁ =>
        rw [next] at after
        cases after
      | inr r' =>
        rw [next] at after
        cases after
        refine ⟨held, ?_⟩
        change outline.post o _ r (Function.update s.data (m.key o) _ (m.key o))
        rw [here]
        exact outline.ends at_ (Prod.ext next rfl)
    · obtain ⟨held', post⟩ := atomic.ends u o' r ((Function.update_of_ne own _ _).symm.trans ends)
      refine ⟨held', ?_⟩
      change outline.post o' _ r (Function.update s.data (m.key o) _ (m.key o'))
      rw [data _ (apart own held')]
      exact post
  · by_cases own : u = t
    · subst own
      obtain ⟨o', same, holds⟩ := atomic.holds k u held'
      rw [inside] at holds
      obtain rfl : o = o' := holds
      refine ⟨o, same, ?_⟩
      change (Function.update s.phase u _ u).Holds o
      rw [Function.update_self]
      exact Phase.holds_after o _
    · exact holds_of_other atomic.holds own held'

theorem Atomic.release (atomic : outline.Atomic d₀ s left) {t : T} {o : O} {r : R}
    (ends : s.phase t = .ends o r) : outline.Atomic d₀ { s with
      holder := Function.update s.holder (m.key o) none
      phase := Function.update s.phase t .idle
      calls := s.calls ++ [(o, r)] }
      (Function.update left (m.key o) (s.data (m.key o))) := by
  obtain ⟨held, post⟩ := atomic.ends t o r ends
  have kept (k : K) (apart : k ≠ m.key o) :
      Function.update left (m.key o) (s.data (m.key o)) k = left k :=
    Function.update_of_ne apart _ _
  have apart {u : T} {o' : O} (other : u ≠ t) (own : s.holder (m.key o') = some u) :
      m.key o' ≠ m.key o := by
    intro same
    rw [same, held] at own
    exact other (Option.some.inj own).symm
  refine
    { replays := fun k => ?_
      free := fun k unheld => ?_
      inside := fun u o' l inside => ?_
      ends := fun u o' r' ends' => ?_
      holds := fun k u held' => ?_ }
  · unfold Monitor.callsOn
    by_cases own : m.key o = k
    · subst own
      rw [List.filter_append, Function.update_self]
      have last : [(o, r)].filter (fun call => m.key call.1 = m.key o) = [(o, r)] := by simp
      rw [last]
      exact (atomic.replays (m.key o)).snoc outline post
    · have none : [(o, r)].filter (fun call => m.key call.1 = k) = [] := by simp [own]
      rw [List.filter_append, none, List.append_nil, kept k (Ne.symm own)]
      exact atomic.replays k
  · by_cases own : k = m.key o
    · subst own
      exact (Function.update_self (m.key o) (s.data (m.key o)) left).symm
    · rw [kept k own]
      exact atomic.free k ((Function.update_of_ne own _ _).symm.trans unheld)
  · by_cases own : u = t
    · subst own
      have idle : Phase.idle = .inside o' l :=
        (Function.update_self u Phase.idle s.phase).symm.trans inside
      cases idle
    · obtain ⟨held', at'⟩ :=
        atomic.inside u o' l ((Function.update_of_ne own _ _).symm.trans inside)
      refine ⟨(Function.update_of_ne (apart own held') _ _).trans held', ?_⟩
      rw [kept _ (apart own held')]
      exact at'
  · by_cases own : u = t
    · subst own
      have idle : Phase.idle = .ends o' r' :=
        (Function.update_self u Phase.idle s.phase).symm.trans ends'
      cases idle
    · obtain ⟨held', post'⟩ :=
        atomic.ends u o' r' ((Function.update_of_ne own _ _).symm.trans ends')
      refine ⟨(Function.update_of_ne (apart own held') _ _).trans held', ?_⟩
      rw [kept _ (apart own held')]
      exact post'
  · have other : k ≠ m.key o := by
      rintro rfl
      cases (Function.update_self (m.key o) none s.holder).symm.trans held'
    have before : s.holder k = some u := (Function.update_of_ne other _ _).symm.trans held'
    refine holds_of_other atomic.holds ?_ before
    rintro rfl
    obtain ⟨o', same, holds⟩ := atomic.holds k u before
    rw [ends] at holds
    obtain rfl : o = o' := holds
    exact other same.symm

theorem Atomic.step (atomic : outline.Atomic d₀ s left) {a : Action T O}
    (next : m.step s a = some s') : ∃ left', outline.Atomic d₀ s' left' := by
  cases a with
  | call t o =>
    simp only [Monitor.step] at next
    split at next
    next idle =>
      cases next
      exact ⟨left, atomic.move idle (by simp) (by simp)⟩
    · cases next
  | acquire t =>
    simp only [Monitor.step] at next
    split at next
    next waits =>
      split at next
      next free =>
        cases next
        exact ⟨left, atomic.acquire waits free⟩
      · cases next
    · cases next
  | line t =>
    simp only [Monitor.step] at next
    split at next
    next inside =>
      cases next
      exact ⟨left, atomic.line inside⟩
    · cases next
  | release t =>
    simp only [Monitor.step] at next
    split at next
    next ends =>
      cases next
      exact ⟨_, atomic.release ends⟩
    · cases next

/-- However the lines of the threads interleave. -/
theorem atomic_run {allow : State T K O L R D → Action T O → Prop}
    (run : Runs.Run m.step allow (start d₀) s) : ∃ left, outline.Atomic d₀ s left :=
  run.invariant (fun s => ∃ left, outline.Atomic d₀ s left) ⟨d₀, atomic_start d₀⟩
    fun _ _ _ ⟨_, atomic⟩ _ next => atomic.step next

end Outline

/-! ### Which operations there are -/

/-- The thread has called the operation, and it has not returned. -/
def Phase.About (o : O) : Phase O L R → Prop
  | .waits o' | .inside o' _ | .ends o' _ => o' = o
  | .idle => False

omit [DecidableEq T] [DecidableEq K] in
theorem Phase.Holds.about {o : O} {phase : Phase O L R} (holds : phase.Holds o) :
    phase.About o := by
  cases phase with
  | idle | waits => cases holds
  | inside | ends => exact holds

omit [DecidableEq T] [DecidableEq K] in
theorem Phase.about_after {o o' : O} {next : L ⊕ R} (about : (Phase.after o next).About o') :
    o = o' := by
  cases next with
  | inl l => exact about
  | inr r => exact about

/-- What holds of every operation that is called holds of those under way and of those that have
returned. -/
theorem calls_of_run {m : Monitor K O L R D} {d₀ : K → D} {s : State T K O L R D}
    (called : O → Prop) {allow : State T K O L R D → Action T O → Prop}
    (run : Runs.Run m.step allow (start d₀) s)
    (allowed : ∀ s t o, allow s (.call t o) → called o) :
    (∀ t o, (s.phase t).About o → called o) ∧ ∀ call ∈ s.calls, called call.1 := by
  refine run.invariant
    (fun s => (∀ t o, (s.phase t).About o → called o) ∧ ∀ call ∈ s.calls, called call.1)
    ⟨fun t o about => about.elim, by simp [start]⟩ ?_
  rintro a action b ⟨under, returned⟩ allows next
  -- only the phase of one thread changes
  have changed {t : T} {phase : Phase O L R} (new : ∀ o, phase.About o → called o) (u : T) (o : O)
      (about : (Function.update a.phase t phase u).About o) : called o := by
    by_cases own : u = t
    · subst own
      rw [Function.update_self] at about
      exact new o about
    · rw [Function.update_of_ne own] at about
      exact under u o about
  cases action with
  | call t o =>
    simp only [Monitor.step] at next
    split at next
    · cases next
      refine ⟨changed fun o' about => ?_, returned⟩
      obtain rfl : o = o' := about
      exact allowed a t o allows
    · cases next
  | acquire t =>
    simp only [Monitor.step] at next
    split at next
    next o waits =>
      split at next
      · cases next
        refine ⟨changed fun o' about => under t o' ?_, returned⟩
        rw [waits]
        exact about
      · cases next
    · cases next
  | line t =>
    simp only [Monitor.step] at next
    split at next
    next o l inside =>
      cases next
      refine ⟨changed fun o' about => under t o' ?_, returned⟩
      rw [inside]
      exact Phase.about_after about
    · cases next
  | release t =>
    simp only [Monitor.step] at next
    split at next
    next o r ends =>
      cases next
      refine ⟨changed fun o' about => about.elim, fun call member => ?_⟩
      rcases List.mem_append.mp member with before | last
      · exact returned call before
      · rw [List.mem_singleton.mp last]
        refine under t o ?_
        rw [ends]
        rfl
    · cases next

end Monitors
