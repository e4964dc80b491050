import TeleportVM.Lib.Runs
import Mathlib.Algebra.BigOperators.Group.Finset.Basic
import Mathlib.Algebra.Order.BigOperators.Group.Finset

/-!
Threads that take locks in the order of a rank and touch a variable only under its lock: no two
threads are about to touch the same variable, and nobody waits forever for a lock, unless its holder
sleeps.
-/
namespace Locks

/-- What a thread does with the locks `L` and the variables `V` it shares. -/
inductive Op (L V : Type*) where
  | acquire (l : L)
  | release (l : L)
  | access (v : V)
  /-- The thread sleeps, until it is woken up from outside. -/
  | stall
  deriving DecidableEq

/-- The order in which locks are taken, and the lock of each variable. -/
structure Discipline (L V : Type*) where
  rank : L → Nat
  guard : V → L

variable {T L V : Type*}

section Discipline

variable [DecidableEq L] (d : Discipline L V)

/-- A thread that holds the locks `held` may do this, and holds `after` when it has. -/
def Follows : List L → List (Op L V) → List L → Prop
  | held, [], after => held = after
  | held, .acquire l :: rest, after =>
    (∀ m ∈ held, d.rank m < d.rank l) ∧ Follows (l :: held) rest after
  | held, .release l :: rest, after => l ∈ held ∧ Follows (held.erase l) rest after
  | held, .access v :: rest, after => d.guard v ∈ held ∧ Follows held rest after
  | held, .stall :: rest, after => Follows held rest after

variable {d} {held after after' : List L} {ops more : List (Op L V)}

theorem Follows.append (first : Follows d held ops after) (second : Follows d after more after') :
    Follows d held (ops ++ more) after' := by
  induction ops generalizing held with
  | nil => exact (show held = after from first) ▸ second
  | cons op ops ih =>
    cases op with
    | acquire l => exact ⟨first.1, ih first.2⟩
    | release l => exact ⟨first.1, ih first.2⟩
    | access v => exact ⟨first.1, ih first.2⟩
    | stall => exact ih first

/-- Calls that leave the held locks as they were, one after the other. -/
theorem Follows.flatten {calls : List (List (Op L V))}
    (each : ∀ ops ∈ calls, Follows d held ops held) : Follows d held calls.flatten held := by
  induction calls with
  | nil => exact rfl
  | cons ops calls ih =>
    rw [List.flatten_cons]
    exact (each ops List.mem_cons_self).append
      (ih fun other member => each other (List.mem_cons_of_mem _ member))

/-- A call inside of a critical section of the lock `l`. -/
theorem Follows.critical {l : L} (above : ∀ m ∈ held, d.rank m < d.rank l)
    (inside : Follows d (l :: held) ops (l :: held)) :
    Follows d held (.acquire l :: (ops ++ [.release l])) held := by
  refine ⟨above, inside.append ⟨List.mem_cons_self, ?_⟩⟩
  exact List.erase_cons_head l held

end Discipline

/-! ### Threads side by side -/

/-- Who holds each lock, and what each thread has left to do. -/
structure State (T L V : Type*) where
  holder : L → Option T
  program : T → List (Op L V)

/-- No lock is held. -/
def start (program : T → List (Op L V)) : State T L V := ⟨fun _ => none, program⟩

variable [DecidableEq T] [DecidableEq L]

/-- A thread does its next operation, or one that sleeps is woken up. -/
inductive Turn (T : Type*) where
  | run (t : T)
  | wake (t : T)

/-- One operation of thread `t`. It waits for a lock that is held, by itself as well, and it
releases only what it holds. -/
def State.operate (s : State T L V) (t : T) : Option (State T L V) :=
  match s.program t with
  | [] => none
  | .acquire l :: rest =>
    if s.holder l = none then
      some ⟨Function.update s.holder l (some t), Function.update s.program t rest⟩
    else none
  | .release l :: rest =>
    if s.holder l = some t then
      some ⟨Function.update s.holder l none, Function.update s.program t rest⟩
    else none
  | .access _ :: rest => some { s with program := Function.update s.program t rest }
  | .stall :: _ => none

def State.wakeUp (s : State T L V) (t : T) : Option (State T L V) :=
  match s.program t with
  | .stall :: rest => some { s with program := Function.update s.program t rest }
  | _ => none

def State.step (s : State T L V) : Turn T → Option (State T L V)
  | .run t => s.operate t
  | .wake t => s.wakeUp t

/-- An operation is done once. -/
theorem operate_program {s s' : State T L V} {t : T} (next : s.operate t = some s') :
    ∃ op rest, s.program t = op :: rest ∧ s'.program = Function.update s.program t rest := by
  unfold State.operate at next
  split at next
  · cases next
  next head =>
    split at next
    · cases next
      exact ⟨_, _, head, rfl⟩
    · cases next
  next head =>
    split at next
    · cases next
      exact ⟨_, _, head, rfl⟩
    · cases next
  next head =>
    cases next
    exact ⟨_, _, head, rfl⟩
  · cases next

abbrev Reaches (s s' : State T L V) : Prop := Runs.Run State.step (fun _ _ => True) s s'

/-- The locks that each thread holds, and that it follows the discipline from here on. -/
structure Disciplined (d : Discipline L V) (s : State T L V) (held : T → List L) : Prop where
  follows : ∀ t, Follows d (held t) (s.program t) []
  owns : ∀ t l, l ∈ held t ↔ s.holder l = some t
  distinct : ∀ t, (held t).Nodup

namespace Disciplined

variable {d : Discipline L V} {s s' : State T L V} {held : T → List L}

omit [DecidableEq T] in
theorem start {program : T → List (Op L V)} (follows : ∀ t, Follows d [] (program t) []) :
    Disciplined d (start program) fun _ => [] where
  follows := follows
  owns _ _ := iff_of_false List.not_mem_nil (by simp [Locks.start])
  distinct _ := List.nodup_nil

omit [DecidableEq T] in
/-- A lock has one holder. -/
theorem unique (ok : Disciplined d s held) {t u : T} {l : L} (first : l ∈ held t)
    (second : l ∈ held u) : t = u :=
  Option.some.inj (((ok.owns t l).mp first).symm.trans ((ok.owns u l).mp second))

theorem acquire (ok : Disciplined d s held) {t : T} {l : L} {rest : List (Op L V)}
    (next : s.program t = .acquire l :: rest) (free : s.holder l = none) :
    Disciplined d ⟨Function.update s.holder l (some t), Function.update s.program t rest⟩
      (Function.update held t (l :: held t)) := by
  have follows := ok.follows t
  rw [next] at follows
  have fresh (u : T) : l ∉ held u := fun member => by
    rw [ok.owns, free] at member
    cases member
  refine ⟨fun u => ?_, fun u m => ?_, fun u => ?_⟩
  · by_cases same : u = t
    · subst same
      simpa using follows.2
    · simpa [same] using ok.follows u
  · by_cases same : u = t
    · subst same
      by_cases new : m = l
      · simp [new]
      · simpa [new] using ok.owns u m
    · by_cases new : m = l
      · subst new
        simp [same, fresh u, Ne.symm same]
      · simpa [same, new] using ok.owns u m
  · by_cases same : u = t
    · subst same
      simpa using ⟨fresh u, ok.distinct u⟩
    · simpa [same] using ok.distinct u

theorem release (ok : Disciplined d s held) {t : T} {l : L} {rest : List (Op L V)}
    (next : s.program t = .release l :: rest) :
    Disciplined d ⟨Function.update s.holder l none, Function.update s.program t rest⟩
      (Function.update held t ((held t).erase l)) := by
  have follows := ok.follows t
  rw [next] at follows
  refine ⟨fun u => ?_, fun u m => ?_, fun u => ?_⟩
  · by_cases same : u = t
    · subst same
      simpa using follows.2
    · simpa [same] using ok.follows u
  · by_cases same : u = t
    · subst same
      by_cases old : m = l
      · subst old
        simp [(ok.distinct u).not_mem_erase]
      · simpa [old, List.mem_erase_of_ne] using ok.owns u m
    · by_cases old : m = l
      · subst old
        simpa [same] using fun member => same (ok.unique member follows.1)
      · simpa [same, old] using ok.owns u m
  · by_cases same : u = t
    · subst same
      simpa using (ok.distinct u).erase l
    · simpa [same] using ok.distinct u

theorem access (ok : Disciplined d s held) {t : T} {v : V} {rest : List (Op L V)}
    (next : s.program t = .access v :: rest) :
    Disciplined d { s with program := Function.update s.program t rest } held := by
  have follows := ok.follows t
  rw [next] at follows
  refine { ok with follows := fun u => ?_ }
  by_cases same : u = t
  · subst same
    simpa using follows.2
  · simpa [same] using ok.follows u

theorem stall (ok : Disciplined d s held) {t : T} {rest : List (Op L V)}
    (next : s.program t = .stall :: rest) :
    Disciplined d { s with program := Function.update s.program t rest } held := by
  have follows : Follows d (held t) rest [] := by
    have asleep := ok.follows t
    rw [next] at asleep
    exact asleep
  refine { ok with follows := fun u => ?_ }
  by_cases same : u = t
  · subst same
    simpa using follows
  · simpa [same] using ok.follows u

theorem wakeUp (ok : Disciplined d s held) {t : T} (next : s.wakeUp t = some s') :
    ∃ held', Disciplined d s' held' := by
  unfold State.wakeUp at next
  split at next
  next head =>
    cases next
    exact ⟨_, ok.stall head⟩
  · cases next

theorem operate (ok : Disciplined d s held) {t : T} (next : s.operate t = some s') :
    ∃ held', Disciplined d s' held' := by
  unfold State.operate at next
  split at next
  · cases next
  next head =>
    split at next
    next free =>
      cases next
      exact ⟨_, ok.acquire head free⟩
    · cases next
  next head =>
    split at next
    · cases next
      exact ⟨_, ok.release head⟩
    · cases next
  next head =>
    cases next
    exact ⟨_, ok.access head⟩
  · cases next

theorem step (ok : Disciplined d s held) {turn : Turn T} (next : s.step turn = some s') :
    ∃ held', Disciplined d s' held' := by
  cases turn with
  | run t => exact ok.operate next
  | wake t => exact ok.wakeUp next

end Disciplined

theorem disciplined_run {d : Discipline L V} {program : T → List (Op L V)} {s : State T L V}
    (follows : ∀ t, Follows d [] (program t) []) (run : Reaches (start program) s) :
    ∃ held, Disciplined d s held :=
  run.invariant (fun s => ∃ held, Disciplined d s held) ⟨_, .start follows⟩
    fun _ _ _ ⟨_, ok⟩ _ next => ok.step next

/-! ### What follows for one state -/

section State

variable {d : Discipline L V} {s : State T L V} {held : T → List L}

omit [DecidableEq T] in
theorem Disciplined.finished (ok : Disciplined d s held) {t : T} (done : s.program t = []) (l : L) :
    s.holder l ≠ some t := by
  intro holder
  have follows := ok.follows t
  rw [done] at follows
  have holds := (ok.owns t l).mpr holder
  rw [show held t = [] from follows] at holds
  cases holds

omit [DecidableEq T] in
/-- A lock that the thread holds itself would rank below the one that it takes. -/
theorem Disciplined.not_own (ok : Disciplined d s held) {t : T} {l : L} {rest : List (Op L V)}
    (next : s.program t = .acquire l :: rest) : s.holder l ≠ some t := by
  intro holder
  have follows := ok.follows t
  rw [next] at follows
  exact Nat.lt_irrefl _ (follows.1 l ((ok.owns t l).mpr holder))

omit [DecidableEq T] in
/-- Two threads that are about to touch the same variable are one. -/
theorem Disciplined.no_race (ok : Disciplined d s held) {t u : T} {v : V} {rest rest' : List (Op L V)}
    (first : s.program t = .access v :: rest) (second : s.program u = .access v :: rest') : t = u := by
  have mine := ok.follows t
  have yours := ok.follows u
  rw [first] at mine
  rw [second] at yours
  exact ok.unique mine.1 yours.1

end State

/-! ### Nobody waits forever -/

section Deadlock

variable {d : Discipline L V} {s : State T L V} {held : T → List L}

/-- Nobody sleeps, nor ever will. -/
def State.Awake (s : State T L V) : Prop := ∀ t, .stall ∉ s.program t

instance [Fintype T] [DecidableEq V] (s : State T L V) : Decidable s.Awake :=
  inferInstanceAs (Decidable (∀ t, .stall ∉ s.program t))

/-- A thread that cannot move waits for a lock that another thread holds. -/
theorem Disciplined.waits (ok : Disciplined d s held) (awake : s.Awake) {t : T}
    (unfinished : s.program t ≠ []) (blocked : s.operate t = none) :
    ∃ l rest u, s.program t = .acquire l :: rest ∧ u ≠ t ∧ l ∈ held u := by
  have follows := ok.follows t
  unfold State.operate at blocked
  split at blocked
  next finished => exact absurd finished unfinished
  next l rest head =>
    rw [head] at follows
    cases holder : s.holder l with
    | none => simp [holder] at blocked
    | some u =>
      refine ⟨l, rest, u, head, ?_, (ok.owns u l).mpr holder⟩
      rintro rfl
      exact ok.not_own head holder
  next l rest head =>
    rw [head] at follows
    simp [(ok.owns t l).mp follows.1] at blocked
  · cases blocked
  next head => exact absurd (head ▸ List.mem_cons_self) (awake t)

/-- With every thread stuck, the holder of an awaited lock waits for one of a higher rank. -/
theorem Disciplined.higher (ok : Disciplined d s held) (awake : s.Awake)
    (blocked : ∀ t, s.operate t = none) {t : T} {l : L} {rest : List (Op L V)}
    (head : s.program t = .acquire l :: rest) :
    ∃ u m rest', s.program u = .acquire m :: rest' ∧ d.rank l < d.rank m := by
  obtain ⟨_, _, u, head', -, holds⟩ := ok.waits awake (by simp [head]) (blocked t)
  cases head.symm.trans head'
  have follows := ok.follows u
  have busy : s.program u ≠ [] := fun finished => by
    rw [finished] at follows
    rw [show held u = [] from follows] at holds
    cases holds
  obtain ⟨m, rest', -, waits, -⟩ := ok.waits awake busy (blocked u)
  rw [waits] at follows
  exact ⟨u, m, rest', waits, follows.1 l holds⟩

/-- Ranks end somewhere, so not every thread is stuck. -/
theorem Disciplined.moves (ok : Disciplined d s held) (awake : s.Awake) {bound : Nat}
    (ranked : ∀ l, d.rank l ≤ bound) {t : T} (unfinished : s.program t ≠ []) :
    ∃ u s', s.operate u = some s' := by
  by_contra stuck
  have blocked (u : T) : s.operate u = none := by
    cases moved : s.operate u with
    | none => rfl
    | some s' => exact absurd ⟨u, s', moved⟩ stuck
  have climb (n : Nat) : ∃ u l rest, s.program u = .acquire l :: rest ∧ n ≤ d.rank l := by
    induction n with
    | zero =>
      obtain ⟨l, rest, -, head, -⟩ := ok.waits awake unfinished (blocked t)
      exact ⟨t, l, rest, head, Nat.zero_le _⟩
    | succ n ih =>
      obtain ⟨u, l, rest, head, low⟩ := ih
      obtain ⟨v, m, rest', waits, higher⟩ := ok.higher awake blocked head
      exact ⟨v, m, rest', waits, Nat.succ_le_of_lt (low.trans_lt higher)⟩
  obtain ⟨-, l, -, -, beyond⟩ := climb (bound + 1)
  exact Nat.lt_irrefl _ (beyond.trans (ranked l))

omit [DecidableEq L] in
theorem State.Awake.program {s' : State T L V} (awake : s.Awake) {t : T} {op : Op L V}
    {rest : List (Op L V)} (before : s.program t = op :: rest)
    (after : s'.program = Function.update s.program t rest) : s'.Awake := by
  intro u asleep
  by_cases same : u = t
  · subst same
    rw [after, Function.update_self] at asleep
    exact awake u (before ▸ List.mem_cons_of_mem _ asleep)
  · rw [after, Function.update_of_ne same] at asleep
    exact awake u asleep

/-- So all threads can come to their end, one operation after the other, and nobody has to be woken
up. -/
theorem Disciplined.completes [Fintype T] (ok : Disciplined d s held) (awake : s.Awake) {bound : Nat}
    (ranked : ∀ l, d.rank l ≤ bound) : ∃ s', Reaches s s' ∧ ∀ t, s'.program t = [] := by
  refine Runs.Run.complete
    (fun n s => n = ∑ t, (s.program t).length ∧ s.Awake ∧ ∃ held, Disciplined d s held)
    (fun s => ∀ t, s.program t = []) ?_ ⟨rfl, awake, held, ok⟩
  rintro _ s ⟨rfl, awake, held, ok⟩ unfinished
  obtain ⟨t, some⟩ := not_forall.mp unfinished
  obtain ⟨u, s', next⟩ := ok.moves awake ranked some
  obtain ⟨op, rest, before, after⟩ := operate_program next
  refine ⟨.run u, s', _, trivial, next, ⟨rfl, awake.program before after, ok.operate next⟩, ?_⟩
  apply Finset.sum_lt_sum
  · intro v _
    rw [after]
    by_cases same : v = u
    · subst same
      simp [before]
    · simp [same]
  · exact ⟨u, Finset.mem_univ u, by simp [before, after]⟩

end Deadlock

end Locks
