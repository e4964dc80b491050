import TeleportVM.Lib.Runs
import Mathlib.Algebra.Order.Ring.Nat

/-!
The benchmark of a node: four threads fill a matrix that covers the region, each the rows of its own
page, and record how long the slow stores took.
-/
namespace TeleportVM

abbrev matrixDim : Nat := 64

structure Timespec where
  sec : Int
  nsec : Int

/-- What `CLOCK_MONOTONIC` shows that many nanoseconds after it started. -/
def clockGettime (now : Nat) : Timespec := ⟨now / 1000000000, now % 1000000000⟩

/-- The differences of both fields, put together in 64 bits. -/
def Timespec.elapsed (start stop : Timespec) : BitVec 64 :=
  BitVec.ofInt 64 (stop.sec - start.sec) * 1000000000 + BitVec.ofInt 64 (stop.nsec - start.nsec)

/-- The nanoseconds may go back while the seconds advance: the carry is right. -/
theorem elapsed_clockGettime {began now : Nat} (later : began ≤ now) :
    (clockGettime began).elapsed (clockGettime now) = BitVec.ofNat 64 (now - began) := by
  have giga : (1000000000 : BitVec 64) = BitVec.ofInt 64 1000000000 := rfl
  simp only [Timespec.elapsed, clockGettime]
  rw [giga, ← BitVec.ofInt_mul, ← BitVec.ofInt_add, ← BitVec.ofInt_natCast]
  congr 1
  omega

/-- `thread_arg_t`; the matrix is the one of the region. -/
structure ThreadArg where
  startRow : Nat
  endRow : Nat
  faultLatencies : Nat → BitVec 64
  faultCount : Nat

/-- A duration of more than 500 microseconds counts as a fault. -/
def ThreadArg.record (arg : ThreadArg) (durationNs : BitVec 64) : ThreadArg :=
  if 500000 < durationNs then
    if arg.faultCount < 1024 then
      { arg with
        faultLatencies := Function.update arg.faultLatencies arg.faultCount durationNs
        faultCount := arg.faultCount + 1 }
    else arg
  else arg

/-- Where `matrix_transform_worker` stands. -/
inductive WorkerPoint where
  | startFault (i j : Nat)
  | transform (i j : Nat) (startFault : Timespec)
  | endFault (i j : Nat) (startFault : Timespec)
  | returned

def linearIndex (i j : Nat) : Nat := i * matrixDim + j

/-- A thread, without a point before it is created. When it last read the clock and how long its
stores have taken is kept for the statements below. -/
structure Worker where
  arg : ThreadArg
  point : Option WorkerPoint
  began : Nat
  durations : List Nat

/-- The test of the outer loop. -/
def ThreadArg.row (arg : ThreadArg) (i : Nat) : WorkerPoint :=
  if i < arg.endRow then .startFault i 0 else .returned

/-- The end of an iteration of the inner loop. -/
def ThreadArg.nextElement (arg : ThreadArg) (i j : Nat) : WorkerPoint :=
  if j + 1 < matrixDim then .startFault i (j + 1) else arg.row (i + 1)

/-- The value that belongs at an index: `(uint32_t)(linear_index * 3)`. -/
def expectedVal (index : Nat) : BitVec 32 := BitVec.ofNat 32 (index * 3)

/-- A read of the clock, or the store. -/
def Worker.turn (now : Nat) (matrix : Nat → BitVec 32) (w : Worker) :
    Option (Worker × (Nat → BitVec 32)) :=
  match w.point with
  | some (.startFault i j) =>
    some ({ w with
      point := some (.transform i j (clockGettime now))
      began := now }, matrix)
  | some (.transform i j startFault) =>
    some ({ w with point := some (.endFault i j startFault) },
      Function.update matrix (linearIndex i j) (expectedVal (linearIndex i j)))
  | some (.endFault i j startFault) =>
    some ({ w with
      arg := w.arg.record (startFault.elapsed (clockGettime now))
      point := some (w.arg.nextElement i j)
      durations := w.durations ++ [now - w.began] }, matrix)
  | some .returned | none => none

/-- What is printed before the validation. -/
structure Metrics where
  totalDurationNs : BitVec 64
  avgFaultLatencyNs : Option (BitVec 64)

/-- Where `execute_cluster_benchmark` stands. -/
inductive BenchmarkPoint where
  | startTotal
  | create (i : Nat) (startTotal : Timespec)
  | join (i : Nat) (startTotal : Timespec)
  | endTotal (startTotal : Timespec)
  | validate (i : Nat) (metrics : Metrics)
  | failure (i : Nat) (metrics : Metrics)
  | success (metrics : Metrics)

structure Benchmark where
  matrix : Nat → BitVec 32
  workers : Nat → Worker
  main : BenchmarkPoint
  now : Nat

/-- Time passes, a thread takes its next step, or the caller does. -/
inductive BenchmarkEvent where
  | tick (ns : Nat)
  | worker (t : Nat)
  | main

def rowsPerThread : Nat := matrixDim / 4

/-- `args[i]`, with its row of `shared_latencies` still 0. -/
def threadArg (i : Nat) : ThreadArg := ⟨i * rowsPerThread, (i + 1) * rowsPerThread, fun _ => 0, 0⟩

/-- `pthread_create`. -/
def createWorker (i : Nat) : Worker :=
  ⟨threadArg i, some ((threadArg i).row (threadArg i).startRow), 0, []⟩

def combinedLatency (workers : Nat → Worker) : BitVec 64 :=
  (List.range 4).foldl (fun combined i =>
    (List.range (workers i).arg.faultCount).foldl
      (fun combined j => combined + (workers i).arg.faultLatencies j) combined) 0#64

def totalFaultsRecorded (workers : Nat → Worker) : Nat :=
  (List.range 4).foldl (fun total i => total + (workers i).arg.faultCount) 0

def metrics (workers : Nat → Worker) (startTotal endTotal : Timespec) : Metrics where
  totalDurationNs := startTotal.elapsed endTotal
  avgFaultLatencyNs :=
    if 0 < totalFaultsRecorded workers then
      some (combinedLatency workers / BitVec.ofNat 64 (totalFaultsRecorded workers))
    else none

namespace BenchmarkPoint

/-- The ends of an iteration of the three loops. -/
def nextCreate (i : Nat) (startTotal : Timespec) : BenchmarkPoint :=
  if i + 1 < 4 then .create (i + 1) startTotal else .join 0 startTotal

def nextJoin (i : Nat) (startTotal : Timespec) : BenchmarkPoint :=
  if i + 1 < 4 then .join (i + 1) startTotal else .endTotal startTotal

def nextValidate (i : Nat) (metrics : Metrics) : BenchmarkPoint :=
  if i + 1 < matrixDim * matrixDim then .validate (i + 1) metrics else .success metrics

end BenchmarkPoint

namespace Benchmark

def start (matrix : Nat → BitVec 32) (workers : Nat → Worker) (now : Nat) : Benchmark :=
  ⟨matrix, fun t => { workers t with point := none }, .startTotal, now⟩

def mainStep (s : Benchmark) : Option Benchmark :=
  match s.main with
  | .startTotal => some { s with main := .create 0 (clockGettime s.now) }
  | .create i startTotal =>
    some { s with
      workers := Function.update s.workers i (createWorker i)
      main := .nextCreate i startTotal }
  | .join i startTotal =>
    match (s.workers i).point with
    | some .returned => some { s with main := .nextJoin i startTotal }
    | _ => none
  | .endTotal startTotal =>
    some { s with main := .validate 0 (metrics s.workers startTotal (clockGettime s.now)) }
  | .validate i metrics =>
    if s.matrix i ≠ expectedVal i then some { s with main := .failure i metrics }
    else some { s with main := .nextValidate i metrics }
  | .failure _ _ | .success _ => none

def step (s : Benchmark) : BenchmarkEvent → Option Benchmark
  | .tick ns => some { s with now := s.now + ns }
  | .worker t =>
    ((s.workers t).turn s.now s.matrix).map fun turned =>
      { s with
        workers := Function.update s.workers t turned.1
        matrix := turned.2 }
  | .main => s.mainStep

end Benchmark

/-! ### The stores of a thread -/

/-- A duration that counts as a fault, in the 64 bits that it is computed in. -/
def slow (duration : Nat) : Bool := 500000 < duration % 2 ^ 64

/-- What the caller sums up of a thread. -/
def ThreadArg.latencies (arg : ThreadArg) : List (BitVec 64) :=
  (List.range arg.faultCount).map arg.faultLatencies

theorem slow_iff (duration : Nat) : 500000 < BitVec.ofNat 64 duration ↔ slow duration = true := by
  rw [BitVec.lt_def, BitVec.toNat_ofNat, slow, decide_eq_true_iff]
  rfl

theorem record_endRow (arg : ThreadArg) (durationNs : BitVec 64) :
    (arg.record durationNs).endRow = arg.endRow := by
  unfold ThreadArg.record
  split
  · split <;> rfl
  · rfl

/-- While fewer than 1024 are recorded, a slow store is recorded behind them. -/
theorem record_latencies {arg : ThreadArg} (room : arg.faultCount < 1024) (duration : Nat) :
    (arg.record (BitVec.ofNat 64 duration)).latencies =
      arg.latencies ++ ([duration].filter slow).map (BitVec.ofNat 64) := by
  unfold ThreadArg.record
  by_cases counts : slow duration = true
  · rw [if_pos ((slow_iff duration).mpr counts), if_pos room, List.filter_cons_of_pos counts]
    simp only [ThreadArg.latencies, List.range_succ, List.map_append, List.map_singleton,
      Function.update_self, List.filter_nil]
    congr 1
    refine List.map_congr_left fun i before => Function.update_of_ne ?_ _ _
    exact (List.mem_range.mp before).ne
  · rw [if_neg (fun more => counts ((slow_iff duration).mp more)), List.filter_cons_of_neg counts]
    simp

namespace Worker

/-- An element of the rows of thread `t`. -/
def InRows (t i j : Nat) : Prop :=
  rowsPerThread * t ≤ i ∧ i < rowsPerThread * (t + 1) ∧ j < matrixDim

/-- The rows of a thread are one page. -/
theorem InRows.page {t i j : Nat} (inRows : InRows t i j) :
    1024 * t ≤ linearIndex i j ∧ linearIndex i j < 1024 * (t + 1) := by
  obtain ⟨first, last, column⟩ := inRows
  simp only [rowsPerThread, matrixDim, linearIndex] at *
  omega

/-- The first index that thread `t` has not stored yet. -/
def filled (t : Nat) (w : Worker) : Nat :=
  match w.point with
  | none => 1024 * t
  | some (.startFault i j) | some (.transform i j _) => linearIndex i j
  | some (.endFault i j _) => linearIndex i j + 1
  | some .returned => 1024 * (t + 1)

/-- What is so at each point of thread `t`, after that many stores. -/
def Stands (t now began stores : Nat) : WorkerPoint → Prop
  | .startFault i j => InRows t i j ∧ 1024 * t + stores = linearIndex i j
  | .transform i j startFault | .endFault i j startFault =>
    InRows t i j ∧ 1024 * t + stores = linearIndex i j ∧
      startFault = clockGettime began ∧ began ≤ now
  | .returned => stores = 1024

structure Sound (t now : Nat) (w : Worker) : Prop where
  endRow : w.arg.endRow = rowsPerThread * (t + 1)
  latencies : w.arg.latencies = (w.durations.filter slow).map (BitVec.ofNat 64)
  stands : ∃ p, w.point = some p ∧ Stands t now w.began w.durations.length p

theorem Stands.later {t now now' began stores : Nat} {p : WorkerPoint}
    (stands : Stands t now began stores p) (later : now ≤ now') : Stands t now' began stores p := by
  cases p with
  | startFault i j => exact stands
  | transform i j start | endFault i j start =>
    obtain ⟨inRows, stored, clock, before⟩ := stands
    exact ⟨inRows, stored, clock, before.trans later⟩
  | returned => exact stands

/-- The two loops go through the page from its beginning to its end. -/
theorem stands_row {t now began stores i : Nat} {arg : ThreadArg}
    (endRow : arg.endRow = rowsPerThread * (t + 1)) (first : rowsPerThread * t ≤ i)
    (last : i ≤ rowsPerThread * (t + 1)) (stored : 1024 * t + stores = linearIndex i 0) :
    Stands t now began stores (arg.row i) := by
  unfold ThreadArg.row
  split
  next more =>
    refine ⟨⟨first, endRow ▸ more, by decide⟩, stored⟩
  next done =>
    change stores = 1024
    simp only [rowsPerThread, matrixDim, linearIndex] at *
    omega

theorem stands_nextElement {t now began stores i j : Nat} {arg : ThreadArg}
    (endRow : arg.endRow = rowsPerThread * (t + 1)) (inRows : InRows t i j)
    (stored : 1024 * t + stores = linearIndex i j + 1) :
    Stands t now began stores (arg.nextElement i j) := by
  obtain ⟨first, last, column⟩ := inRows
  unfold ThreadArg.nextElement
  split
  next more => exact ⟨⟨first, last, more⟩, stored⟩
  next done =>
    refine stands_row endRow (first.trans (Nat.le_succ i)) last ?_
    simp only [matrixDim, linearIndex] at *
    omega

theorem createWorker_sound (t now : Nat) : (createWorker t).Sound t now where
  endRow := Nat.mul_comm _ _
  latencies := rfl
  stands := by
    refine ⟨_, rfl, stands_row (Nat.mul_comm _ _) (Nat.mul_comm _ _).le ?_ ?_⟩
    · simp only [threadArg, rowsPerThread, matrixDim]
      omega
    · simp only [threadArg, rowsPerThread, matrixDim, linearIndex, createWorker, List.length_nil]
      omega

variable {t now : Nat} {w w' : Worker} {matrix matrix' : Nat → BitVec 32}

theorem Sound.later (sound : w.Sound t now) {now' : Nat} (later : now ≤ now') : w.Sound t now' :=
  have ⟨p, here, stands⟩ := sound.stands
  { sound with stands := ⟨p, here, stands.later later⟩ }

theorem filled_stands {p : WorkerPoint} (here : w.point = some p)
    (stands : Stands t now w.began w.durations.length p)
    (stored : ∀ i j start, p ≠ .endFault i j start) :
    w.filled t = 1024 * t + w.durations.length := by
  unfold filled
  rw [here]
  cases p with
  | startFault i j => exact stands.2.symm
  | transform i j start => exact stands.2.1.symm
  | endFault i j start => exact absurd rfl (stored i j start)
  | returned =>
    have all : w.durations.length = 1024 := stands
    dsimp only
    omega

/-- A turn stores at most the next element of the thread's own page. -/
theorem Sound.turn (sound : w.Sound t now) (turned : w.turn now matrix = some (w', matrix')) :
    w'.Sound t now ∧
      (matrix' = matrix ∧ w'.filled t = w.filled t ∨
        matrix' = Function.update matrix (w.filled t) (expectedVal (w.filled t)) ∧
          w'.filled t = w.filled t + 1 ∧ w.filled t / 1024 = t) := by
  obtain ⟨p, here, stands⟩ := sound.stands
  unfold Worker.turn at turned
  rw [here] at turned
  cases p with
  | startFault i j =>
    cases turned
    obtain ⟨inRows, stored⟩ := stands
    refine ⟨{ sound with stands := ⟨_, rfl, inRows, stored, rfl, le_rfl⟩ }, Or.inl ⟨rfl, ?_⟩⟩
    unfold filled
    rw [here]
  | transform i j start =>
    cases turned
    have index : w.filled t = linearIndex i j := by
      unfold filled
      rw [here]
    rw [index]
    have page : linearIndex i j / 1024 = t := by
      have := stands.1.page
      omega
    exact ⟨{ sound with stands := ⟨_, rfl, stands⟩ }, Or.inr ⟨rfl, rfl, page⟩⟩
  | endFault i j start =>
    obtain ⟨inRows, stored, rfl, before⟩ := stands
    have counted : w.arg.faultCount ≤ w.durations.length := by
      have count := congrArg List.length sound.latencies
      simp only [ThreadArg.latencies, List.length_map, List.length_range] at count
      rw [count]
      exact List.length_filter_le _ _
    have room : w.arg.faultCount < 1024 := by
      have := inRows.page
      omega
    dsimp only at turned
    rw [elapsed_clockGettime before] at turned
    cases turned
    have stands : Stands t now w.began (w.durations ++ [now - w.began]).length
        (w.arg.nextElement i j) := by
      refine stands_nextElement sound.endRow inRows ?_
      rw [List.length_append, List.length_singleton]
      omega
    refine ⟨⟨?_, ?_, _, rfl, stands⟩, Or.inl ⟨rfl, ?_⟩⟩
    · exact (record_endRow _ _).trans sound.endRow
    · rw [record_latencies room, sound.latencies, List.filter_append, List.map_append]
    · refine (filled_stands rfl stands ?_).trans ?_
      · intro i' j' start
        simp only [ThreadArg.nextElement, ThreadArg.row]
        split
        · simp
        · split <;> simp
      · rw [List.length_append, List.length_singleton]
        unfold filled
        rw [here]
        dsimp only
        omega
  | returned => cases turned

end Worker

/-! ### All threads -/

namespace BenchmarkPoint

/-- The threads that the caller has created, and those that it has joined. -/
def created : BenchmarkPoint → Nat
  | .startTotal => 0
  | .create i _ => i
  | _ => 4

def joined : BenchmarkPoint → Nat
  | .startTotal | .create _ _ => 0
  | .join i _ => i
  | _ => 4

end BenchmarkPoint

/-- A page of the matrix that is filled up to there. -/
def filledTo (index filled : Nat) (before : BitVec 32) : BitVec 32 :=
  if index < filled then expectedVal index else before

/-- What the metrics say about the stores of all threads. -/
def average (workers : Nat → Worker) : Option (BitVec 64) :=
  let durations := (List.range 4).flatMap fun t => (workers t).durations.filter slow
  if 0 < durations.length then
    some (BitVec.ofNat 64 durations.sum / BitVec.ofNat 64 durations.length)
  else none

/-- What is so at each point of the caller. -/
def BenchmarkPoint.Stands (workers : Nat → Worker) : BenchmarkPoint → Prop
  | .startTotal | .endTotal _ => True
  | .create i _ | .join i _ => i < 4
  | .validate i metrics => i < matrixDim * matrixDim ∧ metrics.avgFaultLatencyNs = average workers
  | .failure _ _ => False
  | .success metrics => metrics.avgFaultLatencyNs = average workers

namespace Benchmark

/-- The matrix is filled up to where each thread is, and is as it was behind that. -/
structure Sound (matrix : Nat → BitVec 32) (s : Benchmark) : Prop where
  matrix : ∀ index, s.matrix index =
    filledTo index ((s.workers (index / 1024)).filled (index / 1024)) (matrix index)
  running : ∀ t < s.main.created, (s.workers t).Sound t s.now
  waiting : ∀ t, s.main.created ≤ t → (s.workers t).point = none
  returned : ∀ t < s.main.joined, (s.workers t).point = some .returned
  stands : s.main.Stands s.workers

theorem foldl_add_ofNat (durations : List Nat) (combined : BitVec 64) :
    (durations.map (BitVec.ofNat 64)).foldl (fun sum latency => sum + latency) combined =
      combined + BitVec.ofNat 64 durations.sum := by
  induction durations generalizing combined with
  | nil => simp
  | cons duration rest ih =>
    rw [List.map_cons, List.foldl_cons, ih, List.sum_cons, BitVec.ofNat_add, BitVec.add_assoc]

/-- The sums over the records of the threads are those over their slow stores. -/
theorem sums_eq {workers : Nat → Worker} (threads : List Nat)
    (recorded : ∀ t ∈ threads, (workers t).arg.latencies =
      ((workers t).durations.filter slow).map (BitVec.ofNat 64))
    (total : Nat) (combined : BitVec 64) :
    threads.foldl (fun total i => total + (workers i).arg.faultCount) total =
        total + (threads.flatMap fun t => (workers t).durations.filter slow).length ∧
      threads.foldl (fun combined i => (List.range (workers i).arg.faultCount).foldl
          (fun combined j => combined + (workers i).arg.faultLatencies j) combined) combined =
        combined +
          BitVec.ofNat 64 (threads.flatMap fun t => (workers t).durations.filter slow).sum := by
  induction threads generalizing total combined with
  | nil => simp
  | cons t threads ih =>
    obtain ⟨first, others⟩ := List.forall_mem_cons.mp recorded
    obtain ⟨count, sum⟩ := ih others (total + (workers t).arg.faultCount)
      (combined + BitVec.ofNat 64 ((workers t).durations.filter slow).sum)
    have own : (workers t).arg.faultCount = ((workers t).durations.filter slow).length := by
      simpa [ThreadArg.latencies] using congrArg List.length first
    constructor
    · rw [List.foldl_cons, count, List.flatMap_cons, List.length_append, own, Nat.add_assoc]
    · rw [List.foldl_cons, ← List.foldl_map (f := (workers t).arg.faultLatencies)
        (g := fun sum latency => sum + latency)]
      change threads.foldl _ ((workers t).arg.latencies.foldl _ combined) = _
      rw [first, foldl_add_ofNat, sum, List.flatMap_cons, List.sum_append, BitVec.ofNat_add,
        BitVec.add_assoc]

theorem metrics_average {workers : Nat → Worker} {now : Nat}
    (sound : ∀ t < 4, (workers t).Sound t now) (startTotal endTotal : Timespec) :
    (metrics workers startTotal endTotal).avgFaultLatencyNs = average workers := by
  obtain ⟨count, sum⟩ := sums_eq (List.range 4)
    (fun t member => (sound t (List.mem_range.mp member)).latencies) 0 0#64
  simp only [metrics, average, totalFaultsRecorded, combinedLatency, count, sum, Nat.zero_add,
    BitVec.zero_add]

variable {matrix : Nat → BitVec 32} {s s' : Benchmark}

theorem start_sound (workers : Nat → Worker) (now : Nat) :
    (start matrix workers now).Sound matrix where
  matrix index := by
    have before : ¬ index < 1024 * (index / 1024) := by omega
    exact (if_neg before).symm
  running t inside := absurd inside (Nat.not_lt_zero t)
  waiting _ _ := rfl
  returned t inside := absurd inside (Nat.not_lt_zero t)
  stands := trivial

/-- A thread that takes a turn has been created and has not returned. -/
theorem Sound.active (sound : s.Sound matrix) {t : Nat} {turned : Worker × (Nat → BitVec 32)}
    (turn : (s.workers t).turn s.now s.matrix = some turned) :
    t < s.main.created ∧ s.main.joined ≤ t := by
  constructor
  · by_contra outside
    rw [Worker.turn, sound.waiting t (Nat.not_lt.mp outside)] at turn
    cases turn
  · by_contra inside
    rw [Worker.turn, sound.returned t (Nat.not_le.mp inside)] at turn
    cases turn

theorem Sound.worker (sound : s.Sound matrix) {t : Nat} {turned : Worker × (Nat → BitVec 32)}
    (turn : (s.workers t).turn s.now s.matrix = some turned) :
    Sound matrix { s with
      workers := Function.update s.workers t turned.1
      matrix := turned.2 } := by
  obtain ⟨inside, active⟩ := sound.active turn
  obtain ⟨runs, stored⟩ := (sound.running t inside).turn turn
  refine ⟨fun index => ?_, fun u before => ?_, fun u outside => ?_, fun u before => ?_, ?_⟩
  · have before := sound.matrix index
    dsimp only
    by_cases own : index / 1024 = t
    · rw [own] at before ⊢
      rw [Function.update_self]
      rcases stored with ⟨same, filled⟩ | ⟨same, filled, -⟩
      · rw [same, filled, before]
      · rw [same, filled]
        by_cases here : index = (s.workers t).filled t
        · rw [← here, Function.update_self, filledTo, if_pos (Nat.lt_succ_self index)]
        · rw [Function.update_of_ne here, before]
          refine if_congr ?_ rfl rfl
          omega
    · rw [Function.update_of_ne own]
      rcases stored with ⟨same, -⟩ | ⟨same, -, page⟩
      · rw [same, before]
      · rw [same, Function.update_of_ne _, before]
        rintro rfl
        exact own page
  · dsimp only
    by_cases own : u = t
    · subst own
      rw [Function.update_self]
      exact runs
    · rw [Function.update_of_ne own]
      exact sound.running u before
  · have other : u ≠ t := by
      rintro rfl
      exact absurd inside (Nat.not_lt.mpr outside)
    dsimp only
    rw [Function.update_of_ne other]
    exact sound.waiting u outside
  · have other : u ≠ t := by
      rintro rfl
      exact absurd active (Nat.not_le.mpr before)
    dsimp only
    rw [Function.update_of_ne other]
    exact sound.returned u before
  · have stands := sound.stands
    dsimp only
    cases point : s.main with
    | startTotal | create | join | endTotal | failure =>
      rw [point] at stands
      exact stands
    | validate | success =>
      -- once the caller has its metrics no thread is left to take a turn
      rw [point] at inside active
      exact absurd inside (Nat.not_lt.mpr active)

/-- A thread starts at the first row of its page. -/
theorem createWorker_filled (t : Nat) : (createWorker t).filled t = 1024 * t := by
  have row : (threadArg t).row (threadArg t).startRow = .startFault (t * rowsPerThread) 0 := by
    refine if_pos ?_
    simp only [threadArg, rowsPerThread, matrixDim]
    omega
  rw [Worker.filled, createWorker, row]
  simp only [linearIndex, rowsPerThread, matrixDim]
  omega

theorem created_le (stands : s.main.Stands s.workers) : s.main.created ≤ 4 := by
  cases point : s.main with
  | create i start =>
    rw [point] at stands
    exact Nat.le_of_lt stands
  | startTotal | join | endTotal | validate | failure | success =>
    simp only [BenchmarkPoint.created]
    omega

/-- Once all threads have been joined the matrix is what it should be. -/
theorem Sound.filled (sound : s.Sound matrix) (all : s.main.joined = 4) (index : Nat) :
    s.matrix index = filledTo index (matrixDim * matrixDim) (matrix index) := by
  rw [sound.matrix]
  by_cases inside : index / 1024 < 4
  · have returned := sound.returned (index / 1024) (by omega)
    have filled : (s.workers (index / 1024)).filled (index / 1024) = 1024 * (index / 1024 + 1) := by
      rw [Worker.filled, returned]
    rw [filled, filledTo, filledTo, if_pos (by omega), if_pos (by simp only [matrixDim]; omega)]
  · have waiting := sound.waiting _ ((created_le sound.stands).trans (Nat.not_lt.mp inside))
    have filled : (s.workers (index / 1024)).filled (index / 1024) = 1024 * (index / 1024) := by
      rw [Worker.filled, waiting]
    rw [filled, filledTo, filledTo, if_neg (by omega), if_neg (by simp only [matrixDim]; omega)]

theorem Sound.create (sound : s.Sound matrix) {i : Nat} {startTotal : Timespec}
    (here : s.main = .create i startTotal) : Sound matrix { s with
      workers := Function.update s.workers i (createWorker i)
      main := .nextCreate i startTotal } := by
  obtain ⟨contents, running, waiting, -, stands⟩ := sound
  rw [here] at running waiting stands
  have inside : i < 4 := stands
  have created : (BenchmarkPoint.nextCreate i startTotal).created = i + 1 := by
    unfold BenchmarkPoint.nextCreate
    split
    · rfl
    next last =>
      change 4 = i + 1
      omega
  refine ⟨fun index => ?_, fun t before => ?_, fun t outside => ?_, fun t early => ?_, ?_⟩
  · dsimp only
    rw [contents]
    by_cases own : index / 1024 = i
    · rw [own, Function.update_self, createWorker_filled, Worker.filled, waiting i le_rfl]
    · rw [Function.update_of_ne own]
  · dsimp only at before ⊢
    rw [created] at before
    by_cases own : t = i
    · rw [own, Function.update_self]
      exact Worker.createWorker_sound i s.now
    · rw [Function.update_of_ne own]
      exact running t (Nat.lt_of_le_of_ne (Nat.le_of_lt_succ before) own)
  · dsimp only at outside ⊢
    rw [created] at outside
    rw [Function.update_of_ne (Nat.ne_of_gt outside)]
    exact waiting t (Nat.le_of_succ_le outside)
  · have none : (BenchmarkPoint.nextCreate i startTotal).joined = 0 := by
      unfold BenchmarkPoint.nextCreate
      split <;> rfl
    dsimp only at early
    rw [none] at early
    exact absurd early (Nat.not_lt_zero t)
  · dsimp only [BenchmarkPoint.nextCreate]
    split
    next more => exact more
    next last => exact Nat.zero_lt_succ 3

/-- The caller goes on to a point with as many threads, of which one more may be joined. -/
theorem Sound.goOn (sound : s.Sound matrix) {main : BenchmarkPoint}
    (created : main.created = s.main.created)
    (returned : ∀ t < main.joined, (s.workers t).point = some .returned)
    (stands : main.Stands s.workers) : Sound matrix { s with main := main } where
  matrix := sound.matrix
  running t before := sound.running t (created ▸ before)
  waiting t outside := sound.waiting t (created ▸ outside)
  returned := returned
  stands := stands

theorem Sound.mainStep (sound : s.Sound matrix) (next : s.mainStep = some s') :
    s'.Sound matrix := by
  have stands := sound.stands
  unfold Benchmark.mainStep at next
  split at next
  next here =>
    cases next
    refine sound.goOn ?_ (fun t early => absurd early (Nat.not_lt_zero t)) (Nat.zero_lt_succ 3)
    rw [here]
    rfl
  next i startTotal here =>
    cases next
    exact sound.create here
  next i startTotal here =>
    rw [here] at stands
    have inside : i < 4 := stands
    split at next
    next returned =>
      cases next
      have before := sound.returned
      rw [here] at before
      refine sound.goOn ?_ (fun t early => ?_) ?_
      · rw [here]
        unfold BenchmarkPoint.nextJoin
        split <;> rfl
      · have early : t < i + 1 := by
          unfold BenchmarkPoint.nextJoin at early
          split at early
          · exact early
          next last =>
            have : t < 4 := early
            omega
        by_cases own : t = i
        · rw [own, returned]
        · exact before t (Nat.lt_of_le_of_ne (Nat.le_of_lt_succ early) own)
      · unfold BenchmarkPoint.nextJoin
        split
        next more => exact more
        · trivial
    · cases next
  next startTotal here =>
    cases next
    have running := sound.running
    have returned := sound.returned
    rw [here] at running returned
    refine sound.goOn ?_ returned ⟨by decide, metrics_average running _ _⟩
    rw [here]
    rfl
  next i metrics here =>
    have filled := sound.filled (by rw [here]; rfl)
    have returned := sound.returned
    rw [here] at stands returned
    obtain ⟨inside, average⟩ := stands
    have right : s.matrix i = expectedVal i := by rw [filled, filledTo, if_pos inside]
    rw [if_neg (not_not.mpr right)] at next
    cases next
    unfold BenchmarkPoint.nextValidate
    split
    next more => exact sound.goOn (by rw [here]; rfl) returned ⟨more, average⟩
    · exact sound.goOn (by rw [here]; rfl) returned average
  all_goals cases next

theorem Sound.step (sound : s.Sound matrix) {e : BenchmarkEvent} (next : s.step e = some s') :
    s'.Sound matrix := by
  cases e with
  | tick ns =>
    cases next
    exact { sound with
      running := fun t before => (sound.running t before).later (Nat.le_add_right _ _) }
  | worker t =>
    obtain ⟨turned, turn, rfl⟩ := Option.map_eq_some_iff.mp next
    exact sound.worker turn
  | main => exact sound.mainStep next

/-! ### How far it still is to the end -/

/-- The steps of thread `t` that are left. -/
def stepsLeft (t : Nat) (w : Worker) : Nat :=
  match w.point with
  | some (.startFault i j) => 3 * (1024 * (t + 1) - linearIndex i j)
  | some (.transform i j _) => 3 * (1024 * (t + 1) - linearIndex i j) - 1
  | some (.endFault i j _) => 3 * (1024 * (t + 1) - linearIndex i j) - 2
  | some .returned | none => 0

/-- The steps of the caller that are left. -/
def mainLeft : BenchmarkPoint → Nat
  | .startTotal => 4106
  | .create i _ => 4105 - i
  | .join i _ => 4101 - i
  | .endTotal _ => 4097
  | .validate i _ => 4096 - i
  | .failure _ _ | .success _ => 0

/-- The steps of the caller, and of the thread that it waits for. -/
def rank (s : Benchmark) : Nat :=
  4000 * mainLeft s.main +
    match s.main with
    | .join i _ => stepsLeft i (s.workers i)
    | _ => 0

theorem stepsLeft_le {t : Nat} {w : Worker} {now : Nat} (sound : w.Sound t now) :
    stepsLeft t w ≤ 3072 := by
  obtain ⟨p, here, stands⟩ := sound.stands
  unfold stepsLeft
  rw [here]
  cases p with
  | startFault i j | transform i j start | endFault i j start =>
    have := stands.1.page
    dsimp only
    omega
  | returned => exact Nat.zero_le _

/-- A thread that has not returned takes a turn, whatever the others do. -/
theorem turn_of_active {t now : Nat} {w : Worker} (sound : w.Sound t now)
    (active : w.point ≠ some .returned) (matrix : Nat → BitVec 32) :
    ∃ turned, w.turn now matrix = some turned ∧ stepsLeft t turned.1 < stepsLeft t w := by
  obtain ⟨p, here, stands⟩ := sound.stands
  unfold Worker.turn
  rw [here]
  cases p with
  | startFault i j =>
    have := stands.1.page
    refine ⟨_, rfl, ?_⟩
    simp only [stepsLeft, here]
    omega
  | transform i j start =>
    have := stands.1.page
    refine ⟨_, rfl, ?_⟩
    simp only [stepsLeft, here]
    omega
  | endFault i j start =>
    have inside := stands.1.page
    refine ⟨_, rfl, ?_⟩
    have left : stepsLeft t w = 3 * (1024 * (t + 1) - linearIndex i j) - 2 := by
      simp only [stepsLeft, here]
    obtain ⟨first, last, column⟩ := stands.1
    rw [left]
    simp only [stepsLeft, ThreadArg.nextElement, ThreadArg.row, linearIndex, matrixDim] at *
    by_cases inRow : j + 1 < 64
    · rw [if_pos inRow]
      dsimp only
      omega
    · rw [if_neg inRow]
      by_cases more : i + 1 < w.arg.endRow
      · rw [if_pos more]
        dsimp only
        omega
      · rw [if_neg more]
        dsimp only
        omega
  | returned => exact absurd here active

/-- Until it has succeeded, the caller takes a step or the thread that it waits for does. -/
theorem Sound.progress (sound : s.Sound matrix)
    (unfinished : ¬ ∃ metrics, s.main = .success metrics) :
    ∃ e s', s.step e = some s' ∧ s'.rank < s.rank := by
  have stands := sound.stands
  have bounded (t : Nat) (before : t < s.main.created) := stepsLeft_le (sound.running t before)
  have next : s.step .main = s.mainStep := rfl
  unfold Benchmark.mainStep at next
  cases here : s.main with
  | startTotal =>
    rw [here] at next
    refine ⟨.main, _, next, ?_⟩
    simp only [rank, mainLeft, here]
    omega
  | create i startTotal =>
    rw [here] at next stands
    have inside : i < 4 := stands
    refine ⟨.main, _, next, ?_⟩
    simp only [rank, mainLeft, here, BenchmarkPoint.nextCreate]
    by_cases more : i + 1 < 4
    · rw [if_pos more]
      dsimp only
      omega
    · rw [if_neg more]
      have joins := stepsLeft_le ((sound.create here).running 0 (by
        simp only [BenchmarkPoint.nextCreate, if_neg more, BenchmarkPoint.created]
        omega))
      dsimp only at joins ⊢
      omega
  | join i startTotal =>
    rw [here] at next stands bounded
    have inside : i < 4 := stands
    by_cases returned : (s.workers i).point = some .returned
    · dsimp only at next
      rw [returned] at next
      refine ⟨.main, _, next, ?_⟩
      have before := bounded i inside
      simp only [rank, mainLeft, here, BenchmarkPoint.nextJoin]
      by_cases more : i + 1 < 4
      · have joins := bounded (i + 1) more
        rw [if_pos more]
        dsimp only
        omega
      · rw [if_neg more]
        dsimp only
        omega
    · have running := sound.running i (by rw [here]; exact inside)
      obtain ⟨turned, turn, fewer⟩ := turn_of_active running returned s.matrix
      refine ⟨.worker i, _, congrArg (Option.map _) turn, ?_⟩
      simp only [rank, here, Function.update_self]
      exact Nat.add_lt_add_left fewer _
  | endTotal startTotal =>
    rw [here] at next
    refine ⟨.main, _, next, ?_⟩
    simp only [rank, mainLeft, here]
    omega
  | validate i metrics =>
    have filled := sound.filled (by rw [here]; rfl) i
    rw [here] at next stands
    have right : s.matrix i = expectedVal i := by rw [filled, filledTo, if_pos stands.1]
    dsimp only at next
    rw [if_neg (not_not.mpr right)] at next
    refine ⟨.main, _, next, ?_⟩
    have inside : i < 4096 := stands.1
    simp only [rank, mainLeft, here, BenchmarkPoint.nextValidate]
    by_cases more : i + 1 < matrixDim * matrixDim
    · rw [if_pos more]
      dsimp only
      omega
    · rw [if_neg more]
      dsimp only
      omega
  | failure i metrics =>
    rw [here] at stands
    exact stands.elim
  | success metrics => exact absurd ⟨metrics, here⟩ unfinished

/-- From a sound state the benchmark can get to its end. -/
theorem Sound.finishes (sound : s.Sound matrix) :
    ∃ s', Runs.Run Benchmark.step (fun _ _ => True) s s' ∧
      ∃ metrics, s'.main = .success metrics := by
  refine Runs.Run.complete (fun rank (s : Benchmark) => s.Sound matrix ∧ s.rank = rank)
    (fun s : Benchmark => ∃ metrics, s.main = .success metrics) ?_ ⟨sound, rfl⟩
  rintro rank s ⟨sound, rfl⟩ unfinished
  obtain ⟨e, s', next, lower⟩ := sound.progress unfinished
  exact ⟨e, s', s'.rank, trivial, next, ⟨sound.step next, rfl⟩, lower⟩

end Benchmark

/-- What the stack holds before the threads are created. -/
def unsetWorkers : Nat → Worker := fun _ => ⟨⟨7, 7, fun _ => 7, 7⟩, none, 7, [7]⟩

end TeleportVM
