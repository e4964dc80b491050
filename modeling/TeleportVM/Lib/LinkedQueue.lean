import Mathlib.Data.List.Nodup
import Mathlib.Logic.Function.Basic

/-!
A queue as a singly linked list in a heap, with a pointer to its first and to its last cell.
`none` is the null pointer, and the heap has no cell at an address that is not allocated.
-/
namespace LinkedQueue

structure Cell (A α : Type*) where
  value : α
  next : Option A

abbrev Heap (A α : Type*) := A → Option (Cell A α)

/-- The pointers that the owner of a queue keeps. -/
structure Ends (A : Type*) where
  head : Option A
  tail : Option A

variable {A α : Type*}

/-- The cells from `start` up to a null pointer, with their addresses. -/
def Chain (heap : Heap A α) : Option A → List (A × α) → Prop
  | start, [] => start = none
  | start, (a, x) :: rest => start = some a ∧ ∃ next, heap a = some ⟨x, next⟩ ∧ Chain heap next rest

/-- The queue consists of these cells: they end, none comes twice, and the tail is the last. -/
structure Holds (heap : Heap A α) (ends : Ends A) (cells : List (A × α)) : Prop where
  chain : Chain heap ends.head cells
  last : ends.tail = cells.getLast?.map Prod.fst
  distinct : (cells.map Prod.fst).Nodup

variable {heap heap' : Heap A α} {start : Option A} {ends : Ends A} {cells : List (A × α)}

/-! ### Chains -/

theorem Chain.cell (chain : Chain heap start cells) {a : A} {x : α} (member : (a, x) ∈ cells) :
    ∃ next, heap a = some ⟨x, next⟩ := by
  induction cells generalizing start with
  | nil => cases member
  | cons first rest ih =>
    obtain ⟨-, next, here, tail⟩ := chain
    rcases List.mem_cons.mp member with rfl | later
    · exact ⟨next, here⟩
    · exact ih tail later

/-- A write elsewhere leaves a chain as it was. -/
theorem Chain.frame (chain : Chain heap start cells)
    (same : ∀ a ∈ cells.map Prod.fst, heap' a = heap a) : Chain heap' start cells := by
  induction cells generalizing start with
  | nil => exact chain
  | cons first rest ih =>
    obtain ⟨begins, next, here, tail⟩ := chain
    refine ⟨begins, next, (same _ (by simp)).trans here, ih tail fun a member => same a ?_⟩
    exact List.mem_cons_of_mem _ member

/-- From one pointer there is one chain. -/
theorem Chain.unique {others : List (A × α)} (chain : Chain heap start cells)
    (other : Chain heap start others) : cells = others := by
  induction cells generalizing start others with
  | nil =>
    cases others with
    | nil => rfl
    | cons second rest => cases chain.symm.trans other.1
  | cons first rest ih =>
    obtain ⟨begins, next, here, tail⟩ := chain
    cases others with
    | nil => cases begins.symm.trans other
    | cons second rest' =>
      obtain ⟨begins', next', here', tail'⟩ := other
      obtain ⟨a, x⟩ := first
      obtain ⟨b, y⟩ := second
      cases begins.symm.trans begins'
      cases here.symm.trans here'
      rw [ih tail tail']

/-- The cells at the addresses of a chain hold its values. -/
theorem Chain.values (chain : Chain heap start cells) :
    (cells.map Prod.fst).filterMap (fun a => (heap a).map Cell.value) = cells.map Prod.snd := by
  induction cells generalizing start with
  | nil => rfl
  | cons first rest ih =>
    obtain ⟨-, next, here, tail⟩ := chain
    simp only [List.map_cons, List.filterMap_cons, here, Option.map_some, ih tail]

theorem Chain.eq_nil_iff (chain : Chain heap start cells) : cells = [] ↔ start = none := by
  cases cells with
  | nil => exact iff_of_true rfl chain
  | cons first rest =>
    obtain ⟨begins, -⟩ := chain
    exact iff_of_false (by simp) (by simp [begins])

variable [DecidableEq A]

/-- Writing the next pointer of the last cell extends the chain by the cell it points to. -/
theorem Chain.extend {last a : A} {x y : α} (chain : Chain heap start (cells ++ [(last, x)]))
    (distinct : ((cells ++ [(last, x)]).map Prod.fst).Nodup)
    (fresh : heap a = none) :
    Chain (Function.update (Function.update heap a (some ⟨y, none⟩)) last (some ⟨x, some a⟩)) start
      (cells ++ [(last, x)] ++ [(a, y)]) := by
  induction cells generalizing start with
  | nil =>
    obtain ⟨begins, next, here, -⟩ := chain
    have apart : a ≠ last := by
      rintro rfl
      cases fresh.symm.trans here
    exact ⟨begins, some a, by simp, rfl, none, by simp [apart], rfl⟩
  | cons first rest ih =>
    obtain ⟨begins, next, here, tail⟩ := chain
    obtain ⟨b, z⟩ := first
    simp only [List.cons_append, List.map_cons, List.nodup_cons] at distinct
    have front : b ≠ last := by
      rintro rfl
      exact distinct.1 (by simp)
    have apart : b ≠ a := by
      rintro rfl
      cases fresh.symm.trans here
    exact ⟨begins, next, by simp [front, apart, here], ih tail distinct.2⟩

/-! ### Append and take -/

/-- Append a new cell at `a`; `none` if the tail pointer is read and points to no cell. -/
def push (heap : Heap A α) (ends : Ends A) (a : A) (x : α) : Option (Heap A α × Ends A) :=
  let allocated := Function.update heap a (some ⟨x, none⟩)
  if ends.head = none then some (allocated, ⟨some a, some a⟩)
  else
    ends.tail.bind fun last =>
      (allocated last).map fun cell =>
        (Function.update allocated last (some { cell with next := some a }), ⟨ends.head, some a⟩)

/-- Take the first cell and free it; `none` if there is no cell at the head. -/
def pop (heap : Heap A α) (ends : Ends A) : Option (α × Heap A α × Ends A) :=
  ends.head.bind fun first =>
    (heap first).map fun cell =>
      (cell.value, Function.update heap first none,
        ⟨cell.next, if cell.next = none then none else ends.tail⟩)

namespace Holds

omit [DecidableEq A] in
theorem frame (holds : Holds heap ends cells)
    (same : ∀ a ∈ cells.map Prod.fst, heap' a = heap a) : Holds heap' ends cells :=
  { holds with chain := holds.chain.frame same }

omit [DecidableEq A] in
theorem empty : Holds heap ⟨none, none⟩ [] := ⟨rfl, rfl, List.nodup_nil⟩

omit [DecidableEq A] in
/-- A queue is empty exactly if both of its pointers are null, and then both are. -/
theorem eq_nil_iff (holds : Holds heap ends cells) :
    (cells = [] ↔ ends.head = none) ∧ (cells = [] ↔ ends.tail = none) := by
  refine ⟨holds.chain.eq_nil_iff, ?_⟩
  rw [holds.last, Option.map_eq_none_iff, List.getLast?_eq_none_iff]

omit [DecidableEq A] in
/-- Queues that share a cell agree on what it holds. -/
theorem value_eq {ends' : Ends A} {others : List (A × α)} (holds : Holds heap ends cells)
    (other : Holds heap ends' others) {a : A} {x y : α} (here : (a, x) ∈ cells)
    (there : (a, y) ∈ others) : x = y := by
  obtain ⟨next, first⟩ := holds.chain.cell here
  obtain ⟨next', second⟩ := other.chain.cell there
  cases first.symm.trans second
  rfl

omit [DecidableEq A] in
theorem not_mem_of_free (holds : Holds heap ends cells) {a : A} (free : heap a = none) :
    a ∉ cells.map Prod.fst := by
  intro member
  obtain ⟨⟨b, x⟩, found, rfl⟩ := List.mem_map.mp member
  obtain ⟨next, here⟩ := holds.chain.cell found
  cases free.symm.trans here

/-- A push succeeds, appends its cell and writes no cell but this one and the last. -/
theorem push (holds : Holds heap ends cells) {a : A} (free : heap a = none) (x : α) :
    ∃ heap' ends', push heap ends a x = some (heap', ends') ∧
      Holds heap' ends' (cells ++ [(a, x)]) ∧
      ∀ b, b ≠ a → b ∉ cells.map Prod.fst → heap' b = heap b := by
  have distinct : ((cells ++ [(a, x)]).map Prod.fst).Nodup := by
    rw [List.map_append, List.map_singleton, List.nodup_append]
    refine ⟨holds.distinct, List.nodup_singleton a, ?_⟩
    rintro b member c fresh rfl
    cases List.mem_singleton.mp fresh
    exact holds.not_mem_of_free free member
  rcases List.eq_nil_or_concat cells with rfl | ⟨front, ⟨last, y⟩, rfl⟩
  · have begins : ends.head = none := holds.chain
    refine ⟨_, _, if_pos begins, ⟨⟨rfl, none, by simp, rfl⟩, rfl, distinct⟩, fun b other _ => ?_⟩
    simp [other]
  · rw [List.concat_eq_append] at holds distinct ⊢
    have begins : ends.head ≠ none := mt holds.eq_nil_iff.1.mpr (by simp)
    have tail : ends.tail = some last := by simp [holds.last]
    obtain ⟨next, here⟩ := holds.chain.cell (a := last) (x := y) (by simp)
    have apart : last ≠ a := by
      rintro rfl
      cases free.symm.trans here
    refine ⟨_, ⟨ends.head, some a⟩, ?_,
      ⟨holds.chain.extend holds.distinct free, by simp, distinct⟩, fun b other outside => ?_⟩
    · simp only [LinkedQueue.push, begins, if_false, tail, Option.bind_some,
        Function.update_of_ne apart, here, Option.map_some]
    · have behind : b ≠ last := by
        rintro rfl
        exact outside (by simp)
      simp [behind, other]

/-- A pop takes the first cell, and only this one is freed. -/
theorem pop {a : A} {x : α} (holds : Holds heap ends ((a, x) :: cells)) :
    ∃ ends', pop heap ends = some (x, Function.update heap a none, ends') ∧
      Holds (Function.update heap a none) ends' cells := by
  obtain ⟨begins, next, here, tail⟩ := holds.chain
  obtain ⟨fresh, distinct⟩ := List.nodup_cons.mp holds.distinct
  have kept : Chain (Function.update heap a none) next cells := tail.frame fun b member => by
    rw [Function.update_of_ne]
    rintro rfl
    exact fresh member
  refine ⟨⟨next, if next = none then none else ends.tail⟩, ?_, kept, ?_, distinct⟩
  · simp only [LinkedQueue.pop, begins, Option.bind_some, here, Option.map_some]
  · cases cells with
    | nil => exact if_pos tail
    | cons second rest =>
      have more : next ≠ none := by simp [tail.1]
      dsimp only
      rw [if_neg more, holds.last, List.getLast?_cons_cons]

end Holds

/-! ### Freeing a queue -/

/-- Free the cells one after the other; `none` if a pointer leads to no cell or the fuel runs out. -/
def freeAll : Nat → Heap A α → Option A → Option (Heap A α × List A)
  | _, heap, none => some (heap, [])
  | 0, _, some _ => none
  | fuel + 1, heap, some a =>
    (heap a).bind fun cell =>
      (freeAll fuel (Function.update heap a none) cell.next).map fun rest => (rest.1, a :: rest.2)

/-- Without the cells at these addresses. -/
def Heap.without (heap : Heap A α) (addresses : List A) : Heap A α :=
  fun a => if a ∈ addresses then none else heap a

theorem Heap.without_nil (heap : Heap A α) : Heap.without heap [] = heap :=
  funext fun _ => if_neg List.not_mem_nil

theorem Heap.without_cons (heap : Heap A α) (a : A) (rest : List A) :
    Heap.without (Function.update heap a none) rest = Heap.without heap (a :: rest) := by
  funext b
  by_cases own : b = a <;> by_cases later : b ∈ rest <;> simp [without, own, later]

theorem Heap.without_append (heap : Heap A α) (first second : List A) :
    Heap.without (Heap.without heap first) second = Heap.without heap (first ++ second) := by
  funext a
  by_cases early : a ∈ first <;> by_cases late : a ∈ second <;> simp [without, early, late]

theorem Chain.freeAll (chain : Chain heap start cells) (distinct : (cells.map Prod.fst).Nodup)
    {fuel : Nat} (enough : cells.length ≤ fuel) : LinkedQueue.freeAll fuel heap start =
      some (heap.without (cells.map Prod.fst), cells.map Prod.fst) := by
  induction cells generalizing heap start fuel with
  | nil =>
    cases show start = none from chain
    cases fuel <;> simp [LinkedQueue.freeAll, Heap.without_nil]
  | cons first rest ih =>
    obtain ⟨a, x⟩ := first
    obtain ⟨rfl, next, here, tail⟩ := chain
    obtain ⟨fresh, distinct⟩ := List.nodup_cons.mp distinct
    obtain ⟨less, rfl⟩ : ∃ less, fuel = less + 1 := ⟨fuel - 1, by simp at enough; omega⟩
    have kept : Chain (Function.update heap a none) next rest := tail.frame fun b member => by
      rw [Function.update_of_ne]
      rintro rfl
      exact fresh member
    simp only [LinkedQueue.freeAll, here, Option.bind_some,
      ih kept distinct (Nat.le_of_succ_le_succ enough), Option.map_some, List.map_cons,
      Heap.without_cons]

end LinkedQueue
