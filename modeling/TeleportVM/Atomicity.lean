import TeleportVM.RequestQueue
import TeleportVM.PacketAccesses
import TeleportVM.Lib.Monitors

/-!
The lines of the functions that work under a lock: those of the request queue, and the two
transitions of a directory entry. Whatever lines other threads run in between, a call does what the
model of the whole function does.
-/
namespace TeleportVM

open Monitors

variable {T : Type} [DecidableEq T]

/-! ### The request queue -/

/-- The lines of `queue_push` and `queue_pop` between the lock and the unlock. -/
inductive QueueLine where
  | isFull (req : PageRequest)
  | storeData (req : PageRequest)
  | advanceTail
  | grow
  | notify
  | isEmpty (outReq : PageRequest)
  | readHead
  | advanceHead (outReq : PageRequest)
  | shrink (outReq : PageRequest)

inductive QueueResult where
  | pushed (code : Int)
  | popped (outReq : PageRequest) (code : Int)

namespace QueueLine

def run (q : RequestQueue) : QueueLine → (QueueLine ⊕ QueueResult) × RequestQueue
  | .isFull req =>
    (if q.size = queueCapacity then .inr (.pushed (-1)) else .inl (.storeData req), q)
  | .storeData req => (.inl .advanceTail, { q with data := Function.update q.data q.tail req })
  | .advanceTail => (.inl .grow, { q with tail := (q.tail + 1) % queueCapacity })
  | .grow => (.inl .notify, { q with size := q.size + 1 })
  | .notify => (.inr (.pushed 0), { q with notifyFd := q.notifyFd.write 1 })
  | .isEmpty outReq => (if q.size = 0 then .inr (.popped outReq (-1)) else .inl .readHead, q)
  | .readHead => (.inl (.advanceHead (q.data q.head)), q)
  | .advanceHead outReq => (.inl (.shrink outReq), { q with head := (q.head + 1) % queueCapacity })
  | .shrink outReq => (.inr (.popped outReq 0), { q with size := q.size - 1 })

/-- What the lines before it have done to the queue that the call found. -/
inductive Reached (found : RequestQueue) : QueueCall → QueueLine → RequestQueue → Prop where
  | isFull (req : PageRequest) : Reached found (.push req) (.isFull req) found
  | storeData (req : PageRequest) (room : found.size ≠ queueCapacity) :
      Reached found (.push req) (.storeData req) found
  | advanceTail (req : PageRequest) (room : found.size ≠ queueCapacity) :
      Reached found (.push req) .advanceTail
        { found with data := Function.update found.data found.tail req }
  | grow (req : PageRequest) (room : found.size ≠ queueCapacity) :
      Reached found (.push req) .grow { found with
        data := Function.update found.data found.tail req
        tail := (found.tail + 1) % queueCapacity }
  | notify (req : PageRequest) (room : found.size ≠ queueCapacity) :
      Reached found (.push req) .notify { found with
        data := Function.update found.data found.tail req
        tail := (found.tail + 1) % queueCapacity
        size := found.size + 1 }
  | isEmpty (outReq : PageRequest) : Reached found (.pop outReq) (.isEmpty outReq) found
  | readHead (outReq : PageRequest) (some : found.size ≠ 0) :
      Reached found (.pop outReq) .readHead found
  | advanceHead (outReq : PageRequest) (some : found.size ≠ 0) :
      Reached found (.pop outReq) (.advanceHead (found.data found.head)) found
  | shrink (outReq : PageRequest) (some : found.size ≠ 0) :
      Reached found (.pop outReq) (.shrink (found.data found.head))
        { found with head := (found.head + 1) % queueCapacity }

variable {found q q' : RequestQueue} {c : QueueCall} {l l' : QueueLine} {r : QueueResult}

theorem Reached.next (reached : Reached found c l q) (next : l.run q = (.inl l', q')) :
    Reached found c l' q' := by
  cases reached with
  | isFull req =>
    simp only [run] at next
    split at next
    · cases next
    next room =>
      cases next
      exact .storeData req room
  | isEmpty outReq =>
    simp only [run] at next
    split at next
    · cases next
    next some =>
      cases next
      exact .readHead outReq some
  | storeData req room =>
    cases next
    exact .advanceTail req room
  | advanceTail req room =>
    cases next
    exact .grow req room
  | grow req room =>
    cases next
    exact .notify req room
  | readHead outReq some =>
    cases next
    exact .advanceHead outReq some
  | advanceHead outReq some =>
    cases next
    exact .shrink outReq some
  | notify | shrink => cases next

end QueueLine

/-- What the function does when nobody interferes. -/
def QueueCall.Does (found q : RequestQueue) : QueueCall → QueueResult → Prop
  | .push req, r => q = (found.queuePush req).1 ∧ r = .pushed (found.queuePush req).2
  | .pop outReq, r => q = (found.queuePop outReq).1 ∧
      r = .popped (found.queuePop outReq).2.1 (found.queuePop outReq).2.2

theorem QueueLine.Reached.ends {found q q' : RequestQueue} {c : QueueCall} {l : QueueLine}
    {r : QueueResult} (reached : Reached found c l q) (last : l.run q = (.inr r, q')) :
    c.Does found q' r := by
  cases reached with
  | isFull req =>
    simp only [run] at last
    split at last
    next full =>
      cases last
      simp [QueueCall.Does, RequestQueue.push_full full]
    · cases last
  | isEmpty outReq =>
    simp only [run] at last
    split at last
    next empty =>
      cases last
      simp [QueueCall.Does, RequestQueue.pop_empty empty]
    · cases last
  | notify req room =>
    cases last
    simp [QueueCall.Does, RequestQueue.queuePush, room]
  | shrink outReq some =>
    cases last
    simp [QueueCall.Does, RequestQueue.queuePop, some]
  | storeData | advanceTail | grow | readHead | advanceHead => cases last

def queueMonitor : Monitor Unit QueueCall QueueLine QueueResult RequestQueue where
  key _ := ()
  first
    | .push req => .isFull req
    | .pop outReq => .isEmpty outReq
  line l q := l.run q

def queueOutline : Outline queueMonitor where
  at_ c found l q := QueueLine.Reached found c l q
  post c found r q := c.Does found q r
  first c found := by
    cases c with
    | push req => exact .isFull req
    | pop outReq => exact .isEmpty outReq
  next := QueueLine.Reached.next
  ends := QueueLine.Reached.ends

/-- The requests whose push has returned 0. -/
def pushedBy (calls : List (QueueCall × QueueResult)) : List PageRequest :=
  calls.filterMap fun
    | (.push req, .pushed code) => if code = 0 then some req else none
    | _ => none

/-- The requests that pops have returned. -/
def poppedBy (calls : List (QueueCall × QueueResult)) : List PageRequest :=
  calls.filterMap fun
    | (_, .popped outReq code) => if code = 0 then some outReq else none
    | _ => none

/-- The calls one after the other are the calls of a log. -/
theorem log_of_sequential {h : QueueLog} {calls : List (QueueCall × QueueResult)} {q : RequestQueue}
    (sequential : queueOutline.Sequential h.queue calls q) :
    (calls.map Prod.fst).foldl QueueLog.call h =
      ⟨q, h.pushed ++ pushedBy calls, h.popped ++ poppedBy calls⟩ := by
  induction calls generalizing h with
  | nil =>
    obtain rfl : q = h.queue := sequential
    simp [pushedBy, poppedBy]
  | cons call calls ih =>
    obtain ⟨c, r⟩ := call
    obtain ⟨q₁, does, rest⟩ := sequential
    have after : (h.call c).queue = q₁ := by
      cases c with
      | push req => exact does.1.symm
      | pop outReq => exact does.1.symm
    rw [← after] at rest
    rw [List.map_cons, List.foldl_cons, ih rest]
    cases c with
    | push req =>
      obtain ⟨-, rfl⟩ := does
      by_cases code : (h.queue.queuePush req).2 = 0 <;>
        simp [QueueLog.call, pushedBy, poppedBy, code]
    | pop outReq =>
      obtain ⟨-, rfl⟩ := does
      by_cases code : (h.queue.queuePop outReq).2.2 = 0 <;>
        simp [QueueLog.call, pushedBy, poppedBy, code]

/-- Any threads push and pop, and their lines interleave in any order: what has been popped is the
beginning of what has been pushed, in that order, and when nobody holds the lock the ring holds the
rest. -/
theorem queue_calls_atomic (q : RequestQueue)
    {s : State T Unit QueueCall QueueLine QueueResult RequestQueue}
    (run : Runs.Run queueMonitor.step (fun _ _ => True) (start fun _ => q.queueInit) s) :
    poppedBy s.calls <+: pushedBy s.calls ∧
      (s.holder () = none → (s.data ()).WellFormed ∧
        pushedBy s.calls = poppedBy s.calls ++ (s.data ()).held) := by
  obtain ⟨left, atomic⟩ := queueOutline.atomic_run run
  have replays := atomic.replays ()
  have all : queueMonitor.callsOn s () = s.calls := List.filter_eq_self.mpr fun _ _ => by simp
  rw [all] at replays
  have tracks := QueueLog.tracks_calls (QueueLog.start_tracks q) (s.calls.map Prod.fst)
  have log := log_of_sequential (h := QueueLog.start q) replays
  rw [log] at tracks
  have pushed : pushedBy s.calls = poppedBy s.calls ++ (left ()).held := by
    simpa [QueueLog.start] using tracks.pushed
  refine ⟨⟨_, pushed.symm⟩, fun free => ?_⟩
  rw [atomic.free () free]
  exact ⟨tracks.wellFormed, pushed⟩

/-- What the memory of a queue holds before `queue_init`. -/
def unsetQueue : RequestQueue := ⟨fun _ => ⟨0, false⟩, 7, 7, 7, ⟨0, false⟩⟩

/-- A thread comes for the lock between two lines of a push, and pops what was pushed. -/
theorem queue_calls_atomic_popped :
    ∃ s : State Bool Unit QueueCall QueueLine QueueResult RequestQueue,
      Runs.Run queueMonitor.step (fun _ _ => True) (start fun _ => unsetQueue.queueInit) s ∧
      (poppedBy s.calls).length = 1 ∧ pushedBy s.calls = poppedBy s.calls ++ (s.data ()).held := by
  obtain ⟨s, run, free, popped⟩ := Runs.exists_run queueMonitor.step (fun _ _ => True)
    (start fun _ => unsetQueue.queueInit)
    [.call false (.push ⟨3, true⟩), .acquire false, .line false, .call true (.pop ⟨0, false⟩),
      .line false, .line false, .line false, .line false, .release false, .acquire true, .line true,
      .line true, .line true, .line true, .release true]
    (fun s : State Bool Unit QueueCall QueueLine QueueResult RequestQueue =>
      s.holder () = none ∧ (poppedBy s.calls).length = 1) (by decide +kernel)
  exact ⟨s, run, popped, ((queue_calls_atomic unsetQueue run).2 free).2⟩

/-! ### The transitions of the directory -/

/-- The lines of `gpd_transition_to_shared` and `gpd_transition_to_modified` between the lock and
the unlock; each loads or stores one field of the entry. -/
inductive GpdLine where
  | sharedLoadState (readingNode : Nat)
  | sharedLoadOwner (readingNode : Nat) (currentState : MsiState)
  | sharedStoreState (readingNode : Nat) (currentState : MsiState) (oldOwner : Nat)
  | sharedStoreOwner (readingNode : Nat) (currentState : MsiState) (oldOwner : Nat)
  | sharedLoadMask (readingNode oldOwner : Nat)
  | sharedStoreMask (oldOwner : Nat) (mask : BitVec 64)
  | modifiedLoadState (writingNode : Nat)
  | modifiedLoadOwner (writingNode : Nat)
  | modifiedLoadMask (writingNode : Nat)
  | modifiedStoreState (writingNode : Nat) (invalidateMask : BitVec 64)
  | modifiedStoreOwner (writingNode : Nat) (invalidateMask : BitVec 64)
  | modifiedStoreMask (invalidateMask : BitVec 64)

inductive GpdResult where
  | oldOwner (node : Nat)
  | invalidateMask (mask : BitVec 64)

namespace GpdLine

/-- `holders_mask & ~(1ULL << writing_node)`, and on to the stores. -/
def invalidating (writingNode : Nat) (holdersMask : BitVec 64) : GpdLine ⊕ GpdResult :=
  .inl (.modifiedStoreState writingNode (holdersMask &&& ~~~nodeBit writingNode))

def run (e : GpdEntry) : GpdLine → (GpdLine ⊕ GpdResult) × GpdEntry
  | .sharedLoadState r => (.inl (.sharedLoadOwner r e.state), e)
  | .sharedLoadOwner r currentState => (.inl (.sharedStoreState r currentState e.ownerNodeId), e)
  | .sharedStoreState r currentState oldOwner =>
    (.inl (.sharedStoreOwner r currentState oldOwner), { e with state := .shared })
  | .sharedStoreOwner r currentState oldOwner =>
    (if currentState = .modified then
      .inl (.sharedStoreMask oldOwner (nodeBit oldOwner ||| nodeBit r))
    else .inl (.sharedLoadMask r oldOwner), { e with ownerNodeId := 0 })
  | .sharedLoadMask r oldOwner =>
    (.inl (.sharedStoreMask oldOwner (e.sharedNodesBitmap ||| nodeBit r)), e)
  | .sharedStoreMask oldOwner mask =>
    (.inr (.oldOwner oldOwner), { e with sharedNodesBitmap := mask })
  | .modifiedLoadState w =>
    (match e.state with
      | .modified => .inl (.modifiedLoadOwner w)
      | .shared => .inl (.modifiedLoadMask w)
      | .invalid => invalidating w 0, e)
  | .modifiedLoadOwner w =>
    (invalidating w (if e.ownerNodeId ≠ 0 then nodeBit e.ownerNodeId else 0), e)
  | .modifiedLoadMask w => (invalidating w e.sharedNodesBitmap, e)
  | .modifiedStoreState w mask => (.inl (.modifiedStoreOwner w mask), { e with state := .modified })
  | .modifiedStoreOwner w mask => (.inl (.modifiedStoreMask mask), { e with ownerNodeId := w })
  | .modifiedStoreMask mask => (.inr (.invalidateMask mask), { e with sharedNodesBitmap := 0 })

end GpdLine

namespace GpdCall

/-- The entry that the transition leaves. -/
def after (found : GpdEntry) : GpdCall → GpdEntry
  | .toShared _ r => found.toShared r
  | .toModified _ w => .ownedBy w

def result (found : GpdEntry) : GpdCall → GpdResult
  | .toShared _ _ => .oldOwner found.ownerNodeId
  | .toModified _ w => .invalidateMask (found.invalidateMask w)

end GpdCall

namespace GpdLine

/-- What the lines before it have done to the entry that the call found. -/
inductive Reached (found : GpdEntry) : GpdCall → GpdLine → GpdEntry → Prop where
  | sharedLoadState (p r : Nat) : Reached found (.toShared p r) (.sharedLoadState r) found
  | sharedLoadOwner (p r : Nat) :
      Reached found (.toShared p r) (.sharedLoadOwner r found.state) found
  | sharedStoreState (p r : Nat) : Reached found (.toShared p r)
      (.sharedStoreState r found.state found.ownerNodeId) found
  | sharedStoreOwner (p r : Nat) : Reached found (.toShared p r)
      (.sharedStoreOwner r found.state found.ownerNodeId) { found with state := .shared }
  | sharedLoadMask (p r : Nat) (other : found.state ≠ .modified) : Reached found (.toShared p r)
      (.sharedLoadMask r found.ownerNodeId) ⟨.shared, 0, found.sharedNodesBitmap⟩
  | sharedStoreMask (p r : Nat) : Reached found (.toShared p r)
      (.sharedStoreMask found.ownerNodeId (found.toShared r).sharedNodesBitmap)
      ⟨.shared, 0, found.sharedNodesBitmap⟩
  | modifiedLoadState (p w : Nat) : Reached found (.toModified p w) (.modifiedLoadState w) found
  | modifiedLoadOwner (p w : Nat) (owned : found.state = .modified) :
      Reached found (.toModified p w) (.modifiedLoadOwner w) found
  | modifiedLoadMask (p w : Nat) (shared : found.state = .shared) :
      Reached found (.toModified p w) (.modifiedLoadMask w) found
  | modifiedStoreState (p w : Nat) : Reached found (.toModified p w)
      (.modifiedStoreState w (found.invalidateMask w)) found
  | modifiedStoreOwner (p w : Nat) : Reached found (.toModified p w)
      (.modifiedStoreOwner w (found.invalidateMask w)) { found with state := .modified }
  | modifiedStoreMask (p w : Nat) : Reached found (.toModified p w)
      (.modifiedStoreMask (found.invalidateMask w)) ⟨.modified, w, found.sharedNodesBitmap⟩

variable {found e e' : GpdEntry} {c : GpdCall} {l l' : GpdLine} {r : GpdResult}

theorem Reached.next (reached : Reached found c l e) (next : l.run e = (.inl l', e')) :
    Reached found c l' e' := by
  cases reached with
  | sharedLoadState p r =>
    cases next
    exact .sharedLoadOwner p r
  | sharedLoadOwner p r =>
    cases next
    exact .sharedStoreState p r
  | sharedStoreState p r =>
    cases next
    exact .sharedStoreOwner p r
  | sharedStoreOwner p r =>
    simp only [run] at next
    split at next
    next owned =>
      cases next
      have mask :
          (found.toShared r).sharedNodesBitmap = nodeBit found.ownerNodeId ||| nodeBit r := by
        simp [GpdEntry.toShared, owned]
      rw [← mask]
      exact .sharedStoreMask p r
    next other =>
      cases next
      exact .sharedLoadMask p r other
  | sharedLoadMask p r other =>
    cases next
    have mask : (found.toShared r).sharedNodesBitmap = found.sharedNodesBitmap ||| nodeBit r := by
      simp [GpdEntry.toShared, other]
    dsimp only
    rw [← mask]
    exact .sharedStoreMask p r
  | modifiedLoadState p w =>
    simp only [run] at next
    split at next
    next owned =>
      cases next
      exact .modifiedLoadOwner p w owned
    next shared =>
      cases next
      exact .modifiedLoadMask p w shared
    next invalid =>
      cases next
      have mask : found.invalidateMask w = 0 &&& ~~~nodeBit w := by
        simp [GpdEntry.invalidateMask, GpdEntry.holdersMask, invalid]
      rw [← mask]
      exact .modifiedStoreState p w
  | modifiedLoadOwner p w owned =>
    cases next
    have mask : found.invalidateMask w =
        (if found.ownerNodeId ≠ 0 then nodeBit found.ownerNodeId else 0) &&& ~~~nodeBit w := by
      simp [GpdEntry.invalidateMask, GpdEntry.holdersMask, owned]
    rw [← mask]
    exact .modifiedStoreState p w
  | modifiedLoadMask p w shared =>
    cases next
    have mask : found.invalidateMask w = found.sharedNodesBitmap &&& ~~~nodeBit w := by
      simp [GpdEntry.invalidateMask, GpdEntry.holdersMask, shared]
    rw [← mask]
    exact .modifiedStoreState p w
  | modifiedStoreState p w =>
    cases next
    exact .modifiedStoreOwner p w
  | modifiedStoreOwner p w =>
    cases next
    exact .modifiedStoreMask p w
  | sharedStoreMask | modifiedStoreMask => cases next

theorem Reached.ends (reached : Reached found c l e) (last : l.run e = (.inr r, e')) :
    e' = c.after found ∧ r = c.result found := by
  cases reached with
  | sharedStoreMask p r =>
    cases last
    refine ⟨?_, rfl⟩
    simp only [GpdCall.after, GpdEntry.toShared]
    split <;> rfl
  | modifiedStoreMask p w =>
    cases last
    exact ⟨rfl, rfl⟩
  | sharedStoreOwner p r =>
    simp only [run] at last
    split at last <;> cases last
  | modifiedLoadState p w =>
    simp only [run] at last
    split at last <;> cases last
  | sharedLoadState | sharedLoadOwner | sharedStoreState | sharedLoadMask | modifiedLoadOwner
  | modifiedLoadMask | modifiedStoreState | modifiedStoreOwner => cases last

/-- In the middle of a transition each field is as before it or as after it. -/
theorem Reached.fields (reached : Reached found c l e) :
    (e.state = found.state ∨ e.state = (c.after found).state) ∧
      (e.ownerNodeId = found.ownerNodeId ∨ e.ownerNodeId = (c.after found).ownerNodeId) ∧
      e.sharedNodesBitmap = found.sharedNodesBitmap := by
  have shared (r : Nat) :
      (found.toShared r).state = .shared ∧ (found.toShared r).ownerNodeId = 0 := by
    unfold GpdEntry.toShared
    split <;> exact ⟨rfl, rfl⟩
  cases reached with
  | sharedStoreOwner p r => exact ⟨Or.inr (shared r).1.symm, Or.inl rfl, rfl⟩
  | sharedLoadMask p r | sharedStoreMask p r =>
    exact ⟨Or.inr (shared r).1.symm, Or.inr (shared r).2.symm, rfl⟩
  | modifiedStoreOwner p w => exact ⟨Or.inr rfl, Or.inl rfl, rfl⟩
  | modifiedStoreMask p w => exact ⟨Or.inr rfl, Or.inr rfl, rfl⟩
  | sharedLoadState | sharedLoadOwner | sharedStoreState | modifiedLoadState | modifiedLoadOwner
  | modifiedLoadMask | modifiedStoreState => exact ⟨Or.inl rfl, Or.inl rfl, rfl⟩

end GpdLine

/-- `transaction_lock` of each entry. -/
def gpdMonitor : Monitor Nat GpdCall GpdLine GpdResult GpdEntry where
  key := GpdCall.pageIndex
  first
    | .toShared _ r => .sharedLoadState r
    | .toModified _ w => .modifiedLoadState w
  line l e := l.run e

def gpdOutline : Outline gpdMonitor where
  at_ c found l e := GpdLine.Reached found c l e
  post c found r e := e = c.after found ∧ r = c.result found
  first c found := by
    cases c with
    | toShared p r => exact .sharedLoadState p r
    | toModified p w => exact .modifiedLoadState p w
  next := GpdLine.Reached.next
  ends := GpdLine.Reached.ends

/-- What a whole call returns; `none` when it returns `false`. -/
def Directory.answer (d : Directory) : GpdCall → Option GpdResult
  | .toShared p r => (gpdTransitionToShared d p r).map fun done => .oldOwner done.2
  | .toModified p w => (gpdTransitionToModified d p w).map fun done => .invalidateMask done.2

/-- Each call returned what it does on the directory that the calls before it leave. -/
def Directory.Answers : Directory → List (GpdCall × GpdResult) → Prop
  | _, [] => True
  | d, (c, r) :: rest => d.answer c = some r ∧ Directory.Answers (d.call c) rest

theorem answer_eq {d : Directory} {c : GpdCall} (inside : c.pageIndex < d.numPages) :
    d.answer c = some (c.result (d.entry c.pageIndex)) := by
  cases c with
  | toShared p r =>
    simp [Directory.answer, gpdTransitionToShared_eq d p r inside, GpdCall.result, GpdCall.pageIndex]
  | toModified p w =>
    simp [Directory.answer, gpdTransitionToModified_eq d p w inside, GpdCall.result,
      GpdCall.pageIndex]

theorem call_entry {d : Directory} {c : GpdCall} (inside : c.pageIndex < d.numPages) :
    (d.call c).entry = Function.update d.entry c.pageIndex (c.after (d.entry c.pageIndex)) := by
  cases c with
  | toShared p r =>
    simp [Directory.call, gpdTransitionToShared_eq d p r inside, Directory.setEntry, GpdCall.after,
      GpdCall.pageIndex]
  | toModified p w =>
    simp [Directory.call, gpdTransitionToModified_eq d p w inside, Directory.setEntry, GpdCall.after,
      GpdCall.pageIndex]

theorem foldl_call_numPages (d : Directory) (calls : List GpdCall) :
    (calls.foldl Directory.call d).numPages = d.numPages := by
  induction calls generalizing d with
  | nil => rfl
  | cons c calls ih => exact (ih (d.call c)).trans (call_numPages d c)

/-- The calls on each page in their order give all calls in the order of their ends. -/
theorem answers_of_sequential {d : Directory} {calls : List (GpdCall × GpdResult)}
    {left : Nat → GpdEntry} (inside : ∀ call ∈ calls, call.1.pageIndex < d.numPages)
    (sequential : ∀ p, gpdOutline.Sequential (d.entry p)
      (calls.filter fun call => call.1.pageIndex = p) (left p)) :
    d.Answers calls ∧ left = ((calls.map Prod.fst).foldl Directory.call d).entry := by
  induction calls generalizing d with
  | nil => exact ⟨trivial, funext sequential⟩
  | cons call calls ih =>
    obtain ⟨c, r⟩ := call
    have first : c.pageIndex < d.numPages := inside (c, r) List.mem_cons_self
    have own := sequential c.pageIndex
    rw [List.filter_cons_of_pos (by simp)] at own
    obtain ⟨after, ⟨rfl, rfl⟩, rest⟩ := own
    have later : ∀ p, gpdOutline.Sequential ((d.call c).entry p)
        (calls.filter fun call => call.1.pageIndex = p) (left p) := by
      intro p
      rw [call_entry first]
      by_cases same : p = c.pageIndex
      · rw [same, Function.update_self]
        exact rest
      · have other := sequential p
        rw [List.filter_cons_of_neg (by simpa using Ne.symm same)] at other
        rw [Function.update_of_ne same]
        exact other
    have ranged : ∀ call ∈ calls, call.1.pageIndex < (d.call c).numPages := by
      intro call member
      rw [call_numPages]
      exact inside call (List.mem_cons_of_mem _ member)
    obtain ⟨answers, entries⟩ := ih ranged later
    exact ⟨⟨answer_eq first, answers⟩, entries⟩

/-- The index is in range: past that check each function takes the lock of the entry. -/
def GpdInRange (numPages : Nat) : Action T GpdCall → Prop
  | .call _ c => c.pageIndex < numPages
  | .acquire _ | .line _ | .release _ => True

instance (numPages : Nat) : DecidablePred (GpdInRange numPages : Action T GpdCall → Prop)
  | .call _ _ => Nat.decLt _ _
  | .acquire _ | .line _ | .release _ => isTrue trivial

/-- What a thread without the lock can load from an entry that a call is changing. -/
structure GpdEntry.Between (before after e : GpdEntry) : Prop where
  state : e.state = before.state ∨ e.state = after.state
  owner : e.ownerNodeId = before.ownerNodeId ∨ e.ownerNodeId = after.ownerNodeId
  mask : e.sharedNodesBitmap = before.sharedNodesBitmap ∨
    e.sharedNodesBitmap = after.sharedNodesBitmap

/-- Any threads call the two transitions, and their lines interleave in any order: the calls that
have returned did what they do one after the other, in the order in which they unlocked; an entry
whose lock is free is as they left it, and in one whose lock is taken each field is as they left it
or as the call under way will leave it. -/
theorem gpd_calls_atomic (d : Directory) {s : State T Nat GpdCall GpdLine GpdResult GpdEntry}
    (run : Runs.Run gpdMonitor.step (fun _ a => GpdInRange d.numPages a) (start d.entry) s) :
    let now := (s.calls.map Prod.fst).foldl Directory.call d
    d.Answers s.calls ∧
      (∀ p, s.holder p = none → s.data p = now.entry p) ∧
      ∀ p t, s.holder p = some t → ∃ c, (s.phase t).About c ∧ c.pageIndex = p ∧
        GpdEntry.Between (now.entry p) ((now.call c).entry p) (s.data p) := by
  intro now
  obtain ⟨left, atomic⟩ := gpdOutline.atomic_run run
  obtain ⟨under, returned⟩ :=
    calls_of_run (fun c => c.pageIndex < d.numPages) run fun _ _ _ allowed => allowed
  obtain ⟨answers, entries⟩ := answers_of_sequential returned atomic.replays
  refine ⟨answers, fun p free => ?_, fun p t held => ?_⟩
  · rw [atomic.free p free, entries]
  · obtain ⟨c, page, holds⟩ := atomic.holds p t held
    obtain rfl : c.pageIndex = p := page
    refine ⟨c, holds.about, rfl, ?_⟩
    have inside : c.pageIndex < now.numPages := by
      rw [foldl_call_numPages]
      exact under t c holds.about
    have found : left c.pageIndex = now.entry c.pageIndex := congrFun entries _
    rw [call_entry inside, Function.update_self, ← found]
    cases phase : s.phase t with
    | idle | waits =>
      rw [phase] at holds
      exact holds.elim
    | inside o l =>
      rw [phase] at holds
      obtain rfl : o = c := holds
      obtain ⟨state, owner, mask⟩ := (atomic.inside t o l phase).2.fields
      exact ⟨state, owner, Or.inl mask⟩
    | ends o r =>
      rw [phase] at holds
      obtain rfl : o = c := holds
      have after : s.data (gpdMonitor.key o) = o.after (left (gpdMonitor.key o)) :=
        (atomic.ends t o r phase).2.1
      change GpdEntry.Between _ (o.after (left (gpdMonitor.key o))) (s.data (gpdMonitor.key o))
      rw [after]
      exact ⟨Or.inr rfl, Or.inr rfl, Or.inr rfl⟩

/-- A writer has stored the new state and not yet the new owner, while a reader waits that had read
the page before. -/
theorem gpd_calls_atomic_upgrade :
    ∃ s : State Bool Nat GpdCall GpdLine GpdResult GpdEntry,
      Runs.Run gpdMonitor.step (fun _ a => GpdInRange 4 a) (start (gpdInit 4).entry) s ∧
      s.calls.length = 1 ∧ s.data 0 ≠ (gpdInit 4).entry 0 ∧ (gpdInit 4).Answers s.calls ∧
      ∃ c, (s.phase true).About c ∧ c.pageIndex = 0 := by
  obtain ⟨s, run, held, returned, changed⟩ := Runs.exists_run gpdMonitor.step
    (fun _ a => GpdInRange 4 a) (start (gpdInit 4).entry)
    [.call false (.toShared 0 1), .acquire false, .line false, .call true (.toModified 0 2),
      .line false, .line false, .line false, .line false, .line false, .release false,
      .acquire true, .line true, .line true, .line true, .call false (.toShared 0 1)]
    (fun s : State Bool Nat GpdCall GpdLine GpdResult GpdEntry =>
      s.holder 0 = some true ∧ s.calls.length = 1 ∧ s.data 0 ≠ (gpdInit 4).entry 0)
    (by decide +kernel)
  obtain ⟨answers, -, taken⟩ := gpd_calls_atomic (gpdInit 4) run
  obtain ⟨c, about, page, -⟩ := taken 0 true held
  exact ⟨s, run, returned, changed, answers, c, about, page⟩

end TeleportVM
