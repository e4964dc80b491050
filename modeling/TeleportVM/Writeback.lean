import TeleportVM.Residency
import TeleportVM.SwallowedRead

/-!
Eviction and modified data. A worker decides on the writeback from its own directory, and
only the coordinator's directory ever records an owner: no eviction writes anything back. The
page table goes on calling the page present, so that its next read is not even asked for.
-/
namespace TeleportVM

variable {Page : Type}

/-- The page that the eviction of worker `w` drops. -/
def Cluster.evicts (T : Topology) (s : Cluster Page) (w : Nat) : Option Nat :=
  ((s.node w).dsmExecuteEviction (T.connectFd w)).bind Prod.snd

/-- A step other than a store to page `p`. -/
def Event.sparesPage (p : Nat) : Event Page → Bool
  | .store _ q _ => q != p
  | _ => true

/-- In this step worker `w` sends page `p` to the coordinator, with these contents. -/
def Cluster.SendsPage (w p : Nat) (contents : Page) (s t : Cluster Page) : Prop :=
  ∃ packets, t.toCoordinator w = s.toCoordinator w ++ packets ∧
    ∃ packet ∈ packets, packet.type = .sendPage ∧ packet.pageIndex = p ∧ packet.payload = contents

/-- The directory that the eviction of page `p` by worker `w` looks at, the worker's own, calls the
page `MODIFIED`. -/
def Cluster.WritesBack (s : Cluster Page) (w p : Nat) : Prop :=
  (s.node w).directory.localMsiState (s.node w).localNodeId p = .modified

section Preserves

variable [Zero Page]

/-- What is owed for a page with these contents that worker `w` drops in the last of the events
`es`, which lead to `t`: one of them sent the contents to the coordinator, and until the next store
to the page every node that reads it gets them. -/
structure Cluster.Preserves (T : Topology) (w p : Nat) (contents : Page) (es : List (Event Page))
    (t : Cluster Page) : Prop where
  sent : ∃ before e after a b, es = before ++ e :: after ∧
    Runs.execIf (Cluster.step T) (fun _ _ => True) (Cluster.initial T) before = some a ∧
    a.step T e = some b ∧ Cluster.SendsPage w p contents a b
  read : ∀ u, Runs.Run (Cluster.step T) (fun _ e => e.sparesPage p = true) t u →
    ∀ n ∈ T.nodes, ∀ asked, u.step T (.load n p) = some asked → asked.Reads T n p contents

/-- The eviction that follows the events `es`, from `s` to `t`, preserves page `p` if it drops it
mapped and the coordinator records this worker as its `MODIFIED` owner. -/
def Cluster.EvictsSafely (T : Topology) (w p : Nat) (es : List (Event Page)) (s t : Cluster Page) :
    Prop :=
  s.evicts T w = some p → (s.entry T p).state = .modified ∧ (s.entry T p).ownerNodeId = w →
    ∀ contents, ((s.node w).mapping p).contents = some contents →
      Cluster.Preserves T w p contents (es ++ [.evict w]) t

variable {T : Topology} {s t : Cluster Page} {w p : Nat}

/-- An eviction leaves everything but the mapping of its victim. -/
theorem evicted (ok : ClusterOk T s) (evicts : s.evicts T w = some p)
    (next : s.step T (.evict w) = some t) : (t.node w).mapping p = .unmapped ∧
      (s.Unasked T w p → t.Unasked T w p) := by
  obtain ⟨worker, result, swept, rfl⟩ := Cluster.evictStep_cases next
  obtain ⟨up, down, others⟩ := evict_rest ok next
  have victim : result.2 = some p := by
    rw [Cluster.evicts, swept] at evicts
    exact evicts
  have frame := Node.evicts_dsmExecuteEviction swept
  have page := congrFun (Node.residence_evictionSweep swept).2 p
  rw [victim, Option.elim_some, Function.update_self] at page
  have here : (s.settle T w result.1).node w = { result.1 with effects := [] } :=
    Function.update_self _ _ _
  refine ⟨by rw [here]; exact congrArg Residence.mapping page,
    fun unasked => ⟨?_, ?_, ⟨?_, ?_, ?_⟩, ?_⟩⟩
  · rw [here]
    exact (congrArg Residence.status page).trans unasked.status
  · rw [here]
    exact frame.messages ▸ unasked.reads
  · have queued : queuedFor p (s.node w).sharedReqQueue = [] := unasked.page.queued
    simp only [Cluster.pageState, here]
    exact frame.queue ▸ queued
  · rw [Cluster.pageState, up]
    exact unasked.page.up
  · rw [Cluster.pageState, down]
    exact unasked.page.down
  · rw [Cluster.slot, others _ (T.ne_coordinator worker).symm]
    exact unasked.slot

theorem not_preserves (ok : ClusterOk T s) (inRange : p < T.numPages)
    (evicts : s.evicts T w = some p) (next : s.step T (.evict w) = some t)
    (unasked : s.Unasked T w p) (contents : Page) (es : List (Event Page)) :
    ¬ Cluster.Preserves T w p contents es t := by
  intro preserves
  have worker := (Cluster.evictStep_cases next).1
  obtain ⟨unmapped, still⟩ := evicted ok evicts next
  obtain ⟨asked, load, vain⟩ :=
    read_swallowed (ok.step next) worker inRange (still unasked) unmapped
  exact vain contents (preserves.read t .refl w (T.worker_mem worker) asked load)

end Preserves

/-- Worker 2 writes page 0. The first sweep of its clock clears the access bit of the page,
and the fourth victim is the page itself. -/
def writeThenEvict : List (Event PageBytes) :=
  [.toCoordinator 2] ++ writeMiss 2 0 (fun _ => 7) ++
    [.toCoordinator 2, .toWorker 2, .store 2 0 (fun _ => 7), .evict 2, .evict 2, .evict 2]

theorem exists_owned_victim : ∃ s t : Cluster PageBytes,
    Runs.execIf (Cluster.step twoWorkers) (fun _ _ => True) (Cluster.initial twoWorkers)
      writeThenEvict = some s ∧ s.step twoWorkers (.evict 2) = some t ∧
    s.evicts twoWorkers 2 = some 0 ∧
    ((s.entry twoWorkers 0).state = .modified ∧ (s.entry twoWorkers 0).ownerNodeId = 2) ∧
    ((s.node 2).mapping 0).isMapped = true ∧ s.Unasked twoWorkers 2 0 := by
  obtain ⟨s, executed, enabled, victim⟩ := Runs.exists_exec (Cluster.step twoWorkers)
    (fun _ _ => True) (Cluster.initial twoWorkers) writeThenEvict
    (fun s => (s.step twoWorkers (.evict 2)).isSome = true ∧ s.evicts twoWorkers 2 = some 0 ∧
      ((s.entry twoWorkers 0).state = .modified ∧ (s.entry twoWorkers 0).ownerNodeId = 2) ∧
      ((s.node 2).mapping 0).isMapped = true ∧ s.Unasked twoWorkers 2 0) (by decide +kernel)
  obtain ⟨t, next⟩ := Option.isSome_iff_exists.mp enabled
  exact ⟨s, t, executed, next, victim⟩

/-- That worker 2 has just sent the page for a write of worker 3 does not help its own readers. -/
example : (Runs.execIf (Cluster.step twoWorkers) (fun _ _ => True) (Cluster.initial twoWorkers)
    (writeThenEvict ++ writeMiss 3 0 (fun _ => 8) ++
      [.toCoordinator 3, .toCoordinator 3, .toWorker 2])).any
    (fun s => s.evicts twoWorkers 2 = some 0 ∧ (s.entry twoWorkers 0).ownerNodeId = 2 ∧
      s.Unasked twoWorkers 2 0 ∧ (s.toCoordinator 2).any (·.type = .sendPage)) = true := by
  decide +kernel

end TeleportVM
