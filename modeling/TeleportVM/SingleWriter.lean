import TeleportVM.Coverage

/-!
Single writer or many readers. Every install maps the page read-write, so two holders are
two writers: the property holds while a page is read only by a node that holds it alone.
-/
namespace TeleportVM

variable {Page : Type}

namespace PageState

/-- A read is handled only when no other node holds the page, unless the coordinator finds
the page present. -/
def SoleReaders (T : Topology) (s : PageState Page) : PageLabel Page → Prop
  | .request r isWrite => isWrite = false → ¬ (r = T.coordinator ∧ s.Present T r) →
    s.entry.holders ⊆ {r}
  | _ => True

instance (T : Topology) (s : PageState Page) (label : PageLabel Page) :
    Decidable (s.SoleReaders T label) :=
  match label with
  | .request r isWrite =>
    inferInstanceAs (Decidable (isWrite = false → ¬ (r = T.coordinator ∧ s.Present T r) →
      s.entry.holders ⊆ {r}))
  | .join _ | .store _ _ | .enqueue _ _ | .overflow _ | .forward _ | .receive _ | .reply _
  | .ack _ => isTrue trivial

/-- One holder in the directory, one copy in the cluster. -/
structure Exclusive (T : Topology) (s : PageState Page) : Prop where
  covered : Covered T s
  sole : ∃ x, s.entry.holders ⊆ {x}
  writing : s.Live → s.slot.type = .requestPageWrite
  copies : ∃ x, ∀ n, s.HasCopy T n → n = x

variable {T : Topology} {s taken s' : PageState Page} {n r : Nat} {isWrite : Bool}
  {label : PageLabel Page}

/-- An owner that can be asked is a holder. -/
theorem Fetchable.holder (ok : PageOk T s) (fetchable : s.Fetchable r) :
    s.entry.ownerNodeId ∈ s.entry.holders := by
  have owner := (T.workers_valid _ (ok.joined fetchable.1)).ne_zero
  obtain ⟨-, shape⟩ := ok.entry
  cases state : s.entry.state <;> simp only [state] at shape
  · simp [GpdEntry.holders, state]
  · exact absurd shape.1 owner
  · exact absurd shape.1 owner

/-- A read that finds no other holder does not ask an owner. -/
theorem SoleReaders.unowned (ok : PageOk T s) (takes : Takes T s r isWrite taken)
    (sole : s.SoleReaders T (.request r isWrite)) (absent : ¬ s.Present T r)
    (owned : taken.Fetchable r) : isWrite = true := by
  by_contra read
  rw [Bool.not_eq_true] at read
  have fetchable := takes.fetchable.mp owned
  exact fetchable.2 (Finset.mem_singleton.mp
    (sole read (fun both => absent both.2) (fetchable.holder ok)))

theorem toShared_sole (ok : PageOk T s) (member : r ∈ T.nodes) (sole : s.entry.holders ⊆ {r}) :
    ∃ x, (s.entry.toShared r).holders ⊆ {x} := by
  refine ⟨r, ?_⟩
  rw [toShared_holders _ ok.entry _ (T.valid_of_mem member)]
  exact Finset.insert_subset (Finset.mem_singleton_self r) sole

theorem ownedBy_sole (r : Nat) : ∃ x, (GpdEntry.ownedBy r).holders ⊆ {x} :=
  ⟨r, by rw [ownedBy_holders]⟩

theorem initial_exclusive [Zero Page] : Exclusive T (.initial : PageState Page) where
  covered := initial_covered
  sole := ⟨0, by simp [initial, GpdEntry.holders]⟩
  writing live := by simp [Live, initial] at live
  copies := ⟨0, fun n copy => by simp [HasCopy, initial, Mapping.isMapped] at copy⟩

variable [Zero Page]

/-- What the entry and the recorded type become. -/
theorem sole_of_move (ok : PageOk T s) (exclusive : Exclusive T s)
    (readers : s.SoleReaders T label) (move : Move T s label s') :
    (∃ x, s'.entry.holders ⊆ {x}) ∧ (s'.Live → s'.slot.type = .requestPageWrite) := by
  have same : (∃ x, s.entry.holders ⊆ {x}) ∧ (s.Live → s.slot.type = .requestPageWrite) :=
    ⟨exclusive.sole, exclusive.writing⟩
  cases move with
  | join => exact same
  | store => exact same
  | enqueue => exact same
  | overflow => exact same
  | forward => exact same
  | receivePage => simpa [Live] using same
  | receiveFetch => exact same
  | receiveInvalidate => exact same
  | readPresent taken takes => simpa only [Live, takes.entry, takes.slot] using same
  | upgrade taken takes => simpa [Live, takes.slot] using same.2
  | upgradeWait => simp
  -- a read is served only while nobody else is listed
  | fetch r isWrite fd taken takes absent owned =>
    refine ⟨by simpa [takes.entry] using same.1, fun _ => ?_⟩
    simp [readers.unowned ok takes absent owned, Node.requestType]
  | zeroLocal isWrite taken takes absent =>
    refine ⟨?_, by simpa [Live, takes.slot] using same.2⟩
    cases isWrite with
    | true => exact ownedBy_sole _
    | false =>
      exact toShared_sole ok T.coordinator_mem (readers rfl fun both => absent both.2)
  | zeroRead r taken takes worker absent =>
    refine ⟨?_, by simpa [Live, takes.slot] using same.2⟩
    exact toShared_sole ok (T.worker_mem worker) (readers rfl fun both => absent both.2)
  | serveRead r page taken takes worker =>
    refine ⟨?_, by simpa [Live, takes.slot] using same.2⟩
    exact toShared_sole ok (T.worker_mem worker)
      (readers rfl fun both => T.ne_coordinator worker both.1)
  | serveWrite r page taken takes => simpa [Live, takes.slot] using same.2
  | serveWriteWait => simp
  | unsolicited => simpa [Live] using same
  | replyRead o page rest worker head live read => exact absurd (same.2 live) read
  | replyWrite => simp [Live]
  | replyWriteWait o page rest worker head live write => simp [write]
  | ackIgnored => exact same
  | ackCounted => exact same
  | ackLift => simpa [Live] using same.1
  | ackGrant => simpa [Live] using same.1

/-- While acknowledgements are collected no copy is added. -/
theorem copies_of_move (covered : Covered T s) (serial : s.Serial T label)
    (move : Move T s label s') (busy : 0 < s'.slot.expectedAcks) (copy : s'.HasCopy T n) :
    s.HasCopy T n := by
  have idle (free : ¬ s.Live) := covered.account.free_idle free
  cases move with
  | join => exact copy
  | store v page member writable =>
    refine copy.setMapping ?_
    cases mapping : s.mapping v <;> simp [mapping, Mapping.isWritable, Mapping.isMapped] at writable ⊢
  | enqueue => exact copy
  | overflow => exact copy
  | forward => exact copy
  | receivePage w page rest worker head =>
    rcases copy.accept with rfl | before
    · exact Or.inr ⟨worker, .page page, by simp [head], rfl⟩
    · exact before.of id fun _ found _ => Links.mem_of_pop head found
  | receiveFetch w page rest worker head =>
    exact copy.of id fun _ found _ => Links.mem_of_pop head found
  | receiveInvalidate w rest worker head =>
    refine copy.of ?_ fun _ found _ => Links.mem_of_pop head found
    by_cases own : n = w
    · subst own; simp [Mapping.isMapped]
    · simp [own]
  | readPresent taken takes => exact copy.takes takes
  -- a request that starts no collection finds none: the page is free
  | upgrade taken takes =>
    simp [takes.slot, idle (serial.free (by simp))] at busy
  | upgradeWait taken takes =>
    exact (copy.broadcast.same (s := taken) rfl rfl).takes takes
  | fetch => simp at busy
  | zeroLocal isWrite taken takes absent =>
    simp [takes.slot, idle (serial.free fun both => absent both.2.2)] at busy
  | zeroRead r taken takes worker =>
    simp [takes.slot, idle (serial.free fun both => T.ne_coordinator worker both.1)] at busy
  | serveRead r page taken takes worker =>
    simp [takes.slot, idle (serial.free fun both => T.ne_coordinator worker both.1)] at busy
  | serveWrite r page taken takes worker =>
    simp [takes.slot, idle (serial.free fun both => T.ne_coordinator worker both.1)] at busy
  | serveWriteWait r page fd taken takes =>
    exact ((copy.broadcast.same (s := taken.dropIf (s.GivesUp T r) T.coordinator) rfl
      rfl).dropIf.1).takes takes
  | unsolicited o page rest worker head free =>
    exact absurd free (covered.account.fetched (transfers_of_page worker head)).1
  | replyRead o page rest worker head =>
    simp [(covered.account.fetched (transfers_of_page worker head)).2] at busy
  | replyWrite o page rest worker head =>
    simp [(covered.account.fetched (transfers_of_page worker head)).2] at busy
  | replyWriteWait o page rest worker head =>
    exact (copy.broadcast.same (s := PageState.dropIf { s with up := Function.update s.up o rest }
      _ T.coordinator) rfl rfl).dropIf.1.same rfl rfl
  | ackIgnored => exact copy
  | ackCounted => exact copy
  | ackLift => simp at busy
  | ackGrant => simp at busy

theorem exclusive_of_move (ok : PageOk T s) (exclusive : Exclusive T s)
    (orderly : s.Orderly T label) (readers : s.SoleReaders T label) (move : Move T s label s') :
    Exclusive T s' := by
  have covered := covered_of_move ok exclusive.covered orderly.1 orderly.2 move
  obtain ⟨sole, writing⟩ := sole_of_move ok exclusive readers move
  refine ⟨covered, sole, writing, ?_⟩
  by_cases idle : s'.slot.expectedAcks = 0
  · obtain ⟨x, sole⟩ := sole
    exact ⟨x, fun n copy => Finset.mem_singleton.mp (sole (covered.listed idle n copy))⟩
  · obtain ⟨x, copies⟩ := exclusive.copies
    exact ⟨x, fun n copy => copies n
      (copies_of_move exclusive.covered orderly.1 move (Nat.pos_of_ne_zero idle) copy)⟩

end PageState

variable [Zero Page]

/-- The steps that keep one copy: orderly, and no read of a page that another node holds. -/
def PageState.Solitary (T : Topology) (v : PageState Page) (label : PageLabel Page) : Prop :=
  v.Orderly T label ∧ v.SoleReaders T label

omit [Zero Page] in
instance (T : Topology) (v : PageState Page) (label : PageLabel Page) :
    Decidable (v.Solitary T label) := inferInstanceAs (Decidable (_ ∧ _))

/-- While nobody reads a page that another node holds, a writable copy is the only copy. -/
theorem single_writer_or_readers (T : Topology) (p : Nat) (inRange : p < T.numPages)
    (s : Cluster Page)
    (run : Runs.Run (Cluster.step T) (Cluster.Meets T p (PageState.Solitary T))
      (Cluster.initial T) s) :
    ∀ n ∈ T.nodes, ((s.node n).mapping p).isWritable = true →
      ∀ m ∈ T.nodes, m ≠ n → ((s.node m).mapping p).isMapped = false := by
  have exclusive : PageState.Exclusive T (s.pageState T p) :=
    page_invariant inRange (fun _ exclusive => exclusive.covered.account.counting)
      PageState.initial_exclusive
      (fun _ _ _ ok solitary exclusive move =>
        PageState.exclusive_of_move ok exclusive solitary.1 solitary.2 move) run
  obtain ⟨x, copies⟩ := exclusive.copies
  intro n _ writable m _ other
  by_contra mapped
  rw [Bool.not_eq_false] at mapped
  have owner := copies n (Or.inl (Mapping.isMapped_of_isWritable writable))
  exact other ((copies m (Or.inl mapped)).trans owner.symm)

theorem single_writer_or_readers_handover : ∃ s : Cluster PageBytes,
    ((s.node 3).mapping 0).isWritable = true ∧ ((s.node 2).mapping 0).isMapped = false := by
  obtain ⟨s, run, writable⟩ := Runs.exists_run (Cluster.step twoWorkers)
    (Cluster.Meets twoWorkers 0 (PageState.Solitary twoWorkers)) (Cluster.initial twoWorkers)
    writeThenWrite (fun s => ((s.node 3).mapping 0).isWritable = true) (by decide +kernel)
  exact ⟨s, writable, single_writer_or_readers twoWorkers 0 (by decide) s run 3 (by decide) writable
    2 (by decide) (by decide)⟩

/-- Workers 2 and 3 read page 0 one after the other. -/
def readThenRead : List (Event PageBytes) :=
  [.toCoordinator 2, .toCoordinator 3] ++ readMiss 2 0 ++ [.toCoordinator 2, .toWorker 2] ++
    readMiss 3 0 ++ [.toCoordinator 3, .toWorker 3]

/-- Two readers are two writers. -/
theorem two_writers : ¬ ∀ (T : Topology) (p : Nat), p < T.numPages → ∀ s : Cluster PageBytes,
    Runs.Run (Cluster.step T) (fun _ e => e.isEviction = false) (Cluster.initial T) s →
    ∀ n ∈ T.nodes, ((s.node n).mapping p).isWritable = true →
      ∀ m ∈ T.nodes, m ≠ n → ((s.node m).mapping p).isMapped = false := by
  intro claim
  obtain ⟨s, run, writable, mapped⟩ := Runs.exists_run (Cluster.step twoWorkers)
    (fun _ e => e.isEviction = false) (Cluster.initial twoWorkers) readThenRead
    (fun s => ((s.node 2).mapping 0).isWritable = true ∧ ((s.node 3).mapping 0).isMapped = true)
    (by decide +kernel)
  have absent := claim twoWorkers 0 (by decide) s run 2 (by decide) writable 3 (by decide) (by decide)
  rw [mapped] at absent
  cases absent

end TeleportVM
