import TeleportVM.Accounting

/-!
Every page that waits has something that will answer it: its request, the pending slot
or the page itself. So a quiet cluster in which no request was recorded over another
transaction has no page that waits.
-/
namespace TeleportVM

variable {Page : Type}

/-- `PAGE_PENDING` or `PAGE_WRITE_PENDING`. -/
def PageStatus.waiting : PageStatus → Bool
  | .pending => true
  | .writePending => true
  | _ => false

namespace PageState

/-- Something is on its way to answer worker `w`. -/
def Served (s : PageState Page) (w : Nat) : Prop :=
  s.queued w ≠ [] ∨ (∃ isWrite, Msg.request isWrite ∈ s.up w) ∨ s.slot.requesterNodeId = w ∨
    ∃ page, Msg.page page ∈ s.down w

/-- Something is on its way to answer the coordinator `c`. A queued read that finds the page
upgrading answers nothing, so an upgrade waits for a queued write. -/
structure SelfServed (c : Nat) (s : PageState Page) : Prop where
  pending : s.status c = .pending → s.queued c ≠ [] ∨ s.slot.requesterNodeId = c
  upgrading : s.status c = .writePending → true ∈ s.queued c ∨ s.slot.requesterNodeId = c

structure Answerable (T : Topology) (s : PageState Page) : Prop where
  account : Accounted T s
  workers : ∀ w ∈ T.workers, (s.status w).waiting = true → s.Served w
  coordinator : SelfServed T.coordinator s

variable {T : Topology} {s taken s' : PageState Page} {w : Nat}

/-- What serves a worker stays, or turns into the page itself. -/
theorem Served.keep (served : s.Served w) (queued : s.queued w ≠ [] → s'.Served w)
    (up : ∀ isWrite, Msg.request isWrite ∈ s.up w → s'.Served w)
    (slot : s.slot.requesterNodeId = w → s'.Served w)
    (down : ∀ page, Msg.page page ∈ s.down w → s'.Served w) : s'.Served w := by
  rcases served with nonempty | ⟨isWrite, found⟩ | recorded | ⟨page, found⟩
  · exact queued nonempty
  · exact up isWrite found
  · exact slot recorded
  · exact down page found

theorem served_of_queued (nonempty : s.queued w ≠ []) : s.Served w := Or.inl nonempty

theorem served_of_up (isWrite : Bool) (found : Msg.request isWrite ∈ s.up w) : s.Served w :=
  Or.inr (Or.inl ⟨isWrite, found⟩)

theorem served_of_slot (recorded : s.slot.requesterNodeId = w) : s.Served w :=
  Or.inr (Or.inr (Or.inl recorded))

theorem served_of_down (page : Page) (found : Msg.page page ∈ s.down w) : s.Served w :=
  Or.inr (Or.inr (Or.inr ⟨page, found⟩))

/-- A move that takes nothing off the queue, the link or the slot of a worker. -/
theorem Served.mono (served : s.Served w) (queued : s'.queued w = s.queued w)
    (up : ∀ isWrite, Msg.request isWrite ∈ s.up w → Msg.request isWrite ∈ s'.up w)
    (slot : s'.slot.requesterNodeId = s.slot.requesterNodeId)
    (down : ∀ page, Msg.page page ∈ s.down w → Msg.page page ∈ s'.down w) : s'.Served w :=
  served.keep (fun nonempty => served_of_queued (by rwa [queued]))
    (fun isWrite found => served_of_up isWrite (up isWrite found))
    (fun recorded => served_of_slot (by rwa [slot]))
    (fun page found => served_of_down page (down page found))

/-- The coordinator handled a request of `r`: the others are served as before, and `r` is
recorded or has its answer. -/
theorem Served.request {r : Nat} {isWrite : Bool} (takes : Takes T s r isWrite taken)
    (served : w ≠ r → s.Served w) (queued : s'.queued = taken.queued) (up : s'.up = taken.up)
    (slot : s.slot.requesterNodeId = w → s'.Served w)
    (down : ∀ page, Msg.page page ∈ s.down w → Msg.page page ∈ s'.down w)
    (answered : w = r → s'.Served w) : s'.Served w := by
  by_cases own : w = r
  · exact answered own
  · obtain ⟨sameQueue, sameUp⟩ := takes.other own
    refine (served own).keep (fun nonempty => served_of_queued ?_)
      (fun isWrite found => served_of_up isWrite ?_) slot
      (fun page found => served_of_down page (down page found))
    · rwa [queued, sameQueue]
    · rwa [up, sameUp]

theorem not_recorded (worker : w ∈ T.workers) (free : ¬ s.Live) : s.slot.requesterNodeId ≠ w :=
  fun recorded => free (by rw [Live, recorded]; exact (T.workers_valid w worker).ne_zero)

theorem dropIf_status_other {c : Prop} [Decidable c] {n : Nat} (apart : w ≠ n) :
    (s.dropIf c n).status w = s.status w := by
  rw [dropIf_status]
  split
  · exact Function.update_of_ne apart _ _
  · rfl

theorem grant_status_other (away : w ≠ T.coordinator) (r : Nat) (page : Page) :
    (s.grant T r page).status w = s.status w := by
  rw [grant_status]
  split
  next own => exact Function.update_of_ne (own ▸ away) _ _
  · rfl

/-- The recorded requester gets its page; everybody else is served as before. -/
theorem Served.grant {page : Page} (served : s.Served w) (queued : taken.queued w = s.queued w)
    (up : ∀ isWrite, Msg.request isWrite ∈ s.up w → Msg.request isWrite ∈ taken.up w)
    (away : w ≠ T.coordinator) (down : ∀ page, Msg.page page ∈ s.down w → Msg.page page ∈ taken.down w) :
    (taken.grant T s.slot.requesterNodeId page).Served w :=
  served.keep (fun nonempty => served_of_queued (by simpa [queued] using nonempty))
    (fun isWrite found => served_of_up isWrite (by simpa using up isWrite found))
    (fun recorded => served_of_down page (by
      rw [recorded]; exact grant_mem T _ _ _ away))
    (fun page found => served_of_down page (mem_grant T _ _ _ (down page found)))

variable [Zero Page]

section Served

variable (worker : w ∈ T.workers) (served : (s.status w).waiting = true → s.Served w)
  (waits : (s'.status w).waiting = true)
include worker served waits

/-- A request that is served or recorded, but not over a live transaction. -/
theorem served_of_request {r : Nat} {isWrite : Bool}
    (undisturbed : s.Undisturbed T (.request r isWrite)) (move : Move T s (.request r isWrite) s') :
    s'.Served w := by
  have away := T.ne_coordinator worker
  cases move with
  | readPresent taken takes present =>
    rw [takes.status] at waits
    exact Served.request takes (fun _ => served waits) rfl rfl
      (fun recorded => served_of_slot (by rwa [takes.slot])) (fun _ found => by rwa [takes.down])
      (fun own => absurd own away)
  | upgrade taken takes present alone =>
    simp only [lift_status, setEntry_status, takes.status, Function.update_of_ne away] at waits
    exact Served.request takes (fun _ => served waits) rfl rfl
      (fun recorded => served_of_slot (by simpa [takes.slot] using recorded))
      (fun _ found => by simpa [takes.down] using found) (fun own => absurd own away)
  | upgradeWait taken takes present others =>
    -- the slot is written over: nobody may be recorded in it
    have free := fun live => undisturbed live (records_upgrade present others)
    simp only [broadcast_status, setSlot_status, setEntry_status, takes.status] at waits
    exact Served.request takes (fun _ => served waits) rfl rfl
      (fun recorded => absurd recorded (not_recorded worker free))
      (fun _ found => mem_broadcast _ _ (by simpa [takes.down] using found))
      (fun own => absurd own away)
  | fetch r isWrite fd taken takes absent owned =>
    have free := fun live => undisturbed live (records_fetch takes absent owned)
    simp only [post_status, setSlot_status, takes.status] at waits
    exact Served.request takes (fun _ => served waits) rfl rfl
      (fun recorded => absurd recorded (not_recorded worker free))
      (fun _ found => mem_post _ _ (by simpa [takes.down] using found))
      (fun own => served_of_slot own.symm)
  | zeroLocal isWrite taken takes absent unowned =>
    simp only [install_status, setEntry_status, takes.status, Function.update_of_ne away] at waits
    exact Served.request takes (fun _ => served waits) rfl rfl
      (fun recorded => served_of_slot (by simpa [takes.slot] using recorded))
      (fun _ found => by simpa [takes.down] using found) (fun own => absurd own away)
  | zeroRead r taken takes _ absent unowned =>
    simp only [post_status, setEntry_status, takes.status] at waits
    exact Served.request takes (fun _ => served waits) rfl rfl
      (fun recorded => served_of_slot (by simpa [takes.slot] using recorded))
      (fun _ found => mem_post _ _ (by simpa [takes.down] using found))
      (fun own => own ▸ served_of_down _ (post_mem _ _ _))
  | serveRead r page taken takes _ valid copied =>
    simp only [post_status, setMapping_status, setEntry_status, takes.status] at waits
    exact Served.request takes (fun _ => served waits) rfl rfl
      (fun recorded => served_of_slot (by simpa [takes.slot] using recorded))
      (fun _ found => mem_post _ _ (by simpa [takes.down] using found))
      (fun own => own ▸ served_of_down _ (post_mem _ _ _))
  | serveWrite r page taken takes _ source alone =>
    have same := dropIf_status_other (s := taken) (c := s.GivesUp T r) away
    simp only [post_status, setEntry_status, same, takes.status] at waits
    exact Served.request takes (fun _ => served waits) (by simp) (by simp)
      (fun recorded => served_of_slot (by simpa [takes.slot] using recorded))
      (fun _ found => mem_post _ _ (by simpa [takes.down] using found))
      (fun own => own ▸ served_of_down _ (post_mem _ _ _))
  | serveWriteWait r page fd taken takes other source others =>
    have free := fun live => undisturbed live (records_wait takes (T.ne_coordinator other) others)
    have same := dropIf_status_other (s := taken) (c := s.GivesUp T r) away
    simp only [broadcast_status, setSlot_status, setEntry_status, same, takes.status] at waits
    exact Served.request takes (fun _ => served waits) (by simp) (by simp)
      (fun recorded => absurd recorded (not_recorded worker free))
      (fun _ found => mem_broadcast _ _ (by simpa [takes.down] using found))
      (fun own => served_of_slot own.symm)

omit worker in
/-- A worker takes a packet: the page ends its wait. -/
theorem served_of_receive {v : Nat} (move : Move T s (.receive v) s') : s'.Served w := by
  cases move with
  | receivePage v page rest _ head =>
    by_cases same : w = v
    · subst same; simp [PageStatus.waiting] at waits
    · simp only [accept_status, Function.update_of_ne same] at waits
      refine (served waits).mono (by simp) (by simp) (by simp) fun page found => ?_
      simpa [same] using found
  | receiveFetch v page rest _ head =>
    exact (served waits).mono rfl (fun _ found => Links.mem_push found) rfl
      (fun _ found => Links.mem_pop head (by simp) found)
  | receiveInvalidate v rest _ head =>
    by_cases same : w = v
    · subst same; simp [PageStatus.waiting] at waits
    · simp only [drop_status, Function.update_of_ne same] at waits
      exact (served waits).mono rfl (fun _ found => Links.mem_push found) rfl
        (fun _ found => Links.mem_pop head (by simp) found)

/-- The coordinator takes a page and sends it to the recorded requester, or waits for
acknowledgements first. -/
theorem served_of_reply (accounted : Accounted T s) {o : Nat} (move : Move T s (.reply o) s') :
    s'.Served w := by
  have away := T.ne_coordinator worker
  cases move with
  | unsolicited o page rest other head free =>
    exact absurd free (accounted.fetched (transfers_of_page other head)).1
  | replyRead o page rest other head live read =>
    simp only [grant_status_other away] at waits
    exact (served waits).grant rfl (fun _ found => Links.mem_pop head (by simp) found) away
      (fun _ => id)
  | replyWrite o page rest other head live write alone =>
    simp only [grant_status_other away, setSlot_status, setEntry_status,
      dropIf_status_other away] at waits
    exact (served waits).grant (by simp)
      (fun _ found => by simpa using Links.mem_pop head (by simp) found) away
      (fun _ found => by simpa using found)
  | replyWriteWait o page rest other head live write others =>
    simp only [broadcast_status, setSlot_status, setEntry_status, dropIf_status_other away] at waits
    exact (served waits).mono (by simp)
      (fun _ found => by simpa using Links.mem_pop head (by simp) found) (by simp)
      (fun _ found => mem_broadcast _ _ (by simpa using found))

/-- The coordinator takes an acknowledgement. -/
theorem served_of_ack {v : Nat} (move : Move T s (.ack v) s') : s'.Served w := by
  have away := T.ne_coordinator worker
  cases move with
  | ackIgnored v rest other head none =>
    exact (served waits).mono rfl (fun _ found => Links.mem_pop head (by simp) found) rfl (fun _ => id)
  | ackCounted v rest other head more =>
    exact (served waits).mono rfl (fun _ found => Links.mem_pop head (by simp) found) rfl (fun _ => id)
  | ackLift v rest other head last own =>
    simp only [lift_status, Function.update_of_ne away, closeSlot_status] at waits
    exact (served waits).keep (fun nonempty => served_of_queued nonempty)
      (fun _ found => served_of_up _ (Links.mem_pop head (by simp) found))
      (fun recorded => absurd (recorded.symm.trans own) away)
      (fun _ found => served_of_down _ found)
  | ackGrant v rest other head last =>
    simp only [grant_status_other away, closeSlot_status] at waits
    exact (served waits).grant rfl (fun _ found => Links.mem_pop head (by simp) found) away
      (fun _ => id)

/-- Every move keeps every waiting worker served. -/
theorem served_of_move (accounted : Accounted T s) {label : PageLabel Page}
    (undisturbed : s.Undisturbed T label) (move : Move T s label s') : s'.Served w := by
  cases label with
  | request r isWrite => exact served_of_request worker served waits undisturbed move
  | receive v => exact served_of_receive served waits move
  | reply o => exact served_of_reply worker served waits accounted move
  | ack v => exact served_of_ack worker served waits move
  | join | store =>
    cases move
    exact (served waits).mono rfl (fun _ => id) rfl (fun _ => id)
  | enqueue n isWrite =>
    cases move with
    | enqueue =>
      by_cases same : w = n
      · subst same; exact served_of_queued (by simp)
      · simp only [setStatus_status, Function.update_of_ne same] at waits
        exact (served waits).mono (by simp [same]) (fun _ => id) rfl (fun _ => id)
  | overflow n =>
    cases move with
    | overflow =>
      by_cases same : w = n
      · subst same; simp [PageStatus.waiting] at waits
      · simp only [setStatus_status, Function.update_of_ne same] at waits
        exact (served waits).mono rfl (fun _ => id) rfl (fun _ => id)
  | forward v =>
    cases move with
    | forward _ isWrite rest _ head =>
      by_cases same : w = v
      · subst same; exact served_of_up isWrite (by simp)
      · exact (served waits).mono (by simp [same]) (fun _ found => Links.mem_push found) rfl (fun _ => id)

end Served

omit [Zero Page] in
theorem SelfServed.of_valid {c : Nat} (valid : s.status c = .valid) : SelfServed c s :=
  ⟨fun waits => by simp [valid] at waits, fun waits => by simp [valid] at waits⟩

omit [Zero Page] in
theorem SelfServed.of_slot {c : Nat} (recorded : s.slot.requesterNodeId = c) : SelfServed c s :=
  ⟨fun _ => Or.inr recorded, fun _ => Or.inr recorded⟩

omit [Zero Page] in
/-- A move that takes nothing from the coordinator, and at most empties its page. -/
theorem SelfServed.keep {c : Nat} (served : SelfServed c s)
    (status : s'.status c = s.status c ∨ s'.status c = .empty) (queued : s'.queued c = s.queued c)
    (slot : s.slot.requesterNodeId = c → s'.slot.requesterNodeId = c) : SelfServed c s' where
  pending waits := by
    rcases status with same | empty
    · rw [queued]; exact (served.pending (same ▸ waits)).imp_right slot
    · simp [empty] at waits
  upgrading waits := by
    rcases status with same | empty
    · rw [queued]; exact (served.upgrading (same ▸ waits)).imp_right slot
    · simp [empty] at waits

omit [Zero Page] in
theorem dropIf_status_cases (condition : Prop) [Decidable condition] (n : Nat) :
    (s.dropIf condition n).status n = s.status n ∨ (s.dropIf condition n).status n = .empty := by
  rw [dropIf_status]
  split
  · exact Or.inr (Function.update_self _ _ _)
  · exact Or.inl rfl

omit [Zero Page] in
/-- The page goes to the recorded requester, the coordinator or another node. -/
theorem SelfServed.grant {r : Nat} {page : Page} (served : SelfServed T.coordinator s)
    (status : taken.status T.coordinator = s.status T.coordinator ∨
      taken.status T.coordinator = .empty)
    (queued : taken.queued T.coordinator = s.queued T.coordinator)
    (slot : s.slot.requesterNodeId = r) : SelfServed T.coordinator (taken.grant T r page) := by
  by_cases own : r = T.coordinator
  · exact .of_valid (by simp [grant_status, own])
  · exact served.keep (by rwa [grant_status, if_neg own]) (by simpa using queued)
      fun recorded => absurd (slot.symm.trans recorded) own

/-- Every move keeps the coordinator's own page served. -/
theorem selfServed_of_move (accounted : Accounted T s) {label : PageLabel Page}
    (undisturbed : s.Undisturbed T label) (move : Move T s label s')
    (served : SelfServed T.coordinator s) : SelfServed T.coordinator s' := by
  have home {w : Nat} (worker : w ∈ T.workers) : T.coordinator ≠ w :=
    (T.ne_coordinator worker).symm
  have unrecorded (free : ¬ s.Live) : s.slot.requesterNodeId ≠ T.coordinator := fun recorded =>
    free (by rw [Live, recorded]; exact T.coordinator_valid.ne_zero)
  cases move with
  | join => exact served.keep (Or.inl rfl) rfl id
  | store => exact served.keep (Or.inl rfl) rfl id
  | enqueue n isWrite member needed =>
    by_cases own : T.coordinator = n
    · subst own
      -- the request that makes the page wait is the one that is queued
      refine ⟨fun _ => Or.inl (by simp), fun waits => Or.inl ?_⟩
      simp only [setStatus_status, Function.update_self, Node.faultStatus] at waits
      split at waits
      next upgrading => simp [upgrading.2]
      · cases waits
    · exact served.keep (Or.inl (by simp [own])) (by simp [own]) id
  | overflow n =>
    by_cases own : T.coordinator = n
    · exact served.keep (Or.inr (by simp [own])) rfl id
    · exact served.keep (Or.inl (by simp [own])) rfl id
  | forward w isWrite rest worker head =>
    exact served.keep (Or.inl rfl) (by simp [home worker]) id
  | receivePage w page rest worker head =>
    exact served.keep (Or.inl (by simp [home worker])) (by simp) (by simp)
  | receiveFetch => exact served.keep (Or.inl rfl) rfl id
  | receiveInvalidate w rest worker =>
    exact served.keep (Or.inl (by simp [home worker])) rfl id
  | readPresent taken takes present =>
    obtain ⟨rest, head, popped⟩ := takes.own_queue
    -- a page that is present is not waited for, and a waiting upgrade has its own request behind this one
    refine ⟨fun waits => ?_, fun waits => ?_⟩
    · rw [takes.status] at waits
      rcases present with valid | ⟨-, upgrading⟩
      · simp [valid] at waits
      · simp [upgrading] at waits
    · rw [takes.status] at waits
      rw [popped, takes.slot]
      have found := served.upgrading waits
      rw [head] at found
      simpa using found
  | upgrade => exact .of_valid (by simp)
  | upgradeWait => exact .of_slot (by simp)
  -- the slot is filled in for the coordinator, or for another node while it is free
  | fetch r isWrite fd taken takes absent owned =>
    by_cases own : r = T.coordinator
    · exact .of_slot (by simpa using own)
    · have free := fun live => undisturbed live (records_fetch takes absent owned)
      exact served.keep (Or.inl (by simp [takes.status]))
        (by simpa using (takes.other (Ne.symm own)).1) fun recorded => absurd recorded (unrecorded free)
  | zeroLocal => exact .of_valid (by simp)
  | zeroRead r taken takes worker =>
    exact served.keep (Or.inl (by simp [takes.status])) (by simpa using (takes.other (home worker)).1)
      (by simp [takes.slot])
  | serveRead r page taken takes worker =>
    exact served.keep (Or.inl (by simp [takes.status])) (by simpa using (takes.other (home worker)).1)
      (by simp [takes.slot])
  | serveWrite r page taken takes worker =>
    refine served.keep ?_ (by simpa using (takes.other (home worker)).1) (by simp [takes.slot])
    simpa [takes.status] using dropIf_status_cases (s := taken) (s.GivesUp T r) T.coordinator
  -- a recorded request of the coordinator would be overwritten, which the run does not do
  | serveWriteWait r page fd taken takes worker source others =>
    have free := fun live => undisturbed live (records_wait takes (T.ne_coordinator worker) others)
    refine served.keep ?_ (by simpa using (takes.other (home worker)).1) fun recorded =>
      absurd recorded (unrecorded free)
    simpa [takes.status] using dropIf_status_cases (s := taken) (s.GivesUp T r) T.coordinator
  | unsolicited o page rest worker head free =>
    exact absurd free (accounted.fetched (transfers_of_page worker head)).1
  | replyRead => exact served.grant (Or.inl rfl) rfl rfl
  | replyWrite o page rest worker =>
    refine served.grant ?_ (by simp) rfl
    exact dropIf_status_cases (s := { s with up := Function.update s.up o rest }) _ T.coordinator
  | replyWriteWait o page rest worker =>
    refine served.keep ?_ (by simp) (by simp)
    exact dropIf_status_cases (s := { s with up := Function.update s.up o rest }) _ T.coordinator
  | ackIgnored => exact served.keep (Or.inl rfl) rfl id
  | ackCounted => exact served.keep (Or.inl rfl) rfl id
  | ackLift => exact .of_valid (by simp)
  | ackGrant => exact served.grant (Or.inl rfl) rfl rfl

theorem answerable_of_move (ok : PageOk T s) (answerable : Answerable T s) {label : PageLabel Page}
    (undisturbed : s.Undisturbed T label) (move : Move T s label s') : Answerable T s' where
  account := accounted_of_move ok answerable.account undisturbed move
  workers w worker waits :=
    served_of_move worker (answerable.workers w worker) waits answerable.account undisturbed move
  coordinator :=
    selfServed_of_move answerable.account undisturbed move answerable.coordinator

theorem initial_answerable : Answerable T (.initial : PageState Page) where
  account := initial_accounted
  workers w _ waits := by simp [initial, PageStatus.waiting] at waits
  coordinator := ⟨by simp [initial], by simp [initial]⟩

omit [Zero Page] in
/-- With nothing queued and nothing on the links, the slot is free and no page waits. -/
theorem Answerable.quiet (answerable : Answerable T s) (queued : ∀ n ∈ T.nodes, s.queued n = [])
    (up : ∀ w ∈ T.workers, s.up w = []) (down : ∀ w ∈ T.workers, s.down w = []) :
    ¬ s.Live ∧ ∀ n ∈ T.nodes, (s.status n).waiting = false := by
  have transfers : s.transfers T = 0 := by
    rw [PageState.transfers, Links.inFlight_eq_zero.mpr, Links.inFlight_eq_zero.mpr]
    · intro w worker m found; simp [up w worker] at found
    · intro w worker m found; simp [down w worker] at found
  have collections : s.collections T = 0 := by
    rw [PageState.collections, Links.inFlight_eq_zero.mpr, Links.inFlight_eq_zero.mpr]
    · intro w worker m found; simp [up w worker] at found
    · intro w worker m found; simp [down w worker] at found
  have free : ¬ s.Live := by
    intro live
    have idle : s.slot.expectedAcks = 0 := by rw [← answerable.account.collections, collections]
    rw [answerable.account.transfers_one live idle] at transfers
    cases transfers
  refine ⟨free, fun n member => ?_⟩
  rw [Bool.eq_false_iff]
  intro waits
  rcases Finset.mem_insert.mp member with rfl | worker
  · have unrecorded : s.slot.requesterNodeId ≠ T.coordinator := fun recorded =>
      free (by rw [Live, recorded]; exact T.coordinator_valid.ne_zero)
    have empty := queued _ member
    cases status : s.status T.coordinator <;> simp only [status, PageStatus.waiting] at waits
    · cases waits
    · exact (answerable.coordinator.pending status).elim (fun found => found empty) unrecorded
    · cases waits
    · exact (answerable.coordinator.upgrading status).elim (fun found => by simp [empty] at found)
        unrecorded
  · rcases answerable.workers n worker waits with found | ⟨b, found⟩ | recorded | ⟨page, found⟩
    · exact found (queued n member)
    · simp [up n worker] at found
    · exact not_recorded worker free recorded
    · simp [down n worker] at found

end PageState

/-- No packet is in flight and no request is queued. -/
def Cluster.Quiet (T : Topology) (s : Cluster Page) : Prop :=
  (∀ w ∈ T.workers, s.toCoordinator w = [] ∧ s.toWorker w = []) ∧
    ∀ n ∈ T.nodes, (s.node n).sharedReqQueue = []

instance (T : Topology) (s : Cluster Page) : Decidable (s.Quiet T) :=
  inferInstanceAs (Decidable (_ ∧ _))

variable [Zero Page]

theorem answerable_of_run {T : Topology} {p : Nat} (inRange : p < T.numPages) {s : Cluster Page}
    (run : Runs.Run (Cluster.step T) (Cluster.Meets T p (PageState.Undisturbed T))
      (Cluster.initial T) s) : PageState.Answerable T (s.pageState T p) :=
  page_invariant inRange (fun _ answerable => answerable.account.counting)
    PageState.initial_answerable
    (fun _ _ _ ok undisturbed answerable move =>
      PageState.answerable_of_move ok answerable undisturbed move) run

/-- When no request is recorded over a recorded transaction, a quiet cluster has answered
every request for the page. -/
theorem answered_when_quiet (T : Topology) (p : Nat) (inRange : p < T.numPages) (s : Cluster Page)
    (run : Runs.Run (Cluster.step T) (Cluster.Meets T p (PageState.Undisturbed T))
      (Cluster.initial T) s) (quiet : s.Quiet T) :
    ∀ n ∈ T.nodes, (s.node n).pageTable p ≠ .pending ∧ (s.node n).pageTable p ≠ .writePending := by
  intro n member
  have settled := (answerable_of_run inRange run).quiet
    (fun m other => by simp [Cluster.pageState, quiet.2 m other, queuedFor])
    (fun w worker => by simp [Cluster.pageState, (quiet.1 w worker).1])
    (fun w worker => by simp [Cluster.pageState, (quiet.1 w worker).2])
  have idle : ((s.node n).pageTable p).waiting = false := settled.2 n member
  constructor
  · intro waits; simp [waits, PageStatus.waiting] at idle
  · intro waits; simp [waits, PageStatus.waiting] at idle

/-- Worker 2 writes page 0, and worker 3 reads it, each answered before the next. -/
def writeThenRead : List (Event PageBytes) :=
  [.toCoordinator 2, .toCoordinator 3] ++
    writeMiss 2 0 (fun _ => 7) ++ [.toCoordinator 2, .toWorker 2] ++
    readMiss 3 0 ++ [.toCoordinator 3, .toWorker 2, .toCoordinator 2, .toWorker 3]

theorem answered_write_then_read : ∃ s : Cluster PageBytes, s.Quiet twoWorkers ∧
    ∀ n ∈ twoWorkers.nodes,
      (s.node n).pageTable 0 ≠ .pending ∧ (s.node n).pageTable 0 ≠ .writePending := by
  obtain ⟨s, run, quiet⟩ := Runs.exists_run (Cluster.step twoWorkers)
    (Cluster.Meets twoWorkers 0 (PageState.Undisturbed twoWorkers)) (Cluster.initial twoWorkers)
    writeThenRead (Cluster.Quiet twoWorkers) (by decide +kernel)
  exact ⟨s, quiet, answered_when_quiet twoWorkers 0 (by decide) s run quiet⟩

/-- Workers 3 and 4 read a page of worker 2 at the same time: the slot of worker 3 is
overwritten, the second fetched page stays at the coordinator. -/
def crossedReads : List (Event PageBytes) :=
  [.toCoordinator 2, .toCoordinator 3, .toCoordinator 4] ++
    writeMiss 2 0 (fun _ => 7) ++ [.toCoordinator 2, .toWorker 2] ++
    readMiss 3 0 ++ readMiss 4 0 ++ [.toCoordinator 3, .toCoordinator 4, .toWorker 2, .toWorker 2,
      .toCoordinator 2, .toCoordinator 2, .toWorker 4]

/-- A request can be lost: nothing is left in flight and worker 3 waits. -/
theorem request_lost : ¬ ∀ (T : Topology) (p : Nat), p < T.numPages → ∀ s : Cluster PageBytes,
    Runs.Run (Cluster.step T) (fun _ e => e.isEviction = false) (Cluster.initial T) s →
    s.Quiet T → ∀ n ∈ T.nodes,
      (s.node n).pageTable p ≠ .pending ∧ (s.node n).pageTable p ≠ .writePending := by
  intro claim
  obtain ⟨s, run, quiet, waits⟩ := Runs.exists_run (Cluster.step threeWorkers)
    (fun _ e => e.isEviction = false) (Cluster.initial threeWorkers) crossedReads
    (fun s => s.Quiet threeWorkers ∧ (s.node 3).pageTable 0 = .pending) (by decide +kernel)
  exact (claim threeWorkers 0 (by decide) s run quiet 3 (by decide)).1 waits

end TeleportVM
