import TeleportVM.Accounting

/-!
The coordinator's directory covers every copy, mapped or on its way, as long as
requests are handled one at a time and the coordinator does not fill a page with zeros
over its sharers. While acknowledgements are outstanding the entry already names the new
owner, and every other copy has an invalidation coming.
-/
namespace TeleportVM

variable {Page : Type}

namespace PageState

/-- A copy of the page is mapped at node `n` or on its way to it. -/
def HasCopy (T : Topology) (s : PageState Page) (n : Nat) : Prop :=
  (s.mapping n).isMapped = true ∨ (n ∈ T.workers ∧ ∃ m ∈ s.down n, m.isPage = true)

/-- An invalidation is on its way to worker `n`. -/
def Doomed (T : Topology) (s : PageState Page) (n : Nat) : Prop :=
  n ∈ T.workers ∧ ∃ m ∈ s.down n, m.isInvalidate = true

/-- No page follows an invalidation on a link. -/
def Ordered (s : PageState Page) (n : Nat) : Prop :=
  (s.down n).Pairwise fun a b => a.isInvalidate = true → b.isPage = false

/-! ### Conditions -/

/-- Requests are handled only while no transaction is recorded, except for a read fault of
the coordinator that finds the page present. -/
def Serial (T : Topology) (s : PageState Page) : PageLabel Page → Prop
  | .request r isWrite => s.Live → r = T.coordinator ∧ isWrite = false ∧ s.Present T r
  | _ => True

instance (T : Topology) (s : PageState Page) (label : PageLabel Page) :
    Decidable (s.Serial T label) :=
  match label with
  | .request r isWrite =>
    inferInstanceAs (Decidable (s.Live → r = T.coordinator ∧ isWrite = false ∧ s.Present T r))
  | .join _ | .store _ _ | .enqueue _ _ | .overflow _ | .forward _ | .receive _ | .reply _
  | .ack _ => isTrue trivial

/-- The coordinator does not write-fault on a page it has no copy of while other nodes
share it. -/
def SparesSharers (T : Topology) (s : PageState Page) : PageLabel Page → Prop
  | .request r isWrite => r = T.coordinator → isWrite = true → ¬ s.Present T r →
    s.entry.state = .shared → s.entry.holders ⊆ {r}
  | _ => True

instance (T : Topology) (s : PageState Page) (label : PageLabel Page) :
    Decidable (s.SparesSharers T label) :=
  match label with
  | .request r isWrite =>
    inferInstanceAs (Decidable (r = T.coordinator → isWrite = true → ¬ s.Present T r →
      s.entry.state = .shared → s.entry.holders ⊆ {r}))
  | .join _ | .store _ _ | .enqueue _ _ | .overflow _ | .forward _ | .receive _ | .reply _
  | .ack _ => isTrue trivial

variable {T : Topology} {s taken s' : PageState Page} {n r : Nat} {isWrite : Bool}
  {label : PageLabel Page}

/-- A request that is served or recorded finds the slot free. -/
theorem Serial.free (serial : s.Serial T (.request r isWrite))
    (needs : ¬ (r = T.coordinator ∧ isWrite = false ∧ s.Present T r)) : ¬ s.Live :=
  fun live => needs (serial live)

theorem Serial.undisturbed (serial : s.Serial T label) : s.Undisturbed T label := by
  cases label with
  | request r isWrite =>
    intro live records
    obtain ⟨-, rfl, present⟩ := serial live
    rw [Records, if_pos present] at records
    cases records.1
  | _ => trivial

/-- Without a copy of its own and an owner to ask, the coordinator's write finds no other
holder. -/
theorem SparesSharers.alone (ok : PageOk T s)
    (spares : s.SparesSharers T (.request T.coordinator true)) (absent : ¬ s.Present T T.coordinator)
    (unowned : ¬ s.Fetchable T.coordinator) : s.entry.holders ⊆ {T.coordinator} := by
  obtain ⟨-, shape⟩ := ok.entry
  cases state : s.entry.state with
  | shared => exact spares rfl rfl absent state
  | invalid => rw [invalid_holders _ state]; exact Finset.empty_subset _
  | modified =>
    have holders : s.entry.holders = {s.entry.ownerNodeId} := by simp [GpdEntry.holders, state]
    have listed := ok.holders (by rw [holders]; exact Finset.mem_singleton_self _)
    rw [holders, Finset.singleton_subset_singleton]
    by_contra away
    exact unowned ⟨(Finset.mem_insert.mp listed).resolve_left away, away⟩

/-! ### Copies -/

theorem HasCopy.of (copy : s'.HasCopy T n)
    (mapped : (s'.mapping n).isMapped = true → (s.mapping n).isMapped = true)
    (down : ∀ m ∈ s'.down n, m.isPage = true → m ∈ s.down n) : s.HasCopy T n :=
  copy.imp mapped fun ⟨worker, m, found, page⟩ => ⟨worker, m, down m found page, page⟩

/-- Nothing about copies changes when mappings and links do not. -/
theorem HasCopy.same (copy : s'.HasCopy T n) (mapping : s'.mapping = s.mapping)
    (down : s'.down = s.down) : s.HasCopy T n :=
  copy.of (by rw [mapping]; exact id) (by rw [down]; exact fun _ found _ => found)

theorem HasCopy.setMapping {v : Nat} {m : Mapping Page} (copy : (s.setMapping v m).HasCopy T n)
    (kept : m.isMapped = (s.mapping v).isMapped) : s.HasCopy T n := by
  refine copy.of ?_ fun _ found _ => found
  by_cases own : n = v
  · subst own; simp [kept]
  · simp [own]

theorem HasCopy.lift {v : Nat} (copy : (s.lift v).HasCopy T n) : s.HasCopy T n := by
  refine copy.of ?_ fun _ found _ => found
  by_cases own : n = v
  · subst own; simp
  · simp [own]

theorem HasCopy.install {page : Page} (copy : (s.install r page).HasCopy T n) :
    n = r ∨ s.HasCopy T n := by
  by_cases own : n = r
  · exact Or.inl own
  · exact Or.inr (copy.of (by simp [own]) fun _ found _ => found)

theorem HasCopy.post {m : Msg Page} (copy : (s.post r m).HasCopy T n) :
    (n = r ∧ m.isPage = true) ∨ s.HasCopy T n := by
  by_cases own : n = r ∧ m.isPage = true
  · exact Or.inl own
  · refine Or.inr (copy.of id fun m' found page => ?_)
    simp only [post_down] at found
    split at found
    next same =>
      rcases List.mem_append.mp found with old | new
      · exact old
      · rw [List.mem_singleton] at new
        exact absurd ⟨same, new ▸ page⟩ own
    · exact found

theorem HasCopy.grant {page : Page} (copy : (s.grant T r page).HasCopy T n) :
    n = r ∨ s.HasCopy T n := by
  unfold PageState.grant at copy
  split at copy
  · exact copy.install
  · exact copy.post.imp_left And.left

theorem HasCopy.broadcast {targets : Finset Nat} (copy : (s.broadcast targets).HasCopy T n) :
    s.HasCopy T n := by
  refine copy.of id fun m found page => ?_
  simp only [broadcast_down] at found
  split at found
  · rcases List.mem_append.mp found with old | new
    · exact old
    · rw [List.mem_singleton] at new
      simp [new, Msg.isPage] at page
  · exact found

/-- The coordinator's copy is gone when it is given up; its own link carries no pages. -/
theorem HasCopy.dropIf {c : Prop} [Decidable c] (copy : (s.dropIf c T.coordinator).HasCopy T n) :
    s.HasCopy T n ∧ (c → n ≠ T.coordinator) := by
  refine ⟨copy.of ?_ (by rw [dropIf_down]; exact fun _ found _ => found), fun given own => ?_⟩
  · rw [dropIf_mapping]
    split
    · by_cases own : n = T.coordinator
      · subst own; simp [Mapping.isMapped]
      · simp [own]
    · exact id
  · subst own
    rcases copy with mapped | ⟨worker, -⟩
    · simp [dropIf_mapping, given, Mapping.isMapped] at mapped
    · exact T.coordinator_not_worker worker

theorem HasCopy.takes (takes : Takes T s r isWrite taken) (copy : taken.HasCopy T n) :
    s.HasCopy T n := copy.same takes.mapping takes.down

theorem HasCopy.accept {w : Nat} {page : Page} (copy : (s.accept w page).HasCopy T n) :
    n = w ∨ s.HasCopy T n := by
  by_cases own : n = w
  · exact Or.inl own
  · refine Or.inr (copy.of ?_ (by rw [accept_down]; exact fun _ found _ => found))
    unfold PageState.accept
    split <;> simp [own]

/-! ### Order of invalidations and pages on a link -/

theorem Ordered.same (ordered : s.Ordered n) (down : s'.down n = s.down n) : s'.Ordered n := by
  rw [Ordered, down]; exact ordered

theorem Ordered.pop {w : Nat} {m : Msg Page} {rest : List (Msg Page)} (ordered : ∀ v, s.Ordered v)
    (head : s.down w = m :: rest) (down : s'.down = Function.update s.down w rest) :
    ∀ v, s'.Ordered v := by
  intro v
  by_cases own : v = w
  · subst own
    have whole := ordered v
    rw [Ordered, head] at whole
    rw [Ordered, down, Function.update_self]
    exact whole.tail
  · exact (ordered v).same (by rw [down, Function.update_of_ne own])

theorem Ordered.append {m : Msg Page} (ordered : s.Ordered n)
    (fresh : m.isPage = true → ∀ a ∈ s.down n, a.isInvalidate = false)
    (down : s'.down n = s.down n ++ [m]) : s'.Ordered n := by
  rw [Ordered, down, List.pairwise_append]
  refine ⟨ordered, List.pairwise_singleton _ _, fun a found b last invalidate => ?_⟩
  rw [List.mem_singleton] at last
  subst last
  by_contra page
  rw [Bool.not_eq_false] at page
  rw [fresh page a found] at invalidate
  cases invalidate

theorem Ordered.post {m : Msg Page} (ordered : ∀ v, s.Ordered v)
    (fresh : m.isPage = true → ∀ a ∈ s.down r, a.isInvalidate = false) :
    ∀ v, (s.post r m).Ordered v := by
  intro v
  by_cases own : v = r
  · subst own; exact (ordered v).append fresh (by simp)
  · exact (ordered v).same (by simp [own])

theorem Ordered.broadcast (ordered : ∀ v, s.Ordered v) (targets : Finset Nat) :
    ∀ v, (s.broadcast targets).Ordered v := by
  intro v
  by_cases target : v ∈ targets
  · exact (ordered v).append (m := Msg.invalidate) (by simp [Msg.isPage]) (by simp [target])
  · exact (ordered v).same (by simp [target])

theorem Ordered.grant {page : Page} (ordered : ∀ v, s.Ordered v)
    (fresh : r ≠ T.coordinator → ∀ a ∈ s.down r, a.isInvalidate = false) :
    ∀ v, (s.grant T r page).Ordered v := by
  unfold PageState.grant
  split
  · exact ordered
  next away => exact Ordered.post ordered fun _ => fresh away

/-! ### The invariant -/

structure Covered (T : Topology) (s : PageState Page) : Prop where
  account : Accounted T s
  listed : s.slot.expectedAcks = 0 → ∀ n, s.HasCopy T n → n ∈ s.entry.holders
  owned : 0 < s.slot.expectedAcks → s.entry = .ownedBy s.slot.requesterNodeId
  doomed : 0 < s.slot.expectedAcks → ∀ n, s.HasCopy T n →
    n = s.slot.requesterNodeId ∨ s.Doomed T n
  ordered : ∀ n, s.Ordered n

/-- While no acknowledgement is expected there is no invalidation on any link. -/
theorem Accounted.no_invalidate (accounted : Accounted T s) (idle : s.slot.expectedAcks = 0)
    (worker : n ∈ T.workers) : ∀ m ∈ s.down n, m.isInvalidate = false := by
  have none : s.collections T = 0 := by rw [accounted.collections, idle]
  exact Links.inFlight_eq_zero.mp (Nat.eq_zero_of_add_eq_zero_right none) n worker

/-- When the last acknowledgement is taken there is no invalidation on any link. -/
theorem Accounted.last_ack {w : Nat} {rest : List (Msg Page)} (accounted : Accounted T s)
    (worker : w ∈ T.workers) (head : s.up w = .ack :: rest) (last : s.slot.expectedAcks = 1)
    (other : n ∈ T.workers) : ∀ m ∈ s.down n, m.isInvalidate = false := by
  have one : s.collections T = 1 := by rw [accounted.collections, last]
  have ack : 0 < Links.inFlight s.up Msg.isAck T.workers :=
    Links.inFlight_pos worker (m := .ack) (head ▸ List.mem_cons_self) rfl
  have none : Links.inFlight s.down Msg.isInvalidate T.workers = 0 := by
    rw [PageState.collections] at one
    omega
  exact Links.inFlight_eq_zero.mp none n other

theorem Accounted.free_idle (accounted : Accounted T s) (free : ¬ s.Live) :
    s.slot.expectedAcks = 0 := by
  by_contra busy
  exact free (accounted.counting (Nat.pos_of_ne_zero busy))

/-- A state with no acknowledgement expected. -/
theorem Covered.settled (account : Accounted T s') (idle : s'.slot.expectedAcks = 0)
    (listed : ∀ n, s'.HasCopy T n → n ∈ s'.entry.holders) (ordered : ∀ n, s'.Ordered n) :
    Covered T s' where
  account := account
  listed _ := listed
  owned busy := absurd idle (Nat.ne_of_gt busy)
  doomed busy := absurd idle (Nat.ne_of_gt busy)
  ordered := ordered

/-- A state that collects acknowledgements. -/
theorem Covered.collecting (account : Accounted T s') (busy : 0 < s'.slot.expectedAcks)
    (owned : s'.entry = .ownedBy s'.slot.requesterNodeId)
    (doomed : ∀ n, s'.HasCopy T n → n = s'.slot.requesterNodeId ∨ s'.Doomed T n)
    (ordered : ∀ n, s'.Ordered n) : Covered T s' where
  account := account
  listed idle := absurd idle (Nat.ne_of_gt busy)
  owned _ := owned
  doomed _ := doomed
  ordered := ordered

/-- A move that adds no copy and removes no invalidation. -/
theorem Covered.keep (covered : Covered T s) (account : Accounted T s') (entry : s'.entry = s.entry)
    (requester : s'.slot.requesterNodeId = s.slot.requesterNodeId)
    (acks : s'.slot.expectedAcks = s.slot.expectedAcks)
    (copies : ∀ n, s'.HasCopy T n → s.HasCopy T n)
    (doomed : ∀ n, s'.HasCopy T n → s.Doomed T n → s'.Doomed T n) (ordered : ∀ n, s'.Ordered n) :
    Covered T s' where
  account := account
  listed idle n copy := by
    rw [entry]; exact covered.listed (by rw [← acks]; exact idle) n (copies n copy)
  owned busy := by rw [entry, requester]; exact covered.owned (by rw [← acks]; exact busy)
  doomed busy n copy := by
    rw [requester]
    exact (covered.doomed (by rw [← acks]; exact busy) n (copies n copy)).imp_right (doomed n copy)
  ordered := ordered

/-- Every holder other than the writer is invalidated or is the coordinator. -/
theorem mem_targets (ok : PageOk T s) (holder : n ∈ s.entry.holders) (apart : n ≠ r)
    (away : n ≠ T.coordinator) : n ∈ s.targets r :=
  Finset.mem_inter.mpr ⟨Finset.mem_erase.mpr ⟨apart, holder⟩,
    (Finset.mem_insert.mp (ok.holders holder)).resolve_left away⟩

theorem initial_covered [Zero Page] : Covered T (.initial : PageState Page) :=
  .settled initial_accounted rfl
    (fun n copy => by simp [HasCopy, initial, Mapping.isMapped] at copy)
    (fun n => by simp [Ordered, initial])

/-- A write gave up the coordinator's copy and invalidates its targets: whoever else has a
copy is a target. -/
theorem copies_after_write (ok : PageOk T s) (listed : ∀ n, s.HasCopy T n → n ∈ s.entry.holders)
    {g : Prop} (home : r ≠ T.coordinator → T.coordinator ∈ s.entry.holders → g)
    (copy : s.HasCopy T n) (kept : g → n ≠ T.coordinator) : n = r ∨ n ∈ s.targets r := by
  by_cases own : n = r
  · exact Or.inl own
  · refine Or.inr (mem_targets ok (listed n copy) own ?_)
    rintro rfl
    exact kept (home (Ne.symm own) (listed _ copy)) rfl

theorem doomed_broadcast {targets : Finset Nat} (target : n ∈ targets)
    (inside : targets ⊆ T.workers) : (s.broadcast targets).Doomed T n :=
  ⟨inside target, .invalidate, by simp [target], rfl⟩

/-- A write whose targets are told leaves copies only at the writer and where an invalidation is on
its way. -/
theorem doomed_after_write {v : PageState Page} (ok : PageOk T s)
    (listed : ∀ n, s.HasCopy T n → n ∈ s.entry.holders) {g : Prop}
    (home : r ≠ T.coordinator → T.coordinator ∈ s.entry.holders → g) (copy : s.HasCopy T n)
    (kept : g → n ≠ T.coordinator) : n = r ∨ (v.broadcast (s.targets r)).Doomed T n :=
  (copies_after_write ok listed home copy kept).imp_right fun target =>
    doomed_broadcast target (targets_subset ok r)

/-- A write without targets leaves a copy only at the writer. -/
theorem own_after_write (ok : PageOk T s) (listed : ∀ n, s.HasCopy T n → n ∈ s.entry.holders)
    {g : Prop} (home : r ≠ T.coordinator → T.coordinator ∈ s.entry.holders → g)
    (alone : s.targets r = ∅) (copy : s.HasCopy T n) (kept : g → n ≠ T.coordinator) : n = r := by
  refine (copies_after_write ok listed home copy kept).resolve_right fun target => ?_
  rw [alone] at target
  exact Finset.notMem_empty n target

theorem not_doomed (none : ∀ v ∈ T.workers, ∀ m ∈ s.down v, m.isInvalidate = false) :
    ¬ s.Doomed T n := by
  rintro ⟨worker, m, found, invalidate⟩
  rw [none n worker m found] at invalidate
  cases invalidate

variable [Zero Page]

/-- A request that is served or recorded. -/
theorem covered_of_request {isWrite : Bool} (ok : PageOk T s) (covered : Covered T s)
    (serial : s.Serial T (.request r isWrite)) (spares : s.SparesSharers T (.request r isWrite))
    (move : Move T s (.request r isWrite) s') : Covered T s' := by
  have account := accounted_of_move ok covered.account serial.undisturbed move
  have idle (free : ¬ s.Live) := covered.account.free_idle free
  -- a request that touches the slot comes while it is free, and then no invalidation is in flight
  have silent (free : ¬ s.Live) (v : Nat) (worker : v ∈ T.workers) :=
    covered.account.no_invalidate (idle free) worker
  cases move with
  -- nothing but the request is gone
  | readPresent taken takes present =>
    exact covered.keep account takes.entry (by rw [takes.slot]) (by rw [takes.slot])
      (fun _ copy => copy.takes takes) (fun _ _ doomed => by rwa [Doomed, takes.down])
      (fun v => (covered.ordered v).same (by rw [takes.down]))
  | upgrade taken takes present alone =>
    have free := serial.free (by simp)
    refine .settled account (by simpa [takes.slot] using idle free) (fun v copy => ?_)
      fun v => (covered.ordered v).same (by simp [takes.down])
    have before : s.HasCopy T v := (copy.lift.same (s := taken) rfl rfl).takes takes
    obtain rfl := own_after_write ok (covered.listed (idle free)) (g := False)
      (fun away => absurd rfl away) alone before False.elim
    simp
  -- the coordinator writes: every other copy is listed, so each is told
  | upgradeWait taken takes present others =>
    have free := serial.free (by simp)
    refine .collecting account (by simpa [Finset.card_pos, Finset.nonempty_iff_ne_empty] using others)
      rfl (fun v copy => ?_) ?_
    · have before : s.HasCopy T v := (copy.broadcast.same (s := taken) rfl rfl).takes takes
      exact doomed_after_write ok (covered.listed (idle free)) (g := False)
        (fun away => absurd rfl away) before False.elim
    · exact Ordered.broadcast (fun v => (covered.ordered v).same (by simp [takes.down])) _
  -- a fetch sends no copy yet
  | fetch r isWrite fd taken takes absent owned =>
    have free := serial.free fun both => absent both.2.2
    refine .settled account rfl (fun v copy => ?_) ?_
    · rcases copy.post with ⟨-, page⟩ | rest
      · cases page
      · have before : s.HasCopy T v := (rest.same (s := taken) rfl rfl).takes takes
        simpa [takes.entry] using covered.listed (idle free) v before
    · exact Ordered.post (fun v => (covered.ordered v).same (by simp [takes.down]))
        fun page => by cases page
  | zeroLocal isWrite taken takes absent unowned =>
    have free := serial.free fun both => absent both.2.2
    refine .settled account (by simpa [takes.slot] using idle free) (fun v copy => ?_)
      fun v => (covered.ordered v).same (by simp [takes.down])
    have listed : v = T.coordinator ∨ v ∈ s.entry.holders := copy.install.imp_right fun before =>
      covered.listed (idle free) v ((before.same (s := taken) rfl rfl).takes takes)
    -- a write of zeros is right only if nobody else is listed
    simp only [install_entry, setEntry_entry]
    cases isWrite with
    | true =>
      have alone := spares.alone ok absent fun owned => unowned (takes.fetchable.mpr owned)
      simpa using listed.elim id fun holder => Finset.mem_singleton.mp (alone holder)
    | false =>
      simpa [toShared_holders _ ok.entry _ T.coordinator_valid] using listed
  -- a reader is listed with the page that is sent to it
  | zeroRead r taken takes worker absent unowned =>
    have free := serial.free fun both => T.ne_coordinator worker both.1
    refine .settled account (by simpa [takes.slot] using idle free) (fun v copy => ?_) ?_
    · have listed : v = r ∨ v ∈ s.entry.holders := copy.post.imp And.left fun before =>
        covered.listed (idle free) v ((before.same (s := taken) rfl rfl).takes takes)
      simpa [toShared_holders _ ok.entry _ (T.workers_valid r worker)] using listed
    · exact Ordered.post (fun v => (covered.ordered v).same (by simp [takes.down]))
        fun _ => by simpa [takes.down] using silent free r worker
  | serveRead r page taken takes worker valid copied =>
    have free := serial.free fun both => T.ne_coordinator worker both.1
    refine .settled account (by simpa [takes.slot] using idle free) (fun v copy => ?_) ?_
    · have listed : v = r ∨ v ∈ s.entry.holders := copy.post.imp And.left fun before => by
        have kept : (if s.entry.ownerNodeId = T.coordinator then (s.mapping T.coordinator).protect
            else s.mapping T.coordinator).isMapped = (taken.mapping T.coordinator).isMapped := by
          rw [takes.mapping]; split <;> simp
        exact covered.listed (idle free) v
          (((before.setMapping kept).same (s := taken) rfl rfl).takes takes)
      simpa [toShared_holders _ ok.entry _ (T.workers_valid r worker)] using listed
    · exact Ordered.post (fun v => (covered.ordered v).same (by simp [takes.down]))
        fun _ => by simpa [takes.down] using silent free r worker
  -- a writer without others to tell: the coordinator's copy is dropped with the answer
  | serveWrite r page taken takes worker source alone =>
    have free := serial.free fun both => T.ne_coordinator worker both.1
    rw [takes.targets] at alone
    refine .settled account (by simpa [takes.slot] using idle free) (fun v copy => ?_) ?_
    · rcases copy.post with ⟨rfl, -⟩ | rest
      · simp
      · obtain ⟨before, kept⟩ :=
          (rest.same (s := taken.dropIf (s.GivesUp T r) T.coordinator) rfl rfl).dropIf
        obtain rfl := own_after_write ok (covered.listed (idle free))
          (fun away holder => Or.inr (Finset.mem_erase.mpr ⟨Ne.symm away, holder⟩)) alone
          (before.takes takes) kept
        simp
    · exact Ordered.post (fun v => (covered.ordered v).same (by simp [takes.down]))
        fun _ => by simpa [takes.down] using silent free r worker
  | serveWriteWait r page fd taken takes worker source others =>
    have free := serial.free fun both => T.ne_coordinator worker both.1
    rw [takes.targets] at others account ⊢
    refine .collecting account (by simpa [Finset.card_pos, Finset.nonempty_iff_ne_empty] using others)
      rfl (fun v copy => ?_) ?_
    · obtain ⟨before, kept⟩ :=
        (copy.broadcast.same (s := taken.dropIf (s.GivesUp T r) T.coordinator) rfl rfl).dropIf
      exact doomed_after_write ok (covered.listed (idle free))
        (fun away holder => Or.inr (Finset.mem_erase.mpr ⟨Ne.symm away, holder⟩))
        (before.takes takes) kept
    · exact Ordered.broadcast (fun v => (covered.ordered v).same (by simp [takes.down])) _

/-- A worker takes a packet. A page arrives before any invalidation that was sent after it. -/
theorem covered_of_receive {w : Nat} (covered : Covered T s) (account : Accounted T s')
    (move : Move T s (.receive w) s') : Covered T s' := by
  cases move with
  | receivePage w page rest worker head =>
    refine covered.keep account (by simp) (by simp) (by simp) (fun v copy => ?_) (fun v copy => ?_)
      (Ordered.pop covered.ordered head (accept_down _ _ _))
    · rcases copy.accept with rfl | before
      · exact Or.inr ⟨worker, .page page, by simp [head], rfl⟩
      · exact before.of id fun _ found _ => Links.mem_of_pop head found
    · rintro ⟨other, m, found, invalidate⟩
      refine ⟨other, m, ?_, invalidate⟩
      rw [accept_down]
      exact Links.mem_pop head (by rintro rfl; cases invalidate) found
  | receiveFetch w page rest worker head copied =>
    refine covered.keep account rfl rfl rfl (fun v copy => ?_) (fun v _ => ?_)
      (Ordered.pop covered.ordered head rfl)
    · exact copy.of id fun _ found _ => Links.mem_of_pop head found
    · rintro ⟨other, m, found, invalidate⟩
      exact ⟨other, m, Links.mem_pop head (by rintro rfl; cases invalidate) found, invalidate⟩
  | receiveInvalidate w rest worker head =>
    -- no page is behind the invalidation on the link, so the worker is left without a copy
    have gone : ¬ HasCopy T (PageState.drop { s with
        down := Function.update s.down w rest
        up := Function.update s.up w (s.up w ++ [Msg.ack]) } w) w := by
      rintro (mapped | ⟨-, m, found, page⟩)
      · simp [Mapping.isMapped] at mapped
      · have order := covered.ordered w
        rw [Ordered, head] at order
        simp only [drop_down, Function.update_self] at found
        rw [(List.pairwise_cons.mp order).1 m found rfl] at page
        cases page
    have apart : ∀ v, HasCopy T (PageState.drop { s with
        down := Function.update s.down w rest
        up := Function.update s.up w (s.up w ++ [Msg.ack]) } w) v → v ≠ w := by
      rintro v copy rfl
      exact gone copy
    refine covered.keep account rfl rfl rfl (fun v copy => ?_) (fun v copy => ?_)
      (Ordered.pop covered.ordered head rfl)
    · exact copy.of (by simp [apart v copy]) fun _ found _ => Links.mem_of_pop head found
    · rintro ⟨other, m, found, invalidate⟩
      exact ⟨other, m, by simpa [apart v copy] using found, invalidate⟩

/-- The coordinator takes a page. -/
theorem covered_of_reply {o : Nat} (ok : PageOk T s) (covered : Covered T s)
    (account : Accounted T s') (move : Move T s (.reply o) s') : Covered T s' := by
  cases move with
  | unsolicited o page rest worker head free =>
    exact absurd free (covered.account.fetched (transfers_of_page worker head)).1
  -- a page on its way means that no acknowledgement is awaited
  | replyRead o page rest worker head live read =>
    obtain ⟨-, none⟩ := covered.account.fetched (transfers_of_page worker head)
    have member := ok.slot.resolve_left live
    refine .settled account (by simpa using none) (fun v copy => ?_) ?_
    · have listed : v = s.slot.requesterNodeId ∨ v ∈ s.entry.holders :=
        copy.grant.imp_right fun before => covered.listed none v (before.same rfl rfl)
      simpa [toShared_holders _ ok.entry _ (T.valid_of_mem member)] using listed
    · exact Ordered.grant covered.ordered fun away =>
        covered.account.no_invalidate none ((Finset.mem_insert.mp member).resolve_left away)
  | replyWrite o page rest worker head live write alone =>
    obtain ⟨-, none⟩ := covered.account.fetched (transfers_of_page worker head)
    have member := ok.slot.resolve_left live
    refine .settled account (by simpa using none) (fun v copy => ?_) ?_
    · rcases copy.grant with rfl | rest'
      · simp
      · obtain ⟨before, kept⟩ := (rest'.same (s := PageState.dropIf
          { s with up := Function.update s.up o rest } _ T.coordinator) rfl rfl).dropIf
        obtain rfl := own_after_write ok (covered.listed none)
          (fun away holder => Finset.mem_erase.mpr ⟨Ne.symm away, holder⟩) alone
          (before.same rfl rfl) kept
        simp
    · exact Ordered.grant (fun v => (covered.ordered v).same (by simp)) fun away => by
        simpa using covered.account.no_invalidate none
          ((Finset.mem_insert.mp member).resolve_left away)
  | replyWriteWait o page rest worker head live write others =>
    obtain ⟨-, none⟩ := covered.account.fetched (transfers_of_page worker head)
    refine .collecting account (by simpa [Finset.card_pos, Finset.nonempty_iff_ne_empty] using others)
      (by simp) (fun v copy => ?_) ?_
    · obtain ⟨before, kept⟩ := (copy.broadcast.same (s := PageState.dropIf
        { s with up := Function.update s.up o rest } _ T.coordinator) rfl rfl).dropIf
      refine (doomed_after_write ok (covered.listed none)
        (fun away holder => Finset.mem_erase.mpr ⟨Ne.symm away, holder⟩)
        (before.same rfl rfl) kept).imp_left fun own => ?_
      rw [own]
      simp
    · exact Ordered.broadcast (fun v => (covered.ordered v).same (by simp)) _

/-- The coordinator takes an acknowledgement. With the last one no invalidation is in flight, so the
only copy is the writer's. -/
theorem covered_of_ack {w : Nat} (ok : PageOk T s) (covered : Covered T s)
    (account : Accounted T s') (move : Move T s (.ack w) s') : Covered T s' := by
  cases move with
  | ackIgnored w rest worker head none =>
    exact covered.keep account rfl rfl rfl (fun _ => id) (fun _ _ => id) covered.ordered
  | ackCounted w rest worker head more =>
    exact .collecting account (by simp only [setSlot_slot]; omega) (covered.owned (by omega))
      (covered.doomed (by omega)) covered.ordered
  | ackLift w rest worker head last own upgrading =>
    have none := fun v => covered.account.last_ack (n := v) worker head last
    refine .settled account (by simp) (fun v copy => ?_) covered.ordered
    rcases covered.doomed (by omega) v (copy.lift.same rfl rfl) with rfl | doomed
    · simp [covered.owned (by omega)]
    · exact absurd doomed (not_doomed none)
  | ackGrant w rest worker head last live payload =>
    have none := fun v => covered.account.last_ack (n := v) worker head last
    have member := ok.slot.resolve_left live
    refine .settled account (by simp) (fun v copy => ?_) ?_
    · have requester : v = s.slot.requesterNodeId := by
        rcases copy.grant with same | before
        · exact same
        · exact (covered.doomed (by omega) v (before.same rfl rfl)).resolve_right (not_doomed none)
      simp [covered.owned (by omega), requester]
    · exact Ordered.grant covered.ordered fun away =>
        none _ ((Finset.mem_insert.mp member).resolve_left away)

theorem covered_of_move (ok : PageOk T s) (covered : Covered T s) (serial : s.Serial T label)
    (spares : s.SparesSharers T label) (move : Move T s label s') : Covered T s' := by
  have account := accounted_of_move ok covered.account serial.undisturbed move
  cases label with
  | request r isWrite => exact covered_of_request ok covered serial spares move
  | receive w => exact covered_of_receive covered account move
  | reply o => exact covered_of_reply ok covered account move
  | ack w => exact covered_of_ack ok covered account move
  | store n page =>
    cases move with
    | store n page member writable =>
      refine covered.keep account rfl rfl rfl (fun v copy => copy.setMapping ?_) (fun _ _ => id)
        covered.ordered
      cases mapping : s.mapping n <;> simp [mapping, Mapping.isWritable, Mapping.isMapped] at writable ⊢
  | join | enqueue | overflow | forward =>
    -- neither a copy nor a message to a worker
    cases move
    exact covered.keep account rfl rfl rfl (fun _ => id) (fun _ _ => id) covered.ordered

end PageState

/-! ### Runs -/

/-- The coordinator's directory knows of the copy of page `p` at node `n`, or the
invalidation of that copy is in flight. -/
def Cluster.Recorded (T : Topology) (s : Cluster Page) (p n : Nat) : Prop :=
  ((s.entry T p).state = .modified ∧ (s.entry T p).ownerNodeId = n) ∨
    ((s.entry T p).state = .shared ∧ (s.entry T p).sharedNodesBitmap.getLsbD n = true) ∨
    (n ∈ T.workers ∧ ∃ packet ∈ s.toWorker n, packet.type = .invalidate ∧ packet.pageIndex = p)

instance (T : Topology) (s : Cluster Page) (p n : Nat) : Decidable (s.Recorded T p n) :=
  inferInstanceAs (Decidable (_ ∨ _ ∨ _))

theorem recorded_of_holder {T : Topology} {s : Cluster Page} {p n : Nat}
    (holder : n ∈ (s.entry T p).holders) : s.Recorded T p n := by
  unfold GpdEntry.holders at holder
  split at holder
  next state => exact Or.inl ⟨state, (Finset.mem_singleton.mp holder).symm⟩
  next state => exact Or.inr (Or.inl ⟨state, (Bitmap.mem_members _ _).mp holder⟩)
  · exact absurd holder (Finset.notMem_empty _)

theorem recorded_of_doomed {T : Topology} {s : Cluster Page} {p n : Nat}
    (doomed : (s.pageState T p).Doomed T n) : s.Recorded T p n := by
  obtain ⟨worker, m, found, invalidate⟩ := doomed
  obtain ⟨packet, sent, decoded⟩ := List.mem_filterMap.mp found
  refine Or.inr (Or.inr ⟨worker, packet, sent, ?_⟩)
  unfold downMsg at decoded
  split at decoded
  next own =>
    refine ⟨?_, own⟩
    split at decoded
    · cases decoded; cases invalidate
    · cases decoded; cases invalidate
    next type => exact type
    · cases decoded
  · cases decoded

/-- The steps that keep the directory's account of page `p`: requests one at a time, and no
write miss of the coordinator over sharers. -/
def PageState.Orderly (T : Topology) (v : PageState Page) (label : PageLabel Page) : Prop :=
  v.Serial T label ∧ v.SparesSharers T label

instance (T : Topology) (v : PageState Page) (label : PageLabel Page) :
    Decidable (v.Orderly T label) := inferInstanceAs (Decidable (_ ∧ _))

variable [Zero Page]

theorem covered_of_run {T : Topology} {p : Nat} (inRange : p < T.numPages) {s : Cluster Page}
    (run : Runs.Run (Cluster.step T) (Cluster.Meets T p (PageState.Orderly T))
      (Cluster.initial T) s) : PageState.Covered T (s.pageState T p) :=
  page_invariant inRange (fun _ covered => covered.account.counting) PageState.initial_covered
    (fun _ _ _ ok orderly covered move =>
      PageState.covered_of_move ok covered orderly.1 orderly.2 move) run

/-- In an orderly run every mapped copy is recorded by the coordinator or about to go. -/
theorem directory_covers_every_copy (T : Topology) (p : Nat) (inRange : p < T.numPages)
    (s : Cluster Page)
    (run : Runs.Run (Cluster.step T) (Cluster.Meets T p (PageState.Orderly T))
      (Cluster.initial T) s) :
    ∀ n ∈ T.nodes, ((s.node n).mapping p).isMapped = true → s.Recorded T p n := by
  intro n _ mapped
  have covered := covered_of_run inRange run
  have copy : (s.pageState T p).HasCopy T n := Or.inl mapped
  by_cases idle : (s.pageState T p).slot.expectedAcks = 0
  · exact recorded_of_holder (covered.listed idle n copy)
  · have busy := Nat.pos_of_ne_zero idle
    rcases covered.doomed busy n copy with rfl | doomed
    · refine recorded_of_holder ?_
      have owned : s.entry T p = _ := covered.owned busy
      rw [owned]
      exact Finset.mem_singleton_self _
    · exact recorded_of_doomed doomed

/-- Worker 2 reads page 0, worker 3 upgrades over it, and the invalidation of worker 2 is
still on its way. -/
def readThenWrite : List (Event PageBytes) :=
  [.toCoordinator 2, .toCoordinator 3] ++ readMiss 2 0 ++ [.toCoordinator 2, .toWorker 2] ++
    writeMiss 3 0 (fun _ => 7) ++ [.toCoordinator 3]

theorem directory_covers_every_copy_read_then_write : ∃ s : Cluster PageBytes,
    ((s.node 2).mapping 0).isMapped = true ∧ s.Recorded twoWorkers 0 2 := by
  obtain ⟨s, run, mapped⟩ := Runs.exists_run (Cluster.step twoWorkers)
    (Cluster.Meets twoWorkers 0 (PageState.Orderly twoWorkers)) (Cluster.initial twoWorkers)
    readThenWrite (fun s => ((s.node 2).mapping 0).isMapped = true) (by decide +kernel)
  exact ⟨s, mapped, directory_covers_every_copy twoWorkers 0 (by decide) s run 2 (by decide) mapped⟩

/-- Worker 2 reads page 0 and the coordinator write-misses on it. -/
def readThenLocalWrite : List (Event PageBytes) :=
  [.toCoordinator 2] ++ readMiss 2 0 ++ [.toCoordinator 2, .toWorker 2] ++
    [.store 1 0 (fun _ => 7), .fault 1, .drain 1]

/-- The write miss drops the mask of its sharers: worker 2 keeps a copy that is not recorded
and that nobody will invalidate. -/
theorem copy_not_recorded : ¬ ∀ (T : Topology) (p : Nat), p < T.numPages → ∀ s : Cluster PageBytes,
    Runs.Run (Cluster.step T) (fun _ e => e.isEviction = false) (Cluster.initial T) s →
    ∀ n ∈ T.nodes, ((s.node n).mapping p).isMapped = true → s.Recorded T p n := by
  intro claim
  obtain ⟨s, run, mapped, absent⟩ := Runs.exists_run (Cluster.step twoWorkers)
    (fun _ e => e.isEviction = false) (Cluster.initial twoWorkers) readThenLocalWrite
    (fun s => ((s.node 2).mapping 0).isMapped = true ∧ ¬ s.Recorded twoWorkers 0 2)
    (by decide +kernel)
  exact absent (claim twoWorkers 0 (by decide) s run 2 (by decide) mapped)

end TeleportVM
