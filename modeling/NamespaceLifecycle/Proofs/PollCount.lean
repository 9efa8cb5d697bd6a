import NamespaceLifecycle.Proofs.Interruption
import NamespaceLifecycle.Proofs.Timing

/-!
# How many polls a wait tells of

The error of a wait whose time is over tells how many polls there were. They are counted in
thirty-two bits, so what is told is their number up to multiples of 2^32. The number is bounded by
the policy alone: the first poll starts after the delay, each later one a whole pause after the one
before it, and all of them before the deadline. Polls that take no time reach the bound. So the
number is told as it is in every wait with a policy exactly when the bound of the policy fits into
the counter, which the check of a policy does not ask for.
-/

namespace NamespaceLifecycle

def pollCount (events : List Event) : Nat := events.countP Event.isPolled

theorem pollCount_append (first second : List Event) :
    pollCount (first ++ second) = pollCount first + pollCount second :=
  List.countP_append

theorem pollCount_eq_zero {events : List Event} (h : Event.polled ∉ events) :
    pollCount events = 0 := by
  refine List.countP_eq_zero.2 fun e he hpolled ↦ ?_
  cases e <;> simp [Event.isPolled] at hpolled
  exact h he

/-- Each marked event has one moment. -/
theorem length_momentsOf (marks : Event → Bool) (p : Progress) (events : List Event) :
    (momentsOf marks p events).length = events.countP marks := by
  induction events generalizing p with
  | nil => rfl
  | cons e events ih =>
    by_cases hmark : marks e = true
    · rw [momentsOf, if_pos hmark, List.length_cons, ih, List.countP_cons_of_pos hmark]
    · rw [momentsOf, if_neg hmark, ih, List.countP_cons_of_neg hmark]

/-- As many polls as can start in time: one after the delay, and one after each whole pause. -/
def WaitPolicy.mostPolls (policy : WaitPolicy) : Nat :=
  (policy.timeout.nanos - policy.delay.nanos) ⌈/⌉ policy.pollInterval.nanos

/-- What is told of the polls of a run is their number as far as the counter goes, and there are no
more of them than the policy has room for. -/
structure TellsPolls (policy : WaitPolicy) (told : UInt32) (events : List Event) : Prop where
  told_eq : told.toNat = pollCount events % 2 ^ 32
  count_le : pollCount events ≤ policy.mostPolls

namespace Run

variable {α : Type} {s : Surroundings} {p : Progress} {policy : WaitPolicy}
  {subject : WaitSubject} {deadline : Duration} {poll : Nat → Run (PollOutcome α)}

/-! ## Polls and the time they take -/

/-- A poll that neither polls nor waits on its own account. -/
structure IsPlainPoll (poll : Run (PollOutcome α)) : Prop where
  unmarked : Emits (· ≠ .polled) poll
  untimed : PollsWith (¬·.IsTimeout) poll

/-- A pause that stops is no timeout. -/
theorem PauseRun.not_isTimeout {span : Duration} {error : Error} {events : List Event}
    (h : PauseRun subject span deadline p (.error (.failed error)) events) : ¬error.IsTimeout := by
  cases h with
  | calledOff hoff => exact Error.isRequestKind_not_isTimeout.cancelled _ _ _
  | interrupted => exact Error.isRequestKind_not_isTimeout.cancelled _ _ _

theorem PendingPolls.pollCount_eq (hplain : ∀ k, IsPlainPoll (poll k)) {index count : Nat}
    {front : List Event} (h : PendingPolls policy subject deadline poll s index p count front) :
    pollCount front = count := by
  induction h with
  | none index p => rfl
  | @more index count p looking pausing rest hopen hearly hlook hpause hrest ih =>
    have hlooking : pollCount looking = 0 :=
      pollCount_eq_zero (polled_not_mem_looking (fun k ↦ (hplain k).unmarked) hlook)
    have hpausing : pollCount pausing = 0 := pollCount_eq_zero hpause.polled_not_mem
    have hmark : pollCount (.polled :: looking) = pollCount looking + 1 :=
      List.countP_cons_of_pos rfl
    rw [pollCount_append, pollCount_append, hmark, hlooking, hpausing, ih]
    omega

/-- A poll that settles nothing is followed by a whole pause, if by another poll at all. -/
theorem PendingPolls.lt_deadline {index count : Nat} {front : List Event}
    (h : PendingPolls policy subject deadline poll s index p count front) :
    ∀ k < count, p.elapsed.nanos + policy.pollInterval.nanos * k < deadline.nanos := by
  induction h with
  | none index p => exact fun k hk ↦ absurd hk (Nat.not_lt_zero k)
  | @more index count p looking pausing rest hopen hearly hlook hpause hrest ih =>
    rintro (- | k) hk
    · exact hearly
    · have hnext := ih k (Nat.lt_of_succ_lt_succ hk)
      have hin : ((p.afterAll looking).afterAll pausing).elapsed < deadline :=
        Nat.lt_of_le_of_lt (Nat.le_add_right _ _) hnext
      have hlooked := Progress.elapsed_le_afterAll p looking
      rw [hpause.eq_afterSleep hin, Progress.elapsed_afterSleep, Duration.nanos_plus] at hnext
      rw [Duration.le_def] at hlooked
      rw [Nat.mul_succ]
      omega

/-- Polls after the delay are bounded by the policy. -/
theorem PendingPolls.count_le_mostPolls {moment : Duration}
    (haccepted : policy.deadline moment = .ok deadline) (hmoment : p.elapsed = moment)
    {pausing : List Event} (hpause : PauseRun subject policy.delay deadline p (.ok ()) pausing)
    {index count : Nat} {front : List Event}
    (h : PendingPolls policy subject deadline poll s index (p.afterAll pausing) count front) :
    count ≤ policy.mostPolls := by
  obtain ⟨hinterval, -, rfl⟩ := WaitPolicy.deadline_eq_ok_iff.1 haccepted
  subst hmoment
  refine Nat.le_of_not_lt fun hmore ↦ ?_
  -- The poll behind the last one that has room would have to start in time.
  have hlast := h.lt_deadline policy.mostPolls hmore
  have hin : (p.afterAll pausing).elapsed < p.elapsed.plus policy.timeout :=
    Nat.lt_of_le_of_lt (Nat.le_add_right _ _) hlast
  have hcovered := (ceilDiv_le_iff_le_mul hinterval).1 (Nat.le_refl policy.mostPolls)
  rw [hpause.eq_afterSleep hin, Progress.elapsed_afterSleep, Duration.nanos_plus,
    Duration.nanos_plus] at hlast
  omega

/-! ## What is told at the end of the time -/

/-- Plain polls end with a timeout only where the time is over. -/
theorem PollsEnd.of_isTimeout (hplain : ∀ k, IsPlainPoll (poll k)) {index : Nat} {polls : UInt32}
    {error : Error} {last : List Event}
    (h : PollsEnd policy subject deadline poll s index p polls (.error (.failed error)) last)
    (htimeout : error.IsTimeout) :
    error = subject.timeout policy.timeout polls ∧ pollCount last = 0 := by
  have hcancelled : ¬subject.cancelled.IsTimeout :=
    Error.isRequestKind_not_isTimeout.cancelled _ _ _
  cases h with
  | calledOff hoff => exact absurd htimeout hcancelled
  | expired hopen hlate => exact ⟨rfl, rfl⟩
  | stopped hopen hearly hlook =>
    rcases unlessCalledOff_cases hlook with ⟨-, herror, -⟩ | ⟨-, -, herror⟩ | ⟨-, hrun, -⟩
    · cases herror
      exact absurd htimeout hcancelled
    · cases herror
      exact absurd htimeout hcancelled
    · exact absurd htimeout ((hplain index).untimed (.inl hrun))
  | failed hopen hearly hlook =>
    exact absurd htimeout ((hplain index).untimed (.inr (eq_of_unlessCalledOff hlook)))
  | interrupted hopen hearly hlook hpause =>
    exact absurd htimeout hpause.not_isTimeout

/-- A wait by plain polls that ends with a timeout tells of its own polls. -/
theorem WaitRun.tellsPolls (hplain : ∀ k, IsPlainPoll (poll k)) {error : Error}
    {events : List Event} (h : WaitRun policy subject poll s p (.error (.failed error)) events)
    (htimeout : error.IsTimeout) :
    ∃ told, error = subject.timeout policy.timeout told ∧ TellsPolls policy told events := by
  cases h with
  | refused hmoment hrefused =>
    exact absurd htimeout (WaitPolicy.isRefusal_of_deadline hrefused).not_isTimeout
  | delayed haccepted hpause => exact absurd htimeout hpause.not_isTimeout
  | polled haccepted hpause hpolls =>
    obtain ⟨count, front, last, hfront, hend, rfl⟩ := hpolls
    obtain ⟨herror, hlast⟩ := hend.of_isTimeout hplain htimeout
    have hcount := hfront.pollCount_eq hplain
    have hmost := hfront.count_le_mostPolls haccepted rfl hpause
    rw [UInt32.zero_add] at herror
    refine ⟨UInt32.ofNat count, herror, ?_, ?_⟩
    · rw [pollCount_append, pollCount_append, pollCount_eq_zero hpause.polled_not_mem, hcount,
        hlast, Nat.zero_add, Nat.add_zero, UInt32.toNat_ofNat']
    · rw [pollCount_append, pollCount_append, pollCount_eq_zero hpause.polled_not_mem, hcount,
        hlast, Nat.zero_add, Nat.add_zero]
      exact hmost

end Run

namespace Endpoint

open Run

variable {e : Endpoint} {s : Surroundings} {p : Progress} {policy : WaitPolicy}
  {identity : Identity} {error : Error} {events : List Event}

theorem isPlainPoll_pollCreated (e : Endpoint) (identity : Identity) :
    IsPlainPoll (e.pollCreated identity) :=
  ⟨pollCreated_emits admits_ne_polled identity,
    pollCreated_pollsWith Error.isRequestKind_not_isTimeout identity⟩

theorem isPlainPoll_pollDeleted (e : Endpoint) (identity : Identity) :
    IsPlainPoll (e.pollDeleted identity) :=
  ⟨pollDeleted_emits admits_ne_polled identity,
    pollDeleted_pollsWith Error.isRequestKind_not_isTimeout identity⟩

/-- A timeout of a wait for a new namespace tells of the polls of that wait. -/
theorem awaitCreated_tellsPolls
    (h : e.awaitCreated policy identity s p = (.error (.failed error), events))
    (htimeout : error.IsTimeout) :
    ∃ told, error = .waitTimeout identity.project identity.name "created" policy.timeout told ∧
      TellsPolls policy told events :=
  (waitUntil_run h).tellsPolls (fun _ ↦ isPlainPoll_pollCreated e identity) htimeout

/-- A timeout of a wait for a removal tells of the polls of that wait. -/
theorem awaitDeleted_tellsPolls
    (h : e.awaitDeleted policy identity s p = (.error (.failed error), events))
    (htimeout : error.IsTimeout) :
    ∃ told, error = .waitTimeout identity.project identity.name "deleted" policy.timeout told ∧
      TellsPolls policy told events :=
  (waitUntil_run h).tellsPolls (fun _ ↦ isPlainPoll_pollDeleted e identity) htimeout

end Endpoint

/-! ## Waits that nothing calls off -/

namespace Run

variable {α : Type} {s : Surroundings} {p : Progress} {policy : WaitPolicy}
  {subject : WaitSubject} {deadline : Duration} {poll : Nat → Run (PollOutcome α)}

/-- Without a call to stop in it, a run does not call the operation off. -/
theorem isCalledOff_afterAll_of_not_mem {events : List Event} (h : Event.calledOff ∉ events)
    (p : Progress) : (p.afterAll events).isCalledOff = p.isCalledOff := by
  induction events generalizing p with
  | nil => rfl
  | cons e events ih =>
    rw [Progress.afterAll_cons, ih fun he ↦ h (List.mem_cons_of_mem _ he)]
    cases e with
    | calledOff => exact absurd List.mem_cons_self h
    | _ => rfl

/-- In given surroundings a computation is called off nowhere. -/
def IsCalm {β : Type} (s : Surroundings) (x : Run β) : Prop :=
  ∀ ⦃p result events⦄, x s p = (result, events) → Event.calledOff ∉ events

theorem IsCalm.bind {β γ : Type} {x : Run β} {f : β → Run γ} (hx : IsCalm s x)
    (hf : ∀ b, IsCalm s (f b)) : IsCalm s (x >>= f) := by
  intro p result events hrun
  rcases bind_cases hrun with ⟨stop, hfirst, -⟩ | ⟨b, first, second, hfirst, hsecond, rfl⟩
  · exact hx hfirst
  · exact List.mem_append.not.2 (not_or.2 ⟨hx hfirst, hf b hsecond⟩)

theorem IsCalm.unlessCalledOff {β : Type} {x : Run β} (hx : IsCalm s x) (error : Error) :
    IsCalm s (unlessCalledOff error x) := by
  intro p result events hrun
  rcases unlessCalledOff_cases hrun with ⟨-, -, rfl⟩ | ⟨-, hx', -⟩ | ⟨-, hx', -⟩
  · exact List.not_mem_nil
  · exact hx hx'
  · exact hx hx'

theorem isCalm_pause (hcalm : ∀ k, s.callsOffSleep k = false) (span : Duration) :
    IsCalm s (pause subject span deadline) := by
  have hsleep (span : Duration) : IsCalm s (sleep span) := by
    intro p result events hrun
    unfold sleep at hrun
    rw [hcalm] at hrun
    split at hrun <;> cases hrun
    · exact List.not_mem_nil
    · simp
  intro p result events hrun
  by_cases hmoment : p.elapsed < Clock.momentLimit
  · rw [pause_eq hmoment] at hrun
    split at hrun
    · cases hrun
      exact List.not_mem_nil
    · exact (hsleep _).unlessCalledOff _ hrun
  · rw [pause, bind_of_error (now_of_not_lt hmoment)] at hrun
    cases hrun
    exact List.not_mem_nil

variable (hcalm : ∀ k, s.callsOffSleep k = false) (hpoll : ∀ k, IsCalm s (poll k))

include hcalm hpoll

theorem isCalm_pollFrom {positive : 0 < policy.pollInterval.nanos} (index : Nat)
    (polls : UInt32) :
    IsCalm s (pollFrom policy positive subject deadline poll index polls) := by
  have hlooks {index : Nat} {p : Progress} {found : Except Stop (PollOutcome α)}
      {events : List Event} (h : pollOnce subject (poll index) s p = (found, events)) :
      Event.calledOff ∉ events := by
    obtain ⟨looking, hlook, rfl⟩ := pollOnce_run h
    have hlooking := (hpoll index).unlessCalledOff subject.cancelled hlook
    exact fun hmem ↦ (List.mem_cons.1 hmem).elim Event.noConfusion hlooking
  intro p result events h
  fun_induction pollFrom policy positive subject deadline poll index polls s p
    generalizing result events with
  | case1 index polls p hoff =>
    cases h
    exact List.not_mem_nil
  | case2 index polls p _ stop _ hnow =>
    cases h
    by_cases hmoment : p.elapsed < Clock.momentLimit
    · rw [now_of_lt hmoment] at hnow
      cases hnow
    · rw [now_of_not_lt hmoment] at hnow
      cases hnow
      exact List.not_mem_nil
  | case3 index polls p _ _ _ _ _ stop _ hlook =>
    cases h
    exact hlooks hlook
  | case4 index polls p _ _ _ _ _ value _ hlook =>
    cases h
    exact hlooks hlook
  | case5 index polls p _ _ _ _ _ error _ hlook =>
    cases h
    exact hlooks hlook
  | case6 index polls p _ _ _ _ _ looking hlook stop pausing hpause =>
    cases h
    exact List.mem_append.not.2 (not_or.2 ⟨hlooks hlook, isCalm_pause hcalm _ hpause⟩)
  | case7 index polls p _ _ _ _ _ looking hlook pausing hpause tail rest hrest ih =>
    cases h
    have hfirst : Event.calledOff ∉ looking ++ pausing :=
      List.mem_append.not.2 (not_or.2 ⟨hlooks hlook, isCalm_pause hcalm _ hpause⟩)
    exact List.mem_append.not.2 (not_or.2 ⟨hfirst, ih hrest⟩)
  | case8 index polls p _ _ _ _ =>
    obtain ⟨-, line, rfl⟩ := giveUp_run h
    exact fun hmem ↦ Event.noConfusion (List.mem_singleton.1 hmem)

theorem isCalm_waitUntil : IsCalm s (waitUntil policy subject poll) := by
  intro p result events hrun
  by_cases hmoment : p.elapsed < Clock.momentLimit
  · rcases haccepted : policy.deadline p.elapsed with error | deadline
    · rw [waitUntil_of_refused hmoment haccepted] at hrun
      cases hrun
      exact List.not_mem_nil
    · rw [waitUntil_of_accepted hmoment haccepted] at hrun
      exact (isCalm_pause hcalm _).bind (fun _ ↦ isCalm_pollFrom hcalm hpoll 0 0) hrun
  · unfold waitUntil at hrun
    rw [bind_of_error (now_of_not_lt hmoment)] at hrun
    cases hrun
    exact List.not_mem_nil

end Run

namespace Polling

open Run

variable {α : Type}

/-- A wait ends with the error that the time is over, and tells of so many polls. -/
def Expires (w : Polling α) (told : UInt32) : Prop :=
  ∃ project name target timeout,
    w.run.1 = .error (.failed (.waitTimeout project name target timeout told))

/-- A wait with a policy that starts at a moment, by plain polls. -/
structure IsWaitAt (w : Polling α) (policy : WaitPolicy) (moment : Duration) : Prop where
  policy_eq : w.policy = policy
  start_eq : w.start.elapsed = moment
  plain : ∀ k, IsPlainPoll (w.poll k)

theorem IsWaitAt.tellsPolls {w : Polling α} {policy : WaitPolicy} {moment : Duration}
    (h : w.IsWaitAt policy moment) {told : UInt32} (hexpires : w.Expires told) :
    TellsPolls policy told w.run.2 := by
  obtain ⟨project, name, target, timeout, hresult⟩ := hexpires
  have hrun : w.run = (.error (.failed (.waitTimeout project name target timeout told)), w.run.2) :=
    Prod.ext hresult rfl
  obtain ⟨told', herror, htells⟩ :=
    (waitUntil_run hrun).tellsPolls h.plain ⟨project, name, target, timeout, told, rfl⟩
  rw [← h.policy_eq, (Error.waitTimeout.inj herror).2.2.2.2]
  exact htells

/-! ## Polls that take no time -/

/-- A wait with a timetable polls as often as the timetable says. -/
theorem IsTimed.pollCount_eq {w : Polling α} {count : Nat} {result : Except Stop α}
    {events : List Event} (h : w.IsTimed count result events) : pollCount events = count := by
  rw [pollCount, ← length_momentsOf Event.isPolled w.start, h.polls, List.length_map,
    List.length_range]

/-- Polls that settle nothing leave a wait to its time. -/
theorem IsTimed.eq_timeout {w : Polling α} {count : Nat} {result : Except Stop α}
    {events : List Event} (h : w.IsTimed count result events)
    (hpending : ∀ k, w.IsReached k → w.found k = .ok .pending) :
    result = .error (.failed (w.subject.timeout w.policy.timeout (UInt32.ofNat count))) := by
  have hearly := h.early
  have hending := h.ending
  generalize (w.start.afterAll events).elapsed = moment at hending
  cases hending with
  | @done k _ hbefore hdone =>
    rw [hpending k ⟨hearly k (Nat.lt_succ_self k), hbefore⟩] at hdone
    cases hdone
  | @failed k _ hbefore hfailed =>
    rw [hpending k ⟨hearly k (Nat.lt_succ_self k), hbefore⟩] at hfailed
    cases hfailed
  | expired => rfl

/-- A poll that finds at once that nothing is settled. -/
def idlePoll : Run (PollOutcome α) := Run.await (.answered .zero false [] .pending)

theorem idlePoll_run {s : Surroundings} {p : Progress} {result : Except Stop (PollOutcome α)}
    {events : List Event} (h : idlePoll s p = (result, events)) :
    (result = .ok .pending ∧ events = [.waited .zero]) ∨
      result = .error .clockOverrun ∧ events = [] := by
  rw [idlePoll, await_run] at h
  split at h
  · exact .inl (Prod.mk.inj h.symm)
  · exact .inr (Prod.mk.inj h.symm)

theorem isPlainPoll_idlePoll : IsPlainPoll (idlePoll : Run (PollOutcome α)) := by
  constructor
  · intro s p result events hrun e he
    rcases idlePoll_run hrun with ⟨-, rfl⟩ | ⟨-, rfl⟩
    · rw [List.mem_singleton.1 he]
      exact Event.noConfusion
    · exact absurd he List.not_mem_nil
  · rintro s p error events (hrun | hrun)
    · rcases idlePoll_run hrun with ⟨h, -⟩ | ⟨h, -⟩ <;> cases h
    · rcases idlePoll_run hrun with ⟨h, -⟩ | ⟨h, -⟩ <;> cases h

theorem isCalm_idlePoll (s : Surroundings) : IsCalm s (idlePoll : Run (PollOutcome α)) := by
  intro p result events hrun
  rcases idlePoll_run hrun with ⟨-, rfl⟩ | ⟨-, rfl⟩ <;> simp

def idle (α : Type) (policy : WaitPolicy) (moment : Duration) : Polling α :=
  ⟨policy, ⟨⟨"p", "n"⟩, "settled"⟩, fun _ ↦ idlePoll, .always (.ok .null), ⟨moment, false, 0, 0⟩⟩

theorem idle_isWaitAt (policy : WaitPolicy) (moment : Duration) :
    (idle α policy moment).IsWaitAt policy moment :=
  ⟨rfl, rfl, fun _ ↦ isPlainPoll_idlePoll⟩

/-- Idle polls are as many as the policy has room for, and the wait ends with its time. -/
theorem idle_expires {policy : WaitPolicy} {moment deadline : Duration}
    (haccepted : policy.deadline moment = .ok deadline) :
    (idle α policy moment).Expires (UInt32.ofNat policy.mostPolls) ∧
      pollCount (idle α policy moment).run.2 = policy.mostPolls := by
  obtain ⟨-, hlimit, rfl⟩ := WaitPolicy.deadline_eq_ok_iff.1 haccepted
  have hpoll {k : Nat} (hreached : (idle α policy moment).IsReached k) :=
    isAnswered_of_await (w := idle α policy moment) hlimit (fun _ ↦ rfl) hreached
  have hopen : ((idle α policy moment).start.afterAll
      (idle α policy moment).run.2).isCalledOff = false :=
    isCalledOff_afterAll_of_not_mem
      (isCalm_waitUntil (fun _ ↦ rfl) (fun _ ↦ isCalm_idlePoll _) rfl) _
  obtain ⟨count, htimed⟩ := waitUntil_isTimed (idle α policy moment) haccepted
    (fun k h ↦ (hpoll h).1) hopen
  obtain ⟨hcount, -⟩ := htimed.instant fun k h ↦ (hpoll h).2
  have hmost : count = policy.mostPolls := hcount
  rw [← hmost]
  exact ⟨⟨_, _, _, _, htimed.eq_timeout fun k h ↦ (hpoll h).2.1⟩, htimed.pollCount_eq⟩

/-- A wait whose time is over tells the number of its polls up to multiples of 2^32, and has made
no more of them than its policy has room for. With an accepted policy the number is told as it is
in every wait exactly when there is room for fewer than 2^32 polls. -/
theorem waitUntil_tellsPolls_iff {policy : WaitPolicy} {moment deadline : Duration}
    (haccepted : policy.deadline moment = .ok deadline) :
    (∀ w : Polling α, w.IsWaitAt policy moment → ∀ told, w.Expires told →
      TellsPolls policy told w.run.2) ∧
    ((∀ w : Polling α, w.IsWaitAt policy moment → ∀ told, w.Expires told →
      told.toNat = pollCount w.run.2) ↔ policy.mostPolls < 2 ^ 32) := by
  refine ⟨fun w hw told hexpires ↦ hw.tellsPolls hexpires, ?_, ?_⟩
  · intro hall
    obtain ⟨hexpires, hcount⟩ := idle_expires (α := α) haccepted
    have htold := hall _ (idle_isWaitAt policy moment) _ hexpires
    rw [hcount] at htold
    rw [← htold]
    exact UInt32.toNat_lt _
  · intro hroom w hw told hexpires
    obtain ⟨htold, hmost⟩ := hw.tellsPolls hexpires
    rw [htold]
    exact Nat.mod_eq_of_lt (Nat.lt_of_le_of_lt hmost hroom)

/-- With pauses of a nanosecond and somewhat more than four seconds in all there is room for 2^32
polls, and one wait by as many tells of none. -/
theorem waitUntil_tellsPolls_iff_nanosecond :
    let policy : WaitPolicy := ⟨.zero, ⟨1⟩, ⟨2 ^ 32⟩⟩
    policy.deadline .zero = .ok ⟨2 ^ 32⟩ ∧
      (idle Unit policy .zero).Expires 0 ∧ pollCount (idle Unit policy .zero).run.2 = 2 ^ 32 ∧
        ¬∀ w : Polling Unit, w.IsWaitAt policy .zero → ∀ told, w.Expires told →
          told.toNat = pollCount w.run.2 := by
  intro policy
  have haccepted : policy.deadline .zero = .ok ⟨2 ^ 32⟩ := by decide +kernel
  have hmost : policy.mostPolls = 2 ^ 32 := by decide +kernel
  obtain ⟨hexpires, hcount⟩ := idle_expires (α := Unit) haccepted
  rw [hmost] at hexpires hcount
  refine ⟨haccepted, hexpires, hcount, fun hall ↦ ?_⟩
  have hroom := (waitUntil_tellsPolls_iff haccepted).2.1 hall
  rw [hmost] at hroom
  exact Nat.lt_irrefl _ hroom

/-- The usual policy has room for far fewer. -/
example : WaitPolicy.usual.mostPolls = 239 := by decide +kernel

end Polling

end NamespaceLifecycle
