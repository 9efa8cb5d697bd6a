import NamespaceLifecycle.Proofs.Run
import NamespaceLifecycle.Wait

/-!
# What a wait does

A wait is refused, interrupted in its first pause, or it polls: some polls settle nothing, each
with a pause after it, and then the wait ends in one of a few ways. This form of a wait is proved
once, by induction along the loop; what a wait decides, how long it takes and what it sends are
then inductions on the number of the polls that settle nothing.
-/

namespace NamespaceLifecycle

namespace WaitPolicy

/-- A deadline is accepted exactly when there are pauses and the clock can name the moment. -/
theorem deadline_eq_ok_iff {policy : WaitPolicy} {now moment : Duration} :
    policy.deadline now = .ok moment ↔
      0 < policy.pollInterval.nanos ∧ now.plus policy.timeout < Clock.momentLimit ∧
        moment = now.plus policy.timeout := by
  unfold deadline Clock.later? Clock.moment?
  by_cases hinterval : policy.pollInterval.nanos = 0
  · simp [hinterval]
  · rw [if_neg hinterval]
    by_cases hmoment : now.plus policy.timeout < Clock.momentLimit
    · simp only [if_pos hmoment, Except.ok.injEq]
      exact ⟨fun h ↦ ⟨Nat.pos_of_ne_zero hinterval, hmoment, h.symm⟩, fun h ↦ h.2.2.symm⟩
    · simp only [if_neg hmoment, reduceCtorEq, false_iff]
      exact fun h ↦ hmoment h.2.1

theorem lt_of_deadline_eq_ok {policy : WaitPolicy} {now moment : Duration}
    (h : policy.deadline now = .ok moment) :
    now < Clock.momentLimit ∧ moment < Clock.momentLimit := by
  obtain ⟨-, hlimit, rfl⟩ := deadline_eq_ok_iff.1 h
  refine ⟨?_, hlimit⟩
  rw [Duration.lt_def, Duration.nanos_plus] at hlimit
  rw [Duration.lt_def]
  omega

end WaitPolicy

namespace Run

variable {α : Type} {s : Surroundings} {p : Progress}

theorem now_of_lt (h : p.elapsed < Clock.momentLimit) : now s p = (.ok p.elapsed, []) := by
  rw [now, Clock.moment?, if_pos h]

theorem now_of_not_lt (h : ¬p.elapsed < Clock.momentLimit) :
    now s p = (.error .clockOverrun, []) := by
  rw [now, Clock.moment?, if_neg h]

/-! ## Pauses -/

/-- What is slept in a pause: the span, or what is left until the deadline. -/
def pauseSpan (span deadline now : Duration) : Duration := span.least (deadline.minus now)

/-- The clock can count a sleep that does not go beyond a deadline that it can name. -/
theorem plus_pauseSpan_lt (span : Duration) {deadline now : Duration}
    (hdeadline : deadline < Clock.momentLimit) (hmoment : now < Clock.momentLimit) :
    now.plus (pauseSpan span deadline now) < Clock.countLimit := by
  have hlimit : Clock.momentLimit.nanos ≤ Clock.countLimit.nanos := by decide
  simp only [pauseSpan, Duration.lt_def, Duration.nanos_plus, Duration.nanos_least,
    Duration.nanos_minus] at hdeadline hmoment ⊢
  omega

/-- What a pause does: the clock runs over, it is called off before or in its sleep, nothing is
left to sleep, or it passes. -/
inductive PauseRun (subject : WaitSubject) (span deadline : Duration) (p : Progress) :
    Except Stop Unit → List Event → Prop
  | unnamed (hmoment : ¬p.elapsed < Clock.momentLimit) :
      PauseRun subject span deadline p (.error .clockOverrun) []
  | calledOff (hoff : p.isCalledOff = true) :
      PauseRun subject span deadline p (.error (.failed subject.cancelled)) []
  | uncounted (hmoment : p.elapsed < Clock.momentLimit)
      (hcount : ¬p.elapsed.plus (pauseSpan span deadline p.elapsed) < Clock.countLimit) :
      PauseRun subject span deadline p (.error .clockOverrun) []
  | interrupted (hopen : p.isCalledOff = false) :
      PauseRun subject span deadline p (.error (.failed subject.cancelled))
        [.slept (pauseSpan span deadline p.elapsed), .calledOff]
  | nothingLeft (hmoment : p.elapsed < Clock.momentLimit)
      (hzero : (pauseSpan span deadline p.elapsed).nanos = 0) :
      PauseRun subject span deadline p (.ok ()) []
  | slept (hmoment : p.elapsed < Clock.momentLimit) (hopen : p.isCalledOff = false)
      (hspan : (pauseSpan span deadline p.elapsed).nanos ≠ 0) :
      PauseRun subject span deadline p (.ok ())
        [.slept (pauseSpan span deadline p.elapsed)]

theorem sleep_cases {span : Duration} {result : Except Stop Unit} {events : List Event}
    (h : sleep span s p = (result, events)) :
    (¬p.elapsed.plus span < Clock.countLimit ∧ result = .error .clockOverrun ∧ events = []) ∨
      (result = .error .abandoned ∧ events = [.slept span, .calledOff]) ∨
      (result = .ok () ∧ events = [.slept span]) := by
  unfold sleep Clock.advance? at h
  by_cases hcount : p.elapsed.plus span < Clock.countLimit
  · simp only [if_pos hcount] at h
    split at h
    · exact .inr (.inl (Prod.mk.inj h.symm))
    · exact .inr (.inr (Prod.mk.inj h.symm))
  · simp only [if_neg hcount] at h
    exact .inl ⟨hcount, Prod.mk.inj h.symm⟩

/-- A pause sleeps for what is left of its span, and not at all when nothing is left. -/
theorem pause_eq {subject : WaitSubject} {span deadline : Duration}
    (hmoment : p.elapsed < Clock.momentLimit) :
    pause subject span deadline s p =
      if (pauseSpan span deadline p.elapsed).nanos = 0 then (.ok (), [])
      else unlessCalledOff subject.cancelled (sleep (pauseSpan span deadline p.elapsed)) s p := by
  rw [pause, bind_of_ok (now_of_lt hmoment), Progress.afterAll_nil, List.nil_append, Prod.eta]
  change ((if (pauseSpan span deadline p.elapsed).nanos = 0 then pure ()
    else unlessCalledOff subject.cancelled (sleep (pauseSpan span deadline p.elapsed))) :
      Run Unit) s p = _
  split <;> rfl

theorem pause_run {subject : WaitSubject} {span deadline : Duration} {result : Except Stop Unit}
    {events : List Event} (h : pause subject span deadline s p = (result, events)) :
    PauseRun subject span deadline p result events := by
  by_cases hmoment : p.elapsed < Clock.momentLimit
  · rw [pause_eq hmoment] at h
    split at h
    · rename_i hzero
      rw [Prod.mk.injEq] at h
      obtain ⟨rfl, rfl⟩ := h
      exact .nothingLeft hmoment hzero
    · rename_i hspan
      rcases unlessCalledOff_cases h with
        ⟨hoff, rfl, rfl⟩ | ⟨hopen, hsleep, rfl⟩ | ⟨hopen, hsleep, hresult⟩
      · exact .calledOff hoff
      · rcases sleep_cases hsleep with ⟨-, hsleep, -⟩ | ⟨-, rfl⟩ | ⟨hsleep, -⟩
        · cases hsleep
        · exact .interrupted hopen
        · cases hsleep
      · rcases sleep_cases hsleep with ⟨hcount, rfl, rfl⟩ | ⟨habandoned, -⟩ | ⟨rfl, rfl⟩
        · exact .uncounted hmoment hcount
        · exact absurd habandoned hresult
        · exact .slept hmoment hopen hspan
  · rw [pause, bind_of_error (now_of_not_lt hmoment), Prod.mk.injEq] at h
    obtain ⟨rfl, rfl⟩ := h
    exact .unnamed hmoment

namespace PauseRun

variable {subject : WaitSubject} {span deadline : Duration} {result : Except Stop Unit}
  {events : List Event}

theorem requestsIn_eq_nil (h : PauseRun subject span deadline p result events) :
    requestsIn events = [] := by
  cases h <;> rfl

theorem polled_not_mem (h : PauseRun subject span deadline p result events) :
    Event.polled ∉ events := by
  cases h <;> simp

/-- A pause that passes leaves only the time changed. -/
theorem afterAll_of_ok (h : PauseRun subject span deadline p (.ok ()) events) :
    (p.afterAll events).elapsed = p.elapsed.plus (pauseSpan span deadline p.elapsed) ∧
      (p.afterAll events).isCalledOff = p.isCalledOff := by
  cases h with
  | nothingLeft hmoment hzero =>
    refine ⟨?_, rfl⟩
    rw [Progress.afterAll_nil, Duration.plus, hzero, Nat.add_zero]
  | slept => exact ⟨rfl, rfl⟩

theorem lt_of_ok (h : PauseRun subject span deadline p (.ok ()) events) :
    p.elapsed < Clock.momentLimit := by
  cases h with
  | nothingLeft hmoment _ => exact hmoment
  | slept hmoment => exact hmoment

/-- A pause that stops and is not called off is one in which the clock runs over. -/
theorem unnamed_of_error {stop : Stop} (hdeadline : deadline < Clock.momentLimit)
    (h : PauseRun subject span deadline p (.error stop) events)
    (hcalm : (p.afterAll events).isCalledOff = false) :
    ¬p.elapsed < Clock.momentLimit ∧ stop = .clockOverrun ∧ events = [] := by
  cases h with
  | unnamed hmoment => exact ⟨hmoment, rfl, rfl⟩
  | calledOff hoff =>
    rw [Progress.afterAll_nil, hoff] at hcalm
    cases hcalm
  | uncounted hmoment hcount =>
    exact absurd (plus_pauseSpan_lt span hdeadline hmoment) hcount
  | interrupted => cases hcalm

end PauseRun

/-! ## Polls -/

variable {policy : WaitPolicy} {subject : WaitSubject} {deadline : Duration}
  {poll : Nat → Run (PollOutcome α)}

/-- Polls that settle nothing, with the pauses after them: from the poll with the given number on,
how many there are and what happens in them. -/
inductive PendingPolls (policy : WaitPolicy) (subject : WaitSubject) (deadline : Duration)
    (poll : Nat → Run (PollOutcome α)) (s : Surroundings) :
    Nat → Progress → Nat → List Event → Prop
  | none (index : Nat) (p : Progress) : PendingPolls policy subject deadline poll s index p 0 []
  | more {index count : Nat} {p : Progress} {looking pausing rest : List Event}
      (hopen : p.isCalledOff = false) (hearly : p.elapsed < deadline)
      (hlook : unlessCalledOff subject.cancelled (poll index) s p = (.ok .pending, looking))
      (hpause : PauseRun subject policy.pollInterval deadline (p.afterAll looking) (.ok ()) pausing)
      (hrest : PendingPolls policy subject deadline poll s (index + 1)
        ((p.afterAll looking).afterAll pausing) count rest) :
      PendingPolls policy subject deadline poll s index p (count + 1)
        (.polled :: looking ++ pausing ++ rest)

/-- How the polls of a wait end, where so many polls have settled nothing. -/
inductive PollsEnd (policy : WaitPolicy) (subject : WaitSubject) (deadline : Duration)
    (poll : Nat → Run (PollOutcome α)) (s : Surroundings) (index : Nat) (p : Progress)
    (polls : UInt32) : Except Stop α → List Event → Prop
  | calledOff (hoff : p.isCalledOff = true) :
      PollsEnd policy subject deadline poll s index p polls (.error (.failed subject.cancelled)) []
  | unnamed (hmoment : ¬p.elapsed < Clock.momentLimit) :
      PollsEnd policy subject deadline poll s index p polls (.error .clockOverrun) []
  | expired {line : LogLine} (hopen : p.isCalledOff = false) (hlate : ¬p.elapsed < deadline) :
      PollsEnd policy subject deadline poll s index p polls
        (.error (.failed (subject.timeout policy.timeout polls))) [.logged line]
  | stopped {stop : Stop} {looking : List Event} (hopen : p.isCalledOff = false)
      (hearly : p.elapsed < deadline)
      (hlook : unlessCalledOff subject.cancelled (poll index) s p = (.error stop, looking)) :
      PollsEnd policy subject deadline poll s index p polls (.error stop) (.polled :: looking)
  | done {value : α} {looking : List Event} (hopen : p.isCalledOff = false)
      (hearly : p.elapsed < deadline)
      (hlook : unlessCalledOff subject.cancelled (poll index) s p = (.ok (.done value), looking)) :
      PollsEnd policy subject deadline poll s index p polls (.ok value) (.polled :: looking)
  | failed {error : Error} {looking : List Event} (hopen : p.isCalledOff = false)
      (hearly : p.elapsed < deadline)
      (hlook : unlessCalledOff subject.cancelled (poll index) s p =
        (.ok (.failed error), looking)) :
      PollsEnd policy subject deadline poll s index p polls (.error (.failed error))
        (.polled :: looking)
  | interrupted {stop : Stop} {looking pausing : List Event} (hopen : p.isCalledOff = false)
      (hearly : p.elapsed < deadline)
      (hlook : unlessCalledOff subject.cancelled (poll index) s p = (.ok .pending, looking))
      (hpause : PauseRun subject policy.pollInterval deadline (p.afterAll looking) (.error stop)
        pausing) :
      PollsEnd policy subject deadline poll s index p polls (.error stop)
        (.polled :: looking ++ pausing)

theorem pollOnce_of_look {poll : Run (PollOutcome α)} {result : Except Stop (PollOutcome α)}
    {looking : List Event}
    (h : unlessCalledOff subject.cancelled poll s p = (result, looking)) :
    pollOnce subject poll s p = (result, .polled :: looking) := by
  change ((unlessCalledOff subject.cancelled poll s p).1,
    Event.polled :: (unlessCalledOff subject.cancelled poll s p).2) = _
  rw [h]

/-- A poll that can be called off follows its mark. -/
theorem pollOnce_run {poll : Run (PollOutcome α)} {result : Except Stop (PollOutcome α)}
    {events : List Event} (h : pollOnce subject poll s p = (result, events)) :
    ∃ looking, unlessCalledOff subject.cancelled poll s p = (result, looking) ∧
      events = .polled :: looking := by
  rcases hlook : unlessCalledOff subject.cancelled poll s p with ⟨outcome, looking⟩
  rw [pollOnce_of_look hlook, Prod.mk.injEq] at h
  exact ⟨looking, congrArg (·, looking) h.1, h.2.symm⟩

theorem giveUp_run {polls : UInt32} {result : Except Stop α} {events : List Event}
    (h : giveUp policy subject polls s p = (result, events)) :
    result = .error (.failed (subject.timeout policy.timeout polls)) ∧
      ∃ line, events = [.logged line] := by
  obtain ⟨hresult, hevents⟩ := Prod.mk.inj h.symm
  exact ⟨hresult, _, hevents⟩

def PollsRun (policy : WaitPolicy) (subject : WaitSubject) (deadline : Duration)
    (poll : Nat → Run (PollOutcome α)) (s : Surroundings) (index : Nat) (p : Progress)
    (polls : UInt32) (result : Except Stop α) (events : List Event) : Prop :=
  ∃ count front rest, PendingPolls policy subject deadline poll s index p count front ∧
    PollsEnd policy subject deadline poll s (index + count) (p.afterAll front)
      (polls + UInt32.ofNat count) result rest ∧ events = front ++ rest

theorem PollsEnd.run {index : Nat} {polls : UInt32} {result : Except Stop α} {events : List Event}
    (h : PollsEnd policy subject deadline poll s index p polls result events) :
    PollsRun policy subject deadline poll s index p polls result events := by
  refine ⟨0, [], events, .none index p, ?_, rfl⟩
  rw [Nat.add_zero, Progress.afterAll_nil]
  have hzero : polls + UInt32.ofNat 0 = polls := by simp
  rw [hzero]
  exact h

/-- One more poll that settles nothing comes before the others. -/
theorem PollsRun.more {index : Nat} {polls : UInt32} {result : Except Stop α}
    {looking pausing rest : List Event} (hopen : p.isCalledOff = false)
    (hearly : p.elapsed < deadline)
    (hlook : unlessCalledOff subject.cancelled (poll index) s p = (.ok .pending, looking))
    (hpause : PauseRun subject policy.pollInterval deadline (p.afterAll looking) (.ok ()) pausing)
    (hrest : PollsRun policy subject deadline poll s (index + 1)
      ((p.afterAll looking).afterAll pausing) (polls + 1) result rest) :
    PollsRun policy subject deadline poll s index p polls result
      (.polled :: looking ++ pausing ++ rest) := by
  obtain ⟨count, front, last, hfront, hlast, rfl⟩ := hrest
  refine ⟨count + 1, .polled :: looking ++ pausing ++ front, last,
    .more hopen hearly hlook hpause hfront, ?_, (List.append_assoc _ _ _).symm⟩
  have hprogress : p.afterAll (.polled :: looking ++ pausing ++ front) =
      ((p.afterAll looking).afterAll pausing).afterAll front := by
    rw [Progress.afterAll_append, Progress.afterAll_append]
    rfl
  have hpolls : polls + UInt32.ofNat (count + 1) = polls + 1 + UInt32.ofNat count := by
    rw [Nat.add_comm count 1, UInt32.ofNat_add, ← UInt32.add_assoc]
    rfl
  rw [hprogress, hpolls, Nat.add_comm count 1, ← Nat.add_assoc]
  exact hlast

/-- The polls of a wait are some that settle nothing, and an end. -/
theorem pollFrom_run {positive : 0 < policy.pollInterval.nanos} {index : Nat} {polls : UInt32}
    {result : Except Stop α} {events : List Event}
    (h : pollFrom policy positive subject deadline poll index polls s p = (result, events)) :
    PollsRun policy subject deadline poll s index p polls result events := by
  fun_induction pollFrom policy positive subject deadline poll index polls s p
    generalizing result events with
  | case1 index polls p hoff =>
    cases h
    exact (PollsEnd.calledOff hoff).run
  | case2 index polls p _ stop nowEvents hnow =>
    by_cases hmoment : p.elapsed < Clock.momentLimit
    · rw [now_of_lt hmoment] at hnow
      cases hnow
    · rw [now_of_not_lt hmoment] at hnow
      cases hnow
      cases h
      exact (PollsEnd.unnamed hmoment).run
  | case3 index polls p hopen _ _ _ hearly stop _ hpoll =>
    obtain ⟨looking, hlook, rfl⟩ := pollOnce_run hpoll
    cases h
    exact (PollsEnd.stopped (eq_false_of_ne_true hopen) hearly hlook).run
  | case4 index polls p hopen _ _ _ hearly value _ hpoll =>
    obtain ⟨looking, hlook, rfl⟩ := pollOnce_run hpoll
    cases h
    exact (PollsEnd.done (eq_false_of_ne_true hopen) hearly hlook).run
  | case5 index polls p hopen _ _ _ hearly error _ hpoll =>
    obtain ⟨looking, hlook, rfl⟩ := pollOnce_run hpoll
    cases h
    exact (PollsEnd.failed (eq_false_of_ne_true hopen) hearly hlook).run
  | case6 index polls p hopen _ _ _ hearly _ hpoll stop pausing hpause =>
    obtain ⟨looking, hlook, rfl⟩ := pollOnce_run hpoll
    cases h
    exact (PollsEnd.interrupted (eq_false_of_ne_true hopen) hearly hlook
      (pause_run hpause)).run
  | case7 index polls p hopen _ _ _ hearly _ hpoll pausing hpause tail rest hrest ih =>
    obtain ⟨looking, hlook, rfl⟩ := pollOnce_run hpoll
    cases h
    have hmore := ih hrest
    rw [Progress.afterAll_append] at hmore
    exact .more (eq_false_of_ne_true hopen) hearly hlook (pause_run hpause) hmore
  | case8 index polls p hopen _ _ _ hlate =>
    obtain ⟨rfl, line, rfl⟩ := giveUp_run h
    exact (PollsEnd.expired (eq_false_of_ne_true hopen) hlate).run

/-! ## Waits -/

/-- What a wait does: the clock cannot name the moment, the deadline is refused, the first pause
stops, or it polls. -/
inductive WaitRun (policy : WaitPolicy) (subject : WaitSubject)
    (poll : Nat → Run (PollOutcome α)) (s : Surroundings) (p : Progress) :
    Except Stop α → List Event → Prop
  | unnamed (hmoment : ¬p.elapsed < Clock.momentLimit) :
      WaitRun policy subject poll s p (.error .clockOverrun) []
  | refused {error : Error} (hmoment : p.elapsed < Clock.momentLimit)
      (hdeadline : policy.deadline p.elapsed = .error error) :
      WaitRun policy subject poll s p (.error (.failed error)) []
  | delayed {deadline : Duration} {stop : Stop} {events : List Event}
      (hdeadline : policy.deadline p.elapsed = .ok deadline)
      (hpause : PauseRun subject policy.delay deadline p (.error stop) events) :
      WaitRun policy subject poll s p (.error stop) events
  | polled {deadline : Duration} {pausing rest : List Event} {result : Except Stop α}
      (hdeadline : policy.deadline p.elapsed = .ok deadline)
      (hpause : PauseRun subject policy.delay deadline p (.ok ()) pausing)
      (hpolls : PollsRun policy subject deadline poll s 0 (p.afterAll pausing) 0 result rest) :
      WaitRun policy subject poll s p result (pausing ++ rest)

theorem waitUntil_of_refused {error : Error} (hmoment : p.elapsed < Clock.momentLimit)
    (hdeadline : policy.deadline p.elapsed = .error error) :
    waitUntil policy subject poll s p = (.error (.failed error), []) := by
  unfold waitUntil
  rw [bind_of_ok (now_of_lt hmoment), Progress.afterAll_nil, List.nil_append, Prod.eta,
    ← fail_run]
  refine congrFun (congrFun ?_ s) p
  split
  · rename_i hrefused
    cases hrefused.symm.trans hdeadline
    rfl
  · rename_i haccepted
    cases haccepted.symm.trans hdeadline

theorem waitUntil_of_accepted (hmoment : p.elapsed < Clock.momentLimit)
    (hdeadline : policy.deadline p.elapsed = .ok deadline) :
    waitUntil policy subject poll s p =
      (do
        pause subject policy.delay deadline
        pollFrom policy (WaitPolicy.pollInterval_pos_of_deadline hdeadline) subject deadline
          poll 0 0) s p := by
  unfold waitUntil
  rw [bind_of_ok (now_of_lt hmoment), Progress.afterAll_nil, List.nil_append, Prod.eta]
  refine congrFun (congrFun ?_ s) p
  split
  · rename_i hrefused
    cases hrefused.symm.trans hdeadline
  · rename_i haccepted
    cases haccepted.symm.trans hdeadline
    rfl

theorem waitUntil_run {result : Except Stop α} {events : List Event}
    (h : waitUntil policy subject poll s p = (result, events)) :
    WaitRun policy subject poll s p result events := by
  by_cases hmoment : p.elapsed < Clock.momentLimit
  · rcases hdeadline : policy.deadline p.elapsed with error | deadline
    · rw [waitUntil_of_refused hmoment hdeadline] at h
      cases h
      exact .refused hmoment hdeadline
    · rw [waitUntil_of_accepted hmoment hdeadline] at h
      rcases bind_cases h with ⟨stop, hpause, rfl⟩ | ⟨_, pausing, rest, hpause, hpolls, rfl⟩
      · exact .delayed hdeadline (pause_run hpause)
      · exact .polled hdeadline (pause_run hpause) (pollFrom_run hpolls)
  · unfold waitUntil at h
    rw [bind_of_error (now_of_not_lt hmoment)] at h
    cases h
    exact .unnamed hmoment

/-! ## The polls of a run -/

/-- What comes after a poll: anything when it settles nothing, and otherwise the end. -/
inductive LookEnd : Except Stop (PollOutcome α) → Except Stop α → List Event → Prop
  | pending (result : Except Stop α) (tail : List Event) : LookEnd (.ok .pending) result tail
  | done (value : α) : LookEnd (.ok (.done value)) (.ok value) []
  | failed (error : Error) : LookEnd (.ok (.failed error)) (.error (.failed error)) []
  | stopped (stop : Stop) : LookEnd (.error stop) (.error stop) []

/-- A poll in a run, of which the events after its mark are given. -/
def IsLook (subject : WaitSubject) (poll : Nat → Run (PollOutcome α)) (s : Surroundings)
    (p : Progress) (result : Except Stop α) (after : List Event) : Prop :=
  ∃ index found looking tail, p.isCalledOff = false ∧
    unlessCalledOff subject.cancelled (poll index) s p = (found, looking) ∧
    after = looking ++ tail ∧ LookEnd found result tail

section Looks

variable (hquiet : ∀ k, Emits (· ≠ .polled) (poll k))

include hquiet

theorem polled_not_mem_looking {index : Nat} {found : Except Stop (PollOutcome α)}
    {looking : List Event}
    (hlook : unlessCalledOff subject.cancelled (poll index) s p = (found, looking)) :
    Event.polled ∉ looking :=
  fun hmem ↦ (hquiet index).unlessCalledOff subject.cancelled hlook _ hmem rfl

theorem PendingPolls.isLook {index count : Nat} {front : List Event}
    (h : PendingPolls policy subject deadline poll s index p count front)
    {before after : List Event} (hevents : front = before ++ .polled :: after)
    (result : Except Stop α) (last : List Event) :
    IsLook subject poll s (p.afterAll before) result (after ++ last) := by
  induction h generalizing before with
  | none index p =>
    cases before <;> cases hevents
  | @more index count p looking pausing rest hopen hearly hlook hpause hrest ih =>
    cases before with
    | nil =>
      simp only [List.cons_append, List.nil_append, List.cons.injEq, true_and] at hevents
      refine ⟨index, _, looking, pausing ++ rest ++ last, hopen, hlook, ?_, .pending _ _⟩
      rw [← hevents, List.append_assoc, List.append_assoc, List.append_assoc]
    | cons mark before =>
      simp only [List.cons_append, List.cons.injEq] at hevents
      obtain ⟨rfl, hevents⟩ := hevents
      rw [List.append_assoc] at hevents
      obtain ⟨later, rfl, hlater⟩ :=
        split_of_not_mem_first hevents (polled_not_mem_looking hquiet hlook)
      obtain ⟨between, rfl, hbetween⟩ := split_of_not_mem_first hlater hpause.polled_not_mem
      rw [Progress.afterAll_cons, Progress.afterAll_append, Progress.afterAll_append]
      exact ih hbetween

theorem PollsEnd.isLook {index : Nat} {polls : UInt32} {result : Except Stop α}
    {events before after : List Event}
    (h : PollsEnd policy subject deadline poll s index p polls result events)
    (hevents : events = before ++ .polled :: after) :
    IsLook subject poll s (p.afterAll before) result after := by
  have hfirst {found : Except Stop (PollOutcome α)} {looking : List Event}
      (hopen : p.isCalledOff = false)
      (hlook : unlessCalledOff subject.cancelled (poll index) s p = (found, looking))
      {tail : List Event} (htail : Event.polled ∉ tail)
      (hmark : .polled :: (looking ++ tail) = before ++ .polled :: after)
      (hend : LookEnd found result tail) :
      IsLook subject poll s (p.afterAll before) result after := by
    cases before with
    | nil =>
      rw [List.nil_append, List.cons.injEq] at hmark
      exact ⟨index, found, looking, tail, hopen, hlook, hmark.2.symm, hend⟩
    | cons mark before =>
      rw [List.cons_append, List.cons.injEq] at hmark
      have hmem : Event.polled ∈ looking ++ tail := by
        rw [hmark.2]
        simp
      rcases List.mem_append.1 hmem with hmem | hmem
      · exact absurd hmem (polled_not_mem_looking hquiet hlook)
      · exact absurd hmem htail
  cases h with
  | calledOff hoff => cases before <;> cases hevents
  | unnamed hmoment => cases before <;> cases hevents
  | @expired line _ hlate =>
    have hmem : Event.polled ∈ [Event.logged line] := by
      rw [hevents]
      simp
    simp at hmem
  | stopped hopen hearly hlook =>
    apply hfirst hopen hlook List.not_mem_nil _ (.stopped _)
    rw [List.append_nil]
    exact hevents
  | done hopen hearly hlook =>
    apply hfirst hopen hlook List.not_mem_nil _ (.done _)
    rw [List.append_nil]
    exact hevents
  | failed hopen hearly hlook =>
    apply hfirst hopen hlook List.not_mem_nil _ (.failed _)
    rw [List.append_nil]
    exact hevents
  | interrupted hopen hearly hlook hpause =>
    exact hfirst hopen hlook hpause.polled_not_mem hevents (.pending _ _)

/-- Every mark of a poll in a wait stands before what a poll does. -/
theorem WaitRun.isLook {result : Except Stop α} {events before after : List Event}
    (h : WaitRun policy subject poll s p result events)
    (hevents : events = before ++ .polled :: after) :
    IsLook subject poll s (p.afterAll before) result after := by
  cases h with
  | unnamed hmoment => cases before <;> cases hevents
  | refused hmoment hdeadline => cases before <;> cases hevents
  | delayed hdeadline hpause =>
    refine absurd ?_ hpause.polled_not_mem
    rw [hevents]
    simp
  | @polled deadline pausing rest _ hdeadline hpause hpolls =>
    obtain ⟨count, front, last, hfront, hlast, rfl⟩ := hpolls
    obtain ⟨between, rfl, hbetween⟩ := split_of_not_mem_first hevents hpause.polled_not_mem
    rw [Progress.afterAll_append]
    rcases split_cases hbetween with ⟨middle, hmiddle, rfl⟩ | ⟨middle, rfl, hmiddle⟩
    · exact hfront.isLook hquiet hmiddle _ _
    · rw [Progress.afterAll_append]
      exact hlast.isLook hquiet hmiddle

end Looks

/-! ## The errors of a wait -/

section Errors

variable {kind : Error → Prop}

theorem PauseRun.failsWith {span : Duration} {error : Error} {events : List Event}
    (hcancelled : kind subject.cancelled)
    (h : PauseRun subject span deadline p (.error (.failed error)) events) : kind error := by
  cases h with
  | calledOff hoff => exact hcancelled
  | interrupted => exact hcancelled

/-- All errors that a poll fails with or that it finds are of one kind. -/
def PollsWith (kind : Error → Prop) (poll : Run (PollOutcome α)) : Prop :=
  ∀ ⦃s p error events⦄, poll s p = (.error (.failed error), events) ∨
    poll s p = (.ok (.failed error), events) → kind error

theorem pollsWith_pure {error : Error} (h : kind error) :
    PollsWith kind (pure (.failed error) : Run (PollOutcome α)) := by
  rintro s p other events (hrun | hrun)
  · cases hrun
  · cases hrun
    exact h

/-- The polls of a wait end with errors of their own or of being called off; or their time is over,
and then they are not called off. -/
theorem PollsEnd.failsWith {index : Nat} {polls : UInt32} {error : Error} {events : List Event}
    (hcancelled : kind subject.cancelled) (hpoll : ∀ k, PollsWith kind (poll k))
    (h : PollsEnd policy subject deadline poll s index p polls (.error (.failed error)) events) :
    kind error ∨ error = subject.timeout policy.timeout polls ∧
      (p.afterAll events).isCalledOff = false := by
  cases h with
  | calledOff hoff => exact .inl hcancelled
  | expired hopen hlate => exact .inr ⟨rfl, hopen⟩
  | stopped hopen hearly hlook =>
    rcases unlessCalledOff_cases hlook with ⟨-, herror, -⟩ | ⟨-, -, herror⟩ | ⟨-, hrun, -⟩
    · cases herror
      exact .inl hcancelled
    · cases herror
      exact .inl hcancelled
    · exact .inl (hpoll index (.inl hrun))
  | failed hopen hearly hlook => exact .inl (hpoll index (.inr (eq_of_unlessCalledOff hlook)))
  | interrupted hopen hearly hlook hpause => exact .inl (hpause.failsWith hcancelled)

/-- A wait fails with errors of its polls or of being called off; or its time is over, and then it
is not called off; or its deadline is refused before anything happens. -/
theorem WaitRun.failsWith {error : Error} {events : List Event}
    (hcancelled : kind subject.cancelled) (hpoll : ∀ k, PollsWith kind (poll k))
    (h : WaitRun policy subject poll s p (.error (.failed error)) events) :
    kind error ∨
      (∃ polls, error = subject.timeout policy.timeout polls ∧
        (p.afterAll events).isCalledOff = false) ∨
      p.elapsed < Clock.momentLimit ∧ policy.deadline p.elapsed = .error error := by
  cases h with
  | refused hmoment hdeadline => exact .inr (.inr ⟨hmoment, hdeadline⟩)
  | delayed hdeadline hpause => exact .inl (hpause.failsWith hcancelled)
  | polled hdeadline hpause hpolls =>
    obtain ⟨count, front, last, -, hend, rfl⟩ := hpolls
    rcases hend.failsWith hcancelled hpoll with hkind | ⟨htimeout, hopen⟩
    · exact .inl hkind
    · refine .inr (.inl ⟨_, htimeout, ?_⟩)
      rw [Progress.afterAll_append, Progress.afterAll_append]
      exact hopen

end Errors

end Run

end NamespaceLifecycle
