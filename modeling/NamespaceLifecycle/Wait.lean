import NamespaceLifecycle.Identity
import NamespaceLifecycle.Run

/-!
# Waiting

To wait is to poll: after a first delay, and then with a pause after every poll, until a poll
settles the matter, the time is over, or the operation is called off. No pause goes beyond the
deadline, and every poll starts before it. Since the pause is never zero, the time that is left
shrinks with every poll, and waiting comes to an end.
-/

namespace NamespaceLifecycle

/-- How to wait: the pause before the first poll, the pauses after each, and the time for all. -/
structure WaitPolicy where
  delay : Duration
  pollInterval : Duration
  timeout : Duration
  deriving DecidableEq, Repr, Inhabited

namespace WaitPolicy

def usualInterval : Duration := .ofSeconds 5

def usualTimeout : Duration := .ofSeconds 1200

def usual : WaitPolicy := ⟨usualInterval, usualInterval, usualTimeout⟩

def withTimeout (policy : WaitPolicy) (timeout : Duration) : WaitPolicy :=
  { policy with timeout := timeout }

/-- The moment at which a wait that starts now is over. There must be pauses, and the clock must
be able to name the moment. -/
def deadline (policy : WaitPolicy) (now : Duration) : Except Error Duration :=
  if policy.pollInterval.nanos = 0 then
    .error (.validation "poll_interval" "must be greater than zero")
  else
    match Clock.later? now policy.timeout with
    | some moment => .ok moment
    | none => .error (.validation "timeout" (policy.timeout.text ++ " is out of range"))

theorem pollInterval_pos_of_deadline {policy : WaitPolicy} {now moment : Duration}
    (h : policy.deadline now = .ok moment) : 0 < policy.pollInterval.nanos := by
  unfold deadline at h
  split at h
  · cases h
  · omega

end WaitPolicy

/-- What is waited for, as messages name it. -/
structure WaitSubject where
  identity : Identity
  target : String
  deriving DecidableEq, Repr

namespace WaitSubject

def timeout (subject : WaitSubject) (timeout : Duration) (polls : UInt32) : Error :=
  .waitTimeout subject.identity.project subject.identity.name subject.target timeout polls

def cancelled (subject : WaitSubject) : Error :=
  .cancelled subject.identity.project subject.identity.name subject.target

end WaitSubject

inductive PollOutcome (α : Type) where
  | pending
  | done (value : α)
  | failed (error : Error)
  deriving Repr

namespace Run

/-- Sleeps for a span, but not beyond the deadline, and not at all when nothing is left. -/
def pause (subject : WaitSubject) (span deadline : Duration) : Run Unit := do
  let moment ← now
  let span := span.least (deadline.minus moment)
  if span.nanos = 0 then return ()
  else unlessCalledOff subject.cancelled (sleep span)

/-- The end of the time: a warning and the error that counts the polls. -/
def giveUp {α : Type} (policy : WaitPolicy) (subject : WaitSubject) (polls : UInt32) : Run α := do
  log .warn (Error.label ++ " " ++ subject.identity.name ++ " in Project " ++
    subject.identity.project ++ " not " ++ subject.target ++ " after " ++ policy.timeout.text)
  fail (subject.timeout policy.timeout polls)

/-- One poll; it may be called off. -/
def pollOnce {α : Type} (subject : WaitSubject) (poll : Run (PollOutcome α)) :
    Run (PollOutcome α) := do
  record .polled
  unlessCalledOff subject.cancelled poll

theorem elapsed_of_sleep {span : Duration} {s : Surroundings} {p : Progress}
    {events : List Event} (h : sleep span s p = (.ok (), events)) :
    (p.afterAll events).elapsed = p.elapsed.plus span := by
  unfold sleep at h
  split at h
  · simp at h
  · split at h
    · simp at h
    · simp only [Prod.mk.injEq, true_and] at h
      subst h
      rfl

theorem eq_of_unlessCalledOff {α : Type} {error : Error} {x : Run α} {s : Surroundings}
    {p : Progress} {a : α} {events : List Event}
    (h : unlessCalledOff error x s p = (.ok a, events)) : x s p = (.ok a, events) := by
  unfold unlessCalledOff at h
  split at h
  · simp at h
  · split at h
    · simp at h
    · exact h

/-- A pause that is not called off ends a whole span later, or at the deadline. -/
theorem elapsed_of_pause {subject : WaitSubject} {span deadline : Duration} {s : Surroundings}
    {p : Progress} {events : List Event}
    (h : pause subject span deadline s p = (.ok (), events)) :
    (p.afterAll events).elapsed.nanos =
      p.elapsed.nanos + min span.nanos (deadline.nanos - p.elapsed.nanos) := by
  simp only [pause, bind, Run.bind, now, Clock.moment?] at h
  by_cases hmoment : p.elapsed < Clock.momentLimit
  · rw [← Duration.nanos_minus, ← Duration.nanos_least]
    simp only [hmoment, if_true, Progress.afterAll_nil, List.nil_append] at h
    by_cases hzero : (span.least (deadline.minus p.elapsed)).nanos = 0
    · simp only [hzero, if_true, pure, Run.pure, Prod.mk.injEq, true_and] at h
      simp [← h, hzero]
    · simp only [hzero, if_false] at h
      rw [elapsed_of_sleep (eq_of_unlessCalledOff h)]
      rfl
  · simp [hmoment] at h

/-- Polls until the matter is settled, from the poll with the given number on. -/
def pollFrom {α : Type} (policy : WaitPolicy) (positive : 0 < policy.pollInterval.nanos)
    (subject : WaitSubject) (deadline : Duration) (poll : Nat → Run (PollOutcome α))
    (index : Nat) (polls : UInt32) (s : Surroundings) (p : Progress) :
    Except Stop α × List Event :=
  if p.isCalledOff then fail subject.cancelled s p
  else
    match now s p with
    | (.error stop, events) => (.error stop, events)
    | (.ok _, _) =>
      if _hopen : p.elapsed < deadline then
        match pollOnce subject (poll index) s p with
        | (.error stop, events) => (.error stop, events)
        | (.ok (.done value), events) => (.ok value, events)
        | (.ok (.failed error), events) => (.error (.failed error), events)
        | (.ok .pending, events) =>
          match _hpause : pause subject policy.pollInterval deadline s (p.afterAll events) with
          | (.error stop, more) => (.error stop, events ++ more)
          | (.ok (), more) =>
            match pollFrom policy positive subject deadline poll (index + 1) (polls + 1) s
                (p.afterAll (events ++ more)) with
            | (result, rest) => (result, events ++ more ++ rest)
      else giveUp policy subject polls s p
termination_by deadline.nanos - p.elapsed.nanos
decreasing_by
  have hevents := Progress.elapsed_le_afterAll p events
  have hmore := elapsed_of_pause _hpause
  rw [Progress.afterAll_append]
  simp only [Duration.le_def, Duration.lt_def] at hevents _hopen
  omega

def waitUntil {α : Type} (policy : WaitPolicy) (subject : WaitSubject)
    (poll : Nat → Run (PollOutcome α)) : Run α := do
  let moment ← now
  match h : policy.deadline moment with
  | .error error => fail error
  | .ok deadline =>
    pause subject policy.delay deadline
    pollFrom policy (WaitPolicy.pollInterval_pos_of_deadline h) subject deadline poll 0 0

end Run

end NamespaceLifecycle
