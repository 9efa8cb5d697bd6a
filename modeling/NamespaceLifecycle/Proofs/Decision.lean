import Mathlib.Control.Monad.Basic
import NamespaceLifecycle.Proofs.Exchange
import NamespaceLifecycle.Proofs.Wait

/-!
# What a wait decides

When the polls of a wait start is determined by the policy and by the time that each answer takes.
An answer is pending when it is an object on the way to the target; every other answer decides on
the result. A wait ends with the first answer that decides, or when a poll would start no earlier
than the deadline. Both waits for a namespace are this one, and differ in what they make of an
object that does not exist.
-/

namespace NamespaceLifecycle

/-- What a poll decides, none while the matter is open. -/
def PollOutcome.verdict? {α : Type} : PollOutcome α → Option (Except Error α)
  | pending => none
  | done value => some (.ok value)
  | failed error => some (.error error)

/-- What an answer decides for one who waits for a target phase, by the value of an object that
reached the target and by what becomes of a namespace that does not exist. -/
def Identity.verdict? {α : Type} (identity : Identity) (target : String)
    (reached : RemoteObject → α) (absent : Except Error α) : Answer → Option (Except Error α)
  | .error error =>
    if error.isNotFound then some absent
    else some (.error (.transport .reading identity.project identity.name error))
  | .ok value =>
    match RemoteObject.ofJson value with
    | .error cause =>
      some (.error (.transport .reading identity.project identity.name (.decode cause)))
    | .ok object =>
      if Phase.normalize object.phase = Phase.error then
        some (.error (.backendErrorState identity.project identity.name))
      else if Phase.normalize object.phase = target then some (.ok (reached object))
      else none

def Identity.createdVerdict? (identity : Identity) : Answer → Option (Except Error RemoteObject) :=
  identity.verdict? Phase.created id (.error (.notFound .reading identity.project identity.name))

def Identity.deletedVerdict? (identity : Identity) : Answer → Option (Except Error Unit) :=
  identity.verdict? Phase.deleted (fun _ ↦ ()) (.ok ())

/-! ## The polls of a wait -/

/-- A wait: its policy and subject, its deadline, the request of every poll, and where it starts. -/
structure Wait where
  policy : WaitPolicy
  subject : WaitSubject
  deadline : Duration
  request : Request
  surroundings : Surroundings
  start : Progress

namespace Wait

variable (w : Wait)

def reply (k : Nat) : Reply Answer := w.surroundings.transport (w.start.requests + k) w.request

/-- The end of a pause that starts at a moment. -/
def resumed (span moment : Duration) : Duration :=
  moment.plus (Run.pauseSpan span w.deadline moment)

/-- When the poll with the given number starts, where those before it settle nothing. -/
def pollStart : Nat → Duration
  | 0 => w.resumed w.policy.delay w.start.elapsed
  | k + 1 => w.resumed w.policy.pollInterval ((pollStart k).plus (w.reply k).takes)

def pollEnd (k : Nat) : Duration := (w.pollStart k).plus (w.reply k).takes

/-- The poll with the given number starts in time. -/
def IsPolled (k : Nat) : Prop := w.pollStart k < w.deadline

instance (k : Nat) : Decidable (w.IsPolled k) :=
  inferInstanceAs (Decidable (w.pollStart k < w.deadline))

variable {α : Type} (verdict? : Answer → Option (Except Error α))

/-- The poll with the given number has an answer that is pending. -/
def IsPending (k : Nat) : Prop :=
  ∃ answer, (w.reply k).outcome = .ok answer ∧ verdict? answer = none

/-- The poll with the given number has an answer with this verdict. -/
def IsDecided (k : Nat) (verdict : Except Error α) : Prop :=
  ∃ answer, (w.reply k).outcome = .ok answer ∧ verdict? answer = some verdict

/-- The clock runs over in the poll with the given number or after its pending answer. -/
def Overruns (k : Nat) : Prop :=
  ¬w.pollEnd k < Clock.countLimit ∨ w.IsPending verdict? k ∧ ¬w.pollEnd k < Clock.momentLimit

/-- A wait decides by the first answer that is not pending. -/
structure DecidesByFirst (result : Except Stop α) (events : List Event) : Prop where
  /-- The first answer that decides gives the result, and nothing is sent after it. -/
  decided : ∀ k verdict, w.IsPolled k → (∀ j < k, w.IsPending verdict? j) →
    w.IsDecided verdict? k verdict → w.pollEnd k < Clock.countLimit →
    result = verdict.mapError .failed ∧ requestsIn events = List.replicate (k + 1) w.request
  /-- When every poll that starts in time is pending, the time is over. -/
  expired : (∀ k, w.IsPolled k → w.IsPending verdict? k ∧ w.pollEnd k < Clock.momentLimit) →
    ∃ count, (∀ k, w.IsPolled k ↔ k < count) ∧
      result = .error (.failed (w.subject.timeout w.policy.timeout (UInt32.ofNat count))) ∧
      requestsIn events = List.replicate count w.request
  /-- There is no other end in the range of the clock. -/
  only : Run.InRange result → ∃ k, (∀ j < k, w.IsPolled j ∧ w.IsPending verdict? j) ∧
    ((∃ verdict, w.IsPolled k ∧ w.IsDecided verdict? k verdict ∧
        result = verdict.mapError .failed) ∨
      ¬w.IsPolled k ∧
        result = .error (.failed (w.subject.timeout w.policy.timeout (UInt32.ofNat k))))
  /-- Out of its range is only the time of a poll that is made after pending ones. -/
  overruns : ¬Run.InRange result → ∃ k, (∀ j < k, w.IsPolled j ∧ w.IsPending verdict? j) ∧
    w.IsPolled k ∧ w.Overruns verdict? k

/-! ## Moments -/

variable {w verdict?}

theorem nanos_resumed (span moment : Duration) :
    (w.resumed span moment).nanos =
      moment.nanos + min span.nanos (w.deadline.nanos - moment.nanos) := by
  rw [resumed, Run.pauseSpan, Duration.nanos_plus, Duration.nanos_least, Duration.nanos_minus]

theorem nanos_pollStart_zero :
    (w.pollStart 0).nanos = w.start.elapsed.nanos +
      min w.policy.delay.nanos (w.deadline.nanos - w.start.elapsed.nanos) :=
  nanos_resumed _ _

theorem nanos_pollStart_succ (k : Nat) :
    (w.pollStart (k + 1)).nanos = (w.pollEnd k).nanos +
      min w.policy.pollInterval.nanos (w.deadline.nanos - (w.pollEnd k).nanos) :=
  nanos_resumed _ _

theorem pollEnd_le_pollStart_succ (k : Nat) : w.pollEnd k ≤ w.pollStart (k + 1) := by
  rw [Duration.le_def, nanos_pollStart_succ]
  exact Nat.le_add_right _ _

theorem pollStart_le_pollStart {j k : Nat} (h : j ≤ k) : w.pollStart j ≤ w.pollStart k := by
  induction h with
  | refl => exact Nat.le_refl _
  | @step k _ ih =>
    have hend : w.pollStart k ≤ w.pollEnd k := by
      rw [pollEnd, Duration.le_def, Duration.nanos_plus]
      exact Nat.le_add_right _ _
    exact Nat.le_trans ih (Nat.le_trans hend (pollEnd_le_pollStart_succ k))

/-- What comes before a poll that starts in time ends in time. -/
theorem pollEnd_lt_of_isPolled {j k : Nat} (h : j < k) (hk : w.IsPolled k) :
    w.pollEnd j < w.deadline :=
  Nat.lt_of_le_of_lt (Nat.le_trans (pollEnd_le_pollStart_succ j) (pollStart_le_pollStart h)) hk

theorem IsPolled.of_le {j k : Nat} (h : j ≤ k) (hk : w.IsPolled k) : w.IsPolled j :=
  Nat.lt_of_le_of_lt (pollStart_le_pollStart h) hk

theorem IsPending.not_isDecided {k : Nat} (h : w.IsPending verdict? k) (verdict : Except Error α) :
    ¬w.IsDecided verdict? k verdict := by
  rintro ⟨answer, hanswer, hverdict⟩
  obtain ⟨other, hother, hnone⟩ := h
  rw [hanswer, Except.ok.injEq] at hother
  rw [hother, hnone] at hverdict
  cases hverdict

theorem IsDecided.unique {k : Nat} {verdict other : Except Error α}
    (h : w.IsDecided verdict? k verdict) (hother : w.IsDecided verdict? k other) :
    verdict = other := by
  obtain ⟨answer, hanswer, hverdict⟩ := h
  obtain ⟨answer', hanswer', hverdict'⟩ := hother
  rw [hanswer, Except.ok.injEq] at hanswer'
  rw [hanswer', hverdict', Option.some.injEq] at hverdict
  exact hverdict.symm

/-! ## From the end to the decision -/

/-- How a wait ends after so many pending polls, and what it has sent. -/
inductive EndsAfter (w : Wait) (verdict? : Answer → Option (Except Error α)) (k : Nat) :
    Except Stop α → List Request → Prop
  | decided {verdict : Except Error α} (hpolled : w.IsPolled k)
      (hdecided : w.IsDecided verdict? k verdict) (hcount : w.pollEnd k < Clock.countLimit) :
      EndsAfter w verdict? k (verdict.mapError .failed) (List.replicate (k + 1) w.request)
  | expired (hlate : ¬w.IsPolled k) :
      EndsAfter w verdict? k
        (.error (.failed (w.subject.timeout w.policy.timeout (UInt32.ofNat k))))
        (List.replicate k w.request)
  | overrun (hpolled : w.IsPolled k) (hoverrun : w.Overruns verdict? k) :
      EndsAfter w verdict? k (.error .clockOverrun) (List.replicate (k + 1) w.request)

/-- A clock that runs over at a poll lets no later poll start in time. -/
theorem Overruns.le_of_isPolled (hdeadline : w.deadline < Clock.momentLimit) {j k : Nat}
    (hoverrun : w.Overruns verdict? k) (hpolled : w.IsPolled j) : j ≤ k := by
  refine Nat.le_of_not_lt fun hlt ↦ ?_
  have hend := pollEnd_lt_of_isPolled hlt hpolled
  have hlimit : Clock.momentLimit.nanos ≤ Clock.countLimit.nanos := by decide
  rcases hoverrun with hcount | ⟨-, hmoment⟩
  · rw [Duration.lt_def] at hend hdeadline hcount
    omega
  · exact hmoment (Nat.lt_trans hend hdeadline)

theorem DecidesByFirst.of_endsAfter (hdeadline : w.deadline < Clock.momentLimit) {k : Nat}
    {result : Except Stop α} {events : List Event}
    (hfront : ∀ j < k, w.IsPolled j ∧ w.IsPending verdict? j)
    (hend : EndsAfter w verdict? k result (requestsIn events)) :
    w.DecidesByFirst verdict? result events where
  decided := by
    intro j verdict hpolled hpending hdecided hcount
    have hle : k ≤ j :=
      Nat.le_of_not_lt fun hlt ↦ (hfront j hlt).2.not_isDecided verdict hdecided
    generalize requestsIn events = requests at hend
    cases hend with
    | decided hpolled' hdecided' =>
      have hge : j ≤ k := Nat.le_of_not_lt fun hlt ↦ (hpending k hlt).not_isDecided _ hdecided'
      have heq : k = j := Nat.le_antisymm hle hge
      subst heq
      exact ⟨by rw [hdecided'.unique hdecided], rfl⟩
    | expired hlate => exact absurd (hpolled.of_le hle) hlate
    | overrun hpolled' hoverrun =>
      have heq : k = j := Nat.le_antisymm hle (hoverrun.le_of_isPolled hdeadline hpolled)
      subst heq
      rcases hoverrun with hcount' | ⟨hpending', -⟩
      · exact absurd hcount hcount'
      · exact absurd hdecided (hpending'.not_isDecided verdict)
  expired := by
    intro hall
    generalize requestsIn events = requests at hend
    cases hend with
    | decided hpolled hdecided => exact absurd hdecided ((hall k hpolled).1.not_isDecided _)
    | expired hlate =>
      refine ⟨k, fun j ↦ ⟨fun hpolled ↦ ?_, fun hlt ↦ (hfront j hlt).1⟩, rfl, rfl⟩
      exact Nat.lt_of_not_le fun hle ↦ hlate (hpolled.of_le hle)
    | overrun hpolled hoverrun =>
      obtain ⟨-, hmoment⟩ := hall k hpolled
      have hlimit : Clock.momentLimit.nanos ≤ Clock.countLimit.nanos := by decide
      rcases hoverrun with hcount | ⟨-, hmoment'⟩
      · exact absurd (Nat.lt_of_lt_of_le hmoment hlimit) hcount
      · exact absurd hmoment hmoment'
  only hrange := by
    refine ⟨k, hfront, ?_⟩
    generalize requestsIn events = requests at hend
    cases hend with
    | decided hpolled hdecided => exact .inl ⟨_, hpolled, hdecided, rfl⟩
    | expired hlate => exact .inr ⟨hlate, rfl⟩
    | overrun => exact absurd rfl hrange
  overruns hrange := by
    refine ⟨k, hfront, ?_⟩
    generalize requestsIn events = requests at hend
    cases hend with
    | @decided verdict => cases verdict <;> exact absurd nofun hrange
    | expired => exact absurd nofun hrange
    | overrun hpolled hoverrun => exact ⟨hpolled, hoverrun⟩

/-! ## From the run to the end -/

section Run

open Run

variable {x : Run (PollOutcome α)} {outcome : Answer → PollOutcome α}
  {s : Surroundings} {p : Progress}

/-- A poll that yields an outcome has an answer with this outcome, and ends when it comes. -/
theorem look_of_ok (hx : IsExchange w.request (fun answer ↦ .ok (outcome answer)) x) {k : Nat}
    {q : Progress} (helapsed : q.elapsed = w.pollStart k)
    (hrequests : q.requests = w.start.requests + k) {error : Error} {found : PollOutcome α}
    {looking : List Event}
    (hlook : unlessCalledOff error x w.surroundings q = (.ok found, looking)) :
    w.pollEnd k < Clock.countLimit ∧
      (∃ answer, (w.reply k).outcome = .ok answer ∧ outcome answer = found) ∧
      (q.afterAll looking).elapsed = w.pollEnd k ∧ requestsIn looking = [w.request] := by
  have hrun := eq_of_unlessCalledOff hlook
  obtain ⟨hcount, ⟨answer, hanswer, hjudge⟩, hprogress⟩ := hx.of_ok hrun
  rw [helapsed, hrequests] at hcount
  rw [hrequests] at hanswer
  refine ⟨hcount, ⟨answer, hanswer, Except.ok.inj hjudge⟩, ?_, hx.requestsIn_eq hrun⟩
  rw [hprogress, Reply.afterAll_events, hrequests]
  change q.elapsed.plus (w.reply k).takes = (w.pollStart k).plus (w.reply k).takes
  rw [helapsed]

/-- The polls that settle nothing are pending polls in time, and the next one starts when it
should. -/
theorem pendingPolls_pollStart (hdeadline : w.deadline < Clock.momentLimit)
    (hx : IsExchange w.request (fun answer ↦ .ok (outcome answer)) x) {index count : Nat}
    {q : Progress} {front : List Event}
    (hpolls : PendingPolls w.policy w.subject w.deadline (fun _ ↦ x) w.surroundings index q count
      front)
    (helapsed : q.elapsed = w.pollStart index)
    (hrequests : q.requests = w.start.requests + index)
    (hmoment : w.pollStart index < Clock.momentLimit) :
    (∀ j, index ≤ j → j < index + count →
        w.IsPolled j ∧ w.IsPending (fun answer ↦ (outcome answer).verdict?) j) ∧
      (q.afterAll front).elapsed = w.pollStart (index + count) ∧
      w.pollStart (index + count) < Clock.momentLimit ∧
      requestsIn front = List.replicate count w.request := by
  induction hpolls with
  | none index q =>
    refine ⟨fun j hle hlt ↦ absurd hlt (Nat.not_lt_of_le hle), helapsed, hmoment, rfl⟩
  | @more index count q looking pausing rest hopen hearly hlook hpause hrest ih =>
    obtain ⟨hcount, ⟨answer, hanswer, houtcome⟩, hended, hlooked⟩ :=
      look_of_ok hx helapsed hrequests hlook
    obtain ⟨hpaused, -⟩ := hpause.afterAll_of_ok
    have hnext : ((q.afterAll looking).afterAll pausing).elapsed = w.pollStart (index + 1) := by
      rw [hpaused, hended]
      rfl
    have hsent : ((q.afterAll looking).afterAll pausing).requests =
        w.start.requests + (index + 1) := by
      rw [Progress.requests_afterAll, Progress.requests_afterAll, hrequests, hlooked,
        hpause.requestsIn_eq_nil]
      rfl
    have hlimit : w.pollStart (index + 1) < Clock.momentLimit := by
      have hended' := hpause.lt_of_ok
      rw [hended, Duration.lt_def] at hended'
      rw [Duration.lt_def, nanos_pollStart_succ]
      rw [Duration.lt_def] at hdeadline
      omega
    obtain ⟨hpending, hlast, hlastMoment, hrestSent⟩ := ih hnext hsent hlimit
    have hindex : index + (count + 1) = index + 1 + count := by omega
    rw [hindex]
    refine ⟨fun j hle hlt ↦ ?_, ?_, hlastMoment, ?_⟩
    · rcases Nat.eq_or_lt_of_le hle with rfl | hlt'
      · refine ⟨?_, answer, hanswer, congrArg PollOutcome.verdict? houtcome⟩
        rw [IsPolled, ← helapsed]
        exact hearly
      · exact hpending j hlt' hlt
    · rw [Progress.afterAll_append, List.cons_append, Progress.afterAll_cons,
        Progress.afterAll_append]
      exact hlast
    · rw [requestsIn_append, List.cons_append, requestsIn_cons, requestsIn_append, hlooked,
        hpause.requestsIn_eq_nil, hrestSent, List.replicate_succ]
      rfl

/-- A poll that stops without being called off has run over the clock. -/
theorem look_of_error (hx : IsExchange w.request (fun answer ↦ .ok (outcome answer)) x) {k : Nat}
    {q : Progress} (helapsed : q.elapsed = w.pollStart k)
    (hrequests : q.requests = w.start.requests + k) (hopen : q.isCalledOff = false) {error : Error}
    {stop : Stop} {looking : List Event}
    (hlook : unlessCalledOff error x w.surroundings q = (.error stop, looking))
    (hcalm : (q.afterAll looking).isCalledOff = false) :
    ¬w.pollEnd k < Clock.countLimit ∧ stop = .clockOverrun ∧ looking = [.sent w.request] := by
  have hrun : ∃ early, x w.surroundings q = (.error early, looking) ∧
      (early ≠ .abandoned → stop = early) := by
    rcases unlessCalledOff_cases hlook with ⟨hoff, -⟩ | ⟨-, hx', -⟩ | ⟨-, hx', -⟩
    · rw [hopen] at hoff
      cases hoff
    · exact ⟨_, hx', fun hne ↦ absurd rfl hne⟩
    · exact ⟨_, hx', fun _ ↦ rfl⟩
  obtain ⟨early, hrun, hstop⟩ := hrun
  rcases hx.of_error hrun with ⟨hcount, rfl, hevents⟩ | ⟨-, hoff⟩ | ⟨_, _, -, hjudge, -⟩
  · rw [helapsed, hrequests] at hcount
    exact ⟨hcount, hstop (by simp), hevents⟩
  · rw [hcalm] at hoff
    cases hoff
  · cases hjudge

/-- Polls that are never called off end in time, late, or with the clock. -/
theorem endsAfter_of_pollsEnd (hdeadline : w.deadline < Clock.momentLimit)
    (hx : IsExchange w.request (fun answer ↦ .ok (outcome answer)) x) {k : Nat} {q : Progress}
    {result : Except Stop α} {events : List Event}
    (hpolls : PollsEnd w.policy w.subject w.deadline (fun _ ↦ x) w.surroundings k q
      (UInt32.ofNat k) result events)
    (helapsed : q.elapsed = w.pollStart k) (hrequests : q.requests = w.start.requests + k)
    (hmoment : w.pollStart k < Clock.momentLimit)
    (hcalm : (q.afterAll events).isCalledOff = false) :
    EndsAfter w (fun answer ↦ (outcome answer).verdict?) k result
      (List.replicate k w.request ++ requestsIn events) := by
  have hpolled : q.elapsed < w.deadline → w.IsPolled k := by
    intro hearly
    rw [IsPolled, ← helapsed]
    exact hearly
  have hone {looking : List Event} (hlooked : requestsIn looking = [w.request]) :
      List.replicate k w.request ++ requestsIn (.polled :: looking) =
        List.replicate (k + 1) w.request := by
    rw [requestsIn_cons, hlooked, List.replicate_succ']
    rfl
  cases hpolls with
  | calledOff hoff =>
    rw [Progress.afterAll_nil, hoff] at hcalm
    cases hcalm
  | unnamed hlate =>
    rw [helapsed] at hlate
    exact absurd hmoment hlate
  | @expired line _ hlate =>
    have hnone : requestsIn [.logged line] = [] := rfl
    rw [hnone, List.append_nil]
    apply EndsAfter.expired
    rw [IsPolled, ← helapsed]
    exact hlate
  | stopped hopen hearly hlook =>
    obtain ⟨hcount, rfl, rfl⟩ := look_of_error hx helapsed hrequests hopen hlook hcalm
    rw [hone rfl]
    exact .overrun (hpolled hearly) (.inl hcount)
  | @done value looking hopen hearly hlook =>
    obtain ⟨hcount, ⟨answer, hanswer, houtcome⟩, -, hlooked⟩ :=
      look_of_ok hx helapsed hrequests hlook
    have hdecided : w.IsDecided (fun answer ↦ (outcome answer).verdict?) k (.ok value) :=
      ⟨answer, hanswer, congrArg PollOutcome.verdict? houtcome⟩
    rw [hone hlooked]
    exact .decided (hpolled hearly) hdecided hcount
  | @failed error looking hopen hearly hlook =>
    obtain ⟨hcount, ⟨answer, hanswer, houtcome⟩, -, hlooked⟩ :=
      look_of_ok hx helapsed hrequests hlook
    have hdecided : w.IsDecided (fun answer ↦ (outcome answer).verdict?) k (.error error) :=
      ⟨answer, hanswer, congrArg PollOutcome.verdict? houtcome⟩
    rw [hone hlooked]
    exact .decided (hpolled hearly) hdecided hcount
  | @interrupted stop looking pausing hopen hearly hlook hpause =>
    obtain ⟨-, ⟨answer, hanswer, houtcome⟩, hended, hlooked⟩ :=
      look_of_ok hx helapsed hrequests hlook
    rw [List.cons_append, Progress.afterAll_cons, Progress.afterAll_append] at hcalm
    obtain ⟨hlate, rfl, rfl⟩ := hpause.unnamed_of_error hdeadline hcalm
    rw [hended] at hlate
    rw [List.append_nil, hone hlooked]
    exact .overrun (hpolled hearly)
      (.inr ⟨⟨answer, hanswer, congrArg PollOutcome.verdict? houtcome⟩, hlate⟩)

/-- A wait that is accepted and never called off decides by the first answer that does. -/
theorem decidesByFirst_of_waitRun
    (hdeadline : w.policy.deadline w.start.elapsed = .ok w.deadline)
    (hx : IsExchange w.request (fun answer ↦ .ok (outcome answer)) x) {result : Except Stop α}
    {events : List Event}
    (hrun : WaitRun w.policy w.subject (fun _ ↦ x) w.surroundings w.start result events)
    (hcalm : (w.start.afterAll events).isCalledOff = false) :
    w.DecidesByFirst (fun answer ↦ (outcome answer).verdict?) result events := by
  obtain ⟨hnow, hlimit⟩ := WaitPolicy.lt_of_deadline_eq_ok hdeadline
  have hstart : w.pollStart 0 < Clock.momentLimit := by
    rw [Duration.lt_def, nanos_pollStart_zero]
    rw [Duration.lt_def] at hlimit hnow
    omega
  cases hrun with
  | unnamed hmoment => exact absurd hnow hmoment
  | refused _ hrefused =>
    rw [hdeadline] at hrefused
    cases hrefused
  | delayed hdeadline' hpause =>
    rw [hdeadline, Except.ok.injEq] at hdeadline'
    subst hdeadline'
    exact absurd hnow (hpause.unnamed_of_error hlimit hcalm).1
  | @polled _ pausing rest result hdeadline' hpause hpolls =>
    rw [hdeadline, Except.ok.injEq] at hdeadline'
    subst hdeadline'
    obtain ⟨k, front, last, hfront, hlast, rfl⟩ := hpolls
    have hpaused : (w.start.afterAll pausing).elapsed = w.pollStart 0 := hpause.afterAll_of_ok.1
    have hsent : (w.start.afterAll pausing).requests = w.start.requests := by
      rw [Progress.requests_afterAll, hpause.requestsIn_eq_nil]
      rfl
    obtain ⟨hpending, helapsed, hmoment, hfrontSent⟩ :=
      pendingPolls_pollStart hlimit hx hfront hpaused hsent hstart
    rw [Nat.zero_add] at hpending helapsed hmoment hlast
    rw [UInt32.zero_add] at hlast
    rw [Progress.afterAll_append, Progress.afterAll_append] at hcalm
    have hrequests : ((w.start.afterAll pausing).afterAll front).requests =
        w.start.requests + k := by
      rw [Progress.requests_afterAll, hsent, hfrontSent, List.length_replicate]
    have hend := endsAfter_of_pollsEnd hlimit hx hlast helapsed hrequests hmoment hcalm
    apply DecidesByFirst.of_endsAfter hlimit fun j hlt ↦ hpending j (Nat.zero_le j) hlt
    rw [requestsIn_append, requestsIn_append, hpause.requestsIn_eq_nil, hfrontSent, List.nil_append]
    exact hend

end Run

end Wait

/-! ## The two waits -/

namespace Endpoint

theorem normalize_created : Phase.normalize Phase.created = Phase.created := by decide +kernel

theorem normalize_deleted : Phase.normalize Phase.deleted = Phase.deleted := by decide +kernel

theorem judged_verdict? {α : Type} (identity : Identity) {target : String}
    (htarget : Phase.normalize target = target) (object : RemoteObject) (value : α) :
    (judged identity target object value).verdict? =
      if Phase.normalize object.phase = Phase.error then
        some (.error (.backendErrorState identity.project identity.name))
      else if Phase.normalize object.phase = target then some (.ok value)
      else none := by
  unfold judged Phase.classify
  rw [htarget]
  by_cases herror : Phase.normalize object.phase = Phase.error
  · simp only [if_pos herror]
    rfl
  · by_cases hreached : Phase.normalize object.phase = target
    · simp only [if_neg herror, if_pos hreached]
      rfl
    · simp only [if_neg herror, if_neg hreached]
      rfl

theorem createdOutcome_verdict? (identity : Identity) (answer : Answer) :
    (createdOutcome identity (found identity answer)).verdict? =
      identity.createdVerdict? answer := by
  unfold Identity.createdVerdict? Identity.verdict?
  cases answer with
  | error error =>
    simp only [found, objectOf, mapError_error, createdOutcome, Error.ofTransport]
    split <;> rfl
  | ok value =>
    cases hobject : RemoteObject.ofJson value with
    | error cause => simp only [found, objectOf, hobject]; rfl
    | ok object =>
      simp only [found, objectOf, hobject]
      exact judged_verdict? identity normalize_created object object

theorem deletedOutcome_verdict? (identity : Identity) (answer : Answer) :
    (deletedOutcome identity (found identity answer)).verdict? =
      identity.deletedVerdict? answer := by
  unfold Identity.deletedVerdict? Identity.verdict?
  cases answer with
  | error error =>
    simp only [found, objectOf, mapError_error, deletedOutcome, Error.ofTransport]
    by_cases hnone : error.isNotFound = true
    · simp only [if_pos hnone]
      rfl
    · simp only [if_neg hnone]
      rfl
  | ok value =>
    cases hobject : RemoteObject.ofJson value with
    | error cause => simp only [found, objectOf, hobject]; rfl
    | ok object =>
      simp only [found, objectOf, hobject]
      exact judged_verdict? identity normalize_deleted object ()

/-- The waits for a namespace decide by the first answer that is not pending. -/
theorem await_decides_by_first {e : Endpoint} {policy : WaitPolicy} {identity : Identity}
    {url : Url} {deadline : Duration} {s : Surroundings} {p : Progress}
    (hurl : e.url identity.project (some identity.name) = .ok url)
    (hdeadline : policy.deadline p.elapsed = .ok deadline) :
    (∀ result events, e.awaitCreated policy identity s p = (result, events) →
      (p.afterAll events).isCalledOff = false →
        (Wait.mk policy ⟨identity, "created"⟩ deadline ⟨.get, url, none⟩ s p).DecidesByFirst
          identity.createdVerdict? result events) ∧
    (∀ result events, e.awaitDeleted policy identity s p = (result, events) →
      (p.afterAll events).isCalledOff = false →
        (Wait.mk policy ⟨identity, "deleted"⟩ deadline ⟨.get, url, none⟩ s p).DecidesByFirst
          identity.deletedVerdict? result events) := by
  constructor
  · intro result events hrun hcalm
    have hverdict : identity.createdVerdict? =
        fun answer ↦ (createdOutcome identity (found identity answer)).verdict? := by
      funext answer
      rw [createdOutcome_verdict?]
    rw [hverdict]
    exact Wait.decidesByFirst_of_waitRun hdeadline (pollCreated_isExchange hurl)
      (Run.waitUntil_run hrun) hcalm
  · intro result events hrun hcalm
    have hverdict : identity.deletedVerdict? =
        fun answer ↦ (deletedOutcome identity (found identity answer)).verdict? := by
      funext answer
      rw [deletedOutcome_verdict?]
    rw [hverdict]
    exact Wait.decidesByFirst_of_waitRun hdeadline (pollDeleted_isExchange hurl)
      (Run.waitUntil_run hrun) hcalm

/-- A namespace that does not exist is not made, but it is removed: the first answer says so. -/
theorem await_decides_by_first_of_absent :
    let e : Endpoint := ⟨"https://vcfa.example.com", .ascii⟩
    let request : Request :=
      ⟨.get, ⟨"https", some ⟨"", none, some (.name "vcfa.example.com"), none⟩,
        .rooted ["cci", "kubernetes", "apis", "infrastructure.cci.vmware.com", "v1alpha1",
          "namespaces", "p", "supervisornamespaces", "n"], none, none⟩, none⟩
    let s : Surroundings := .always (.error (.notFound .get ""))
    (∃ events, e.awaitCreated .usual ⟨"p", "n"⟩ s .start =
        (.error (.failed (.notFound .reading "p" "n")), events) ∧ requestsIn events = [request]) ∧
      ∃ events, e.awaitDeleted .usual ⟨"p", "n"⟩ s .start = (.ok (), events) ∧
        requestsIn events = [request] := by
  intro e request s
  have hurl : e.url "p" (some "n") = .ok request.url := by decide +kernel
  have hdeadline : WaitPolicy.usual.deadline Progress.start.elapsed = .ok (.ofSeconds 1200) := by
    decide +kernel
  have hcalm : (Progress.start.afterAll
      (e.awaitCreated .usual ⟨"p", "n"⟩ s .start).2).isCalledOff = false := by decide +kernel
  have hcalm' : (Progress.start.afterAll
      (e.awaitDeleted .usual ⟨"p", "n"⟩ s .start).2).isCalledOff = false := by decide +kernel
  rcases hrun : e.awaitCreated .usual ⟨"p", "n"⟩ s .start with ⟨result, events⟩
  rcases hrun' : e.awaitDeleted .usual ⟨"p", "n"⟩ s .start with ⟨result', events'⟩
  rw [hrun] at hcalm
  rw [hrun'] at hcalm'
  obtain ⟨hcreated, hdeleted⟩ :=
    @await_decides_by_first e .usual ⟨"p", "n"⟩ _ _ s .start hurl hdeadline
  obtain ⟨rfl, hsent⟩ := (hcreated _ _ hrun hcalm).decided 0 (.error (.notFound .reading "p" "n"))
    (by decide +kernel) (fun j hj ↦ absurd hj j.not_lt_zero) ⟨_, rfl, rfl⟩ (by decide +kernel)
  obtain ⟨rfl, hsent'⟩ := (hdeleted _ _ hrun' hcalm').decided 0 (.ok ())
    (by decide +kernel) (fun j hj ↦ absurd hj j.not_lt_zero) ⟨_, rfl, rfl⟩ (by decide +kernel)
  exact ⟨⟨events, rfl, hsent⟩, events', rfl, hsent'⟩

end Endpoint

end NamespaceLifecycle
