import NamespaceLifecycle.Proofs.Decision

/-!
# The poll that settles a wait

Where a run stands at each of its polls follows from the policy and from what the world does: what
each request takes, and whether the operation is called off in a request or in a sleep. So it can be
said without the run when a wait yields a value: its deadline is accepted, and a poll that starts
before the deadline and before the call to stop is the first whose answer settles the matter. No
assumption is made on the call to stop, which may come at any place.
-/

namespace NamespaceLifecycle

/-! ## What the world does to a run -/

namespace Progress

/-- Where a run stands when a request that starts now has its reply. -/
def replied (p : Progress) (s : Surroundings) (request : Request) : Progress :=
  (p.after (.sent request)).afterAll (s.transport p.requests request).events

/-- Where a run stands after a sleep, in which it may have been called off. Without time to sleep
there is no sleep. -/
def rested (p : Progress) (s : Surroundings) (span : Duration) : Progress :=
  if span.nanos = 0 then p
  else { p.after (.slept span) with isCalledOff := p.isCalledOff || s.callsOffSleep p.sleeps }

variable {p : Progress} {s : Surroundings} {request : Request} {span : Duration}

theorem elapsed_replied :
    (p.replied s request).elapsed =
      p.elapsed.plus (s.transport p.requests request).takes := by
  rw [replied, Reply.afterAll_events]
  rfl

theorem requests_replied : (p.replied s request).requests = p.requests + 1 := by
  rw [replied, Reply.afterAll_events]
  rfl

/-- A run that is not called off when a request has its reply was not called off before. -/
theorem open_of_replied (h : (p.replied s request).isCalledOff = false) :
    p.isCalledOff = false := by
  rw [replied, Reply.afterAll_events] at h
  exact (Bool.or_eq_false_iff.1 h).1

theorem elapsed_rested : (p.rested s span).elapsed = p.elapsed.plus span := by
  unfold rested
  by_cases hzero : span.nanos = 0
  · rw [if_pos hzero, Duration.plus, hzero, Nat.add_zero]
  · rw [if_neg hzero]
    rfl

theorem requests_rested : (p.rested s span).requests = p.requests := by
  unfold rested
  split <;> rfl

theorem open_of_rested (h : (p.rested s span).isCalledOff = false) : p.isCalledOff = false := by
  unfold rested at h
  split at h
  · exact h
  · exact (Bool.or_eq_false_iff.1 h).1

end Progress

/-- A request that starts now is answered, and the clock can count the time until then. -/
structure Surroundings.Answers (s : Surroundings) (p : Progress) (request : Request)
    (answer : Answer) : Prop where
  outcome : (s.transport p.requests request).outcome = .ok answer
  counted : (p.replied s request).elapsed < Clock.countLimit

theorem Surroundings.Answers.unique {s : Surroundings} {p : Progress} {request : Request}
    {answer other : Answer} (h : s.Answers p request answer) (hother : s.Answers p request other) :
    answer = other :=
  Except.ok.inj (h.outcome.symm.trans hother.outcome)

namespace Run

variable {α : Type} {s : Surroundings} {p : Progress} {request : Request}
  {judge : Answer → Except Error α} {x : Run α} {error : Error} {a : α} {events : List Event}

/-- An exchange that starts before the call to stop and is answered ends as its answer is judged. -/
theorem IsExchange.unlessCalledOff_of_answers (hx : IsExchange request judge x)
    (hopen : p.isCalledOff = false) {answer : Answer} (hanswer : s.Answers p request answer)
    (error : Error) :
    ∃ events, unlessCalledOff error x s p = ((judge answer).mapError .failed, events) ∧
      requestsIn events = [request] := by
  obtain ⟨houtcome, hcount⟩ := hanswer
  rw [Progress.elapsed_replied] at hcount
  obtain ⟨lines, hrun⟩ := hx s p
  rw [if_pos hcount, houtcome] at hrun
  have hjudged : (x s p).1 ≠ .error .abandoned := by
    rw [hrun]
    simp only [Except.bind]
    cases judge answer <;> simp
  have hlook := unlessCalledOff_of_ne hopen error hjudged
  exact ⟨_, hlook.trans hrun, hx.requestsIn_eq hrun⟩

/-- There is no other way to a value, and the value leaves the run where its reply does. -/
theorem IsExchange.answers_of_unlessCalledOff (hx : IsExchange request judge x)
    (h : unlessCalledOff error x s p = (.ok a, events)) :
    p.isCalledOff = false ∧ (∃ answer, s.Answers p request answer ∧ judge answer = .ok a) ∧
      p.afterAll events = p.replied s request := by
  obtain ⟨hopen, -⟩ := hx.of_ok_unlessCalledOff h
  obtain ⟨hcount, ⟨answer, hanswer, hjudge⟩, hprogress⟩ := hx.of_ok (eq_of_unlessCalledOff h)
  rw [← Progress.elapsed_replied] at hcount
  exact ⟨hopen, ⟨answer, ⟨hanswer, hcount⟩, hjudge⟩, hprogress⟩

variable {subject : WaitSubject} {span deadline : Duration}

/-- A sleep passes when the clock can count it and it is not called off. -/
theorem sleep_eq_ok_iff :
    sleep span s p = (.ok (), events) ↔
      p.elapsed.plus span < Clock.countLimit ∧ s.callsOffSleep p.sleeps = false ∧
        events = [.slept span] := by
  unfold sleep Clock.advance?
  by_cases hcount : p.elapsed.plus span < Clock.countLimit
  · cases hoff : s.callsOffSleep p.sleeps <;> simp [hcount, eq_comm]
  · simp [hcount]

/-- A pause that passes leaves the run where its sleep does. -/
theorem afterAll_of_pause (h : pause subject span deadline s p = (.ok (), events)) :
    p.afterAll events = p.rested s (pauseSpan span deadline p.elapsed) := by
  rw [pause_eq (pause_run h).lt_of_ok] at h
  unfold Progress.rested
  by_cases hzero : (pauseSpan span deadline p.elapsed).nanos = 0
  · rw [if_pos hzero, Prod.mk.injEq] at h
    rw [if_pos hzero, ← h.2]
    rfl
  · rw [if_neg hzero] at h
    obtain ⟨-, hcalm, rfl⟩ := sleep_eq_ok_iff.1 (eq_of_unlessCalledOff h)
    rw [if_neg hzero, hcalm, Bool.or_false]
    rfl

/-- A pause before a deadline that the clock can name passes unless it is called off. -/
theorem exists_pause_of_open (hdeadline : deadline < Clock.momentLimit)
    (hmoment : p.elapsed < Clock.momentLimit)
    (hopen : (p.rested s (pauseSpan span deadline p.elapsed)).isCalledOff = false) :
    ∃ events, pause subject span deadline s p = (.ok (), events) := by
  rw [pause_eq hmoment]
  unfold Progress.rested at hopen
  by_cases hzero : (pauseSpan span deadline p.elapsed).nanos = 0
  · rw [if_pos hzero]
    exact ⟨[], rfl⟩
  · rw [if_neg hzero]
    rw [if_neg hzero, Bool.or_eq_false_iff] at hopen
    have hcount := plus_pauseSpan_lt span hdeadline hmoment
    exact ⟨_, unlessCalledOff_of_ok hopen.1 _ (sleep_eq_ok_iff.2 ⟨hcount, hopen.2, rfl⟩)⟩

variable {policy : WaitPolicy} {poll : Nat → Run (PollOutcome α)}
  {positive : 0 < policy.pollInterval.nanos} {index : Nat} {polls : UInt32}

/-- A poll that starts in time and finds a value ends the polling with it. -/
theorem pollFrom_of_done (hopen : p.isCalledOff = false) (hmoment : p.elapsed < Clock.momentLimit)
    (hearly : p.elapsed < deadline) {looking : List Event}
    (hlook : unlessCalledOff subject.cancelled (poll index) s p = (.ok (.done a), looking)) :
    (pollFrom policy positive subject deadline poll index polls s p).1 = .ok a := by
  rw [pollFrom, if_neg (by simp [hopen]), now_of_lt hmoment]
  simp only [dif_pos hearly, pollOnce_of_look hlook]

/-- A poll that settles nothing and a pause that passes lead to the next poll. -/
theorem pollFrom_of_pending (hopen : p.isCalledOff = false)
    (hmoment : p.elapsed < Clock.momentLimit) (hearly : p.elapsed < deadline)
    {looking pausing : List Event}
    (hlook : unlessCalledOff subject.cancelled (poll index) s p = (.ok .pending, looking))
    (hpause : pause subject policy.pollInterval deadline s (p.afterAll looking) =
      (.ok (), pausing)) :
    (pollFrom policy positive subject deadline poll index polls s p).1 =
      (pollFrom policy positive subject deadline poll (index + 1) (polls + 1) s
        ((p.afterAll looking).afterAll pausing)).1 := by
  have hpolled : pause subject policy.pollInterval deadline s
      (p.afterAll (.polled :: looking)) = (.ok (), pausing) := hpause
  rw [pollFrom.eq_def policy positive subject deadline poll index, if_neg (by simp [hopen]),
    now_of_lt hmoment]
  simp only [dif_pos hearly, pollOnce_of_look hlook]
  split
  · rename_i hstop
    cases hpolled.symm.trans hstop
  · rename_i hpassed
    cases hpolled.symm.trans hpassed
    rw [Progress.afterAll_append]
    rfl

end Run

/-! ## The look that settles a wait -/

namespace Wait

/-- Where the wait stands when the poll with the given number could start. -/
def standing (w : Wait) : Nat → Progress
  | 0 => w.start.rested w.surroundings (Run.pauseSpan w.policy.delay w.deadline w.start.elapsed)
  | k + 1 =>
    let looked := (standing w k).replied w.surroundings w.request
    looked.rested w.surroundings
      (Run.pauseSpan w.policy.pollInterval w.deadline looked.elapsed)

def Sees (w : Wait) (kind : Answer → Prop) (k : Nat) : Prop :=
  ∃ answer, w.surroundings.Answers (w.standing k) w.request answer ∧ kind answer

/-- The poll with the given number starts before the deadline and before the call to stop, and it is
the first whose answer is not pending but settles the matter. -/
structure SettledAt (w : Wait) (pending settled : Answer → Prop) (k : Nat) : Prop where
  early : (w.standing k).elapsed < w.deadline
  uncalled : (w.standing k).isCalledOff = false
  pending : ∀ j < k, w.Sees pending j
  settled : w.Sees settled k

variable {w : Wait}

theorem requests_standing (k : Nat) : (w.standing k).requests = w.start.requests + k := by
  induction k with
  | zero => exact Progress.requests_rested
  | succ k ih =>
    rw [standing, Progress.requests_rested, Progress.requests_replied, ih]
    rfl

theorem elapsed_standing (k : Nat) : (w.standing k).elapsed = w.pollStart k := by
  induction k with
  | zero => exact Progress.elapsed_rested
  | succ k ih =>
    rw [standing, Progress.elapsed_rested, Progress.elapsed_replied, requests_standing, ih]
    rfl

/-- The call to stop is not taken back, from the start of the wait to any of its polls. -/
theorem open_of_standing {k : Nat} (h : (w.standing k).isCalledOff = false) :
    w.start.isCalledOff = false ∧ ∀ j ≤ k, (w.standing j).isCalledOff = false := by
  induction k with
  | zero =>
    refine ⟨Progress.open_of_rested h, fun j hj ↦ ?_⟩
    rw [Nat.le_zero.1 hj]
    exact h
  | succ k ih =>
    obtain ⟨hstart, hbefore⟩ := ih (Progress.open_of_replied (Progress.open_of_rested h))
    refine ⟨hstart, fun j hj ↦ ?_⟩
    rcases Nat.le_or_eq_of_le_succ hj with hle | rfl
    · exact hbefore j hle
    · exact h

/-- A wait is settled by one poll, when an answer that settles the matter is not pending. -/
theorem SettledAt.unique {pending settled : Answer → Prop} {k n : Nat}
    (hk : w.SettledAt pending settled k) (hn : w.SettledAt pending settled n)
    (hdistinct : ∀ answer, pending answer → ¬settled answer) : k = n := by
  -- Of two such polls the earlier one would be pending for the later.
  have hnot {i j : Nat} (hi : w.SettledAt pending settled i) (hj : w.SettledAt pending settled j) :
      ¬i < j := by
    intro hlt
    obtain ⟨answer, hanswer, hsettled⟩ := hi.settled
    obtain ⟨other, hother, hpending⟩ := hj.pending i hlt
    cases hanswer.unique hother
    exact hdistinct answer hpending hsettled
  have hkn := hnot hk hn
  have hnk := hnot hn hk
  omega

variable {α : Type} {x : Run (PollOutcome α)} {outcome : Answer → PollOutcome α} {value : α}
  {positive : 0 < w.policy.pollInterval.nanos}

open Run

/-- Polling that yields a value has come to the first poll that settles the matter, and ends with
the reply to it. -/
theorem exists_settledAt_of_pollFrom
    (hx : IsExchange w.request (fun answer ↦ .ok (outcome answer)) x) {k : Nat} {polls : UInt32}
    {q : Progress} {events : List Event} (hstands : q = w.standing k)
    (hpending : ∀ j < k, w.Sees (outcome · = .pending) j)
    (h : pollFrom w.policy positive w.subject w.deadline (fun _ ↦ x) k polls w.surroundings q =
      (.ok value, events)) :
    ∃ n, w.SettledAt (outcome · = .pending) (outcome · = .done value) n ∧
      q.afterAll events = (w.standing n).replied w.surroundings w.request := by
  fun_induction pollFrom w.policy positive w.subject w.deadline (fun _ ↦ x) k polls
    w.surroundings q generalizing events with
  | case1 => cases h
  | case2 => cases h
  | case3 => cases h
  | case4 k polls q hopen _ _ _ hearly found _ hpoll =>
    cases h
    subst hstands
    obtain ⟨looking, hlook, rfl⟩ := pollOnce_run hpoll
    obtain ⟨hcalm, ⟨answer, hanswer, hdone⟩, hlooked⟩ := hx.answers_of_unlessCalledOff hlook
    exact ⟨k, ⟨hearly, hcalm, hpending, answer, hanswer, Except.ok.inj hdone⟩, hlooked⟩
  | case5 => cases h
  | case6 => cases h
  | case7 k polls q hopen _ _ _ hearly _ hpoll pausing hpause tail rest hrest ih =>
    cases h
    subst hstands
    obtain ⟨looking, hlook, rfl⟩ := pollOnce_run hpoll
    obtain ⟨-, ⟨answer, hanswer, hnone⟩, hlooked⟩ := hx.answers_of_unlessCalledOff hlook
    have hrested := afterAll_of_pause hpause
    rw [Progress.afterAll_append]
    refine ih ?_ (fun j hj ↦ ?_) hrest
    · have hmarked : (w.standing k).afterAll (.polled :: looking) =
          (w.standing k).replied w.surroundings w.request := hlooked
      rw [Progress.afterAll_append, hrested, hmarked]
      rfl
    · rcases Nat.lt_or_eq_of_le (Nat.le_of_lt_succ hj) with hlt | rfl
      · exact hpending j hlt
      · exact ⟨answer, hanswer, Except.ok.inj hnone⟩
  | case8 => cases h

/-- From every poll up to the one that settles the matter, polling yields its value. -/
theorem pollFrom_of_settledAt (hdeadline : w.deadline < Clock.momentLimit)
    (hx : IsExchange w.request (fun answer ↦ .ok (outcome answer)) x) {n : Nat}
    (hsettled : w.SettledAt (outcome · = .pending) (outcome · = .done value) n) {k : Nat}
    {polls : UInt32} (hle : k ≤ n) :
    (pollFrom w.policy positive w.subject w.deadline (fun _ ↦ x) k polls w.surroundings
      (w.standing k)).1 = .ok value := by
  have hearly {j : Nat} (hj : j ≤ n) : (w.standing j).elapsed < w.deadline := by
    rw [elapsed_standing]
    apply IsPolled.of_le hj
    rw [IsPolled, ← elapsed_standing]
    exact hsettled.early
  have hopen {j : Nat} (hj : j ≤ n) : (w.standing j).isCalledOff = false :=
    (open_of_standing hsettled.uncalled).2 j hj
  have hmoment : (w.standing k).elapsed < Clock.momentLimit := Nat.lt_trans (hearly hle) hdeadline
  -- The induction is on the number of polls that are still pending.
  induction hcount : n - k generalizing k polls with
  | zero =>
    have heq : k = n := by omega
    subst heq
    obtain ⟨answer, hanswer, hdone⟩ := hsettled.settled
    obtain ⟨looking, hlook, -⟩ :=
      hx.unlessCalledOff_of_answers (hopen hle) hanswer w.subject.cancelled
    rw [hdone] at hlook
    exact pollFrom_of_done (hopen hle) hmoment (hearly hle) hlook
  | succ count ih =>
    have hlt : k < n := by omega
    obtain ⟨answer, hanswer, hnone⟩ := hsettled.pending k hlt
    obtain ⟨looking, hlook, -⟩ :=
      hx.unlessCalledOff_of_answers (hopen hle) hanswer w.subject.cancelled
    rw [hnone] at hlook
    obtain ⟨-, -, hlooked⟩ := hx.answers_of_unlessCalledOff hlook
    have hended : ((w.standing k).replied w.surroundings w.request).elapsed <
        Clock.momentLimit := by
      rw [Progress.elapsed_replied, requests_standing, elapsed_standing]
      have hbefore := pollEnd_le_pollStart_succ (w := w) k
      have hnext := hearly (Nat.succ_le_of_lt hlt)
      rw [elapsed_standing] at hnext
      exact Nat.lt_of_le_of_lt hbefore (Nat.lt_trans hnext hdeadline)
    have hnext : (w.standing (k + 1)).isCalledOff = false := hopen (Nat.succ_le_of_lt hlt)
    obtain ⟨pausing, hpause⟩ : ∃ events, pause w.subject w.policy.pollInterval w.deadline
        w.surroundings ((w.standing k).replied w.surroundings w.request) = (.ok (), events) :=
      exists_pause_of_open hdeadline hended hnext
    rw [← hlooked] at hpause
    rw [pollFrom_of_pending (hopen hle) hmoment (hearly hle) hlook hpause,
      afterAll_of_pause hpause, hlooked]
    have hrest : n - (k + 1) = count := by omega
    exact ih (Nat.succ_le_of_lt hlt)
      (Nat.lt_trans (hearly (Nat.succ_le_of_lt hlt)) hdeadline) hrest

end Wait

/-- A wait for the answer to one request that yields a value has a deadline and a poll that settles
the matter, and ends with the reply to it. -/
theorem Run.settledAt_of_waitUntil {α : Type} {policy : WaitPolicy} {subject : WaitSubject}
    {request : Request} {x : Run (PollOutcome α)} {outcome : Answer → PollOutcome α} {value : α}
    (hx : IsExchange request (fun answer ↦ .ok (outcome answer)) x) {s : Surroundings}
    {p : Progress} {events : List Event}
    (hrun : waitUntil policy subject (fun _ ↦ x) s p = (.ok value, events)) :
    ∃ deadline k, policy.deadline p.elapsed = .ok deadline ∧
      (Wait.mk policy subject deadline request s p).SettledAt (outcome · = .pending)
        (outcome · = .done value) k ∧
      p.afterAll events =
        ((Wait.mk policy subject deadline request s p).standing k).replied s request := by
  cases waitUntil_run hrun with
  | @polled deadline _ _ _ hdeadline =>
    rw [waitUntil_of_accepted (WaitPolicy.lt_of_deadline_eq_ok hdeadline).1 hdeadline] at hrun
    rcases bind_cases hrun with ⟨_, -, hstop⟩ | ⟨_, pausing, rest, hpause, hpolls, hevents⟩
    · cases hstop
    obtain ⟨k, hsettled, hended⟩ := Wait.exists_settledAt_of_pollFrom
      (w := ⟨policy, subject, deadline, request, s, p⟩) hx (afterAll_of_pause hpause)
      (fun j hj ↦ absurd hj j.not_lt_zero) hpolls
    refine ⟨deadline, k, hdeadline, hsettled, ?_⟩
    rw [hevents, Progress.afterAll_append]
    exact hended

/-- A wait for the answer to one request yields a value exactly when its deadline is accepted and a
poll settles the matter so. -/
theorem Run.waitUntil_eq_ok_iff {α : Type} {policy : WaitPolicy} {subject : WaitSubject}
    {request : Request} {x : Run (PollOutcome α)} {outcome : Answer → PollOutcome α} {value : α}
    (hx : IsExchange request (fun answer ↦ .ok (outcome answer)) x) {s : Surroundings}
    {p : Progress} :
    (waitUntil policy subject (fun _ ↦ x) s p).1 = .ok value ↔
      ∃ deadline k, policy.deadline p.elapsed = .ok deadline ∧
        (Wait.mk policy subject deadline request s p).SettledAt (outcome · = .pending)
          (outcome · = .done value) k := by
  constructor
  · intro hok
    obtain ⟨deadline, k, hdeadline, hsettled, -⟩ := settledAt_of_waitUntil hx (Prod.ext hok rfl)
    exact ⟨deadline, k, hdeadline, hsettled⟩
  · rintro ⟨deadline, k, hdeadline, hsettled⟩
    obtain ⟨hmoment, hlimit⟩ := WaitPolicy.lt_of_deadline_eq_ok hdeadline
    have hopen : (p.rested s (pauseSpan policy.delay deadline p.elapsed)).isCalledOff = false :=
      (Wait.open_of_standing hsettled.uncalled).2 0 k.zero_le
    obtain ⟨pausing, hpause⟩ : ∃ events, pause subject policy.delay deadline s p =
        (.ok (), events) := exists_pause_of_open hlimit hmoment hopen
    rw [waitUntil_of_accepted hmoment hdeadline]
    refine (congrArg Prod.fst (bind_of_ok hpause)).trans ?_
    rw [afterAll_of_pause hpause]
    exact Wait.pollFrom_of_settledAt hlimit hx hsettled k.zero_le

end NamespaceLifecycle
