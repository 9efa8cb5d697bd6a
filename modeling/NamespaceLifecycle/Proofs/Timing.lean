import Mathlib.Algebra.Order.Floor.Div
import NamespaceLifecycle.Proofs.Wait

/-!
# When a wait polls

A wait has a timetable. The first poll starts when the delay is over, and each later one a whole
pause after the poll before it has ended; only a pause that would go beyond the deadline is cut
short, and then no poll follows it. So the polls of a wait are the first ones of its timetable, as
many as start before the deadline or until one settles the matter. Since every pause but the last is
whole, their number is bounded by the policy alone.

Nothing is assumed of a poll but that it yields an outcome while the clock can name the moment; how
long it takes and what it does is open.
-/

namespace NamespaceLifecycle

def Event.isPolled : Event → Bool
  | .polled => true
  | _ => false

def Event.isSlept : Event → Bool
  | .slept _ => true
  | _ => false

/-- The moments of the marked events of a run: when each of them is over. -/
def momentsOf (marks : Event → Bool) (p : Progress) : List Event → List Duration
  | [] => []
  | e :: rest =>
    if marks e then (p.after e).elapsed :: momentsOf marks (p.after e) rest
    else momentsOf marks (p.after e) rest

theorem momentsOf_append (marks : Event → Bool) (p : Progress) (first second : List Event) :
    momentsOf marks p (first ++ second) =
      momentsOf marks p first ++ momentsOf marks (p.afterAll first) second := by
  induction first generalizing p with
  | nil => rfl
  | cons e first ih =>
    rw [List.cons_append, momentsOf, momentsOf, ih, Progress.afterAll_cons]
    split <;> rfl

theorem momentsOf_of_forall {marks : Event → Bool} {events : List Event}
    (h : ∀ e ∈ events, marks e = false) (p : Progress) : momentsOf marks p events = [] := by
  induction events generalizing p with
  | nil => rfl
  | cons e events ih =>
    have hhead : marks e = false := h e List.mem_cons_self
    rw [momentsOf, hhead, if_neg Bool.false_ne_true]
    exact ih (fun e he ↦ h e (List.mem_cons_of_mem _ he)) (p.after e)

/-- Where the run stands after a sleep. Without time to sleep there is no sleep. -/
def Progress.afterSleep (p : Progress) (span : Duration) : Progress :=
  if span.nanos = 0 then p else p.after (.slept span)

@[simp] theorem Progress.elapsed_afterSleep (p : Progress) (span : Duration) :
    (p.afterSleep span).elapsed = p.elapsed.plus span := by
  unfold afterSleep
  split
  · rename_i hzero
    rw [Duration.plus, hzero, Nat.add_zero]
  · rfl

namespace Run

variable {subject : WaitSubject} {span deadline : Duration} {p : Progress} {events : List Event}

theorem PauseRun.isPolled_eq_false {result : Except Stop Unit}
    (h : PauseRun subject span deadline p result events) : ∀ e ∈ events, e.isPolled = false := by
  cases h <;> simp [Event.isPolled]

theorem nanos_pauseSpan (span deadline now : Duration) :
    (pauseSpan span deadline now).nanos = min span.nanos (deadline.nanos - now.nanos) := by
  rw [pauseSpan, Duration.nanos_least, Duration.nanos_minus]

/-- A pause that ends before the deadline is whole. -/
theorem PauseRun.eq_afterSleep (h : PauseRun subject span deadline p (.ok ()) events)
    (hearly : (p.afterAll events).elapsed < deadline) :
    p.afterAll events = p.afterSleep span := by
  have helapsed := h.afterAll_of_ok.1
  have hspan := nanos_pauseSpan span deadline p.elapsed
  rw [helapsed, Duration.lt_def, Duration.nanos_plus] at hearly
  have hwhole : pauseSpan span deadline p.elapsed = span := by
    refine congrArg Duration.mk (?_ : (pauseSpan span deadline p.elapsed).nanos = span.nanos)
    omega
  cases h with
  | nothingLeft hmoment hzero =>
    rw [hwhole] at hzero
    rw [Progress.afterSleep, if_pos hzero]
    rfl
  | slept hmoment hopen hpositive =>
    rw [hwhole] at hpositive ⊢
    rw [Progress.afterSleep, if_neg hpositive]
    rfl

/-- A pause that does not end before the deadline ends at it, unless it started later; a whole one
would not have ended before it either. -/
theorem PauseRun.elapsed_of_late (h : PauseRun subject span deadline p (.ok ()) events)
    (hlate : ¬(p.afterAll events).elapsed < deadline) :
    deadline ≤ (p.afterSleep span).elapsed ∧
      (p.afterAll events).elapsed.nanos = max deadline.nanos p.elapsed.nanos := by
  have hspan := nanos_pauseSpan span deadline p.elapsed
  rw [h.afterAll_of_ok.1, Duration.lt_def, Duration.nanos_plus] at hlate
  rw [h.afterAll_of_ok.1, Progress.elapsed_afterSleep, Duration.le_def, Duration.nanos_plus,
    Duration.nanos_plus]
  omega

/-- No pause sleeps beyond the deadline. -/
theorem PauseRun.sleeps_le (h : PauseRun subject span deadline p (.ok ()) events) :
    ∀ moment ∈ momentsOf Event.isSlept p events, moment ≤ deadline := by
  cases h with
  | nothingLeft => simp [momentsOf]
  | slept hmoment hopen hpositive =>
    have hspan := nanos_pauseSpan span deadline p.elapsed
    intro moment hmem
    rw [momentsOf, momentsOf, Event.isSlept, if_pos rfl, List.mem_singleton] at hmem
    rw [hmem, Duration.le_def]
    change (p.elapsed.plus (pauseSpan span deadline p.elapsed)).nanos ≤ deadline.nanos
    rw [Duration.nanos_plus]
    omega

end Run

/-! ## The timetable -/

/-- A wait by polls of any kind: how it waits and for what, its polls, and where it starts. -/
structure Polling (α : Type) where
  policy : WaitPolicy
  subject : WaitSubject
  poll : Nat → Run (PollOutcome α)
  surroundings : Surroundings
  start : Progress

namespace Polling

variable {α : Type} (w : Polling α)

def deadline : Duration := w.start.elapsed.plus w.policy.timeout

def run : Except Stop α × List Event :=
  Run.waitUntil w.policy w.subject w.poll w.surroundings w.start

/-- Where the wait stands when the poll with the given number starts, where none before it has
settled the matter. -/
def startOf : Nat → Progress
  | 0 => w.start.afterSleep w.policy.delay
  | k + 1 =>
    ((startOf k).afterAll (w.poll k w.surroundings (startOf k)).2).afterSleep w.policy.pollInterval

def found (k : Nat) : Except Stop (PollOutcome α) := (w.poll k w.surroundings (w.startOf k)).1

def looking (k : Nat) : List Event := (w.poll k w.surroundings (w.startOf k)).2

/-- Where the wait stands when the poll with the given number has ended. -/
def endOf (k : Nat) : Progress := (w.startOf k).afterAll (w.looking k)

/-- Where the wait stands when so many polls have ended. -/
def endAfter : Nat → Progress
  | 0 => w.start
  | k + 1 => w.endOf k

/-- The poll with the given number starts in time and settles nothing. -/
structure IsPending (k : Nat) : Prop where
  early : (w.startOf k).elapsed < w.deadline
  pending : w.found k = .ok .pending

/-- The wait comes to the poll with the given number: it starts in time, and none before it has
settled the matter. -/
structure IsReached (k : Nat) : Prop where
  early : (w.startOf k).elapsed < w.deadline
  pending : ∀ j < k, w.IsPending j

/-- The poll with the given number yields an outcome while the clock can name the moment, and does
not wait on its own account. -/
structure IsAnswered (k : Nat) : Prop where
  outcome : ∃ outcome, w.found k = .ok outcome
  inRange : (w.endOf k).elapsed < Clock.momentLimit
  plain : ∀ e ∈ w.looking k, e.isPolled = false ∧ e.isSlept = false

/-- How a wait ends after so many polls, and when: with the poll that settles the matter, or with
the time, after polls that settled nothing. -/
inductive EndsAfter : Nat → Except Stop α → Duration → Prop
  | done {k : Nat} {value : α} (hpending : ∀ j < k, w.IsPending j)
      (hdone : w.found k = .ok (.done value)) :
      EndsAfter (k + 1) (.ok value) (w.endOf k).elapsed
  | failed {k : Nat} {error : Error} (hpending : ∀ j < k, w.IsPending j)
      (hfailed : w.found k = .ok (.failed error)) :
      EndsAfter (k + 1) (.error (.failed error)) (w.endOf k).elapsed
  | expired {count : Nat} {moment : Duration} (hpending : ∀ j < count, w.IsPending j)
      (hlate : w.deadline ≤ (w.startOf count).elapsed)
      (hmoment : moment.nanos = max w.deadline.nanos (w.endAfter count).elapsed.nanos) :
      EndsAfter count
        (.error (.failed (w.subject.timeout w.policy.timeout (UInt32.ofNat count)))) moment

/-- A wait keeps to its timetable. -/
structure IsTimed (count : Nat) (result : Except Stop α) (events : List Event) : Prop where
  /-- The polls of the wait are the first ones of the timetable. -/
  polls : momentsOf Event.isPolled w.start events =
    (List.range count).map fun k ↦ (w.startOf k).elapsed
  /-- The first one starts when the delay is over. -/
  first : (w.startOf 0).elapsed = w.start.elapsed.plus w.policy.delay
  /-- Each later one starts a whole pause after the one before it has ended. -/
  later : ∀ k, (w.startOf (k + 1)).elapsed = (w.endOf k).elapsed.plus w.policy.pollInterval
  /-- Every poll starts before the deadline. -/
  early : ∀ k < count, (w.startOf k).elapsed < w.deadline
  /-- No sleep ends after the deadline. -/
  sleeps : ∀ moment ∈ momentsOf Event.isSlept w.start events, moment ≤ w.deadline
  /-- There are no more polls than pauses fit between the delay and the deadline. -/
  count_le : w.policy.delay < w.policy.timeout →
    count ≤ (w.policy.timeout.nanos - w.policy.delay.nanos) ⌈/⌉ w.policy.pollInterval.nanos
  /-- There are none when the delay takes all the time. -/
  count_eq_zero : w.policy.timeout ≤ w.policy.delay → count = 0
  /-- The wait ends with its last poll, or with the time. -/
  ending : w.EndsAfter count result (w.start.afterAll events).elapsed
  /-- Polls that take no time and settle nothing are as many as can be, and take all the time. -/
  instant : (∀ k, w.IsReached k → w.found k = .ok .pending ∧
      (w.endOf k).elapsed = (w.startOf k).elapsed) →
    count = (w.policy.timeout.nanos - w.policy.delay.nanos) ⌈/⌉ w.policy.pollInterval.nanos ∧
      (w.start.afterAll events).elapsed = w.start.elapsed.plus w.policy.timeout

variable {w}

theorem elapsed_startOf_zero : (w.startOf 0).elapsed = w.start.elapsed.plus w.policy.delay :=
  Progress.elapsed_afterSleep _ _

theorem elapsed_startOf_succ (k : Nat) :
    (w.startOf (k + 1)).elapsed = (w.endOf k).elapsed.plus w.policy.pollInterval :=
  Progress.elapsed_afterSleep _ _

theorem startOf_le_endOf (k : Nat) : (w.startOf k).elapsed ≤ (w.endOf k).elapsed :=
  Progress.elapsed_le_afterAll _ _

/-- A poll starts no earlier than it would if those before it took no time. -/
theorem le_elapsed_startOf (w : Polling α) (k : Nat) :
    w.start.elapsed.nanos + w.policy.delay.nanos + w.policy.pollInterval.nanos * k ≤
      (w.startOf k).elapsed.nanos := by
  induction k with
  | zero =>
    rw [elapsed_startOf_zero, Duration.nanos_plus]
    omega
  | succ k ih =>
    have hend : (w.startOf k).elapsed.nanos ≤ (w.endOf k).elapsed.nanos := startOf_le_endOf k
    rw [elapsed_startOf_succ, Duration.nanos_plus, Nat.mul_succ]
    omega

/-- Polls that take no time start a whole pause after each other. -/
theorem elapsed_startOf_of_instant {k : Nat}
    (h : ∀ j < k, (w.endOf j).elapsed = (w.startOf j).elapsed) :
    (w.startOf k).elapsed.nanos =
      w.start.elapsed.nanos + w.policy.delay.nanos + w.policy.pollInterval.nanos * k := by
  induction k with
  | zero =>
    rw [elapsed_startOf_zero, Duration.nanos_plus]
    omega
  | succ k ih =>
    have hstart := ih fun j hj ↦ h j (Nat.lt_succ_of_lt hj)
    rw [elapsed_startOf_succ, h k (Nat.lt_succ_self k), Duration.nanos_plus, hstart, Nat.mul_succ]
    omega

/-- The number of polls that start in time is bounded by the policy. -/
theorem lt_ceilDiv_of_early (hinterval : 0 < w.policy.pollInterval.nanos) {k : Nat}
    (hearly : (w.startOf k).elapsed < w.deadline) :
    k < (w.policy.timeout.nanos - w.policy.delay.nanos) ⌈/⌉ w.policy.pollInterval.nanos := by
  have hstart := le_elapsed_startOf w k
  rw [Duration.lt_def, deadline, Duration.nanos_plus] at hearly
  refine Nat.lt_of_not_le fun hle ↦ ?_
  have hcovered := (ceilDiv_le_iff_le_mul hinterval).1 hle
  omega

theorem ceilDiv_le_of_late (hinterval : 0 < w.policy.pollInterval.nanos) {k : Nat}
    (hinstant : ∀ j < k, (w.endOf j).elapsed = (w.startOf j).elapsed)
    (hlate : w.deadline ≤ (w.startOf k).elapsed) :
    (w.policy.timeout.nanos - w.policy.delay.nanos) ⌈/⌉ w.policy.pollInterval.nanos ≤ k := by
  have hstart := elapsed_startOf_of_instant hinstant
  rw [Duration.le_def, deadline, Duration.nanos_plus] at hlate
  apply (ceilDiv_le_iff_le_mul hinterval).2
  omega

/-! ## Runs and the timetable -/

/-- Where a wait stands when it could poll for the next time: as the timetable says, or at the end
of its time, after which the timetable has no poll either. -/
structure StandsAt (w : Polling α) (k : Nat) (q : Progress) : Prop where
  early : q.elapsed < w.deadline → q = w.startOf k
  late : ¬q.elapsed < w.deadline → w.deadline ≤ (w.startOf k).elapsed ∧
    q.elapsed.nanos = max w.deadline.nanos (w.endAfter k).elapsed.nanos

theorem standsAt_zero {pausing : List Event}
    (hpause : Run.PauseRun w.subject w.policy.delay w.deadline w.start (.ok ()) pausing) :
    w.StandsAt 0 (w.start.afterAll pausing) :=
  ⟨hpause.eq_afterSleep, hpause.elapsed_of_late⟩

theorem standsAt_succ {k : Nat} {pausing : List Event}
    (hpause : Run.PauseRun w.subject w.policy.pollInterval w.deadline (w.endOf k) (.ok ())
      pausing) : w.StandsAt (k + 1) ((w.endOf k).afterAll pausing) :=
  ⟨hpause.eq_afterSleep, hpause.elapsed_of_late⟩

/-- A poll that may start does what the timetable says of it. -/
theorem look_eq {k : Nat} {q : Progress} (hstands : w.StandsAt k q)
    (hopen : q.isCalledOff = false) (hearly : q.elapsed < w.deadline)
    (hpending : ∀ j < k, w.IsPending j) (hanswered : ∀ k, w.IsReached k → w.IsAnswered k)
    {error : Error} {found : Except Stop (PollOutcome α)} {looking : List Event}
    (hlook : Run.unlessCalledOff error (w.poll k) w.surroundings q = (found, looking)) :
    w.IsReached k ∧ w.found k = found ∧ w.looking k = looking ∧
      q.afterAll looking = w.endOf k := by
  have hstart := hstands.early hearly
  subst hstart
  have hreached : w.IsReached k := ⟨hearly, hpending⟩
  obtain ⟨outcome, houtcome⟩ := (hanswered k hreached).outcome
  have hpoll : w.poll k w.surroundings (w.startOf k) = (found, looking) := by
    rw [← hlook]
    refine (Run.unlessCalledOff_of_ne hopen error ?_).symm
    change w.found k ≠ _
    rw [houtcome]
    exact fun h ↦ by cases h
  have hlooking : w.looking k = looking := congrArg Prod.snd hpoll
  exact ⟨hreached, congrArg Prod.fst hpoll, hlooking, by rw [endOf, hlooking]⟩

/-- The only moment of a poll is its start. -/
theorem momentsOf_look (q : Progress) {looking : List Event}
    (hplain : ∀ e ∈ looking, e.isPolled = false ∧ e.isSlept = false) :
    momentsOf Event.isPolled q (.polled :: looking) = [q.elapsed] ∧
      momentsOf Event.isSlept q (.polled :: looking) = [] := by
  constructor
  · rw [momentsOf, Event.isPolled, if_pos rfl, momentsOf_of_forall fun e he ↦ (hplain e he).1]
    rfl
  · apply momentsOf_of_forall
    intro e he
    rcases List.mem_cons.1 he with rfl | he
    · rfl
    · exact (hplain e he).2

/-- The polls that settle nothing follow the timetable, and none of their pauses goes beyond the
deadline. -/
theorem standsAt_of_pendingPolls (hanswered : ∀ k, w.IsReached k → w.IsAnswered k)
    {index count : Nat} {q : Progress} {front : List Event}
    (hpolls : Run.PendingPolls w.policy w.subject w.deadline w.poll w.surroundings index q count
      front)
    (hstands : w.StandsAt index q) (hpending : ∀ j < index, w.IsPending j) :
    w.StandsAt (index + count) (q.afterAll front) ∧ (∀ j < index + count, w.IsPending j) ∧
      momentsOf Event.isPolled q front =
        (List.range' index count).map (fun k ↦ (w.startOf k).elapsed) ∧
      ∀ moment ∈ momentsOf Event.isSlept q front, moment ≤ w.deadline := by
  -- `StandsAt` goes from one poll to the next through the pause between them.
  induction hpolls with
  | none index q => exact ⟨hstands, hpending, rfl, by simp [momentsOf]⟩
  | @more index count q looking pausing rest hopen hearly hlook hpause hrest ih =>
    obtain ⟨hreached, hfound, hlooking, hend⟩ :=
      look_eq hstands hopen hearly hpending hanswered hlook
    have hplain := (hanswered index hreached).plain
    rw [hlooking] at hplain
    obtain ⟨hpolled, hquiet⟩ := momentsOf_look q hplain
    have hlooked : q.afterAll (.polled :: looking) = w.endOf index := hend
    rw [hend] at hpause ih
    have hnext : ∀ j < index + 1, w.IsPending j := by
      intro j hj
      rcases Nat.lt_or_eq_of_le (Nat.le_of_lt_succ hj) with hlt | rfl
      · exact hpending j hlt
      · exact ⟨hreached.early, hfound⟩
    obtain ⟨hlast, hall, hrestPolled, hrestSlept⟩ := ih (standsAt_succ hpause) hnext
    have hsum : index + (count + 1) = index + 1 + count := by omega
    rw [hsum, Progress.afterAll_append, momentsOf_append, momentsOf_append, momentsOf_append,
      momentsOf_append, Progress.afterAll_append, hlooked, hpolled, hquiet]
    refine ⟨hlast, hall, ?_, ?_⟩
    · rw [momentsOf_of_forall hpause.isPolled_eq_false, hrestPolled, hstands.early hearly,
        List.range'_succ]
      rfl
    · intro moment hmem
      rcases List.mem_append.1 hmem with hmem | hmem
      · exact hpause.sleeps_le moment hmem
      · exact hrestSlept moment hmem

theorem isReached_of_isPending {count : Nat} (h : ∀ j < count, w.IsPending j) :
    ∀ k < count, w.IsReached k :=
  fun k hk ↦ ⟨(h k hk).early, fun j hj ↦ h j (Nat.lt_trans hj hk)⟩

/-- The clock can name the moment at which polls that settle nothing have ended. -/
theorem endAfter_lt (hanswered : ∀ k, w.IsReached k → w.IsAnswered k)
    (hdeadline : w.deadline < Clock.momentLimit) {count : Nat}
    (hpending : ∀ j < count, w.IsPending j) :
    (w.endAfter count).elapsed < Clock.momentLimit := by
  cases count with
  | zero =>
    rw [Duration.lt_def, deadline, Duration.nanos_plus] at hdeadline
    rw [Duration.lt_def, endAfter]
    omega
  | succ k =>
    exact (hanswered k (isReached_of_isPending hpending k (Nat.lt_succ_self k))).inRange

/-- What a wait has done when it could poll for the next time: it stands where the timetable says,
and its polls and sleeps so far keep to it. -/
structure HasPolled (w : Polling α) (count : Nat) (front : List Event) : Prop where
  stands : w.StandsAt count (w.start.afterAll front)
  pending : ∀ j < count, w.IsPending j
  polls : momentsOf Event.isPolled w.start front =
    (List.range count).map fun k ↦ (w.startOf k).elapsed
  sleeps : ∀ moment ∈ momentsOf Event.isSlept w.start front, moment ≤ w.deadline

/-- How many polls a wait has, when they and its sleeps are, and how it ends. -/
structure HasEnded (w : Polling α) (count : Nat) (result : Except Stop α) (events : List Event) :
    Prop where
  polls : momentsOf Event.isPolled w.start events =
    (List.range count).map fun k ↦ (w.startOf k).elapsed
  early : ∀ k < count, (w.startOf k).elapsed < w.deadline
  sleeps : ∀ moment ∈ momentsOf Event.isSlept w.start events, moment ≤ w.deadline
  ending : w.EndsAfter count result (w.start.afterAll events).elapsed

/-- The poll that settles the matter is one more poll of the timetable. -/
theorem HasPolled.hasEnded {count : Nat} {front looking : List Event} {result : Except Stop α}
    (h : w.HasPolled count front) (hreached : w.IsReached count)
    (hanswered : w.IsAnswered count) (hstart : w.start.afterAll front = w.startOf count)
    (hlooking : w.looking count = looking)
    (hending : w.EndsAfter (count + 1) result (w.endOf count).elapsed) :
    w.HasEnded (count + 1) result (front ++ .polled :: looking) := by
  have hplain := hanswered.plain
  rw [hlooking] at hplain
  obtain ⟨hpolled, hquiet⟩ := momentsOf_look (w.start.afterAll front) hplain
  have hend : w.start.afterAll (front ++ .polled :: looking) = w.endOf count := by
    rw [Progress.afterAll_append, hstart, endOf, hlooking]
    rfl
  refine ⟨?_, ?_, ?_, ?_⟩
  · rw [momentsOf_append, h.polls, hpolled, hstart, List.range_succ, List.map_append]
    rfl
  · intro k hk
    rcases Nat.lt_or_eq_of_le (Nat.le_of_lt_succ hk) with hlt | rfl
    · exact (h.pending k hlt).early
    · exact hreached.early
  · rw [momentsOf_append, hquiet, List.append_nil]
    exact h.sleeps
  · rw [hend]
    exact hending

/-- Polls that are answered and never called off end with one that settles the matter, or with the
time. -/
theorem HasPolled.exists_hasEnded {count : Nat} {front last : List Event} {result : Except Stop α}
    (h : w.HasPolled count front) (hanswered : ∀ k, w.IsReached k → w.IsAnswered k)
    (hdeadline : w.deadline < Clock.momentLimit)
    (hend : Run.PollsEnd w.policy w.subject w.deadline w.poll w.surroundings count
      (w.start.afterAll front) (UInt32.ofNat count) result last)
    (hcalm : (w.start.afterAll (front ++ last)).isCalledOff = false) :
    ∃ count, w.HasEnded count result (front ++ last) := by
  rw [Progress.afterAll_append] at hcalm
  cases hend with
  | calledOff hoff =>
    rw [Progress.afterAll_nil, hoff] at hcalm
    cases hcalm
  | unnamed hmoment =>
    -- The run stands before the deadline, at it, or where the last poll has ended.
    refine absurd ?_ hmoment
    by_cases hearly : (w.start.afterAll front).elapsed < w.deadline
    · exact Nat.lt_trans hearly hdeadline
    · have hended := endAfter_lt hanswered hdeadline h.pending
      rw [Duration.lt_def] at hdeadline hended
      rw [Duration.lt_def, (h.stands.late hearly).2]
      exact Nat.max_lt.2 ⟨hdeadline, hended⟩
  | @expired line hopen hlate =>
    obtain ⟨hlate', hmoment⟩ := h.stands.late hlate
    refine ⟨count, ?_, fun k hk ↦ (h.pending k hk).early, ?_, ?_⟩
    · rw [momentsOf_append, h.polls]
      exact List.append_nil _
    · rw [momentsOf_append]
      simpa [momentsOf, Event.isSlept] using h.sleeps
    · rw [Progress.afterAll_append]
      exact .expired h.pending hlate' hmoment
  | stopped hopen hearly hlook =>
    obtain ⟨hreached, hfound, -⟩ := look_eq h.stands hopen hearly h.pending hanswered hlook
    obtain ⟨outcome, houtcome⟩ := (hanswered count hreached).outcome
    rw [houtcome] at hfound
    cases hfound
  | done hopen hearly hlook =>
    obtain ⟨hreached, hfound, hlooking, -⟩ :=
      look_eq h.stands hopen hearly h.pending hanswered hlook
    exact ⟨_, h.hasEnded hreached (hanswered count hreached) (h.stands.early hearly) hlooking
      (.done h.pending hfound)⟩
  | failed hopen hearly hlook =>
    obtain ⟨hreached, hfound, hlooking, -⟩ :=
      look_eq h.stands hopen hearly h.pending hanswered hlook
    exact ⟨_, h.hasEnded hreached (hanswered count hreached) (h.stands.early hearly) hlooking
      (.failed h.pending hfound)⟩
  | @interrupted stop looking pausing hopen hearly hlook hpause =>
    obtain ⟨hreached, -, -, hlooked⟩ := look_eq h.stands hopen hearly h.pending hanswered hlook
    rw [List.cons_append, Progress.afterAll_cons, Progress.afterAll_append] at hcalm
    obtain ⟨hmoment, -⟩ := hpause.unnamed_of_error hdeadline hcalm
    rw [hlooked] at hmoment
    exact absurd (hanswered count hreached).inRange hmoment

/-- A wait whose deadline is accepted has polled, and has ended. -/
theorem exists_hasEnded_run
    (hdeadline : w.policy.deadline w.start.elapsed = .ok w.deadline)
    (hanswered : ∀ k, w.IsReached k → w.IsAnswered k)
    (hcalm : (w.start.afterAll w.run.2).isCalledOff = false) :
    ∃ count, w.HasEnded count w.run.1 w.run.2 := by
  obtain ⟨hnow, hlimit⟩ := WaitPolicy.lt_of_deadline_eq_ok hdeadline
  rcases hrun : w.run with ⟨result, events⟩
  rw [hrun] at hcalm
  cases Run.waitUntil_run hrun with
  | unnamed hmoment => exact absurd hnow hmoment
  | refused _ hrefused =>
    rw [hdeadline] at hrefused
    cases hrefused
  | delayed hdeadline' hpause =>
    rw [hdeadline, Except.ok.injEq] at hdeadline'
    subst hdeadline'
    exact absurd hnow (hpause.unnamed_of_error hlimit hcalm).1
  | @polled _ pausing rest _ hdeadline' hpause hpolls =>
    rw [hdeadline, Except.ok.injEq] at hdeadline'
    subst hdeadline'
    obtain ⟨count, front, last, hfront, hlast, rfl⟩ := hpolls
    obtain ⟨hstands, hpending, hpolled, hslept⟩ :=
      standsAt_of_pendingPolls hanswered hfront (standsAt_zero hpause) (by simp)
    rw [Nat.zero_add] at hstands hpending hlast
    rw [UInt32.zero_add] at hlast
    have hhas : w.HasPolled count (pausing ++ front) := by
      refine ⟨?_, hpending, ?_, ?_⟩
      · rw [Progress.afterAll_append]
        exact hstands
      · rw [momentsOf_append, momentsOf_of_forall hpause.isPolled_eq_false, hpolled,
          List.range_eq_range']
        rfl
      · intro moment hmem
        rw [momentsOf_append] at hmem
        rcases List.mem_append.1 hmem with hmem | hmem
        · exact hpause.sleeps_le moment hmem
        · exact hslept moment hmem
    rw [← Progress.afterAll_append] at hlast
    rw [← List.append_assoc] at hcalm ⊢
    exact hhas.exists_hasEnded hanswered hlimit hlast hcalm

/-- Polls that take no time and settle nothing go on to the deadline, and the wait ends with it. -/
theorem HasEnded.of_instant {count : Nat} {result : Except Stop α} {events : List Event}
    (h : w.HasEnded count result events) (hinterval : 0 < w.policy.pollInterval.nanos)
    (hinstant : ∀ k, w.IsReached k → w.found k = .ok .pending ∧
      (w.endOf k).elapsed = (w.startOf k).elapsed) :
    (w.policy.timeout.nanos - w.policy.delay.nanos) ⌈/⌉ w.policy.pollInterval.nanos ≤ count ∧
      (w.start.afterAll events).elapsed = w.deadline := by
  have hearly := h.early
  have hending := h.ending
  generalize (w.start.afterAll events).elapsed = moment at hending ⊢
  have hunsettled {k : Nat} (hpending : ∀ j < k, w.IsPending j) (hk : k < count) :
      w.found k = .ok .pending := (hinstant k ⟨hearly k hk, hpending⟩).1
  cases hending with
  | @done k value hpending hdone =>
    have hfound := hunsettled hpending (Nat.lt_succ_self k)
    rw [hdone] at hfound
    cases hfound
  | @failed k error hpending hfailed =>
    have hfound := hunsettled hpending (Nat.lt_succ_self k)
    rw [hfailed] at hfound
    cases hfound
  | expired hpending hlate hmoment =>
    -- The last poll has started in time and taken none, so the later moment is the deadline.
    have htakes : ∀ j < count, (w.endOf j).elapsed = (w.startOf j).elapsed := fun j hj ↦
      (hinstant j (isReached_of_isPending hpending j hj)).2
    have hended : (w.endAfter count).elapsed ≤ w.deadline := by
      cases count with
      | zero =>
        rw [endAfter, deadline, Duration.le_def, Duration.nanos_plus]
        exact Nat.le_add_right _ _
      | succ k =>
        rw [endAfter, htakes k (Nat.lt_succ_self k)]
        exact Nat.le_of_lt (hearly k (Nat.lt_succ_self k))
    refine ⟨ceilDiv_le_of_late hinterval htakes hlate, congrArg Duration.mk ?_⟩
    exact hmoment.trans (Nat.max_eq_left hended)

/-- A wait that may start and is not called off keeps to its timetable, whatever its polls find
and however long they take: it ends, with its last poll or with its time. -/
theorem waitUntil_isTimed (w : Polling α)
    (hdeadline : w.policy.deadline w.start.elapsed = .ok w.deadline)
    (hanswered : ∀ k, w.IsReached k → w.IsAnswered k)
    (hcalm : (w.start.afterAll w.run.2).isCalledOff = false) :
    ∃ count, w.IsTimed count w.run.1 w.run.2 := by
  obtain ⟨count, hended⟩ := exists_hasEnded_run hdeadline hanswered hcalm
  have hinterval := WaitPolicy.pollInterval_pos_of_deadline hdeadline
  have hcount : count ≤
      (w.policy.timeout.nanos - w.policy.delay.nanos) ⌈/⌉ w.policy.pollInterval.nanos := by
    cases count with
    | zero => exact Nat.zero_le _
    | succ k => exact lt_ceilDiv_of_early hinterval (hended.early k (Nat.lt_succ_self k))
  refine ⟨count, hended.polls, elapsed_startOf_zero, elapsed_startOf_succ, hended.early,
    hended.sleeps, fun _ ↦ hcount, ?_, hended.ending, ?_⟩
  · intro hle
    rw [Duration.le_def] at hle
    rw [Nat.sub_eq_zero_of_le hle, zero_ceilDiv] at hcount
    exact Nat.le_zero.1 hcount
  · intro hinstant
    obtain ⟨hmost, hmoment⟩ := hended.of_instant hinterval hinstant
    exact ⟨Nat.le_antisymm hcount hmost, hmoment⟩

/-- A poll whose answer comes at once is answered. -/
theorem isAnswered_of_await (hdeadline : w.deadline < Clock.momentLimit)
    {outcome : PollOutcome α}
    (hpoll : ∀ k, w.poll k = Run.await (.answered .zero false [] outcome)) {k : Nat}
    (hreached : w.IsReached k) :
    w.IsAnswered k ∧ w.found k = .ok outcome ∧
      (w.endOf k).elapsed = (w.startOf k).elapsed := by
  have hmoment : (w.startOf k).elapsed < Clock.momentLimit :=
    Nat.lt_trans hreached.early hdeadline
  have hrun : w.poll k w.surroundings (w.startOf k) = (.ok outcome, [.waited .zero]) := by
    rw [hpoll, Run.await_run]
    exact if_pos (Nat.lt_of_lt_of_le hmoment (by decide))
  have hlooking : w.looking k = [.waited .zero] := congrArg Prod.snd hrun
  have hended : (w.endOf k).elapsed = (w.startOf k).elapsed := by
    rw [endOf, hlooking]
    rfl
  refine ⟨⟨⟨outcome, congrArg Prod.fst hrun⟩, ?_, ?_⟩, congrArg Prod.fst hrun, hended⟩
  · rw [hended]
    exact hmoment
  · rw [hlooking]
    simp [Event.isPolled, Event.isSlept]

/-- Within ten seconds, one of which is the delay, a wait polls five times at intervals of two. -/
theorem waitUntil_isTimed_of_pending :
    let w : Polling Unit :=
      ⟨⟨.ofSeconds 1, .ofSeconds 2, .ofSeconds 10⟩, ⟨⟨"p", "n"⟩, "settled"⟩,
        fun _ ↦ Run.await (.answered .zero false [] .pending), .always (.ok .null), .start⟩
    w.run.1 = .error (.failed (.waitTimeout "p" "n" "settled" (.ofSeconds 10) 5)) ∧
      momentsOf Event.isPolled w.start w.run.2 =
        [.ofSeconds 1, .ofSeconds 3, .ofSeconds 5, .ofSeconds 7, .ofSeconds 9] ∧
      (w.start.afterAll w.run.2).elapsed = .ofSeconds 10 := by
  intro w
  have hlimit : w.deadline < Clock.momentLimit := by decide +kernel
  have hpoll {k : Nat} (hreached : w.IsReached k) :=
    isAnswered_of_await hlimit (fun _ ↦ rfl) hreached
  obtain ⟨count, htimed⟩ := waitUntil_isTimed w (by decide +kernel) (fun k h ↦ (hpoll h).1)
    (by decide +kernel)
  obtain ⟨hcount, hmoment⟩ := htimed.instant fun k h ↦ (hpoll h).2
  have hfive : count = 5 := hcount.trans (by decide +kernel)
  have hresult : w.run.1 =
      .error (.failed (w.subject.timeout w.policy.timeout (UInt32.ofNat count))) := by
    have hearly := htimed.early
    have hending := htimed.ending
    generalize w.run.1 = result, (w.start.afterAll w.run.2).elapsed = moment at hending
    cases hending with
    | @done k _ hpending hdone =>
      rw [(hpoll ⟨hearly k (Nat.lt_succ_self k), hpending⟩).2.1] at hdone
      cases hdone
    | @failed k _ hpending hfailed =>
      rw [(hpoll ⟨hearly k (Nat.lt_succ_self k), hpending⟩).2.1] at hfailed
      cases hfailed
    | expired => rfl
  refine ⟨?_, ?_, hmoment.trans (by decide +kernel)⟩
  · rw [hresult, hfive]
    rfl
  · rw [htimed.polls, hfive]
    decide +kernel

end Polling

end NamespaceLifecycle
