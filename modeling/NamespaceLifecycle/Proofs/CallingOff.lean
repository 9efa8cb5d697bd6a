import NamespaceLifecycle.Proofs.Request

/-!
# Being called off

An operation that is called off starts nothing more: no request, no poll and no sleep. What follows
the call to stop is lines of the log. The call comes at one place of a run, in a request that is
answered all the same, in one that never is, or in a sleep. A request ends as its answer says when
there is one, and a wait as well, unless the answer leaves the matter open; all else ends as called
off.
-/

namespace NamespaceLifecycle

/-- Nothing but lines of the log follows the call to stop. -/
def Heeds (p : Progress) (events : List Event) : Prop :=
  ∀ before e after, events = before ++ e :: after → (p.afterAll before).isCalledOff = true →
    ∃ line, e = .logged line

theorem heeds_nil (p : Progress) : Heeds p [] := by
  intro before e after hevents
  cases before <;> cases hevents

theorem Heeds.cons {p : Progress} {e : Event} {events : List Event}
    (hfirst : p.isCalledOff = true → ∃ line, e = .logged line) (h : Heeds (p.after e) events) :
    Heeds p (e :: events) := by
  intro before other after hevents hoff
  cases before with
  | nil =>
    cases hevents
    exact hfirst hoff
  | cons first before =>
    cases hevents
    exact h before other after rfl hoff

theorem Heeds.append {p : Progress} {first second : List Event} (hfirst : Heeds p first)
    (hsecond : Heeds (p.afterAll first) second) : Heeds p (first ++ second) := by
  intro before e after hevents hoff
  rcases split_cases hevents with ⟨middle, hmiddle, -⟩ | ⟨middle, rfl, hmiddle⟩
  · exact hfirst before e middle hmiddle hoff
  · rw [Progress.afterAll_append] at hoff
    exact hsecond middle e after hmiddle hoff

theorem heeds_logged (p : Progress) (lines : List LogLine) : Heeds p (lines.map .logged) := by
  induction lines with
  | nil => exact heeds_nil p
  | cons line lines ih => exact Heeds.cons (fun _ ↦ ⟨line, rfl⟩) ih

/-- What starts while nothing is called off heeds. -/
theorem Heeds.cons_of_open {p : Progress} {e : Event} {events : List Event}
    (hopen : p.isCalledOff = false) (h : Heeds (p.after e) events) : Heeds p (e :: events) :=
  h.cons fun hoff ↦ absurd hoff (by simp [hopen])

/-- Where a run is called off: what happened before the request or the sleep that was under way, and
the request with its answer when it is answered all the same. -/
inductive FiresAt (s : Surroundings) (p : Progress) (events : List Event) :
    List Event → Option (Request × Answer) → Prop
  | answered {before after : List Event} {request : Request} {takes : Duration}
      {log : List LogLine} {answer : Answer}
      (hevents : events = before ++ .sent request :: .waited takes :: .calledOff :: after)
      (hreply : s.transport (p.afterAll before).requests request =
        .answered takes true log answer) :
      FiresAt s p events before (some (request, answer))
  | unanswered {before after : List Event} {request : Request} {takes : Duration}
      {log : List LogLine}
      (hevents : events =
        before ++ .sent request :: .waited takes :: (log.map .logged ++ .calledOff :: after))
      (hreply : s.transport (p.afterAll before).requests request = .silent takes log) :
      FiresAt s p events before none
  | asleep {before after : List Event} {span : Duration}
      (hevents : events = before ++ .slept span :: .calledOff :: after) :
      FiresAt s p events before none

theorem FiresAt.append {s : Surroundings} {p : Progress} {events before : List Event}
    {inFlight : Option (Request × Answer)} (h : FiresAt s p events before inFlight)
    (more : List Event) : FiresAt s p (events ++ more) before inFlight := by
  cases h with
  | @answered after request takes log answer hevents hreply =>
    have hsplit : events ++ more =
        before ++ .sent request :: .waited takes :: .calledOff :: (after ++ more) := by
      rw [hevents, List.append_assoc]
      rfl
    exact .answered hsplit hreply
  | @unanswered after request takes log hevents hreply =>
    have hsplit : events ++ more =
        before ++ .sent request :: .waited takes ::
          (log.map .logged ++ .calledOff :: (after ++ more)) := by
      rw [hevents]
      simp
    exact .unanswered hsplit hreply
  | @asleep after span hevents =>
    have hsplit : events ++ more = before ++ .slept span :: .calledOff :: (after ++ more) := by
      rw [hevents, List.append_assoc]
      rfl
    exact .asleep hsplit

theorem FiresAt.prepend {s : Surroundings} {p : Progress} {first events before : List Event}
    {inFlight : Option (Request × Answer)}
    (h : FiresAt s (p.afterAll first) events before inFlight) :
    FiresAt s p (first ++ events) (first ++ before) inFlight := by
  cases h with
  | answered hevents hreply =>
    rw [← Progress.afterAll_append] at hreply
    exact .answered (by rw [hevents, List.append_assoc]) hreply
  | unanswered hevents hreply =>
    rw [← Progress.afterAll_append] at hreply
    exact .unanswered (by rw [hevents, List.append_assoc]) hreply
  | asleep hevents => exact .asleep (by rw [hevents, List.append_assoc])

/-- A line of the log may stand between. -/
theorem FiresAt.prepend_logged {s : Surroundings} {p : Progress} {first events before : List Event}
    {inFlight : Option (Request × Answer)} (line : LogLine)
    (h : FiresAt s (p.afterAll first) events before inFlight) :
    FiresAt s p (first ++ .logged line :: events) (first ++ .logged line :: before) inFlight := by
  have hlogged : FiresAt s (p.afterAll (first ++ [.logged line])) events before inFlight := by
    rw [Progress.afterAll_append]
    exact h
  have hprepend := hlogged.prepend
  rw [← List.append_cons, ← List.append_cons] at hprepend
  exact hprepend

/-- How something ends that is called off: as is made of the answer to the request in flight, which
starts at a place of a known kind, or as called off. -/
inductive EndsCalledOff {α : Type} (place : List Event → Prop) (settle : Answer → Except Stop α)
    (cancelled : Error) (s : Surroundings) (p : Progress) (events : List Event)
    (result : Except Stop α) : Prop
  | answered {before : List Event} {request : Request} {answer : Answer} (hplace : place before)
      (hfires : FiresAt s p events before (some (request, answer)))
      (hresult : result = settle answer)
  | unanswered {before : List Event} (hfires : FiresAt s p events before none)
      (hresult : result = .error (.failed cancelled))

namespace EndsCalledOff

variable {α : Type} {place place' : List Event → Prop} {settle : Answer → Except Stop α}
  {cancelled : Error} {s : Surroundings} {p : Progress} {first events : List Event}
  {result : Except Stop α}

theorem append (h : EndsCalledOff place settle cancelled s p events result) (more : List Event) :
    EndsCalledOff place settle cancelled s p (events ++ more) result := by
  cases h with
  | answered hplace hfires hresult => exact .answered hplace (hfires.append more) hresult
  | unanswered hfires hresult => exact .unanswered (hfires.append more) hresult

theorem prepend (h : EndsCalledOff place settle cancelled s (p.afterAll first) events result)
    (hplace : ∀ before, place before → place' (first ++ before)) :
    EndsCalledOff place' settle cancelled s p (first ++ events) result := by
  cases h with
  | answered hbefore hfires hresult => exact .answered (hplace _ hbefore) hfires.prepend hresult
  | unanswered hfires hresult => exact .unanswered hfires.prepend hresult

theorem prepend_logged (line : LogLine)
    (h : EndsCalledOff place settle cancelled s (p.afterAll first) events result)
    (hplace : ∀ before, place before → place' (first ++ .logged line :: before)) :
    EndsCalledOff place' settle cancelled s p (first ++ .logged line :: events) result := by
  cases h with
  | answered hbefore hfires hresult =>
    exact .answered (hplace _ hbefore) (hfires.prepend_logged line) hresult
  | unanswered hfires hresult => exact .unanswered (hfires.prepend_logged line) hresult

/-- What is made of the result is made of the settlement. -/
theorem map {β : Type} {settle' : Answer → Except Stop β} {cancelled' : Error}
    (h : EndsCalledOff place settle cancelled s p events result)
    (f : Except Stop α → Except Stop β) (hsettle : ∀ answer, f (settle answer) = settle' answer)
    (hcancelled : f (.error (.failed cancelled)) = .error (.failed cancelled')) :
    EndsCalledOff place settle' cancelled' s p events (f result) := by
  cases h with
  | answered hplace hfires hresult =>
    subst hresult
    exact .answered hplace hfires (hsettle _)
  | unanswered hfires hresult =>
    subst hresult
    exact .unanswered hfires hcancelled

end EndsCalledOff

namespace Run

variable {α : Type} {s : Surroundings} {p : Progress}

/-! ## Requests -/

namespace RequestRun

variable {plan : RequestPlan α} {result : Except Stop α} {events : List Event}

theorem heeds (h : RequestRun plan s p result events) : Heeds p events := by
  cases h with
  | unsent => exact heeds_nil p
  | unaddressed => exact heeds_nil p
  | overrun hopen => exact .cons_of_open hopen (heeds_nil _)
  | unanswered hopen =>
    refine .cons_of_open hopen (.cons_of_open hopen ((heeds_logged _ _).append ?_))
    rw [Progress.afterAll_logged]
    exact .cons_of_open hopen (heeds_logged _ _)
  | @answered _ _ callsOff _ lines _ hopen =>
    refine .cons_of_open hopen (.cons_of_open hopen (Heeds.append ?_ (heeds_logged _ lines)))
    cases callsOff with
    | false => exact heeds_nil _
    | true => exact .cons_of_open hopen (heeds_nil _)

/-- A request that is called off ends as its answer says, or as called off when there is none. -/
theorem endsCalledOff (h : RequestRun plan s p result events) (hopen : p.isCalledOff = false)
    (hoff : (p.afterAll events).isCalledOff = true) :
    EndsCalledOff (· = []) (fun answer ↦ (plan.judge (.ok answer)).mapError .failed)
      plan.cancelled s p events result := by
  cases h with
  | unsent hcalled => simp [hopen] at hcalled
  | unaddressed => simp [hopen] at hoff
  | overrun => simp [Progress.after, hopen] at hoff
  | @unanswered url takes log lines _ _ hreply =>
    have hfires : FiresAt s p (.sent (plan.request url) :: .waited takes :: log.map .logged ++
        .calledOff :: lines.map .logged) [] none := .unanswered rfl hreply
    exact .unanswered hfires rfl
  | @answered url takes callsOff log lines answer _ _ hreply =>
    cases callsOff with
    | false => simp [Progress.after, hopen] at hoff
    | true => exact .answered rfl (.answered rfl hreply) rfl

end RequestRun

/-! ## Pauses -/

namespace PauseRun

variable {subject : WaitSubject} {span deadline : Duration} {result : Except Stop Unit}
  {events : List Event}

theorem heeds (h : PauseRun subject span deadline p result events) : Heeds p events := by
  cases h with
  | unnamed => exact heeds_nil p
  | calledOff => exact heeds_nil p
  | uncounted => exact heeds_nil p
  | interrupted hopen => exact .cons_of_open hopen (.cons_of_open hopen (heeds_nil _))
  | nothingLeft => exact heeds_nil p
  | slept _ hopen => exact .cons_of_open hopen (heeds_nil _)

/-- A pause that stops in the clock's range does so because it is called off, before it or in its
sleep. -/
theorem cases_of_error {stop : Stop}
    (h : PauseRun subject span deadline p (.error stop) events) (hclock : stop ≠ .clockOverrun) :
    stop = .failed subject.cancelled ∧
      (p.isCalledOff = true ∨ FiresAt s p events [] none) := by
  cases h with
  | unnamed => exact absurd rfl hclock
  | calledOff hoff => exact ⟨rfl, .inl hoff⟩
  | uncounted => exact absurd rfl hclock
  | interrupted => exact ⟨rfl, .inr (.asleep rfl)⟩

end PauseRun

/-! ## Waits -/

/-- What becomes of a wait that is called off in a poll, by the outcome of the poll. -/
def settleOff (cancelled : Error) : PollOutcome α → Except Stop α
  | .pending => .error (.failed cancelled)
  | .done value => .ok value
  | .failed error => .error (.failed error)

/-- What becomes of a wait that is called off in a poll, by the answer to the poll. -/
def settleAnswer (plan : RequestPlan (PollOutcome α)) (answer : Answer) : Except Stop α :=
  ((plan.judge (.ok answer)).mapError .failed).bind (settleOff plan.cancelled)

/-- A place behind the mark of a poll. -/
def IsPollPlace (before : List Event) : Prop := ∃ front, before = front ++ [.polled]

theorem IsPollPlace.append (first : List Event) {before : List Event} (h : IsPollPlace before) :
    IsPollPlace (first ++ before) := by
  obtain ⟨front, rfl⟩ := h
  exact ⟨first ++ front, (List.append_assoc _ _ _).symm⟩

/-- Polls that would start after the call to stop end as called off. -/
theorem PollsEnd.of_calledOff {policy : WaitPolicy} {subject : WaitSubject} {deadline : Duration}
    {poll : Nat → Run (PollOutcome α)} {index : Nat} {polls : UInt32} {result : Except Stop α}
    {events : List Event} (h : PollsEnd policy subject deadline poll s index p polls result events)
    (hoff : p.isCalledOff = true) (hclock : InRange result) :
    result = .error (.failed subject.cancelled) := by
  cases h with
  | calledOff => rfl
  | unnamed => exact absurd rfl hclock
  | expired hopen => simp [hopen] at hoff
  | stopped hopen => simp [hopen] at hoff
  | done hopen => simp [hopen] at hoff
  | failed hopen => simp [hopen] at hoff
  | interrupted hopen => simp [hopen] at hoff

section Waits

variable {policy : WaitPolicy} {subject : WaitSubject} {deadline : Duration}
  {x : Run (PollOutcome α)} {plan : RequestPlan (PollOutcome α)}
  (hplan : Follows (unlessCalledOff subject.cancelled x) plan)

include hplan

theorem PendingPolls.heeds {index count : Nat} {front : List Event}
    (h : PendingPolls policy subject deadline (fun _ ↦ x) s index p count front) :
    Heeds p front := by
  induction h with
  | none index p => exact heeds_nil p
  | @more index count p looking pausing rest hopen hearly hlook hpause hrest ih =>
    have hpoll : Heeds p (.polled :: looking) := .cons_of_open hopen (hplan hlook).heeds
    refine Heeds.append (hpoll.append hpause.heeds) ?_
    rw [Progress.afterAll_append]
    exact ih

theorem PollsEnd.heeds {index : Nat} {polls : UInt32} {result : Except Stop α}
    {events : List Event}
    (h : PollsEnd policy subject deadline (fun _ ↦ x) s index p polls result events) :
    Heeds p events := by
  cases h with
  | calledOff => exact heeds_nil p
  | unnamed => exact heeds_nil p
  | @expired line => exact heeds_logged p [line]
  | stopped hopen _ hlook => exact .cons_of_open hopen (hplan hlook).heeds
  | done hopen _ hlook => exact .cons_of_open hopen (hplan hlook).heeds
  | failed hopen _ hlook => exact .cons_of_open hopen (hplan hlook).heeds
  | @interrupted _ looking _ hopen _ hlook hpause =>
    have hpoll : Heeds p (.polled :: looking) := .cons_of_open hopen (hplan hlook).heeds
    exact hpoll.append hpause.heeds

theorem WaitRun.heeds {result : Except Stop α} {events : List Event}
    (h : WaitRun policy subject (fun _ ↦ x) s p result events) : Heeds p events := by
  cases h with
  | unnamed => exact heeds_nil p
  | refused => exact heeds_nil p
  | delayed _ hpause => exact hpause.heeds
  | polled _ hpause hpolls =>
    obtain ⟨count, front, last, hfront, hlast, rfl⟩ := hpolls
    exact hpause.heeds.append ((hfront.heeds hplan).append (hlast.heeds hplan))

variable (hcancelled : plan.cancelled = subject.cancelled)

include hcancelled

/-- A poll that is called off ends the wait as its answer says, or as called off. -/
theorem endsCalledOff_of_look {found : Except Stop (PollOutcome α)} {looking : List Event}
    (hlook : unlessCalledOff subject.cancelled x s p = (found, looking))
    (hopen : p.isCalledOff = false) (hoff : (p.afterAll looking).isCalledOff = true) :
    EndsCalledOff IsPollPlace (settleAnswer plan) subject.cancelled s p (.polled :: looking)
      (found.bind (settleOff subject.cancelled)) := by
  have hmark {before : List Event} {inFlight : Option (Request × Answer)}
      (hfires : FiresAt s (p.afterAll [.polled]) looking before inFlight) :
      FiresAt s p (.polled :: looking) ([.polled] ++ before) inFlight := hfires.prepend
  rw [← hcancelled]
  cases (hplan hlook).endsCalledOff hopen hoff with
  | answered hbefore hfires hresult =>
    subst hbefore hresult
    exact .answered ⟨[], rfl⟩ (hmark hfires) rfl
  | unanswered hfires hresult =>
    subst hresult
    exact .unanswered (hmark hfires) rfl

/-- Polls that settle nothing are called off in a request, and the wait ends as called off. -/
theorem PendingPolls.endsCalledOff {index count : Nat} {front : List Event}
    (h : PendingPolls policy subject deadline (fun _ ↦ x) s index p count front)
    (hopen : p.isCalledOff = false) (hoff : (p.afterAll front).isCalledOff = true) :
    EndsCalledOff IsPollPlace (settleAnswer plan) subject.cancelled s p front
      (.error (.failed subject.cancelled)) := by
  induction h with
  | none => simp [hopen] at hoff
  | @more index count p looking pausing rest _ hearly hlook hpause hrest ih =>
    -- A pause that ends well is not the place, so it is this poll or one of the rest.
    have hkept := hpause.afterAll_of_ok.2
    cases hlooked : (p.afterAll looking).isCalledOff with
    | true =>
      have hends := endsCalledOff_of_look hplan hcancelled hlook hopen hlooked
      exact (hends.append pausing).append rest
    | false =>
      rw [hlooked] at hkept
      rw [Progress.afterAll_append, Progress.afterAll_append] at hoff
      have hends := ih hkept hoff
      have hprogress : (p.afterAll looking).afterAll pausing =
          p.afterAll (.polled :: looking ++ pausing) := (Progress.afterAll_append _ _ _).symm
      rw [hprogress] at hends
      exact hends.prepend fun _ ↦ IsPollPlace.append _

/-- The end of the polls is called off in a request or in a pause. -/
theorem PollsEnd.endsCalledOff {index : Nat} {polls : UInt32} {result : Except Stop α}
    {events : List Event}
    (h : PollsEnd policy subject deadline (fun _ ↦ x) s index p polls result events)
    (hopen : p.isCalledOff = false) (hoff : (p.afterAll events).isCalledOff = true)
    (hclock : InRange result) :
    EndsCalledOff IsPollPlace (settleAnswer plan) subject.cancelled s p events result := by
  cases h with
  | calledOff hcalled => simp [hopen] at hcalled
  | unnamed => exact absurd rfl hclock
  | expired => simp [Progress.after, hopen] at hoff
  | stopped _ _ hlook => exact endsCalledOff_of_look hplan hcancelled hlook hopen hoff
  | done _ _ hlook => exact endsCalledOff_of_look hplan hcancelled hlook hopen hoff
  | failed _ _ hlook => exact endsCalledOff_of_look hplan hcancelled hlook hopen hoff
  | @interrupted stop looking pausing _ _ hlook hpause =>
    have hstop : stop ≠ .clockOverrun := fun h ↦ hclock (congrArg _ h)
    obtain ⟨rfl, hcause⟩ := hpause.cases_of_error hstop
    rcases hcause with hlooked | hfires
    · exact (endsCalledOff_of_look hplan hcancelled hlook hopen hlooked).append pausing
    · have hslept : FiresAt s (p.afterAll (.polled :: looking)) pausing [] none := hfires
      exact .unanswered hslept.prepend rfl

omit hplan hcancelled

/-- A wait that ends well has not started after the call to stop. -/
theorem WaitRun.isCalledOff_of_ok {value : α} {events : List Event}
    (h : WaitRun policy subject (fun _ ↦ x) s p (.ok value) events) : p.isCalledOff = false := by
  cases h with
  | @polled _ pausing _ _ _ _ hpolls =>
    obtain ⟨count, front, last, -, hlast, -⟩ := hpolls
    cases hlast with
    | done hopen =>
      cases hoff : p.isCalledOff with
      | false => rfl
      | true =>
        have hstart := Progress.isCalledOff_afterAll hoff pausing
        rw [Progress.isCalledOff_afterAll hstart front] at hopen
        cases hopen

/-- A wait that starts after the call to stop ends as called off. -/
theorem WaitRun.of_calledOff {result : Except Stop α} {events : List Event}
    (h : WaitRun policy subject (fun _ ↦ x) s p result events) (hoff : p.isCalledOff = true)
    (haccepted : ∀ error, p.elapsed < Clock.momentLimit → policy.deadline p.elapsed ≠ .error error)
    (hclock : InRange result) : result = .error (.failed subject.cancelled) := by
  cases h with
  | unnamed => exact absurd rfl hclock
  | refused hmoment hrefused => exact absurd hrefused (haccepted _ hmoment)
  | @delayed _ stop _ _ hpause =>
    have hstop : stop ≠ .clockOverrun := fun h ↦ hclock (congrArg _ h)
    rw [(hpause.cases_of_error (s := s) hstop).1]
  | @polled deadline pausing rest _ _ hpause hpolls =>
    have hstart : (p.afterAll pausing).isCalledOff = true :=
      Progress.isCalledOff_afterAll hoff pausing
    obtain ⟨count, front, last, hfront, hlast, rfl⟩ := hpolls
    exact hlast.of_calledOff (Progress.isCalledOff_afterAll hstart front) hclock

include hplan hcancelled

/-- A wait that is called off ends as the answer to the poll in flight says, unless the answer
leaves the matter open, and otherwise as called off. -/
theorem WaitRun.endsCalledOff {result : Except Stop α} {events : List Event}
    (h : WaitRun policy subject (fun _ ↦ x) s p result events) (hopen : p.isCalledOff = false)
    (hoff : (p.afterAll events).isCalledOff = true) (hclock : InRange result) :
    EndsCalledOff IsPollPlace (settleAnswer plan) subject.cancelled s p events result := by
  cases h with
  | unnamed => exact absurd rfl hclock
  | refused => simp [hopen] at hoff
  | @delayed _ stop _ _ hpause =>
    have hstop : stop ≠ .clockOverrun := fun h ↦ hclock (congrArg _ h)
    obtain ⟨rfl, hcause⟩ := hpause.cases_of_error hstop
    rcases hcause with hcalled | hfires
    · simp [hopen] at hcalled
    · exact .unanswered hfires rfl
  | @polled deadline pausing rest _ _ hpause hpolls =>
    have hstart : (p.afterAll pausing).isCalledOff = false := by
      rw [hpause.afterAll_of_ok.2, hopen]
    obtain ⟨count, front, last, hfront, hlast, rfl⟩ := hpolls
    rw [Progress.afterAll_append, Progress.afterAll_append] at hoff
    rw [← List.append_assoc]
    -- Called off in a pending poll, the polls after it do not start.
    cases hpending : ((p.afterAll pausing).afterAll front).isCalledOff with
    | true =>
      rw [hlast.of_calledOff hpending hclock]
      have hends := hfront.endsCalledOff hplan hcancelled hstart hpending
      exact (hends.prepend fun _ ↦ IsPollPlace.append _).append last
    | false =>
      have hends := hlast.endsCalledOff hplan hcancelled hpending hoff hclock
      rw [← Progress.afterAll_append] at hends
      exact hends.prepend fun _ ↦ IsPollPlace.append _

end Waits

end Run

end NamespaceLifecycle
