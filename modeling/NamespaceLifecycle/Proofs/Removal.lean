import NamespaceLifecycle.Proofs.Lifecycle
import NamespaceLifecycle.Proofs.Settlement

/-!
# When a namespace is gone

A removal yields a state in one way only: the namespace is known and has an address, the wait is
accepted before the request and after it, the request is granted, and a look that starts in time
and before the call to stop is the first to find something else than an object on its way, namely
that the namespace is gone. Then the identity is cleared and nothing else. Whatever else happens is
an error, also when the namespace does not exist any more as its removal is requested: only a look
may find it gone.
-/

namespace NamespaceLifecycle

/-! ## Early ends -/

/-- How a run ends that has no value: with an error of the operation; or the clock runs over, which
cannot name the moment, or cannot count the time until a reply. -/
inductive EndsEarly (s : Surroundings) (p : Progress) : Stop → List Event → Prop
  | failed (error : Error) (events : List Event) : EndsEarly s p (.failed error) events
  | unnamed {events : List Event} (hmoment : ¬(p.afterAll events).elapsed < Clock.momentLimit) :
      EndsEarly s p .clockOverrun events
  | uncounted {before : List Event} {request : Request}
      (hcount : ¬((p.afterAll before).replied s request).elapsed < Clock.countLimit) :
      EndsEarly s p .clockOverrun (before ++ [.sent request])

namespace EndsEarly

variable {s : Surroundings} {p : Progress} {stop : Stop} {first events : List Event}

theorem prepend (h : EndsEarly s (p.afterAll first) stop events) :
    EndsEarly s p stop (first ++ events) := by
  cases h with
  | failed error => exact .failed error _
  | unnamed hmoment =>
    rw [← Progress.afterAll_append] at hmoment
    exact .unnamed hmoment
  | uncounted hcount =>
    rw [← Progress.afterAll_append] at hcount
    rw [← List.append_assoc]
    exact .uncounted hcount

/-- In the range of the clock there is no early end but an error. -/
theorem exists_error_of_inRange {α : Type} (h : EndsEarly s p stop events)
    (hrange : Run.InRange (.error stop : Except Stop α)) : ∃ error, stop = .failed error := by
  cases h with
  | failed error => exact ⟨error, rfl⟩
  | unnamed => exact absurd rfl hrange
  | uncounted => exact absurd rfl hrange

end EndsEarly

namespace Run

variable {α : Type} {s : Surroundings} {p : Progress} {stop : Stop} {events : List Event}
  {policy : WaitPolicy} {subject : WaitSubject} {span deadline : Duration}
  {poll : Nat → Run (PollOutcome α)}

/-- A computation that can be called off has no other end without a value. -/
def Ends (x : Run α) : Prop :=
  ∀ ⦃s p error stop events⦄, unlessCalledOff error x s p = (.error stop, events) →
    EndsEarly s p stop events

theorem ends_of_forall {x : Run α}
    (h : ∀ ⦃s p stop events⦄, x s p = (.error stop, events) → stop ≠ .abandoned →
      EndsEarly s p stop events) : Ends x := by
  intro s p error stop events hrun
  rcases unlessCalledOff_cases hrun with ⟨-, hstop, -⟩ | ⟨-, -, hstop⟩ | ⟨-, hx, hstop⟩
  · cases hstop
    exact .failed error events
  · cases hstop
    exact .failed error events
  · exact h hx fun habandoned ↦ hstop (congrArg _ habandoned)

theorem ends_ofExcept (result : Except Error α) : Ends (ofExcept result) := by
  apply ends_of_forall
  intro s p stop events hrun _
  cases result with
  | error failure =>
    cases hrun
    exact .failed failure []
  | ok a => cases hrun

theorem IsExchange.ends {request : Request} {judge : Answer → Except Error α} {x : Run α}
    (hx : IsExchange request judge x) : Ends x := by
  apply ends_of_forall
  intro s p stop events hrun hstop
  rcases hx.of_error hrun with ⟨hcount, rfl, rfl⟩ | ⟨rfl, -⟩ | ⟨_, failure, -, -, rfl⟩
  · rw [← Progress.elapsed_replied] at hcount
    rw [← List.nil_append [Event.sent request]]
    exact .uncounted hcount
  · exact absurd rfl hstop
  · exact .failed failure events

theorem PauseRun.endsEarly (hdeadline : deadline < Clock.momentLimit)
    (h : PauseRun subject span deadline p (.error stop) events) : EndsEarly s p stop events := by
  cases h with
  | unnamed hmoment => exact .unnamed hmoment
  | calledOff => exact .failed _ _
  | uncounted hmoment hcount => exact absurd (plus_pauseSpan_lt span hdeadline hmoment) hcount
  | interrupted => exact .failed _ _

theorem PollsEnd.endsEarly (hdeadline : deadline < Clock.momentLimit) (hpoll : ∀ k, Ends (poll k))
    {index : Nat} {polls : UInt32}
    (h : PollsEnd policy subject deadline poll s index p polls (.error stop) events) :
    EndsEarly s p stop events := by
  cases h with
  | calledOff => exact .failed _ _
  | unnamed hmoment => exact .unnamed hmoment
  | expired => exact .failed _ _
  | @stopped _ looking _ _ hlook =>
    have hmarked : EndsEarly s (p.afterAll [.polled]) stop looking := hpoll index hlook
    exact hmarked.prepend
  | failed => exact .failed _ _
  | @interrupted _ looking pausing _ _ _ hpause =>
    have hmarked : EndsEarly s (p.afterAll (.polled :: looking)) stop pausing :=
      hpause.endsEarly hdeadline
    exact hmarked.prepend

theorem WaitRun.endsEarly (hpoll : ∀ k, Ends (poll k))
    (h : WaitRun policy subject poll s p (.error stop) events) : EndsEarly s p stop events := by
  cases h with
  | unnamed hmoment => exact .unnamed hmoment
  | refused => exact .failed _ _
  | delayed hdeadline hpause =>
    exact hpause.endsEarly (WaitPolicy.lt_of_deadline_eq_ok hdeadline).2
  | polled hdeadline hpause hpolls =>
    obtain ⟨_, front, rest, -, hend, rfl⟩ := hpolls
    have hended := hend.endsEarly (WaitPolicy.lt_of_deadline_eq_ok hdeadline).2 hpoll
    exact hended.prepend.prepend

end Run

namespace Endpoint

open Run

variable {e : Endpoint}

theorem remove_ends (identity : Identity) : Ends (e.remove identity) := by
  cases hurl : e.url identity.project (some identity.name) with
  | error error =>
    rw [remove_of_error hurl]
    exact ends_ofExcept (.error error)
  | ok url => exact (remove_isExchange hurl).ends

theorem pollDeleted_ends (identity : Identity) : Ends (e.pollDeleted identity) := by
  cases hurl : e.url identity.project (some identity.name) with
  | error error =>
    rw [pollDeleted_of_error hurl]
    exact ends_ofExcept (.ok (PollOutcome.failed error))
  | ok url => exact (pollDeleted_isExchange hurl).ends

end Endpoint

/-! ## Answers about a namespace that is being removed -/

namespace Answer

/-- The namespace is gone: it does not exist, or its object is in the last phase. -/
inductive IsGone : Answer → Prop
  | absent {error : TransportError} (hnone : error.isNotFound = true) : IsGone (.error error)
  | deleted {value : Json} {object : RemoteObject}
      (hobject : RemoteObject.ofJson value = .ok object)
      (hphase : Phase.normalize object.phase = Phase.deleted) : IsGone (.ok value)

/-- The namespace is still on its way: its object is in a phase on the way to the last one. -/
inductive IsPending : Answer → Prop
  | object {value : Json} {object : RemoteObject}
      (hobject : RemoteObject.ofJson value = .ok object)
      (hphase : Phase.classify object.phase Phase.deleted = .pending) : IsPending (.ok value)

end Answer

namespace Endpoint

/-- What an answer with an object means to one who waits for the removal. -/
theorem deletedOutcome_of_object {value : Json} {object : RemoteObject}
    (hobject : RemoteObject.ofJson value = .ok object) (identity : Identity) :
    deletedOutcome identity (found identity (.ok value)) =
      judged identity Phase.deleted object () := by
  simp only [found, objectOf, hobject, mapError_ok, deletedOutcome]

/-- An answer with another document ends the wait. -/
theorem deletedOutcome_of_malformed {value : Json} {cause : Json.DecodeError}
    (hobject : RemoteObject.ofJson value = .error cause) (identity : Identity) :
    deletedOutcome identity (found identity (.ok value)) =
      .failed (.transport .reading identity.project identity.name (.decode cause)) := by
  simp only [found, objectOf, hobject]
  rfl

theorem deletedOutcome_eq_pending_iff (identity : Identity) (answer : Answer) :
    deletedOutcome identity (found identity answer) = .pending ↔ answer.IsPending := by
  constructor
  · intro h
    cases answer with
    | error error =>
      simp only [found, objectOf, mapError_error, deletedOutcome] at h
      split at h <;> cases h
    | ok value =>
      cases hobject : RemoteObject.ofJson value with
      | error cause =>
        rw [deletedOutcome_of_malformed hobject] at h
        cases h
      | ok object =>
        rw [deletedOutcome_of_object hobject, judged_eq_pending_iff] at h
        exact .object hobject h
  · rintro ⟨hobject, hphase⟩
    rw [deletedOutcome_of_object hobject, judged_eq_pending_iff]
    exact hphase

theorem deletedOutcome_eq_done_iff (identity : Identity) (answer : Answer) :
    deletedOutcome identity (found identity answer) = .done () ↔ answer.IsGone := by
  have htarget : Phase.normalize Phase.deleted ≠ Phase.error := by
    rw [normalize_deleted]
    decide
  constructor
  · intro h
    cases answer with
    | error error =>
      simp only [found, objectOf, mapError_error, deletedOutcome, Error.ofTransport] at h
      by_cases hnone : error.isNotFound = true
      · exact .absent hnone
      · rw [if_neg hnone] at h
        cases h
    | ok value =>
      cases hobject : RemoteObject.ofJson value with
      | error cause =>
        rw [deletedOutcome_of_malformed hobject] at h
        cases h
      | ok object =>
        rw [deletedOutcome_of_object hobject, judged_eq_done_iff,
          classify_eq_succeeded_iff htarget, normalize_deleted] at h
        exact .deleted hobject h.1
  · rintro (hnone | ⟨hobject, hphase⟩)
    · simp only [found, objectOf, mapError_error, deletedOutcome, Error.ofTransport, if_pos hnone]
      rfl
    · rw [deletedOutcome_of_object hobject, judged_eq_done_iff,
        classify_eq_succeeded_iff htarget, normalize_deleted]
      exact ⟨hphase, rfl⟩

end Endpoint

namespace Manager

open Run

variable {m : Manager} {s : Surroundings} {p : Progress}

/-- The namespace of a state is gone, as the look with the given number finds. -/
structure IsGoneAt (m : Manager) (state : State) (s : Surroundings) (p : Progress)
    (identity : Identity) (url : Url) (deadline : Duration) (k : Nat) : Prop where
  /-- The state has an identity. -/
  identified : ∃ id, state.id = some id ∧ Identity.decode id = .ok identity
  /-- The namespace has an address. -/
  addressed : m.endpoint.url identity.project (some identity.name) = .ok url
  /-- A wait could start before the request for removal. -/
  accepted : ∃ moment, m.deletePolicy.deadline p.elapsed = .ok moment
  /-- The request is granted. -/
  granted : ∃ value, s.Answers p ⟨.delete, url, none⟩ (.ok value)
  /-- The wait starts when the request is granted, and is over at the deadline. -/
  started : m.deletePolicy.deadline (p.replied s ⟨.delete, url, none⟩).elapsed = .ok deadline
  /-- A look in time and before the call to stop is the first that does not find an object on its
  way, and finds the namespace gone. -/
  settled : (Wait.mk m.deletePolicy ⟨identity, "deleted"⟩ deadline ⟨.get, url, none⟩ s
    (p.replied s ⟨.delete, url, none⟩)).SettledAt Answer.IsPending Answer.IsGone k

/-- What the removal of a namespace makes of its state. -/
structure RemovesExactly (m : Manager) (state : State) (s : Surroundings) (p : Progress)
    (result : Except Stop State) (events : List Event) : Prop where
  /-- It yields a state exactly when the namespace is found gone, and then the same state without
  its identity. -/
  yields : ∀ view, result = .ok view ↔
    (∃ identity url deadline k, m.IsGoneAt state s p identity url deadline k) ∧
      view = { state with id := none }
  /-- Otherwise it ends with an error, in the range of the clock. -/
  fails : (¬∃ identity url deadline k, m.IsGoneAt state s p identity url deadline k) →
    Run.InRange result → ∃ error, result = .error (.failed error)
  overruns : ¬Run.InRange result → EndsEarly s p .clockOverrun events
  /-- A request for removal that is answered by an error fails for that reason, also when the
  namespace does not exist, and nothing is sent after it. -/
  ungranted : ∀ id identity url moment error, state.id = some id →
    Identity.decode id = .ok identity →
    m.endpoint.url identity.project (some identity.name) = .ok url →
    m.deletePolicy.deadline p.elapsed = .ok moment → p.isCalledOff = false →
    s.Answers p ⟨.delete, url, none⟩ (.error error) →
    result = .error (.failed (.ofTransport .deleting identity.project identity.name error)) ∧
      requestsIn events = [⟨.delete, url, none⟩]

theorem awaitDeleted_eq_ok_iff {e : Endpoint} {policy : WaitPolicy} {identity : Identity}
    {url : Url} (hurl : e.url identity.project (some identity.name) = .ok url) :
    (e.awaitDeleted policy identity s p).1 = .ok () ↔
      ∃ deadline k, policy.deadline p.elapsed = .ok deadline ∧
        (Wait.mk policy ⟨identity, "deleted"⟩ deadline ⟨.get, url, none⟩ s p).SettledAt
          Answer.IsPending Answer.IsGone k := by
  refine (waitUntil_eq_ok_iff (Endpoint.pollDeleted_isExchange hurl)).trans ?_
  simp only [Endpoint.deletedOutcome_eq_pending_iff, Endpoint.deletedOutcome_eq_done_iff]

/-- A removal that yields a state has found the namespace gone. -/
theorem isGoneAt_of_delete {state view : State} {events : List Event}
    (h : m.delete state s p = (.ok view, events)) :
    (∃ identity url deadline k, m.IsGoneAt state s p identity url deadline k) ∧
      view = { state with id := none } := by
  cases delete_run h with
  | @removed identity deadline _ _ first waiting hidentity hdeadline hremove hwait =>
    refine ⟨?_, rfl⟩
    obtain ⟨url, value, hurl, -⟩ := removal_of_ok hremove
    obtain ⟨-, ⟨answer, hanswer, hgranted⟩, hprogress⟩ :=
      (Endpoint.remove_isExchange hurl).answers_of_unlessCalledOff hremove
    rw [hprogress] at hwait
    obtain ⟨moment, k, hstarted, hsettled⟩ :=
      (awaitDeleted_eq_ok_iff hurl).1 (congrArg Prod.fst hwait)
    cases answer with
    | error error => cases hgranted
    | ok value =>
      exact ⟨identity, url, moment, k, identityOf_eq_ok_iff.1 hidentity, hurl, ⟨_, hdeadline⟩,
        ⟨value, hanswer⟩, hstarted, hsettled⟩

/-- Where the namespace is found gone, its removal yields the state without its identity. -/
theorem delete_of_isGoneAt {state : State} {identity : Identity} {url : Url} {deadline : Duration}
    {k : Nat} (h : m.IsGoneAt state s p identity url deadline k) :
    (m.delete state s p).1 = .ok { state with id := none } := by
  obtain ⟨moment, haccepted⟩ := h.accepted
  obtain ⟨value, hanswer⟩ := h.granted
  have hknown := identityOf_eq_ok_iff.2 h.identified
  have hopen := Progress.open_of_replied (Wait.open_of_standing h.settled.uncalled).1
  have hexchange := Endpoint.remove_isExchange h.addressed
  obtain ⟨first, hgranted, -⟩ := hexchange.unlessCalledOff_of_answers hopen hanswer
    (.cancelled identity.project identity.name "deleted")
  obtain ⟨-, -, hprogress⟩ := hexchange.answers_of_unlessCalledOff hgranted
  have hgone := (awaitDeleted_eq_ok_iff h.addressed).2 ⟨deadline, k, h.started, h.settled⟩
  rw [← hprogress] at hgone
  rcases hrun : m.delete state s p with ⟨result, events⟩
  cases delete_run hrun with
  | unidentified hnone => cases hknown.symm.trans hnone
  | unnamed hmoment => exact absurd (WaitPolicy.lt_of_deadline_eq_ok haccepted).1 hmoment
  | refused hrefused => cases haccepted.symm.trans hrefused
  | unremoved hidentity _ hremove =>
    cases hknown.symm.trans hidentity
    cases hgranted.symm.trans hremove
  | unfinished hidentity _ hremove hwait =>
    cases hknown.symm.trans hidentity
    cases hgranted.symm.trans hremove
    rw [hwait] at hgone
    cases hgone
  | removed => rfl

theorem delete_endsEarly {state : State} {stop : Stop} {events : List Event}
    (h : m.delete state s p = (.error stop, events)) : EndsEarly s p stop events := by
  cases delete_run h with
  | unidentified => exact .failed _ _
  | unnamed hmoment => exact .unnamed hmoment
  | refused => exact .failed _ _
  | unremoved _ _ hremove => exact Endpoint.remove_ends _ hremove
  | @unfinished _ _ _ line first waiting _ _ _ hwait =>
    have hended : EndsEarly s ((p.afterAll first).afterAll [.logged line]) stop waiting :=
      (waitUntil_run hwait).endsEarly fun _ ↦ Endpoint.pollDeleted_ends _
    rw [← List.singleton_append]
    exact hended.prepend.prepend

/-- A request for removal that is answered by an error ends the removal. -/
theorem delete_of_ungranted {state : State} {identity : Identity} {url : Url} {moment : Duration}
    {error : TransportError} (hidentity : identityOf state = .ok identity)
    (hurl : m.endpoint.url identity.project (some identity.name) = .ok url)
    (haccepted : m.deletePolicy.deadline p.elapsed = .ok moment) (hopen : p.isCalledOff = false)
    (hanswer : s.Answers p ⟨.delete, url, none⟩ (.error error)) {result : Except Stop State}
    {events : List Event} (h : m.delete state s p = (result, events)) :
    result = .error (.failed (.ofTransport .deleting identity.project identity.name error)) ∧
      requestsIn events = [⟨.delete, url, none⟩] := by
  obtain ⟨first, hungranted, hsent⟩ :=
    (Endpoint.remove_isExchange hurl).unlessCalledOff_of_answers hopen hanswer
      (.cancelled identity.project identity.name "deleted")
  cases delete_run h with
  | unidentified hnone => cases hidentity.symm.trans hnone
  | unnamed hmoment => exact absurd (WaitPolicy.lt_of_deadline_eq_ok haccepted).1 hmoment
  | refused hrefused => cases haccepted.symm.trans hrefused
  | unremoved hidentity' _ hremove =>
    cases hidentity.symm.trans hidentity'
    cases hungranted.symm.trans hremove
    exact ⟨rfl, hsent⟩
  | unfinished hidentity' _ hremove =>
    cases hidentity.symm.trans hidentity'
    cases hungranted.symm.trans hremove
  | removed hidentity' _ hremove =>
    cases hidentity.symm.trans hidentity'
    cases hungranted.symm.trans hremove

/-- The removal of a namespace clears its identity exactly when the namespace is found gone. -/
theorem delete_removesExactly (m : Manager) (state : State) (s : Surroundings) (p : Progress) :
    m.RemovesExactly state s p (m.delete state s p).1 (m.delete state s p).2 where
  yields view := by
    constructor
    · intro hok
      exact isGoneAt_of_delete (Prod.ext hok rfl)
    · rintro ⟨⟨identity, url, deadline, k, hgone⟩, rfl⟩
      exact delete_of_isGoneAt hgone
  fails hkept hrange := by
    cases hresult : (m.delete state s p).1 with
    | error stop =>
      rw [hresult] at hrange
      obtain ⟨error, rfl⟩ :=
        (delete_endsEarly (Prod.ext hresult rfl)).exists_error_of_inRange hrange
      exact ⟨error, rfl⟩
    | ok view => exact absurd (isGoneAt_of_delete (Prod.ext hresult rfl)).1 hkept
  overruns hrange := delete_endsEarly (Prod.ext (not_inRange_iff.1 hrange) rfl)
  ungranted id identity url moment error hid hidentity hurl haccepted hopen hanswer :=
    delete_of_ungranted (identityOf_eq_ok_iff.2 ⟨id, hid, hidentity⟩) hurl haccepted hopen hanswer
      (Prod.eta _).symm

/-- A namespace that does not exist is gone for a look, but cannot be removed. -/
example :
    let m : Manager := ⟨⟨"https://vcfa.example.com", .ascii⟩, .usual, .usual⟩
    let state : State := { State.empty with id := some "shop:dev-1", phase := "CREATED" }
    let absent : Answer := .error (.notFound .get "")
    let answer (sent : Nat) : Answer := if sent = 0 then .ok .null else absent
    let granting : Surroundings :=
      ⟨fun sent _ ↦ .answered .zero false [] (answer sent), fun _ ↦ false⟩
    (m.delete state granting .start).1 = .ok { State.empty with phase := "CREATED" } ∧
      (m.delete state (.always absent) .start).1 =
        .error (.failed (.notFound .deleting "shop" "dev-1")) := by
  decide +kernel

end Manager

end NamespaceLifecycle
