import NamespaceLifecycle.Proofs.CallingOff
import NamespaceLifecycle.Proofs.Creation
import NamespaceLifecycle.Proofs.Refusal

/-!
# The request in flight

Where a call stands when it is called off is the step whose request is in flight. The answer to that
request ends the call, or leaves the matter open because more was to follow: the wait after a
submission or a removal, another poll, or the last reading of a namespace that is found made. A call
that is called off ends by the answer where the answer comes and ends it, and otherwise as called
off; the making of a namespace that was found made keeps its identity in that failure.
-/

namespace NamespaceLifecycle

def Error.IsCancelled (error : Error) : Prop :=
  ∃ project name target, error = .cancelled project name target

/-- A poll of a run finds the namespace made. -/
def FoundMade (s : Surroundings) (p : Progress) (events : List Event) (object : RemoteObject) :
    Prop :=
  ∃ value, PollAnswered s p events (.ok value) ∧ RemoteObject.ofJson value = .ok object ∧
    Phase.normalize object.phase = Phase.created

namespace Manager

open Run

variable {m : Manager} {s : Surroundings} {p : Progress}

/-! ## The request in flight -/

/-- The steps of a call in which a request is in flight, with what is known in each. -/
inductive Step where
  | submitting (config : State)
  | awaitingCreated (identity : Identity)
  | readingBack (config : State) (identity : Identity) (created : State)
  | removing (identity : Identity)
  | awaitingDeleted (state : State) (identity : Identity)
  | reading (state : State) (identity : Identity)
  | importing (identity : Identity)

/-- The end of the making of a namespace, by what the last reading yields. -/
def readBackEnding (config created : State) : Except Error State → Except Error State
  | .ok refreshed => .ok { refreshed with namePrefix := config.namePrefix }
  | .error source => .error (.createdUnread created source)

/-- How a call ends by the answer to the request in flight; none when more was to follow. -/
def Step.ending? : Step → Answer → Option (Except Error State)
  | .submitting config, answer =>
    match Endpoint.submitted config.projectName config.toObject answer with
    | .error error => some (.error error)
    | .ok _ => none
  | .awaitingCreated identity, answer =>
    match identity.createdVerdict? answer with
    | some (.error error) => some (.error error)
    | _ => none
  | .readingBack config identity created, answer =>
    some (readBackEnding config created ((Endpoint.found identity answer).bind identity.view))
  | .removing identity, answer =>
    match Endpoint.removed identity answer with
    | .error error => some (.error error)
    | .ok _ => none
  | .awaitingDeleted state identity, answer =>
    (identity.deletedVerdict? answer).map fun verdict ↦
      verdict.map fun _ ↦ { state with id := none }
  | .reading state identity, answer =>
    some (((Endpoint.found identity answer).bind identity.view).map (keepPrefix state))
  | .importing identity, answer =>
    some (((Endpoint.found identity answer).bind identity.view).mapError importError)

/-- Where a call stands with a request in flight, by what happened before the request: first comes
the submission or the removal; a poll stands behind its mark; and a request of a creation that is
neither is the last reading. -/
inductive IsAt (m : Manager) (s : Surroundings) (p : Progress) : Call → List Event → Step → Prop
  | submitting (config : State) : IsAt m s p (.create config) [] (.submitting config)
  | awaitingCreated {config : State} {before : List Event} {name : String}
      (hplace : IsPollPlace before) (hsubmitted : m.SubmittedAs config s p before name) :
      IsAt m s p (.create config) before (.awaitingCreated ⟨config.projectName, name⟩)
  | readingBack {config : State} {before : List Event} {name id : String} {object : RemoteObject}
      (hplace : ¬IsPollPlace before) (hsubmitted : m.SubmittedAs config s p before name)
      (hmade : FoundMade s p before object)
      (hid : Identity.encode ⟨config.projectName, name⟩ = .ok id) :
      IsAt m s p (.create config) before
        (.readingBack config ⟨config.projectName, name⟩ (createdState config id name object))
  | removing {state : State} {identity : Identity} (hidentity : identityOf state = .ok identity) :
      IsAt m s p (.delete state) [] (.removing identity)
  | awaitingDeleted {state : State} {identity : Identity} {before : List Event}
      (hplace : IsPollPlace before) (hidentity : identityOf state = .ok identity) :
      IsAt m s p (.delete state) before (.awaitingDeleted state identity)
  | reading {state : State} {identity : Identity} (hidentity : identityOf state = .ok identity) :
      IsAt m s p (.read state) [] (.reading state identity)
  | importing {key : String} {identity : Identity}
      (hidentity : Identity.ofImportKey key = .ok identity) :
      IsAt m s p (.importKey key) [] (.importing identity)

/-- A call ends as called off: a namespace that was found made keeps its identity, and otherwise
nothing more is said. -/
inductive Halted (m : Manager) (s : Surroundings) (p : Progress) :
    Call → List Event → Except Stop State → Prop
  | cancelled {call : Call} {events : List Event} {error : Error} (herror : error.IsCancelled)
      (hunmade : ∀ config, call = .create config → ∀ object, ¬FoundMade s p events object) :
      Halted m s p call events (.error (.failed error))
  | unread {config : State} {events : List Event} {name id : String} {object : RemoteObject}
      {source : Error} (hsubmitted : m.SubmittedAs config s p events name)
      (hmade : FoundMade s p events object)
      (hid : Identity.encode ⟨config.projectName, name⟩ = .ok id) (hsource : source.IsCancelled) :
      Halted m s p (.create config) events
        (.error (.failed (.createdUnread (createdState config id name object) source)))

/-- How a call ends that is called off after its start: by the answer to the request in flight, when
the answer comes and ends the call, and otherwise as called off. -/
inductive Concludes (m : Manager) (s : Surroundings) (p : Progress) (call : Call)
    (events : List Event) (result : Except Stop State) : Prop
  | decided {before : List Event} {request : Request} {answer : Answer} {step : Step}
      {ending : Except Error State} (hfires : FiresAt s p events before (some (request, answer)))
      (hstep : m.IsAt s p call before step) (hending : step.ending? answer = some ending)
      (hresult : result = ending.mapError .failed)
  | undecided {before : List Event} {request : Request} {answer : Answer} {step : Step}
      (hfires : FiresAt s p events before (some (request, answer)))
      (hstep : m.IsAt s p call before step) (hending : step.ending? answer = none)
      (hhalted : m.Halted s p call events result)
  | unanswered {before : List Event} (hfires : FiresAt s p events before none)
      (hhalted : m.Halted s p call events result)

/-- A call concludes where the part of it that is called off does, by what its end makes of the
call. -/
theorem concludes_of_endsCalledOff {α : Type} {place : List Event → Prop}
    {settle : Answer → Except Stop α} {cancelled : Error} {call : Call} {events : List Event}
    {found : Except Stop α} {result : Except Stop State} (step : Step)
    (hends : EndsCalledOff place settle cancelled s p events found)
    (hstep : ∀ before, place before → m.IsAt s p call before step)
    (hsettled : ∀ answer, found = settle answer →
      (∃ ending, step.ending? answer = some ending ∧ result = ending.mapError .failed) ∨
        step.ending? answer = none ∧ m.Halted s p call events result)
    (hhalted : found = .error (.failed cancelled) → m.Halted s p call events result) :
    m.Concludes s p call events result := by
  cases hends with
  | @answered before request answer hplace hfires hfound =>
    rcases hsettled answer hfound with ⟨ending, hending, hresult⟩ | ⟨hending, hrest⟩
    · exact .decided hfires (hstep before hplace) hending hresult
    · exact .undecided hfires (hstep before hplace) hending hrest
  | unanswered hfires hfound => exact .unanswered hfires (hhalted hfound)

/-- A call that is called off in its first request ends by the answer that refuses it; an answer
that grants it leaves the matter open. -/
theorem concludes_of_first {α : Type} {granted : Answer → Except Error α} {cancelled : Error}
    {call : Call} {first more : List Event} {found : Except Stop α} {result : Except Stop State}
    (step : Step) (hstep : m.IsAt s p call [] step)
    (hends : EndsCalledOff (· = []) (fun answer ↦ (granted answer).mapError .failed) cancelled s p
      first found)
    (hrefused : ∀ answer error, granted answer = .error error →
      step.ending? answer = some (.error error))
    (hgranted : ∀ answer value, granted answer = .ok value → step.ending? answer = none)
    (hstopped : ∀ stop, found = .error stop → result = .error stop)
    (hhalted : (∃ value, found = .ok value) ∨ found = .error (.failed cancelled) →
      m.Halted s p call (first ++ more) result) :
    m.Concludes s p call (first ++ more) result := by
  refine concludes_of_endsCalledOff step (hends.append more) ?_ ?_ ?_
  · rintro _ rfl
    exact hstep
  · intro answer hfound
    cases hanswer : granted answer with
    | ok value =>
      rw [hanswer] at hfound
      exact .inr ⟨hgranted answer value hanswer, hhalted (.inl ⟨value, hfound⟩)⟩
    | error error =>
      rw [hanswer] at hfound
      exact .inl ⟨.error error, hrefused answer error hanswer, hstopped _ hfound⟩
  · exact fun hfound ↦ hhalted (.inr hfound)

/-! ## Making a namespace -/

section Creating

variable {config : State} {submitted : RemoteObject} {first waiting : List Event} {line : LogLine}

theorem not_foundMade_of_submission {found : Except Stop RemoteObject}
    (hsubmit : m.submission config s p = (found, first)) (object : RemoteObject) :
    ¬FoundMade s p first object := by
  rintro ⟨value, hpoll, -⟩
  have hquiet : Event.polled ∉ first :=
    fun hmem ↦ submission_emits Endpoint.admits_ne_polled config hsubmit _ hmem rfl
  exact not_pollAnswered_of_not_mem hquiet hpoll

/-- A wait that stops has not found the namespace made. -/
theorem not_foundMade_of_unfinished {policy : WaitPolicy} {stop : Stop}
    (hsubmit : m.submission config s p = (.ok submitted, first))
    (hwait : m.endpoint.awaitCreated policy ⟨config.projectName, submitted.name⟩ s
      (p.afterAll first) = (.error stop, waiting)) (object : RemoteObject) :
    ¬FoundMade s p (first ++ .logged line :: waiting) object := by
  rintro ⟨value, hpoll, hobject, hphase⟩
  have hquiet : Event.polled ∉ first ++ [.logged line] := by
    intro hmem
    rcases List.mem_append.1 hmem with hmem | hmem
    · exact submission_emits Endpoint.admits_ne_polled config hsubmit _ hmem rfl
    · simp at hmem
  rw [List.append_cons] at hpoll
  have hwaited := hpoll.of_append_left hquiet
  rw [Progress.afterAll_append] at hwaited
  have hmade := Endpoint.awaitCreated_of_pollAnswered hwait hwaited hobject hphase
  cases hmade

/-- A wait that ends well has found the namespace made. -/
theorem foundMade_of_made {policy : WaitPolicy} {object : RemoteObject}
    (hwait : m.endpoint.awaitCreated policy ⟨config.projectName, submitted.name⟩ s
      (p.afterAll first) = (.ok object, waiting)) (more : List Event) :
    FoundMade s p (first ++ .logged line :: waiting ++ more) object := by
  obtain ⟨value, hpoll, hobject, hphase⟩ := Endpoint.pollAnswered_of_awaitCreated hwait
  exact ⟨value, hpoll.append_logged line more, hobject, hphase⟩

/-- A submission that is called off ends the call where it is refused, and leaves the matter open
where it is granted. -/
theorem concludes_of_submission {found : Except Stop RemoteObject} {more : List Event}
    {result : Except Stop State} (hsubmit : m.submission config s p = (found, first))
    (hopen : p.isCalledOff = false) (hoff : (p.afterAll first).isCalledOff = true)
    (hstopped : ∀ stop, found = .error stop → result = .error stop)
    (hhalted : (∃ object, found = .ok object) ∨
      found = .error (.failed (m.submissionPlan config).cancelled) →
      m.Halted s p (.create config) (first ++ more) result) :
    m.Concludes s p (.create config) (first ++ more) result := by
  have hends : EndsCalledOff (· = [])
      (fun answer ↦ (Endpoint.submitted config.projectName config.toObject answer).mapError .failed)
      (m.submissionPlan config).cancelled s p first found :=
    (submission_follows config hsubmit).endsCalledOff hopen hoff
  refine concludes_of_first (.submitting config) (.submitting config) hends ?_ ?_ hstopped hhalted
  · exact fun answer error hrefused ↦ by simp only [Step.ending?, hrefused]
  · exact fun answer object hgranted ↦ by simp only [Step.ending?, hgranted]

/-- What a wait is refused for is known before the submission, unless the wait is refused late. -/
theorem deadline_ne_error_of_submission {deadline : Duration}
    (hrange : ¬m.RefusesLate s p (.create config)) (hvalid : config.validate = .ok ())
    (hdeadline : m.createPolicy.deadline p.elapsed = .ok deadline)
    (hsubmit : m.submission config s p = (.ok submitted, first)) (error : Error)
    (hmoment : (p.afterAll first).elapsed < Clock.momentLimit) :
    m.createPolicy.deadline (p.afterAll first).elapsed ≠ .error error := by
  intro hrefused
  have hlate := WaitPolicy.isLate_of_deadline hdeadline hmoment hrefused
  exact hrange (refusesLate_of_submission hvalid hdeadline hsubmit hlate)

/-- What the answer to a poll makes of a wait that is called off. -/
theorem settleAnswer_createdPollPlan (e : Endpoint) (identity : Identity) (answer : Answer) :
    settleAnswer (e.createdPollPlan identity) answer =
      settleOff (.cancelled identity.project identity.name "created")
        (Endpoint.createdOutcome identity (Endpoint.found identity answer)) := rfl

theorem ending?_awaitingCreated (identity : Identity) (answer : Answer) :
    (Step.awaitingCreated identity).ending? answer =
      match Endpoint.createdOutcome identity (Endpoint.found identity answer) with
      | .failed error => some (.error error)
      | _ => none := by
  rw [Step.ending?, ← Endpoint.createdOutcome_verdict?]
  cases Endpoint.createdOutcome identity (Endpoint.found identity answer) <;> rfl

/-- A creation that is called off in its wait ends by the poll that fails; a pending poll, and one
that finds the namespace made, leave the matter open. -/
theorem concludes_of_awaitCreated {policy : WaitPolicy} {found : Except Stop RemoteObject}
    {more : List Event} {result : Except Stop State}
    (hsubmit : m.submission config s p = (.ok submitted, first))
    (hwait : m.endpoint.awaitCreated policy ⟨config.projectName, submitted.name⟩ s
      (p.afterAll first) = (found, waiting))
    (hopen : (p.afterAll first).isCalledOff = false)
    (hoff : ((p.afterAll first).afterAll waiting).isCalledOff = true)
    (hclock : InRange found)
    (hstopped : ∀ stop, found = .error stop → result = .error stop)
    (hhalted : (∃ object, found = .ok object) ∨
      found = .error (.failed (.cancelled config.projectName submitted.name "created")) →
      m.Halted s p (.create config) (first ++ .logged line :: waiting ++ more) result) :
    m.Concludes s p (.create config) (first ++ .logged line :: waiting ++ more) result := by
  have hwaited := (waitUntil_run hwait).endsCalledOff (Endpoint.pollCreated_follows _) rfl hopen
    hoff hclock
  have hplace {before : List Event} (hbefore : IsPollPlace before) :
      IsPollPlace (first ++ .logged line :: before) := by
    rw [List.append_cons]
    exact hbefore.append _
  have hends : EndsCalledOff
      (fun before ↦ IsPollPlace before ∧ m.SubmittedAs config s p before submitted.name) _ _ s p
      (first ++ .logged line :: waiting) found :=
    hwaited.prepend_logged line fun _ hbefore ↦ ⟨hplace hbefore, submittedAs_of_ok hsubmit⟩
  refine concludes_of_endsCalledOff (.awaitingCreated ⟨config.projectName, submitted.name⟩)
    (hends.append more) ?_ ?_ ?_
  · exact fun before hbefore ↦ .awaitingCreated hbefore.1 hbefore.2
  · intro answer hfound
    have hending := ending?_awaitingCreated ⟨config.projectName, submitted.name⟩ answer
    rw [settleAnswer_createdPollPlan] at hfound
    cases houtcome : Endpoint.createdOutcome ⟨config.projectName, submitted.name⟩
        (Endpoint.found ⟨config.projectName, submitted.name⟩ answer) with
    | pending =>
      rw [houtcome] at hfound hending
      exact .inr ⟨hending, hhalted (.inr hfound)⟩
    | done object =>
      rw [houtcome] at hfound hending
      exact .inr ⟨hending, hhalted (.inl ⟨object, hfound⟩)⟩
    | failed error =>
      rw [houtcome] at hfound hending
      exact .inl ⟨.error error, hending, hstopped _ hfound⟩
  · exact fun hfound ↦ hhalted (.inr hfound)

/-- A creation that is called off before its wait ends, and has not found the namespace made. -/
theorem concludes_of_unfinished {deadline : Duration} {stop : Stop}
    (hrange : ¬m.RefusesLate s p (.create config)) (hvalid : config.validate = .ok ())
    (hdeadline : m.createPolicy.deadline p.elapsed = .ok deadline)
    (hsubmit : m.submission config s p = (.ok submitted, first))
    (hwait : m.endpoint.awaitCreated m.createPolicy ⟨config.projectName, submitted.name⟩ s
      (p.afterAll first) = (.error stop, waiting))
    (hclock : stop ≠ .clockOverrun) (hopen : p.isCalledOff = false)
    (hoff : (p.afterAll (first ++ .logged line :: waiting)).isCalledOff = true) :
    m.Concludes s p (.create config) (first ++ .logged line :: waiting) (.error stop) := by
  have hresult : (Except.error stop : Except Stop RemoteObject) ≠ .error .clockOverrun :=
    fun h ↦ hclock (Except.error.inj h)
  have hcancelled {error : Error} (herror : error.IsCancelled) :
      m.Halted s p (.create config) (first ++ .logged line :: waiting) (.error (.failed error)) :=
    .cancelled herror fun _ _ ↦ not_foundMade_of_unfinished hsubmit hwait
  rw [Progress.afterAll_append] at hoff
  -- The call to stop comes in the submission, or in the wait.
  cases hfirst : (p.afterAll first).isCalledOff with
  | true =>
    have hstop := (waitUntil_run hwait).of_calledOff hfirst
      (deadline_ne_error_of_submission hrange hvalid hdeadline hsubmit) hresult
    cases hstop
    exact concludes_of_submission hsubmit hopen hfirst (by simp)
      fun _ ↦ hcancelled ⟨_, _, _, rfl⟩
  | false =>
    rw [← List.append_nil (first ++ _)] at hcancelled ⊢
    refine concludes_of_awaitCreated hsubmit hwait hfirst hoff hresult (by simp) ?_
    rintro (⟨_, hfound⟩ | hfound)
    · cases hfound
    · cases hfound
      exact hcancelled ⟨_, _, _, rfl⟩

/-- Reading back after the call to stop keeps what is known. -/
theorem readBack_of_calledOff {identity : Identity} {created : State}
    {result : Except Stop State} {events : List Event} (hoff : p.isCalledOff = true)
    (h : m.readBack config identity created s p = (result, events)) :
    result = .error (.failed (.createdUnread created
      (.cancelled identity.project identity.name "read"))) := by
  have hnothing := unlessCalledOff_of_calledOff (s := s) hoff
    (.cancelled identity.project identity.name "read") (m.refresh identity)
  cases readBack_run h with
  | read hread => cases hnothing.symm.trans hread
  | unread hread =>
    cases hnothing.symm.trans hread
    rfl
  | stopped hstop hread =>
    cases hnothing.symm.trans hread
    exact absurd rfl (hstop _)

def readBackResult (config created : State) : Except Stop State → Except Stop State
  | .ok refreshed => .ok { refreshed with namePrefix := config.namePrefix }
  | .error (.failed source) => .error (.failed (.createdUnread created source))
  | .error stop => .error stop

/-- Reading back that is called off ends as its answer says, or keeps what is known. -/
theorem readBack_endsCalledOff {identity : Identity} {created : State}
    {result : Except Stop State} {events : List Event}
    (h : m.readBack config identity created s p = (result, events)) (hopen : p.isCalledOff = false)
    (hoff : (p.afterAll events).isCalledOff = true) :
    EndsCalledOff (· = []) (fun answer ↦ (readBackEnding config created
        ((Endpoint.found identity answer).bind identity.view)).mapError .failed)
      (.createdUnread created (.cancelled identity.project identity.name "read")) s p events
      result := by
  have hread {found : Except Stop State} {looking : List Event}
      (hlook : cancellable identity "read" (m.refresh identity) s p = (found, looking))
      (hlooked : (p.afterAll looking).isCalledOff = true) :
      EndsCalledOff (· = []) (fun answer ↦ (readBackEnding config created
          ((Endpoint.found identity answer).bind identity.view)).mapError .failed)
        (.createdUnread created (.cancelled identity.project identity.name "read")) s p looking
        (readBackResult config created found) := by
    have hends := (refresh_follows identity "read" hlook).endsCalledOff hopen hlooked
    refine hends.map (readBackResult config created) (fun answer ↦ ?_) rfl
    change readBackResult config created
      (((Endpoint.found identity answer).bind identity.view).mapError .failed) = _
    cases (Endpoint.found identity answer).bind identity.view <;> rfl
  cases readBack_run h with
  | read hlook => exact hread hlook hoff
  | unread hlook =>
    rw [Progress.afterAll_append] at hoff
    exact (hread hlook hoff).append _
  | @stopped stop _ hstop hlook =>
    have hkept : readBackResult config created (.error stop) = .error stop := by
      cases stop with
      | failed error => exact absurd rfl (hstop error)
      | abandoned => rfl
      | clockOverrun => rfl
    rw [← hkept]
    exact hread hlook hoff

section Made

variable {object : RemoteObject} {id : String} {result : Except Stop State} {line' : LogLine}
  {last : List Event} (hsubmit : m.submission config s p = (.ok submitted, first))
  (hwait : m.endpoint.awaitCreated m.createPolicy ⟨config.projectName, submitted.name⟩ s
    (p.afterAll first) = (.ok object, waiting))
  (hid : Identity.encode ⟨config.projectName, submitted.name⟩ = .ok id)
  (hlast : m.readBack config ⟨config.projectName, submitted.name⟩
    (createdState config id submitted.name object) s ((p.afterAll first).afterAll waiting) =
      (result, last))

include hsubmit hwait hid

/-- What was found made is kept in the failure to read it back. -/
theorem halted_of_made {source : Error} (hsource : source.IsCancelled) (more : List Event) :
    m.Halted s p (.create config) (first ++ .logged line :: waiting ++ more)
      (.error (.failed
        (.createdUnread (createdState config id submitted.name object) source))) := by
  refine .unread ?_ (foundMade_of_made hwait more) hid hsource
  rw [List.append_assoc]
  exact submittedAs_of_ok hsubmit

include hlast

/-- A creation that is called off in the poll that finds the namespace made does not read it
back. -/
theorem concludes_of_found (hwaited : ((p.afterAll first).afterAll waiting).isCalledOff = true) :
    m.Concludes s p (.create config) (first ++ .logged line :: waiting ++ .logged line' :: last)
      result := by
  have hfirst := (waitUntil_run hwait).isCalledOff_of_ok
  rw [readBack_of_calledOff hwaited hlast]
  exact concludes_of_awaitCreated hsubmit hwait hfirst hwaited nofun (by simp)
    fun _ ↦ halted_of_made hsubmit hwait hid ⟨_, _, _, rfl⟩ _

/-- A creation that is called off in its last reading ends as the reading does. -/
theorem concludes_of_reading (hopen : ((p.afterAll first).afterAll waiting).isCalledOff = false)
    (hoff : (((p.afterAll first).afterAll waiting).afterAll last).isCalledOff = true) :
    m.Concludes s p (.create config) (first ++ .logged line :: waiting ++ .logged line' :: last)
      result := by
  have hback := readBack_endsCalledOff hlast hopen hoff
  have hprogress : p.afterAll (first ++ .logged line :: waiting) =
      (p.afterAll first).afterAll waiting := Progress.afterAll_append _ _ _
  rw [← hprogress] at hback
  -- What tells the last reading from a poll is the line of the log before it.
  have hplace : ¬IsPollPlace (first ++ .logged line :: waiting ++ [.logged line']) := by
    rintro ⟨front, hfront⟩
    cases (List.append_inj' hfront rfl).2
  have hends : EndsCalledOff (· = first ++ .logged line :: waiting ++ [.logged line']) _ _ s p
      (first ++ .logged line :: waiting ++ .logged line' :: last) result :=
    hback.prepend_logged line' fun _ hbefore ↦ by rw [hbefore]
  refine concludes_of_endsCalledOff (.readingBack config ⟨config.projectName, submitted.name⟩
    (createdState config id submitted.name object)) hends ?_ ?_ ?_
  · rintro _ rfl
    refine .readingBack hplace ?_ (foundMade_of_made hwait _) hid
    rw [List.append_assoc]
    exact submittedAs_of_ok hsubmit
  · exact fun answer hfound ↦ .inl ⟨_, rfl, hfound⟩
  · rintro rfl
    exact halted_of_made hsubmit hwait hid ⟨_, _, _, rfl⟩ _

/-- Neither the submission nor a pending poll is the place where such a creation is called off. -/
theorem concludes_of_made
    (hoff : (p.afterAll (first ++ .logged line :: waiting ++ .logged line' :: last)).isCalledOff =
      true) :
    m.Concludes s p (.create config) (first ++ .logged line :: waiting ++ .logged line' :: last)
      result := by
  cases hwaited : ((p.afterAll first).afterAll waiting).isCalledOff with
  | true => exact concludes_of_found hsubmit hwait hid hlast hwaited
  | false =>
    rw [Progress.afterAll_append, Progress.afterAll_append] at hoff
    exact concludes_of_reading hsubmit hwait hid hlast hwaited hoff

end Made

end Creating

theorem create_concludes {config : State} {result : Except Stop State} {events : List Event}
    (h : m.create config s p = (result, events)) (hrange : ¬m.RefusesLate s p (.create config))
    (hclock : InRange result) (hopen : p.isCalledOff = false)
    (hoff : (p.afterAll events).isCalledOff = true) :
    m.Concludes s p (.create config) events result := by
  cases create_run h with
  | invalid => simp [hopen] at hoff
  | unnamed => simp [hopen] at hoff
  | refused => simp [hopen] at hoff
  | @unsubmitted _ stop events _ _ hsubmit =>
    rw [← List.append_nil events]
    refine concludes_of_submission hsubmit hopen hoff (by simp) ?_
    rintro (⟨_, hfound⟩ | hfound)
    · cases hfound
    · cases hfound
      rw [List.append_nil]
      exact .cancelled ⟨_, _, _, rfl⟩ fun _ _ ↦ not_foundMade_of_submission hsubmit
  | unfinished hvalid hdeadline hsubmit hwait =>
    have hstop {stop : Stop} (h : (Except.error stop : Except Stop State) ≠ .error .clockOverrun) :
        stop ≠ .clockOverrun := fun hstop ↦ h (congrArg _ hstop)
    exact concludes_of_unfinished hrange hvalid hdeadline hsubmit hwait (hstop hclock) hopen hoff
  | made _ _ hsubmit hwait hid hlast => exact concludes_of_made hsubmit hwait hid hlast hoff

/-! ## Removing a namespace -/

section Removing

variable {state : State} {identity : Identity} {first waiting : List Event}

theorem halted_of_delete {events : List Event} {error : Error} (herror : error.IsCancelled) :
    m.Halted s p (.delete state) events (.error (.failed error)) :=
  .cancelled herror (by simp)

/-- A removal that is called off ends the call where it is refused, and leaves the matter open where
it is granted. -/
theorem concludes_of_removal {found : Except Stop Unit} {more : List Event}
    {result : Except Stop State} (hidentity : identityOf state = .ok identity)
    (hremove : cancellable identity "deleted" (m.endpoint.remove identity) s p = (found, first))
    (hopen : p.isCalledOff = false) (hoff : (p.afterAll first).isCalledOff = true)
    (hstopped : ∀ stop, found = .error stop → result = .error stop)
    (hhalted : (∃ value, found = .ok value) ∨
      found = .error (.failed (m.removalPlan identity).cancelled) →
      m.Halted s p (.delete state) (first ++ more) result) :
    m.Concludes s p (.delete state) (first ++ more) result := by
  have hends : EndsCalledOff (· = [])
      (fun answer ↦ (Endpoint.removed identity answer).mapError .failed)
      (m.removalPlan identity).cancelled s p first found :=
    (removal_follows identity hremove).endsCalledOff hopen hoff
  refine concludes_of_first (.removing identity) (.removing hidentity) hends ?_ ?_ hstopped hhalted
  · exact fun answer error hrefused ↦ by simp only [Step.ending?, hrefused]
  · exact fun answer _ hgranted ↦ by simp only [Step.ending?, hgranted]

theorem settleAnswer_deletedPollPlan (e : Endpoint) (identity : Identity) (answer : Answer) :
    settleAnswer (e.deletedPollPlan identity) answer =
      settleOff (.cancelled identity.project identity.name "deleted")
        (Endpoint.deletedOutcome identity (Endpoint.found identity answer)) := rfl

theorem ending?_awaitingDeleted (state : State) (identity : Identity) (answer : Answer) :
    (Step.awaitingDeleted state identity).ending? answer =
      match Endpoint.deletedOutcome identity (Endpoint.found identity answer) with
      | .pending => none
      | .done _ => some (.ok { state with id := none })
      | .failed error => some (.error error) := by
  rw [Step.ending?, ← Endpoint.deletedOutcome_verdict?]
  cases Endpoint.deletedOutcome identity (Endpoint.found identity answer) <;> rfl

/-- A removal whose wait is called off, or whose request is. -/
theorem concludes_of_awaitDeleted {deadline : Duration} {found : Except Stop Unit}
    (line : LogLine) (more : List Event) (hrange : ¬m.RefusesLate s p (.delete state))
    (hidentity : identityOf state = .ok identity)
    (hdeadline : m.deletePolicy.deadline p.elapsed = .ok deadline)
    (hremove : cancellable identity "deleted" (m.endpoint.remove identity) s p = (.ok (), first))
    (hwait : m.endpoint.awaitDeleted m.deletePolicy identity s (p.afterAll first) =
      (found, waiting)) (hclock : InRange found) (hopen : p.isCalledOff = false)
    (hoff : ((p.afterAll first).afterAll waiting).isCalledOff = true) :
    m.Concludes s p (.delete state) (first ++ .logged line :: waiting ++ more)
      (found.map fun _ ↦ { state with id := none }) := by
  cases hfirst : (p.afterAll first).isCalledOff with
  | true =>
    have hfound := (waitUntil_run hwait).of_calledOff hfirst
      (fun error hmoment hrefused ↦ hrange (refusesLate_of_removal hidentity hdeadline hremove
        (WaitPolicy.isLate_of_deadline hdeadline hmoment hrefused))) hclock
    subst hfound
    rw [List.append_assoc]
    exact concludes_of_removal hidentity hremove hopen hfirst (by simp)
      fun _ ↦ halted_of_delete ⟨_, _, _, rfl⟩
  | false =>
    have hends := (waitUntil_run hwait).endsCalledOff (Endpoint.pollDeleted_follows identity) rfl
      hfirst hoff hclock
    have hplace {before : List Event} (hbefore : IsPollPlace before) :
        IsPollPlace (first ++ .logged line :: before) := by
      rw [List.append_cons]
      exact hbefore.append _
    refine concludes_of_endsCalledOff (.awaitingDeleted state identity)
      ((hends.prepend_logged line fun _ ↦ hplace).append more) ?_ ?_ ?_
    · exact fun before hbefore ↦ .awaitingDeleted hbefore hidentity
    · intro answer hfound
      have hending := ending?_awaitingDeleted state identity answer
      rw [settleAnswer_deletedPollPlan] at hfound
      cases houtcome : Endpoint.deletedOutcome identity (Endpoint.found identity answer) with
      | pending =>
        rw [houtcome] at hfound hending
        subst hfound
        exact .inr ⟨hending, halted_of_delete ⟨_, _, _, rfl⟩⟩
      | done _ =>
        rw [houtcome] at hfound hending
        subst hfound
        exact .inl ⟨_, hending, rfl⟩
      | failed error =>
        rw [houtcome] at hfound hending
        subst hfound
        exact .inl ⟨_, hending, rfl⟩
    · rintro rfl
      exact halted_of_delete ⟨_, _, _, rfl⟩

end Removing

theorem delete_concludes {state : State} {result : Except Stop State} {events : List Event}
    (h : m.delete state s p = (result, events)) (hrange : ¬m.RefusesLate s p (.delete state))
    (hclock : InRange result) (hopen : p.isCalledOff = false)
    (hoff : (p.afterAll events).isCalledOff = true) :
    m.Concludes s p (.delete state) events result := by
  cases delete_run h with
  | unidentified => simp [hopen] at hoff
  | unnamed => simp [hopen] at hoff
  | refused => simp [hopen] at hoff
  | @unremoved _ _ stop events hidentity _ hremove =>
    rw [← List.append_nil events]
    refine concludes_of_removal hidentity hremove hopen hoff (by simp) ?_
    rintro (⟨_, hfound⟩ | hfound)
    · cases hfound
    · cases hfound
      exact halted_of_delete ⟨_, _, _, rfl⟩
  | @unfinished _ _ stop line first waiting hidentity hdeadline hremove hwait =>
    have hstop : (Except.error stop : Except Stop Unit) ≠ .error .clockOverrun :=
      fun hstop ↦ hclock (congrArg Except.error (Except.error.inj hstop))
    rw [Progress.afterAll_append] at hoff
    have hconcludes := concludes_of_awaitDeleted line [] hrange hidentity hdeadline
      hremove hwait hstop hopen hoff
    rw [List.append_nil] at hconcludes
    exact hconcludes
  | removed hidentity hdeadline hremove hwait =>
    rw [Progress.afterAll_append, Progress.afterAll_append] at hoff
    exact concludes_of_awaitDeleted _ _ hrange hidentity hdeadline hremove hwait nofun hopen hoff

/-! ## Single readings -/

theorem read_concludes {state : State} {result : Except Stop State} {events : List Event}
    (h : m.read state s p = (result, events)) (hopen : p.isCalledOff = false)
    (hoff : (p.afterAll events).isCalledOff = true) :
    m.Concludes s p (.read state) events result := by
  cases read_run h with
  | unidentified => simp [hopen] at hoff
  | @asked identity found _ hidentity hread =>
    have hends := (refresh_follows identity "read" hread).endsCalledOff hopen hoff
    refine concludes_of_endsCalledOff (.reading state identity) hends ?_ ?_ ?_
    · rintro _ rfl
      exact .reading hidentity
    · intro answer hfound
      change _ = ((Endpoint.found identity answer).bind identity.view).mapError Stop.failed
        at hfound
      refine .inl ⟨_, rfl, ?_⟩
      rw [hfound]
      cases (Endpoint.found identity answer).bind identity.view <;> rfl
    · rintro rfl
      exact .cancelled ⟨_, _, _, rfl⟩ (by simp)

theorem importKey_concludes {key : String} {result : Except Stop State} {events : List Event}
    (h : m.importKey key s p = (result, events)) (hopen : p.isCalledOff = false)
    (hoff : (p.afterAll events).isCalledOff = true) :
    m.Concludes s p (.importKey key) events result := by
  cases importKey_run h with
  | malformed => simp [hopen] at hoff
  | @stopped identity stop _ hidentity hfetch =>
    have hends := (fetch_follows identity "imported" hfetch).endsCalledOff hopen hoff
    refine concludes_of_endsCalledOff (.importing identity) hends ?_ ?_ ?_
    · rintro _ rfl
      exact .importing hidentity
    · intro answer hfound
      change _ = (Endpoint.found identity answer).mapError Stop.failed at hfound
      refine .inl ⟨_, rfl, ?_⟩
      cases hobject : Endpoint.found identity answer with
      | ok object =>
        rw [hobject] at hfound
        cases hfound
      | error error =>
        rw [hobject] at hfound
        cases hfound
        rfl
    · intro hfound
      cases hfound
      exact .cancelled ⟨_, _, _, rfl⟩ (by simp)
  | @imported identity object id line _ hidentity hfetch hid =>
    rw [Progress.afterAll_append] at hoff
    have hends := ((fetch_follows identity "imported" hfetch).endsCalledOff hopen hoff).append
      [.logged line]
    refine concludes_of_endsCalledOff (.importing identity) hends ?_ ?_ ?_
    · rintro _ rfl
      exact .importing hidentity
    · intro answer hfound
      change _ = (Endpoint.found identity answer).mapError Stop.failed at hfound
      refine .inl ⟨_, rfl, ?_⟩
      cases hobject : Endpoint.found identity answer with
      | ok other =>
        rw [hobject] at hfound
        cases hfound
        change _ = (((identity.view object)).mapError importError).mapError Stop.failed
        rw [Identity.view_of_encode hid]
        rfl
      | error error =>
        rw [hobject] at hfound
        cases hfound
    · intro hfound
      cases hfound

end Manager

end NamespaceLifecycle
