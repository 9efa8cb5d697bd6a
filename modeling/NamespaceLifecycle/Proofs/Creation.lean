import NamespaceLifecycle.Proofs.Decision
import NamespaceLifecycle.Proofs.Lifecycle

/-!
# A namespace that was made is not lost

Once a poll of the making of a namespace is answered by an object that is made, the identity of the
namespace reaches the user: in the state that is returned, or in the error that says that the
namespace could not be read back. The wait ends with that answer, and none of the steps after it
ends the operation in another way.
-/

namespace NamespaceLifecycle

/-- A poll of a run has an answer: a request starts where the poll does, and its reply arrives. -/
def PollAnswered (s : Surroundings) (p : Progress) (events : List Event) (answer : Answer) : Prop :=
  ∃ before request span after takes callsOff log,
    events = before ++ .polled :: .sent request :: .waited span :: after ∧
    s.transport (p.afterAll before).requests request = .answered takes callsOff log answer

/-- A part of a run without polls does not hold the poll that has an answer. -/
theorem PollAnswered.of_append_left {s : Surroundings} {p : Progress} {first second : List Event}
    {answer : Answer} (h : PollAnswered s p (first ++ second) answer) (hfirst : .polled ∉ first) :
    PollAnswered s (p.afterAll first) second answer := by
  obtain ⟨before, request, span, after, takes, callsOff, log, hevents, hreply⟩ := h
  obtain ⟨middle, rfl, hsecond⟩ := split_of_not_mem_first hevents hfirst
  rw [Progress.afterAll_append] at hreply
  exact ⟨middle, request, span, after, takes, callsOff, log, hsecond, hreply⟩

/-- A line of the log does not come between a poll and its reply. -/
theorem PollAnswered.of_append_logged {s : Surroundings} {p : Progress} {first second : List Event}
    {line : LogLine} {answer : Answer}
    (h : PollAnswered s p (first ++ .logged line :: second) answer) (hsecond : .polled ∉ second) :
    PollAnswered s p first answer := by
  obtain ⟨before, request, span, after, takes, callsOff, log, hevents, hreply⟩ := h
  obtain ⟨middle, rfl, hmiddle⟩ := split_of_not_mem_second hevents (by simpa using hsecond)
  match middle with
  | [] => cases hmiddle
  | [_] => cases hmiddle
  | _ :: _ :: after =>
    cases hmiddle
    exact ⟨before, request, span, after, takes, callsOff, log, rfl, hreply⟩

theorem PollAnswered.append {s : Surroundings} {p : Progress} {before events after : List Event}
    {answer : Answer} (h : PollAnswered s (p.afterAll before) events answer) :
    PollAnswered s p (before ++ events ++ after) answer := by
  obtain ⟨first, request, span, last, takes, callsOff, log, rfl, hreply⟩ := h
  rw [← Progress.afterAll_append] at hreply
  refine ⟨before ++ first, request, span, last ++ after, takes, callsOff, log, ?_, hreply⟩
  simp

/-- A line of the log may stand between what comes before and the part with the poll. -/
theorem PollAnswered.append_logged {s : Surroundings} {p : Progress} {first events : List Event}
    {answer : Answer} (line : LogLine) (h : PollAnswered s (p.afterAll first) events answer)
    (after : List Event) : PollAnswered s p (first ++ .logged line :: events ++ after) answer := by
  have hlogged : PollAnswered s (p.afterAll (first ++ [.logged line])) events answer := by
    rw [Progress.afterAll_append]
    exact h
  rw [List.append_cons]
  exact hlogged.append

theorem not_pollAnswered_of_not_mem {s : Surroundings} {p : Progress} {events : List Event}
    {answer : Answer} (h : .polled ∉ events) : ¬PollAnswered s p events answer := by
  rintro ⟨before, request, span, after, -, -, -, rfl, -⟩
  simp at h

namespace Answer

/-- The answer is an object that is made. -/
def ShowsMade (object : RemoteObject) (answer : Answer) : Prop :=
  answer.Shows object ∧ Phase.normalize object.phase = Phase.created

/-- The answer is an object on its way to be made. -/
def ShowsUnmade (answer : Answer) : Prop :=
  ∃ object, answer.Shows object ∧ Phase.classify object.phase Phase.created = .pending

end Answer

namespace Endpoint

open Run

variable {e : Endpoint} {s : Surroundings} {p : Progress}

theorem createdOutcome_eq_pending_iff (identity : Identity) (answer : Answer) :
    createdOutcome identity (found identity answer) = .pending ↔ answer.ShowsUnmade := by
  cases hfound : found identity answer with
  | error error =>
    refine ⟨nofun, ?_⟩
    rintro ⟨object, hshows, -⟩
    cases hfound.symm.trans (found_eq_ok_iff.2 hshows)
  | ok object =>
    have hshows := found_eq_ok_iff.1 hfound
    rw [createdOutcome, judged_eq_pending_iff]
    refine ⟨fun hphase ↦ ⟨object, hshows, hphase⟩, ?_⟩
    rintro ⟨other, hother, hphase⟩
    cases eq_of_shows hshows hother
    exact hphase

theorem createdOutcome_eq_done_iff (identity : Identity) (answer : Answer) (object : RemoteObject) :
    createdOutcome identity (found identity answer) = .done object ↔ answer.ShowsMade object := by
  have htarget : Phase.normalize Phase.created ≠ Phase.error := by
    rw [normalize_created]
    decide
  cases hfound : found identity answer with
  | error error =>
    refine ⟨nofun, ?_⟩
    rintro ⟨hshows, -⟩
    cases hfound.symm.trans (found_eq_ok_iff.2 hshows)
  | ok other =>
    have hother := found_eq_ok_iff.1 hfound
    rw [createdOutcome, judged_eq_done_iff, classify_eq_succeeded_iff htarget, normalize_created]
    constructor
    · rintro ⟨hphase, rfl⟩
      exact ⟨hother, hphase⟩
    · rintro ⟨hshows, hphase⟩
      cases eq_of_shows hother hshows
      exact ⟨hphase, rfl⟩

/-- An answered poll that finds the namespace made ends the wait with what it found. -/
theorem awaitCreated_of_pollAnswered {policy : WaitPolicy} {identity : Identity}
    {result : Except Stop RemoteObject} {events : List Event} {value : Json} {object : RemoteObject}
    (hrun : e.awaitCreated policy identity s p = (result, events))
    (hpoll : PollAnswered s p events (.ok value)) (hobject : RemoteObject.ofJson value = .ok object)
    (hphase : Phase.normalize object.phase = Phase.created) : result = .ok object := by
  obtain ⟨before, request, span, after, takes, callsOff, log, hevents, hreply⟩ := hpoll
  obtain ⟨_, found, looking, tail, hopen, hlook, hafter, hend⟩ := (waitUntil_run hrun).isLook
    (fun _ ↦ pollCreated_emits admits_ne_polled identity) hevents
  cases hurl : e.url identity.project (some identity.name) with
  | error error =>
    have hpoll : e.pollCreated identity s (p.afterAll before) = (.ok (.failed error), []) := by
      rw [pollCreated_of_error hurl, pure_run]
    rw [unlessCalledOff_of_ne hopen _ (by simp [hpoll])] at hlook
    cases hpoll.symm.trans hlook
    cases hend
    cases hafter
  | ok url =>
    have hexchange := pollCreated_isExchange hurl
    rcases unlessCalledOff_cases hlook with ⟨hoff, -⟩ | ⟨-, hlooked, -⟩ | ⟨-, hlooked, -⟩
    · rw [hopen] at hoff
      cases hoff
    · rcases hexchange.cases hlooked with ⟨-, hstop, -⟩ | ⟨-, houtcome, lines, rfl⟩
      · cases hstop
      · rw [List.cons_append, List.cons_append, List.cons.injEq, Event.sent.injEq] at hafter
        rw [← hafter.1, hreply] at houtcome
        cases houtcome
    · rcases hexchange.cases hlooked with ⟨-, rfl, rfl⟩ | ⟨-, houtcome, lines, rfl⟩
      · cases hend
        cases hafter
      · rw [List.cons_append, List.cons_append, List.cons.injEq, Event.sent.injEq] at hafter
        rw [← hafter.1, hreply] at houtcome
        subst houtcome
        change LookEnd (.ok (createdOutcome identity (found identity (.ok value)))) result tail
          at hend
        rw [(createdOutcome_eq_done_iff identity _ object).2
          ⟨⟨value, rfl, hobject⟩, hphase⟩] at hend
        cases hend
        rfl

/-- A wait that finds the namespace made has an answered poll that did. -/
theorem pollAnswered_of_awaitCreated {policy : WaitPolicy} {identity : Identity}
    {object : RemoteObject} {events : List Event}
    (hrun : e.awaitCreated policy identity s p = (.ok object, events)) :
    ∃ value, PollAnswered s p events (.ok value) ∧ RemoteObject.ofJson value = .ok object ∧
      Phase.normalize object.phase = Phase.created := by
  cases waitUntil_run hrun with
  | @polled _ pausing _ _ hdeadline hpause hpolls =>
    obtain ⟨_, front, _, -, hlast, rfl⟩ := hpolls
    cases hlast with
    | @done _ looking hopen hearly hlook =>
      have hlooked := eq_of_unlessCalledOff hlook
      cases hurl : e.url identity.project (some identity.name) with
      | error error =>
        rw [pollCreated_of_error hurl, pure_run] at hlooked
        cases hlooked
      | ok url =>
        rcases (pollCreated_isExchange hurl).cases hlooked with
          ⟨-, hstop, -⟩ | ⟨-, houtcome, lines, rfl⟩
        · cases hstop
        cases hreply : s.transport ((p.afterAll pausing).afterAll front).requests
            ⟨.get, url, none⟩ with
        | silent takes log =>
          rw [hreply] at houtcome
          cases houtcome
        | answered takes callsOff log answer =>
          rw [hreply] at houtcome
          obtain ⟨⟨value, rfl, hobject⟩, hphase⟩ :=
            (createdOutcome_eq_done_iff identity answer object).1 (Except.ok.inj houtcome).symm
          refine ⟨value, ?_, hobject, hphase⟩
          rw [← Progress.afterAll_append] at hreply
          refine ⟨pausing ++ front, ⟨.get, url, none⟩, takes,
            (if callsOff then [.calledOff] else []) ++ log.map .logged ++ lines.map .logged,
            takes, callsOff, log, ?_, hreply⟩
          simp [Reply.events]

end Endpoint

namespace Manager

open Run

variable {m : Manager} {s : Surroundings} {p : Progress}

theorem submission_emits {kind : Event → Prop} (hkind : Endpoint.Admits kind) (config : State) :
    Emits kind (m.submission config) :=
  (Endpoint.submit_emits hkind _ _).unlessCalledOff _

theorem readBack_emits {kind : Event → Prop} (hkind : Endpoint.Admits kind) (config : State)
    (identity : Identity) (created : State) : Emits kind (m.readBack config identity created) := by
  have hrefresh : Emits kind (m.refresh identity) :=
    (Endpoint.fetch_emits hkind identity).bind fun _ ↦ emits_ofExcept _
  refine (hrefresh.unlessCalledOff _).attempt.bind fun read ↦ ?_
  cases read with
  | ok refreshed => exact emits_pure _
  | error source => exact (emits_log hkind.logged _ _).bind fun _ ↦ emits_fail _

/-- The submission of declared inputs is answered by an object with a name. -/
def SubmittedAs (m : Manager) (config : State) (s : Surroundings) (p : Progress)
    (events : List Event) (name : String) : Prop :=
  ∃ url value object, m.endpoint.url config.projectName none = .ok url ∧
    (requestsIn events).head? = some ⟨.post, url, some config.toObject.toJson⟩ ∧
    (s.transport p.requests ⟨.post, url, some config.toObject.toJson⟩).outcome = .ok (.ok value) ∧
    RemoteObject.ofJson value = .ok object ∧ object.name = name

theorem submittedAs_of_ok {config : State} {submitted : RemoteObject} {first rest : List Event}
    (h : m.submission config s p = (.ok submitted, first)) :
    SubmittedAs m config s p (first ++ rest) submitted.name := by
  obtain ⟨url, answer, hurl, -, hanswer, hsubmitted, -, hsent⟩ := submission_of_ok h
  obtain ⟨⟨value, rfl, hdecoded⟩, -⟩ := Endpoint.submitted_eq_ok_iff.1 hsubmitted
  refine ⟨url, value, submitted, hurl, ?_, hanswer, hdecoded, rfl⟩
  rw [requestsIn_append, hsent]
  rfl

/-- A state holds the identity of a namespace that was made from declared inputs. -/
structure KeepsIdentity (config : State) (name id : String) (state : State) : Prop where
  id_eq : state.id = some id
  name_eq : state.name = name
  projectName_eq : state.projectName = config.projectName
  namePrefix_eq : state.namePrefix = config.namePrefix

theorem createdState_keepsIdentity (config : State) (id name : String) (object : RemoteObject) :
    KeepsIdentity config name id (createdState config id name object) :=
  ⟨rfl, rfl, rfl, rfl⟩

/-- A namespace whose making ends well was found made by a poll. -/
theorem pollAnswered_of_create {config state : State} {events : List Event}
    (hrun : m.create config s p = (.ok state, events)) :
    ∃ value object, PollAnswered s p events (.ok value) ∧ RemoteObject.ofJson value = .ok object ∧
      Phase.normalize object.phase = Phase.created := by
  cases create_run hrun with
  | made _ _ _ hwait =>
    obtain ⟨value, hpoll, hobject, hphase⟩ := Endpoint.pollAnswered_of_awaitCreated hwait
    exact ⟨value, _, hpoll.append_logged _ _, hobject, hphase⟩

/-- The identity of a namespace is kept once a poll has found it made: the result is a state that
holds it, or the error that it could not be read back, whose state holds it with all that the poll
has found. There is no third result in the range of the clock, which can only end in the last
request. -/
theorem create_keepsIdentity {config : State} {result : Except Stop State} {events : List Event}
    {value : Json} {object : RemoteObject} (hrun : m.create config s p = (result, events))
    (hpoll : PollAnswered s p events (.ok value)) (hobject : RemoteObject.ofJson value = .ok object)
    (hphase : Phase.normalize object.phase = Phase.created) :
    ∃ name id, SubmittedAs m config s p events name ∧
      Identity.encode ⟨config.projectName, name⟩ = .ok id ∧
      Identity.decode id = .ok ⟨config.projectName, name⟩ ∧
      (InRange result →
        (∃ state, result = .ok state ∧ KeepsIdentity config name id state) ∨
        ∃ state source, result = .error (.failed (.createdUnread state source)) ∧
          KeepsIdentity config name id state ∧ state = createdState config id name object) ∧
      (¬InRange result → ∃ before last, events = before ++ last ∧
        ReadOverruns m ⟨config.projectName, name⟩ s (p.afterAll before) last) := by
  have hnone : ¬PollAnswered s p [] (.ok value) := not_pollAnswered_of_not_mem List.not_mem_nil
  have hquiet {found : Except Stop RemoteObject} {first : List Event}
      (hsubmit : m.submission config s p = (found, first)) : Event.polled ∉ first :=
    fun hmem ↦ submission_emits Endpoint.admits_ne_polled config hsubmit _ hmem rfl
  cases create_run hrun with
  | invalid => exact absurd hpoll hnone
  | unnamed => exact absurd hpoll hnone
  | refused => exact absurd hpoll hnone
  | unsubmitted _ _ hsubmit =>
    exact absurd hpoll (not_pollAnswered_of_not_mem (hquiet hsubmit))
  | @unfinished _ _ stop line first waiting _ _ hsubmit hwait =>
    have hwaited : PollAnswered s (p.afterAll first) ([.logged line] ++ waiting) (.ok value) :=
      hpoll.of_append_left (hquiet hsubmit)
    have hmade := Endpoint.awaitCreated_of_pollAnswered hwait (hwaited.of_append_left (by simp))
      hobject hphase
    cases hmade
  | @made _ submitted _ id _ line line' first waiting last _ _ hsubmit hwait hid hlast =>
    have hquiet' : Event.polled ∉ last :=
      fun hmem ↦ readBack_emits Endpoint.admits_ne_polled _ _ _ hlast _ hmem rfl
    rw [List.append_assoc] at hpoll
    have hwaited : PollAnswered s (p.afterAll first)
        ([.logged line] ++ (waiting ++ .logged line' :: last)) (.ok value) :=
      hpoll.of_append_left (hquiet hsubmit)
    have hmade := Endpoint.awaitCreated_of_pollAnswered hwait
      ((hwaited.of_append_left (by simp)).of_append_logged hquiet') hobject hphase
    cases hmade
    refine ⟨submitted.name, id, ?_, hid, Identity.decode_of_encode hid, ?_⟩
    · rw [List.append_assoc]
      exact submittedAs_of_ok hsubmit
    rcases readBack_cases hid hlast with ⟨other, rfl⟩ | ⟨source, rfl⟩ | ⟨rfl, hoverrun⟩
    · refine ⟨fun _ ↦ .inl ⟨_, rfl, ?_⟩, fun h ↦ absurd nofun h⟩
      exact createdState_keepsIdentity config id submitted.name other
    · refine ⟨fun _ ↦ .inr ⟨_, source, rfl, ?_, rfl⟩, fun h ↦ absurd nofun h⟩
      exact createdState_keepsIdentity config id submitted.name object
    · refine ⟨fun h ↦ absurd rfl h, fun _ ↦ ?_⟩
      refine ⟨first ++ .logged line :: waiting ++ [.logged line'], last, by simp, ?_⟩
      rw [Progress.afterAll_append, Progress.afterAll_append]
      exact hoverrun

/-- A namespace that the service has made at once is returned with its identity. -/
theorem create_keepsIdentity_of_always :
    let config : State :=
      { State.empty with
        namePrefix := "dev", projectName := "shop", className := "small", regionName := "west"
        vpcName := "vpc", storageClassOverrides := [⟨"fast", 1⟩],
        zoneOverrides := [⟨"z", 1, 1, 1, 1⟩] }
    let m : Manager := ⟨⟨"https://vcfa.example.com", .ascii⟩, .usual, .usual⟩
    let s : Surroundings := .always (.ok (.object [("metadata", .object [("name", .text "dev-1")]),
      ("status", .object [("phase", .text "CREATED")])]))
    ∃ name id state, (m.create config s .start).1 = .ok state ∧
      Identity.decode id = .ok ⟨"shop", name⟩ ∧ KeepsIdentity config name id state := by
  intro config m s
  have hok : (m.create config s .start).1.isOk = true := by decide +kernel
  obtain ⟨state, hstate⟩ := exists_of_isOk hok
  have hrun : m.create config s .start = (.ok state, _) := Prod.ext hstate rfl
  obtain ⟨value, object, hpoll, hobject, hphase⟩ := pollAnswered_of_create hrun
  obtain ⟨name, id, -, -, hdecode, hresult, -⟩ := create_keepsIdentity hrun hpoll hobject hphase
  rcases hresult nofun with ⟨_, hstate, hkeeps⟩ | ⟨_, _, hresult, -⟩
  · cases hstate
    exact ⟨name, id, state, congrArg Prod.fst hrun, hdecode, hkeeps⟩
  · cases hresult

end Manager

end NamespaceLifecycle
