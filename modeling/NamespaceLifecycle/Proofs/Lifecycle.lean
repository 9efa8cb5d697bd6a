import NamespaceLifecycle.Lifecycle
import NamespaceLifecycle.Proofs.Exchange
import NamespaceLifecycle.Proofs.Identity
import NamespaceLifecycle.Proofs.Wait

/-!
# What the operations do

Each operation on a namespace takes a few steps, and ends early with the first that stops. Here
the runs of an operation are listed by the step that ends them, with what is known at that step of
those before. Once a namespace is submitted its identity has a text, since its project has passed
the checks and the service has given it a name.
-/

namespace NamespaceLifecycle

/-- Inputs that pass the checks name a project. -/
theorem State.projectName_ne_of_validate {config : State} (h : config.validate = .ok ()) :
    config.projectName ≠ "" := by
  have hnone : requiredFields.findSome? config.fieldFault? = none := by
    unfold validate at h
    split at h
    · cases h
    · assumption
  have hproject : config.fieldFault? .projectName = none :=
    List.findSome?_eq_none_iff.1 hnone _ (by decide)
  intro hempty
  simp [fieldFault?, get, FieldValue.isUnset, hempty] at hproject

theorem Identity.view_of_encode {identity : Identity} {id : String}
    (h : identity.encode = .ok id) (object : RemoteObject) :
    identity.view object = .ok (.ofObject id identity object) := by
  rw [view, h]
  rfl

namespace Manager

open Run

variable {m : Manager} {s : Surroundings} {p : Progress}

/-- What follows the check of a deadline runs only when the wait could start now. -/
theorem checkDeadline_bind_cases {α : Type} {policy : WaitPolicy} {f : Unit → Run α}
    {result : Except Stop α} {events : List Event}
    (h : (checkDeadline policy >>= f) s p = (result, events)) :
    (¬p.elapsed < Clock.momentLimit ∧ result = .error .clockOverrun ∧ events = []) ∨
      (∃ error, policy.deadline p.elapsed = .error error ∧ result = .error (.failed error) ∧
        events = []) ∨
      ∃ deadline, policy.deadline p.elapsed = .ok deadline ∧ f () s p = (result, events) := by
  by_cases hmoment : p.elapsed < Clock.momentLimit
  · cases hdeadline : policy.deadline p.elapsed with
    | error error =>
      have hcheck : checkDeadline policy s p = (.error (.failed error), []) := by
        rw [checkDeadline, bind_of_ok (now_of_lt hmoment), Progress.afterAll_nil,
          ofExcept_error_bind hdeadline]
        rfl
      rw [bind_of_error hcheck, Prod.mk.injEq] at h
      exact .inr (.inl ⟨error, rfl, h.1.symm, h.2.symm⟩)
    | ok deadline =>
      have hcheck : checkDeadline policy s p = (.ok (), []) := by
        rw [checkDeadline, bind_of_ok (now_of_lt hmoment), Progress.afterAll_nil,
          ofExcept_ok_bind hdeadline]
        rfl
      rw [bind_of_ok hcheck, Progress.afterAll_nil, List.nil_append] at h
      exact .inr (.inr ⟨deadline, rfl, h⟩)
  · have hcheck : checkDeadline policy s p = (.error .clockOverrun, []) := by
      rw [checkDeadline, bind_of_error (now_of_not_lt hmoment)]
    rw [bind_of_error hcheck, Prod.mk.injEq] at h
    exact .inl ⟨hmoment, h.1.symm, h.2.symm⟩

/-! ## Making a namespace -/

def createPolicy (m : Manager) : WaitPolicy := m.policy.withTimeout m.timeouts.effectiveCreate

def submission (m : Manager) (config : State) : Run RemoteObject :=
  cancellable ⟨config.projectName, config.namePrefix⟩ "created"
    (m.endpoint.submit config.projectName config.toObject)

/-- The state of a namespace that has been made, under the declared beginning of its name. -/
def createdState (config : State) (id name : String) (object : RemoteObject) : State :=
  { State.ofObject id ⟨config.projectName, name⟩ object with namePrefix := config.namePrefix }

/-- What the making of a namespace does: the inputs are wrong, the wait cannot be started, the
submission or the wait stops, or the namespace is made and read once more. -/
inductive CreateRun (m : Manager) (config : State) (s : Surroundings) (p : Progress) :
    Except Stop State → List Event → Prop
  | invalid {error : Error} (hvalid : config.validate = .error error) :
      CreateRun m config s p (.error (.failed error)) []
  | unnamed (hmoment : ¬p.elapsed < Clock.momentLimit) :
      CreateRun m config s p (.error .clockOverrun) []
  | refused {error : Error} (hdeadline : m.createPolicy.deadline p.elapsed = .error error) :
      CreateRun m config s p (.error (.failed error)) []
  | unsubmitted {deadline : Duration} {stop : Stop} {events : List Event}
      (hvalid : config.validate = .ok ())
      (hdeadline : m.createPolicy.deadline p.elapsed = .ok deadline)
      (hsubmit : m.submission config s p = (.error stop, events)) :
      CreateRun m config s p (.error stop) events
  | unfinished {deadline : Duration} {submitted : RemoteObject} {stop : Stop} {line : LogLine}
      {first waiting : List Event}
      (hvalid : config.validate = .ok ())
      (hdeadline : m.createPolicy.deadline p.elapsed = .ok deadline)
      (hsubmit : m.submission config s p = (.ok submitted, first))
      (hwait : m.endpoint.awaitCreated m.createPolicy ⟨config.projectName, submitted.name⟩ s
        (p.afterAll first) = (.error stop, waiting)) :
      CreateRun m config s p (.error stop) (first ++ .logged line :: waiting)
  | made {deadline : Duration} {submitted object : RemoteObject} {id : String}
      {result : Except Stop State} {line line' : LogLine} {first waiting last : List Event}
      (hvalid : config.validate = .ok ())
      (hdeadline : m.createPolicy.deadline p.elapsed = .ok deadline)
      (hsubmit : m.submission config s p = (.ok submitted, first))
      (hwait : m.endpoint.awaitCreated m.createPolicy ⟨config.projectName, submitted.name⟩ s
        (p.afterAll first) = (.ok object, waiting))
      (hid : Identity.encode ⟨config.projectName, submitted.name⟩ = .ok id)
      (hlast : m.readBack config ⟨config.projectName, submitted.name⟩
        (createdState config id submitted.name object) s
        ((p.afterAll first).afterAll waiting) = (result, last)) :
      CreateRun m config s p result
        (first ++ .logged line :: waiting ++ .logged line' :: last)

theorem submission_of_ok {config : State} {submitted : RemoteObject} {events : List Event}
    (h : m.submission config s p = (.ok submitted, events)) :
    ∃ url answer, m.endpoint.url config.projectName none = .ok url ∧
      p.isCalledOff = false ∧
      (s.transport p.requests ⟨.post, url, some config.toObject.toJson⟩).outcome = .ok answer ∧
      Endpoint.submitted config.projectName config.toObject answer = .ok submitted ∧
      p.afterAll events = (p.after (.sent ⟨.post, url, some config.toObject.toJson⟩)).afterAll
        (s.transport p.requests ⟨.post, url, some config.toObject.toJson⟩).events ∧
      requestsIn events = [⟨.post, url, some config.toObject.toJson⟩] := by
  cases hurl : m.endpoint.url config.projectName none with
  | error error =>
    rw [submission, cancellable, Endpoint.submit_of_error hurl] at h
    cases eq_of_unlessCalledOff h
  | ok url =>
    obtain ⟨hopen, ⟨answer, hanswer, hjudge⟩, hprogress, hsent⟩ :=
      (Endpoint.submit_isExchange hurl config.toObject).of_ok_unlessCalledOff h
    exact ⟨url, answer, rfl, hopen, hanswer, hjudge, hprogress, hsent⟩

theorem create_run {config : State} {result : Except Stop State} {events : List Event}
    (h : m.create config s p = (result, events)) : CreateRun m config s p result events := by
  unfold create at h
  cases hvalid : config.validate with
  | error error =>
    rw [ofExcept_error_bind hvalid, fail_run] at h
    cases h
    exact .invalid hvalid
  | ok _ =>
    rw [ofExcept_ok_bind hvalid] at h
    rcases checkDeadline_bind_cases h with
      ⟨hmoment, rfl, rfl⟩ | ⟨error, hdeadline, rfl, rfl⟩ | ⟨deadline, hdeadline, hrest⟩
    · exact .unnamed hmoment
    · exact .refused hdeadline
    · rcases bind_cases hrest with ⟨stop, hsubmit, rfl⟩ | ⟨submitted, first, _, hsubmit, hsent, rfl⟩
      · exact .unsubmitted hvalid hdeadline hsubmit
      obtain ⟨_, hnamed, rfl⟩ := log_bind_cases hsent
      rcases bind_cases hnamed with ⟨stop, hwait, rfl⟩ | ⟨object, waiting, _, hwait, hdone, rfl⟩
      · exact .unfinished hvalid hdeadline hsubmit hwait
      obtain ⟨last, hlogged, rfl⟩ := log_bind_cases hdone
      obtain ⟨_, _, _, _, _, hsubmitted, -⟩ := submission_of_ok hsubmit
      obtain ⟨id, hid⟩ := @Identity.exists_encode ⟨config.projectName, submitted.name⟩
        ⟨State.projectName_ne_of_validate hvalid, (Endpoint.submitted_eq_ok_iff.1 hsubmitted).2⟩
      rw [ofExcept_ok_bind (Identity.view_of_encode hid object)] at hlogged
      rw [← List.cons_append, ← List.append_assoc]
      exact .made hvalid hdeadline hsubmit hwait hid hlogged

/-! ## Reading back -/

theorem refresh_isExchange {identity : Identity} {url : Url}
    (hurl : m.endpoint.url identity.project (some identity.name) = .ok url) :
    IsExchange ⟨.get, url, none⟩
      (fun answer ↦ Endpoint.found identity answer >>= identity.view) (m.refresh identity) := by
  refine (Endpoint.fetch_isExchange hurl).bind identity.view fun object s p ↦ ⟨[], ?_⟩
  rw [ofExcept_run]
  rfl

theorem refresh_of_error {identity : Identity} {error : Error}
    (hurl : m.endpoint.url identity.project (some identity.name) = .error error) :
    m.refresh identity = fail error := by
  rw [refresh, Endpoint.fetch_of_error hurl]
  rfl

/-- The clock runs over in the request that reads a namespace. -/
def ReadOverruns (m : Manager) (identity : Identity) (s : Surroundings) (p : Progress)
    (events : List Event) : Prop :=
  ∃ url, m.endpoint.url identity.project (some identity.name) = .ok url ∧
    events = [.sent ⟨.get, url, none⟩] ∧
    ¬p.elapsed.plus (s.transport p.requests ⟨.get, url, none⟩).takes < Clock.countLimit

theorem refresh_cases {identity : Identity} {id : String} (hid : identity.encode = .ok id)
    {result : Except Stop State} {events : List Event}
    (h : m.refresh identity s p = (result, events)) :
    (∃ object, result = .ok (.ofObject id identity object)) ∨
      (∃ error, result = .error (.failed error)) ∨ result = .error .abandoned ∨
      result = .error .clockOverrun ∧ ReadOverruns m identity s p events := by
  cases hurl : m.endpoint.url identity.project (some identity.name) with
  | error error =>
    refine .inr (.inl ⟨error, ?_⟩)
    rw [refresh_of_error hurl, fail_run, Prod.mk.injEq] at h
    exact h.1.symm
  | ok url =>
    cases result with
    | ok state =>
      obtain ⟨-, ⟨answer, -, hjudge⟩, -⟩ := (refresh_isExchange hurl).of_ok h
      cases hfound : Endpoint.found identity answer with
      | error error =>
        rw [hfound] at hjudge
        cases hjudge
      | ok object =>
        rw [hfound] at hjudge
        change identity.view object = .ok state at hjudge
        rw [Identity.view_of_encode hid, Except.ok.injEq] at hjudge
        exact .inl ⟨object, by rw [hjudge]⟩
    | error stop =>
      rcases (refresh_isExchange hurl).of_error h with
        ⟨hcount, rfl, hevents⟩ | ⟨rfl, -⟩ | ⟨_, error, -, -, rfl⟩
      · exact .inr (.inr (.inr ⟨rfl, url, hurl, hevents, hcount⟩))
      · exact .inr (.inr (.inl rfl))
      · exact .inr (.inl ⟨error, rfl⟩)

/-- What reading back does: the namespace is read, the reading fails, or it stops otherwise. -/
inductive ReadBackRun (m : Manager) (config : State) (identity : Identity) (created : State)
    (s : Surroundings) (p : Progress) : Except Stop State → List Event → Prop
  | read {refreshed : State} {events : List Event}
      (hread : cancellable identity "read" (m.refresh identity) s p = (.ok refreshed, events)) :
      ReadBackRun m config identity created s p
        (.ok { refreshed with namePrefix := config.namePrefix }) events
  | unread {source : Error} {line : LogLine} {events : List Event}
      (hread : cancellable identity "read" (m.refresh identity) s p =
        (.error (.failed source), events)) :
      ReadBackRun m config identity created s p (.error (.failed (.createdUnread created source)))
        (events ++ [.logged line])
  | stopped {stop : Stop} {events : List Event} (hstop : ∀ error, stop ≠ .failed error)
      (hread : cancellable identity "read" (m.refresh identity) s p = (.error stop, events)) :
      ReadBackRun m config identity created s p (.error stop) events

theorem readBack_run {config created : State} {identity : Identity} {result : Except Stop State}
    {events : List Event} (h : m.readBack config identity created s p = (result, events)) :
    ReadBackRun m config identity created s p result events := by
  rcases bind_cases h with ⟨stop, hlook, rfl⟩ | ⟨read, first, second, hlook, hrest, rfl⟩
  · rcases attempt_cases hlook with ⟨_, _, hstop⟩ | ⟨_, _, hstop⟩ | ⟨_, hread, hfailed, hstop⟩
    · cases hstop
    · cases hstop
    · cases hstop
      exact .stopped hfailed hread
  · rcases attempt_cases hlook with ⟨state, hread, hok⟩ | ⟨source, hread, hok⟩ | ⟨_, _, _, hstop⟩
    · cases hok
      cases hrest
      rw [List.append_nil]
      exact .read hread
    · cases hok
      obtain ⟨_, hfail, rfl⟩ := log_bind_cases hrest
      cases hfail
      exact .unread hread
    · cases hstop

/-- A refreshed view is that of an object of the service. -/
theorem refresh_of_ok {identity : Identity} {target id : String} (hid : identity.encode = .ok id)
    {refreshed : State} {events : List Event}
    (h : cancellable identity target (m.refresh identity) s p = (.ok refreshed, events)) :
    ∃ object, refreshed = .ofObject id identity object := by
  rcases refresh_cases hid (eq_of_unlessCalledOff h) with
    ⟨object, hok⟩ | ⟨_, herror⟩ | herror | ⟨herror, -⟩
  · exact ⟨object, Except.ok.inj hok⟩
  · cases herror
  · cases herror
  · cases herror

/-- Reading back a namespace yields a state of its identity, or an error with the state that is
known already, unless the clock runs over in its request. -/
theorem readBack_cases {config created : State} {identity : Identity} {id : String}
    (hid : identity.encode = .ok id) {result : Except Stop State} {events : List Event}
    (h : m.readBack config identity created s p = (result, events)) :
    (∃ object, result =
        .ok { State.ofObject id identity object with namePrefix := config.namePrefix }) ∨
      (∃ source, result = .error (.failed (.createdUnread created source))) ∨
      result = .error .clockOverrun ∧ ReadOverruns m identity s p events := by
  cases readBack_run h with
  | read hread =>
    obtain ⟨object, rfl⟩ := refresh_of_ok hid hread
    exact .inl ⟨object, rfl⟩
  | unread => exact .inr (.inl ⟨_, rfl⟩)
  | stopped hfailed hread =>
    rcases unlessCalledOff_cases hread with ⟨-, hstop, -⟩ | ⟨-, -, hstop⟩ | ⟨-, hrefresh, hstop⟩
    · exact absurd (Except.error.inj hstop) (hfailed _)
    · exact absurd (Except.error.inj hstop) (hfailed _)
    rcases refresh_cases hid hrefresh with ⟨_, hok⟩ | ⟨error, herror⟩ | habandoned | hoverrun
    · cases hok
    · exact absurd (Except.error.inj herror) (hfailed error)
    · exact absurd habandoned hstop
    · exact .inr (.inr hoverrun)

/-! ## Removing a namespace -/

def deletePolicy (m : Manager) : WaitPolicy := m.policy.withTimeout m.timeouts.delete

theorem identityOf_eq_ok_iff {state : State} {identity : Identity} :
    identityOf state = .ok identity ↔
      ∃ id, state.id = some id ∧ Identity.decode id = .ok identity := by
  unfold identityOf
  cases state.id with
  | none => simp
  | some id => simp

theorem removal_of_ok {identity : Identity} {events : List Event}
    (h : cancellable identity "deleted" (m.endpoint.remove identity) s p = (.ok (), events)) :
    ∃ url value, m.endpoint.url identity.project (some identity.name) = .ok url ∧
      p.isCalledOff = false ∧
      (s.transport p.requests ⟨.delete, url, none⟩).outcome = .ok (.ok value) ∧
      p.afterAll events = (p.after (.sent ⟨.delete, url, none⟩)).afterAll
        (s.transport p.requests ⟨.delete, url, none⟩).events ∧
      requestsIn events = [⟨.delete, url, none⟩] := by
  cases hurl : m.endpoint.url identity.project (some identity.name) with
  | error error =>
    rw [cancellable, Endpoint.remove_of_error hurl] at h
    cases eq_of_unlessCalledOff h
  | ok url =>
    obtain ⟨hopen, ⟨answer, hanswer, hjudge⟩, hprogress, hsent⟩ :=
      (Endpoint.remove_isExchange hurl).of_ok_unlessCalledOff h
    cases answer with
    | error error => cases hjudge
    | ok value => exact ⟨url, value, rfl, hopen, hanswer, hprogress, hsent⟩

/-- What the removal of a namespace does: the state has no identity, the wait cannot be started, the
request or the wait stops, or the namespace is gone. -/
inductive DeleteRun (m : Manager) (state : State) (s : Surroundings) (p : Progress) :
    Except Stop State → List Event → Prop
  | unidentified {error : Error} (hidentity : identityOf state = .error error) :
      DeleteRun m state s p (.error (.failed error)) []
  | unnamed (hmoment : ¬p.elapsed < Clock.momentLimit) :
      DeleteRun m state s p (.error .clockOverrun) []
  | refused {error : Error} (hdeadline : m.deletePolicy.deadline p.elapsed = .error error) :
      DeleteRun m state s p (.error (.failed error)) []
  | unremoved {identity : Identity} {deadline : Duration} {stop : Stop} {events : List Event}
      (hidentity : identityOf state = .ok identity)
      (hdeadline : m.deletePolicy.deadline p.elapsed = .ok deadline)
      (hremove : cancellable identity "deleted" (m.endpoint.remove identity) s p =
        (.error stop, events)) :
      DeleteRun m state s p (.error stop) events
  | unfinished {identity : Identity} {deadline : Duration} {stop : Stop} {line : LogLine}
      {first waiting : List Event}
      (hidentity : identityOf state = .ok identity)
      (hdeadline : m.deletePolicy.deadline p.elapsed = .ok deadline)
      (hremove : cancellable identity "deleted" (m.endpoint.remove identity) s p = (.ok (), first))
      (hwait : m.endpoint.awaitDeleted m.deletePolicy identity s (p.afterAll first) =
        (.error stop, waiting)) :
      DeleteRun m state s p (.error stop) (first ++ .logged line :: waiting)
  | removed {identity : Identity} {deadline : Duration} {line line' : LogLine}
      {first waiting : List Event}
      (hidentity : identityOf state = .ok identity)
      (hdeadline : m.deletePolicy.deadline p.elapsed = .ok deadline)
      (hremove : cancellable identity "deleted" (m.endpoint.remove identity) s p = (.ok (), first))
      (hwait : m.endpoint.awaitDeleted m.deletePolicy identity s (p.afterAll first) =
        (.ok (), waiting)) :
      DeleteRun m state s p (.ok { state with id := none })
        (first ++ .logged line :: waiting ++ [.logged line'])

theorem delete_run {state : State} {result : Except Stop State} {events : List Event}
    (h : m.delete state s p = (result, events)) : DeleteRun m state s p result events := by
  unfold delete at h
  cases hidentity : identityOf state with
  | error error =>
    rw [ofExcept_error_bind hidentity, fail_run] at h
    cases h
    exact .unidentified hidentity
  | ok identity =>
    rw [ofExcept_ok_bind hidentity] at h
    rcases checkDeadline_bind_cases h with
      ⟨hmoment, rfl, rfl⟩ | ⟨error, hdeadline, rfl, rfl⟩ | ⟨deadline, hdeadline, hrest⟩
    · exact .unnamed hmoment
    · exact .refused hdeadline
    · rcases bind_cases hrest with ⟨stop, hremove, rfl⟩ | ⟨_, first, _, hremove, hsent, rfl⟩
      · exact .unremoved hidentity hdeadline hremove
      obtain ⟨_, hnamed, rfl⟩ := log_bind_cases hsent
      rcases bind_cases hnamed with ⟨stop, hwait, rfl⟩ | ⟨_, waiting, _, hwait, hdone, rfl⟩
      · exact .unfinished hidentity hdeadline hremove hwait
      obtain ⟨last, hlogged, rfl⟩ := log_bind_cases hdone
      cases hlogged
      rw [← List.cons_append, ← List.append_assoc]
      exact .removed hidentity hdeadline hremove hwait

/-! ## Single readings -/

/-- A view with the declared beginning of the name where the object tells none. -/
def keepPrefix (state refreshed : State) : State :=
  if refreshed.namePrefix = "" then { refreshed with namePrefix := state.namePrefix } else refreshed

/-- What the reading of a namespace does: the state has no identity, or the service is asked. -/
inductive ReadRun (m : Manager) (state : State) (s : Surroundings) (p : Progress) :
    Except Stop State → List Event → Prop
  | unidentified {error : Error} (hidentity : identityOf state = .error error) :
      ReadRun m state s p (.error (.failed error)) []
  | asked {identity : Identity} {found : Except Stop State} {events : List Event}
      (hidentity : identityOf state = .ok identity)
      (hread : cancellable identity "read" (m.refresh identity) s p = (found, events)) :
      ReadRun m state s p (found.map (keepPrefix state)) events

theorem read_run {state : State} {result : Except Stop State} {events : List Event}
    (h : m.read state s p = (result, events)) : ReadRun m state s p result events := by
  unfold read at h
  cases hidentity : identityOf state with
  | error error =>
    rw [ofExcept_error_bind hidentity, fail_run] at h
    cases h
    exact .unidentified hidentity
  | ok identity =>
    rw [ofExcept_ok_bind hidentity] at h
    rcases bind_cases h with ⟨stop, hread, rfl⟩ | ⟨refreshed, first, second, hread, hkept, rfl⟩
    · exact .asked hidentity hread
    · have hpure : (pure (keepPrefix state refreshed) : Run State) s (p.afterAll first) =
          (result, second) := by
        rw [← hkept, keepPrefix]
        split <;> rfl
      cases hpure
      rw [List.append_nil]
      exact .asked hidentity hread

theorem read_of_ok {state view : State} {events : List Event}
    (h : m.read state s p = (.ok view, events)) :
    ∃ identity refreshed, identityOf state = .ok identity ∧
      cancellable identity "read" (m.refresh identity) s p = (.ok refreshed, events) ∧
      view = keepPrefix state refreshed := by
  generalize hresult : (Except.ok view : Except Stop State) = result at h
  cases read_run h with
  | unidentified => cases hresult
  | @asked identity found _ hidentity hread =>
    cases found with
    | error stop => cases hresult
    | ok refreshed =>
      cases hresult
      exact ⟨identity, refreshed, hidentity, hread, rfl⟩

def importStop : Stop → Stop
  | .failed error => .failed (importError error)
  | stop => stop

/-- What an import does: the key names nothing, the service gives no object, or it gives one. -/
inductive ImportRun (m : Manager) (key : String) (s : Surroundings) (p : Progress) :
    Except Stop State → List Event → Prop
  | malformed {error : Error} (hidentity : Identity.ofImportKey key = .error error) :
      ImportRun m key s p (.error (.failed error)) []
  | stopped {identity : Identity} {stop : Stop} {events : List Event}
      (hidentity : Identity.ofImportKey key = .ok identity)
      (hfetch : cancellable identity "imported" (m.endpoint.fetch identity) s p =
        (.error stop, events)) :
      ImportRun m key s p (.error (importStop stop)) events
  | imported {identity : Identity} {object : RemoteObject} {id : String} {line : LogLine}
      {events : List Event} (hidentity : Identity.ofImportKey key = .ok identity)
      (hfetch : cancellable identity "imported" (m.endpoint.fetch identity) s p =
        (.ok object, events))
      (hid : identity.encode = .ok id) :
      ImportRun m key s p (.ok (.ofObject id identity object)) (events ++ [.logged line])

theorem importKey_run {key : String} {result : Except Stop State} {events : List Event}
    (h : m.importKey key s p = (result, events)) : ImportRun m key s p result events := by
  unfold importKey at h
  cases hidentity : Identity.ofImportKey key with
  | error error =>
    rw [ofExcept_error_bind hidentity, fail_run] at h
    cases h
    exact .malformed hidentity
  | ok identity =>
    rw [ofExcept_ok_bind hidentity] at h
    rcases bind_cases h with ⟨stop, hlook, rfl⟩ | ⟨looked, first, second, hlook, hrest, rfl⟩
    · rcases attempt_cases hlook with ⟨_, _, hok⟩ | ⟨_, _, hok⟩ | ⟨stop, hfetch, hfailed, hstop⟩
      · cases hok
      · cases hok
      cases hstop
      have hkept : importStop stop = stop := by
        cases stop with
        | failed error => exact absurd rfl (hfailed error)
        | abandoned => rfl
        | clockOverrun => rfl
      rw [← hkept]
      exact .stopped hidentity hfetch
    · rcases attempt_cases hlook with
        ⟨object, hfetch, hok⟩ | ⟨error, hfetch, hok⟩ | ⟨_, _, _, hstop⟩
      · cases hok
        obtain ⟨id, hid⟩ := Identity.exists_encode (Identity.ne_of_ofImportKey hidentity)
        simp only [ofExcept_ok_bind (Identity.view_of_encode hid object)] at hrest
        obtain ⟨_, hpure, rfl⟩ := log_bind_cases hrest
        cases hpure
        exact .imported hidentity hfetch hid
      · cases hok
        cases hrest
        rw [List.append_nil]
        exact .stopped hidentity hfetch
      · cases hstop

end Manager

end NamespaceLifecycle
