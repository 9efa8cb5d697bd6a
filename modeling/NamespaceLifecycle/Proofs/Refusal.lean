import NamespaceLifecycle.Proofs.Failure

/-!
# Refused inputs and requests

A call fails by one of its requests, by a refusal of its inputs, by the end of its time, or because
it loses sight of what was made. It says that an input is wrong before it sends a request, with one
exception. The time for a wait is checked before the first request, and again when the wait starts;
when the request that comes between takes very long, the second check can refuse a time that the
first has accepted, although the request is granted by then. The condition for this is exact.
-/

namespace NamespaceLifecycle

/-- A moment that the clock can name, but not the end of a wait that starts then. -/
def WaitPolicy.IsLate (policy : WaitPolicy) (moment : Duration) : Prop :=
  moment < Clock.momentLimit ∧ ¬moment.plus policy.timeout < Clock.momentLimit

theorem WaitPolicy.deadline_of_isLate {policy : WaitPolicy} {start deadline moment : Duration}
    (haccepted : policy.deadline start = .ok deadline) (hlate : policy.IsLate moment) :
    ∃ reason, policy.deadline moment = .error (.validation "timeout" reason) := by
  obtain ⟨hinterval, -⟩ := deadline_eq_ok_iff.1 haccepted
  refine ⟨policy.timeout.text ++ " is out of range", ?_⟩
  rw [WaitPolicy.deadline, if_neg (Nat.ne_of_gt hinterval), Clock.later?, Clock.moment?,
    if_neg hlate.2]

theorem WaitPolicy.isLate_of_deadline {policy : WaitPolicy} {start deadline moment : Duration}
    {error : Error} (haccepted : policy.deadline start = .ok deadline)
    (hmoment : moment < Clock.momentLimit) (hrefused : policy.deadline moment = .error error) :
    policy.IsLate moment := by
  obtain ⟨hinterval, -⟩ := deadline_eq_ok_iff.1 haccepted
  refine ⟨hmoment, fun hlimit ↦ ?_⟩
  rw [deadline_eq_ok_iff.2 ⟨hinterval, hlimit, rfl⟩] at hrefused
  cases hrefused

inductive Call where
  | create (config : State)
  | read (state : State)
  | delete (state : State)
  | importKey (key : String)

namespace Manager

open Run

variable {m : Manager} {s : Surroundings} {p : Progress}

def perform (m : Manager) : Call → Run State
  | .create config => m.create config
  | .read state => m.read state
  | .delete state => m.delete state
  | .importKey key => m.importKey key

/-- The time for the wait is accepted when a call starts, and is refused when the wait starts: the
request between is granted so late that the clock cannot name the deadline any more. -/
def RefusesLate (m : Manager) (s : Surroundings) (p : Progress) : Call → Prop
  | .create config => config.validate = .ok () ∧ p.isCalledOff = false ∧
    (∃ deadline, m.createPolicy.deadline p.elapsed = .ok deadline) ∧
    ∃ url answer submitted, m.endpoint.url config.projectName none = .ok url ∧
      (s.transport p.requests ⟨.post, url, some config.toObject.toJson⟩).outcome = .ok answer ∧
      Endpoint.submitted config.projectName config.toObject answer = .ok submitted ∧
      m.createPolicy.IsLate (p.elapsed.plus
        (s.transport p.requests ⟨.post, url, some config.toObject.toJson⟩).takes)
  | .delete state => p.isCalledOff = false ∧
    (∃ deadline, m.deletePolicy.deadline p.elapsed = .ok deadline) ∧
    ∃ identity url value, identityOf state = .ok identity ∧
      m.endpoint.url identity.project (some identity.name) = .ok url ∧
      (s.transport p.requests ⟨.delete, url, none⟩).outcome = .ok (.ok value) ∧
      m.deletePolicy.IsLate (p.elapsed.plus (s.transport p.requests ⟨.delete, url, none⟩).takes)
  | .read _ => False
  | .importKey _ => False

/-- What a call fails with: an error of one of its requests, a refusal of its inputs, which comes
before anything happens or late, the end of its time while it is not called off, or the loss of
sight of what was made. -/
inductive FailsBy (kind : Error → Prop) (m : Manager) (s : Surroundings) (p : Progress)
    (call : Call) (error : Error) (events : List Event) : Prop
  | request (hkind : kind error)
  | refused (hrefused : error.IsRefusal) (hwhen : events = [] ∨ m.RefusesLate s p call)
  | expired (htimeout : error.IsTimeout) (hopen : (p.afterAll events).isCalledOff = false)
  | unread {config : State} {name id : String} {object : RemoteObject} {source : Error}
      (hcall : call = .create config)
      (hid : Identity.encode ⟨config.projectName, name⟩ = .ok id)
      (herror : error = .createdUnread (createdState config id name object) source)

theorem ne_of_identityOf {state : State} {identity : Identity}
    (h : identityOf state = .ok identity) : identity.project ≠ "" ∧ identity.name ≠ "" := by
  unfold identityOf at h
  split at h
  · exact Identity.ne_of_decode h
  · cases h

section Kinds

variable {kind : Error → Prop} (hkind : Error.IsRequestKind kind)

include hkind

theorem submission_failsWith (config : State) : FailsWith kind (m.submission config) :=
  (Endpoint.submit_failsWith hkind _ _).unlessCalledOff (hkind.cancelled _ _ _)

theorem removal_failsWith (identity : Identity) :
    FailsWith kind (cancellable identity "deleted" (m.endpoint.remove identity)) :=
  (Endpoint.remove_failsWith hkind _).unlessCalledOff (hkind.cancelled _ _ _)

/-- The view of an object does not fail where the identity has a text. -/
theorem refresh_failsWith {identity : Identity} {target : String}
    (hne : identity.project ≠ "" ∧ identity.name ≠ "") :
    FailsWith kind (cancellable identity target (m.refresh identity)) := by
  obtain ⟨id, hid⟩ := Identity.exists_encode hne
  refine FailsWith.unlessCalledOff ?_ (hkind.cancelled _ _ _)
  refine (Endpoint.fetch_failsWith hkind identity).bind fun object ↦ ?_
  rw [Identity.view_of_encode hid]
  exact failsWith_pure _

/-- An import that ends early does so with an error of its request, or one that names it. -/
theorem importStop_failsWith {identity : Identity} {stop : Stop} {error : Error}
    {events : List Event}
    (hfetch : cancellable identity "imported" (m.endpoint.fetch identity) s p =
      (.error stop, events)) (herror : importStop stop = .failed error) : kind error := by
  cases stop with
  | abandoned => cases herror
  | clockOverrun => cases herror
  | failed cause =>
    have hcause : kind cause := (Endpoint.fetch_failsWith hkind identity).unlessCalledOff
      (hkind.cancelled _ _ _) hfetch
    cases herror
    cases cause with
    | notFound operation project name => exact hkind.notFound _ _ _
    | _ => exact hcause

end Kinds

/-- A wait that starts too late is refused. -/
theorem waitUntil_of_isLate {α : Type} {policy : WaitPolicy} {subject : WaitSubject}
    {poll : Nat → Run (PollOutcome α)} {start deadline : Duration} {result : Except Stop α}
    {events : List Event} (haccepted : policy.deadline start = .ok deadline)
    (hlate : policy.IsLate p.elapsed)
    (h : waitUntil policy subject poll s p = (result, events)) :
    ∃ error : Error, error.IsValidation ∧ result = .error (.failed error) := by
  obtain ⟨reason, hrefused⟩ := WaitPolicy.deadline_of_isLate haccepted hlate
  rw [waitUntil_of_refused hlate.1 hrefused] at h
  cases h
  exact ⟨_, ⟨_, _, rfl⟩, rfl⟩

/-- A submission that is granted so late that the wait is refused. -/
theorem refusesLate_of_submission {config : State} {deadline : Duration} {submitted : RemoteObject}
    {first : List Event} (hvalid : config.validate = .ok ())
    (hdeadline : m.createPolicy.deadline p.elapsed = .ok deadline)
    (hsubmit : m.submission config s p = (.ok submitted, first))
    (hlate : m.createPolicy.IsLate (p.afterAll first).elapsed) :
    m.RefusesLate s p (.create config) := by
  obtain ⟨url, answer, hurl, hopen, hanswer, hsubmitted, hprogress, -⟩ := submission_of_ok hsubmit
  rw [hprogress, Reply.afterAll_events] at hlate
  exact ⟨hvalid, hopen, ⟨deadline, hdeadline⟩, url, answer, submitted, hurl, hanswer, hsubmitted,
    hlate⟩

/-- A removal that is granted so late that the wait is refused. -/
theorem refusesLate_of_removal {state : State} {identity : Identity} {deadline : Duration}
    {first : List Event} (hidentity : identityOf state = .ok identity)
    (hdeadline : m.deletePolicy.deadline p.elapsed = .ok deadline)
    (hremove : cancellable identity "deleted" (m.endpoint.remove identity) s p = (.ok (), first))
    (hlate : m.deletePolicy.IsLate (p.afterAll first).elapsed) :
    m.RefusesLate s p (.delete state) := by
  obtain ⟨url, value, hurl, hopen, hanswer, hprogress, -⟩ := removal_of_ok hremove
  rw [hprogress, Reply.afterAll_events] at hlate
  exact ⟨hopen, ⟨deadline, hdeadline⟩, identity, url, value, hidentity, hurl, hanswer, hlate⟩

/-! ## What calls fail with -/

section Kinds

variable {kind : Error → Prop} (hkind : Error.IsRequestKind kind)

include hkind

/-- A call fails by its wait, which follows a request and a line of the log. -/
theorem failsBy_of_waitUntil {α : Type} {call : Call} {policy : WaitPolicy} {subject : WaitSubject}
    {poll : Nat → Run (PollOutcome α)} {start deadline : Duration} {error : Error} {line : LogLine}
    {first waiting : List Event} (hpoll : ∀ k, PollsWith kind (poll k))
    (haccepted : policy.deadline start = .ok deadline)
    (hlate : policy.IsLate (p.afterAll first).elapsed → m.RefusesLate s p call)
    (h : waitUntil policy subject poll s (p.afterAll first) = (.error (.failed error), waiting)) :
    m.FailsBy kind s p call error (first ++ .logged line :: waiting) := by
  rcases (waitUntil_run h).failsWith (hkind.cancelled _ _ _) hpoll with
    hfails | ⟨_, rfl, hopen⟩ | ⟨hmoment, hrefused⟩
  · exact .request hfails
  · refine .expired ⟨_, _, _, _, _, rfl⟩ ?_
    rw [Progress.afterAll_append]
    exact hopen
  · exact .refused (WaitPolicy.isRefusal_of_deadline hrefused)
      (.inr (hlate (WaitPolicy.isLate_of_deadline haccepted hmoment hrefused)))

theorem create_failsBy {config : State} {error : Error} {events : List Event}
    (h : m.create config s p = (.error (.failed error), events)) :
    m.FailsBy kind s p (.create config) error events := by
  cases create_run h with
  | invalid hinvalid => exact .refused (State.isRefusal_of_validate hinvalid) (.inl rfl)
  | refused hrefused => exact .refused (WaitPolicy.isRefusal_of_deadline hrefused) (.inl rfl)
  | unsubmitted _ _ hsubmit => exact .request (submission_failsWith hkind config hsubmit)
  | unfinished hvalid hdeadline hsubmit hwait =>
    exact failsBy_of_waitUntil hkind (fun _ ↦ Endpoint.pollCreated_pollsWith hkind _) hdeadline
      (refusesLate_of_submission hvalid hdeadline hsubmit) hwait
  | made _ _ _ _ hid hlast =>
    rcases readBack_cases hid hlast with ⟨_, hresult⟩ | ⟨_, hresult⟩ | ⟨hresult, -⟩
    · cases hresult
    · exact .unread rfl hid (Stop.failed.inj (Except.error.inj hresult))
    · cases hresult

theorem delete_failsBy {state : State} {error : Error} {events : List Event}
    (h : m.delete state s p = (.error (.failed error), events)) :
    m.FailsBy kind s p (.delete state) error events := by
  cases delete_run h with
  | unidentified hnone => exact .refused (isRefusal_of_identityOf hnone) (.inl rfl)
  | refused hrefused => exact .refused (WaitPolicy.isRefusal_of_deadline hrefused) (.inl rfl)
  | unremoved _ _ hremove => exact .request (removal_failsWith hkind _ hremove)
  | unfinished hidentity hdeadline hremove hwait =>
    exact failsBy_of_waitUntil hkind (fun _ ↦ Endpoint.pollDeleted_pollsWith hkind _) hdeadline
      (refusesLate_of_removal hidentity hdeadline hremove) hwait

theorem read_failsBy {state : State} {error : Error} {events : List Event}
    (h : m.read state s p = (.error (.failed error), events)) :
    m.FailsBy kind s p (.read state) error events := by
  generalize hresult : (Except.error (.failed error) : Except Stop State) = result at h
  cases read_run h with
  | unidentified hnone =>
    cases hresult
    exact .refused (isRefusal_of_identityOf hnone) (.inl rfl)
  | @asked identity found _ hidentity hread =>
    cases found with
    | ok refreshed => cases hresult
    | error stop =>
      cases hresult
      exact .request (refresh_failsWith hkind (ne_of_identityOf hidentity) hread)

theorem importKey_failsBy {key : String} {error : Error} {events : List Event}
    (h : m.importKey key s p = (.error (.failed error), events)) :
    m.FailsBy kind s p (.importKey key) error events := by
  generalize hresult : (Except.error (.failed error) : Except Stop State) = result at h
  cases importKey_run h with
  | malformed hmalformed =>
    cases hresult
    exact .refused (Identity.isRefusal_of_ofImportKey hmalformed) (.inl rfl)
  | stopped _ hfetch =>
    exact .request (importStop_failsWith hkind hfetch (Except.error.inj hresult).symm)
  | imported => cases hresult

theorem perform_failsBy {call : Call} {error : Error} {events : List Event}
    (h : m.perform call s p = (.error (.failed error), events)) :
    m.FailsBy kind s p call error events := by
  cases call with
  | create config => exact create_failsBy hkind h
  | read state => exact read_failsBy hkind h
  | delete state => exact delete_failsBy hkind h
  | importKey key => exact importKey_failsBy hkind h

end Kinds

/-- A call that finds an input wrong does so before anything happens, or late. -/
theorem FailsBy.of_isValidation {call : Call} {error : Error} {events : List Event}
    (h : m.FailsBy (¬·.IsValidation) s p call error events) (herror : error.IsValidation) :
    events = [] ∨ m.RefusesLate s p call := by
  obtain ⟨field, reason, rfl⟩ := herror
  cases h with
  | request hkind => exact absurd ⟨field, reason, rfl⟩ hkind
  | refused _ hwhen => exact hwhen
  | expired htimeout =>
    obtain ⟨_, _, _, _, _, htimeout⟩ := htimeout
    cases htimeout
  | unread _ _ hunread => cases hunread

theorem create_late_of_validation {config : State} {error : Error} {events : List Event}
    (hrun : m.create config s p = (.error (.failed error), events)) (herror : error.IsValidation)
    (hsent : requestsIn events ≠ []) : m.RefusesLate s p (.create config) := by
  have hfails := create_failsBy Error.isRequestKind_not_isValidation hrun
  apply (hfails.of_isValidation herror).resolve_left
  rintro rfl
  exact hsent rfl

theorem delete_late_of_validation {state : State} {error : Error} {events : List Event}
    (hrun : m.delete state s p = (.error (.failed error), events)) (herror : error.IsValidation)
    (hsent : requestsIn events ≠ []) : m.RefusesLate s p (.delete state) := by
  have hfails := delete_failsBy Error.isRequestKind_not_isValidation hrun
  apply (hfails.of_isValidation herror).resolve_left
  rintro rfl
  exact hsent rfl

/-- The other calls have no wait, so nothing of theirs is late. -/
theorem read_sends_nothing {state : State} {error : Error} {events : List Event}
    (hrun : m.read state s p = (.error (.failed error), events)) (herror : error.IsValidation) :
    events = [] := by
  have hfails := read_failsBy Error.isRequestKind_not_isValidation hrun
  exact (hfails.of_isValidation herror).resolve_right id

theorem importKey_sends_nothing {key : String} {error : Error} {events : List Event}
    (hrun : m.importKey key s p = (.error (.failed error), events)) (herror : error.IsValidation) :
    events = [] := by
  have hfails := importKey_failsBy Error.isRequestKind_not_isValidation hrun
  exact (hfails.of_isValidation herror).resolve_right id

/-! ## What is refused late -/

theorem lt_countLimit_of_isLate {policy : WaitPolicy} {moment : Duration}
    (h : policy.IsLate moment) : moment < Clock.countLimit :=
  Nat.lt_of_lt_of_le h.1 (by decide)

/-- A creation that is refused late has been submitted. -/
theorem create_of_late {config : State} (hlate : m.RefusesLate s p (.create config)) :
    ∃ submitted first rest, ∃ error : Error, m.submission config s p = (.ok submitted, first) ∧
      error.IsValidation ∧ m.create config s p = (.error (.failed error), first ++ rest) := by
  obtain ⟨hvalid, hopen, ⟨deadline, hdeadline⟩, url, answer, submitted, hurl, hanswer, hsubmitted,
    hmoment⟩ := hlate
  have hexchange := Endpoint.submit_isExchange hurl config.toObject
  obtain ⟨first, hsubmit⟩ :=
    hexchange.ok_of_answer (lt_countLimit_of_isLate hmoment) hanswer hsubmitted
  have hsubmission : m.submission config s p = (.ok submitted, first) :=
    unlessCalledOff_of_ok hopen _ hsubmit
  have hlate : m.createPolicy.IsLate (p.afterAll first).elapsed := by
    rw [(hexchange.of_ok hsubmit).2.2, Reply.afterAll_events]
    exact hmoment
  rcases hrun : m.create config s p with ⟨result, events⟩
  cases create_run hrun with
  | invalid hinvalid => cases hvalid.symm.trans hinvalid
  | unnamed hunnamed => exact absurd (WaitPolicy.lt_of_deadline_eq_ok hdeadline).1 hunnamed
  | refused hrefused => cases hdeadline.symm.trans hrefused
  | unsubmitted _ _ hstopped => cases hsubmission.symm.trans hstopped
  | unfinished _ _ hsubmit' hwait =>
    cases hsubmission.symm.trans hsubmit'
    obtain ⟨error, herror, hresult⟩ := waitUntil_of_isLate hdeadline hlate hwait
    cases hresult
    exact ⟨submitted, first, _, error, hsubmission, herror, rfl⟩
  | made _ _ hsubmit' hwait =>
    cases hsubmission.symm.trans hsubmit'
    obtain ⟨_, _, hresult⟩ := waitUntil_of_isLate hdeadline hlate hwait
    cases hresult

theorem validation_of_create_late {config : State} (hlate : m.RefusesLate s p (.create config)) :
    ∃ error : Error, error.IsValidation ∧ (m.create config s p).1 = .error (.failed error) ∧
      requestsIn (m.create config s p).2 ≠ [] := by
  obtain ⟨submitted, first, rest, error, hsubmit, herror, hrun⟩ := create_of_late hlate
  obtain ⟨_, _, _, _, _, _, _, hsent⟩ := submission_of_ok hsubmit
  refine ⟨error, herror, by rw [hrun], ?_⟩
  simp [hrun, hsent]

theorem validation_of_delete_late {state : State} (hlate : m.RefusesLate s p (.delete state)) :
    ∃ error : Error, error.IsValidation ∧ (m.delete state s p).1 = .error (.failed error) ∧
      requestsIn (m.delete state s p).2 ≠ [] := by
  obtain ⟨hopen, ⟨deadline, hdeadline⟩, identity, url, value, hidentity, hurl, hanswer, hmoment⟩ :=
    hlate
  have hexchange := Endpoint.remove_isExchange hurl
  obtain ⟨first, hremove⟩ :=
    hexchange.ok_of_answer (lt_countLimit_of_isLate hmoment) hanswer rfl
  have hremoval : cancellable identity "deleted" (m.endpoint.remove identity) s p =
      (.ok (), first) := unlessCalledOff_of_ok hopen _ hremove
  have hlate : m.deletePolicy.IsLate (p.afterAll first).elapsed := by
    rw [(hexchange.of_ok hremove).2.2, Reply.afterAll_events]
    exact hmoment
  rcases hrun : m.delete state s p with ⟨result, events⟩
  cases delete_run hrun with
  | unidentified hnone => cases hidentity.symm.trans hnone
  | unnamed hunnamed => exact absurd (WaitPolicy.lt_of_deadline_eq_ok hdeadline).1 hunnamed
  | refused hrefused => cases hdeadline.symm.trans hrefused
  | unremoved hidentity' _ hstopped =>
    cases hidentity.symm.trans hidentity'
    cases hremoval.symm.trans hstopped
  | unfinished hidentity' _ hremove' hwait =>
    cases hidentity.symm.trans hidentity'
    cases hremoval.symm.trans hremove'
    obtain ⟨error, herror, hresult⟩ := waitUntil_of_isLate hdeadline hlate hwait
    cases hresult
    refine ⟨error, herror, rfl, ?_⟩
    simp [hexchange.requestsIn_eq hremove]
  | removed hidentity' _ hremove' hwait =>
    cases hidentity.symm.trans hidentity'
    cases hremoval.symm.trans hremove'
    obtain ⟨_, _, hresult⟩ := waitUntil_of_isLate hdeadline hlate hwait
    cases hresult

/-- A call says that an input is wrong after it has sent a request exactly when the time for its
wait is accepted first and refused late. -/
theorem validation_after_request_iff (m : Manager) (call : Call) (s : Surroundings) (p : Progress) :
    ((∃ error : Error, error.IsValidation ∧ (m.perform call s p).1 = .error (.failed error)) ∧
      requestsIn (m.perform call s p).2 ≠ []) ↔ m.RefusesLate s p call := by
  constructor
  · rintro ⟨⟨error, herror, hresult⟩, hsent⟩
    have hrun : m.perform call s p = (.error (.failed error), (m.perform call s p).2) :=
      Prod.ext hresult rfl
    cases call with
    | create config => exact create_late_of_validation hrun herror hsent
    | delete state => exact delete_late_of_validation hrun herror hsent
    | read state => exact absurd (congrArg requestsIn (read_sends_nothing hrun herror)) hsent
    | importKey key =>
      exact absurd (congrArg requestsIn (importKey_sends_nothing hrun herror)) hsent
  · intro hlate
    cases call with
    | create config =>
      obtain ⟨error, herror, hresult, hsent⟩ := validation_of_create_late hlate
      exact ⟨⟨error, herror, hresult⟩, hsent⟩
    | delete state =>
      obtain ⟨error, herror, hresult, hsent⟩ := validation_of_delete_late hlate
      exact ⟨⟨error, herror, hresult⟩, hsent⟩
    | read state => exact hlate.elim
    | importKey key => exact hlate.elim

/-- A removal that is granted after 2^62 seconds and may wait for as many again is refused late. -/
theorem validation_after_delete_request :
    let m : Manager :=
      ⟨⟨"https://vcfa.example.com", .ascii⟩, .usual, ⟨none, .ofSeconds 4611686018427387904⟩⟩
    let call : Call := .delete { State.empty with id := some "my-project:ns-1" }
    let s : Surroundings :=
      ⟨fun _ _ ↦ .answered (.ofSeconds 4611686018427387904) false [] (.ok .null), fun _ ↦ false⟩
    (∃ error : Error, error.IsValidation ∧ (m.perform call s .start).1 = .error (.failed error)) ∧
      requestsIn (m.perform call s .start).2 ≠ [] := by
  intro m call s
  have hidentity : identityOf { State.empty with id := some "my-project:ns-1" } =
      .ok ⟨"my-project", "ns-1"⟩ := by decide +kernel
  have hdeadline : m.deletePolicy.deadline Progress.start.elapsed =
      .ok (.ofSeconds 4611686018427387904) := by decide +kernel
  have hok : (m.endpoint.url "my-project" (some "ns-1")).isOk = true := by decide +kernel
  have hlate : m.deletePolicy.IsLate
      (Progress.start.elapsed.plus (.ofSeconds 4611686018427387904)) :=
    ⟨by decide +kernel, by decide +kernel⟩
  cases hurl : m.endpoint.url "my-project" (some "ns-1") with
  | error error =>
    rw [hurl] at hok
    cases hok
  | ok url =>
    exact (validation_after_request_iff m call s .start).2
      ⟨rfl, ⟨_, hdeadline⟩, ⟨"my-project", "ns-1"⟩, url, .null, hidentity, hurl, rfl, hlate⟩

end Manager

end NamespaceLifecycle
