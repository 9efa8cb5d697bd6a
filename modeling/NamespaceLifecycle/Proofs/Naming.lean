import NamespaceLifecycle.Proofs.Creation
import NamespaceLifecycle.Proofs.Refusal
import NamespaceLifecycle.Proofs.Request

/-!
# Errors that name what was submitted

A submission that is granted leaves an object behind under a name that only its answer tells. When
the operation fails after that, whoever wants to import the object or to remove it needs this name
from the error. Every error of the wait and of the last reading has it, and there is one exception:
the refusal of a wait that starts too late speaks of the time alone.
-/

namespace NamespaceLifecycle

/-- An error tells the name of an object: as its own, as that of the state that it holds, or at the
end of the address that could not be made. -/
inductive Error.Names (name : String) : Error → Prop
  | transport (operation : Operation) (project : String) (source : TransportError) :
      Names name (.transport operation project name source)
  | notFound (operation : Operation) (project : String) :
      Names name (.notFound operation project name)
  | backendErrorState (project : String) : Names name (.backendErrorState project name)
  | waitTimeout (project target : String) (timeout : Duration) (polls : UInt32) :
      Names name (.waitTimeout project name target timeout polls)
  | cancelled (project target : String) : Names name (.cancelled project name target)
  | createdUnread {state : State} (hname : state.name = name) (source : Error) :
      Names name (.createdUnread state source)
  | urlConstruction (collection reason : String) :
      Names name (.urlConstruction (collection ++ "/" ++ name) reason)

theorem Error.names_ofTransport (operation : Operation) (project name : String)
    (source : TransportError) : (Error.ofTransport operation project name source).Names name := by
  unfold Error.ofTransport
  split
  · exact .notFound _ _
  · exact .transport _ _ _

theorem Error.IsValidation.not_names {error : Error} (h : error.IsValidation) (name : String) :
    ¬error.Names name := by
  obtain ⟨field, reason, rfl⟩ := h
  rintro ⟨⟩

theorem resourceText_some (server project name : String) :
    resourceText server project (some name) =
      resourceText server project none ++ "/" ++ name := by
  simp [resourceText, String.append_assoc]

theorem names_of_resourceUrl {domains : Url.Domains} {server project name : String} {error : Error}
    (h : resourceUrl domains server project (some name) = .error error) : error.Names name := by
  simp only [resourceUrl, resourceText_some] at h
  split at h
  · cases h
    exact .urlConstruction _ _
  · split at h
    · cases h
      exact .urlConstruction _ _
    · split at h
      · cases h
        exact .urlConstruction _ _
      · cases h

namespace Endpoint

open Run

variable {e : Endpoint}

/-- Where collections have addresses, the address that a namespace lacks ends with its name. -/
theorem names_of_url {project name : String} {collection : Url} {error : Error}
    (hcollection : e.url project none = .ok collection)
    (h : e.url project (some name) = .error error) : error.Names name := by
  unfold url at hcollection h
  cases hserver : e.server? with
  | none =>
    rw [hserver] at hcollection
    cases hcollection
  | some server =>
    rw [hserver] at h
    exact names_of_resourceUrl h

/-- What a look at a namespace finds wrong is told with its name. -/
theorem names_of_createdOutcome {identity : Identity} {answer : Answer} {error : Error}
    (h : createdOutcome identity (found identity answer) = .failed error) :
    error.Names identity.name := by
  cases hobject : objectOf answer with
  | error source =>
    rw [found, hobject, mapError_error, createdOutcome, PollOutcome.failed.injEq] at h
    exact h ▸ Error.names_ofTransport _ _ _ _
  | ok object =>
    rw [found, hobject, mapError_ok, createdOutcome, judged] at h
    split at h
    · cases h
    · cases h
    · cases h
      exact .backendErrorState _

theorem pollCreated_names {identity : Identity} {collection : Url}
    (hcollection : e.url identity.project none = .ok collection) :
    PollsWith (Error.Names identity.name) (e.pollCreated identity) := by
  cases hurl : e.url identity.project (some identity.name) with
  | error error =>
    rw [pollCreated_of_error hurl]
    exact pollsWith_pure (names_of_url hcollection hurl)
  | ok url =>
    refine pollsWith_of_isExchange (pollCreated_isExchange hurl) fun answer error herror ↦ ?_
    cases houtcome : createdOutcome identity (found identity answer) with
    | pending =>
      rw [houtcome] at herror
      cases herror
    | done object =>
      rw [houtcome] at herror
      cases herror
    | failed other =>
      rw [houtcome] at herror
      cases herror
      exact names_of_createdOutcome houtcome

end Endpoint

namespace Manager

open Run

variable {m : Manager} {s : Surroundings} {p : Progress}

/-- A submission that is answered by an object with a name does not fail. -/
theorem submission_ne_failed {config : State} {error : Error} {events : List Event} {name : String}
    (hsubmitted : SubmittedAs m config s p events name) (hname : name ≠ "") :
    m.submission config s p ≠ (.error (.failed error), events) := by
  intro hsubmit
  obtain ⟨url, value, object, hurl, hsent, hanswer, hobject, rfl⟩ := hsubmitted
  have hrun := submission_follows config hsubmit
  generalize hresult : (Except.error (.failed error) : Except Stop RemoteObject) = result at hrun
  cases hrun with
  | unsent => cases hsent
  | unaddressed => cases hsent
  | overrun => cases hresult
  | unanswered _ haddress hreply =>
    cases hurl.symm.trans haddress
    simp only [submissionPlan] at hreply
    rw [hreply] at hanswer
    cases hanswer
  | answered _ haddress hreply =>
    cases hurl.symm.trans haddress
    simp only [submissionPlan] at hreply hresult
    rw [hreply] at hanswer
    cases hanswer
    rw [Except.bind, Endpoint.submitted_eq_ok_iff.2 ⟨⟨value, rfl, hobject⟩, hname⟩] at hresult
    cases hresult

theorem SubmittedAs.name_eq {config : State} {events first : List Event} {name : String}
    {submitted : RemoteObject} (h : SubmittedAs m config s p events name)
    (hsubmit : m.submission config s p = (.ok submitted, first)) : submitted.name = name := by
  obtain ⟨url, value, object, hurl, -, hanswer, hobject, rfl⟩ := h
  obtain ⟨url', answer, hurl', -, hanswer', hsubmitted, -⟩ := submission_of_ok hsubmit
  cases hurl.symm.trans hurl'
  cases hanswer.symm.trans hanswer'
  obtain ⟨hshows, -⟩ := Endpoint.submitted_eq_ok_iff.1 hsubmitted
  rw [Endpoint.eq_of_shows hshows ⟨value, rfl, hobject⟩]

/-- A failure after a submission that was answered by an object with a name tells this name, or is
the refusal of a wait that starts too late. -/
theorem names_or_late_of_create {config : State} {error : Error} {events : List Event}
    {name : String} (hrun : m.create config s p = (.error (.failed error), events))
    (hsubmitted : SubmittedAs m config s p events name) (hname : name ≠ "") :
    error.Names name ∨ m.RefusesLate s p (.create config) := by
  cases create_run hrun with
  | invalid =>
    obtain ⟨_, _, _, _, hsent, -⟩ := hsubmitted
    cases hsent
  | refused =>
    obtain ⟨_, _, _, _, hsent, -⟩ := hsubmitted
    cases hsent
  | unsubmitted _ _ hsubmit => exact absurd hsubmit (submission_ne_failed hsubmitted hname)
  | @unfinished _ submitted _ line first waiting hvalid hdeadline hsubmit hwait =>
    obtain rfl := hsubmitted.name_eq hsubmit
    obtain ⟨url, -, hurl, -⟩ := submission_of_ok hsubmit
    rcases (waitUntil_run hwait).failsWith (.cancelled _ _)
      (fun _ ↦ Endpoint.pollCreated_names hurl) with
      hnames | ⟨_, rfl, -⟩ | ⟨hmoment, hrefused⟩
    · exact .inl hnames
    · exact .inl (.waitTimeout _ _ _ _)
    · exact .inr (refusesLate_of_submission hvalid hdeadline hsubmit
        (WaitPolicy.isLate_of_deadline hdeadline hmoment hrefused))
  | @made _ submitted object id _ _ _ _ _ _ _ _ hsubmit _ hid hlast =>
    obtain rfl := hsubmitted.name_eq hsubmit
    rcases readBack_cases hid hlast with ⟨_, hresult⟩ | ⟨_, hresult⟩ | ⟨hresult, -⟩
    · cases hresult
    · cases hresult
      have hname : (createdState config id submitted.name object).name = submitted.name := rfl
      exact .inl (.createdUnread hname _)
    · cases hresult

/-- Once the submission is answered by an object with a name, a failure tells this name if and only
if it is not the refusal of a wait that starts too late. -/
theorem create_failure_names_iff {config : State} {error : Error} {events : List Event}
    {name : String} (hrun : m.create config s p = (.error (.failed error), events))
    (hsubmitted : SubmittedAs m config s p events name) (hname : name ≠ "") :
    error.Names name ↔ ¬m.RefusesLate s p (.create config) := by
  constructor
  · intro hnames hlate
    obtain ⟨other, hother, hresult, -⟩ := validation_of_create_late hlate
    rw [hrun, Except.error.injEq, Stop.failed.injEq] at hresult
    exact hother.not_names name (hresult ▸ hnames)
  · exact (names_or_late_of_create hrun hsubmitted hname).resolve_right

/-- A submission that is granted after 2^62 seconds, where the wait may take as many again, leaves
an object behind whose name the error does not tell. -/
theorem create_failure_unnamed_of_late :
    let config : State :=
      { State.empty with
        namePrefix := "dev", projectName := "shop", className := "small", regionName := "west"
        vpcName := "vpc", storageClassOverrides := [⟨"fast", 1⟩],
        zoneOverrides := [⟨"z", 1, 1, 1, 1⟩] }
    let m : Manager := ⟨⟨"https://vcfa.example.com", .ascii⟩, .usual,
      ⟨some (.ofSeconds 4611686018427387904), WaitPolicy.usualTimeout⟩⟩
    let submitted : Json := .object [("metadata", .object [("name", .text "dev-1")])]
    let s : Surroundings :=
      ⟨fun _ _ ↦ .answered (.ofSeconds 4611686018427387904) false [] (.ok submitted), fun _ ↦ false⟩
    ∃ error events, m.create config s .start = (.error (.failed error), events) ∧
      SubmittedAs m config s .start events "dev-1" ∧ ¬error.Names "dev-1" := by
  intro config m submitted s
  have hvalid : config.validate = .ok () := by decide +kernel
  have hdeadline : m.createPolicy.deadline Progress.start.elapsed =
      .ok (.ofSeconds 4611686018427387904) := by decide +kernel
  have hok : (m.endpoint.url "shop" none).isOk = true := by decide +kernel
  have hlate : m.createPolicy.IsLate
      (Progress.start.elapsed.plus (.ofSeconds 4611686018427387904)) :=
    ⟨by decide +kernel, by decide +kernel⟩
  have hobject : (Endpoint.submitted "shop" config.toObject (.ok submitted)).map
      RemoteObject.name = .ok "dev-1" := by decide +kernel
  have hgranted : (Endpoint.submitted "shop" config.toObject (.ok submitted)).isOk = true := by
    decide +kernel
  obtain ⟨url, hurl⟩ := exists_of_isOk hok
  obtain ⟨object, hsubmitted⟩ := exists_of_isOk hgranted
  rw [hsubmitted] at hobject
  have hrefused : m.RefusesLate s .start (.create config) :=
    ⟨hvalid, rfl, ⟨_, hdeadline⟩, url, .ok submitted, object, hurl, rfl, hsubmitted, hlate⟩
  obtain ⟨created, first, rest, error, hsubmit, -, hrun⟩ := create_of_late hrefused
  have hsame : created.name = "dev-1" := by
    obtain ⟨_, answer, hurl', -, hanswer, hcreated, -⟩ := submission_of_ok hsubmit
    cases hanswer
    cases hsubmitted.symm.trans hcreated
    exact Except.ok.inj hobject
  have hnamed : SubmittedAs m config s .start (first ++ rest) "dev-1" :=
    hsame ▸ submittedAs_of_ok hsubmit
  exact ⟨error, _, hrun, hnamed, fun hnames ↦
    (create_failure_names_iff hrun hnamed (by decide)).1 hnames hrefused⟩

end Manager

end NamespaceLifecycle
