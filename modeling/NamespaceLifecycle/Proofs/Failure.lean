import NamespaceLifecycle.Proofs.Decision
import NamespaceLifecycle.Proofs.Lifecycle

/-!
# Kinds of errors

The checks of the inputs end in refusals, which say what is wrong with an input. What a request can
end in is said for any kind of errors to which all of these belong, once for the submission, the
removal, the single reads and the polls; so a fact about errors holds of an operation as soon as it
holds of each of them.
-/

namespace NamespaceLifecycle

def Error.IsValidation (error : Error) : Prop := ∃ field reason, error = .validation field reason

/-- An error that says what is wrong with the inputs of a call. -/
def Error.IsRefusal (error : Error) : Prop :=
  error.IsValidation ∨ ∃ id reason, error = .malformedIdentifier id reason

def Error.IsTimeout (error : Error) : Prop :=
  ∃ project name target timeout polls, error = .waitTimeout project name target timeout polls

theorem State.isRefusal_of_fieldFault? {config : State} {field : Field} {error : Error}
    (h : config.fieldFault? field = some error) : error.IsRefusal := by
  simp only [fieldFault?] at h
  split at h
  · cases h
    exact .inl ⟨_, _, rfl⟩
  · split at h
    · split at h
      · cases h
        exact .inl ⟨_, _, rfl⟩
      · cases h
    · cases h

theorem State.isRefusal_of_validate {config : State} {error : Error}
    (h : config.validate = .error error) : error.IsRefusal := by
  unfold validate at h
  split at h
  · rename_i fault hfault
    cases h
    obtain ⟨field, -, hfield⟩ := List.exists_of_findSome?_eq_some hfault
    exact isRefusal_of_fieldFault? hfield
  · split at h
    · cases h
      exact .inl ⟨_, _, rfl⟩
    · split at h
      · cases h
        exact .inl ⟨_, _, rfl⟩
      · split at h
        · cases h
          exact .inl ⟨_, _, rfl⟩
        · cases h

theorem WaitPolicy.isRefusal_of_deadline {policy : WaitPolicy} {moment : Duration} {error : Error}
    (h : policy.deadline moment = .error error) : error.IsRefusal := by
  unfold deadline at h
  split at h
  · cases h
    exact .inl ⟨_, _, rfl⟩
  · split at h
    · cases h
    · cases h
      exact .inl ⟨_, _, rfl⟩

theorem Identity.isRefusal_of_decode {id : String} {error : Error}
    (h : decode id = .error error) : error.IsRefusal :=
  .inr ⟨id, malformed_of_decode h⟩

theorem Identity.isRefusal_of_ofImportKey {key : String} {error : Error}
    (h : ofImportKey key = .error error) : error.IsRefusal := by
  unfold ofImportKey at h
  split at h
  · split at h
    · cases h
      exact .inr ⟨_, _, rfl⟩
    · cases h
  · cases h
    exact .inr ⟨_, _, rfl⟩

theorem Manager.isRefusal_of_identityOf {state : State} {error : Error}
    (h : Manager.identityOf state = .error error) : error.IsRefusal := by
  unfold Manager.identityOf at h
  split at h
  · exact Identity.isRefusal_of_decode h
  · cases h
    exact .inl ⟨_, _, rfl⟩

/-- A kind to which all errors belong that a request can end in. -/
structure Error.IsRequestKind (kind : Error → Prop) : Prop where
  transport : ∀ operation project name source, kind (.transport operation project name source)
  notFound : ∀ operation project name, kind (.notFound operation project name)
  urlConstruction : ∀ url reason, kind (.urlConstruction url reason)
  incompleteResponse : ∀ operation project reason,
    kind (.incompleteResponse operation project reason)
  backendErrorState : ∀ project name, kind (.backendErrorState project name)
  cancelled : ∀ project name target, kind (.cancelled project name target)

theorem Error.IsRequestKind.ofTransport {kind : Error → Prop} (h : Error.IsRequestKind kind)
    (operation : Operation) (project name : String) (source : TransportError) :
    kind (.ofTransport operation project name source) := by
  unfold Error.ofTransport
  split
  · exact h.notFound _ _ _
  · exact h.transport _ _ _ _

/-- No request ends in an error that says that an input is wrong. -/
theorem Error.isRequestKind_not_isValidation : Error.IsRequestKind (¬·.IsValidation) := by
  constructor <;> intros <;> rintro ⟨_, _, h⟩ <;> cases h

namespace Endpoint

open Run

variable {e : Endpoint} {s : Surroundings} {p : Progress} {kind : Error → Prop}
  (hkind : Error.IsRequestKind kind)

include hkind

theorem kind_of_url {project : String} {name : Option String} {error : Error}
    (h : e.url project name = .error error) : kind error := by
  obtain ⟨_, _, rfl⟩ := urlConstruction_of_url h
  exact hkind.urlConstruction _ _

theorem submit_failsWith (project : String) (object : RemoteObject) :
    FailsWith kind (e.submit project object) := by
  refine (failsWith_ofExcept fun _ ↦ kind_of_url hkind).bind fun url ↦ ?_
  refine (failsWith_send _).bind fun answer ↦ ?_
  cases objectOf answer with
  | error error => exact failsWith_fail (hkind.ofTransport _ _ _ _)
  | ok created =>
    by_cases hname : created.name = ""
    · simp only [if_pos hname]
      exact failsWith_fail (hkind.incompleteResponse _ _ _)
    · simp only [if_neg hname]
      exact (failsWith_log _ _).bind fun _ ↦ failsWith_pure _

theorem fetch_failsWith (identity : Identity) : FailsWith kind (e.fetch identity) := by
  refine (failsWith_ofExcept fun _ ↦ kind_of_url hkind).bind fun url ↦ ?_
  refine (failsWith_send _).bind fun answer ↦ ?_
  cases objectOf answer with
  | error error => exact failsWith_fail (hkind.ofTransport _ _ _ _)
  | ok object => exact failsWith_pure _

theorem remove_failsWith (identity : Identity) : FailsWith kind (e.remove identity) := by
  refine (failsWith_ofExcept fun _ ↦ kind_of_url hkind).bind fun url ↦ ?_
  refine (failsWith_send _).bind fun answer ↦ ?_
  cases answer with
  | error error => exact failsWith_fail (hkind.ofTransport _ _ _ _)
  | ok value => exact failsWith_pure _

theorem kind_of_verdict {α : Type} {identity : Identity} {target : String}
    {reached : RemoteObject → α} {absent : Except Error α}
    (habsent : ∀ error, absent = .error error → kind error) {answer : Answer}
    {error : Error} (h : identity.verdict? target reached absent answer = some (.error error)) :
    kind error := by
  unfold Identity.verdict? at h
  split at h
  · split at h
    · exact habsent _ (Option.some.inj h)
    · cases h
      exact hkind.transport _ _ _ _
  · split at h
    · cases h
      exact hkind.transport _ _ _ _
    · split at h
      · cases h
        exact hkind.backendErrorState _ _
      · split at h <;> cases h

omit hkind in
/-- A poll that looks once fails, or finds a failure, with errors of the kind of its outcomes. -/
theorem pollsWith_of_isExchange {α : Type} {request : Request} {outcome : Answer → PollOutcome α}
    {x : Run (PollOutcome α)} (hx : IsExchange request (fun answer ↦ .ok (outcome answer)) x)
    (houtcome : ∀ answer error, (outcome answer).verdict? = some (.error error) → kind error) :
    PollsWith kind x := by
  rintro s p error events (hrun | hrun)
  · rcases hx.of_error hrun with ⟨-, hstop, -⟩ | ⟨hstop, -⟩ | ⟨_, _, -, hjudge, -⟩
    · cases hstop
    · cases hstop
    · cases hjudge
  · obtain ⟨-, ⟨answer, -, hjudge⟩, -⟩ := hx.of_ok hrun
    apply houtcome answer
    rw [Except.ok.inj hjudge]
    rfl

theorem pollCreated_pollsWith (identity : Identity) : PollsWith kind (e.pollCreated identity) := by
  cases hurl : e.url identity.project (some identity.name) with
  | error error =>
    rw [pollCreated_of_error hurl]
    exact pollsWith_pure (kind_of_url hkind hurl)
  | ok url =>
    refine pollsWith_of_isExchange (pollCreated_isExchange hurl) fun answer error herror ↦ ?_
    rw [createdOutcome_verdict?] at herror
    apply kind_of_verdict hkind _ herror
    rintro _ habsent
    cases habsent
    exact hkind.notFound _ _ _

theorem pollDeleted_pollsWith (identity : Identity) : PollsWith kind (e.pollDeleted identity) := by
  cases hurl : e.url identity.project (some identity.name) with
  | error error =>
    rw [pollDeleted_of_error hurl]
    exact pollsWith_pure (kind_of_url hkind hurl)
  | ok url =>
    refine pollsWith_of_isExchange (pollDeleted_isExchange hurl) fun answer error herror ↦ ?_
    rw [deletedOutcome_verdict?] at herror
    apply kind_of_verdict hkind _ herror
    rintro _ habsent
    cases habsent

end Endpoint

end NamespaceLifecycle
