import NamespaceLifecycle.Proofs.Protocol

/-!
# The identity over a history

A user makes, imports, reads, changes and removes namespaces in any order, and keeps the state that
the last step has left: the result of a step that ends well, or the state inside the error of a
namespace that was made and not read back. Over every such history the identity of the state is the
text of its own project and name, it is there exactly when something was made or imported and not
removed since, and it is the only source of the address to which requests go.
-/

namespace NamespaceLifecycle

inductive Action where
  | create (config : State)
  | importKey (key : String)
  | read
  | update (planned : State)
  | delete

structure Outcome where
  action : Action
  result : Except Stop State

/-- The namespace of the current state exists from here on. -/
inductive Outcome.Attaches : Outcome → Prop
  | created (config state : State) : Attaches ⟨.create config, .ok state⟩
  | unread (config state : State) (source : Error) :
      Attaches ⟨.create config, .error (.failed (.createdUnread state source))⟩
  | imported (key : String) (state : State) : Attaches ⟨.importKey key, .ok state⟩

/-- The namespace of the current state is gone from here on. -/
inductive Outcome.Detaches : Outcome → Prop
  | deleted (state : State) : Detaches ⟨.delete, .ok state⟩

/-- Something was made or imported, and nothing was removed since. -/
def IsAttached (outcomes : List Outcome) : Prop :=
  ∃ before outcome after, outcomes = before ++ outcome :: after ∧ outcome.Attaches ∧
    ∀ later ∈ after, ¬later.Detaches

theorem not_isAttached_nil : ¬IsAttached [] := by
  rintro ⟨before, outcome, after, houtcomes, -⟩
  cases before <;> cases houtcomes

theorem isAttached_append_of_attaches {outcomes : List Outcome} {outcome : Outcome}
    (h : outcome.Attaches) : IsAttached (outcomes ++ [outcome]) :=
  ⟨outcomes, outcome, [], rfl, h, by simp⟩

theorem isAttached_append_of_not_attaches {outcomes : List Outcome} {outcome : Outcome}
    (h : ¬outcome.Attaches) :
    IsAttached (outcomes ++ [outcome]) ↔ ¬outcome.Detaches ∧ IsAttached outcomes := by
  constructor
  · rintro ⟨before, attaching, after, houtcomes, hattaches, hafter⟩
    -- The outcome that attaches is not the last one, so the last one is among those after it.
    rcases List.eq_nil_or_concat after with rfl | ⟨between, last, rfl⟩
    · obtain ⟨-, hlast⟩ := List.append_inj' houtcomes rfl
      cases hlast
      exact absurd hattaches h
    · rw [List.concat_eq_append] at houtcomes hafter
      rw [← List.cons_append, ← List.append_assoc] at houtcomes
      obtain ⟨rfl, hlast⟩ := List.append_inj' houtcomes rfl
      cases hlast
      exact ⟨hafter outcome (by simp), before, attaching, between, rfl, hattaches,
        fun later hlater ↦ hafter later (by simp [hlater])⟩
  · rintro ⟨hdetaches, before, attaching, after, rfl, hattaches, hafter⟩
    refine ⟨before, attaching, after ++ [outcome], by simp, hattaches, fun later hlater ↦ ?_⟩
    rcases List.mem_append.1 hlater with hlater | hlater
    · exact hafter later hlater
    · rw [List.mem_singleton] at hlater
      rw [hlater]
      exact hdetaches

/-- The state that a step leaves: its result, or the state of what was made and not read back. -/
def State.next (current : State) : Except Stop State → State
  | .ok state => state
  | .error (.failed error) => error.createdState?.getD current
  | .error _ => current

/-- The identity of a state is the text of its project and name, and denotes them. -/
def State.IsIdentified (state : State) : Prop :=
  ∃ id, state.id = some id ∧ Identity.encode ⟨state.projectName, state.name⟩ = .ok id ∧
    Identity.decode id = .ok ⟨state.projectName, state.name⟩

theorem State.isIdentified_of_encode {state : State} {identity : Identity} {id : String}
    (hid : identity.encode = .ok id) (h : state.id = some id)
    (hproject : state.projectName = identity.project) (hname : state.name = identity.name) :
    state.IsIdentified := by
  have hsame : (⟨state.projectName, state.name⟩ : Identity) = identity := by
    rw [hproject, hname]
  exact ⟨id, h, by rw [hsame]; exact hid, by rw [hsame]; exact Identity.decode_of_encode hid⟩

/-- An error that holds no state of a namespace that was made. -/
def Error.IsStateless (error : Error) : Prop := error.createdState? = none

theorem Error.isRequestKind_isStateless : Error.IsRequestKind Error.IsStateless := by
  constructor <;> intros <;> rfl

theorem Error.IsRefusal.isStateless {error : Error} (h : error.IsRefusal) : error.IsStateless := by
  rcases h with ⟨_, _, rfl⟩ | ⟨_, _, rfl⟩ <;> rfl

theorem Error.IsTimeout.isStateless {error : Error} (h : error.IsTimeout) : error.IsStateless := by
  obtain ⟨_, _, _, _, _, rfl⟩ := h
  rfl

theorem State.next_of_isStateless {current : State} {error : Error} (h : error.IsStateless) :
    current.next (.error (.failed error)) = current := by
  rw [next, h]
  rfl

namespace Manager

open Run

variable {m : Manager} {s : Surroundings} {p : Progress}

def act (m : Manager) (current : State) : Action → Run State
  | .create config => m.create config
  | .importKey key => m.importKey key
  | .read => m.read current
  | .update planned => m.update current planned
  | .delete => m.delete current

/-- The outcomes of a history and the state to which it has led. -/
inductive History (m : Manager) (initial : State) : List Outcome → State → Prop
  | start : History m initial [] initial
  | step {outcomes : List Outcome} {current : State} {action : Action} {s : Surroundings}
      {p : Progress} {result : Except Stop State} {events : List Event}
      (hbefore : History m initial outcomes current)
      (hrun : m.act current action s p = (result, events)) :
      History m initial (outcomes ++ [⟨action, result⟩]) (current.next result)

/-! ## What one step leaves -/

/-- A call that makes nothing and does not end well leaves the current state as it is. -/
theorem next_of_stop (call : Call) (hcall : ∀ config, call ≠ .create config) {current : State}
    {stop : Stop} {events : List Event} (h : m.perform call s p = (.error stop, events)) :
    current.next (.error stop) = current := by
  cases stop with
  | abandoned => rfl
  | clockOverrun => rfl
  | failed error =>
    apply State.next_of_isStateless
    cases perform_failsBy Error.isRequestKind_isStateless h with
    | request hstateless => exact hstateless
    | refused hrefused => exact hrefused.isStateless
    | expired htimeout => exact htimeout.isStateless
    | unread hcreate => exact absurd hcreate (hcall _)

/-- The making of a namespace leaves the namespace with its identity, or all as it was. -/
theorem create_next {current config : State} {result : Except Stop State} {events : List Event}
    (h : m.create config s p = (result, events)) :
    (Outcome.Attaches ⟨.create config, result⟩ ∧ (current.next result).IsIdentified) ∨
      ¬Outcome.Attaches ⟨.create config, result⟩ ∧ current.next result = current := by
  have hkept {error : Error} (hstateless : error.IsStateless) :
      ¬Outcome.Attaches ⟨.create config, .error (.failed error)⟩ ∧
        current.next (.error (.failed error)) = current := by
    refine ⟨fun hattaches ↦ ?_, State.next_of_isStateless hstateless⟩
    cases hattaches
    cases hstateless
  cases result with
  | ok state =>
    cases create_run h with
    | made _ _ _ _ hid hlast =>
      rcases readBack_cases hid hlast with ⟨object, hresult⟩ | ⟨_, hresult⟩ | ⟨hresult, -⟩
      · cases hresult
        exact .inl ⟨.created _ _, State.isIdentified_of_encode hid rfl rfl rfl⟩
      · cases hresult
      · cases hresult
  | error stop =>
    cases stop with
    | abandoned => exact .inr ⟨by rintro ⟨⟩, rfl⟩
    | clockOverrun => exact .inr ⟨by rintro ⟨⟩, rfl⟩
    | failed error =>
      cases create_failsBy Error.isRequestKind_isStateless h with
      | request hstateless => exact .inr (hkept hstateless)
      | refused hrefused => exact .inr (hkept hrefused.isStateless)
      | expired htimeout => exact .inr (hkept htimeout.isStateless)
      | unread _ hid hunread =>
        subst hunread
        exact .inl ⟨.unread _ _ _, State.isIdentified_of_encode hid rfl rfl rfl⟩

/-- An import leaves the namespace with its identity, or all as it was. -/
theorem importKey_next {current : State} {key : String} {result : Except Stop State}
    {events : List Event} (h : m.importKey key s p = (result, events)) :
    (Outcome.Attaches ⟨.importKey key, result⟩ ∧ (current.next result).IsIdentified) ∨
      ¬Outcome.Attaches ⟨.importKey key, result⟩ ∧ current.next result = current := by
  cases result with
  | ok state =>
    cases importKey_run h with
    | imported _ _ hid =>
      exact .inl ⟨.imported _ _, State.isIdentified_of_encode hid rfl rfl rfl⟩
  | error stop => exact .inr ⟨by rintro ⟨⟩, next_of_stop (.importKey key) (by simp) h⟩

theorem exists_id_of_identityOf {state : State} {identity : Identity}
    (h : identityOf state = .ok identity) : ∃ id, state.id = some id := by
  cases hid : state.id with
  | none =>
    rw [identityOf, hid] at h
    cases h
  | some id => exact ⟨id, rfl⟩

/-- Reading leaves all as it was, or a new view of a namespace with its identity. -/
theorem read_next {current : State} {result : Except Stop State} {events : List Event}
    (h : m.read current s p = (result, events)) :
    current.next result = current ∨
      (∃ id, current.id = some id) ∧ (current.next result).IsIdentified := by
  cases result with
  | error stop => exact .inl (next_of_stop (.read current) (by simp) h)
  | ok state =>
    obtain ⟨identity, refreshed, hidentity, hread, rfl⟩ := read_of_ok h
    obtain ⟨id, hid⟩ := Identity.exists_encode (ne_of_identityOf hidentity)
    obtain ⟨object, rfl⟩ := refresh_of_ok hid hread
    refine .inr ⟨exists_id_of_identityOf hidentity, ?_⟩
    change (keepPrefix current _).IsIdentified
    unfold keepPrefix
    split <;> exact State.isIdentified_of_encode hid rfl rfl rfl

/-- Removing leaves no identity, or all as it was. -/
theorem delete_next {current : State} {result : Except Stop State} {events : List Event}
    (h : m.delete current s p = (result, events)) :
    (Outcome.Detaches ⟨.delete, result⟩ ∧ (current.next result).id = none) ∨
      ¬Outcome.Detaches ⟨.delete, result⟩ ∧ current.next result = current := by
  cases result with
  | ok state =>
    cases delete_run h with
    | removed => exact .inl ⟨.deleted _, rfl⟩
  | error stop => exact .inr ⟨by rintro ⟨⟩, next_of_stop (.delete current) (by simp) h⟩

/-! ## What a history leaves -/

/-- The current state is on record: its identity is the text of its project and name, and it is
there exactly when the outcomes say so. -/
structure OnRecord (outcomes : List Outcome) (current : State) : Prop where
  identified : current.id = none ∨ current.IsIdentified
  attached : (∃ id, current.id = some id) ↔ IsAttached outcomes

namespace OnRecord

variable {outcomes : List Outcome} {outcome : Outcome} {current next : State}

theorem attach (h : outcome.Attaches) (hid : next.IsIdentified) :
    OnRecord (outcomes ++ [outcome]) next where
  identified := .inr hid
  attached := by
    obtain ⟨id, hsome, -⟩ := hid
    exact ⟨fun _ ↦ isAttached_append_of_attaches h, fun _ ↦ ⟨id, hsome⟩⟩

theorem detach (h : outcome.Detaches) (hnone : next.id = none) :
    OnRecord (outcomes ++ [outcome]) next where
  identified := .inl hnone
  attached := by
    have hattaches : ¬outcome.Attaches := by
      intro hattaches
      cases h
      cases hattaches
    rw [isAttached_append_of_not_attaches hattaches, hnone]
    constructor
    · rintro ⟨id, hid⟩
      cases hid
    · exact fun hattached ↦ absurd h hattached.1

/-- An outcome that neither attaches nor detaches keeps the record. -/
theorem keep (h : OnRecord outcomes current) (hattaches : ¬outcome.Attaches)
    (hdetaches : ¬outcome.Detaches)
    (hnext : next = current ∨ (∃ id, current.id = some id) ∧ next.IsIdentified) :
    OnRecord (outcomes ++ [outcome]) next where
  identified := by
    rcases hnext with rfl | ⟨-, hid⟩
    · exact h.identified
    · exact .inr hid
  attached := by
    have hsame : (∃ id, next.id = some id) ↔ ∃ id, current.id = some id := by
      rcases hnext with rfl | ⟨hcurrent, id, hid, -⟩
      · exact Iff.rfl
      · exact ⟨fun _ ↦ hcurrent, fun _ ↦ ⟨id, hid⟩⟩
    rw [hsame, isAttached_append_of_not_attaches hattaches, h.attached]
    exact ⟨fun hattached ↦ ⟨hdetaches, hattached⟩, And.right⟩

end OnRecord

/-- Every step keeps the record. -/
theorem OnRecord.step {outcomes : List Outcome} {current : State} {action : Action}
    {result : Except Stop State} {events : List Event} (h : OnRecord outcomes current)
    (hrun : m.act current action s p = (result, events)) :
    OnRecord (outcomes ++ [⟨action, result⟩]) (current.next result) := by
  cases action with
  | create config =>
    rcases create_next hrun with ⟨hattaches, hid⟩ | ⟨hattaches, hnext⟩
    · exact .attach hattaches hid
    · exact h.keep hattaches (by rintro ⟨⟩) (.inl hnext)
  | importKey key =>
    rcases importKey_next hrun with ⟨hattaches, hid⟩ | ⟨hattaches, hnext⟩
    · exact .attach hattaches hid
    · exact h.keep hattaches (by rintro ⟨⟩) (.inl hnext)
  | read => exact h.keep (by rintro ⟨⟩) (by rintro ⟨⟩) (read_next hrun)
  | update planned =>
    cases hrun
    exact h.keep (by rintro ⟨⟩) (by rintro ⟨⟩) (.inl (State.next_of_isStateless rfl))
  | delete =>
    rcases delete_next hrun with ⟨hdetaches, hnone⟩ | ⟨hdetaches, hnext⟩
    · exact .detach hdetaches hnone
    · exact h.keep (by rintro ⟨⟩) hdetaches (.inl hnext)

theorem History.onRecord {initial current : State} {outcomes : List Outcome}
    (h : m.History initial outcomes current) (hinitial : initial.id = none) :
    OnRecord outcomes current := by
  induction h with
  | start =>
    refine ⟨.inl hinitial, ?_⟩
    rw [hinitial]
    constructor
    · rintro ⟨id, hid⟩
      cases hid
    · exact fun hattached ↦ absurd hattached not_isAttached_nil
  | step _ hrun ih => exact ih.step hrun

/-! ## Where requests go -/

theorem identityOf_of_none {state : State} (h : state.id = none) :
    identityOf state = .error (.validation "id" "resource has no identity") := by
  rw [identityOf, h]

theorem identityOf_of_isIdentified {state : State} (h : state.IsIdentified) :
    identityOf state = .ok ⟨state.projectName, state.name⟩ := by
  obtain ⟨id, hid, -, hdecode⟩ := h
  rw [identityOf, hid]
  exact hdecode

/-- A request goes to the address of the namespace that a state names. -/
def Addresses (m : Manager) (state : State) (request : Request) : Prop :=
  m.endpoint.url state.projectName (some state.name) = .ok request.url

theorem addresses_of_read {state : State} (h : state.id = none ∨ state.IsIdentified)
    {request : Request} (hrequest : request ∈ requestsIn (m.read state s p).2) :
    m.Addresses state request := by
  have hsends : m.ReadSends (identityOf state) (requestsIn (m.read state s p).2) := read_sends rfl
  generalize requestsIn (m.read state s p).2 = requests at hrequest hsends
  cases hsends with
  | nothing => cases hrequest
  | read hidentity hurl =>
    rw [List.mem_singleton] at hrequest
    subst hrequest
    rcases h with hnone | hid
    · cases (identityOf_of_none hnone).symm.trans hidentity
    · cases (identityOf_of_isIdentified hid).symm.trans hidentity
      exact hurl

theorem addresses_of_delete {state : State} (h : state.id = none ∨ state.IsIdentified)
    {request : Request} (hrequest : request ∈ requestsIn (m.delete state s p).2) :
    m.Addresses state request := by
  have hsends : m.DeleteSends state s p (requestsIn (m.delete state s p).2) := (delete_sends rfl).1
  generalize requestsIn (m.delete state s p).2 = requests at hrequest hsends
  cases hsends with
  | nothing => cases hrequest
  | removal hidentity hurl _ hreads =>
    rcases h with hnone | hid
    · cases (identityOf_of_none hnone).symm.trans hidentity
    · cases (identityOf_of_isIdentified hid).symm.trans hidentity
      rcases List.mem_cons.1 hrequest with rfl | hread
      · exact hurl
      · rw [hreads request hread]
        exact hurl

/-- What is true of the state to which a history has led. -/
structure KeepsRecord (m : Manager) (outcomes : List Outcome) (current : State) : Prop
    extends OnRecord outcomes current where
  /-- Requests to read and to remove go to the namespace that the state names. -/
  addressed : ∀ s p request,
    request ∈ requestsIn (m.read current s p).2 ∨ request ∈ requestsIn (m.delete current s p).2 →
      m.Addresses current request
  /-- Without an identity there is nothing to read and nothing to remove. -/
  refused : current.id = none → ∀ s p,
    m.read current s p =
        (.error (.failed (.validation "id" "resource has no identity")), []) ∧
      m.delete current s p =
        (.error (.failed (.validation "id" "resource has no identity")), [])

/-- Over every history that starts without an identity, of any length and with any answers, the
state keeps its record. -/
theorem history_keepsRecord {initial current : State} {outcomes : List Outcome}
    (h : m.History initial outcomes current) (hinitial : initial.id = none) :
    m.KeepsRecord outcomes current where
  toOnRecord := h.onRecord hinitial
  addressed s p request hrequest := by
    have hid := (h.onRecord hinitial).identified
    rcases hrequest with hread | hdelete
    · exact addresses_of_read hid hread
    · exact addresses_of_delete hid hdelete
  refused hnone s p := by
    have hidentity := identityOf_of_none hnone
    constructor
    · rw [read, ofExcept_error_bind hidentity, fail_run]
    · rw [delete, ofExcept_error_bind hidentity, fail_run]

/-- A namespace that is imported into an empty state is read under its identity, and after its
removal there is none. -/
theorem history_keepsRecord_of_imported :
    let m : Manager := ⟨⟨"https://vcfa.example.com", .ascii⟩, .usual, .usual⟩
    let answer (sent : Nat) : Answer :=
      if sent = 0 then .ok (.object []) else .error (.notFound .get "")
    let s : Surroundings := ⟨fun sent _ ↦ .answered .zero false [] (answer sent), fun _ ↦ false⟩
    let imported := m.act State.empty (.importKey "shop.dev-1") s .start
    let first := State.empty.next imported.1
    let refreshed := m.act first .read s .start
    let second := first.next refreshed.1
    let removed := m.act second .delete s .start
    let outcomes : List Outcome := [⟨.importKey "shop.dev-1", imported.1⟩, ⟨.read, refreshed.1⟩]
    (m.KeepsRecord outcomes second ∧ second.id = some "shop:dev-1") ∧
      m.KeepsRecord (outcomes ++ [⟨.delete, removed.1⟩]) (second.next removed.1) ∧
        (second.next removed.1).id = none := by
  intro m answer s imported first refreshed second removed outcomes
  have hhistory : m.History State.empty outcomes second :=
    .step (.step .start (Prod.eta imported).symm) (Prod.eta refreshed).symm
  have hsecond : second = { State.empty with
      id := some "shop:dev-1", name := "dev-1", projectName := "shop" } := by decide +kernel
  have hnone (state : State) (h : state = { State.empty with
      id := some "shop:dev-1", name := "dev-1", projectName := "shop" }) :
      (state.next (m.act state .delete s .start).1).id = none := by
    subst h
    decide +kernel
  exact ⟨⟨history_keepsRecord hhistory rfl, congrArg State.id hsecond⟩,
    history_keepsRecord (hhistory.step (Prod.eta removed).symm) rfl, hnone second hsecond⟩

end Manager

end NamespaceLifecycle
