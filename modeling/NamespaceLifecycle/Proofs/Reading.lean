import NamespaceLifecycle.Proofs.Creation
import NamespaceLifecycle.Proofs.Request

/-!
# What a reading shows

A state that is returned is the local view of the object in the last answer, but for the beginning
of its name. Making a namespace keeps the declared one. Reading takes the one that the object tells,
and keeps the one that was known where the object tells none. So reading an unchanged object after
its making changes nothing exactly when the object tells the declared beginning or none.
-/

namespace NamespaceLifecycle

/-- The last request of a run has an answer, and its reply arrives. -/
def AnsweredLast (s : Surroundings) (p : Progress) (events : List Event) (answer : Answer) : Prop :=
  ∃ before request span after,
    events = before ++ .sent request :: .waited span :: after ∧ requestsIn after = [] ∧
    (s.transport (p.afterAll before).requests request).outcome = .ok answer

namespace AnsweredLast

variable {s : Surroundings} {p : Progress} {events : List Event} {answer : Answer}

theorem append_left {before : List Event} (h : AnsweredLast s (p.afterAll before) events answer) :
    AnsweredLast s p (before ++ events) answer := by
  obtain ⟨first, request, span, after, rfl, hafter, hanswer⟩ := h
  rw [← Progress.afterAll_append] at hanswer
  exact ⟨before ++ first, request, span, after, by simp, hafter, hanswer⟩

/-- The last request is known by its number. -/
theorem exists_last (h : AnsweredLast s p events answer) :
    ∃ front request, requestsIn events = front ++ [request] ∧
      (s.transport (p.requests + front.length) request).outcome = .ok answer := by
  obtain ⟨before, request, span, after, rfl, hafter, hanswer⟩ := h
  rw [Progress.requests_afterAll] at hanswer
  refine ⟨requestsIn before, request, ?_, hanswer⟩
  rw [requestsIn_append, requestsIn_cons, requestsIn_cons, hafter]
  rfl

theorem unique {other : Answer} (h : AnsweredLast s p events answer)
    (hother : AnsweredLast s p events other) : answer = other := by
  obtain ⟨front, request, hsent, hanswer⟩ := h.exists_last
  obtain ⟨front', request', hsent', hanswer'⟩ := hother.exists_last
  obtain ⟨rfl, hrequest⟩ := List.append_inj' (hsent.symm.trans hsent') rfl
  cases hrequest
  exact Except.ok.inj (hanswer.symm.trans hanswer')

theorem not_nil : ¬AnsweredLast s p [] answer := by
  rintro ⟨before, _, _, _, hevents, -⟩
  simp at hevents

theorem eq_of_always {constant : Answer} (h : AnsweredLast (.always constant) p events answer) :
    answer = constant := by
  obtain ⟨_, _, _, hanswer⟩ := h.exists_last
  exact (Except.ok.inj hanswer).symm

end AnsweredLast

namespace Run.RequestRun

variable {α : Type} {plan : RequestPlan α} {s : Surroundings} {p : Progress}
  {result : Except Stop α} {events : List Event} {answer : Answer}

/-- Whether or not the operation is called off on the way, an answer that arrives is judged. -/
theorem eq_of_answeredLast (h : RequestRun plan s p result events)
    (hlast : AnsweredLast s p events answer) :
    result = (plan.judge (.ok answer)).mapError .failed := by
  cases h with
  | unsent => exact absurd hlast AnsweredLast.not_nil
  | unaddressed => exact absurd hlast AnsweredLast.not_nil
  | overrun =>
    obtain ⟨before, _, _, _, hevents, -⟩ := hlast
    have hlength := congrArg List.length hevents
    simp only [List.length_append, List.length_cons, List.length_nil] at hlength
    omega
  | @unanswered url takes log lines _ _ hreply =>
    obtain ⟨front, request, hsent, hanswer⟩ := hlast.exists_last
    have hone : front ++ [request] = [] ++ [plan.request url] := by
      rw [← hsent]
      simp [Event.request?]
    obtain ⟨rfl, hrequest⟩ := List.append_inj' hone rfl
    cases hrequest
    rw [List.length_nil, Nat.add_zero, hreply] at hanswer
    cases hanswer
  | @answered url takes callsOff log lines other _ _ hreply =>
    obtain ⟨front, request, hsent, hanswer⟩ := hlast.exists_last
    have hone : front ++ [request] = [] ++ [plan.request url] := by
      rw [← hsent]
      cases callsOff <;> simp [Event.request?]
    obtain ⟨rfl, hrequest⟩ := List.append_inj' hone rfl
    cases hrequest
    rw [List.length_nil, Nat.add_zero, hreply] at hanswer
    cases hanswer
    rfl

/-- A request that yields a value has an answer that arrives. -/
theorem exists_answeredLast {a : α} (h : RequestRun plan s p (.ok a) events)
    (hnone : ∀ error, plan.address = .error error → plan.judge (.error error) ≠ .ok a) :
    ∃ answer, AnsweredLast s p events answer ∧ plan.judge (.ok answer) = .ok a := by
  obtain ⟨url, takes, callsOff, answer, log, lines, -, hreply, hjudge, rfl⟩ :=
    h.answered_of_ok hnone
  refine ⟨answer, ⟨[], plan.request url, takes, _, rfl, ?_, ?_⟩, hjudge⟩
  · cases callsOff <;> simp [Event.request?]
  · rw [Progress.afterAll_nil, hreply]
    rfl

end Run.RequestRun

namespace Manager

open Run

variable {m : Manager} {s : Surroundings} {p : Progress}

/-- A reading whose answer is an object yields the view of this object. -/
theorem refresh_of_answeredLast {identity : Identity} {id target : String}
    (hid : identity.encode = .ok id) {result : Except Stop State} {events : List Event}
    (hrun : cancellable identity target (m.refresh identity) s p = (result, events))
    {value : Json} (hlast : AnsweredLast s p events (.ok value)) {object : RemoteObject}
    (hobject : RemoteObject.ofJson value = .ok object) :
    result = .ok (.ofObject id identity object) := by
  calc
    result = ((Endpoint.found identity (.ok value)).bind identity.view).mapError .failed :=
      (refresh_follows identity target hrun).eq_of_answeredLast hlast
    _ = (identity.view object).mapError .failed := by
      rw [Endpoint.found_eq_ok_iff.2 ⟨value, rfl, hobject⟩]
      rfl
    _ = .ok (.ofObject id identity object) := by
      rw [Identity.view_of_encode hid]
      rfl

/-- A view comes from the object in an answer. -/
theorem exists_answeredLast_of_refresh {identity : Identity} {id target : String}
    (hid : identity.encode = .ok id) {refreshed : State} {events : List Event}
    (hrun : cancellable identity target (m.refresh identity) s p = (.ok refreshed, events)) :
    ∃ value object, AnsweredLast s p events (.ok value) ∧ RemoteObject.ofJson value = .ok object ∧
      refreshed = .ofObject id identity object := by
  obtain ⟨answer, hlast, hjudge⟩ :=
    (refresh_follows identity target hrun).exists_answeredLast fun error _ hok ↦ by cases hok
  obtain ⟨object, hfound, hview⟩ := exists_of_bind_eq_ok hjudge
  obtain ⟨value, rfl, hobject⟩ := Endpoint.found_eq_ok_iff.1 hfound
  rw [Identity.view_of_encode hid, Except.ok.injEq] at hview
  exact ⟨value, object, hlast, hobject, hview.symm⟩

/-- A namespace that is made is returned as the last answer shows it, under the declared beginning
of its name. -/
theorem create_shows {config state : State} {events : List Event}
    (hrun : m.create config s p = (.ok state, events)) :
    ∃ name id value object, Identity.encode ⟨config.projectName, name⟩ = .ok id ∧
      AnsweredLast s p events (.ok value) ∧ RemoteObject.ofJson value = .ok object ∧
      state = createdState config id name object := by
  cases create_run hrun with
  | @made _ submitted _ id _ line line' first waiting last _ _ _ _ hid hlast =>
    cases readBack_run hlast with
    | read hread =>
      obtain ⟨value, object, hanswered, hobject, rfl⟩ := exists_answeredLast_of_refresh hid hread
      refine ⟨submitted.name, id, value, object, hid, ?_, hobject, rfl⟩
      rw [List.append_cons]
      apply AnsweredLast.append_left
      rw [Progress.afterAll_append, Progress.afterAll_append]
      exact hanswered

/-- A reading whose answer is an object yields the view of this object, under the beginning of the
name that was known when the object tells none. -/
theorem read_shows {state : State} {identity : Identity} {id : String} (hstate : state.id = some id)
    (hid : identity.encode = .ok id) {result : Except Stop State} {events : List Event}
    (hrun : m.read state s p = (result, events)) {value : Json}
    (hlast : AnsweredLast s p events (.ok value)) {object : RemoteObject}
    (hobject : RemoteObject.ofJson value = .ok object) :
    result = .ok (keepPrefix state (.ofObject id identity object)) := by
  have hknown : identityOf state = .ok identity := by
    rw [identityOf, hstate]
    exact Identity.decode_of_encode hid
  cases read_run hrun with
  | unidentified => exact absurd hlast AnsweredLast.not_nil
  | asked hidentity hread =>
    cases hknown.symm.trans hidentity
    rw [refresh_of_answeredLast hid hread hlast hobject]
    rfl

/-- A reading that yields a state has a document for its answer. -/
theorem answeredLast_of_read {state view : State} {identity : Identity} {id : String}
    (hstate : state.id = some id) (hid : identity.encode = .ok id) {events : List Event}
    (hrun : m.read state s p = (.ok view, events)) :
    ∃ value, AnsweredLast s p events (.ok value) := by
  obtain ⟨known, refreshed, hidentity, hread, -⟩ := read_of_ok hrun
  rw [identityOf, hstate] at hidentity
  cases (Identity.decode_of_encode hid).symm.trans hidentity
  obtain ⟨value, _, hlast, -⟩ := exists_answeredLast_of_refresh hid hread
  exact ⟨value, hlast⟩

/-- The state that is read of an object that was already shown. -/
theorem keepPrefix_createdState (config : State) (id name : String) (object : RemoteObject) :
    keepPrefix (createdState config id name object)
        (.ofObject id ⟨config.projectName, name⟩ object) =
      { createdState config id name object with
        namePrefix := if object.metadata.generateName = "" then config.namePrefix
          else object.metadata.generateName } := by
  unfold keepPrefix createdState
  by_cases hnone : object.metadata.generateName = ""
  · have htold : (State.ofObject id ⟨config.projectName, name⟩ object).namePrefix = "" := hnone
    rw [if_pos htold, if_pos hnone]
  · have htold : (State.ofObject id ⟨config.projectName, name⟩ object).namePrefix ≠ "" := hnone
    rw [if_neg htold, if_neg hnone]
    rfl

/-- Reading a namespace right after its making, while its object is unchanged, gives the same state
but for the beginning of the name: it becomes the one that the object tells, if it tells one. -/
theorem read_of_create {config state : State} {events : List Event}
    (hcreate : m.create config s p = (.ok state, events)) {value : Json}
    (hlast : AnsweredLast s p events (.ok value)) {s' : Surroundings} {p' : Progress}
    {result : Except Stop State} {events' : List Event}
    (hread : m.read state s' p' = (result, events'))
    (hsame : AnsweredLast s' p' events' (.ok value)) :
    ∃ object, RemoteObject.ofJson value = .ok object ∧ state.namePrefix = config.namePrefix ∧
      result = .ok { state with
        namePrefix := if object.metadata.generateName = "" then config.namePrefix
          else object.metadata.generateName } := by
  obtain ⟨name, id, value', object, hid, hlast', hobject, rfl⟩ := create_shows hcreate
  cases hlast.unique hlast'
  refine ⟨object, hobject, rfl, ?_⟩
  rw [read_shows rfl hid hread hsame hobject, keepPrefix_createdState]

/-- Where the service always gives one object, it also shows it after its making. -/
theorem exists_read_of_create {config : State} {value : Json}
    (hok : ((m.create config (.always (.ok value)) .start).1.bind
      fun state ↦ (m.read state (.always (.ok value)) .start).1).isOk = true) :
    ∃ state events result events',
      m.create config (.always (.ok value)) .start = (.ok state, events) ∧
      AnsweredLast (.always (.ok value)) .start events (.ok value) ∧
      m.read state (.always (.ok value)) .start = (result, events') ∧
      AnsweredLast (.always (.ok value)) .start events' (.ok value) := by
  obtain ⟨next, hboth⟩ := exists_of_isOk hok
  obtain ⟨state, hstate, hnext⟩ := exists_of_bind_eq_ok hboth
  have hcreate : m.create config (.always (.ok value)) .start = (.ok state, _) :=
    Prod.ext hstate rfl
  have hread : m.read state (.always (.ok value)) .start = (.ok next, _) := Prod.ext hnext rfl
  obtain ⟨name, id, value', object, hid, hlast, -, rfl⟩ := create_shows hcreate
  obtain ⟨value'', hlast'⟩ := answeredLast_of_read rfl hid hread
  cases hlast.eq_of_always
  cases hlast'.eq_of_always
  exact ⟨_, _, _, _, hcreate, hlast, hread, hlast'⟩

/-- Reading an unchanged object right after its making changes at most the beginning of the name,
and changes nothing if and only if the object tells the declared one or none. -/
theorem read_after_create {config state : State} {events : List Event}
    (hcreate : m.create config s p = (.ok state, events)) {value : Json}
    (hlast : AnsweredLast s p events (.ok value)) {s' : Surroundings} {p' : Progress}
    {result : Except Stop State} {events' : List Event}
    (hread : m.read state s' p' = (result, events'))
    (hsame : AnsweredLast s' p' events' (.ok value)) :
    ∃ object, RemoteObject.ofJson value = .ok object ∧
      result = .ok { state with
        namePrefix := if object.metadata.generateName = "" then config.namePrefix
          else object.metadata.generateName } ∧
      (result = .ok state ↔ object.metadata.generateName = "" ∨
        object.metadata.generateName = config.namePrefix) := by
  obtain ⟨object, hobject, hbeginning, hresult⟩ := read_of_create hcreate hlast hread hsame
  refine ⟨object, hobject, hresult, ?_⟩
  by_cases hnone : object.metadata.generateName = ""
  · rw [if_pos hnone, ← hbeginning] at hresult
    simp only [hresult, hnone, true_or]
  · rw [if_neg hnone] at hresult
    rw [hresult, Except.ok.injEq, or_iff_right hnone, ← hbeginning]
    constructor
    · exact fun hstate ↦ congrArg State.namePrefix hstate
    · intro htold
      rw [htold]

/-- An object that tells another beginning than the declared one gives the state this one when it is
read. -/
theorem read_changes_beginning :
    let config : State :=
      { State.empty with
        namePrefix := "dev", projectName := "shop", className := "small", regionName := "west"
        vpcName := "vpc", storageClassOverrides := [⟨"fast", 1⟩],
        zoneOverrides := [⟨"z", 1, 1, 1, 1⟩] }
    let m : Manager := ⟨⟨"https://vcfa.example.com", .ascii⟩, .usual, .usual⟩
    let value : Json := .object
      [("metadata", .object [("generateName", .text "dev-"), ("name", .text "dev-1")]),
        ("status", .object [("phase", .text "CREATED")])]
    let s : Surroundings := .always (.ok value)
    ∃ state events result events', m.create config s .start = (.ok state, events) ∧
      AnsweredLast s .start events (.ok value) ∧ m.read state s .start = (result, events') ∧
      AnsweredLast s .start events' (.ok value) ∧ state.namePrefix = "dev" ∧
      result = .ok { state with namePrefix := "dev-" } ∧ result ≠ .ok state := by
  intro config m value s
  obtain ⟨state, events, result, events', hcreate, hlast, hread, hsame⟩ :=
    @exists_read_of_create m config value (by decide +kernel)
  obtain ⟨object, hobject, hresult, hunchanged⟩ := read_after_create hcreate hlast hread hsame
  obtain ⟨-, -, hbeginning, -⟩ := read_of_create hcreate hlast hread hsame
  have htold : (RemoteObject.ofJson value).map (·.metadata.generateName) = .ok "dev-" := by
    decide +kernel
  rw [hobject] at htold
  have hdash : object.metadata.generateName = "dev-" := Except.ok.inj htold
  rw [hdash] at hresult hunchanged
  refine ⟨state, events, result, events', hcreate, hlast, hread, hsame, hbeginning, hresult, ?_⟩
  intro hkept
  rcases hunchanged.1 hkept with hnone | hdeclared
  · exact absurd hnone (by decide)
  · exact absurd hdeclared (by decide)

end Manager

end NamespaceLifecycle
