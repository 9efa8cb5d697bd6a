import NamespaceLifecycle.Proofs.Run
import NamespaceLifecycle.Service

/-!
# One request and its answer

Every operation on the service is one exchange: a request starts, its reply comes, the answer
alone decides on the value or the error, and nothing but lines of the log follows. The two kinds of
polls are exchanges as well. What an exchange does is thus said once, by its request and by the
function that judges the answer.
-/

namespace NamespaceLifecycle

namespace Run

variable {α β : Type} {s : Surroundings} {p : Progress}

/-- Yields a value or an error wherever it starts, and only writes to the log. -/
def Yields (x : Run α) (result : Except Error α) : Prop :=
  ∀ s p, ∃ lines : List LogLine, x s p = (result.mapError .failed, lines.map .logged)

theorem yields_pure (a : α) : Yields (pure a) (.ok a) := fun _ _ ↦ ⟨[], rfl⟩

theorem yields_fail (error : Error) : Yields (fail error : Run α) (.error error) :=
  fun _ _ ↦ ⟨[], rfl⟩

/-- A line of the log does not change what follows. -/
theorem Yields.log_bind {x : Run α} {result : Except Error α} (hx : Yields x result)
    (level : Level) (message : String) : Yields (log level message >>= fun _ ↦ x) result := by
  intro s p
  obtain ⟨lines, hlines⟩ := hx s p
  refine ⟨⟨level, message⟩ :: lines, ?_⟩
  have hlog : log level message s p = (.ok (), [.logged ⟨level, message⟩]) := rfl
  rw [bind_of_ok hlog]
  change ((x s p).1, Event.logged ⟨level, message⟩ :: (x s p).2) = _
  rw [hlines]
  rfl

/-- One request, whose answer decides on the value or the error. -/
def IsExchange (request : Request) (judge : Answer → Except Error α) (x : Run α) : Prop :=
  ∀ s p, ∃ lines : List LogLine, x s p =
    if p.elapsed.plus (s.transport p.requests request).takes < Clock.countLimit then
      ((s.transport p.requests request).outcome.bind fun answer ↦ (judge answer).mapError .failed,
        .sent request :: (s.transport p.requests request).events ++ lines.map .logged)
    else (.error .clockOverrun, [.sent request])

theorem isExchange_send (request : Request) : IsExchange request .ok (send request) := by
  intro s p
  refine ⟨[], ?_⟩
  rw [send_run]
  cases (s.transport p.requests request).outcome <;> simp [Except.bind]

theorem IsExchange.bind {request : Request} {judge : Answer → Except Error α} {x : Run α}
    {f : α → Run β} (hx : IsExchange request judge x) (g : α → Except Error β)
    (hf : ∀ a, Yields (f a) (g a)) :
    IsExchange request (fun answer ↦ judge answer >>= g) (x >>= f) := by
  intro s p
  obtain ⟨lines, hlines⟩ := hx s p
  by_cases hcount : p.elapsed.plus (s.transport p.requests request).takes < Clock.countLimit
  · rw [if_pos hcount] at hlines
    simp only [if_pos hcount]
    cases houtcome : (s.transport p.requests request).outcome with
    | error stop =>
      rw [houtcome] at hlines
      exact ⟨lines, bind_of_error hlines⟩
    | ok answer =>
      rw [houtcome] at hlines
      cases hjudge : judge answer with
      | error error =>
        simp only [Except.bind, hjudge, mapError_error] at hlines
        refine ⟨lines, ?_⟩
        change _ = ((judge answer >>= g).mapError Stop.failed, _)
        rw [hjudge, bind_of_error hlines]
        rfl
      | ok a =>
        simp only [Except.bind, hjudge, mapError_ok] at hlines
        obtain ⟨more, hmore⟩ := hf a s (p.afterAll
          (.sent request :: (s.transport p.requests request).events ++ lines.map .logged))
        refine ⟨lines ++ more, ?_⟩
        change _ = ((judge answer >>= g).mapError Stop.failed, _)
        rw [hjudge, bind_of_ok hlines, hmore, List.map_append, ← List.append_assoc]
        rfl
  · rw [if_neg hcount] at hlines
    simp only [if_neg hcount]
    exact ⟨lines, bind_of_error hlines⟩

theorem IsExchange.attempt {request : Request} {judge : Answer → Except Error α} {x : Run α}
    (hx : IsExchange request judge x) :
    IsExchange request (fun answer ↦ .ok (judge answer)) (attempt x) := by
  intro s p
  obtain ⟨lines, hlines⟩ := hx s p
  refine ⟨lines, ?_⟩
  unfold Run.attempt
  rw [hlines]
  by_cases hcount : p.elapsed.plus (s.transport p.requests request).takes < Clock.countLimit
  · simp only [if_pos hcount]
    cases s.transport p.requests request with
    | silent takes log => rfl
    | answered takes callsOff log answer =>
      simp only [Reply.outcome, Except.bind]
      cases judge answer <;> rfl
  · simp only [if_neg hcount]

/-- What an exchange does: the clock runs over, it is given up, or its answer is judged. -/
theorem IsExchange.cases {request : Request} {judge : Answer → Except Error α} {x : Run α}
    (hx : IsExchange request judge x) {result : Except Stop α} {events : List Event}
    (hrun : x s p = (result, events)) :
    (¬p.elapsed.plus (s.transport p.requests request).takes < Clock.countLimit ∧
        result = .error .clockOverrun ∧ events = [.sent request]) ∨
      p.elapsed.plus (s.transport p.requests request).takes < Clock.countLimit ∧
        result = ((s.transport p.requests request).outcome.bind fun answer ↦
          (judge answer).mapError .failed) ∧
        ∃ lines : List LogLine, events =
          .sent request :: (s.transport p.requests request).events ++ lines.map .logged := by
  obtain ⟨lines, hlines⟩ := hx s p
  rw [hrun] at hlines
  by_cases hcount : p.elapsed.plus (s.transport p.requests request).takes < Clock.countLimit
  · rw [if_pos hcount, Prod.mk.injEq] at hlines
    exact .inr ⟨hcount, hlines.1, lines, hlines.2⟩
  · rw [if_neg hcount, Prod.mk.injEq] at hlines
    exact .inl ⟨hcount, hlines.1, hlines.2⟩

theorem IsExchange.requestsIn_eq {request : Request} {judge : Answer → Except Error α} {x : Run α}
    (hx : IsExchange request judge x) {result : Except Stop α} {events : List Event}
    (hrun : x s p = (result, events)) : requestsIn events = [request] := by
  rcases hx.cases hrun with ⟨-, -, rfl⟩ | ⟨-, -, lines, rfl⟩
  · rfl
  · simp [Event.request?]

/-- An exchange that yields a value has an answer, and leaves what its reply leaves. -/
theorem IsExchange.of_ok {request : Request} {judge : Answer → Except Error α} {x : Run α}
    (hx : IsExchange request judge x) {a : α} {events : List Event}
    (hrun : x s p = (.ok a, events)) :
    p.elapsed.plus (s.transport p.requests request).takes < Clock.countLimit ∧
      (∃ answer, (s.transport p.requests request).outcome = .ok answer ∧ judge answer = .ok a) ∧
      p.afterAll events =
        (p.after (.sent request)).afterAll (s.transport p.requests request).events := by
  rcases hx.cases hrun with ⟨-, hresult, -⟩ | ⟨hcount, hresult, lines, rfl⟩
  · cases hresult
  · refine ⟨hcount, ?_, ?_⟩
    · cases houtcome : (s.transport p.requests request).outcome with
      | error stop =>
        rw [houtcome] at hresult
        cases hresult
      | ok answer =>
        rw [houtcome] at hresult
        refine ⟨answer, rfl, ?_⟩
        cases hjudge : judge answer with
        | error error =>
          simp only [Except.bind, hjudge, mapError_error] at hresult
          cases hresult
        | ok value =>
          simp only [Except.bind, hjudge, mapError_ok] at hresult
          cases hresult
          rfl
    · rw [Progress.afterAll_append, Progress.afterAll_logged]
      rfl

theorem IsExchange.ok_of_answer {request : Request} {judge : Answer → Except Error α} {x : Run α}
    (hx : IsExchange request judge x) {answer : Answer} {a : α}
    (hcount : p.elapsed.plus (s.transport p.requests request).takes < Clock.countLimit)
    (hanswer : (s.transport p.requests request).outcome = .ok answer)
    (hjudge : judge answer = .ok a) : ∃ events, x s p = (.ok a, events) := by
  obtain ⟨lines, hlines⟩ := hx s p
  rw [if_pos hcount, hanswer] at hlines
  simp only [Except.bind, hjudge, mapError_ok] at hlines
  exact ⟨_, hlines⟩

/-- An exchange that yields a value although it could have been called off. -/
theorem IsExchange.of_ok_unlessCalledOff {request : Request} {judge : Answer → Except Error α}
    {x : Run α} (hx : IsExchange request judge x) {error : Error} {a : α} {events : List Event}
    (hrun : unlessCalledOff error x s p = (.ok a, events)) :
    p.isCalledOff = false ∧
      (∃ answer, (s.transport p.requests request).outcome = .ok answer ∧ judge answer = .ok a) ∧
      p.afterAll events =
        (p.after (.sent request)).afterAll (s.transport p.requests request).events ∧
      requestsIn events = [request] := by
  rcases unlessCalledOff_cases hrun with ⟨-, hresult, -⟩ | ⟨-, -, hresult⟩ | ⟨hopen, hrun, -⟩
  · cases hresult
  · cases hresult
  · obtain ⟨-, hanswer, hprogress⟩ := hx.of_ok hrun
    exact ⟨hopen, hanswer, hprogress, hx.requestsIn_eq hrun⟩

/-- An exchange that ends early has run over the clock, has been given up, or has an answer that is
judged an error. -/
theorem IsExchange.of_error {request : Request} {judge : Answer → Except Error α} {x : Run α}
    (hx : IsExchange request judge x) {stop : Stop} {events : List Event}
    (hrun : x s p = (.error stop, events)) :
    (¬p.elapsed.plus (s.transport p.requests request).takes < Clock.countLimit ∧
        stop = .clockOverrun ∧ events = [.sent request]) ∨
      (stop = .abandoned ∧ (p.afterAll events).isCalledOff = true) ∨
      ∃ answer error, (s.transport p.requests request).outcome = .ok answer ∧
        judge answer = .error error ∧ stop = .failed error := by
  rcases hx.cases hrun with ⟨hcount, hresult, hevents⟩ | ⟨hcount, hresult, lines, rfl⟩
  · rw [Except.error.injEq] at hresult
    exact .inl ⟨hcount, hresult, hevents⟩
  · cases hreply : s.transport p.requests request with
    | silent takes log =>
      rw [hreply] at hresult
      cases hresult
      refine .inr (.inl ⟨rfl, ?_⟩)
      rw [List.cons_append, Progress.afterAll_cons, Progress.afterAll_append,
        Reply.afterAll_events, Progress.afterAll_logged]
      exact Bool.or_true _
    | answered takes callsOff log answer =>
      rw [hreply] at hresult
      refine .inr (.inr ⟨answer, ?_⟩)
      cases hjudge : judge answer with
      | error error =>
        simp only [Reply.outcome, Except.bind, hjudge, mapError_error] at hresult
        cases hresult
        exact ⟨error, rfl, rfl, rfl⟩
      | ok value =>
        simp only [Reply.outcome, Except.bind, hjudge, mapError_ok] at hresult
        cases hresult

theorem ofExcept_ok_bind {x : Except Error α} {a : α} (h : x = .ok a) (f : α → Run β) :
    (ofExcept x >>= f) = f a := by
  subst h
  funext s p
  have hok : (ofExcept (.ok a) : Run α) s p = (.ok a, []) := rfl
  rw [bind_of_ok hok]
  rfl

theorem ofExcept_error_bind {x : Except Error α} {error : Error} (h : x = .error error)
    (f : α → Run β) : (ofExcept x >>= f) = fail error := by
  subst h
  rfl

end Run

def Answer.Shows (object : RemoteObject) (answer : Answer) : Prop :=
  ∃ value, answer = .ok value ∧ RemoteObject.ofJson value = .ok object

namespace Endpoint

open Run

variable {e : Endpoint} {url : Url}

theorem objectOf_eq_ok_iff {answer : Answer} {object : RemoteObject} :
    objectOf answer = .ok object ↔ answer.Shows object := by
  constructor
  · intro h
    cases answer with
    | error error => cases h
    | ok value =>
      refine ⟨value, rfl, ?_⟩
      cases hobject : RemoteObject.ofJson value with
      | error cause =>
        simp only [objectOf, hobject] at h
        cases h
      | ok other =>
        simp only [objectOf, hobject] at h
        cases h
        rfl
  · rintro ⟨value, rfl, hobject⟩
    rw [objectOf, hobject]

/-- An answer is one object. -/
theorem eq_of_shows {answer : Answer} {object other : RemoteObject} (h : answer.Shows object)
    (hother : answer.Shows other) : object = other :=
  Except.ok.inj ((objectOf_eq_ok_iff.2 h).symm.trans (objectOf_eq_ok_iff.2 hother))

def submitted (project : String) (object : RemoteObject) (answer : Answer) :
    Except Error RemoteObject :=
  match objectOf answer with
  | .error error => .error (.ofTransport .creating project object.metadata.generateName error)
  | .ok created =>
    if created.name = "" then
      .error (.incompleteResponse .creating project
        ("the created " ++ Error.label ++ " has no name"))
    else .ok created

/-- An object is submitted when the answer is this object, under a name. -/
theorem submitted_eq_ok_iff {project : String} {object created : RemoteObject} {answer : Answer} :
    submitted project object answer = .ok created ↔ answer.Shows created ∧ created.name ≠ "" := by
  rw [← objectOf_eq_ok_iff]
  unfold submitted
  cases objectOf answer with
  | error error => simp
  | ok other =>
    by_cases hname : other.name = ""
    · simp only [if_pos hname]
      refine ⟨nofun, ?_⟩
      rintro ⟨hother, hne⟩
      cases hother
      exact absurd hname hne
    · simp only [if_neg hname, Except.ok.injEq]
      refine ⟨?_, fun h ↦ h.1⟩
      rintro rfl
      exact ⟨rfl, hname⟩

def found (identity : Identity) (answer : Answer) : Except Error RemoteObject :=
  (objectOf answer).mapError (.ofTransport .reading identity.project identity.name)

theorem found_eq_ok_iff {identity : Identity} {answer : Answer} {object : RemoteObject} :
    found identity answer = .ok object ↔ answer.Shows object :=
  mapError_eq_ok.trans objectOf_eq_ok_iff

def removed (identity : Identity) (answer : Answer) : Except Error Unit :=
  (answer.mapError (.ofTransport .deleting identity.project identity.name)).map fun _ ↦ ()

/-- What the phase of an object says to one who waits for a target. -/
def judged {α : Type} (identity : Identity) (target : String) (object : RemoteObject) (value : α) :
    PollOutcome α :=
  match Phase.classify object.phase target with
  | .succeeded => .done value
  | .pending => .pending
  | .failed => .failed (.backendErrorState identity.project identity.name)

/-- A target that is no error is reached in its own phase, in any case of letters. -/
theorem classify_eq_succeeded_iff {phase target : String}
    (htarget : Phase.normalize target ≠ Phase.error) :
    Phase.classify phase target = .succeeded ↔ Phase.normalize phase = Phase.normalize target := by
  unfold Phase.classify
  by_cases herror : Phase.normalize phase = Phase.error
  · rw [if_pos herror, herror]
    exact ⟨nofun, fun h ↦ absurd h.symm htarget⟩
  · rw [if_neg herror]
    split <;> simp [*]

theorem judged_eq_pending_iff {α : Type} {identity : Identity} {target : String}
    {object : RemoteObject} {value : α} :
    judged identity target object value = .pending ↔
      Phase.classify object.phase target = .pending := by
  unfold judged
  split <;> simp [*]

theorem judged_eq_done_iff {α : Type} {identity : Identity} {target : String}
    {object : RemoteObject} {value other : α} :
    judged identity target object value = .done other ↔
      Phase.classify object.phase target = .succeeded ∧ value = other := by
  unfold judged
  split <;> simp [*]

/-- What a look at a namespace that is being made finds, by what was read. -/
def createdOutcome (identity : Identity) : Except Error RemoteObject → PollOutcome RemoteObject
  | .error error => .failed error
  | .ok object => judged identity Phase.created object object

def deletedOutcome (identity : Identity) : Except Error RemoteObject → PollOutcome Unit
  | .error error => if error.isNotFound then .done () else .failed error
  | .ok object => judged identity Phase.deleted object ()

theorem submit_isExchange {project : String} (hurl : e.url project none = .ok url)
    (object : RemoteObject) :
    IsExchange ⟨.post, url, some object.toJson⟩ (submitted project object)
      (e.submit project object) := by
  unfold submit
  rw [ofExcept_ok_bind hurl]
  refine (isExchange_send _).bind (submitted project object) fun answer ↦ ?_
  unfold submitted
  cases objectOf answer with
  | error error => exact yields_fail _
  | ok created =>
    by_cases hname : created.name = ""
    · simp only [if_pos hname]
      exact yields_fail _
    · simp only [if_neg hname]
      exact (yields_pure created).log_bind _ _

theorem fetch_isExchange {identity : Identity}
    (hurl : e.url identity.project (some identity.name) = .ok url) :
    IsExchange ⟨.get, url, none⟩ (found identity) (e.fetch identity) := by
  unfold fetch
  rw [ofExcept_ok_bind hurl]
  refine (isExchange_send _).bind (found identity) fun answer ↦ ?_
  unfold found
  cases objectOf answer with
  | error error => exact yields_fail _
  | ok object => exact yields_pure object

theorem remove_isExchange {identity : Identity}
    (hurl : e.url identity.project (some identity.name) = .ok url) :
    IsExchange ⟨.delete, url, none⟩ (removed identity) (e.remove identity) := by
  unfold remove
  rw [ofExcept_ok_bind hurl]
  refine (isExchange_send _).bind (removed identity) fun answer ↦ ?_
  unfold removed
  cases answer with
  | error error => exact yields_fail _
  | ok value => exact yields_pure ()

theorem judge_yields {α : Type} (identity : Identity) (target : String) (object : RemoteObject)
    (value : α) :
    Yields (judge identity target object value) (.ok (judged identity target object value)) := by
  unfold judge judged
  apply Yields.log_bind
  cases Phase.classify object.phase target with
  | succeeded => exact yields_pure _
  | pending => exact yields_pure _
  | failed => exact (yields_pure _).log_bind _ _

theorem pollCreated_isExchange {identity : Identity}
    (hurl : e.url identity.project (some identity.name) = .ok url) :
    IsExchange ⟨.get, url, none⟩
      (fun answer ↦ .ok (createdOutcome identity (found identity answer)))
      (e.pollCreated identity) := by
  refine (fetch_isExchange hurl).attempt.bind (fun looked ↦ .ok (createdOutcome identity looked))
    fun looked ↦ ?_
  cases looked with
  | error error => exact yields_pure _
  | ok object => exact judge_yields identity Phase.created object object

theorem pollDeleted_isExchange {identity : Identity}
    (hurl : e.url identity.project (some identity.name) = .ok url) :
    IsExchange ⟨.get, url, none⟩
      (fun answer ↦ .ok (deletedOutcome identity (found identity answer)))
      (e.pollDeleted identity) := by
  refine (fetch_isExchange hurl).attempt.bind (fun looked ↦ .ok (deletedOutcome identity looked))
    fun looked ↦ ?_
  cases looked with
  | error error =>
    unfold deletedOutcome
    by_cases hnone : error.isNotFound = true
    · simp only [if_pos hnone]
      exact (yields_pure _).log_bind _ _
    · simp only [if_neg hnone]
      exact yields_pure _
  | ok object => exact judge_yields identity Phase.deleted object ()

/-! ## Addresses that do not exist -/

theorem urlConstruction_of_url {project : String} {name : Option String} {error : Error}
    (h : e.url project name = .error error) :
    ∃ text reason, error = .urlConstruction text reason := by
  unfold url resourceUrl at h
  split at h
  · cases h
    exact ⟨_, _, rfl⟩
  · simp only at h
    split at h
    · cases h
      exact ⟨_, _, rfl⟩
    · split at h
      · cases h
        exact ⟨_, _, rfl⟩
      · split at h
        · cases h
          exact ⟨_, _, rfl⟩
        · cases h

theorem fetch_of_error {identity : Identity} {error : Error}
    (hurl : e.url identity.project (some identity.name) = .error error) :
    e.fetch identity = fail error := by
  rw [fetch, ofExcept_error_bind hurl]

theorem pollCreated_of_error {identity : Identity} {error : Error}
    (hurl : e.url identity.project (some identity.name) = .error error) :
    e.pollCreated identity = pure (.failed error) := by
  rw [pollCreated, fetch_of_error hurl]
  rfl

theorem pollDeleted_of_error {identity : Identity} {error : Error}
    (hurl : e.url identity.project (some identity.name) = .error error) :
    e.pollDeleted identity = pure (.failed error) := by
  obtain ⟨text, reason, rfl⟩ := urlConstruction_of_url hurl
  rw [pollDeleted, fetch_of_error hurl]
  rfl

theorem submit_of_error {project : String} {error : Error}
    (hurl : e.url project none = .error error)
    (object : RemoteObject) : e.submit project object = fail error := by
  rw [submit, ofExcept_error_bind hurl]

theorem remove_of_error {identity : Identity} {error : Error}
    (hurl : e.url identity.project (some identity.name) = .error error) :
    e.remove identity = fail error := by
  rw [remove, ofExcept_error_bind hurl]

/-! ## Kinds of events -/

/-- A kind to which all events of an exchange belong. -/
structure Admits (kind : Event → Prop) : Prop where
  sent : ∀ request, kind (.sent request)
  reply : ∀ reply : Reply Answer, ∀ e ∈ reply.events, kind e
  logged : ∀ line, kind (.logged line)

/-- The mark of a poll is never an event of an exchange. -/
theorem admits_ne_polled : Admits (· ≠ .polled) where
  sent := by simp
  reply reply e he hpolled := reply.polled_not_mem_events (hpolled ▸ he)
  logged := by simp

section Admits

variable {kind : Event → Prop} (hkind : Admits kind)

include hkind

theorem submit_emits (project : String) (object : RemoteObject) :
    Emits kind (e.submit project object) := by
  refine (emits_ofExcept _).bind fun url ↦ ?_
  refine (emits_send hkind.sent hkind.reply _).bind fun answer ↦ ?_
  cases objectOf answer with
  | error error => exact emits_fail _
  | ok created =>
    by_cases hname : created.name = ""
    · simp only [if_pos hname]
      exact emits_fail _
    · simp only [if_neg hname]
      exact (emits_log hkind.logged _ _).bind fun _ ↦ emits_pure _

theorem fetch_emits (identity : Identity) : Emits kind (e.fetch identity) := by
  refine (emits_ofExcept _).bind fun url ↦ ?_
  refine (emits_send hkind.sent hkind.reply _).bind fun answer ↦ ?_
  cases objectOf answer with
  | error error => exact emits_fail _
  | ok object => exact emits_pure _

theorem judge_emits {α : Type} (identity : Identity) (target : String) (object : RemoteObject)
    (value : α) : Emits kind (judge identity target object value) := by
  refine (emits_log hkind.logged _ _).bind fun _ ↦ ?_
  cases Phase.classify object.phase target with
  | succeeded => exact emits_pure _
  | pending => exact emits_pure _
  | failed => exact (emits_log hkind.logged _ _).bind fun _ ↦ emits_pure _

theorem pollCreated_emits (identity : Identity) : Emits kind (e.pollCreated identity) := by
  refine (fetch_emits hkind identity).attempt.bind fun looked ↦ ?_
  cases looked with
  | error error => exact emits_pure _
  | ok object => exact judge_emits hkind identity _ object object

theorem pollDeleted_emits (identity : Identity) : Emits kind (e.pollDeleted identity) := by
  refine (fetch_emits hkind identity).attempt.bind fun looked ↦ ?_
  cases looked with
  | error error =>
    by_cases habsent : error.isNotFound = true
    · simp only [if_pos habsent]
      exact (emits_log hkind.logged _ _).bind fun _ ↦ emits_pure _
    · simp only [if_neg habsent]
      exact emits_pure _
  | ok object => exact judge_emits hkind identity _ object ()

end Admits

end Endpoint

end NamespaceLifecycle
