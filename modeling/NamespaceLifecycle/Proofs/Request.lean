import NamespaceLifecycle.Proofs.Decision
import NamespaceLifecycle.Proofs.Lifecycle

/-!
# A request that can be called off

Whatever an operation sends, it does so in one way: nothing after the call to stop, nothing without
an address, and otherwise one request, whose answer is judged unless the operation is called off
before it comes. A plan names the address, the request and the judgement; what a run of it does is
said here once for the submission, the removal, the single reads and the polls of both waits.

A wait sends the request of its polls again and again. All but the last of its answers are pending,
and when the wait ends well the last one is why.
-/

namespace NamespaceLifecycle

/-- Where a request goes, what it is, and what is made of its answer or of the lack of an address;
with the error of being called off. -/
structure RequestPlan (α : Type) where
  cancelled : Error
  address : Except Error Url
  request : Url → Request
  judge : Except Error Answer → Except Error α

namespace Run

variable {α : Type} {s : Surroundings} {p : Progress}

/-- What a request does that can be called off. -/
inductive RequestRun (plan : RequestPlan α) (s : Surroundings) (p : Progress) :
    Except Stop α → List Event → Prop
  | unsent (hoff : p.isCalledOff = true) :
      RequestRun plan s p (.error (.failed plan.cancelled)) []
  | unaddressed {error : Error} (hopen : p.isCalledOff = false)
      (haddress : plan.address = .error error) :
      RequestRun plan s p ((plan.judge (.error error)).mapError .failed) []
  | overrun {url : Url} (hopen : p.isCalledOff = false) (haddress : plan.address = .ok url) :
      RequestRun plan s p (.error .clockOverrun) [.sent (plan.request url)]
  | unanswered {url : Url} {takes : Duration} {log lines : List LogLine}
      (hopen : p.isCalledOff = false) (haddress : plan.address = .ok url)
      (hreply : s.transport p.requests (plan.request url) = .silent takes log) :
      RequestRun plan s p (.error (.failed plan.cancelled))
        (.sent (plan.request url) :: .waited takes :: log.map .logged ++
          .calledOff :: lines.map .logged)
  | answered {url : Url} {takes : Duration} {callsOff : Bool} {log lines : List LogLine}
      {answer : Answer} (hopen : p.isCalledOff = false) (haddress : plan.address = .ok url)
      (hreply : s.transport p.requests (plan.request url) = .answered takes callsOff log answer) :
      RequestRun plan s p ((plan.judge (.ok answer)).mapError .failed)
        (.sent (plan.request url) :: .waited takes :: (if callsOff then [.calledOff] else []) ++
          lines.map .logged)

/-- Whatever a computation does, the plan says so. -/
def Follows (x : Run α) (plan : RequestPlan α) : Prop :=
  ∀ ⦃s p result events⦄, x s p = (result, events) → RequestRun plan s p result events

/-- A computation carries out a plan: it is an exchange with the address, and without an address
nothing is sent. -/
structure CarriesOut (x : Run α) (plan : RequestPlan α) : Prop where
  exchange : ∀ url, plan.address = .ok url →
    IsExchange (plan.request url) (fun answer ↦ plan.judge (.ok answer)) x
  unaddressed : ∀ error, plan.address = .error error → ∀ s p,
    x s p = ((plan.judge (.error error)).mapError .failed, [])

/-- What carries out a plan follows it when it can be called off. -/
theorem CarriesOut.follows {plan : RequestPlan α} {x : Run α} (hplan : CarriesOut x plan) :
    Follows (unlessCalledOff plan.cancelled x) plan := by
  intro s p result events h
  cases haddress : plan.address with
  | error error =>
    have hx := hplan.unaddressed error haddress s p
    rcases unlessCalledOff_cases h with
      ⟨hoff, rfl, rfl⟩ | ⟨-, hrun, -⟩ | ⟨hopen, hrun, -⟩
    · exact .unsent hoff
    · rw [hx, Prod.mk.injEq] at hrun
      cases hjudge : plan.judge (.error error) <;> rw [hjudge] at hrun <;> cases hrun.1
    · rw [hx, Prod.mk.injEq] at hrun
      obtain ⟨rfl, rfl⟩ := hrun
      exact .unaddressed hopen haddress
  | ok url =>
    rcases unlessCalledOff_cases h with
      ⟨hoff, rfl, rfl⟩ | ⟨hopen, hrun, rfl⟩ | ⟨hopen, hrun, hresult⟩
    · exact .unsent hoff
    · rcases (hplan.exchange url haddress).cases hrun with ⟨-, hstop, -⟩ | ⟨-, houtcome, lines, rfl⟩
      · cases hstop
      · cases hreply : s.transport p.requests (plan.request url) with
        | silent takes log =>
          have hrun' : RequestRun plan s p (.error (.failed plan.cancelled))
              (.sent (plan.request url) :: .waited takes :: log.map .logged ++
                .calledOff :: lines.map .logged) := .unanswered hopen haddress hreply
          simpa [Reply.events] using hrun'
        | answered takes callsOff log answer =>
          rw [hreply] at houtcome
          cases hjudge : plan.judge (.ok answer) <;>
            simp only [Reply.outcome, Except.bind, hjudge, mapError_error, mapError_ok]
              at houtcome <;>
            cases houtcome
    · rcases (hplan.exchange url haddress).cases hrun with ⟨-, rfl, rfl⟩ | ⟨-, rfl, lines, rfl⟩
      · exact .overrun hopen haddress
      · cases hreply : s.transport p.requests (plan.request url) with
        | silent takes log =>
          rw [hreply] at hresult
          exact absurd rfl hresult
        | answered takes callsOff log answer =>
          have hrun' : RequestRun plan s p ((plan.judge (.ok answer)).mapError .failed)
              (.sent (plan.request url) :: .waited takes ::
                (if callsOff then [.calledOff] else []) ++ (log ++ lines).map .logged) :=
            .answered hopen haddress hreply
          simpa [Reply.events, Reply.outcome, Except.bind] using hrun'

namespace RequestRun

variable {plan : RequestPlan α} {result : Except Stop α} {events : List Event}

/-- At most one request is sent, and it goes to the address. -/
theorem requestsIn_cases (h : RequestRun plan s p result events) :
    requestsIn events = [] ∨
      ∃ url, plan.address = .ok url ∧ requestsIn events = [plan.request url] := by
  cases h with
  | unsent => exact .inl rfl
  | unaddressed => exact .inl rfl
  | @overrun url _ haddress => exact .inr ⟨url, haddress, rfl⟩
  | @unanswered url _ _ _ _ haddress => exact .inr ⟨url, haddress, by simp [Event.request?]⟩
  | @answered url _ callsOff _ _ _ _ haddress =>
    refine .inr ⟨url, haddress, ?_⟩
    cases callsOff <;> simp [Event.request?]

/-- A run that yields a value has sent the request, its reply has come, and the value is what is
made of the answer. -/
theorem answered_of_ok {a : α} (h : RequestRun plan s p (.ok a) events)
    (hnone : ∀ error, plan.address = .error error → plan.judge (.error error) ≠ .ok a) :
    ∃ url takes callsOff answer, ∃ log lines : List LogLine, plan.address = .ok url ∧
      s.transport p.requests (plan.request url) = .answered takes callsOff log answer ∧
      plan.judge (.ok answer) = .ok a ∧
      events = .sent (plan.request url) :: .waited takes ::
        (if callsOff then [.calledOff] else []) ++ lines.map .logged := by
  generalize hresult : (Except.ok a : Except Stop α) = result at h
  cases h with
  | unsent => cases hresult
  | @unaddressed error hopen haddress =>
    cases hjudge : plan.judge (.error error) with
    | error other =>
      rw [hjudge] at hresult
      cases hresult
    | ok b =>
      rw [hjudge] at hresult
      cases hresult
      exact absurd hjudge (hnone error haddress)
  | overrun => cases hresult
  | unanswered => cases hresult
  | @answered url takes callsOff log lines answer hopen haddress hreply =>
    refine ⟨url, takes, callsOff, answer, log, lines, haddress, hreply, ?_, rfl⟩
    cases hjudge : plan.judge (.ok answer) with
    | error other =>
      rw [hjudge] at hresult
      cases hresult
    | ok b =>
      rw [hjudge] at hresult
      cases hresult
      rfl

/-- A request that is sent and yields a value has an answer, and the value is what is made of
it. -/
theorem of_ok {a : α} (h : RequestRun plan s p (.ok a) events)
    (hnone : ∀ error, plan.address = .error error → plan.judge (.error error) ≠ .ok a) :
    ∃ url answer, plan.address = .ok url ∧ requestsIn events = [plan.request url] ∧
      (s.transport p.requests (plan.request url)).outcome = .ok answer ∧
      plan.judge (.ok answer) = .ok a := by
  obtain ⟨url, takes, callsOff, answer, log, lines, haddress, hreply, hjudge, rfl⟩ :=
    h.answered_of_ok hnone
  refine ⟨url, answer, haddress, ?_, by rw [hreply]; rfl, hjudge⟩
  cases callsOff <;> simp [Event.request?]

end RequestRun

/-! ## The requests of a wait -/

/-- A plan for polls: whatever is known is an outcome, and a poll without an address fails. -/
structure IsPollPlan (plan : RequestPlan (PollOutcome α)) : Prop where
  judge_ok : ∀ known, ∃ outcome, plan.judge known = .ok outcome
  unaddressed : ∀ error, plan.address = .error error →
    ∃ other, plan.judge (.error error) = .ok (.failed other)

/-- The request with the given number is answered, and this is what is made of the answer. -/
def Finds (plan : RequestPlan (PollOutcome α)) (s : Surroundings) (n : Nat) (url : Url)
    (outcome : PollOutcome α) : Prop :=
  ∃ answer, (s.transport n (plan.request url)).outcome = .ok answer ∧
    plan.judge (.ok answer) = .ok outcome

/-- The requests of a wait: all are the same, all but the last have pending answers, and where the
wait ends well the answer to the last one is the reason. -/
inductive WaitRequests (plan : RequestPlan (PollOutcome α)) (s : Surroundings) (p : Progress)
    (result : Except Stop α) : List Request → Prop
  | none (hresult : ∀ value, result ≠ .ok value) : WaitRequests plan s p result []
  | same {url : Url} {count : Nat} (haddress : plan.address = .ok url)
      (hpending : ∀ j, j + 1 < count → Finds plan s (p.requests + j) url .pending)
      (hdone : ∀ value, result = .ok value →
        ∃ last, count = last + 1 ∧ Finds plan s (p.requests + last) url (.done value)) :
      WaitRequests plan s p result (List.replicate count (plan.request url))

section Waits

variable {policy : WaitPolicy} {subject : WaitSubject} {deadline : Duration}
  {x : Run (PollOutcome α)} {plan : RequestPlan (PollOutcome α)}
  (hplan : Follows (unlessCalledOff subject.cancelled x) plan) (hpoll : IsPollPlan plan)

include hplan hpoll

/-- A poll that settles nothing, or finds the target reached, has an answer that says so. -/
theorem finds_of_look {outcome : PollOutcome α} (hfound : ∀ error, outcome ≠ .failed error)
    {looking : List Event}
    (hlook : unlessCalledOff subject.cancelled x s p = (.ok outcome, looking)) :
    ∃ url, plan.address = .ok url ∧ requestsIn looking = [plan.request url] ∧
      Finds plan s p.requests url outcome := by
  obtain ⟨url, answer, haddress, hsent, hanswer, hjudge⟩ := (hplan hlook).of_ok (by
    intro error haddress hjudge
    obtain ⟨other, hother⟩ := hpoll.unaddressed error haddress
    rw [hother, Except.ok.injEq] at hjudge
    exact hfound other hjudge.symm)
  exact ⟨url, haddress, hsent, answer, hanswer, hjudge⟩

theorem PendingPolls.eq_nil_of_error {error : Error} (haddress : plan.address = .error error)
    {index count : Nat} {front : List Event}
    (h : PendingPolls policy subject deadline (fun _ ↦ x) s index p count front) : front = [] := by
  cases h with
  | none => rfl
  | more hopen hearly hlook =>
    obtain ⟨url, hurl, -⟩ := finds_of_look hplan hpoll (by simp) hlook
    rw [haddress] at hurl
    cases hurl

/-- Polls that settle nothing send one request each, with a pending answer. -/
theorem PendingPolls.requestsIn_eq {url : Url} (haddress : plan.address = .ok url)
    {index count : Nat} {front : List Event}
    (h : PendingPolls policy subject deadline (fun _ ↦ x) s index p count front) :
    requestsIn front = List.replicate count (plan.request url) ∧
      ∀ j < count, Finds plan s (p.requests + j) url .pending := by
  induction h with
  | none => exact ⟨rfl, fun j hj ↦ absurd hj j.not_lt_zero⟩
  | @more index count p looking pausing rest hopen hearly hlook hpause hrest ih =>
    -- The first poll has sent one request, by which the numbers of the rest are shifted.
    obtain ⟨url', hurl, hsent, hfinds⟩ := finds_of_look hplan hpoll (by simp) hlook
    rw [haddress, Except.ok.injEq] at hurl
    subst hurl
    obtain ⟨hrestSent, hrestFinds⟩ := ih
    have hrequests : ((p.afterAll looking).afterAll pausing).requests = p.requests + 1 := by
      rw [Progress.requests_afterAll, Progress.requests_afterAll, hsent, hpause.requestsIn_eq_nil]
      rfl
    constructor
    · rw [List.cons_append, requestsIn_append, requestsIn_cons, requestsIn_append, hsent,
        hpause.requestsIn_eq_nil, hrestSent, List.replicate_succ]
      rfl
    · intro j hj
      cases j with
      | zero => exact hfinds
      | succ j =>
        have hnext := hrestFinds j (Nat.lt_of_succ_lt_succ hj)
        rw [hrequests] at hnext
        rw [Nat.add_comm j 1, ← Nat.add_assoc]
        exact hnext

/-- The end of the polls of a wait sends at most one request more. -/
theorem PollsEnd.requests {index : Nat} {polls : UInt32} {result : Except Stop α}
    {events : List Event}
    (h : PollsEnd policy subject deadline (fun _ ↦ x) s index p polls result events) :
    (requestsIn events = [] ∧ ∀ value, result ≠ .ok value) ∨
      ∃ url, plan.address = .ok url ∧ requestsIn events = [plan.request url] ∧
        ∀ value, result = .ok value → Finds plan s p.requests url (.done value) := by
  have hstopped {found : Except Stop (PollOutcome α)} {looking : List Event}
      {result : Except Stop α} (hresult : ∀ value, result ≠ .ok value)
      (hlook : unlessCalledOff subject.cancelled x s p = (found, looking)) :
      (requestsIn (.polled :: looking) = [] ∧ ∀ value, result ≠ .ok value) ∨
        ∃ url, plan.address = .ok url ∧ requestsIn (.polled :: looking) = [plan.request url] ∧
          ∀ value, result = .ok value → Finds plan s p.requests url (.done value) := by
    rcases (hplan hlook).requestsIn_cases with hsent | ⟨url, haddress, hsent⟩
    · exact .inl ⟨hsent, hresult⟩
    · exact .inr ⟨url, haddress, hsent, fun value hvalue ↦ absurd hvalue (hresult value)⟩
  cases h with
  | calledOff => exact .inl ⟨rfl, by simp⟩
  | unnamed => exact .inl ⟨rfl, by simp⟩
  | expired => exact .inl ⟨rfl, by simp⟩
  | stopped hopen hearly hlook => exact hstopped (by simp) hlook
  | failed hopen hearly hlook => exact hstopped (by simp) hlook
  | @done value looking hopen hearly hlook =>
    obtain ⟨url, haddress, hsent, hfinds⟩ := finds_of_look hplan hpoll (by simp) hlook
    refine .inr ⟨url, haddress, hsent, fun other hother ↦ ?_⟩
    rw [Except.ok.injEq] at hother
    rw [← hother]
    exact hfinds
  | @interrupted stop looking pausing hopen hearly hlook hpause =>
    have hsent : requestsIn (.polled :: looking ++ pausing) = requestsIn (.polled :: looking) := by
      rw [requestsIn_append, hpause.requestsIn_eq_nil, List.append_nil]
    rw [hsent]
    exact hstopped (by simp) hlook

/-- A wait sends the request of its polls as long as the answers are pending. -/
theorem WaitRun.requests {result : Except Stop α} {events : List Event}
    (h : WaitRun policy subject (fun _ ↦ x) s p result events) :
    WaitRequests plan s p result (requestsIn events) := by
  cases h with
  | unnamed => exact .none (by simp)
  | refused => exact .none (by simp)
  | delayed hdeadline hpause =>
    rw [hpause.requestsIn_eq_nil]
    exact .none (by simp)
  | @polled deadline pausing rest _ hdeadline hpause hpolls =>
    obtain ⟨count, front, last, hfront, hlast, rfl⟩ := hpolls
    have hstart : (p.afterAll pausing).requests = p.requests := by
      rw [Progress.requests_afterAll, hpause.requestsIn_eq_nil]
      rfl
    have hend := hlast.requests hplan hpoll
    rw [requestsIn_append, requestsIn_append, hpause.requestsIn_eq_nil, List.nil_append]
    -- Without an address the first poll is the last one.
    cases haddress : plan.address with
    | error error =>
      rw [hfront.eq_nil_of_error hplan hpoll haddress, requestsIn_nil, List.nil_append]
      rcases hend with ⟨hsent, hresult⟩ | ⟨url, hurl, -⟩
      · rw [hsent]
        exact .none hresult
      · rw [haddress] at hurl
        cases hurl
    | ok url =>
      obtain ⟨hfrontSent, hfrontFinds⟩ := hfront.requestsIn_eq hplan hpoll haddress
      have hrequests : ((p.afterAll pausing).afterAll front).requests = p.requests + count := by
        rw [Progress.requests_afterAll, hstart, hfrontSent, List.length_replicate]
      rw [hstart] at hfrontFinds
      rw [hfrontSent]
      rcases hend with ⟨hsent, hresult⟩ | ⟨url', hurl, hsent, hdone⟩
      · rw [hsent, List.append_nil]
        exact .same haddress (fun j hj ↦ hfrontFinds j (by omega))
          fun value hvalue ↦ absurd hvalue (hresult value)
      · rw [haddress, Except.ok.injEq] at hurl
        subst hurl
        rw [hrequests] at hdone
        rw [hsent, ← List.replicate_succ']
        exact .same haddress (fun j hj ↦ hfrontFinds j (by omega))
          fun value hvalue ↦ ⟨count, rfl, hdone value hvalue⟩

end Waits

end Run

/-! ## The plans -/

namespace Endpoint

open Run

variable {e : Endpoint}

def readPlan {α : Type} (e : Endpoint) (identity : Identity) (target : String)
    (judge : Except Error RemoteObject → Except Error α) : RequestPlan α where
  cancelled := .cancelled identity.project identity.name target
  address := e.url identity.project (some identity.name)
  request url := ⟨.get, url, none⟩
  judge known := judge (known.bind (found identity))

def createdPollPlan (e : Endpoint) (identity : Identity) :
    RequestPlan (PollOutcome RemoteObject) :=
  e.readPlan identity "created" fun looked ↦ .ok (createdOutcome identity looked)

def deletedPollPlan (e : Endpoint) (identity : Identity) : RequestPlan (PollOutcome Unit) :=
  e.readPlan identity "deleted" fun looked ↦ .ok (deletedOutcome identity looked)

theorem pollCreated_follows (identity : Identity) :
    Follows (unlessCalledOff (WaitSubject.mk identity "created").cancelled (e.pollCreated identity))
      (e.createdPollPlan identity) := by
  have hplan : CarriesOut (e.pollCreated identity) (e.createdPollPlan identity) := by
    constructor
    · exact fun url hurl ↦ pollCreated_isExchange hurl
    · intro error hurl s p
      rw [pollCreated_of_error hurl]
      rfl
  exact hplan.follows

theorem pollDeleted_follows (identity : Identity) :
    Follows (unlessCalledOff (WaitSubject.mk identity "deleted").cancelled (e.pollDeleted identity))
      (e.deletedPollPlan identity) := by
  have hplan : CarriesOut (e.pollDeleted identity) (e.deletedPollPlan identity) := by
    constructor
    · exact fun url hurl ↦ pollDeleted_isExchange hurl
    · intro error hurl s p
      rw [pollDeleted_of_error hurl]
      obtain ⟨text, reason, rfl⟩ := urlConstruction_of_url hurl
      rfl
  exact hplan.follows

theorem createdPollPlan_isPollPlan (identity : Identity) :
    IsPollPlan (e.createdPollPlan identity) where
  judge_ok _ := ⟨_, rfl⟩
  unaddressed error _ := ⟨error, rfl⟩

theorem deletedPollPlan_isPollPlan (identity : Identity) :
    IsPollPlan (e.deletedPollPlan identity) where
  judge_ok _ := ⟨_, rfl⟩
  unaddressed error hurl := by
    obtain ⟨text, reason, rfl⟩ := urlConstruction_of_url hurl
    exact ⟨_, rfl⟩

end Endpoint

namespace Manager

open Run

variable {m : Manager}

def submissionPlan (m : Manager) (config : State) : RequestPlan RemoteObject where
  cancelled := .cancelled config.projectName config.namePrefix "created"
  address := m.endpoint.url config.projectName none
  request url := ⟨.post, url, some config.toObject.toJson⟩
  judge known := known.bind (Endpoint.submitted config.projectName config.toObject)

def removalPlan (m : Manager) (identity : Identity) : RequestPlan Unit where
  cancelled := .cancelled identity.project identity.name "deleted"
  address := m.endpoint.url identity.project (some identity.name)
  request url := ⟨.delete, url, none⟩
  judge known := known.bind (Endpoint.removed identity)

def fetchPlan (m : Manager) (identity : Identity) (target : String) : RequestPlan RemoteObject :=
  m.endpoint.readPlan identity target id

def refreshPlan (m : Manager) (identity : Identity) (target : String) : RequestPlan State :=
  m.endpoint.readPlan identity target (·.bind identity.view)

theorem submission_follows (config : State) :
    Follows (m.submission config) (m.submissionPlan config) := by
  have hplan : CarriesOut (m.endpoint.submit config.projectName config.toObject)
      (m.submissionPlan config) := by
    constructor
    · exact fun url hurl ↦ Endpoint.submit_isExchange hurl config.toObject
    · intro error hurl s p
      rw [Endpoint.submit_of_error hurl]
      rfl
  exact hplan.follows

theorem removal_follows (identity : Identity) :
    Follows (cancellable identity "deleted" (m.endpoint.remove identity))
      (m.removalPlan identity) := by
  have hplan : CarriesOut (m.endpoint.remove identity) (m.removalPlan identity) := by
    constructor
    · exact fun url hurl ↦ Endpoint.remove_isExchange hurl
    · intro error hurl s p
      rw [Endpoint.remove_of_error hurl]
      rfl
  exact hplan.follows

theorem fetch_carriesOut (identity : Identity) (target : String) :
    CarriesOut (m.endpoint.fetch identity) (m.fetchPlan identity target) := by
  constructor
  · exact fun url hurl ↦ Endpoint.fetch_isExchange hurl
  · intro error hurl s p
    rw [Endpoint.fetch_of_error hurl]
    rfl

theorem refresh_carriesOut (identity : Identity) (target : String) :
    CarriesOut (m.refresh identity) (m.refreshPlan identity target) := by
  constructor
  · exact fun url hurl ↦ refresh_isExchange hurl
  · intro error hurl s p
    rw [refresh_of_error hurl]
    rfl

theorem fetch_follows (identity : Identity) (target : String) :
    Follows (cancellable identity target (m.endpoint.fetch identity))
      (m.fetchPlan identity target) :=
  (fetch_carriesOut identity target).follows

theorem refresh_follows (identity : Identity) (target : String) :
    Follows (cancellable identity target (m.refresh identity)) (m.refreshPlan identity target) :=
  (refresh_carriesOut identity target).follows

end Manager

end NamespaceLifecycle
