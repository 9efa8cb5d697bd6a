import NamespaceLifecycle.Proofs.Creation
import NamespaceLifecycle.Proofs.Refusal
import NamespaceLifecycle.Proofs.Request

/-!
# What each operation sends

Making a namespace sends one submission, and then reads the namespace under the name that the
service has given it: as long as it is pending, and once more when it is made. Removing one sends
one removal and then reads it, at one address. A single reading and an import send one request at
most, and a change sends nothing. A request is followed by another only where it has been answered
by a document, so no failure is ever answered by trying again, and nothing that was made is taken
back.
-/

namespace NamespaceLifecycle

/-- The request with the given number is answered by this object. -/
def AnsweredBy (s : Surroundings) (n : Nat) (request : Request) (object : RemoteObject) : Prop :=
  ∃ value, (s.transport n request).outcome = .ok (.ok value) ∧
    RemoteObject.ofJson value = .ok object

/-- Each request but the last is answered by a document; the first one has the given number. -/
def GrantedInTurn (s : Surroundings) (n : Nat) (requests : List Request) : Prop :=
  ∀ i request, requests[i]? = some request → i + 1 < requests.length →
    ∃ value, (s.transport (n + i) request).outcome = .ok (.ok value)

theorem grantedInTurn_of_length_le {s : Surroundings} {n : Nat} {requests : List Request}
    (h : requests.length ≤ 1) : GrantedInTurn s n requests :=
  fun _ _ _ hlt ↦ absurd (Nat.le_trans hlt h) (by omega)

/-- A request that is granted may come before requests that are granted in turn. -/
theorem GrantedInTurn.cons {s : Surroundings} {n : Nat} {request : Request}
    {requests : List Request} (h : GrantedInTurn s (n + 1) requests)
    (hfirst : requests ≠ [] → ∃ value, (s.transport n request).outcome = .ok (.ok value)) :
    GrantedInTurn s n (request :: requests) := by
  intro i other hother hlt
  cases i with
  | zero =>
    rw [List.getElem?_cons_zero, Option.some.injEq] at hother
    subst hother
    apply hfirst
    rintro rfl
    simp at hlt
  | succ i =>
    rw [List.getElem?_cons_succ] at hother
    have hgranted := h i other hother (Nat.lt_of_succ_lt_succ hlt)
    rw [Nat.add_comm i 1, ← Nat.add_assoc]
    exact hgranted

namespace Endpoint

open Run

variable {e : Endpoint}

theorem exists_value_of_deletedOutcome {identity : Identity} {answer : Answer}
    (h : deletedOutcome identity (found identity answer) = .pending) :
    ∃ value, answer = .ok value := by
  cases answer with
  | error error =>
    simp only [found, objectOf, mapError_error, deletedOutcome] at h
    split at h <;> cases h
  | ok value => exact ⟨value, rfl⟩

end Endpoint

namespace Manager

open Run

variable {m : Manager} {s : Surroundings} {p : Progress}

/-- What the making of a namespace may send: nothing, or one submission and then readings of what
was submitted, of which at most one follows the first that finds the namespace made. -/
inductive CreateSends (m : Manager) (config : State) (s : Surroundings) (p : Progress) :
    List Request → Prop
  | nothing : CreateSends m config s p []
  | submission {url : Url} {reads : List Request}
      (hurl : m.endpoint.url config.projectName none = .ok url)
      (hnamed : reads ≠ [] → ∃ object instanceUrl,
        AnsweredBy s p.requests ⟨.post, url, some config.toObject.toJson⟩ object ∧
        object.name ≠ "" ∧
        m.endpoint.url config.projectName (some object.name) = .ok instanceUrl ∧
        ∀ read ∈ reads, read = ⟨.get, instanceUrl, none⟩)
      (hmade : ∀ j read object, reads[j]? = some read →
        AnsweredBy s (p.requests + 1 + j) read object →
        Phase.normalize object.phase = Phase.created → reads.length ≤ j + 2) :
      CreateSends m config s p (⟨.post, url, some config.toObject.toJson⟩ :: reads)

/-- What the removal of a namespace may send: nothing, or one removal and, where it is granted,
readings at the same address. -/
inductive DeleteSends (m : Manager) (state : State) (s : Surroundings) (p : Progress) :
    List Request → Prop
  | nothing : DeleteSends m state s p []
  | removal {identity : Identity} {url : Url} {reads : List Request}
      (hidentity : identityOf state = .ok identity)
      (hurl : m.endpoint.url identity.project (some identity.name) = .ok url)
      (hgranted : reads ≠ [] →
        ∃ value, (s.transport p.requests ⟨.delete, url, none⟩).outcome = .ok (.ok value))
      (hreads : ∀ read ∈ reads, read = ⟨.get, url, none⟩) :
      DeleteSends m state s p (⟨.delete, url, none⟩ :: reads)

inductive ReadSends (m : Manager) (identity? : Except Error Identity) : List Request → Prop
  | nothing : ReadSends m identity? []
  | read {identity : Identity} {url : Url} (hidentity : identity? = .ok identity)
      (hurl : m.endpoint.url identity.project (some identity.name) = .ok url) :
      ReadSends m identity? [⟨.get, url, none⟩]

def MaySend (m : Manager) (s : Surroundings) (p : Progress) : Call → List Request → Prop
  | .create config => m.CreateSends config s p
  | .read state => m.ReadSends (identityOf state)
  | .delete state => m.DeleteSends state s p
  | .importKey key => m.ReadSends (Identity.ofImportKey key)

/-- Readings of a namespace that is being made: all but the last have pending answers, and one more
follows only where the last one has found the namespace made. -/
structure CreationReads (m : Manager) (identity : Identity) (s : Surroundings) (n : Nat)
    (url : Url) (count total : Nat) : Prop where
  pending : ∀ j, j + 1 < count →
    Finds (m.endpoint.createdPollPlan identity) s (n + j) url .pending
  total_le : total ≤ count + 1
  made : count < total → ∃ last object, count = last + 1 ∧
    Finds (m.endpoint.createdPollPlan identity) s (n + last) url (.done object)

theorem CreationReads.grantedInTurn {identity : Identity} {n : Nat} {url : Url} {count total : Nat}
    (h : m.CreationReads identity s n url count total) :
    GrantedInTurn s n (List.replicate total ⟨.get, url, none⟩) := by
  intro j read hread hlt
  rw [List.length_replicate] at hlt
  have hsame := List.eq_of_mem_replicate (List.mem_of_getElem? hread)
  subst hsame
  rcases Nat.lt_or_ge (j + 1) count with hpending | hlast
  · obtain ⟨answer, hanswer, hjudge⟩ := h.pending j hpending
    obtain ⟨_, ⟨value, rfl, -⟩, -⟩ :=
      (Endpoint.createdOutcome_eq_pending_iff identity answer).1 (Except.ok.inj hjudge)
    exact ⟨value, hanswer⟩
  · obtain ⟨last, object, hcount, answer, hanswer, hjudge⟩ := h.made (by omega)
    obtain ⟨⟨value, rfl, -⟩, -⟩ :=
      (Endpoint.createdOutcome_eq_done_iff identity answer object).1 (Except.ok.inj hjudge)
    have hj : j = last := by
      have htotal := h.total_le
      omega
    subst hj
    exact ⟨value, hanswer⟩

/-- At most one reading follows the first that finds the namespace made. -/
theorem CreationReads.total_le_of_created {identity : Identity} {n : Nat} {url : Url}
    {count total j : Nat} {object : RemoteObject}
    (h : m.CreationReads identity s n url count total)
    (hobject : AnsweredBy s (n + j) ⟨.get, url, none⟩ object)
    (hphase : Phase.normalize object.phase = Phase.created) : total ≤ j + 2 := by
  -- Before the last reading the answers are pending, and this one is not.
  have hlast : ¬j + 1 < count := by
    intro hlt
    obtain ⟨answer, hanswer, hjudge⟩ := h.pending j hlt
    obtain ⟨value, hvalue, hdecoded⟩ := hobject
    have hsame : answer = .ok value := Except.ok.inj (hanswer.symm.trans hvalue)
    have houtcome : Endpoint.createdOutcome identity (Endpoint.found identity answer) = .pending :=
      Except.ok.inj hjudge
    have hmade : answer.ShowsMade object := ⟨⟨value, hsame, hdecoded⟩, hphase⟩
    cases houtcome.symm.trans ((Endpoint.createdOutcome_eq_done_iff identity answer object).2 hmade)
  have htotal := h.total_le
  omega

/-- The readings of a creation are those of its wait, and one more where it has ended well. -/
theorem creationReads_of_wait {identity : Identity} {result : Except Stop RemoteObject}
    {waiting last : List Request} (hwait : WaitRequests (m.endpoint.createdPollPlan identity) s p
      result waiting)
    (hlast : last = [] ∨ (∃ object, result = .ok object) ∧ ∃ url,
      m.endpoint.url identity.project (some identity.name) = .ok url ∧
        last = [⟨.get, url, none⟩]) :
    waiting ++ last = [] ∨ ∃ url count total,
      m.endpoint.url identity.project (some identity.name) = .ok url ∧
      waiting ++ last = List.replicate total ⟨.get, url, none⟩ ∧
      m.CreationReads identity s p.requests url count total := by
  cases hwait with
  | none hresult =>
    rcases hlast with rfl | ⟨⟨object, hobject⟩, -⟩
    · exact .inl rfl
    · exact absurd hobject (hresult object)
  | @same url count haddress hpending hdone =>
    refine .inr ?_
    rcases hlast with rfl | ⟨⟨object, hobject⟩, url', hurl, rfl⟩
    · refine ⟨url, count, count, haddress, List.append_nil _, hpending, Nat.le_succ _, ?_⟩
      exact fun hlt ↦ absurd hlt (Nat.lt_irrefl _)
    · have hsame : url' = url := Except.ok.inj (hurl.symm.trans haddress)
      subst hsame
      obtain ⟨last, hcount, hfinds⟩ := hdone object hobject
      refine ⟨url', count, count + 1, haddress, List.replicate_succ'.symm, hpending,
        Nat.le_refl _, fun _ ↦ ⟨last, object, hcount, hfinds⟩⟩

theorem readBack_requests {config created : State} {identity : Identity}
    {result : Except Stop State} {events : List Event}
    (h : m.readBack config identity created s p = (result, events)) :
    requestsIn events = [] ∨ ∃ url,
      m.endpoint.url identity.project (some identity.name) = .ok url ∧
        requestsIn events = [⟨.get, url, none⟩] := by
  cases readBack_run h with
  | read hread => exact (refresh_follows identity "read" hread).requestsIn_cases
  | @unread _ line events hread =>
    have hsent : requestsIn (events ++ [.logged line]) = requestsIn events := by
      simp [Event.request?]
    rw [hsent]
    exact (refresh_follows identity "read" hread).requestsIn_cases
  | stopped _ hread => exact (refresh_follows identity "read" hread).requestsIn_cases

/-- What follows a granted submission keeps to the protocol. -/
theorem createSends_of_reads {config : State} {url : Url} {submitted : RemoteObject}
    {reads : List Request} (hurl : m.endpoint.url config.projectName none = .ok url)
    (hpost : AnsweredBy s p.requests ⟨.post, url, some config.toObject.toJson⟩ submitted)
    (hname : submitted.name ≠ "")
    (hreads : reads = [] ∨ ∃ instanceUrl count total,
      m.endpoint.url config.projectName (some submitted.name) = .ok instanceUrl ∧
      reads = List.replicate total ⟨.get, instanceUrl, none⟩ ∧
      m.CreationReads ⟨config.projectName, submitted.name⟩ s (p.requests + 1) instanceUrl count
        total) :
    m.CreateSends config s p (⟨.post, url, some config.toObject.toJson⟩ :: reads) ∧
      GrantedInTurn s p.requests (⟨.post, url, some config.toObject.toJson⟩ :: reads) := by
  rcases hreads with rfl | ⟨instanceUrl, count, total, hinstance, rfl, hreads⟩
  · exact ⟨.submission hurl (by simp) (by simp), grantedInTurn_of_length_le (Nat.le_refl 1)⟩
  · refine ⟨.submission hurl ?_ ?_, ?_⟩
    · exact fun _ ↦ ⟨submitted, instanceUrl, hpost, hname, hinstance,
        fun read ↦ List.eq_of_mem_replicate⟩
    · intro j read object hread hobject hphase
      have hsame := List.eq_of_mem_replicate (List.mem_of_getElem? hread)
      subst hsame
      rw [List.length_replicate]
      exact hreads.total_le_of_created hobject hphase
    · apply hreads.grantedInTurn.cons
      obtain ⟨value, hvalue, -⟩ := hpost
      exact fun _ ↦ ⟨value, hvalue⟩

/-- A submission that is granted has sent one request, whose answer is the object with its name. -/
theorem answeredBy_of_submission {config : State} {submitted : RemoteObject} {first : List Event}
    (h : m.submission config s p = (.ok submitted, first)) :
    ∃ url, m.endpoint.url config.projectName none = .ok url ∧
      AnsweredBy s p.requests ⟨.post, url, some config.toObject.toJson⟩ submitted ∧
      submitted.name ≠ "" ∧
      requestsIn first = [⟨.post, url, some config.toObject.toJson⟩] := by
  obtain ⟨url, answer, hurl, -, hanswer, hsubmitted, -, hsent⟩ := submission_of_ok h
  obtain ⟨⟨value, rfl, hdecoded⟩, hname⟩ := Endpoint.submitted_eq_ok_iff.1 hsubmitted
  exact ⟨url, hurl, ⟨value, hanswer, hdecoded⟩, hname, hsent⟩

/-- The requests of a wait for a namespace that is being made. -/
theorem awaitCreated_requests {e : Endpoint} {policy : WaitPolicy} {identity : Identity}
    {result : Except Stop RemoteObject} {events : List Event}
    (h : e.awaitCreated policy identity s p = (result, events)) :
    WaitRequests (e.createdPollPlan identity) s p result (requestsIn events) :=
  (waitUntil_run h).requests (Endpoint.pollCreated_follows identity)
    (Endpoint.createdPollPlan_isPollPlan identity)

theorem awaitDeleted_requests {e : Endpoint} {policy : WaitPolicy} {identity : Identity}
    {result : Except Stop Unit} {events : List Event}
    (h : e.awaitDeleted policy identity s p = (result, events)) :
    WaitRequests (e.deletedPollPlan identity) s p result (requestsIn events) :=
  (waitUntil_run h).requests (Endpoint.pollDeleted_follows identity)
    (Endpoint.deletedPollPlan_isPollPlan identity)

/-- What comes after a granted submission: the requests of the wait, and those of the last
reading where the wait has ended well. -/
theorem create_sends_of_wait {config : State} {submitted : RemoteObject}
    {found : Except Stop RemoteObject} {first waiting : List Event} {last : List Request}
    (hsubmit : m.submission config s p = (.ok submitted, first))
    (hwait : m.endpoint.awaitCreated m.createPolicy ⟨config.projectName, submitted.name⟩ s
      (p.afterAll first) = (found, waiting))
    (hlast : last = [] ∨ (∃ object, found = .ok object) ∧ ∃ url,
      m.endpoint.url config.projectName (some submitted.name) = .ok url ∧
        last = [⟨.get, url, none⟩]) :
    m.CreateSends config s p (requestsIn first ++ (requestsIn waiting ++ last)) ∧
      GrantedInTurn s p.requests (requestsIn first ++ (requestsIn waiting ++ last)) := by
  obtain ⟨url, hurl, hpost, hname, hsent⟩ := answeredBy_of_submission hsubmit
  have hrequests : (p.afterAll first).requests = p.requests + 1 := by
    rw [Progress.requests_afterAll, hsent]
    rfl
  have hreads := creationReads_of_wait (awaitCreated_requests hwait) hlast
  rw [hrequests] at hreads
  rw [hsent]
  exact createSends_of_reads hurl hpost hname hreads

theorem create_sends {config : State} {result : Except Stop State} {events : List Event}
    (h : m.create config s p = (result, events)) :
    m.CreateSends config s p (requestsIn events) ∧
      GrantedInTurn s p.requests (requestsIn events) := by
  have hnothing : m.CreateSends config s p [] ∧ GrantedInTurn s p.requests [] :=
    ⟨.nothing, grantedInTurn_of_length_le (Nat.zero_le 1)⟩
  cases create_run h with
  | invalid => exact hnothing
  | unnamed => exact hnothing
  | refused => exact hnothing
  | unsubmitted _ _ hsubmit =>
    rcases (submission_follows config hsubmit).requestsIn_cases with hsent | ⟨url, hurl, hsent⟩
    · rw [hsent]
      exact hnothing
    · rw [hsent]
      exact ⟨.submission hurl (by simp) (by simp), grantedInTurn_of_length_le (Nat.le_refl 1)⟩
  | @unfinished _ _ _ line first waiting _ _ hsubmit hwait =>
    have hsent : requestsIn (first ++ .logged line :: waiting) =
        requestsIn first ++ (requestsIn waiting ++ []) := by
      simp [Event.request?]
    rw [hsent]
    exact create_sends_of_wait hsubmit hwait (.inl rfl)
  | @made _ _ object _ _ line line' first waiting last _ _ hsubmit hwait _ hlast =>
    have hsent : requestsIn (first ++ .logged line :: waiting ++ .logged line' :: last) =
        requestsIn first ++ (requestsIn waiting ++ requestsIn last) := by
      simp [Event.request?]
    rw [hsent]
    apply create_sends_of_wait hsubmit hwait
    rcases readBack_requests hlast with hnone | hone
    · exact .inl hnone
    · exact .inr ⟨⟨object, rfl⟩, hone⟩

/-- The readings of a removal go to its address, and each but the last has a pending answer. -/
theorem grantedInTurn_of_deletedPolls {identity : Identity} {n : Nat} {url : Url} {count : Nat}
    (h : ∀ j, j + 1 < count →
      Finds (m.endpoint.deletedPollPlan identity) s (n + j) url .pending) :
    GrantedInTurn s n (List.replicate count ⟨.get, url, none⟩) := by
  intro j read hread hlt
  rw [List.length_replicate] at hlt
  have hsame := List.eq_of_mem_replicate (List.mem_of_getElem? hread)
  subst hsame
  obtain ⟨answer, hanswer, hjudge⟩ := h j hlt
  obtain ⟨value, rfl⟩ := Endpoint.exists_value_of_deletedOutcome (Except.ok.inj hjudge)
  exact ⟨value, hanswer⟩

theorem delete_sends_of_wait {state : State} {identity : Identity} {found : Except Stop Unit}
    {first waiting : List Event} (hidentity : identityOf state = .ok identity)
    (hremove : cancellable identity "deleted" (m.endpoint.remove identity) s p = (.ok (), first))
    (hwait : m.endpoint.awaitDeleted m.deletePolicy identity s (p.afterAll first) =
      (found, waiting)) :
    m.DeleteSends state s p (requestsIn first ++ requestsIn waiting) ∧
      GrantedInTurn s p.requests (requestsIn first ++ requestsIn waiting) := by
  obtain ⟨url, value, hurl, -, hanswer, -, hsent⟩ := removal_of_ok hremove
  have hrequests : (p.afterAll first).requests = p.requests + 1 := by
    rw [Progress.requests_afterAll, hsent]
    rfl
  have hreads := awaitDeleted_requests hwait
  rw [hsent]
  generalize requestsIn waiting = reads at hreads ⊢
  cases hreads with
  | none =>
    exact ⟨.removal hidentity hurl (by simp) (by simp), grantedInTurn_of_length_le (Nat.le_refl 1)⟩
  | @same url' count haddress hpending hdone =>
    have hsame : url' = url := Except.ok.inj (haddress.symm.trans hurl)
    subst hsame
    rw [hrequests] at hpending
    refine ⟨.removal hidentity hurl (fun _ ↦ ⟨value, hanswer⟩) fun read ↦ List.eq_of_mem_replicate,
      ?_⟩
    exact (grantedInTurn_of_deletedPolls hpending).cons fun _ ↦ ⟨value, hanswer⟩

theorem delete_sends {state : State} {result : Except Stop State} {events : List Event}
    (h : m.delete state s p = (result, events)) :
    m.DeleteSends state s p (requestsIn events) ∧
      GrantedInTurn s p.requests (requestsIn events) := by
  have hnothing : m.DeleteSends state s p [] ∧ GrantedInTurn s p.requests [] :=
    ⟨.nothing, grantedInTurn_of_length_le (Nat.zero_le 1)⟩
  cases delete_run h with
  | unidentified => exact hnothing
  | unnamed => exact hnothing
  | refused => exact hnothing
  | @unremoved identity _ _ _ hidentity _ hremove =>
    rcases (removal_follows identity hremove).requestsIn_cases with hsent | ⟨url, hurl, hsent⟩
    · rw [hsent]
      exact hnothing
    · rw [hsent]
      exact ⟨.removal hidentity hurl (by simp) (by simp),
        grantedInTurn_of_length_le (Nat.le_refl 1)⟩
  | @unfinished _ _ _ line first waiting hidentity _ hremove hwait =>
    have hsent : requestsIn (first ++ .logged line :: waiting) =
        requestsIn first ++ requestsIn waiting := by
      simp [Event.request?]
    rw [hsent]
    exact delete_sends_of_wait hidentity hremove hwait
  | @removed _ _ line line' first waiting hidentity _ hremove hwait =>
    have hsent : requestsIn (first ++ .logged line :: waiting ++ [.logged line']) =
        requestsIn first ++ requestsIn waiting := by
      simp [Event.request?]
    rw [hsent]
    exact delete_sends_of_wait hidentity hremove hwait

theorem read_sends {state : State} {result : Except Stop State} {events : List Event}
    (h : m.read state s p = (result, events)) :
    m.ReadSends (identityOf state) (requestsIn events) := by
  cases read_run h with
  | unidentified => exact .nothing
  | @asked identity _ _ hidentity hread =>
    rcases (refresh_follows identity "read" hread).requestsIn_cases with
      hsent | ⟨url, hurl, hsent⟩
    · rw [hsent]
      exact .nothing
    · rw [hsent]
      exact .read hidentity hurl

theorem importKey_sends {key : String} {result : Except Stop State} {events : List Event}
    (h : m.importKey key s p = (result, events)) :
    m.ReadSends (Identity.ofImportKey key) (requestsIn events) := by
  have hfetched {identity : Identity} {found : Except Stop RemoteObject} {events : List Event}
      (hidentity : Identity.ofImportKey key = .ok identity)
      (hfetch : cancellable identity "imported" (m.endpoint.fetch identity) s p =
        (found, events)) : m.ReadSends (Identity.ofImportKey key) (requestsIn events) := by
    rcases (fetch_follows identity "imported" hfetch).requestsIn_cases with
      hsent | ⟨url, hurl, hsent⟩
    · rw [hsent]
      exact .nothing
    · rw [hsent]
      exact .read hidentity hurl
  cases importKey_run h with
  | malformed => exact .nothing
  | stopped hidentity hfetch => exact hfetched hidentity hfetch
  | @imported _ _ _ line events hidentity hfetch =>
    have hsent : requestsIn (events ++ [.logged line]) = requestsIn events := by
      simp [Event.request?]
    rw [hsent]
    exact hfetched hidentity hfetch

theorem ReadSends.length_le {identity? : Except Error Identity} {requests : List Request}
    (h : m.ReadSends identity? requests) : requests.length ≤ 1 := by
  cases h with
  | nothing => exact Nat.zero_le 1
  | read => exact Nat.le_refl 1

/-- Every call keeps to the protocol, whatever the service answers, however long it takes and
whenever the operation is called off: it sends what it may, a request is followed by another only
where it is answered by a document, and a change sends nothing. -/
theorem requests_follow_protocol (m : Manager) (s : Surroundings) (p : Progress) :
    (∀ call, m.MaySend s p call (requestsIn (m.perform call s p).2) ∧
      GrantedInTurn s p.requests (requestsIn (m.perform call s p).2)) ∧
    ∀ prior planned, requestsIn (m.update prior planned s p).2 = [] := by
  refine ⟨fun call ↦ ?_, fun prior planned ↦ rfl⟩
  cases call with
  | create config => exact create_sends rfl
  | delete state => exact delete_sends rfl
  | read state =>
    have hsends : m.ReadSends (identityOf state) (requestsIn (m.read state s p).2) :=
      read_sends rfl
    exact ⟨hsends, grantedInTurn_of_length_le hsends.length_le⟩
  | importKey key =>
    have hsends : m.ReadSends (Identity.ofImportKey key)
        (requestsIn (m.importKey key s p).2) := importKey_sends rfl
    exact ⟨hsends, grantedInTurn_of_length_le hsends.length_le⟩

end Manager

end NamespaceLifecycle
