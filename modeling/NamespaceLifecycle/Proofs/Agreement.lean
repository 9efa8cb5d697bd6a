import NamespaceLifecycle.Proofs.Request
import NamespaceLifecycle.Proofs.Settlement

/-!
# Reading and importing agree

Reading a namespace starts from the text of its identity, in whatever spelling, and importing it
from a key. When the request that both send is answered alike, both fail or both yield the same
view, but for the beginning of the name, which an import takes from the object and a reading keeps
when the object tells none. So a view that was read is read again: its identity is written in the
one plain way, which denotes the same namespace, and the beginning of the name is known by then.
-/

namespace NamespaceLifecycle

namespace Endpoint

open Run

variable {α : Type} {e : Endpoint} {identity : Identity} {s : Surroundings} {p : Progress}
  {answer : Answer}

/-- The request that reads a namespace, where it has an address. -/
def lookRequests (e : Endpoint) (identity : Identity) : List Request :=
  match e.url identity.project (some identity.name) with
  | .ok url => [⟨.get, url, none⟩]
  | .error _ => []

/-- What an answer to this request tells: the object, or why there is none. -/
def looked (e : Endpoint) (identity : Identity) (answer : Answer) : Except Error RemoteObject :=
  (e.url identity.project (some identity.name)).bind fun _ ↦ found identity answer

/-- Nothing has called the operation off yet, and the request that reads a namespace will be
answered so, where it has an address. -/
structure IsAnswered (e : Endpoint) (identity : Identity) (s : Surroundings) (p : Progress)
    (answer : Answer) : Prop where
  uncalled : p.isCalledOff = false
  answers : ∀ url, e.url identity.project (some identity.name) = .ok url →
    s.Answers p ⟨.get, url, none⟩ answer

/-- Whatever reads a namespace sends the one request and makes of its answer what it should. -/
theorem IsAnswered.run (h : e.IsAnswered identity s p answer) {target : String}
    {judge : Except Error RemoteObject → Except Error α} {x : Run α}
    (hplan : CarriesOut x (e.readPlan identity target judge)) :
    ∃ events, Manager.cancellable identity target x s p =
        ((judge (e.looked identity answer)).mapError .failed, events) ∧
      requestsIn events = e.lookRequests identity := by
  cases hurl : e.url identity.project (some identity.name) with
  | error error =>
    have hx : x s p = ((judge (.error error)).mapError .failed, []) :=
      hplan.unaddressed error hurl s p
    have hresult : (x s p).1 ≠ .error .abandoned := by
      rw [hx]
      cases judge (.error error) <;> simp
    refine ⟨[], ?_, ?_⟩
    · rw [Manager.cancellable, unlessCalledOff_of_ne h.uncalled _ hresult, hx, looked, hurl]
      rfl
    · rw [lookRequests, hurl]
      rfl
  | ok url =>
    obtain ⟨events, hrun, hsent⟩ := (hplan.exchange url hurl).unlessCalledOff_of_answers h.uncalled
      (h.answers url hurl) (.cancelled identity.project identity.name target)
    refine ⟨events, ?_, ?_⟩
    · rw [looked, hurl]
      exact hrun
    · rw [lookRequests, hurl]
      exact hsent

end Endpoint

namespace Manager

open Run

variable {m : Manager} {state : State} {identity : Identity} {id key : String} {s : Surroundings}
  {p : Progress} {answer : Answer}

/-- How a reading and an import end that have the same answer: both fail, or both yield a view, and
these are the same but for the beginning of the name. -/
inductive EndAlike (state : State) (identity : Identity) (answer : Answer) :
    Except Stop State → Except Stop State → Prop
  | failed (error : Error) :
      EndAlike state identity answer (.error (.failed error)) (.error (.failed (importError error)))
  | shown {object : RemoteObject} {id : String} {view : State} (hanswer : answer.Shows object)
      (hid : identity.encode = .ok id) (hview : view = .ofObject id identity object)
      (hbeginning : view.namePrefix = object.metadata.generateName) :
      EndAlike state identity answer
        (.ok { view with
          namePrefix := if object.metadata.generateName = "" then state.namePrefix
            else object.metadata.generateName })
        (.ok view)

/-- What a reading has in common with an import, with a reading of another state, and with a reading
of what it yields, as long as the answer is the same. -/
structure ReadsAlike (m : Manager) (state : State) (identity : Identity) (s : Surroundings)
    (p : Progress) (answer : Answer) : Prop where
  /-- An import of the namespace by its key sends the same requests and ends alike. -/
  agrees : '.' ∉ identity.project.toList → '.' ∉ identity.name.toList →
    ∀ s' p', m.endpoint.IsAnswered identity s' p' answer →
      requestsIn (m.importKey (identity.project ++ "." ++ identity.name) s' p').2 =
        requestsIn (m.read state s p).2 ∧
      EndAlike state identity answer (m.read state s p).1
        (m.importKey (identity.project ++ "." ++ identity.name) s' p').1
  /-- Of the state only the namespace that it is of and the beginning of its name matter. -/
  depends : ∀ other otherId, other.id = some otherId → Identity.decode otherId = .ok identity →
    other.namePrefix = state.namePrefix → m.read other s p = m.read state s p
  /-- A view that is read is read again, with the same request. -/
  stable : ∀ view, (m.read state s p).1 = .ok view →
    ∃ url, m.endpoint.url identity.project (some identity.name) = .ok url ∧
      requestsIn (m.read state s p).2 = [⟨.get, url, none⟩] ∧
      ∀ s' p', m.endpoint.IsAnswered identity s' p' answer →
        (m.read view s' p').1 = .ok view ∧ requestsIn (m.read view s' p').2 = [⟨.get, url, none⟩]

/-- What a reading makes of an answer. -/
theorem read_of_isAnswered (hknown : identityOf state = .ok identity)
    (hid : identity.encode = .ok id) (h : m.endpoint.IsAnswered identity s p answer) :
    (m.read state s p).1 = ((m.endpoint.looked identity answer).map fun object ↦
        keepPrefix state (.ofObject id identity object)).mapError .failed ∧
      requestsIn (m.read state s p).2 = m.endpoint.lookRequests identity := by
  obtain ⟨events, hlook, hsent⟩ := h.run (refresh_carriesOut identity "read")
  rcases hrun : m.read state s p with ⟨result, events'⟩
  cases read_run hrun with
  | unidentified hnone => cases hknown.symm.trans hnone
  | asked hidentity hread =>
    cases hknown.symm.trans hidentity
    cases hlook.symm.trans hread
    refine ⟨?_, hsent⟩
    cases m.endpoint.looked identity answer with
    | error error => rfl
    | ok object =>
      change ((identity.view object).mapError Stop.failed).map (keepPrefix state) = _
      rw [Identity.view_of_encode hid]
      rfl

/-- What an import makes of an answer. -/
theorem importKey_of_isAnswered (hkey : Identity.ofImportKey key = .ok identity)
    (hid : identity.encode = .ok id) (h : m.endpoint.IsAnswered identity s p answer) :
    (m.importKey key s p).1 = (((m.endpoint.looked identity answer).mapError importError).map
        (.ofObject id identity)).mapError .failed ∧
      requestsIn (m.importKey key s p).2 = m.endpoint.lookRequests identity := by
  obtain ⟨events, hlook, hsent⟩ := h.run (fetch_carriesOut identity "imported")
  rcases hrun : m.importKey key s p with ⟨result, events'⟩
  cases importKey_run hrun with
  | malformed hnone => cases hkey.symm.trans hnone
  | stopped hidentity hfetch =>
    cases hkey.symm.trans hidentity
    obtain ⟨hstop, rfl⟩ := Prod.mk.inj (hlook.symm.trans hfetch)
    refine ⟨?_, hsent⟩
    cases hlooked : m.endpoint.looked identity answer with
    | error error =>
      rw [hlooked] at hstop
      cases hstop
      rfl
    | ok object =>
      rw [hlooked] at hstop
      cases hstop
  | imported hidentity hfetch hid' =>
    cases hkey.symm.trans hidentity
    cases hid.symm.trans hid'
    obtain ⟨hobject, rfl⟩ := Prod.mk.inj (hlook.symm.trans hfetch)
    refine ⟨?_, by simpa [Event.request?] using hsent⟩
    cases hlooked : m.endpoint.looked identity answer with
    | error error =>
      rw [hlooked] at hobject
      cases hobject
    | ok object =>
      rw [hlooked] at hobject
      cases hobject
      rfl

/-- A view keeps the beginning of its name when it is read again. -/
theorem keepPrefix_keepPrefix (state refreshed : State) :
    keepPrefix (keepPrefix state refreshed) refreshed = keepPrefix state refreshed := by
  by_cases hnone : refreshed.namePrefix = ""
  · simp only [keepPrefix, if_pos hnone]
  · simp only [keepPrefix, if_neg hnone]

/-- A reading yields the view of an object, and the beginning of the name by its rule. -/
theorem keepPrefix_ofObject (state : State) (id : String) (identity : Identity)
    (object : RemoteObject) :
    keepPrefix state (.ofObject id identity object) =
      { State.ofObject id identity object with
        namePrefix := if object.metadata.generateName = "" then state.namePrefix
          else object.metadata.generateName } := by
  have htold : (State.ofObject id identity object).namePrefix = object.metadata.generateName := rfl
  unfold keepPrefix
  rw [htold]
  split <;> rfl

/-- A reading and an import of the same namespace, answered alike, end alike. -/
theorem endAlike_of_isAnswered (hknown : identityOf state = .ok identity)
    (hkey : Identity.ofImportKey key = .ok identity)
    (h : m.endpoint.IsAnswered identity s p answer) {s' : Surroundings} {p' : Progress}
    (h' : m.endpoint.IsAnswered identity s' p' answer) :
    requestsIn (m.importKey key s' p').2 = requestsIn (m.read state s p).2 ∧
      EndAlike state identity answer (m.read state s p).1 (m.importKey key s' p').1 := by
  obtain ⟨id, hid⟩ := Identity.exists_encode (Identity.ne_of_ofImportKey hkey)
  obtain ⟨hread, hsent⟩ := read_of_isAnswered hknown hid h
  obtain ⟨himport, hsent'⟩ := importKey_of_isAnswered hkey hid h'
  refine ⟨hsent'.trans hsent.symm, ?_⟩
  rw [hread, himport]
  cases hlooked : m.endpoint.looked identity answer with
  | error error => exact .failed error
  | ok object =>
    obtain ⟨url, -, hfound⟩ := exists_of_bind_eq_ok hlooked
    change EndAlike state identity answer (.ok (keepPrefix state (.ofObject id identity object)))
      (.ok (.ofObject id identity object))
    rw [keepPrefix_ofObject]
    exact .shown (Endpoint.found_eq_ok_iff.1 hfound) hid rfl rfl

/-- A reading agrees with an import that is answered alike, depends only on the namespace and the
beginning of its name, and yields a view that is read again. -/
theorem read_readsAlike (hstate : state.id = some id) (hdecode : Identity.decode id = .ok identity)
    (h : m.endpoint.IsAnswered identity s p answer) : m.ReadsAlike state identity s p answer := by
  have hknown : identityOf state = .ok identity := identityOf_eq_ok_iff.2 ⟨id, hstate, hdecode⟩
  constructor
  · intro hproject hname s' p' h'
    have hkey := Identity.ofImportKey_of_not_mem hproject hname (Identity.ne_of_decode hdecode)
    exact endAlike_of_isAnswered hknown hkey h h'
  · intro other otherId hother hotherDecode hbeginning
    have hotherKnown := identityOf_eq_ok_iff.2 ⟨otherId, hother, hotherDecode⟩
    rw [read, read, hotherKnown, hknown, hbeginning]
  · intro view hview
    obtain ⟨plain, hplain⟩ := Identity.exists_encode (Identity.ne_of_decode hdecode)
    obtain ⟨hread, hsent⟩ := read_of_isAnswered hknown hplain h
    rw [hread, mapError_eq_ok] at hview
    obtain ⟨object, hlooked, rfl⟩ := exists_of_map_eq_ok hview
    obtain ⟨url, hurl, -⟩ := exists_of_bind_eq_ok hlooked
    have hrequests : m.endpoint.lookRequests identity = [⟨.get, url, none⟩] := by
      rw [Endpoint.lookRequests, hurl]
    refine ⟨url, hurl, hsent.trans hrequests, fun s' p' h' ↦ ?_⟩
    have hid : (keepPrefix state (.ofObject plain identity object)).id = some plain := by
      rw [keepPrefix_ofObject]
      rfl
    have hagain := identityOf_eq_ok_iff.2 ⟨plain, hid, Identity.decode_of_encode hplain⟩
    obtain ⟨hreread, hresent⟩ := read_of_isAnswered hagain hplain h'
    refine ⟨?_, hresent.trans hrequests⟩
    rw [hreread, hlooked]
    exact congrArg Except.ok (keepPrefix_keepPrefix state _)

/-- An identity in another spelling than its plain one. -/
theorem read_readsAlike_of_escapes :
    let m : Manager := ⟨⟨"https://vcfa.example.com", .ascii⟩, .usual, .usual⟩
    let state : State := { State.empty with id := some "%73hop:dev%2d1", namePrefix := "dev" }
    let answer : Answer := .ok (.object [("status", .object [("phase", .text "CREATED")])])
    Identity.decode "%73hop:dev%2d1" = .ok ⟨"shop", "dev-1"⟩ ∧
      m.endpoint.IsAnswered ⟨"shop", "dev-1"⟩ (.always answer) .start answer ∧
      m.ReadsAlike state ⟨"shop", "dev-1"⟩ (.always answer) .start answer := by
  intro m state answer
  have hdecode : Identity.decode "%73hop:dev%2d1" = .ok ⟨"shop", "dev-1"⟩ := rfl
  have hanswered : m.endpoint.IsAnswered ⟨"shop", "dev-1"⟩ (.always answer) .start answer := by
    refine ⟨rfl, fun url _ ↦ ⟨rfl, ?_⟩⟩
    rw [Progress.elapsed_replied]
    change Progress.start.elapsed.plus .zero < Clock.countLimit
    decide +kernel
  exact ⟨hdecode, hanswered, read_readsAlike rfl hdecode hanswered⟩

end Manager

end NamespaceLifecycle
