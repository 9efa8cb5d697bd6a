import NamespaceLifecycle.Http.Exchange

/-!
# What responses stand for

The status of a response says whether the object is there and whether the request is granted, and
the body is of interest when it is granted. But a response is judged once its whole body is there.
One that refuses the request and is cut short is therefore not judged at all: it ends like a request
without a response, and an object that is gone does not count as gone.
-/

namespace NamespaceLifecycle.Http

/-- What a delivery stands for when the status comes first: only a status that grants the request
leads on to the body. -/
inductive Delivery.StandsFor (request : Request) : Delivery → Answer → Prop where
  | missing {r : Response} (hstatus : r.status = .notFound) :
    StandsFor request (.response r) (.error (.notFound request.method request.url.text))
  | refused {r : Response} (hother : r.status ≠ .notFound) (hstatus : r.status.isSuccess = false) :
    StandsFor request (.response r) (.error (.status request.method request.url.text r.status))
  | blank {r : Response} (hstatus : r.status.isSuccess = true) (hwhole : r.isWhole = true)
    (hbody : Text.isBlankText (Text.Utf8.lenient r.body) = true) :
    StandsFor request (.response r) (.ok .null)
  | document {r : Response} (hstatus : r.status.isSuccess = true) (hwhole : r.isWhole = true)
    (hbody : Text.isBlankText (Text.Utf8.lenient r.body) = false) {value : Json}
    (hvalue : Json.ofText (Text.Utf8.lenient r.body) = .ok value) :
    StandsFor request (.response r) (.ok value)
  | undecodable {r : Response} (hstatus : r.status.isSuccess = true) (hwhole : r.isWhole = true)
    (hbody : Text.isBlankText (Text.Utf8.lenient r.body) = false) {fault : Json.Fault}
    (hfault : Json.ofText (Text.Utf8.lenient r.body) = .error fault) :
    StandsFor request (.response r) (.error (.decode (.fault fault)))
  | cutShort {r : Response} (hstatus : r.status.isSuccess = true) (hwhole : r.isWhole = false) :
    StandsFor request (.response r) (.error (.request request.method request.url .cutShort))
  | lost (causes : List String) :
    StandsFor request (.lost causes)
      (.error (.request request.method request.url (.noResponse causes)))

/-- Whether a response is there with all of its body. -/
def Delivery.IsWhole : Delivery → Prop
  | response r => r.isWhole = true
  | lost _ => False

/-- Whether a response refuses the request and is cut short. -/
def Delivery.HidesStatus : Delivery → Prop
  | response r => r.status.isSuccess = false ∧ r.isWhole = false
  | lost _ => False

theorem isSuccess_notFound : StatusCode.notFound.isSuccess = false := rfl

namespace Delivery

variable {request : Request}

/-- A delivery stands for one answer only. -/
theorem StandsFor.unique {delivery : Delivery} {first second : Answer}
    (hfirst : delivery.StandsFor request first) (hsecond : delivery.StandsFor request second) :
    first = second := by
  cases hfirst <;> cases hsecond <;> simp_all [isSuccess_notFound]

/-- The document of a granted request is what its whole body stands for. -/
theorem standsFor_document {r : Response} (hstatus : r.status.isSuccess = true)
    (hwhole : r.isWhole = true) :
    (response r).StandsFor request (document (Text.Utf8.lenient r.body)) := by
  unfold document
  split
  · case isTrue hblank => exact .blank hstatus hwhole hblank
  · case isFalse hblank =>
    have hbody := Bool.eq_false_iff.2 hblank
    split
    · case h_1 value hvalue => exact .document hstatus hwhole hbody hvalue
    · case h_2 fault hfault => exact .undecodable hstatus hwhole hbody hfault

/-- A response that is there with all of its body is judged by what it stands for. -/
theorem standsFor_judge {r : Response} (hwhole : r.isWhole = true) :
    (response r).StandsFor request (judge request r.status (Text.Utf8.lenient r.body)).1 := by
  unfold judge
  split
  · case isTrue hmissing => exact .missing hmissing
  · case isFalse hother =>
    split
    · case isTrue hgranted => exact standsFor_document hgranted hwhole
    · case isFalse hrefused => exact .refused hother (Bool.eq_false_iff.2 hrefused)

theorem answer_of_whole {r : Response} (hwhole : r.isWhole = true) :
    (response r).answer request = judge request r.status (Text.Utf8.lenient r.body) := by
  rw [answer, if_pos hwhole]

theorem answer_of_cutShort {r : Response} (hwhole : r.isWhole = false) :
    (response r).answer request =
      (.error (.request request.method request.url .cutShort), []) := by
  rw [answer, hwhole]
  rfl

/-- A hidden status stands for an error of its own, which is not the one that is reported. -/
theorem HidesStatus.not_standsFor {delivery : Delivery} (h : delivery.HidesStatus) :
    ¬delivery.StandsFor request (.error (.request request.method request.url .cutShort)) := by
  intro hstands
  cases hstands with
  | cutShort hstatus _ =>
    rw [h.1] at hstatus
    cases hstatus

/-- Every delivery stands for an answer. -/
theorem exists_standsFor (delivery : Delivery) (request : Request) :
    ∃ answer, delivery.StandsFor request answer := by
  cases delivery with
  | lost causes => exact ⟨_, .lost causes⟩
  | response r =>
    by_cases hmissing : r.status = .notFound
    · exact ⟨_, .missing hmissing⟩
    · cases hstatus : r.status.isSuccess with
      | false => exact ⟨_, .refused hmissing hstatus⟩
      | true =>
        cases hwhole : r.isWhole with
        | true => exact ⟨_, standsFor_document hstatus hwhole⟩
        | false => exact ⟨_, .cutShort hstatus hwhole⟩

/-- A delivery is answered by what it stands for, but for a hidden status. -/
theorem standsFor_answer_iff (delivery : Delivery) :
    delivery.StandsFor request (delivery.answer request).1 ↔ ¬delivery.HidesStatus := by
  cases delivery with
  | lost causes => exact iff_of_true (.lost causes) id
  | response r =>
    cases hwhole : r.isWhole with
    | true =>
      rw [answer_of_whole hwhole]
      refine iff_of_true (standsFor_judge hwhole) fun hhidden ↦ ?_
      rw [hhidden.2] at hwhole
      cases hwhole
    | false =>
      rw [answer_of_cutShort hwhole]
      constructor
      · exact fun hstands hhidden ↦ hhidden.not_standsFor hstands
      · intro hseen
        cases hstatus : r.status.isSuccess with
        | true => exact .cutShort hstatus hwhole
        | false => exact absurd ⟨hstatus, hwhole⟩ hseen

theorem HidesStatus.answer_eq {delivery : Delivery} (h : delivery.HidesStatus) :
    (delivery.answer request).1 = .error (.request request.method request.url .cutShort) := by
  cases delivery with
  | lost causes => exact h.elim
  | response r => rw [answer_of_cutShort h.2]

end Delivery

/-- Whether an answer says that a request has no response that could be judged. -/
def isUnjudged : Answer → Bool
  | .error (.request _ _ _) => true
  | _ => false

theorem isUnjudged_document (body : String) : isUnjudged (document body) = false := by
  unfold document
  split
  · rfl
  · split <;> rfl

theorem isUnjudged_judge (request : Request) (status : StatusCode) (body : String) :
    isUnjudged (judge request status body).1 = false := by
  unfold judge
  split
  · rfl
  · split
    · exact isUnjudged_document body
    · rfl

/-- A request is not judged exactly when no whole response is there. -/
theorem Delivery.isUnjudged_answer_iff (request : Request) (delivery : Delivery) :
    isUnjudged (delivery.answer request).1 = true ↔ ¬delivery.IsWhole := by
  cases delivery with
  | lost causes => exact iff_of_true rfl id
  | response r =>
    cases hwhole : r.isWhole with
    | true =>
      rw [answer_of_whole hwhole, isUnjudged_judge]
      exact iff_of_false Bool.false_ne_true fun h ↦ h hwhole
    | false =>
      rw [answer_of_cutShort hwhole]
      exact iff_of_true rfl fun h ↦ Bool.false_ne_true (hwhole.symm.trans h)

theorem areSendable_headers {token : Option String}
    (htoken : ∀ secret ∈ token, ∀ c ∈ secret.toList, isHeaderChar c = true) (request : Request) :
    areSendable (headers token request) = true := by
  unfold areSendable
  rw [List.all_eq_true]
  intro header hheader
  unfold headers at hheader
  rw [List.mem_append, List.mem_append] at hheader
  rcases hheader with (hfixed | hauthorization) | htype
  · simp only [List.mem_cons, List.not_mem_nil, or_false] at hfixed
    rcases hfixed with rfl | rfl <;> decide
  · cases token with
    | none => cases hauthorization
    | some secret =>
      obtain rfl := List.mem_singleton.1 hauthorization
      have hbearer : "Bearer ".toList.all isHeaderChar = true := by decide
      rw [String.toList_append, List.all_append, hbearer, Bool.true_and, List.all_eq_true]
      exact htoken secret rfl
  · split at htype
    · obtain rfl := List.mem_singleton.1 htype
      decide
    · cases htype

/-- What can be sent is answered by what becomes of it. -/
theorem exchange_answer {network : Network} {token : Option String} {index : Nat}
    {request : Request} (hheaders : areSendable (headers token request) = true)
    (hscheme : isSchemeSupported request.url.scheme = true) :
    (exchange network token index request).1 = ((network index request).answer request).1 := by
  unfold exchange
  rw [hheaders, hscheme]
  rfl

/-- How a request with a token is answered, by what the network makes of it. -/
structure Classifies (network : Network) (token : Option String) (index : Nat)
    (request : Request) : Prop where
  /-- What becomes of the request stands for one answer. -/
  standsFor : ∃ answer, (network index request).StandsFor request answer ∧
    ∀ other, (network index request).StandsFor request other → other = answer
  /-- That is the answer, unless the status is hidden. -/
  standsFor_iff : (network index request).StandsFor request
    (exchange network token index request).1 ↔ ¬(network index request).HidesStatus
  /-- Of a hidden status nothing is said but that the body is cut short. -/
  hidden : (network index request).HidesStatus →
    (exchange network token index request).1 =
      .error (.request request.method request.url .cutShort)
  /-- The request is not judged exactly when no whole response is there. -/
  isUnjudged_iff : isUnjudged (exchange network token index request).1 = true ↔
    ¬(network index request).IsWhole

/-- A request that can be sent is answered by the status of its response first, whatever the body
holds, except when the status refuses the request and the body is cut short. -/
theorem exchange_classifies {network : Network} {token : Option String} {index : Nat}
    {request : Request} (htoken : ∀ secret ∈ token, ∀ c ∈ secret.toList, isHeaderChar c = true)
    (hscheme : isSchemeSupported request.url.scheme = true) :
    Classifies network token index request := by
  have hanswer : (exchange network token index request).1 =
      ((network index request).answer request).1 :=
    exchange_answer (areSendable_headers htoken request) hscheme
  constructor
  case standsFor =>
    obtain ⟨answer, hstands⟩ := (network index request).exists_standsFor request
    exact ⟨answer, hstands, fun other hother ↦ hother.unique hstands⟩
  case standsFor_iff =>
    rw [hanswer]
    exact (network index request).standsFor_answer_iff
  case hidden =>
    intro hhidden
    rw [hanswer]
    exact hhidden.answer_eq
  case isUnjudged_iff =>
    rw [hanswer]
    exact (network index request).isUnjudged_answer_iff request

/-- An object that is gone is not reported as gone when the response is cut short. -/
theorem exchange_classifies_notFound_cutShort :
    let request : Request :=
      ⟨.get, ⟨"http", some ⟨"", none, some (.name "localhost"), none⟩, .rooted ["x"], none, none⟩,
        none⟩
    let network : Network := fun _ _ ↦ .response ⟨.notFound, [0x67, 0x6f, 0x6e, 0x65], false⟩
    (network 0 request).StandsFor request (.error (.notFound .get "http://localhost/x")) ∧
      (exchange network (some "secret") 0 request).1 =
        .error (.request .get request.url .cutShort) ∧
      Classifies network (some "secret") 0 request := by
  intro request network
  have hsecret : "secret".toList.all isHeaderChar = true := by decide
  have hclassifies : Classifies network (some "secret") 0 request := by
    refine exchange_classifies ?_ rfl
    rintro secret ⟨⟩
    exact List.all_eq_true.1 hsecret
  exact ⟨.missing rfl, hclassifies.hidden ⟨rfl, rfl⟩, hclassifies⟩

end NamespaceLifecycle.Http
