import NamespaceLifecycle.Proofs.Creation
import NamespaceLifecycle.Proofs.Settlement

/-!
# When a namespace counts as made

A making yields a state in one way only: the declared inputs pass the checks, the wait is accepted
before the submission and after it, the submission is answered by an object with a name, a look that
starts in time and before the call to stop is the first to find something else than an object on its
way, namely one that is made, and one more look is answered by an object. The state shows the object
of this last look. Its phase is not checked again, so it need not be made any more.
-/

namespace NamespaceLifecycle

namespace Answer

theorem ShowsUnmade.not_showsMade {answer : Answer} (h : answer.ShowsUnmade)
    (object : RemoteObject) : ¬answer.ShowsMade object := by
  rintro ⟨hshows, hphase⟩
  obtain ⟨other, hother, hpending⟩ := h
  cases Endpoint.eq_of_shows hshows hother
  rw [Phase.classify, Endpoint.normalize_created, hphase] at hpending
  cases hpending

end Answer

/-- The course that the making of a namespace takes, as the service and the clock determine it. -/
structure Course where
  /-- The address of the collection. -/
  collection : Url
  /-- The name that the service gives. -/
  name : String
  /-- The address of the namespace. -/
  url : Url
  /-- The end of the time for the wait. -/
  deadline : Duration
  /-- The number of the look that ends the wait. -/
  settled : Nat
  /-- The object that this look finds. -/
  made : RemoteObject
  /-- The object that the last look finds. -/
  shown : RemoteObject

namespace Manager

open Run

variable {m : Manager} {config state : State} {s : Surroundings} {p : Progress} {c : Course}

def submissionTo (config : State) (collection : Url) : Request :=
  ⟨.post, collection, some config.toObject.toJson⟩

/-- The wait of a course. It starts with the reply to the submission. -/
def waitOf (m : Manager) (config : State) (s : Surroundings) (p : Progress) (c : Course) : Wait :=
  ⟨m.createPolicy, ⟨⟨config.projectName, c.name⟩, "created"⟩, c.deadline, ⟨.get, c.url, none⟩, s,
    p.replied s (submissionTo config c.collection)⟩

/-- Where a course stands when the look that ends its wait has its reply. -/
def settledOf (m : Manager) (config : State) (s : Surroundings) (p : Progress) (c : Course) :
    Progress :=
  ((m.waitOf config s p c).standing c.settled).replied s ⟨.get, c.url, none⟩

/-- The declared inputs become a namespace in this course. -/
structure MakesBy (m : Manager) (config : State) (s : Surroundings) (p : Progress) (c : Course) :
    Prop where
  /-- The inputs pass the checks. -/
  valid : config.validate = .ok ()
  /-- A wait could start before the submission. -/
  accepted : ∃ moment, m.createPolicy.deadline p.elapsed = .ok moment
  /-- The collection has an address. -/
  collected : m.endpoint.url config.projectName none = .ok c.collection
  /-- The submission is answered by an object under the name. -/
  submitted : ∃ answer object, s.Answers p (submissionTo config c.collection) answer ∧
    answer.Shows object ∧ object.name = c.name
  /-- There is a name. -/
  named : c.name ≠ ""
  /-- The namespace has an address. -/
  addressed : m.endpoint.url config.projectName (some c.name) = .ok c.url
  /-- The wait starts with the reply, and is over at the deadline. -/
  started : m.createPolicy.deadline (p.replied s (submissionTo config c.collection)).elapsed =
    .ok c.deadline
  /-- A look in time and before the call to stop is the first that does not find an object on its
  way, and finds one that is made. -/
  settled : (m.waitOf config s p c).SettledAt Answer.ShowsUnmade (Answer.ShowsMade c.made) c.settled
  /-- The last look starts before the call to stop. -/
  uncalled : (m.settledOf config s p c).isCalledOff = false
  /-- The last look is answered by an object. -/
  reread : ∃ answer, s.Answers (m.settledOf config s p c) ⟨.get, c.url, none⟩ answer ∧
    answer.Shows c.shown

/-- What the making of a namespace yields. -/
structure MakesExactly (m : Manager) (config : State) (s : Surroundings) (p : Progress)
    (result : Except Stop State) : Prop where
  /-- It yields a state exactly when the inputs become a namespace, and then the view of what the
  last look finds, under the declared beginning of the name. -/
  yields : ∀ state, result = .ok state ↔ ∃ c id, m.MakesBy config s p c ∧
    Identity.encode ⟨config.projectName, c.name⟩ = .ok id ∧
    state = createdState config id c.name c.shown
  /-- The phase that it shows is that of the last look. So it is that of an object that is made
  exactly when the object has not moved on since a look found it made. -/
  phase : ∀ state c, result = .ok state → m.MakesBy config s p c →
    Phase.normalize c.made.phase = Phase.created ∧ state.phase = c.shown.phase ∧
      (Phase.normalize state.phase = Phase.created ↔
        Phase.normalize c.shown.phase = Phase.normalize c.made.phase)

theorem awaitCreated_eq_ok_iff {e : Endpoint} {policy : WaitPolicy} {identity : Identity}
    {url : Url} {object : RemoteObject}
    (hurl : e.url identity.project (some identity.name) = .ok url) :
    (e.awaitCreated policy identity s p).1 = .ok object ↔
      ∃ deadline k, policy.deadline p.elapsed = .ok deadline ∧
        (Wait.mk policy ⟨identity, "created"⟩ deadline ⟨.get, url, none⟩ s p).SettledAt
          Answer.ShowsUnmade (Answer.ShowsMade object) k := by
  unfold Endpoint.awaitCreated
  rw [waitUntil_eq_ok_iff (Endpoint.pollCreated_isExchange hurl)]
  simp only [Endpoint.createdOutcome_eq_pending_iff, Endpoint.createdOutcome_eq_done_iff]

/-- A wait that finds a namespace made ends with the reply to the look that finds it. -/
theorem settledAt_of_awaitCreated {e : Endpoint} {policy : WaitPolicy} {identity : Identity}
    {url : Url} {object : RemoteObject} {events : List Event}
    (hurl : e.url identity.project (some identity.name) = .ok url)
    (hwait : e.awaitCreated policy identity s p = (.ok object, events)) :
    ∃ deadline k, policy.deadline p.elapsed = .ok deadline ∧
      (Wait.mk policy ⟨identity, "created"⟩ deadline ⟨.get, url, none⟩ s p).SettledAt
        Answer.ShowsUnmade (Answer.ShowsMade object) k ∧
      p.afterAll events = ((Wait.mk policy ⟨identity, "created"⟩ deadline ⟨.get, url, none⟩ s
        p).standing k).replied s ⟨.get, url, none⟩ := by
  obtain ⟨deadline, k, hdeadline, hsettled, hended⟩ :=
    settledAt_of_waitUntil (Endpoint.pollCreated_isExchange hurl) hwait
  simp only [Endpoint.createdOutcome_eq_pending_iff, Endpoint.createdOutcome_eq_done_iff]
    at hsettled
  exact ⟨deadline, k, hdeadline, hsettled, hended⟩

/-- A view that is read comes from the object in the answer to its request. -/
theorem refresh_eq_ok_iff {identity : Identity} {id target : String}
    (hid : identity.encode = .ok id) {url : Url}
    (hurl : m.endpoint.url identity.project (some identity.name) = .ok url)
    {refreshed : State} :
    (cancellable identity target (m.refresh identity) s p).1 = .ok refreshed ↔
      p.isCalledOff = false ∧ ∃ answer object, s.Answers p ⟨.get, url, none⟩ answer ∧
        answer.Shows object ∧ refreshed = .ofObject id identity object := by
  constructor
  · intro hok
    obtain ⟨hopen, ⟨answer, hanswer, hjudge⟩, -⟩ :=
      (refresh_isExchange hurl).answers_of_unlessCalledOff (Prod.ext hok rfl)
    obtain ⟨object, hfound, hview⟩ := exists_of_bind_eq_ok hjudge
    rw [Identity.view_of_encode hid, Except.ok.injEq] at hview
    exact ⟨hopen, answer, object, hanswer, Endpoint.found_eq_ok_iff.1 hfound, hview.symm⟩
  · rintro ⟨hopen, answer, object, hanswer, hshows, rfl⟩
    obtain ⟨events, hread, -⟩ := (refresh_isExchange hurl).unlessCalledOff_of_answers hopen hanswer
      (.cancelled identity.project identity.name target)
    have hview : (Endpoint.found identity answer >>= identity.view) =
        .ok (.ofObject id identity object) := by
      rw [Endpoint.found_eq_ok_iff.2 hshows]
      exact Identity.view_of_encode hid object
    rw [hview] at hread
    exact congrArg Prod.fst hread

/-- Reading back yields a state exactly when the view is read. -/
theorem readBack_eq_ok_iff {identity : Identity} {created : State} :
    (m.readBack config identity created s p).1 = .ok state ↔
      ∃ refreshed, (cancellable identity "read" (m.refresh identity) s p).1 = .ok refreshed ∧
        state = { refreshed with namePrefix := config.namePrefix } := by
  rcases hrun : m.readBack config identity created s p with ⟨result, events⟩
  cases readBack_run hrun with
  | read hread => simp [hread, eq_comm]
  | unread hread => simp [hread]
  | stopped _ hread => simp [hread]

/-- A making that yields a state has taken a course in which the inputs become a namespace. -/
theorem exists_makesBy_of_create {events : List Event}
    (h : m.create config s p = (.ok state, events)) :
    ∃ c id, m.MakesBy config s p c ∧ Identity.encode ⟨config.projectName, c.name⟩ = .ok id ∧
      state = createdState config id c.name c.shown := by
  cases create_run h with
  | @made _ submitted made id _ _ _ first waiting last hvalid haccepted hsubmit hwait hid hlast =>
    obtain ⟨collection, -, hcollected, -⟩ := submission_of_ok hsubmit
    obtain ⟨-, ⟨answer, hanswer, hjudge⟩, hprogress⟩ :=
      (Endpoint.submit_isExchange hcollected config.toObject).answers_of_unlessCalledOff hsubmit
    obtain ⟨hshows, hname⟩ := Endpoint.submitted_eq_ok_iff.1 hjudge
    rw [hprogress] at hwait hlast
    obtain ⟨refreshed, hread, rfl⟩ := readBack_eq_ok_iff.1 (congrArg Prod.fst hlast)
    let identity : Identity := ⟨config.projectName, submitted.name⟩
    cases hurl : m.endpoint.url identity.project (some identity.name) with
    | error error =>
      rw [refresh_of_error hurl] at hread
      cases eq_of_unlessCalledOff (Prod.ext hread rfl)
    | ok url =>
      obtain ⟨deadline, k, hstarted, hsettled, hended⟩ := settledAt_of_awaitCreated hurl hwait
      rw [hended] at hread
      obtain ⟨huncalled, other, shown, hother, hshown, rfl⟩ := (refresh_eq_ok_iff hid hurl).1 hread
      exact ⟨⟨collection, submitted.name, url, deadline, k, made, shown⟩, id,
        ⟨hvalid, ⟨_, haccepted⟩, hcollected, ⟨answer, submitted, hanswer, hshows, rfl⟩, hname, hurl,
          hstarted, hsettled, huncalled, other, hother, hshown⟩, hid, rfl⟩

namespace MakesBy

/-- The submission is granted under the name of the course. -/
theorem submission (h : m.MakesBy config s p c) :
    ∃ submitted first, m.submission config s p = (.ok submitted, first) ∧
      submitted.name = c.name ∧
      p.afterAll first = p.replied s (submissionTo config c.collection) := by
  obtain ⟨answer, submitted, hanswer, hshows, hname⟩ := h.submitted
  have hopen : p.isCalledOff = false :=
    Progress.open_of_replied (Wait.open_of_standing h.settled.uncalled).1
  have hexchange := Endpoint.submit_isExchange h.collected config.toObject
  obtain ⟨first, hsubmit, -⟩ := hexchange.unlessCalledOff_of_answers hopen hanswer
    (.cancelled config.projectName config.namePrefix "created")
  rw [Endpoint.submitted_eq_ok_iff.2 ⟨hshows, hname ▸ h.named⟩] at hsubmit
  obtain ⟨-, -, hprogress⟩ := hexchange.answers_of_unlessCalledOff hsubmit
  exact ⟨submitted, first, hsubmit, hname, hprogress⟩

/-- The wait finds the namespace made, by the look of the course. -/
theorem awaited (h : m.MakesBy config s p c) :
    ∃ waiting, m.endpoint.awaitCreated m.createPolicy ⟨config.projectName, c.name⟩ s
        (p.replied s (submissionTo config c.collection)) = (.ok c.made, waiting) ∧
      (p.replied s (submissionTo config c.collection)).afterAll waiting =
        m.settledOf config s p c := by
  let identity : Identity := ⟨config.projectName, c.name⟩
  have hurl : m.endpoint.url identity.project (some identity.name) = .ok c.url := h.addressed
  have hmade := (awaitCreated_eq_ok_iff hurl).2 ⟨c.deadline, c.settled, h.started, h.settled⟩
  rcases hwait : m.endpoint.awaitCreated m.createPolicy identity s
    (p.replied s (submissionTo config c.collection)) with ⟨result, waiting⟩
  rw [hwait] at hmade
  cases hmade
  obtain ⟨deadline, k, hstarted, hsettled, hended⟩ := settledAt_of_awaitCreated hurl hwait
  cases h.started.symm.trans hstarted
  cases h.settled.unique hsettled fun _ hunmade ↦ hunmade.not_showsMade c.made
  exact ⟨waiting, rfl, hended⟩

/-- The namespace is read back as the last look finds it. -/
theorem readBack (h : m.MakesBy config s p c) {id : String}
    (hid : Identity.encode ⟨config.projectName, c.name⟩ = .ok id) (created : State) :
    (m.readBack config ⟨config.projectName, c.name⟩ created s (m.settledOf config s p c)).1 =
      .ok (createdState config id c.name c.shown) := by
  let identity : Identity := ⟨config.projectName, c.name⟩
  have hurl : m.endpoint.url identity.project (some identity.name) = .ok c.url := h.addressed
  obtain ⟨answer, hanswer, hshown⟩ := h.reread
  have hread : (cancellable identity "read" (m.refresh identity) s (m.settledOf config s p c)).1 =
      .ok (.ofObject id identity c.shown) :=
    (refresh_eq_ok_iff hid hurl).2 ⟨h.uncalled, answer, c.shown, hanswer, hshown, rfl⟩
  exact readBack_eq_ok_iff.2 ⟨_, hread, rfl⟩

end MakesBy

/-- Where the inputs become a namespace, their making yields what the last look finds. -/
theorem create_of_makesBy (h : m.MakesBy config s p c) {id : String}
    (hid : Identity.encode ⟨config.projectName, c.name⟩ = .ok id) :
    (m.create config s p).1 = .ok (createdState config id c.name c.shown) := by
  obtain ⟨moment, haccepted⟩ := h.accepted
  obtain ⟨submitted, first, hsubmit, hname, hprogress⟩ := h.submission
  obtain ⟨waiting, hwait, hended⟩ := h.awaited
  rcases hrun : m.create config s p with ⟨result, events⟩
  cases create_run hrun with
  | invalid hinvalid => cases h.valid.symm.trans hinvalid
  | unnamed hmoment => exact absurd (WaitPolicy.lt_of_deadline_eq_ok haccepted).1 hmoment
  | refused hrefused => cases haccepted.symm.trans hrefused
  | unsubmitted _ _ hunsubmitted => cases hsubmit.symm.trans hunsubmitted
  | unfinished _ _ hsubmit' hunfinished =>
    cases hsubmit.symm.trans hsubmit'
    rw [hprogress, hname] at hunfinished
    cases hwait.symm.trans hunfinished
  | made _ _ hsubmit' hwait' hid' hlast =>
    cases hsubmit.symm.trans hsubmit'
    rw [hname] at hid' hwait' hlast
    rw [hprogress] at hwait' hlast
    cases hid.symm.trans hid'
    cases hwait.symm.trans hwait'
    rw [hended] at hlast
    exact (congrArg Prod.fst hlast).symm.trans (h.readBack hid _)

/-- The making of a namespace yields a state exactly when a look finds the namespace made and one
more look is answered; what it yields is what this one finds. -/
theorem create_makesExactly (m : Manager) (config : State) (s : Surroundings) (p : Progress) :
    m.MakesExactly config s p (m.create config s p).1 where
  yields state := by
    constructor
    · intro hok
      exact exists_makesBy_of_create (Prod.ext hok rfl)
    · rintro ⟨c, id, hmakes, hid, rfl⟩
      exact create_of_makesBy hmakes hid
  phase state c hok hmakes := by
    obtain ⟨-, -, -, hmade⟩ := hmakes.settled.settled
    obtain ⟨id, hid⟩ := @Identity.exists_encode ⟨config.projectName, c.name⟩
      ⟨State.projectName_ne_of_validate hmakes.valid, hmakes.named⟩
    cases hok.symm.trans (create_of_makesBy hmakes hid)
    refine ⟨hmade, rfl, ?_⟩
    rw [hmade]
    rfl

/-- An object that a look finds made and that fails right after it is yielded in its last phase. -/
theorem create_yields_failed :
    let config : State :=
      { State.empty with
        namePrefix := "dev", projectName := "shop", className := "small", regionName := "west"
        vpcName := "vpc", storageClassOverrides := [⟨"fast", 1⟩],
        zoneOverrides := [⟨"z", 1, 1, 1, 1⟩] }
    let m : Manager := ⟨⟨"https://vcfa.example.com", .ascii⟩, .usual, .usual⟩
    let object (phase : String) : Json := .object [("metadata", .object [("name", .text "dev-1")]),
      ("status", .object [("phase", .text phase)])]
    let phase (sent : Nat) : String := if sent = 1 then "CREATED" else "ERROR"
    let s : Surroundings :=
      ⟨fun sent _ ↦ .answered .zero false [] (.ok (object (phase sent))), fun _ ↦ false⟩
    ∃ state, (m.create config s .start).1 = .ok state ∧ Phase.normalize state.phase = Phase.error ∧
      Phase.normalize state.phase ≠ Phase.created := by
  intro config m object phase s
  have hphase : (m.create config s .start).1.map (·.phase) = .ok "ERROR" := by decide +kernel
  obtain ⟨state, hstate, hshown⟩ := exists_of_map_eq_ok hphase
  refine ⟨state, hstate, ?_⟩
  rw [hshown]
  decide +kernel

end Manager

end NamespaceLifecycle
