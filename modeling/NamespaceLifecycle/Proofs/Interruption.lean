import NamespaceLifecycle.Proofs.InFlight

/-!
# Operations that are called off

A call that is called off before it starts, and whose inputs pass the checks, fails as called off
and sends nothing. One that is called off later ends by the answer to the request in flight, where
that answer comes and nothing was to follow it, and otherwise as called off. Nothing starts after
the call to stop, and a call that is called off does not fail because its time is over: the time is
over only where a poll would start, and no poll starts then.
-/

namespace NamespaceLifecycle

/-- No request ends in an error that says that the time is over. -/
theorem Error.isRequestKind_not_isTimeout : Error.IsRequestKind (¬·.IsTimeout) := by
  constructor <;> intros <;> rintro ⟨_, _, _, _, _, h⟩ <;> cases h

theorem Error.IsRefusal.not_isTimeout {error : Error} (h : error.IsRefusal) : ¬error.IsTimeout := by
  rintro ⟨_, _, _, _, _, rfl⟩
  rcases h with ⟨_, _, h⟩ | ⟨_, _, h⟩ <;> cases h

/-- What a call is about and what it aims at, once its inputs have passed the checks. -/
def Call.subject? : Call → Except Error WaitSubject
  | .create config =>
    config.validate.map fun _ ↦ ⟨⟨config.projectName, config.namePrefix⟩, "created"⟩
  | .read state => (Manager.identityOf state).map (⟨·, "read"⟩)
  | .delete state => (Manager.identityOf state).map (⟨·, "deleted"⟩)
  | .importKey key => (Identity.ofImportKey key).map (⟨·, "imported"⟩)

namespace Manager

open Run

variable {m : Manager} {s : Surroundings} {p : Progress}

/-- The wait of a call, if it has one, has a deadline that the clock can name. -/
def HasDeadline (m : Manager) (p : Progress) : Call → Prop
  | .create _ => ∃ deadline, m.createPolicy.deadline p.elapsed = .ok deadline
  | .delete _ => ∃ deadline, m.deletePolicy.deadline p.elapsed = .ok deadline
  | .read _ => True
  | .importKey _ => True

/-- Lines of the log between two parts do not matter. -/
theorem heeds_append_logged {first second : List Event} (line : LogLine) (hfirst : Heeds p first)
    (hsecond : Heeds (p.afterAll first) second) : Heeds p (first ++ .logged line :: second) :=
  hfirst.append (Heeds.cons (fun _ ↦ ⟨line, rfl⟩) hsecond)

theorem create_heeds {config : State} {result : Except Stop State} {events : List Event}
    (h : m.create config s p = (result, events)) : Heeds p events := by
  cases create_run h with
  | invalid => exact heeds_nil p
  | unnamed => exact heeds_nil p
  | refused => exact heeds_nil p
  | unsubmitted _ _ hsubmit => exact (submission_follows config hsubmit).heeds
  | unfinished _ _ hsubmit hwait =>
    have hwaited := (waitUntil_run hwait).heeds (Endpoint.pollCreated_follows _)
    exact heeds_append_logged _ (submission_follows config hsubmit).heeds hwaited
  | @made _ _ _ _ _ line _ first waiting last _ _ hsubmit hwait _ hlast =>
    have hwaited := (waitUntil_run hwait).heeds (Endpoint.pollCreated_follows _)
    have hread : Heeds ((p.afterAll first).afterAll waiting) last := by
      cases readBack_run hlast with
      | read hlook => exact (refresh_follows _ "read" hlook).heeds
      | @unread _ line _ hlook =>
        exact (refresh_follows _ "read" hlook).heeds.append (heeds_logged _ [line])
      | stopped _ hlook => exact (refresh_follows _ "read" hlook).heeds
    refine heeds_append_logged _
      (heeds_append_logged _ (submission_follows config hsubmit).heeds hwaited) ?_
    rw [Progress.afterAll_append]
    exact hread

theorem delete_heeds {state : State} {result : Except Stop State} {events : List Event}
    (h : m.delete state s p = (result, events)) : Heeds p events := by
  cases delete_run h with
  | unidentified => exact heeds_nil p
  | unnamed => exact heeds_nil p
  | refused => exact heeds_nil p
  | unremoved _ _ hremove => exact (removal_follows _ hremove).heeds
  | unfinished _ _ hremove hwait =>
    have hwaited := (waitUntil_run hwait).heeds (Endpoint.pollDeleted_follows _)
    exact heeds_append_logged _ (removal_follows _ hremove).heeds hwaited
  | removed _ _ hremove hwait =>
    have hwaited := (waitUntil_run hwait).heeds (Endpoint.pollDeleted_follows _)
    exact heeds_append_logged _ (heeds_append_logged _ (removal_follows _ hremove).heeds hwaited)
      (heeds_nil _)

theorem perform_heeds {call : Call} {result : Except Stop State} {events : List Event}
    (h : m.perform call s p = (result, events)) : Heeds p events := by
  cases call with
  | create config => exact create_heeds h
  | delete state => exact delete_heeds h
  | read state =>
    cases read_run h with
    | unidentified => exact heeds_nil p
    | asked _ hread => exact (refresh_follows _ "read" hread).heeds
  | importKey key =>
    cases importKey_run h with
    | malformed => exact heeds_nil p
    | stopped _ hfetch => exact (fetch_follows _ "imported" hfetch).heeds
    | @imported _ _ _ line _ _ hfetch =>
      exact (fetch_follows _ "imported" hfetch).heeds.append (heeds_logged _ [line])

/-- A request that can be called off is not sent after the call to stop. -/
theorem cancellable_of_calledOff {α : Type} {identity : Identity} {target : String} {x : Run α}
    {result : Except Stop α} {events : List Event} (hoff : p.isCalledOff = true)
    (h : cancellable identity target x s p = (result, events)) :
    result = .error (.failed (WaitSubject.mk identity target).cancelled) ∧ events = [] := by
  rw [cancellable, unlessCalledOff_of_calledOff hoff, Prod.mk.injEq] at h
  exact ⟨h.1.symm, h.2.symm⟩

/-- A call that passes the checks after the call to stop fails as called off and does nothing. -/
theorem perform_of_calledOff {call : Call} {subject : WaitSubject} {result : Except Stop State}
    {events : List Event} (h : m.perform call s p = (result, events)) (hoff : p.isCalledOff = true)
    (hsubject : call.subject? = .ok subject) (hdeadline : m.HasDeadline p call) :
    result = .error (.failed subject.cancelled) ∧ events = [] := by
  cases call with
  | create config =>
    obtain ⟨deadline, hdeadline⟩ := hdeadline
    obtain ⟨_, hvalid, rfl⟩ := exists_of_map_eq_ok hsubject
    cases create_run h with
    | invalid hinvalid => cases hvalid.symm.trans hinvalid
    | unnamed hmoment => exact absurd (WaitPolicy.lt_of_deadline_eq_ok hdeadline).1 hmoment
    | refused hrefused => cases hdeadline.symm.trans hrefused
    | unsubmitted _ _ hsubmit =>
      obtain ⟨hstop, rfl⟩ := cancellable_of_calledOff hoff hsubmit
      cases hstop
      exact ⟨rfl, rfl⟩
    | unfinished _ _ hsubmit => cases (cancellable_of_calledOff hoff hsubmit).1
    | made _ _ hsubmit => cases (cancellable_of_calledOff hoff hsubmit).1
  | delete state =>
    obtain ⟨deadline, hdeadline⟩ := hdeadline
    obtain ⟨identity, hidentity, rfl⟩ := exists_of_map_eq_ok hsubject
    cases delete_run h with
    | unidentified hnone => cases hidentity.symm.trans hnone
    | unnamed hmoment => exact absurd (WaitPolicy.lt_of_deadline_eq_ok hdeadline).1 hmoment
    | refused hrefused => cases hdeadline.symm.trans hrefused
    | unremoved hidentity' _ hremove =>
      cases hidentity.symm.trans hidentity'
      obtain ⟨hstop, rfl⟩ := cancellable_of_calledOff hoff hremove
      cases hstop
      exact ⟨rfl, rfl⟩
    | unfinished _ _ hremove => cases (cancellable_of_calledOff hoff hremove).1
    | removed _ _ hremove => cases (cancellable_of_calledOff hoff hremove).1
  | read state =>
    obtain ⟨identity, hidentity, rfl⟩ := exists_of_map_eq_ok hsubject
    cases read_run h with
    | unidentified hnone => cases hidentity.symm.trans hnone
    | asked hidentity' hread =>
      cases hidentity.symm.trans hidentity'
      obtain ⟨rfl, rfl⟩ := cancellable_of_calledOff hoff hread
      exact ⟨rfl, rfl⟩
  | importKey key =>
    obtain ⟨identity, hidentity, rfl⟩ := exists_of_map_eq_ok hsubject
    cases importKey_run h with
    | malformed hnone => cases hidentity.symm.trans hnone
    | stopped hidentity' hfetch =>
      cases hidentity.symm.trans hidentity'
      obtain ⟨hstop, rfl⟩ := cancellable_of_calledOff hoff hfetch
      cases hstop
      exact ⟨rfl, rfl⟩
    | imported _ hfetch => cases (cancellable_of_calledOff hoff hfetch).1

/-- A call that fails because its time is over is not called off. -/
theorem isCalledOff_of_timeout {call : Call} {error : Error} {events : List Event}
    (h : m.perform call s p = (.error (.failed error), events)) (herror : error.IsTimeout) :
    (p.afterAll events).isCalledOff = false := by
  cases perform_failsBy Error.isRequestKind_not_isTimeout h with
  | request hkind => exact absurd herror hkind
  | refused hrefused => exact absurd herror hrefused.not_isTimeout
  | expired _ hopen => exact hopen
  | unread _ _ hunread =>
    obtain ⟨_, _, _, _, _, rfl⟩ := herror
    cases hunread

/-- How a call heeds the call to stop. -/
structure HeedsCallOff (m : Manager) (s : Surroundings) (p : Progress) (call : Call)
    (result : Except Stop State) (events : List Event) : Prop where
  /-- Nothing starts after the call to stop. -/
  quiet : Heeds p events
  /-- A call that is called off before it starts, and passes the checks, fails for that reason. -/
  atOnce : p.isCalledOff = true → ∀ subject, call.subject? = .ok subject → m.HasDeadline p call →
    result = .error (.failed subject.cancelled) ∧ events = []
  /-- A call that is called off later ends by the answer to the request in flight, if at all. -/
  later : p.isCalledOff = false → (p.afterAll events).isCalledOff = true →
    m.Concludes s p call events result
  /-- A call that is called off does not fail because its time is over. -/
  inTime : (p.afterAll events).isCalledOff = true →
    ∀ error, result = .error (.failed error) → ¬error.IsTimeout

/-- Every call heeds the call to stop, whenever it comes and whatever the service answers, as long
as the clock can name the deadline of the wait and count the time. -/
theorem perform_heedsCallOff {call : Call} {result : Except Stop State} {events : List Event}
    (hrun : m.perform call s p = (result, events)) (hdeadline : ¬m.RefusesLate s p call)
    (hclock : InRange result) : m.HeedsCallOff s p call result events where
  quiet := perform_heeds hrun
  atOnce hoff _ hsubject hchecked := perform_of_calledOff hrun hoff hsubject hchecked
  later hopen hoff := by
    cases call with
    | create config => exact create_concludes hrun hdeadline hclock hopen hoff
    | delete state => exact delete_concludes hrun hdeadline hclock hopen hoff
    | read state => exact read_concludes hrun hopen hoff
    | importKey key => exact importKey_concludes hrun hopen hoff
  inTime hoff error hresult herror := by
    subst hresult
    have hopen := isCalledOff_of_timeout hrun herror
    rw [hoff] at hopen
    cases hopen

/-- A removal that is granted and called off in the first sleep of its wait. -/
theorem perform_heedsCallOff_of_asleep :
    let m : Manager := ⟨⟨"https://vcfa.example.com", .ascii⟩, .usual, .usual⟩
    let call : Call := .delete { State.empty with id := some "shop:dev-1" }
    let s : Surroundings := ⟨fun _ _ ↦ .answered .zero false [] (.ok .null), fun _ ↦ true⟩
    let run := m.perform call s .start
    m.HeedsCallOff s .start call run.1 run.2 ∧
      run.1 = .error (.failed (.cancelled "shop" "dev-1" "deleted")) := by
  intro m call s run
  have hearly : (Progress.start.elapsed.plus .zero).plus m.deletePolicy.timeout <
      Clock.momentLimit := by decide +kernel
  have hdeadline : ¬m.RefusesLate s .start call := by
    rintro ⟨-, -, _, _, _, -, -, -, hlate⟩
    exact hlate.2 hearly
  have hresult : run.1 = .error (.failed (.cancelled "shop" "dev-1" "deleted")) := by
    decide +kernel
  have hclock : InRange run.1 := by
    rw [hresult]
    nofun
  exact ⟨perform_heedsCallOff (Prod.eta run).symm hdeadline hclock, hresult⟩

end Manager

end NamespaceLifecycle
