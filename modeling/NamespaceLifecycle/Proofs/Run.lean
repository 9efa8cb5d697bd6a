import NamespaceLifecycle.Proofs.Except
import NamespaceLifecycle.Run

/-!
# What a run does

A run of one computation after the other is a run of the first, and where that yields a value, a
run of the second from where the first has led. The laws here take runs apart along the way in
which they are put together, so that no later proof opens a computation: what becomes of a reply,
which kinds of events a computation has, and with which kinds of errors it fails.
-/

namespace NamespaceLifecycle

/-- The request that an event starts. -/
def Event.request? : Event → Option Request
  | .sent request => some request
  | _ => none

def requestsIn (events : List Event) : List Request := events.filterMap Event.request?

@[simp] theorem requestsIn_nil : requestsIn [] = [] := rfl

@[simp] theorem requestsIn_append (first second : List Event) :
    requestsIn (first ++ second) = requestsIn first ++ requestsIn second :=
  List.filterMap_append

@[simp] theorem requestsIn_cons (e : Event) (events : List Event) :
    requestsIn (e :: events) = e.request?.toList ++ requestsIn events := by
  cases h : e.request? <;> simp [requestsIn, h]

@[simp] theorem requestsIn_logged (log : List LogLine) : requestsIn (log.map .logged) = [] := by
  induction log with
  | nil => rfl
  | cons line log ih => simpa [Event.request?] using ih

@[simp] theorem Progress.afterAll_logged (p : Progress) (log : List LogLine) :
    p.afterAll (log.map .logged) = p := by
  induction log with
  | nil => rfl
  | cons line log ih => exact ih

/-- The clock can count and name the time of a run that has this result. -/
def Run.InRange {α : Type} (result : Except Stop α) : Prop := result ≠ .error .clockOverrun

theorem Run.not_inRange_iff {α : Type} {result : Except Stop α} :
    ¬InRange result ↔ result = .error .clockOverrun := Classical.not_not

/-- An event of a run is in its first part or in its second. -/
theorem split_cases {e : Event} {first second before after : List Event}
    (h : first ++ second = before ++ e :: after) :
    (∃ middle, first = before ++ e :: middle ∧ after = middle ++ second) ∨
      ∃ middle, before = first ++ middle ∧ second = middle ++ e :: after := by
  rcases List.append_eq_append_iff.1 h with ⟨middle, hbefore, hsecond⟩ | ⟨middle, hfirst, hafter⟩
  · exact .inr ⟨middle, hbefore, hsecond⟩
  · cases middle with
    | nil =>
      rw [List.append_nil] at hfirst
      exact .inr ⟨[], by rw [List.append_nil, hfirst], hafter.symm⟩
    | cons d middle =>
      rw [List.cons_append, List.cons.injEq] at hafter
      rw [hafter.1]
      exact .inl ⟨middle, hfirst, hafter.2⟩

theorem split_of_not_mem_first {e : Event} {first second before after : List Event}
    (h : first ++ second = before ++ e :: after) (he : e ∉ first) :
    ∃ middle, before = first ++ middle ∧ second = middle ++ e :: after := by
  rcases split_cases h with ⟨middle, hfirst, -⟩ | hsecond
  · rw [hfirst] at he
    simp at he
  · exact hsecond

theorem split_of_not_mem_second {e : Event} {first second before after : List Event}
    (h : first ++ second = before ++ e :: after) (he : e ∉ second) :
    ∃ middle, first = before ++ e :: middle ∧ after = middle ++ second := by
  rcases split_cases h with hfirst | ⟨middle, -, hsecond⟩
  · exact hfirst
  · rw [hsecond] at he
    simp at he

/-- Every request is counted. -/
theorem Progress.requests_afterAll (p : Progress) (events : List Event) :
    (p.afterAll events).requests = p.requests + (requestsIn events).length := by
  induction events generalizing p with
  | nil => rfl
  | cons e events ih =>
    rw [afterAll_cons, ih, requestsIn_cons, List.length_append]
    cases e <;> simp only [after, Event.request?, Option.toList, List.length_nil,
      List.length_singleton] <;> omega

namespace Reply

variable {α : Type}

/-- The time until the answer comes or the operation is called off. -/
def takes : Reply α → Duration
  | answered takes _ _ _ => takes
  | silent takes _ => takes

/-- Whether the operation is called off meanwhile. -/
def callsOff : Reply α → Bool
  | answered _ callsOff _ _ => callsOff
  | silent _ _ => true

def outcome : Reply α → Except Stop α
  | answered _ _ _ answer => .ok answer
  | silent _ _ => .error .abandoned

/-- What happens until then. -/
def events : Reply α → List Event
  | answered takes callsOff log _ =>
    .waited takes :: (if callsOff then [.calledOff] else []) ++ log.map .logged
  | silent takes log => .waited takes :: log.map .logged ++ [.calledOff]

@[simp] theorem requestsIn_events (reply : Reply α) : requestsIn reply.events = [] := by
  cases reply with
  | answered takes callsOff log answer => cases callsOff <;> simp [events, Event.request?]
  | silent takes log => simp [events, Event.request?]

theorem polled_not_mem_events (reply : Reply α) : Event.polled ∉ reply.events := by
  cases reply with
  | answered takes callsOff log answer => cases callsOff <;> simp [events]
  | silent takes log => simp [events]

@[simp] theorem afterAll_events (reply : Reply α) (p : Progress) :
    p.afterAll reply.events =
      { p with elapsed := p.elapsed.plus reply.takes
               isCalledOff := p.isCalledOff || reply.callsOff } := by
  cases reply with
  | answered takes callsOff log answer =>
    cases callsOff <;> simp [events, Progress.after, Reply.takes, Reply.callsOff]
  | silent takes log =>
    simp [events, Progress.afterAll_append, Progress.after, Reply.takes, Reply.callsOff]

end Reply

/-- Surroundings in which every request has the same answer at once and nothing is called off. -/
def Surroundings.always (answer : Answer) : Surroundings :=
  ⟨fun _ _ ↦ .answered .zero false [] answer, fun _ ↦ false⟩

namespace Run

variable {α β : Type} {s : Surroundings} {p : Progress}

/-! ## One computation after the other -/

theorem pure_run (a : α) : (pure a : Run α) s p = (.ok a, []) := rfl

theorem fail_run (error : Error) : (fail error : Run α) s p = (.error (.failed error), []) := rfl

theorem ofExcept_run (x : Except Error α) : ofExcept x s p = (x.mapError .failed, []) := by
  cases x <;> rfl

theorem log_run (level : Level) (message : String) :
    log level message s p = (.ok (), [.logged ⟨level, message⟩]) := rfl

theorem bind_of_error {x : Run α} {f : α → Run β} {stop : Stop} {events : List Event}
    (h : x s p = (.error stop, events)) : (x >>= f) s p = (.error stop, events) := by
  change Run.bind x f s p = _
  simp only [Run.bind, h]

theorem bind_of_ok {x : Run α} {f : α → Run β} {a : α} {events : List Event}
    (h : x s p = (.ok a, events)) :
    (x >>= f) s p = ((f a s (p.afterAll events)).1, events ++ (f a s (p.afterAll events)).2) := by
  change Run.bind x f s p = _
  simp only [Run.bind, h]

/-- A run of one computation after the other ends with the first, or goes on from its value. -/
theorem bind_cases {x : Run α} {f : α → Run β} {result : Except Stop β} {events : List Event}
    (h : (x >>= f) s p = (result, events)) :
    (∃ stop, x s p = (.error stop, events) ∧ result = .error stop) ∨
      ∃ a first second, x s p = (.ok a, first) ∧
        f a s (p.afterAll first) = (result, second) ∧ events = first ++ second := by
  rcases hx : x s p with ⟨stop | a, first⟩
  · rw [bind_of_error hx, Prod.mk.injEq] at h
    exact .inl ⟨stop, by rw [h.2], h.1.symm⟩
  · rw [bind_of_ok hx, Prod.mk.injEq] at h
    exact .inr ⟨a, first, _, rfl, Prod.ext h.1 rfl, h.2.symm⟩

theorem log_bind_cases {level : Level} {message : String} {f : Unit → Run α}
    {result : Except Stop α} {events : List Event}
    (h : (log level message >>= f) s p = (result, events)) :
    ∃ rest, f () s p = (result, rest) ∧ events = .logged ⟨level, message⟩ :: rest := by
  rw [bind_of_ok (log_run level message), Prod.mk.injEq] at h
  exact ⟨_, Prod.ext h.1 rfl, h.2.symm⟩

/-! ## Replies -/

/-- Nothing happens when the clock cannot count the time that a reply takes. -/
theorem await_run (reply : Reply α) : await reply s p =
    if p.elapsed.plus reply.takes < Clock.countLimit then (reply.outcome, reply.events)
    else (.error .clockOverrun, []) := by
  by_cases h : p.elapsed.plus reply.takes < Clock.countLimit
  · have hadvance : Clock.advance? p.elapsed reply.takes = some (p.elapsed.plus reply.takes) := by
      rw [Clock.advance?, if_pos h]
    rw [if_pos h]
    cases reply <;> simp only [await, Reply.takes] at hadvance ⊢ <;> rw [hadvance] <;> rfl
  · have hadvance : Clock.advance? p.elapsed reply.takes = none := by
      rw [Clock.advance?, if_neg h]
    rw [if_neg h]
    cases reply <;> simp only [await, Reply.takes] at hadvance ⊢ <;> rw [hadvance]

/-- A request starts, and then its reply is waited for. -/
theorem send_run (request : Request) : send request s p =
    if p.elapsed.plus (s.transport p.requests request).takes < Clock.countLimit then
      ((s.transport p.requests request).outcome,
        .sent request :: (s.transport p.requests request).events)
    else (.error .clockOverrun, [.sent request]) := by
  simp only [send, await_run]
  split <;> rfl

/-! ## Calling off -/

theorem unlessCalledOff_of_calledOff (h : p.isCalledOff = true) (error : Error) (x : Run α) :
    unlessCalledOff error x s p = (.error (.failed error), []) := by
  rw [unlessCalledOff, if_pos h]

theorem unlessCalledOff_of_abandoned (h : p.isCalledOff = false) (error : Error) {x : Run α}
    {events : List Event} (hx : x s p = (.error .abandoned, events)) :
    unlessCalledOff error x s p = (.error (.failed error), events) := by
  rw [unlessCalledOff, if_neg (by simp [h]), hx]

theorem unlessCalledOff_of_ne (h : p.isCalledOff = false) (error : Error) {x : Run α}
    (hx : (x s p).1 ≠ .error .abandoned) : unlessCalledOff error x s p = x s p := by
  rw [unlessCalledOff, if_neg (by simp [h])]
  split
  · rename_i heq
    exact absurd (congrArg Prod.fst heq) hx
  · rfl

theorem unlessCalledOff_of_ok (h : p.isCalledOff = false) (error : Error) {x : Run α} {a : α}
    {events : List Event} (hx : x s p = (.ok a, events)) :
    unlessCalledOff error x s p = (.ok a, events) := by
  rw [unlessCalledOff_of_ne h error (by simp [hx]), hx]

/-- What can be called off does not start after the call to stop; otherwise it runs, and its error
takes the place of being abandoned. -/
theorem unlessCalledOff_cases {error : Error} {x : Run α} {result : Except Stop α}
    {events : List Event} (h : unlessCalledOff error x s p = (result, events)) :
    (p.isCalledOff = true ∧ result = .error (.failed error) ∧ events = []) ∨
      (p.isCalledOff = false ∧ x s p = (.error .abandoned, events) ∧
        result = .error (.failed error)) ∨
      (p.isCalledOff = false ∧ x s p = (result, events) ∧ result ≠ .error .abandoned) := by
  cases hoff : p.isCalledOff with
  | true =>
    rw [unlessCalledOff_of_calledOff hoff, Prod.mk.injEq] at h
    exact .inl ⟨rfl, h.1.symm, h.2.symm⟩
  | false =>
    by_cases habandoned : (x s p).1 = .error .abandoned
    · have hx : x s p = (.error .abandoned, (x s p).2) := Prod.ext habandoned rfl
      rw [unlessCalledOff_of_abandoned hoff error hx, Prod.mk.injEq] at h
      exact .inr (.inl ⟨rfl, by rw [hx, h.2], h.1.symm⟩)
    · rw [unlessCalledOff_of_ne hoff error habandoned] at h
      exact .inr (.inr ⟨rfl, h, by rw [h] at habandoned; exact habandoned⟩)

/-- An error of an operation becomes a value; the events stay. -/
theorem attempt_cases {x : Run α} {result : Except Stop (Except Error α)} {events : List Event}
    (h : attempt x s p = (result, events)) :
    (∃ a, x s p = (.ok a, events) ∧ result = .ok (.ok a)) ∨
      (∃ error, x s p = (.error (.failed error), events) ∧ result = .ok (.error error)) ∨
      ∃ stop, x s p = (.error stop, events) ∧ (∀ error, stop ≠ .failed error) ∧
        result = .error stop := by
  unfold attempt at h
  rcases hx : x s p with ⟨stop | a, first⟩
  · cases stop with
    | failed error =>
      simp only [hx, Prod.mk.injEq] at h
      exact .inr (.inl ⟨error, by rw [h.2], h.1.symm⟩)
    | abandoned =>
      simp only [hx, Prod.mk.injEq] at h
      exact .inr (.inr ⟨.abandoned, by rw [h.2], by simp, h.1.symm⟩)
    | clockOverrun =>
      simp only [hx, Prod.mk.injEq] at h
      exact .inr (.inr ⟨.clockOverrun, by rw [h.2], by simp, h.1.symm⟩)
  · simp only [hx, Prod.mk.injEq] at h
    exact .inl ⟨a, by rw [h.2], h.1.symm⟩

/-! ## Kinds of events -/

/-- All events of a computation are of one kind, wherever it starts. -/
def Emits (kind : Event → Prop) (x : Run α) : Prop :=
  ∀ ⦃s p result events⦄, x s p = (result, events) → ∀ e ∈ events, kind e

section Emits

variable {kind : Event → Prop}

theorem emits_of_eq_nil {x : Run α} (h : ∀ s p, (x s p).2 = []) : Emits kind x := by
  intro s p result events hrun e he
  have hevents : events = [] := by
    rw [← h s p, hrun]
  rw [hevents] at he
  exact absurd he List.not_mem_nil

theorem emits_pure (a : α) : Emits kind (pure a) := emits_of_eq_nil fun _ _ ↦ rfl

theorem emits_fail (error : Error) : Emits kind (fail error : Run α) :=
  emits_of_eq_nil fun _ _ ↦ rfl

theorem emits_ofExcept (x : Except Error α) : Emits kind (ofExcept x) :=
  emits_of_eq_nil fun _ _ ↦ by rw [ofExcept_run]

theorem emits_log (h : ∀ line, kind (.logged line)) (level : Level) (message : String) :
    Emits kind (log level message) := by
  intro s p result events hrun e he
  rw [log_run, Prod.mk.injEq] at hrun
  rw [← hrun.2, List.mem_singleton] at he
  exact he ▸ h _

theorem Emits.bind {x : Run α} {f : α → Run β} (hx : Emits kind x) (hf : ∀ a, Emits kind (f a)) :
    Emits kind (x >>= f) := by
  intro s p result events hrun e he
  rcases bind_cases hrun with ⟨stop, hstop, -⟩ | ⟨a, first, second, hfirst, hsecond, hevents⟩
  · exact hx hstop e he
  · rw [hevents, List.mem_append] at he
    rcases he with he | he
    · exact hx hfirst e he
    · exact hf a hsecond e he

theorem emits_send (hsent : ∀ request, kind (.sent request))
    (hreply : ∀ reply : Reply Answer, ∀ e ∈ reply.events, kind e) (request : Request) :
    Emits kind (send request) := by
  intro s p result events hrun e he
  rw [send_run] at hrun
  split at hrun
  · rw [Prod.mk.injEq] at hrun
    rw [← hrun.2] at he
    rcases List.mem_cons.1 he with rfl | he
    · exact hsent request
    · exact hreply _ e he
  · rw [Prod.mk.injEq] at hrun
    rw [← hrun.2, List.mem_singleton] at he
    exact he ▸ hsent request

theorem Emits.unlessCalledOff {x : Run α} (hx : Emits kind x) (error : Error) :
    Emits kind (unlessCalledOff error x) := by
  intro s p result events hrun e he
  rcases unlessCalledOff_cases hrun with ⟨-, -, hevents⟩ | ⟨-, hx', -⟩ | ⟨-, hx', -⟩
  · rw [hevents] at he
    exact absurd he List.not_mem_nil
  · exact hx hx' e he
  · exact hx hx' e he

theorem Emits.attempt {x : Run α} (hx : Emits kind x) : Emits kind (attempt x) := by
  intro s p result events hrun e he
  rcases attempt_cases hrun with ⟨a, hx', -⟩ | ⟨error, hx', -⟩ | ⟨stop, hx', -⟩
  · exact hx hx' e he
  · exact hx hx' e he
  · exact hx hx' e he

end Emits

/-! ## Kinds of errors -/

/-- All errors with which a computation fails are of one kind, wherever it starts. -/
def FailsWith (kind : Error → Prop) (x : Run α) : Prop :=
  ∀ ⦃s p error events⦄, x s p = (.error (.failed error), events) → kind error

section FailsWith

variable {kind : Error → Prop}

theorem failsWith_pure (a : α) : FailsWith kind (pure a) := by
  intro s p error events hrun
  cases hrun

theorem failsWith_fail {error : Error} (h : kind error) : FailsWith kind (fail error : Run α) := by
  intro s p other events hrun
  cases hrun
  exact h

theorem failsWith_ofExcept {x : Except Error α} (h : ∀ error, x = .error error → kind error) :
    FailsWith kind (ofExcept x) := by
  cases x with
  | ok a => exact failsWith_pure a
  | error error => exact failsWith_fail (h error rfl)

theorem failsWith_log (level : Level) (message : String) :
    FailsWith kind (log level message) := by
  intro s p error events hrun
  cases hrun

theorem failsWith_send (request : Request) : FailsWith kind (send request) := by
  intro s p error events hrun
  rw [send_run] at hrun
  split at hrun
  · cases hreply : s.transport p.requests request <;> rw [hreply] at hrun <;> cases hrun
  · cases hrun

theorem FailsWith.bind {x : Run α} {f : α → Run β} (hx : FailsWith kind x)
    (hf : ∀ a, FailsWith kind (f a)) : FailsWith kind (x >>= f) := by
  intro s p error events hrun
  rcases bind_cases hrun with ⟨stop, hstop, hresult⟩ | ⟨a, first, second, -, hsecond, -⟩
  · rw [Except.error.injEq] at hresult
    exact hx (hresult ▸ hstop)
  · exact hf a hsecond

theorem FailsWith.unlessCalledOff {x : Run α} (hx : FailsWith kind x) {error : Error}
    (h : kind error) : FailsWith kind (unlessCalledOff error x) := by
  intro s p other events hrun
  rcases unlessCalledOff_cases hrun with ⟨-, hresult, -⟩ | ⟨-, -, hresult⟩ | ⟨-, hx', -⟩
  · rw [Except.error.injEq, Stop.failed.injEq] at hresult
    exact hresult ▸ h
  · rw [Except.error.injEq, Stop.failed.injEq] at hresult
    exact hresult ▸ h
  · exact hx hx'

end FailsWith

end Run

end NamespaceLifecycle
