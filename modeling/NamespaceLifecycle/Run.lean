import NamespaceLifecycle.Duration
import NamespaceLifecycle.Error

/-!
# Runs

An operation talks to the service, lets time pass and may be called off. A run of it is described
by what happened: requests started, time waited and slept, the moment of the call to stop, polls,
and lines of the log. Where a run stands is read off from what happened so far, so time never goes
back and a call to stop is never taken back.

What the world does is given in advance: an answer for every request and whether the call to stop
comes during a sleep. An operation gives up a request that is never answered only because it is
called off.
-/

namespace NamespaceLifecycle

inductive Level where
  | error
  | warn
  | info
  | debug
  | trace
  deriving DecidableEq, Repr

def Level.text : Level → String
  | error => "ERROR"
  | warn => "WARN"
  | info => "INFO"
  | debug => "DEBUG"
  | trace => "TRACE"

structure LogLine where
  level : Level
  message : String
  deriving DecidableEq, Repr

/-- What can happen in a run. -/
inductive Event where
  /-- A request starts. -/
  | sent (request : Request)
  /-- Time passes while a request is in flight. -/
  | waited (span : Duration)
  /-- Time passes in a sleep. -/
  | slept (span : Duration)
  /-- The operation is called off. -/
  | calledOff
  /-- A poll starts. -/
  | polled
  | logged (line : LogLine)
  deriving Repr

/-- Where a run stands. -/
structure Progress where
  elapsed : Duration
  isCalledOff : Bool
  requests : Nat
  sleeps : Nat
  deriving DecidableEq, Repr

namespace Progress

def start : Progress := ⟨.zero, false, 0, 0⟩

def after (p : Progress) : Event → Progress
  | .sent _ => { p with requests := p.requests + 1 }
  | .waited span => { p with elapsed := p.elapsed.plus span }
  | .slept span => { p with elapsed := p.elapsed.plus span, sleeps := p.sleeps + 1 }
  | .calledOff => { p with isCalledOff := true }
  | .polled => p
  | .logged _ => p

def afterAll (p : Progress) (events : List Event) : Progress := events.foldl after p

@[simp] theorem afterAll_nil (p : Progress) : p.afterAll [] = p := rfl

@[simp] theorem afterAll_cons (p : Progress) (e : Event) (events : List Event) :
    p.afterAll (e :: events) = (p.after e).afterAll events := rfl

theorem afterAll_append (p : Progress) (first second : List Event) :
    p.afterAll (first ++ second) = (p.afterAll first).afterAll second :=
  List.foldl_append

theorem elapsed_le_after (p : Progress) (e : Event) : p.elapsed ≤ (p.after e).elapsed := by
  cases e <;> simp [after]

/-- Time never goes back. -/
theorem elapsed_le_afterAll (p : Progress) (events : List Event) :
    p.elapsed ≤ (p.afterAll events).elapsed := by
  induction events generalizing p with
  | nil => simp
  | cons e events ih => exact Nat.le_trans (elapsed_le_after p e) (ih (p.after e))

/-- A call to stop is never taken back. -/
theorem isCalledOff_afterAll {p : Progress} (h : p.isCalledOff = true) (events : List Event) :
    (p.afterAll events).isCalledOff = true := by
  induction events generalizing p with
  | nil => exact h
  | cons e events ih => exact ih (by cases e <;> simp [after, h])

end Progress

/-- What becomes of something that is waited for: it is answered after some time, when the
operation may have been called off; or it is never answered and the operation is called off. -/
inductive Reply (α : Type) where
  | answered (takes : Duration) (callsOff : Bool) (log : List LogLine) (answer : α)
  | silent (takes : Duration) (log : List LogLine)
  deriving Repr

abbrev Answer := Except TransportError Json

structure Surroundings where
  /-- What becomes of a request, by the number of requests before it. -/
  transport : Nat → Request → Reply Answer
  /-- Whether the operation is called off in a sleep, by the number of sleeps before it. -/
  callsOffSleep : Nat → Bool

/-- Why a run ends early. -/
inductive Stop where
  | failed (error : Error)
  /-- What was waited for is given up. -/
  | abandoned
  /-- The clock has run over. -/
  | clockOverrun
  deriving DecidableEq, Repr

/-- A computation that runs in surroundings from where a run stands; it yields a value or the
reason for which it ends, and what happened. -/
def Run (α : Type) : Type := Surroundings → Progress → Except Stop α × List Event

namespace Run

protected def pure {α : Type} (a : α) : Run α := fun _ _ => (.ok a, [])

protected def bind {α β : Type} (x : Run α) (f : α → Run β) : Run β := fun s p =>
  match x s p with
  | (.error stop, events) => (.error stop, events)
  | (.ok a, events) =>
    match f a s (p.afterAll events) with
    | (result, more) => (result, events ++ more)

instance : Monad Run where
  pure := Run.pure
  bind := Run.bind

def stop {α : Type} (reason : Stop) : Run α := fun _ _ => (.error reason, [])

def fail {α : Type} (error : Error) : Run α := stop (.failed error)

/-- A value that may not be there for a reason of its own. -/
def ofExcept {α : Type} : Except Error α → Run α
  | .ok a => Run.pure a
  | .error error => fail error

def record (event : Event) : Run Unit := fun _ _ => (.ok (), [event])

def log (level : Level) (message : String) : Run Unit := record (.logged ⟨level, message⟩)

def now : Run Duration := fun _ p =>
  match Clock.moment? p.elapsed with
  | some moment => (.ok moment, [])
  | none => (.error .clockOverrun, [])

/-- Waits for a reply. Nothing happens when the clock would run over. -/
def await {α : Type} (reply : Reply α) : Run α := fun _ p =>
  match reply with
  | .answered takes callsOff log answer =>
    match Clock.advance? p.elapsed takes with
    | none => (.error .clockOverrun, [])
    | some _ =>
      (.ok answer, .waited takes :: (if callsOff then [.calledOff] else []) ++ log.map .logged)
  | .silent takes log =>
    match Clock.advance? p.elapsed takes with
    | none => (.error .clockOverrun, [])
    | some _ => (.error .abandoned, .waited takes :: log.map .logged ++ [.calledOff])

/-- Sends a request and waits for its answer. -/
def send (request : Request) : Run Answer := fun s p =>
  match await (s.transport p.requests request) s p with
  | (result, events) => (result, .sent request :: events)

/-- Sleeps for a span. When the operation is called off in the sleep, what was to follow is given
up at its end. -/
def sleep (span : Duration) : Run Unit := fun s p =>
  match Clock.advance? p.elapsed span with
  | none => (.error .clockOverrun, [])
  | some _ =>
    if s.callsOffSleep p.sleeps then (.error .abandoned, [.slept span, .calledOff])
    else (.ok (), [.slept span])

/-- Runs what can be called off: not at all after the call to stop, and with the given error when
it is abandoned. -/
def unlessCalledOff {α : Type} (error : Error) (x : Run α) : Run α := fun s p =>
  if p.isCalledOff then (.error (.failed error), [])
  else
    match x s p with
    | (.error .abandoned, events) => (.error (.failed error), events)
    | outcome => outcome

/-- Takes an error of the operation for a result. -/
def attempt {α : Type} (x : Run α) : Run (Except Error α) := fun s p =>
  match x s p with
  | (.ok a, events) => (.ok (.ok a), events)
  | (.error (.failed error), events) => (.ok (.error error), events)
  | (.error stop, events) => (.error stop, events)

end Run

end NamespaceLifecycle
