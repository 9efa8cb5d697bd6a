import NamespaceLifecycle.Text.Basic

/-!
# Spans of time and the clock

A span is a whole number of nanoseconds. Its text takes the largest of the four units seconds,
milliseconds, microseconds and nanoseconds that is not zero, and writes the rest as a decimal
fraction without zeros at the end.

The clock counts the time since it was started. Its count goes up to 2^64 seconds, but a moment can
be named only within the first 2^63 of them.
-/

namespace NamespaceLifecycle

/-- A span of time in nanoseconds. -/
structure Duration where
  nanos : Nat
  deriving DecidableEq, Repr, Inhabited

namespace Duration

def perSecond : Nat := 1000000000

def of (seconds nanos : Nat) : Duration := ⟨seconds * perSecond + nanos⟩

def ofSeconds (seconds : Nat) : Duration := ⟨seconds * perSecond⟩

def zero : Duration := ⟨0⟩

def seconds (d : Duration) : Nat := d.nanos / perSecond

def subsecond (d : Duration) : Nat := d.nanos % perSecond

def plus (a b : Duration) : Duration := ⟨a.nanos + b.nanos⟩

/-- What is left of the first span after the second, none when the second is longer. -/
def minus (a b : Duration) : Duration := ⟨a.nanos - b.nanos⟩

def least (a b : Duration) : Duration := if a.nanos ≤ b.nanos then a else b

instance : LE Duration := ⟨fun a b => a.nanos ≤ b.nanos⟩
instance : LT Duration := ⟨fun a b => a.nanos < b.nanos⟩
instance (a b : Duration) : Decidable (a ≤ b) := inferInstanceAs (Decidable (a.nanos ≤ b.nanos))
instance (a b : Duration) : Decidable (a < b) := inferInstanceAs (Decidable (a.nanos < b.nanos))

@[simp] theorem le_def {a b : Duration} : a ≤ b ↔ a.nanos ≤ b.nanos := Iff.rfl
@[simp] theorem lt_def {a b : Duration} : a < b ↔ a.nanos < b.nanos := Iff.rfl
@[simp] theorem nanos_plus (a b : Duration) : (a.plus b).nanos = a.nanos + b.nanos := rfl
@[simp] theorem nanos_minus (a b : Duration) : (a.minus b).nanos = a.nanos - b.nanos := rfl
@[simp] theorem nanos_zero : zero.nanos = 0 := rfl

theorem nanos_least (a b : Duration) : (a.least b).nanos = min a.nanos b.nanos := by
  unfold least
  split <;> omega

/-- A count of some unit with the remainder as a fraction of `width` digits at most. -/
def amount (whole rest width : Nat) (unit : String) : String :=
  let digits := Text.fraction width rest
  if digits.isEmpty then toString whole ++ unit else toString whole ++ "." ++ digits ++ unit

/-- The span in its largest unit. -/
def text (d : Duration) : String :=
  if 0 < d.seconds then amount d.seconds d.subsecond 9 "s"
  else if 1000000 ≤ d.nanos then amount (d.nanos / 1000000) (d.nanos % 1000000) 6 "ms"
  else if 1000 ≤ d.nanos then amount (d.nanos / 1000) (d.nanos % 1000) 3 "µs"
  else amount d.nanos 0 0 "ns"

example : (of 1 500000000).text = "1.5s" := by decide +kernel
example : (of 0 1500).text = "1.5µs" := by decide +kernel
example : zero.text = "0ns" := by decide +kernel

end Duration

namespace Clock

/-- No count of the clock reaches this. -/
def countLimit : Duration := .ofSeconds UInt64.size

/-- No moment lies this far from the start. -/
def momentLimit : Duration := .ofSeconds (UInt64.size / 2)

/-- The count after a span, none when it runs over. -/
def advance? (elapsed span : Duration) : Option Duration :=
  if elapsed.plus span < countLimit then some (elapsed.plus span) else none

/-- The moment that a count stands for, as the span from the start. -/
def moment? (elapsed : Duration) : Option Duration :=
  if elapsed < momentLimit then some elapsed else none

def later? (moment span : Duration) : Option Duration := moment? (moment.plus span)

end Clock

end NamespaceLifecycle
