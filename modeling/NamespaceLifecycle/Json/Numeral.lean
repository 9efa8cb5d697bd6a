import NamespaceLifecycle.Json.Value
import NamespaceLifecycle.Text.Basic

/-!
# Numerals of documents

A numeral is a sign, digits, and optionally digits after a point and a signed power of ten. One
without point and power that fits into 64 bits is a whole number of its sign; every other one is a
binary fraction, and so is zero with a minus sign. The significand of a fraction is made of the
leading digits that fit into 64 bits, and one multiplication or division brings in the power of
ten; the result is therefore near the numeral and not always the nearest. A fraction beyond the
greatest finite one has no value.
-/

namespace NamespaceLifecycle.Json

structure Numeral where
  negative : Bool
  whole : List Nat
  fraction : List Nat
  /-- The sign and the digits of the power of ten. -/
  power : Option (Bool × List Nat)
  /-- Whether a point or a power was written. -/
  isFraction : Bool
  deriving DecidableEq, Repr

namespace Numeral

def greatest : Nat := UInt64.size - 1

/-- The greatest power of ten that is looked at. -/
def greatestPower : Nat := 2147483647

def gatherWhole (digits : List Nat) : Nat × Nat :=
  digits.foldl
    (fun (significand, dropped) digit =>
      if 0 < dropped then (significand, dropped + 1)
      else if greatest < significand * 10 + digit then (significand, 1)
      else (significand * 10 + digit, 0))
    (0, 0)

/-- Digits after the point are taken in until one does not fit; the number of those taken in. -/
def gatherFraction (significand : Nat) : List Nat → Nat × Nat
  | [] => (significand, 0)
  | digit :: rest =>
    if greatest < significand * 10 + digit then (significand, 0)
    else
      let (value, taken) := gatherFraction (significand * 10 + digit) rest
      (value, taken + 1)

def tenTo (n : Nat) : Float := Float.ofScientific 1 false n

/-- A fraction times a power of ten, none when the result is not finite. -/
def scale (f : Float) (power : Int) : Option Float :=
  if power.natAbs ≤ 308 then
    if 0 ≤ power then
      let product := f * tenTo power.toNat
      if product.isInf then none else some product
    else some (f / tenTo power.natAbs)
  else if f == 0 then some f
  else if 0 ≤ power then none
  else scale (f / tenTo 308) (power + 308)
termination_by power.natAbs
decreasing_by omega

def toFraction? (numeral : Numeral) : Option Float :=
  let (whole, dropped) := gatherWhole numeral.whole
  let (significand, taken) := gatherFraction whole numeral.fraction
  let start : Int := Int.ofNat dropped - Int.ofNat taken
  let magnitude :=
    match numeral.power with
    | none => scale (UInt64.ofNat significand).toFloat start
    | some (down, digits) =>
      let power := Text.ofDigits 10 digits
      if greatestPower < power then
        if significand ≠ 0 ∧ down = false then none else some 0
      else
        scale (UInt64.ofNat significand).toFloat
          (if down then start - Int.ofNat power else start + Int.ofNat power)
  magnitude.map fun f => if numeral.negative then -f else f

/-- The value of a numeral, none when it is beyond every finite number. -/
def value? (numeral : Numeral) : Option Number :=
  let n := Text.ofDigits 10 numeral.whole
  if numeral.isFraction = false ∧ numeral.negative = false ∧ n ≤ greatest then some (.whole n)
  else if numeral.isFraction = false ∧ numeral.negative = true ∧ 0 < n ∧ n ≤ UInt64.size / 2 then
    some (.negative (-(Int.ofNat n)))
  else numeral.toFraction?.map fun f => .fraction f.toBits

end Numeral

end NamespaceLifecycle.Json
