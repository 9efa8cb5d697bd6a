import NamespaceLifecycle.Text.Basic

/-!
# Shortest decimals of binary fractions

A number of binary64 format is a significand times a power of two, and it stands for every real
number that rounds to it. Its decimal is the one with the fewest digits among those, and the
nearest to the number where several have as few. Both are found by exact arithmetic: on the grid
of each length from one digit to seventeen only the two neighbours of the number can lie in the
interval, and the first grid with a hit wins.
-/

namespace NamespaceLifecycle.Decimal

/-- The parts of a finite number: sign, significand and the exponent of two. -/
structure Binary where
  negative : Bool
  significand : Nat
  exponent : Int
  /-- The number below is nearer than the number above: the significand is the least of its row. -/
  narrowBelow : Bool
  deriving DecidableEq, Repr

/-- The bit above the fraction, which all rows but the lowest have without holding it: two to the
52nd. -/
def hidden : Nat := 4503599627370496

/-- The parts of a number given by its bits; none for infinities and for what is no number. -/
def Binary.ofBits? (bits : UInt64) : Option Binary :=
  let n := bits.toNat
  let row := n / hidden % 2048
  let fraction := n % hidden
  let negative := decide (2048 * hidden ≤ n)
  if row = 2047 then none
  else if row = 0 then some ⟨negative, fraction, -1074, false⟩
  else some ⟨negative, hidden + fraction, Int.ofNat row - 1075, fraction == 0 && decide (1 < row)⟩

/-- A decimal: its digits as one number, and the power of ten of the last digit. -/
structure Scientific where
  digits : Nat
  exponent : Int
  deriving DecidableEq, Repr

/-- The two whole numbers that bring a multiple of a power of ten and one of a quarter of a power
of two to a common unit. -/
structure Units where
  ten : Nat
  quarter : Nat

def Units.of (q k : Int) : Units :=
  ⟨Nat.pow 10 k.toNat * Nat.pow 2 (2 - q).toNat, Nat.pow 2 (q - 2).toNat * Nat.pow 10 (-k).toNat⟩

/-- Four times the significand: the number itself in quarters of its unit. -/
def Binary.quarters (b : Binary) : Nat := 4 * b.significand

/-- Whether a multiple of ten's power rounds to the number. Ends count for even significands. -/
def Binary.covers (b : Binary) (u : Units) (multiple : Nat) : Bool :=
  let point := multiple * u.ten
  let low := (b.quarters - if b.narrowBelow then 1 else 2) * u.quarter
  let high := (b.quarters + 2) * u.quarter
  if b.significand % 2 = 0 then decide (low ≤ point ∧ point ≤ high)
  else decide (low < point ∧ point < high)

/-- The nearest hit on the grid of `10 ^ k`; of two at the same distance the even one. -/
def Binary.onGrid? (b : Binary) (k : Int) : Option Nat :=
  let u := Units.of b.exponent k
  let value := b.quarters * u.quarter
  let below := value / u.ten
  let above := below + 1
  match b.covers u below, b.covers u above with
  | true, true =>
    let down := value - below * u.ten
    let up := above * u.ten - value
    if down < up ∨ (down = up ∧ below % 2 = 0) then some below else some above
  | true, false => some below
  | false, true => some above
  | false, false => none

/-- The power of ten of the first digit: the greatest that is no more than the number. -/
def Binary.magnitude (b : Binary) : Int :=
  let fits (k : Int) : Bool :=
    let u := Units.of b.exponent k
    decide (u.ten ≤ b.quarters * u.quarter)
  (((List.range 633).map fun i => (308 : Int) - Int.ofNat i).find? fits).getD (-324)

def Scientific.trim (fuel : Nat) (s : Scientific) : Scientific :=
  match fuel with
  | 0 => s
  | fuel + 1 =>
    if 0 < s.digits ∧ s.digits % 10 = 0 then Scientific.trim fuel ⟨s.digits / 10, s.exponent + 1⟩
    else s

def Binary.shortest (b : Binary) : Scientific :=
  let top := b.magnitude
  let hit := (List.range 17).findSome? fun (i : Nat) =>
    let k := top - Int.ofNat i
    (b.onGrid? k).map fun digits => Scientific.mk digits k
  (hit.getD ⟨0, 0⟩).trim 20

/-- Where a decimal is written out in full, and how it is written elsewhere. -/
structure Format where
  /-- The least power of ten of a first digit that is written out. -/
  leastPlain : Int
  /-- The greatest. -/
  greatestPlain : Int

/-- A decimal in full, always with a point. -/
def plain (digits : String) (exponent : Int) : String :=
  let count := Int.ofNat digits.length
  if 0 ≤ exponent then digits ++ String.ofList (List.replicate exponent.toNat '0') ++ ".0"
  else if 0 < count + exponent then
    let whole := (count + exponent).toNat
    String.ofList (digits.toList.take whole) ++ "." ++ String.ofList (digits.toList.drop whole)
  else "0." ++ String.ofList (List.replicate (-(count + exponent)).toNat '0') ++ digits

/-- A decimal with one digit before the point and a signed power of ten after it. -/
def withPower (digits : String) (top : Int) : String :=
  let tail := digits.toList.drop 1
  String.ofList (digits.toList.take 1) ++
    (if tail.isEmpty then "" else "." ++ String.ofList tail) ++
    "e" ++ (if top < 0 then "-" else "+") ++ toString top.natAbs

def render (format : Format) (b : Binary) : String :=
  let sign := if b.negative then "-" else ""
  if b.significand = 0 then sign ++ "0.0"
  else
    let s := b.shortest
    let digits := toString s.digits
    let top := s.exponent + Int.ofNat digits.length - 1
    if format.leastPlain ≤ top ∧ top ≤ format.greatestPlain then sign ++ plain digits s.exponent
    else sign ++ withPower digits top

end NamespaceLifecycle.Decimal
