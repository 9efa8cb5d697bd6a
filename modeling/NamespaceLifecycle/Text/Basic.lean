/-!
# Separators and digits

Texts as lists of characters. Cut at every separator, a text has parts that hold none, one more than
there are separators, and joining the parts again gives back the text. Numerals stand with their
most significant digit first; base sixteen is written in lower case in messages and with capitals in
escapes of addresses.
-/

namespace NamespaceLifecycle.Text

/-! ## Separators -/

/-- The parts between the characters that `isSeparator` accepts. -/
def splitWhere (isSeparator : Char → Bool) : List Char → List (List Char)
  | [] => [[]]
  | c :: rest =>
    if isSeparator c then [] :: splitWhere isSeparator rest
    else
      match splitWhere isSeparator rest with
      | [] => [[c]]
      | part :: parts => (c :: part) :: parts

def splitAt (separator : Char) (chars : List Char) : List (List Char) :=
  splitWhere (· == separator) chars

/-- The text without the characters at its end that `drops` accepts. -/
def dropWhileEnd (drops : Char → Bool) (chars : List Char) : List Char :=
  (chars.reverse.dropWhile drops).reverse

def withoutTrailing (c : Char) (text : String) : String :=
  String.ofList (dropWhileEnd (· == c) text.toList)

theorem splitWhere_ne_nil (isSeparator : Char → Bool) (chars : List Char) :
    splitWhere isSeparator chars ≠ [] := by
  cases chars with
  | nil => simp [splitWhere]
  | cons c rest =>
    rw [splitWhere]
    split
    · simp
    · split <;> simp

theorem not_isSeparator_of_mem_splitWhere {isSeparator : Char → Bool} {chars part : List Char}
    (hpart : part ∈ splitWhere isSeparator chars) (c : Char) (hc : c ∈ part) :
    isSeparator c = false := by
  induction chars generalizing part with
  | nil => simp_all [splitWhere]
  | cons d rest ih =>
    rw [splitWhere] at hpart
    split at hpart
    · rcases List.mem_cons.1 hpart with rfl | h
      · simp at hc
      · exact ih h hc
    · rename_i hd
      split at hpart
      · rename_i h
        exact absurd h (splitWhere_ne_nil _ _)
      · rename_i first others h
        rcases List.mem_cons.1 hpart with rfl | h'
        · rcases List.mem_cons.1 hc with rfl | hc'
          · simpa using hd
          · exact ih (by simp [h]) hc'
        · exact ih (by simp [h, h']) hc

/-! ## Digits -/

def decimalDigit? (c : Char) : Option Nat :=
  if '0' ≤ c ∧ c ≤ '9' then some (c.toNat - '0'.toNat) else none

/-- The value of a digit in base sixteen, in either case. -/
def hexDigit? (c : Char) : Option Nat :=
  if '0' ≤ c ∧ c ≤ '9' then some (c.toNat - '0'.toNat)
  else if 'a' ≤ c ∧ c ≤ 'f' then some (c.toNat - 'a'.toNat + 10)
  else if 'A' ≤ c ∧ c ≤ 'F' then some (c.toNat - 'A'.toNat + 10)
  else none

def ofDigits (base : Nat) (digits : List Nat) : Nat :=
  digits.foldl (fun value digit => value * base + digit) 0

/-- A number in lower-case base sixteen without leading zeros. -/
def lowerHex (n : Nat) : String :=
  String.ofList (Nat.toDigits 16 n)

def upperHexDigit (n : Nat) : Char :=
  if n < 10 then Char.ofNat ('0'.toNat + n) else Char.ofNat ('A'.toNat + (n - 10))

/-- A numeral of at least `width` digits, filled up with zeros on the left. -/
def padded (width n : Nat) : String :=
  let digits := toString n
  String.ofList (List.replicate (width - digits.length) '0') ++ digits

/-- The digits after a point: `width` of them, less the zeros at the end. -/
def fraction (width n : Nat) : String :=
  String.ofList ((padded width n).toList.reverse.dropWhile (· == '0')).reverse

end NamespaceLifecycle.Text
