import Mathlib.Tactic.SplitIfs
import NamespaceLifecycle.Json.Draft
import NamespaceLifecycle.Json.Printer

/-!
# Texts and numerals that are read again

What is printed for a text or for a whole number of 64 bits is read as that text or number. A text
is treated character by character: whatever stands for a character inside quotes is one piece, and
the piece makes that character again. A numeral needs something behind it that does not belong to
it, so the lemmas on numerals speak of what follows.
-/

namespace NamespaceLifecycle.Json

/-! ## Texts -/

/-- A piece that makes one character, whatever pieces come after it. -/
def Piece.Makes (piece : Piece) (c : Char) : Prop :=
  ∀ pieces, assemble? (piece :: pieces) = (assemble? pieces).map (c :: ·)

theorem Piece.makes_char (c : Char) : (Piece.char c).Makes c := fun _ ↦ rfl

/-- A unit below those of pairs makes its character alone. -/
theorem Piece.makes_unit {c : Char} (h : c.toNat < 0xd800) : (Piece.unit c.toNat).Makes c := by
  have hhigh : isHighUnit c.toNat = false := by
    rw [isHighUnit, decide_eq_false_iff_not]
    omega
  have hlow : isLowUnit c.toNat = false := by
    rw [isLowUnit, decide_eq_false_iff_not]
    omega
  intro pieces
  cases pieces with
  | nil => simp [assemble?, hhigh, hlow, Char.ofNat_toNat]
  | cons piece pieces =>
    cases piece with
    | char d => simp [assemble?, hhigh, hlow, Char.ofNat_toNat]
    | unit m => simp [assemble?, hhigh, hlow, Char.ofNat_toNat]

/-- The four digits that are written for a control character. -/
theorem unitOf?_control : ∀ n < 0x20,
    unitOf? '0' '0' (Nat.digitChar (n / 16)) (Nat.digitChar (n % 16)) = some n := by
  decide

/-- What stands for a character inside quotes is one piece, and the piece makes the character. -/
theorem readPieces_escapeChar (c : Char) : ∃ piece : Piece, piece.Makes c ∧ ∀ rest,
    readPieces (escapeChar c ++ rest) = (piece :: (readPieces rest).1, (readPieces rest).2) := by
  unfold escapeChar
  split_ifs with hquote hback _ _ _ _ _ hcontrol
  all_goals try (subst c; exact ⟨_, Piece.makes_char _, fun _ ↦ rfl⟩)
  · refine ⟨_, Piece.makes_unit (by omega), fun rest ↦ ?_⟩
    simp only [List.cons_append, List.nil_append, readPieces, unitOf?_control _ hcontrol]
  · refine ⟨_, Piece.makes_char c, fun rest ↦ ?_⟩
    rw [List.singleton_append, readPieces.eq_def]
    simp [hback, hcontrol]

/-- The characters between quotes are read again. -/
theorem readPieces_escaped (chars rest : List Char) : ∃ pieces,
    readPieces (chars.flatMap escapeChar ++ '"' :: rest) = (pieces, .ok rest) ∧
      assemble? pieces = some chars := by
  induction chars with
  | nil => exact ⟨[], rfl, rfl⟩
  | cons c chars ih =>
    obtain ⟨pieces, hread, hmade⟩ := ih
    obtain ⟨piece, hpiece, hfirst⟩ := readPieces_escapeChar c
    refine ⟨piece :: pieces, ?_, ?_⟩
    · rw [List.flatMap_cons, List.append_assoc, hfirst, hread]
    · rw [hpiece, hmade, Option.map_some]

/-- A text between quotes is read again, here after its opening quote. -/
theorem readQuoted_escaped (text : String) (rest : List Char) :
    readQuoted (text.toList.flatMap escapeChar ++ '"' :: rest) = .ok (some text, rest) := by
  obtain ⟨pieces, hread, hmade⟩ := readPieces_escaped text.toList rest
  simp only [readQuoted, hread, hmade, Option.map_some, String.ofList_toList]

/-! ## Numerals -/

/-- A text that does not begin with anything that could belong to a numeral before it. -/
def EndsNumeral (rest : List Char) : Prop :=
  ∀ c ∈ rest.head?, c.isDigit = false ∧ c ≠ '.' ∧ c ≠ 'e' ∧ c ≠ 'E'

def digitValue (c : Char) : Nat := c.toNat - '0'.toNat

theorem decimalDigit?_of_isDigit {c : Char} (h : c.isDigit = true) :
    Text.decimalDigit? c = some (digitValue c) := by
  have hrange : '0' ≤ c ∧ c ≤ '9' := by
    simpa [Char.isDigit, Char.le_def] using h
  rw [Text.decimalDigit?, if_pos hrange, digitValue]

theorem decimalDigit?_of_not_isDigit {c : Char} (h : c.isDigit = false) :
    Text.decimalDigit? c = none := by
  have hrange : ¬('0' ≤ c ∧ c ≤ '9') := by
    simpa [Char.isDigit, Char.le_def] using h
  rw [Text.decimalDigit?, if_neg hrange]

theorem readDigits_append {chars rest : List Char} (h : ∀ c ∈ chars, c.isDigit = true)
    (hrest : EndsNumeral rest) : readDigits (chars ++ rest) = (chars.map digitValue, rest) := by
  induction chars with
  | nil =>
    cases rest with
    | nil => rfl
    | cons c rest =>
      rw [List.nil_append, readDigits, decimalDigit?_of_not_isDigit (hrest c rfl).1, List.map_nil]
  | cons c chars ih =>
    rw [List.forall_mem_cons] at h
    rw [List.cons_append, readDigits, decimalDigit?_of_isDigit h.1, ih h.2, List.map_cons]

theorem isDigit_of_mem_toDigits {n : Nat} {c : Char} (h : c ∈ Nat.toDigits 10 n) :
    c.isDigit = true :=
  Nat.isDigit_of_mem_toDigits (by decide) (by decide) h

theorem exists_cons_toDigits (n : Nat) :
    ∃ c rest, Nat.toDigits 10 n = c :: rest ∧ c.isDigit = true := by
  obtain ⟨c, rest, h⟩ := List.exists_cons_of_ne_nil (Nat.toDigits_ne_nil (n := n) (b := 10))
  exact ⟨c, rest, h, isDigit_of_mem_toDigits (h ▸ List.mem_cons_self)⟩

theorem ofDigits_toDigits (n : Nat) :
    Text.ofDigits 10 ((Nat.toDigits 10 n).map digitValue) = n := calc
  Text.ofDigits 10 ((Nat.toDigits 10 n).map digitValue) =
      Nat.ofDigitChars 10 (Nat.toDigits 10 n) 0 := by
    rw [Text.ofDigits, List.foldl_map, Nat.ofDigitChars_eq_foldl]
    simp only [digitValue, Nat.mul_comm]
  _ = n := Nat.ofDigitChars_ten_toDigits

/-- No numeral of more than one digit begins with a zero. -/
theorem toDigits_ne_zero_cons (n : Nat) (second : Char) (rest : List Char) :
    Nat.toDigits 10 n ≠ '0' :: second :: rest := by
  induction n using Nat.strongRecOn generalizing second rest with
  | _ n ih =>
    intro h
    by_cases hlt : n < 10
    · rw [Nat.toDigits_of_lt_base hlt] at h
      exact List.cons_ne_nil _ _ (List.cons.inj h).2.symm
    · have hge : 10 ≤ n := Nat.le_of_not_lt hlt
      rw [Nat.toDigits_of_base_le (by decide) hge] at h
      cases hfront : Nat.toDigits 10 (n / 10) with
      | nil => exact Nat.toDigits_ne_nil hfront
      | cons c front =>
        rw [hfront, List.cons_append, List.cons.injEq] at h
        cases front with
        | nil =>
          -- The digits before the last are a single zero, so the number is below ten.
          have hvalue : Nat.ofDigitChars 10 (Nat.toDigits 10 (n / 10)) 0 = 0 := by
            rw [hfront, h.1]
            rfl
          rw [Nat.ofDigitChars_ten_toDigits] at hvalue
          omega
        | cons d front =>
          exact ih (n / 10) (by omega) d front (hfront.trans (by rw [h.1]))

theorem eq_zero_of_digitValue {c : Char} (hdigit : c.isDigit = true) (h : digitValue c = 0) :
    c = '0' := by
  have hlow : '0'.toNat ≤ c.toNat := by
    simp only [Char.isDigit, Bool.and_eq_true, decide_eq_true_eq] at hdigit
    exact hdigit.1
  apply Char.toNat_inj.1
  exact Nat.le_antisymm (Nat.le_of_sub_eq_zero h) hlow

theorem readFraction_of_endsNumeral {rest : List Char} (h : EndsNumeral rest) :
    readFraction rest = .ok (none, rest) := by
  cases rest with
  | nil => rfl
  | cons c rest =>
    have hpoint : c ≠ '.' := (h c rfl).2.1
    rw [readFraction.eq_def]
    simp [hpoint]

theorem readPower_of_endsNumeral {rest : List Char} (h : EndsNumeral rest) :
    readPower rest = .ok (none, rest) := by
  cases rest with
  | nil => rfl
  | cons c rest =>
    have hletter : ¬(c = 'e' ∨ c = 'E') := not_or.2 (h c rfl).2.2
    simp only [readPower, if_neg hletter]

/-- The numeral of a whole number is read with the digits of that number. -/
theorem readNumeral_toDigits (negative : Bool) (n : Nat) {rest : List Char}
    (hrest : EndsNumeral rest) : readNumeral negative (Nat.toDigits 10 n ++ rest) =
      .ok (⟨negative, (Nat.toDigits 10 n).map digitValue, [], none, false⟩, rest) := by
  rw [readNumeral, readDigits_append (fun c ↦ isDigit_of_mem_toDigits) hrest]
  split
  · rename_i hnil
    exact absurd (List.map_eq_nil_iff.1 (Prod.mk.inj hnil).1) Nat.toDigits_ne_nil
  · rename_i second others after hzero
    obtain ⟨c, chars, hchars, hc, hmore⟩ := List.map_eq_cons_iff.1 (Prod.mk.inj hzero).1
    obtain ⟨d, chars, rfl, -, -⟩ := List.map_eq_cons_iff.1 hmore
    have hfirst : c = '0' :=
      eq_zero_of_digitValue (isDigit_of_mem_toDigits (n := n) (by simp [hchars])) hc
    exact absurd (hchars.trans (by rw [hfirst])) (toDigits_ne_zero_cons n d chars)
  · rename_i whole after _ _ hwhole
    obtain ⟨rfl, rfl⟩ := Prod.mk.inj hwhole
    simp only [readFraction_of_endsNumeral hrest, readPower_of_endsNumeral hrest]
    rfl

/-- The numeral of a number without sign, where it fits into 64 bits. -/
theorem readNumber_whole {n : Nat} (h : n < UInt64.size) {rest : List Char}
    (hrest : EndsNumeral rest) : readNumber false (Nat.toDigits 10 n ++ rest) =
      (.number (some (.whole n)), some rest) := by
  rw [readNumber, readNumeral_toDigits false n hrest]
  simp only [Numeral.value?, ofDigits_toDigits]
  have hfits : n ≤ Numeral.greatest := Nat.le_sub_one_of_lt h
  simp [hfits]

/-- The numeral of a negative number after its sign, where it fits into 64 bits. -/
theorem readNumber_negative {n : Nat} (hpos : 0 < n) (h : n ≤ UInt64.size / 2) {rest : List Char}
    (hrest : EndsNumeral rest) : readNumber true (Nat.toDigits 10 n ++ rest) =
      (.number (some (.negative (-(n : Int)))), some rest) := by
  rw [readNumber, readNumeral_toDigits true n hrest]
  simp only [Numeral.value?, ofDigits_toDigits]
  simp [hpos, h]

end NamespaceLifecycle.Json
