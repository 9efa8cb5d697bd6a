import NamespaceLifecycle.Json.Decode
import NamespaceLifecycle.Proofs.Json.Record
import NamespaceLifecycle.Proofs.Json.Scalar

/-!
# The spread layout is read again

A document whose numbers are whole is read from its spread layout as it was printed. Binary
fractions are left out, since a fraction is read only near what was written. The space of the layout
goes unnoticed, and what follows a value always begins with a comma or a new line, so that no
numeral runs into it.
-/

namespace NamespaceLifecycle

/-- A whole number that fits into 64 bits of its sign. -/
def Number.IsIntegral : Number → Prop
  | .whole n => n < UInt64.size
  | .negative n => n < 0 ∧ -n ≤ (UInt64.size / 2 : Nat)
  | .fraction _ => False

namespace Number

/-- The two forms of a whole number of 64 bits. -/
theorem IsIntegral.cases {value : Number} (h : value.IsIntegral) :
    (∃ n < UInt64.size, value = .whole n) ∨
      ∃ n : Nat, 0 < n ∧ n ≤ UInt64.size / 2 ∧ value = .negative (-(n : Int)) := by
  cases value with
  | whole n => exact .inl ⟨n, h, rfl⟩
  | negative n =>
    obtain ⟨hneg, hlow⟩ := h
    refine .inr ⟨n.natAbs, by omega, by omega, ?_⟩
    rw [Int.ofNat_natAbs_of_nonpos (Int.le_of_lt hneg), Int.neg_neg]
  | fraction bits => exact h.elim

theorem toList_toText_whole (n : Nat) : (whole n).toText.toList = Nat.toDigits 10 n :=
  Nat.toList_repr

theorem toList_toText_negative {n : Nat} (h : 0 < n) :
    (negative (-(n : Int))).toText.toList = '-' :: Nat.toDigits 10 n := by
  obtain ⟨m, rfl⟩ := Nat.exists_eq_add_of_le' h
  change ("-" ++ (m + 1).repr).toList = _
  rw [String.toList_append, Nat.toList_repr]
  rfl

end Number

namespace Json

mutual

def IsIntegral : Json → Prop
  | .number value => value.IsIntegral
  | .array items => AreIntegral items
  | .object members => HasIntegral members
  | _ => True

def AreIntegral : List Json → Prop
  | [] => True
  | item :: rest => IsIntegral item ∧ AreIntegral rest

def HasIntegral : List (String × Json) → Prop
  | [] => True
  | (_, value) :: rest => IsIntegral value ∧ HasIntegral rest

end

theorem areIntegral_iff {items : List Json} :
    AreIntegral items ↔ ∀ item ∈ items, IsIntegral item := by
  induction items with
  | nil => simp [AreIntegral]
  | cons item items ih => rw [AreIntegral, ih, List.forall_mem_cons]

theorem hasIntegral_append {first second : List (String × Json)} (hfirst : HasIntegral first)
    (hsecond : HasIntegral second) : HasIntegral (first ++ second) := by
  induction first with
  | nil => exact hsecond
  | cons member first ih => exact ⟨hfirst.1, ih hfirst.2⟩

/-! ## Space -/

theorem skipSpace_cons {c : Char} (h : isSpace c = false) (rest : List Char) :
    skipSpace (c :: rest) = c :: rest :=
  List.dropWhile_cons_of_neg (by simp [h])

theorem skipSpace_space_cons {c : Char} (h : isSpace c = true) (rest : List Char) :
    skipSpace (c :: rest) = skipSpace rest :=
  List.dropWhile_cons_of_pos h

theorem skipSpace_newLine (level : Nat) (rest : List Char) :
    skipSpace (newLine level ++ rest) = skipSpace rest := by
  rw [newLine, List.cons_append, skipSpace_space_cons (by decide)]
  induction 2 * level with
  | zero => rfl
  | succ n ih => rw [List.replicate_succ, List.cons_append, skipSpace_space_cons (by decide), ih]

theorem readValue_eq_of_skipSpace {chars other : List Char} (h : skipSpace chars = skipSpace other)
    (fuel : Nat) : readValue fuel chars = readValue fuel other := by
  cases fuel with
  | zero => rfl
  | succ fuel => rw [readValue, readValue, h]

theorem endsNumeral_cons {c : Char} (rest : List Char)
    (h : c.isDigit = false ∧ c ≠ '.' ∧ c ≠ 'e' ∧ c ≠ 'E') : EndsNumeral (c :: rest) := by
  intro d hd
  cases hd
  exact h

theorem endsNumeral_newLine (level : Nat) (rest : List Char) :
    EndsNumeral (newLine level ++ rest) :=
  endsNumeral_cons _ (by decide)

/-! ## Numbers -/

/-- A character that is a digit is none of the others. -/
theorem ne_of_isDigit {c d : Char} (h : c.isDigit = true) (hd : d.isDigit = false) : c ≠ d := by
  rintro rfl
  exact Bool.false_ne_true (hd.symm.trans h)

theorem isSpace_of_isDigit {c : Char} (h : c.isDigit = true) : isSpace c = false := by
  have hblank : c ≠ ' ' := ne_of_isDigit h (by decide)
  have hline : c ≠ '\n' := ne_of_isDigit h (by decide)
  have htab : c ≠ '\t' := ne_of_isDigit h (by decide)
  have hreturn : c ≠ '\r' := ne_of_isDigit h (by decide)
  simp [isSpace, hblank, hline, htab, hreturn]

/-- What begins with a digit is read as a numeral without sign. -/
theorem readValue_of_isDigit {c : Char} (h : c.isDigit = true) (fuel : Nat) (rest : List Char) :
    readValue (fuel + 1) (c :: rest) = readNumber false (c :: rest) := by
  rw [readValue, skipSpace_cons (isSpace_of_isDigit h)]
  split
  · rename_i hnil
    cases hnil
  case h_9 first others _ _ _ _ _ _ _ hchars =>
    obtain ⟨rfl, rfl⟩ := List.cons.inj hchars
    rw [if_pos h]
  all_goals
    rename_i hchars
    exact absurd (List.cons.inj hchars).1 (ne_of_isDigit h (by decide))

theorem readValue_number {value : Number} (h : value.IsIntegral) (fuel : Nat) {rest : List Char}
    (hrest : EndsNumeral rest) : readValue (fuel + 1) (value.toText.toList ++ rest) =
      (.number (some value), some rest) := by
  rcases h.cases with ⟨n, hn, rfl⟩ | ⟨n, hpos, hn, rfl⟩
  · obtain ⟨c, chars, hdigits, hc⟩ := exists_cons_toDigits n
    rw [Number.toList_toText_whole, hdigits, List.cons_append, readValue_of_isDigit hc,
      ← List.cons_append, ← hdigits, readNumber_whole hn hrest]
  · rw [Number.toList_toText_negative hpos, List.cons_append, readValue,
      skipSpace_cons (by decide)]
    exact readNumber_negative hpos hn hrest

/-! ## Items -/

/-- A text that begins as values do, without space. -/
def BeginsValue (chars : List Char) : Prop :=
  ∃ c rest, chars = c :: rest ∧ isSpace c = false ∧ c ≠ ']'

variable {fuel : Nat} {chars rest : List Char}

theorem readItem_of_readValue {item : Draft} (h : readValue fuel chars = (item, some rest)) :
    readItem (fuel + 1) chars = .cons item (readMoreItems fuel rest) := by
  rw [readItem, h]

theorem readItems_of_readValue (level : Nat) {item : Draft} (hbegins : BeginsValue chars)
    (h : readValue fuel chars = (item, some rest)) :
    readItems (fuel + 2) (newLine level ++ chars) = .cons item (readMoreItems fuel rest) := by
  obtain ⟨c, others, rfl, hspace, hc⟩ := hbegins
  rw [readItems, skipSpace_newLine, skipSpace_cons hspace, ← readItem_of_readValue h]
  split
  · rename_i hnil
    cases hnil
  · rename_i hclosed
    exact absurd (List.cons.inj hclosed).1 hc
  · rfl

theorem readMoreItems_of_readValue (level : Nat) {item : Draft} (hbegins : BeginsValue chars)
    (h : readValue fuel chars = (item, some rest)) :
    readMoreItems (fuel + 2) (',' :: newLine level ++ chars) =
      .cons item (readMoreItems fuel rest) := by
  obtain ⟨c, others, rfl, hspace, hc⟩ := hbegins
  rw [readMoreItems, List.cons_append, skipSpace_cons (by decide), ← readItem_of_readValue h]
  simp only [skipSpace_newLine, skipSpace_cons hspace]
  split
  · rename_i hnil
    cases hnil
  · rename_i hclosed
    exact absurd (List.cons.inj hclosed).1 hc
  · rfl

theorem readMoreItems_closed (level : Nat) :
    readMoreItems (fuel + 1) (newLine level ++ ']' :: rest) = ([], .closed, some rest) := by
  simp only [readMoreItems, skipSpace_newLine, skipSpace_cons (c := ']') (by decide)]

/-! ## Members -/

theorem readMember_of_readValue {key : String} {value : Draft}
    (h : readValue fuel chars = (value, some rest)) :
    readMember (fuel + 1) (key.toList.flatMap escapeChar ++ '"' :: ':' :: ' ' :: chars) =
      .cons (some key, value) (readMoreMembers fuel rest) := by
  have hvalue : readValue fuel (' ' :: chars) = (value, some rest) :=
    (readValue_eq_of_skipSpace (skipSpace_space_cons (by decide) chars) fuel).trans h
  simp only [readMember, readQuoted_escaped, skipSpace_cons (c := ':') (by decide), hvalue]

theorem readMembers_of_readValue (level : Nat) (key : String) {value : Draft}
    (h : readValue fuel chars = (value, some rest)) :
    readMembers (fuel + 2) (newLine level ++ (quoteChars key ++ ':' :: ' ' :: chars)) =
      .cons (some key, value) (readMoreMembers fuel rest) := by
  rw [readMembers, skipSpace_newLine, quoteChars, List.cons_append, skipSpace_cons (by decide),
    List.append_assoc, List.singleton_append]
  exact readMember_of_readValue h

theorem readMoreMembers_of_readValue (level : Nat) (key : String) {value : Draft}
    (h : readValue fuel chars = (value, some rest)) :
    readMoreMembers (fuel + 2)
        (',' :: (newLine level ++ (quoteChars key ++ ':' :: ' ' :: chars))) =
      .cons (some key, value) (readMoreMembers fuel rest) := by
  rw [readMoreMembers, skipSpace_cons (by decide)]
  simp only [skipSpace_newLine, quoteChars, List.cons_append, List.append_assoc,
    List.nil_append, skipSpace_cons (c := '"') (by decide)]
  exact readMember_of_readValue h

theorem readMoreMembers_closed (level : Nat) :
    readMoreMembers (fuel + 1) (newLine level ++ '\x7d' :: rest) = ([], .closed, some rest) := by
  simp only [readMoreMembers, skipSpace_newLine, skipSpace_cons (c := '\x7d') (by decide)]

/-! ## Documents -/

theorem beginsValue_number {value : Number} (h : value.IsIntegral) (rest : List Char) :
    BeginsValue (value.toText.toList ++ rest) := by
  rcases h.cases with ⟨n, -, rfl⟩ | ⟨n, hpos, -, rfl⟩
  · obtain ⟨c, chars, hdigits, hc⟩ := exists_cons_toDigits n
    rw [Number.toList_toText_whole, hdigits]
    exact ⟨c, _, rfl, isSpace_of_isDigit hc, ne_of_isDigit hc (by decide)⟩
  · rw [Number.toList_toText_negative hpos]
    exact ⟨'-', _, rfl, by decide, by decide⟩

theorem beginsValue_spreadChars {value : Json} (h : IsIntegral value) (level : Nat)
    (rest : List Char) : BeginsValue (spreadChars level value ++ rest) := by
  cases value with
  | null => exact ⟨'n', _, rfl, by decide, by decide⟩
  | bool value => cases value <;> exact ⟨_, _, rfl, by decide, by decide⟩
  | number value => exact beginsValue_number h rest
  | text value => exact ⟨'"', _, rfl, by decide, by decide⟩
  | array items => cases items <;> exact ⟨'[', _, rfl, by decide, by decide⟩
  | object members => cases members <;> exact ⟨'\x7b', _, rfl, by decide, by decide⟩

theorem endsNumeral_spreadItems (level outer : Nat) (items : List Json) (rest : List Char) :
    EndsNumeral (spreadItems level items ++ (newLine outer ++ rest)) := by
  cases items with
  | nil => exact endsNumeral_newLine outer rest
  | cons item items => exact endsNumeral_cons _ (by decide)

theorem endsNumeral_spreadMembers (level outer : Nat) (members : List (String × Json))
    (rest : List Char) : EndsNumeral (spreadMembers level members ++ (newLine outer ++ rest)) := by
  cases members with
  | nil => exact endsNumeral_newLine outer rest
  | cons member members => exact endsNumeral_cons _ (by decide)

mutual

/-- Every document without fractions is read from its spread layout, wherever it stands. -/
theorem readValue_spreadChars : ∀ (value : Json) (level fuel : Nat) (rest : List Char),
    IsIntegral value → EndsNumeral rest → 4 * (spreadChars level value).length ≤ fuel →
      readValue (fuel + 1) (spreadChars level value ++ rest) =
        (value.toDraft .closed, some rest)
  | .null, _, _, _, _, _, _ => rfl
  | .bool true, _, _, _, _, _, _ => rfl
  | .bool false, _, _, _, _, _, _ => rfl
  | .number _, _, fuel, _, hvalue, hrest, _ => readValue_number hvalue fuel hrest
  | .text value, _, fuel, rest, _, _, _ => by
    rw [spreadChars, quoteChars, List.cons_append, List.append_assoc, List.singleton_append,
      readValue, skipSpace_cons (by decide)]
    simp only [readQuoted_escaped, toDraft]
  | .array [], level, fuel, rest, _, _, hfuel => by
    rw [spreadChars] at hfuel
    obtain ⟨fuel, rfl⟩ := Nat.exists_eq_add_of_le' hfuel
    rfl
  | .array (item :: items), level, fuel, rest, hvalue, _, hfuel => by
    simp only [spreadChars, List.length_cons, List.length_append] at hfuel
    obtain ⟨fuel, rfl⟩ : ∃ k, fuel = k + 3 := Nat.exists_eq_add_of_le' (by omega)
    have hitem := readValue_spreadChars item (level + 1) fuel
      (spreadItems (level + 1) items ++ (newLine level ++ ']' :: rest)) hvalue.1
      (endsNumeral_spreadItems _ _ _ _) (by omega)
    have hitems := readMoreItems_spreadItems items (level + 1) level fuel rest hvalue.2 (by omega)
    have hrow := readItems_of_readValue (level + 1)
      (beginsValue_spreadChars hvalue.1 _ _) hitem
    rw [hitems] at hrow
    simp only [spreadChars, List.cons_append, List.append_assoc, List.nil_append]
    rw [readValue, skipSpace_cons (by decide)]
    simp only [hrow, Row.cons, toDraft, toDrafts]
  | .object [], level, fuel, rest, _, _, hfuel => by
    rw [spreadChars] at hfuel
    obtain ⟨fuel, rfl⟩ := Nat.exists_eq_add_of_le' hfuel
    rfl
  | .object ((key, value) :: members), level, fuel, rest, hvalue, _, hfuel => by
    simp only [spreadChars, List.length_cons, List.length_append] at hfuel
    obtain ⟨fuel, rfl⟩ : ∃ k, fuel = k + 3 := Nat.exists_eq_add_of_le' (by omega)
    have hmember := readValue_spreadChars value (level + 1) fuel
      (spreadMembers (level + 1) members ++ (newLine level ++ '\x7d' :: rest)) hvalue.1
      (endsNumeral_spreadMembers _ _ _ _) (by omega)
    have hmembers := readMoreMembers_spreadMembers members (level + 1) level fuel rest hvalue.2
      (by omega)
    have hrow := readMembers_of_readValue (level + 1) key hmember
    rw [hmembers] at hrow
    simp only [spreadChars, List.cons_append, List.append_assoc, List.nil_append]
    rw [readValue, skipSpace_cons (by decide)]
    simp only [hrow, Row.cons, toDraft, toDraftMembers]

theorem readMoreItems_spreadItems : ∀ (items : List Json) (level outer fuel : Nat)
    (rest : List Char), AreIntegral items → 4 * (spreadItems level items).length ≤ fuel →
      readMoreItems (fuel + 1) (spreadItems level items ++ (newLine outer ++ ']' :: rest)) =
        (toDrafts .closed items, .closed, some rest)
  | [], _, outer, _, _, _, _ => readMoreItems_closed outer
  | item :: items, level, outer, fuel, rest, hitems, hfuel => by
    simp only [spreadItems, List.length_cons, List.length_append] at hfuel
    obtain ⟨fuel, rfl⟩ : ∃ k, fuel = k + 2 := Nat.exists_eq_add_of_le' (by omega)
    have hitem := readValue_spreadChars item level fuel
      (spreadItems level items ++ (newLine outer ++ ']' :: rest)) hitems.1
      (endsNumeral_spreadItems _ _ _ _) (by omega)
    have hrest := readMoreItems_spreadItems items level outer fuel rest hitems.2 (by omega)
    have hrow := readMoreItems_of_readValue level
      (beginsValue_spreadChars hitems.1 _ _) hitem
    rw [hrest] at hrow
    simp only [spreadItems, List.cons_append, List.append_assoc]
    exact hrow

theorem readMoreMembers_spreadMembers : ∀ (members : List (String × Json)) (level outer fuel : Nat)
    (rest : List Char), HasIntegral members → 4 * (spreadMembers level members).length ≤ fuel →
      readMoreMembers (fuel + 1)
          (spreadMembers level members ++ (newLine outer ++ '\x7d' :: rest)) =
        (toDraftMembers .closed members, .closed, some rest)
  | [], _, outer, _, _, _, _ => readMoreMembers_closed outer
  | (key, value) :: members, level, outer, fuel, rest, hmembers, hfuel => by
    simp only [spreadMembers, List.length_cons, List.length_append] at hfuel
    obtain ⟨fuel, rfl⟩ : ∃ k, fuel = k + 2 := Nat.exists_eq_add_of_le' (by omega)
    have hmember := readValue_spreadChars value level fuel
      (spreadMembers level members ++ (newLine outer ++ '\x7d' :: rest)) hmembers.1
      (endsNumeral_spreadMembers _ _ _ _) (by omega)
    have hrest := readMoreMembers_spreadMembers members level outer fuel rest hmembers.2 (by omega)
    have hrow := readMoreMembers_of_readValue level key hmember
    rw [hrest] at hrow
    simp only [spreadMembers, List.cons_append, List.append_assoc, List.nil_append]
    exact hrow

end

/-! ## Whole texts -/

/-- Reading the spread layout of a document gives its draft, with nothing behind it. -/
theorem ofText_spread {value : Json} (h : IsIntegral value) :
    Sheet.ofText value.spread = ⟨value.toDraft .closed, false⟩ := by
  have hread := readValue_spreadChars value 0 (4 * (spreadChars 0 value).length + 3) [] h
    (fun c hc ↦ by cases hc) (by omega)
  rw [List.append_nil] at hread
  simp only [Sheet.ofText, spread, String.toList_ofList, hread]
  rfl

/-- What is read from the spread layout of a document is read from the document. -/
theorem decodeText_spread {α : Type} (d : Decoder α) {value : Json} (h : IsIntegral value) :
    decodeText d value.spread = d (value.toDraft .closed) := by
  rw [decodeText, ofText_spread h]
  exact bind_pure _

end Json

end NamespaceLifecycle
