import NamespaceLifecycle.Text.Percent

/-!
# Escapes read back

Reading back undoes escaping whenever no percent sign stands unescaped: every escaped byte comes
back as that byte, and every byte of a character that stands as it is passes through. An escaped
text holds only characters that may stand and the characters of escapes themselves.

Whatever the text, reading back gives the bytes that its characters stand for: the one byte of an
escape, and the bytes of every other character, be it a percent sign that begins no escape.
-/

namespace NamespaceLifecycle.Text

theorem lt_of_isAlphanum {c : Char} (h : c.isAlphanum = true) : c.toNat < 128 := by
  have hlt (last : Char) (hlast : last.toNat < 128) (hle : c.val ≤ last.val) : c.toNat < 128 :=
    Nat.lt_of_le_of_lt (UInt32.le_iff_toNat_le.1 hle) hlast
  rcases Bool.or_eq_true_iff.1 h with halpha | hdigit
  · rcases Bool.or_eq_true_iff.1 halpha with hupper | hlower
    · exact hlt 'Z' (by decide) (of_decide_eq_true hupper).2
    · exact hlt 'z' (by decide) (of_decide_eq_true (Bool.and_eq_true_iff.1 hlower).2)
  · exact hlt '9' (by decide) (of_decide_eq_true (Bool.and_eq_true_iff.1 hdigit).2)

/-- A character of ASCII is one byte. -/
theorem utf8EncodeChar_of_lt {c : Char} (h : c.toNat < 0x80) :
    String.utf8EncodeChar c = [UInt8.ofNat c.toNat] := by
  have hle : c.val.toNat ≤ 127 := Nat.le_of_lt_succ h
  unfold String.utf8EncodeChar
  rw [if_pos hle]
  rfl

/-- Beyond ASCII every byte of a character lies beyond ASCII. -/
theorem le_toNat_of_mem_utf8EncodeChar {c : Char} (h : ¬c.toNat < 0x80) {byte : UInt8}
    (hbyte : byte ∈ String.utf8EncodeChar c) : 0x80 ≤ byte.toNat := by
  have hgt : ¬c.val.toNat ≤ 127 := fun hle ↦ h (Nat.lt_succ_of_le hle)
  unfold String.utf8EncodeChar at hbyte
  simp only [hgt, if_false] at hbyte
  split at hbyte
  · simp only [List.mem_cons, List.not_mem_nil, or_false] at hbyte
    rcases hbyte with rfl | rfl <;> simp only [UInt8.toNat_ofNat'] <;> omega
  · split at hbyte
    · simp only [List.mem_cons, List.not_mem_nil, or_false] at hbyte
      rcases hbyte with rfl | rfl | rfl <;> simp only [UInt8.toNat_ofNat'] <;> omega
    · simp only [List.mem_cons, List.not_mem_nil, or_false] at hbyte
      rcases hbyte with rfl | rfl | rfl | rfl <;> simp only [UInt8.toNat_ofNat'] <;> omega

/-- Only a percent sign has the byte of a percent sign. -/
theorem ne_percent_of_mem_utf8EncodeChar {c : Char} (h : c ≠ '%') {byte : UInt8}
    (hbyte : byte ∈ String.utf8EncodeChar c) : byte ≠ 0x25 := by
  rintro rfl
  by_cases hascii : c.toNat < 0x80
  · rw [utf8EncodeChar_of_lt hascii, List.mem_singleton] at hbyte
    have hnat : (0x25 : UInt8).toNat = (UInt8.ofNat c.toNat).toNat := congrArg UInt8.toNat hbyte
    rw [UInt8.toNat_ofNat', Nat.mod_eq_of_lt (by omega)] at hnat
    exact h (Char.ext (UInt32.toNat_inj.1 hnat.symm))
  · exact absurd (le_toNat_of_mem_utf8EncodeChar hascii hbyte) (by decide)

theorem lt_of_hexDigit? {c : Char} {n : Nat} (h : hexDigit? c = some n) : c.toNat < 0x80 := by
  have hlt (last : Char) (hlast : last.toNat < 0x80) (hle : c ≤ last) : c.toNat < 0x80 :=
    Nat.lt_of_le_of_lt (UInt32.le_iff_toNat_le.1 hle) hlast
  unfold hexDigit? at h
  split at h
  · rename_i hdigit
    exact hlt '9' (by decide) hdigit.2
  · split at h
    · rename_i hsmall
      exact hlt 'f' (by decide) hsmall.2
    · split at h
      · rename_i hcapital
        exact hlt 'F' (by decide) hcapital.2
      · cases h

theorem utf8EncodeChar_upperHexDigit :
    ∀ n < 16, ∃ byte, String.utf8EncodeChar (upperHexDigit n) = [byte] ∧
      Percent.hexByte? byte = some n := by
  intro n hn
  refine ⟨UInt8.ofNat (upperHexDigit n).toNat, ?_, ?_⟩
  · apply utf8EncodeChar_of_lt
    revert n
    decide
  · revert n
    decide

namespace Percent

@[simp] theorem encodeChars_cons (mayStand : Char → Bool) (c : Char) (chars : List Char) :
    encodeChars mayStand (c :: chars) = encodeChar mayStand c ++ encodeChars mayStand chars := rfl

theorem unescape_cons_of_ne {byte : UInt8} (h : byte ≠ 0x25) (rest : List UInt8) :
    unescape (byte :: rest) = byte :: unescape rest := by
  match rest with
  | [] => rfl
  | [_] => rfl
  | _ :: _ :: _ => rw [unescape, if_neg h]

/-- Bytes without a percent sign pass through. -/
theorem unescape_append_of_ne {bytes : List UInt8} (h : ∀ byte ∈ bytes, byte ≠ 0x25)
    (rest : List UInt8) : unescape (bytes ++ rest) = bytes ++ unescape rest := by
  induction bytes with
  | nil => rfl
  | cons byte bytes ih =>
    rw [List.cons_append, unescape_cons_of_ne (h byte List.mem_cons_self),
      ih fun other hother ↦ h other (List.mem_cons_of_mem _ hother), List.cons_append]

/-- Without a percent sign nothing is an escape. -/
theorem decode_of_not_mem {text : String} (h : '%' ∉ text.toList) :
    decode text = Utf8.bytes text := by
  have hbytes : ∀ byte ∈ Utf8.bytes text, byte ≠ 0x25 := by
    intro byte hbyte
    obtain ⟨c, hc, hmem⟩ := List.mem_flatMap.1 hbyte
    exact ne_percent_of_mem_utf8EncodeChar (ne_of_mem_of_not_mem hc h) hmem
  have hdecode := unescape_append_of_ne hbytes []
  rwa [List.append_nil, unescape, List.append_nil] at hdecode

/-- An escaped byte is read back as that byte. -/
theorem unescape_escapeByte (byte : UInt8) (rest : List UInt8) :
    unescape ((escapeByte byte).flatMap String.utf8EncodeChar ++ rest) =
      byte :: unescape rest := by
  have hbyte : byte.toNat < 256 := UInt8.toNat_lt byte
  obtain ⟨high, hhigh, hhighValue⟩ := utf8EncodeChar_upperHexDigit (byte.toNat / 16) (by omega)
  obtain ⟨low, hlow, hlowValue⟩ := utf8EncodeChar_upperHexDigit (byte.toNat % 16) (by omega)
  have hpercent : String.utf8EncodeChar '%' = [0x25] := by decide
  have hvalue : UInt8.ofNat (byte.toNat / 16 * 16 + byte.toNat % 16) = byte := by
    rw [Nat.div_add_mod', UInt8.ofNat_toNat]
  simp only [escapeByte, List.flatMap_cons, List.flatMap_nil, hpercent, hhigh, hlow,
    List.append_nil, List.cons_append, List.nil_append]
  rw [unescape, if_pos rfl, hhighValue, hlowValue]
  simp only [hvalue]

/-- Reading back undoes escaping when no percent sign stands as it is. -/
theorem unescape_encodeChars {mayStand : Char → Bool} {chars : List Char}
    (h : ∀ c ∈ chars, mayStand c = true → c ≠ '%') :
    unescape ((encodeChars mayStand chars).flatMap String.utf8EncodeChar) =
      chars.flatMap String.utf8EncodeChar := by
  induction chars with
  | nil => rfl
  | cons c chars ih =>
    rw [encodeChars_cons, List.flatMap_append, List.flatMap_cons]
    have hrest := ih fun d hd ↦ h d (List.mem_cons_of_mem _ hd)
    unfold encodeChar
    by_cases hstand : mayStand c = true
    · rw [if_pos hstand, List.flatMap_cons, List.flatMap_nil, List.append_nil]
      have hc : c ≠ '%' := h c List.mem_cons_self hstand
      rw [unescape_append_of_ne (fun byte hbyte ↦ ne_percent_of_mem_utf8EncodeChar hc hbyte),
        hrest]
    · rw [if_neg hstand]
      -- Here the induction is on the bytes of the one character.
      generalize String.utf8EncodeChar c = bytes
      induction bytes with
      | nil => exact hrest
      | cons byte bytes ihbytes =>
        rw [List.flatMap_cons, List.flatMap_append, List.append_assoc, unescape_escapeByte,
          ihbytes, List.cons_append]

/-- An escaped text is read back as the bytes of the text. -/
theorem decode_encode {mayStand : Char → Bool} {text : String}
    (h : ∀ c ∈ text.toList, mayStand c = true → c ≠ '%') :
    decode (encode mayStand text) = Utf8.bytes text := by
  unfold decode encode Utf8.bytes
  rw [String.toList_ofList]
  exact unescape_encodeChars h

def isEscapeChar (c : Char) : Bool := "%0123456789ABCDEF".toList.contains c

theorem isEscapeChar_upperHexDigit : ∀ n < 16, isEscapeChar (upperHexDigit n) = true := by
  decide

theorem lt_of_isEscapeChar {c : Char} (h : isEscapeChar c = true) : c.toNat < 0x80 := by
  have hall : ("%0123456789ABCDEF".toList.all fun d ↦ decide (d.toNat < 0x80)) = true := by decide
  exact of_decide_eq_true (List.all_eq_true.1 hall c (List.contains_iff_mem.1 h))

/-- What never needs an escape is a character of ASCII. -/
theorem lt_of_isUnreserved {c : Char} (h : isUnreserved c = true) : c.toNat < 0x80 := by
  simp only [isUnreserved, Bool.or_eq_true, beq_iff_eq] at h
  rcases h with (((h | rfl) | rfl) | rfl) | rfl
  · exact lt_of_isAlphanum h
  all_goals decide

/-- An escaped text holds what may stand of the text, and escapes. -/
theorem mem_encodeChars {mayStand : Char → Bool} {chars : List Char} {c : Char}
    (h : c ∈ encodeChars mayStand chars) :
    (c ∈ chars ∧ mayStand c = true) ∨ isEscapeChar c = true := by
  obtain ⟨d, hd, hc⟩ := List.mem_flatMap.1 h
  unfold encodeChar at hc
  by_cases hstand : mayStand d = true
  · rw [if_pos hstand, List.mem_singleton] at hc
    exact .inl (hc ▸ ⟨hd, hstand⟩)
  · rw [if_neg hstand] at hc
    obtain ⟨byte, -, hbyte⟩ := List.mem_flatMap.1 hc
    have hlt : byte.toNat < 256 := UInt8.toNat_lt byte
    simp only [escapeByte, List.mem_cons, List.not_mem_nil, or_false] at hbyte
    right
    rcases hbyte with rfl | rfl | rfl
    · decide
    · exact isEscapeChar_upperHexDigit _ (by omega)
    · exact isEscapeChar_upperHexDigit _ (by omega)

theorem encodeChars_ne_nil {mayStand : Char → Bool} {chars : List Char} (h : chars ≠ []) :
    encodeChars mayStand chars ≠ [] := by
  cases chars with
  | nil => exact absurd rfl h
  | cons c chars =>
    rw [encodeChars_cons]
    unfold encodeChar
    split
    · exact List.cons_ne_nil _ _
    · cases hbytes : String.utf8EncodeChar c with
      | nil => exact absurd hbytes String.utf8EncodeChar_ne_nil
      | cons byte bytes => exact List.cons_ne_nil _ _

/-- What may stand throughout is its own escaped text. -/
theorem encodeChars_of_forall {mayStand : Char → Bool} {chars : List Char}
    (h : ∀ c ∈ chars, mayStand c = true) : encodeChars mayStand chars = chars := by
  induction chars with
  | nil => rfl
  | cons c chars ih =>
    have hc : encodeChar mayStand c = [c] := if_pos (h c List.mem_cons_self)
    rw [encodeChars_cons, hc, ih fun d hd ↦ h d (List.mem_cons_of_mem _ hd), List.singleton_append]

theorem one_lt_length_encodeChar {mayStand : Char → Bool} {c : Char} (h : ¬mayStand c = true) :
    1 < (encodeChar mayStand c).length := by
  rw [encodeChar, if_neg h]
  cases hbytes : String.utf8EncodeChar c with
  | nil => exact absurd hbytes String.utf8EncodeChar_ne_nil
  | cons byte bytes =>
    simp only [List.flatMap_cons, escapeByte, List.length_append, List.length_cons]
    omega

/-- Escaping shortens nothing. -/
theorem length_le_encodeChars (mayStand : Char → Bool) (chars : List Char) :
    chars.length ≤ (encodeChars mayStand chars).length := by
  induction chars with
  | nil => exact Nat.le_refl 0
  | cons c chars ih =>
    have hc : 1 ≤ (encodeChar mayStand c).length := by
      by_cases hstand : mayStand c = true
      · exact Nat.le_of_eq (by rw [encodeChar, if_pos hstand, List.length_singleton])
      · exact Nat.le_of_lt (one_lt_length_encodeChar hstand)
    rw [encodeChars_cons, List.length_append, List.length_cons]
    omega

/-- Only a text without anything to escape keeps its length. -/
theorem forall_of_length_encodeChars_le {mayStand : Char → Bool} {chars : List Char}
    (h : (encodeChars mayStand chars).length ≤ chars.length) :
    ∀ c ∈ chars, mayStand c = true := by
  induction chars with
  | nil => exact fun c hc ↦ absurd hc List.not_mem_nil
  | cons c chars ih =>
    rw [encodeChars_cons, List.length_append, List.length_cons] at h
    have hrest := length_le_encodeChars mayStand chars
    by_cases hstand : mayStand c = true
    · rw [encodeChar, if_pos hstand, List.length_singleton] at h
      exact List.forall_mem_cons.2 ⟨hstand, ih (by omega)⟩
    · have hc := one_lt_length_encodeChar hstand
      omega

/-! ## What characters stand for -/

theorem hexByte?_ofNat {c : Char} (h : c.toNat < 0x80) :
    hexByte? (UInt8.ofNat c.toNat) = hexDigit? c := by
  rw [hexByte?, UInt8.toNat_ofNat', Nat.mod_eq_of_lt (by omega), Char.ofNat_toNat]

theorem lt_of_hexByte? {byte : UInt8} {n : Nat} (h : hexByte? byte = some n) :
    byte.toNat < 0x80 := by
  have hlt : byte.toNat < 256 := UInt8.toNat_lt byte
  have hvalid : byte.toNat.isValidChar := .inl (by omega)
  have hchar : (Char.ofNat byte.toNat).toNat = byte.toNat := by
    rw [Char.ofNat, dif_pos hvalid]
    rfl
  exact hchar ▸ lt_of_hexDigit? h

/-- A digit of base sixteen is one byte, with the same value. -/
theorem exists_byte_of_hexDigit? {c : Char} {n : Nat} (h : hexDigit? c = some n) :
    ∃ byte, String.utf8EncodeChar c = [byte] ∧ hexByte? byte = some n :=
  ⟨_, utf8EncodeChar_of_lt (lt_of_hexDigit? h), (hexByte?_ofNat (lt_of_hexDigit? h)).trans h⟩

/-- Where the bytes of characters begin with a digit, the characters do. -/
theorem exists_char_of_hexByte? {chars : List Char} {byte : UInt8} {bytes : List UInt8} {n : Nat}
    (hchars : chars.flatMap String.utf8EncodeChar = byte :: bytes) (h : hexByte? byte = some n) :
    ∃ c rest, chars = c :: rest ∧ hexDigit? c = some n ∧
      rest.flatMap String.utf8EncodeChar = bytes := by
  cases chars with
  | nil => cases hchars
  | cons c rest =>
    rw [List.flatMap_cons] at hchars
    have hascii : c.toNat < 0x80 := by
      refine Nat.lt_of_not_le fun hbeyond ↦ ?_
      cases hencoded : String.utf8EncodeChar c with
      | nil => exact absurd hencoded String.utf8EncodeChar_ne_nil
      | cons first others =>
        rw [hencoded, List.cons_append, List.cons.injEq] at hchars
        have hmem : byte ∈ String.utf8EncodeChar c := by simp [hencoded, hchars.1]
        exact absurd (lt_of_hexByte? h)
          (Nat.not_lt.2 (le_toNat_of_mem_utf8EncodeChar (Nat.not_lt.2 hbeyond) hmem))
    rw [utf8EncodeChar_of_lt hascii, List.singleton_append, List.cons.injEq] at hchars
    obtain ⟨rfl, hrest⟩ := hchars
    rw [hexByte?_ofNat hascii] at h
    exact ⟨c, rest, rfl, h, hrest⟩

/-- Characters begin with an escape: a percent sign before two digits of base sixteen. -/
def BeginsEscape (chars : List Char) : Prop :=
  ∃ first second high low rest, chars = '%' :: first :: second :: rest ∧
    hexDigit? first = some high ∧ hexDigit? second = some low

/-- What characters stand for: an escape for its byte, and every other character, a percent sign
that begins no escape included, for its own bytes. -/
inductive StandsFor : List Char → List UInt8 → Prop
  | nil : StandsFor [] []
  | escape {first second : Char} {high low : Nat} {rest : List Char} {bytes : List UInt8}
      (hfirst : hexDigit? first = some high) (hsecond : hexDigit? second = some low)
      (hrest : StandsFor rest bytes) :
      StandsFor ('%' :: first :: second :: rest) (UInt8.ofNat (high * 16 + low) :: bytes)
  | kept {c : Char} {rest : List Char} {bytes : List UInt8} (hkept : ¬BeginsEscape (c :: rest))
      (hrest : StandsFor rest bytes) : StandsFor (c :: rest) (String.utf8EncodeChar c ++ bytes)

/-- All characters stand for some bytes. -/
theorem exists_standsFor : ∀ chars : List Char, ∃ bytes, StandsFor chars bytes
  | [] => ⟨[], .nil⟩
  | c :: rest => by
    by_cases hescape : BeginsEscape (c :: rest)
    · obtain ⟨first, second, high, low, more, hchars, hfirst, hsecond⟩ := hescape
      cases hchars
      obtain ⟨bytes, hbytes⟩ := exists_standsFor more
      exact ⟨_, .escape hfirst hsecond hbytes⟩
    · obtain ⟨bytes, hbytes⟩ := exists_standsFor rest
      exact ⟨_, .kept hescape hbytes⟩

/-- A percent sign that begins no escape passes through. -/
theorem unescape_percent {chars : List Char} (h : ¬BeginsEscape ('%' :: chars)) :
    unescape (0x25 :: chars.flatMap String.utf8EncodeChar) =
      0x25 :: unescape (chars.flatMap String.utf8EncodeChar) := by
  match hbytes : chars.flatMap String.utf8EncodeChar with
  | [] => rfl
  | [_] => rfl
  | first :: second :: rest =>
    rw [unescape, if_pos rfl]
    split
    · rename_i high low hhigh hlow
      obtain ⟨c, more, rfl, hc, hmore⟩ := exists_char_of_hexByte? hbytes hhigh
      obtain ⟨d, others, rfl, hd, -⟩ := exists_char_of_hexByte? hmore hlow
      exact absurd ⟨c, d, high, low, others, rfl, hc, hd⟩ h
    · rfl

/-- Reading back gives what the characters stand for. -/
theorem unescape_of_standsFor {chars : List Char} {bytes : List UInt8}
    (h : StandsFor chars bytes) : unescape (chars.flatMap String.utf8EncodeChar) = bytes := by
  have hpercent : String.utf8EncodeChar '%' = [0x25] := by decide
  induction h with
  | nil => rfl
  | escape hfirst hsecond _ ih =>
    obtain ⟨first, hfirstBytes, hhigh⟩ := exists_byte_of_hexDigit? hfirst
    obtain ⟨second, hsecondBytes, hlow⟩ := exists_byte_of_hexDigit? hsecond
    simp only [List.flatMap_cons, hpercent, hfirstBytes, hsecondBytes, List.singleton_append]
    rw [unescape, if_pos rfl, hhigh, hlow]
    simp only [ih]
  | @kept c rest bytes hkept _ ih =>
    rw [List.flatMap_cons]
    by_cases hc : c = '%'
    · subst hc
      rw [hpercent, List.singleton_append, unescape_percent hkept, ih, List.singleton_append]
    · rw [unescape_append_of_ne fun byte hbyte ↦ ne_percent_of_mem_utf8EncodeChar hc hbyte, ih]

/-- What characters stand for is what is read back from them, and nothing else. -/
theorem standsFor_iff {chars : List Char} {bytes : List UInt8} :
    StandsFor chars bytes ↔ unescape (chars.flatMap String.utf8EncodeChar) = bytes := by
  refine ⟨unescape_of_standsFor, ?_⟩
  rintro rfl
  obtain ⟨bytes, hbytes⟩ := exists_standsFor chars
  rwa [unescape_of_standsFor hbytes]

end Percent

end NamespaceLifecycle.Text
