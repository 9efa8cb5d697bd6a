import NamespaceLifecycle.Text.Utf8

/-!
# Texts that are read from their bytes

The bytes of a character begin a sequence that is found whole and that ends with them. So the bytes
of a text have no fault, and a lenient reading replaces nothing in them. Only the first byte of a
character continues no sequence, so a text can be cut exactly where a start of it ends, and the
search backwards for such a place finds the longest start that fits.
-/

namespace NamespaceLifecycle.Text.Utf8

/-! ## Sequences -/

theorem toNat_ofNat_of_lt {n : Nat} (h : n < 256) : (UInt8.ofNat n).toNat = n := by
  rw [UInt8.toNat_ofNat']
  exact Nat.mod_eq_of_lt h

theorem within_ofNat {low high n : Nat} (hn : n < 256) (hlow : low ≤ n) (hhigh : n ≤ high) :
    within low high (UInt8.ofNat n) = true := by
  rw [within, toNat_ofNat_of_lt hn]
  exact decide_eq_true ⟨hlow, hhigh⟩

/-- Six bits behind the mark of a continuation. -/
theorem isContinuation_ofNat (n : Nat) : isContinuation (UInt8.ofNat (n % 0x40 + 0x80)) = true :=
  within_ofNat (by omega) (by omega) (by omega)

/-- A sequence is whole when the second byte is within the bounds that the first one sets, and all
later bytes continue it. -/
theorem verdict_of_lead {n further low high : Nat} (hn : n < 256) (hfirst : 0x80 ≤ n)
    (hlead : lead? (UInt8.ofNat n) = some ⟨further + 1, low, high⟩) {second : UInt8}
    (hsecond : within low high second = true) (later : List UInt8) :
    verdict (UInt8.ofNat n) (second :: later) = checkFurther further 2 later := by
  have hascii : ¬(UInt8.ofNat n).toNat < 0x80 := by
    rw [toNat_ofNat_of_lt hn]
    omega
  simp only [verdict, if_neg hascii, hlead, hsecond, if_true, Nat.add_sub_cancel]

theorem checkFurther_succ {byte : UInt8} (h : isContinuation byte = true) (further seen : Nat)
    (rest : List UInt8) :
    checkFurther (further + 1) seen (byte :: rest) = checkFurther further (seen + 1) rest := by
  rw [checkFurther, if_pos h]

/-- The bounds that the first of two bytes sets. -/
theorem lead?_two {n : Nat} (hlow : 0xc2 ≤ n) (hhigh : n ≤ 0xdf) :
    lead? (UInt8.ofNat n) = some ⟨1, 0x80, 0xbf⟩ := by
  simp only [lead?, toNat_ofNat_of_lt (show n < 256 by omega)]
  rw [if_pos ⟨hlow, hhigh⟩]

/-- The bounds that the first of three bytes sets: no shorter sequence would do, and no surrogate is
meant. -/
theorem exists_lead?_three {v : Nat} (hlow : 0x800 ≤ v) (hhigh : v ≤ 0xffff)
    (hsurrogate : v < 0xd800 ∨ 0xdfff < v) : ∃ low high,
      lead? (UInt8.ofNat (v / 4096 % 0x10 + 0xe0)) = some ⟨2, low, high⟩ ∧
        low ≤ v / 64 % 0x40 + 0x80 ∧ v / 64 % 0x40 + 0x80 ≤ high := by
  simp only [lead?, toNat_ofNat_of_lt (show v / 4096 % 0x10 + 0xe0 < 256 by omega)]
  rw [if_neg (by omega)]
  split
  · exact ⟨_, _, rfl, by omega, by omega⟩
  split
  · exact ⟨_, _, rfl, by omega, by omega⟩
  rw [if_pos (by omega)]
  exact ⟨_, _, rfl, by omega, by omega⟩

/-- The bounds that the first of four bytes sets: no shorter sequence would do, and no number above
the last character is meant. -/
theorem exists_lead?_four {v : Nat} (hlow : 0xffff < v) (hhigh : v < 0x110000) : ∃ low high,
      lead? (UInt8.ofNat (v / 262144 % 0x08 + 0xf0)) = some ⟨3, low, high⟩ ∧
        low ≤ v / 4096 % 0x40 + 0x80 ∧ v / 4096 % 0x40 + 0x80 ≤ high := by
  simp only [lead?, toNat_ofNat_of_lt (show v / 262144 % 0x08 + 0xf0 < 256 by omega)]
  rw [if_neg (by omega), if_neg (by omega), if_neg (by omega), if_neg (by omega)]
  split
  · exact ⟨_, _, rfl, by omega, by omega⟩
  split
  · exact ⟨_, _, rfl, by omega, by omega⟩
  rw [if_pos (by omega)]
  exact ⟨_, _, rfl, by omega, by omega⟩

/-- The bytes of a character are a whole sequence, whatever follows them. -/
theorem exists_verdict_utf8EncodeChar (c : Char) : ∃ first more,
    String.utf8EncodeChar c = first :: more ∧
      ∀ rest, verdict first (more ++ rest) = .whole (more.length + 1) := by
  have hvalid : c.val.toNat < 0xd800 ∨ 0xdfff < c.val.toNat ∧ c.val.toNat < 0x110000 := c.valid
  unfold String.utf8EncodeChar
  simp only
  generalize c.val.toNat = v at hvalid
  split
  · refine ⟨_, [], rfl, fun rest ↦ ?_⟩
    have hascii : (UInt8.ofNat v).toNat < 0x80 := by
      rw [toNat_ofNat_of_lt (by omega)]
      omega
    exact if_pos hascii
  split
  · refine ⟨_, [_], rfl, fun rest ↦ ?_⟩
    have hlead := lead?_two (n := v / 64 % 0x20 + 0xc0) (by omega) (by omega)
    exact verdict_of_lead (by omega) (by omega) hlead (isContinuation_ofNat v) rest
  split
  · refine ⟨_, [_, _], rfl, fun rest ↦ ?_⟩
    obtain ⟨low, high, hlead, hlow, hhigh⟩ :=
      exists_lead?_three (v := v) (by omega) (by omega) (by omega)
    have hsecond := within_ofNat (by omega) hlow hhigh
    rw [List.cons_append, verdict_of_lead (by omega) (by omega) hlead hsecond, List.cons_append,
      checkFurther_succ (isContinuation_ofNat v)]
    rfl
  · refine ⟨_, [_, _, _], rfl, fun rest ↦ ?_⟩
    obtain ⟨low, high, hlead, hlow, hhigh⟩ := exists_lead?_four (v := v) (by omega) (by omega)
    have hsecond := within_ofNat (by omega) hlow hhigh
    rw [List.cons_append, verdict_of_lead (by omega) (by omega) hlead hsecond, List.cons_append,
      checkFurther_succ (isContinuation_ofNat (v / 64)), List.cons_append,
      checkFurther_succ (isContinuation_ofNat v)]
    rfl

/-! ## Texts -/

/-- Bytes that belong to a sequence found whole stay. -/
theorem mend_length (front rest : List UInt8) :
    mend front.length (front ++ rest) = front ++ mend 0 rest := by
  induction front with
  | nil => rfl
  | cons byte front ih => rw [List.cons_append, List.length_cons, mend, ih, List.cons_append]

theorem mend_utf8EncodeChar (c : Char) (rest : List UInt8) :
    mend 0 (String.utf8EncodeChar c ++ rest) = String.utf8EncodeChar c ++ mend 0 rest := by
  obtain ⟨first, more, hbytes, hverdict⟩ := exists_verdict_utf8EncodeChar c
  rw [hbytes, List.cons_append, mend, hverdict]
  simp only [Nat.add_sub_cancel, mend_length, List.cons_append]

/-- Nothing is replaced in the bytes of a text. -/
theorem mend_bytes (text : String) : mend 0 (bytes text) = bytes text := by
  unfold bytes
  induction text.toList with
  | nil => rw [List.flatMap_nil, mend]
  | cons c chars ih => rw [List.flatMap_cons, mend_utf8EncodeChar, ih]

/-- A text is read leniently from its bytes as it is. -/
theorem lenient_bytes (text : String) : lenient (bytes text) = text := by
  rw [lenient, mend_bytes, text?_bytes]
  rfl

/-! ## Boundaries -/

theorem length_bytes (text : String) : (bytes text).length = text.utf8ByteSize := by
  rw [← List.size_toByteArray, toByteArray_bytes, String.size_toByteArray]

theorem bytes_append (first second : String) :
    bytes (first ++ second) = bytes first ++ bytes second := by
  rw [bytes, String.toList_append, List.flatMap_append]
  rfl

/-- The first byte of a character continues no sequence, and all the others do. -/
theorem exists_utf8EncodeChar_eq_cons (c : Char) : ∃ first more,
    String.utf8EncodeChar c = first :: more ∧ isContinuation first = false ∧
      ∀ byte ∈ more, isContinuation byte = true := by
  have hvalid : c.val.toNat < 0xd800 ∨ 0xdfff < c.val.toNat ∧ c.val.toNat < 0x110000 := c.valid
  have hfirst {n : Nat} (hn : n < 256) (h : n < 0x80 ∨ 0xbf < n) :
      isContinuation (UInt8.ofNat n) = false := by
    rw [isContinuation, within, toNat_ofNat_of_lt hn]
    exact decide_eq_false (by omega)
  unfold String.utf8EncodeChar
  simp only
  generalize c.val.toNat = v at hvalid
  split
  · exact ⟨_, [], rfl, hfirst (by omega) (by omega), nofun⟩
  split
  · refine ⟨_, [_], rfl, hfirst (by omega) (by omega), ?_⟩
    exact List.forall_mem_singleton.2 (isContinuation_ofNat v)
  split
  · refine ⟨_, [_, _], rfl, hfirst (by omega) (by omega), ?_⟩
    exact List.forall_mem_cons.2 ⟨isContinuation_ofNat (v / 64),
      List.forall_mem_singleton.2 (isContinuation_ofNat v)⟩
  · refine ⟨_, [_, _, _], rfl, hfirst (by omega) (by omega), ?_⟩
    exact List.forall_mem_cons.2 ⟨isContinuation_ofNat (v / 4096), List.forall_mem_cons.2
      ⟨isContinuation_ofNat (v / 64), List.forall_mem_singleton.2 (isContinuation_ofNat v)⟩⟩

/-- Behind a whole character the boundaries are those of what follows it. -/
theorem isBoundary_character_append (c : Char) (chars : List Char) (place : Nat) :
    isBoundary (String.utf8EncodeChar c ++ chars.flatMap String.utf8EncodeChar)
        ((String.utf8EncodeChar c).length + place) =
      isBoundary (chars.flatMap String.utf8EncodeChar) place := by
  obtain ⟨first, more, hbytes, -, -⟩ := exists_utf8EncodeChar_eq_cons c
  have hpos : ((String.utf8EncodeChar c).length + place == 0) = false := by
    rw [hbytes, List.length_cons]
    exact beq_false_of_ne (by omega)
  rw [isBoundary, isBoundary, hpos, List.getElem?_append_right (Nat.le_add_right _ _),
    Nat.add_sub_cancel_left, List.length_append, Bool.false_or]
  cases place with
  | zero =>
    -- What follows is nothing, or the first byte of another character.
    cases chars with
    | nil => simp
    | cons d chars =>
      obtain ⟨next, others, hnext, hfirst, -⟩ := exists_utf8EncodeChar_eq_cons d
      simp [hnext, hfirst]
  | succ place =>
    rw [beq_false_of_ne (Nat.succ_ne_zero place), Bool.false_or]
    cases (chars.flatMap String.utf8EncodeChar)[place + 1]? with
    | some byte => rfl
    | none =>
      rw [Bool.eq_iff_iff]
      exact beq_iff_eq.trans (Nat.add_left_cancel_iff.trans beq_iff_eq.symm)

/-- There is no boundary within a character. -/
theorem isBoundary_within_character {c : Char} {place : Nat} (hpos : 0 < place)
    (hlt : place < (String.utf8EncodeChar c).length) (rest : List UInt8) :
    isBoundary (String.utf8EncodeChar c ++ rest) place = false := by
  obtain ⟨first, more, hbytes, -, hmore⟩ := exists_utf8EncodeChar_eq_cons c
  obtain ⟨place, rfl⟩ := Nat.exists_eq_add_of_le' hpos
  rw [hbytes, List.length_cons, Nat.add_lt_add_iff_right] at hlt
  have hbyte : (first :: more ++ rest)[place + 1]? = some more[place] := by
    rw [List.cons_append, List.getElem?_cons_succ, List.getElem?_append_left hlt,
      List.getElem?_eq_getElem hlt]
  rw [isBoundary, hbytes, hbyte, beq_false_of_ne (Nat.succ_ne_zero place)]
  simp [hmore _ (List.getElem_mem hlt)]

theorem isBoundary_flatMap_iff {chars : List Char} {place : Nat} :
    isBoundary (chars.flatMap String.utf8EncodeChar) place = true ↔
      ∃ front, front <+: chars ∧ (front.flatMap String.utf8EncodeChar).length = place := by
  induction chars generalizing place with
  | nil => simpa [isBoundary] using eq_comm
  | cons c chars ih =>
    rw [List.flatMap_cons]
    rcases Nat.eq_zero_or_pos place with rfl | hpos
    · exact iff_of_true rfl ⟨[], List.nil_prefix, rfl⟩
    by_cases hlt : place < (String.utf8EncodeChar c).length
    · rw [isBoundary_within_character hpos hlt]
      refine iff_of_false Bool.false_ne_true fun ⟨front, hprefix, hlength⟩ ↦ ?_
      cases front with
      | nil => exact Nat.ne_of_lt hpos hlength
      | cons d front =>
        obtain ⟨rfl, -⟩ := List.cons_prefix_cons.1 hprefix
        rw [List.flatMap_cons, List.length_append] at hlength
        omega
    · obtain ⟨more, rfl⟩ := Nat.exists_eq_add_of_le (Nat.le_of_not_lt hlt)
      rw [isBoundary_character_append, ih]
      constructor
      · rintro ⟨front, hprefix, rfl⟩
        refine ⟨c :: front, List.cons_prefix_cons.2 ⟨rfl, hprefix⟩, ?_⟩
        rw [List.flatMap_cons, List.length_append]
      · rintro ⟨front, hprefix, hlength⟩
        cases front with
        | nil => exact absurd hlength (Nat.ne_of_lt hpos)
        | cons d front =>
          obtain ⟨rfl, hrest⟩ := List.cons_prefix_cons.1 hprefix
          rw [List.flatMap_cons, List.length_append, Nat.add_left_cancel_iff] at hlength
          exact ⟨front, hrest, hlength⟩

/-- A text can be cut exactly where a start of it ends. -/
theorem isBoundary_iff {text : String} {place : Nat} :
    isBoundary (bytes text) place = true ↔
      ∃ front back : String, text = front ++ back ∧ front.utf8ByteSize = place := by
  rw [bytes, isBoundary_flatMap_iff]
  constructor
  · rintro ⟨front, ⟨back, hchars⟩, rfl⟩
    refine ⟨String.ofList front, String.ofList back, ?_, ?_⟩
    · rw [← String.ofList_append, hchars, String.ofList_toList]
    · rw [← length_bytes, bytes, String.toList_ofList]
  · rintro ⟨front, back, rfl, rfl⟩
    exact ⟨front.toList, ⟨back.toList, String.toList_append.symm⟩, length_bytes front⟩

/-- The part before a boundary is the start that ends there. -/
theorem before?_append (front back : String) :
    before? (front ++ back) front.utf8ByteSize = some front := by
  have hboundary : isBoundary (bytes (front ++ back)) front.utf8ByteSize = true :=
    isBoundary_iff.2 ⟨front, back, rfl, rfl⟩
  have htake : (bytes (front ++ back)).take front.utf8ByteSize = bytes front := by
    rw [bytes_append, ← length_bytes, List.take_left]
  rw [before?, if_pos hboundary, htake, text?_bytes]

/-- The search backwards stops at a boundary, at the latest at the start, and passes over none. -/
theorem exists_boundaryFrom? (bytes : List UInt8) (limit : Nat) : ∃ place ≤ limit,
    boundaryFrom? bytes limit = some place ∧ isBoundary bytes place = true ∧
      ∀ other ≤ limit, isBoundary bytes other = true → other ≤ place := by
  induction limit with
  | zero => exact ⟨0, Nat.le_refl 0, rfl, rfl, fun other hother _ ↦ hother⟩
  | succ limit ih =>
    rw [boundaryFrom?]
    by_cases hhere : isBoundary bytes (limit + 1) = true
    · rw [if_pos hhere]
      exact ⟨limit + 1, Nat.le_refl _, rfl, hhere, fun other hother _ ↦ hother⟩
    · rw [if_neg hhere]
      obtain ⟨place, hle, hfound, hplace, hlast⟩ := ih
      refine ⟨place, Nat.le_succ_of_le hle, hfound, hplace, fun other hother hboundary ↦ ?_⟩
      rcases Nat.lt_or_eq_of_le hother with hlt | rfl
      · exact hlast other (Nat.le_of_lt_succ hlt) hboundary
      · exact absurd hboundary hhere

end NamespaceLifecycle.Text.Utf8
