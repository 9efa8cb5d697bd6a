import NamespaceLifecycle.Identity
import NamespaceLifecycle.Proofs.Except
import NamespaceLifecycle.Proofs.Text.Percent
import NamespaceLifecycle.Proofs.Text.Split

/-!
# The text of an identity

An identity has a text exactly when neither side is empty, and the text denotes that identity and
no other one: escapes hold no colon, so the one between the sides is the only one.
-/

namespace NamespaceLifecycle.Identity

open Text

theorem ne_colon_of_mem_escape {part : String} {c : Char} (h : c ∈ (escape part).toList) :
    c ≠ ':' := by
  rw [escape, Percent.encode, String.toList_ofList] at h
  rintro rfl
  rcases Percent.mem_encodeChars h with ⟨-, hstand⟩ | hescape
  · exact absurd hstand (by decide)
  · exact absurd hescape (by decide)

theorem count_colon_escape (part : String) : (escape part).toList.count ':' = 0 :=
  List.count_eq_zero.2 fun h ↦ ne_colon_of_mem_escape h rfl

/-- One side is read back from its escapes. -/
theorem unescape_escape (id part : String) : unescape id (escape part) = .ok part := by
  have hbytes : Percent.decode (escape part) = Utf8.bytes part := by
    apply Percent.decode_encode
    rintro c - hstand rfl
    exact absurd hstand (by decide)
  unfold unescape
  simp only [hbytes, Utf8.text?_bytes]

theorem encode_of_ne {i : Identity} (hproject : i.project ≠ "") (hname : i.name ≠ "") :
    i.encode = .ok (escape i.project ++ ":" ++ escape i.name) := by
  rw [encode, if_neg hproject, if_neg hname]

theorem ne_of_encode {i : Identity} {id : String} (h : i.encode = .ok id) :
    i.project ≠ "" ∧ i.name ≠ "" := by
  unfold encode at h
  split at h
  · cases h
  · split at h
    · cases h
    · exact ⟨‹_›, ‹_›⟩

/-- A text that denotes an identity has two sides, and neither stands for nothing. -/
theorem decode_eq_ok_iff {id : String} {i : Identity} :
    decode id = .ok i ↔ ∃ project name, splitAt ':' id.toList = [project, name] ∧
      unescape id (String.ofList project) = .ok i.project ∧
      unescape id (String.ofList name) = .ok i.name ∧ i.project ≠ "" ∧ i.name ≠ "" := by
  constructor
  · intro h
    unfold decode at h
    split at h
    · rename_i first second hsides
      obtain ⟨project, hproject, h⟩ := exists_of_bind_eq_ok h
      obtain ⟨name, hname, h⟩ := exists_of_bind_eq_ok h
      split at h
      · cases h
      · rename_i hne
        cases h
        exact ⟨first, second, hsides, hproject, hname, not_or.1 hne⟩
    · cases h
  · rintro ⟨project, name, hsides, hproject, hname, hne⟩
    unfold decode
    rw [hsides]
    simp only [hproject, hname, bind, Except.bind]
    rw [if_neg (not_or.2 hne)]
    rfl

/-- The text of an identity denotes that identity. -/
theorem decode_of_encode {i : Identity} {id : String} (h : i.encode = .ok id) :
    decode id = .ok i := by
  obtain ⟨hproject, hname⟩ := ne_of_encode h
  rw [encode_of_ne hproject hname, Except.ok.injEq] at h
  have hnot (part : String) : ':' ∉ (escape part).toList :=
    fun hmem ↦ ne_colon_of_mem_escape hmem rfl
  rw [decode_eq_ok_iff]
  refine ⟨(escape i.project).toList, (escape i.name).toList, ?_, ?_, ?_, hproject, hname⟩
  · rw [splitAt_eq_pair_iff, ← h, String.toList_append, String.toList_append, List.append_assoc]
    exact ⟨rfl, hnot i.project, hnot i.name⟩
  · rw [String.ofList_toList, unescape_escape]
  · rw [String.ofList_toList, unescape_escape]

theorem exists_encode {i : Identity} (h : i.project ≠ "" ∧ i.name ≠ "") : ∃ id, i.encode = .ok id :=
  ⟨_, encode_of_ne h.1 h.2⟩

/-- A side made of letters and digits of ASCII and the four marks that never need an escape. -/
def IsPlain (part : String) : Prop :=
  ∀ c ∈ part.toList, c.isAlphanum = true ∨ c = '-' ∨ c = '_' ∨ c = '.' ∨ c = '~'

theorem isPlain_iff (part : String) :
    IsPlain part ↔ ∀ c ∈ part.toList, Percent.isUnreserved c = true := by
  simp only [IsPlain, Percent.isUnreserved, Bool.or_eq_true, beq_iff_eq, or_assoc]

theorem escape_of_isPlain {part : String} (h : IsPlain part) : escape part = part := by
  rw [escape, Percent.encode, Percent.encodeChars_of_forall ((isPlain_iff part).1 h),
    String.ofList_toList]

theorem length_escape (part : String) :
    (escape part).length = (Percent.encodeChars Percent.isUnreserved part.toList).length := by
  rw [escape, Percent.encode, String.length_ofList]

/-- No escape shortens a side, so sides that keep their common length have nothing to escape. -/
theorem isPlain_of_length_escape_le {project name : String}
    (h : (escape project).length + (escape name).length ≤ project.length + name.length) :
    IsPlain project ∧ IsPlain name := by
  rw [length_escape, length_escape, ← String.length_toList, ← String.length_toList] at h
  have hproject := Percent.length_le_encodeChars Percent.isUnreserved project.toList
  have hname := Percent.length_le_encodeChars Percent.isUnreserved name.toList
  rw [isPlain_iff, isPlain_iff]
  exact ⟨Percent.forall_of_length_encodeChars_le (by omega),
    Percent.forall_of_length_encodeChars_le (by omega)⟩

theorem ascii_of_mem_escape {part : String} {c : Char} (h : c ∈ (escape part).toList) :
    c.toNat < 0x80 := by
  rw [escape, Percent.encode, String.toList_ofList] at h
  rcases Percent.mem_encodeChars h with ⟨-, hstand⟩ | hescape
  · exact Percent.lt_of_isUnreserved hstand
  · exact Percent.lt_of_isEscapeChar hescape

/-- What makes a text the text of an identity: it is ASCII with one separator, it denotes the
identity and is not the text of any other one, and both sides stand in it as they are exactly when
they are plain. -/
structure IsTextOf (id : String) (i : Identity) : Prop where
  ascii : ∀ c ∈ id.toList, c.toNat < 0x80
  one_separator : id.toList.count ':' = 1
  decode_eq : decode id = .ok i
  eq_of_encode : ∀ j, encode j = .ok id → j = i
  eq_append_iff : id = i.project ++ ":" ++ i.name ↔ IsPlain i.project ∧ IsPlain i.name

theorem isTextOf_of_encode {i : Identity} {id : String} (h : i.encode = .ok id) :
    IsTextOf id i := by
  obtain ⟨hproject, hname⟩ := ne_of_encode h
  have hid := h
  rw [encode_of_ne hproject hname, Except.ok.injEq] at hid
  constructor
  · intro c hc
    rw [← hid, String.toList_append, String.toList_append, List.mem_append, List.mem_append] at hc
    rcases hc with (hc | hc) | hc
    · exact ascii_of_mem_escape hc
    · rw [List.mem_singleton.1 hc]
      decide
    · exact ascii_of_mem_escape hc
  · rw [← hid, String.toList_append, String.toList_append, List.count_append, List.count_append,
      count_colon_escape, count_colon_escape]
    rfl
  · exact decode_of_encode h
  · intro j hj
    exact Except.ok.inj ((decode_of_encode hj).symm.trans (decode_of_encode h))
  · rw [← hid]
    constructor
    · intro hsame
      -- The colon counts once in both texts, so the sides are together as long as their escapes.
      apply isPlain_of_length_escape_le
      have hlength := congrArg String.length hsame
      simp only [String.length_append] at hlength
      omega
    · rintro ⟨hplainProject, hplainName⟩
      rw [escape_of_isPlain hplainProject, escape_of_isPlain hplainName]

/-- An identity has a text exactly when neither side is empty, and its text is as it should be. -/
theorem encode_isTextOf (i : Identity) :
    ((∃ id, i.encode = .ok id) ↔ i.project ≠ "" ∧ i.name ≠ "") ∧
      ∀ id, i.encode = .ok id → IsTextOf id i :=
  ⟨⟨fun ⟨_, h⟩ ↦ ne_of_encode h, exists_encode⟩, fun _ h ↦ isTextOf_of_encode h⟩

/-- The separator, escapes and characters beyond ASCII may all stand in a side. -/
theorem isTextOf_of_marks : IsTextOf "a%3Ab:%C3%A9%2541" ⟨"a:b", "é%41"⟩ :=
  (encode_isTextOf ⟨"a:b", "é%41"⟩).2 _ rfl

theorem ne_of_decode {id : String} {i : Identity} (h : decode id = .ok i) :
    i.project ≠ "" ∧ i.name ≠ "" := by
  obtain ⟨-, -, -, -, -, hne⟩ := decode_eq_ok_iff.1 h
  exact hne

theorem malformed_of_unescape {id part : String} {error : Error}
    (h : unescape id part = .error error) : ∃ reason, error = .malformedIdentifier id reason := by
  unfold unescape at h
  simp only at h
  split at h
  · cases h
  · cases h
    exact ⟨_, rfl⟩

/-- A text that denotes no identity is called malformed. -/
theorem malformed_of_decode {id : String} {error : Error} (h : decode id = .error error) :
    ∃ reason, error = .malformedIdentifier id reason := by
  unfold decode at h
  split at h
  · rename_i project name _
    cases hproject : unescape id (String.ofList project) with
    | error other =>
      rw [hproject] at h
      cases h
      exact malformed_of_unescape hproject
    | ok project =>
      cases hname : unescape id (String.ofList name) with
      | error other =>
        rw [hproject, hname] at h
        cases h
        exact malformed_of_unescape hname
      | ok name =>
        rw [hproject, hname] at h
        simp only [bind, Except.bind] at h
        split at h
        · cases h
          exact ⟨_, rfl⟩
        · cases h
  · cases h
    exact ⟨_, rfl⟩

/-- Sides without a point are found again around the point between them. -/
theorem ofImportKey_of_not_mem {i : Identity} (hproject : '.' ∉ i.project.toList)
    (hname : '.' ∉ i.name.toList) (hne : i.project ≠ "" ∧ i.name ≠ "") :
    ofImportKey (i.project ++ "." ++ i.name) = .ok i := by
  have hsides : splitAt '.' (i.project ++ "." ++ i.name).toList =
      [i.project.toList, i.name.toList] := by
    rw [splitAt_eq_pair_iff, String.toList_append, String.toList_append, List.append_assoc]
    exact ⟨rfl, hproject, hname⟩
  have hgiven : ¬(i.project.toList.isEmpty = true ∨ i.name.toList.isEmpty = true) := by
    rw [List.isEmpty_iff, List.isEmpty_iff, String.toList_eq_nil_iff, String.toList_eq_nil_iff]
    exact not_or.2 hne
  rw [ofImportKey, hsides]
  simp only [if_neg hgiven, String.ofList_toList]

theorem ne_of_ofImportKey {key : String} {i : Identity} (h : ofImportKey key = .ok i) :
    i.project ≠ "" ∧ i.name ≠ "" := by
  unfold ofImportKey at h
  split at h
  · split at h
    · cases h
    · rename_i project name _ hne
      cases h
      rw [not_or, List.isEmpty_iff, List.isEmpty_iff] at hne
      exact ⟨fun hproject ↦ hne.1 (String.ofList_eq_empty_iff.1 hproject),
        fun hname ↦ hne.2 (String.ofList_eq_empty_iff.1 hname)⟩
  · cases h

end NamespaceLifecycle.Identity
