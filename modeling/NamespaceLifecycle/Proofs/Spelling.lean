import NamespaceLifecycle.Proofs.Identity

/-!
# The spellings of an identity

A text denotes an identity when one colon stands in it, something stands on either side of the
colon, and what the characters of a side stand for is a text. Every other text is called malformed.
An identity has many spellings, since any character may be escaped and a percent sign that begins no
escape stands for itself; all of them denote it, and writing it leads from each to the same one.
-/

namespace NamespaceLifecycle

namespace Text

theorem Utf8.bytes_eq_nil_iff {text : String} : bytes text = [] ↔ text = "" := by
  constructor
  · intro h
    have hempty := text?_bytes text
    rw [h] at hempty
    exact Option.some.inj (hempty.symm.trans (text?_bytes ""))
  · rintro rfl
    rfl

/-- Only no characters stand for no bytes. -/
theorem Percent.StandsFor.eq_nil_iff {chars : List Char} {bytes : List UInt8}
    (h : StandsFor chars bytes) : chars = [] ↔ bytes = [] := by
  cases h with
  | nil => simp
  | escape => simp
  | kept => simp [String.utf8EncodeChar_ne_nil]

end Text

namespace Identity

open Text

/-- A text spells an identity with these two sides: one colon stands between them, neither is empty,
and each stands for the bytes of a text, namely of that side of the identity. -/
structure Spells (project name id : String) (i : Identity) : Prop where
  id_eq : id = project ++ ":" ++ name
  one_separator : id.toList.count ':' = 1
  project_ne : project ≠ ""
  name_ne : name ≠ ""
  project_stands : Percent.StandsFor project.toList (Utf8.bytes i.project)
  name_stands : Percent.StandsFor name.toList (Utf8.bytes i.name)

/-- Which texts denote an identity, and what becomes of it when it is written again. -/
structure DecodesExactly (id : String) : Prop where
  /-- A text denotes an identity exactly when it spells it. -/
  accepts : ∀ i, decode id = .ok i ↔ ∃ project name, Spells project name id i
  /-- A text that spells none is called malformed. -/
  refuses : (¬∃ i project name, Spells project name id i) →
    ∃ reason, decode id = .error (.malformedIdentifier id reason)
  /-- What is denoted has a project and a name. -/
  nonempty : ∀ i, decode id = .ok i → i.project ≠ "" ∧ i.name ≠ ""
  /-- What is denoted can be written; what is written denotes the same and is written again. -/
  canonical : ∀ i, decode id = .ok i → ∃ plain, encode i = .ok plain ∧ decode plain = .ok i ∧
    (decode plain).bind encode = .ok plain

theorem unescape_eq_ok_iff {id part text : String} :
    unescape id part = .ok text ↔ Percent.StandsFor part.toList (Utf8.bytes text) := by
  have hread : unescape id part = .ok text ↔ Utf8.text? (Percent.decode part) = some text := by
    unfold unescape
    simp only
    split <;> simp [*]
  rw [hread, Utf8.text?_eq_some_iff, Percent.standsFor_iff]
  exact eq_comm

/-- A side is empty exactly when it stands for the empty text. -/
theorem eq_empty_iff_of_standsFor {part text : String}
    (h : Percent.StandsFor part.toList (Utf8.bytes text)) : part = "" ↔ text = "" := by
  rw [← String.toList_eq_nil_iff, h.eq_nil_iff, Utf8.bytes_eq_nil_iff]

/-- One colon stands between two sides where neither side has one. -/
theorem count_colon_eq_one_iff {project name : String} :
    (project ++ ":" ++ name).toList.count ':' = 1 ↔ ':' ∉ project.toList ∧ ':' ∉ name.toList := by
  have hcolon : ":".toList.count ':' = 1 := by decide
  rw [String.toList_append, String.toList_append, List.count_append, List.count_append, hcolon,
    ← List.count_eq_zero, ← List.count_eq_zero]
  omega

theorem decode_eq_ok_iff_spells {id : String} {i : Identity} :
    decode id = .ok i ↔ ∃ project name, Spells project name id i := by
  rw [decode_eq_ok_iff]
  constructor
  · rintro ⟨project, name, hsides, hproject, hname, hprojectNe, hnameNe⟩
    obtain ⟨hid, hprojectColon, hnameColon⟩ := splitAt_eq_pair_iff.1 hsides
    rw [unescape_eq_ok_iff] at hproject hname
    have hjoined : id = String.ofList project ++ ":" ++ String.ofList name := by
      rw [← String.toList_inj, hid]
      simp
    refine ⟨String.ofList project, String.ofList name, hjoined, ?_, ?_, ?_, hproject, hname⟩
    · rw [hjoined, count_colon_eq_one_iff, String.toList_ofList, String.toList_ofList]
      exact ⟨hprojectColon, hnameColon⟩
    · exact fun hempty ↦ hprojectNe ((eq_empty_iff_of_standsFor hproject).1 hempty)
    · exact fun hempty ↦ hnameNe ((eq_empty_iff_of_standsFor hname).1 hempty)
  · rintro ⟨project, name, hspells⟩
    have hcolons := hspells.one_separator
    rw [hspells.id_eq, count_colon_eq_one_iff] at hcolons
    refine ⟨project.toList, name.toList, ?_, ?_, ?_, ?_, ?_⟩
    · rw [splitAt_eq_pair_iff, hspells.id_eq, String.toList_append, String.toList_append,
        List.append_assoc]
      exact ⟨rfl, hcolons⟩
    · rw [String.ofList_toList, unescape_eq_ok_iff]
      exact hspells.project_stands
    · rw [String.ofList_toList, unescape_eq_ok_iff]
      exact hspells.name_stands
    · exact fun hempty ↦
        hspells.project_ne ((eq_empty_iff_of_standsFor hspells.project_stands).2 hempty)
    · exact fun hempty ↦ hspells.name_ne ((eq_empty_iff_of_standsFor hspells.name_stands).2 hempty)

/-- A text denotes the identity that it spells, and is malformed when it spells none; whatever the
spelling, the identity is written in one way, which denotes it again. -/
theorem decode_decodesExactly (id : String) : DecodesExactly id where
  accepts _ := decode_eq_ok_iff_spells
  refuses hnone := by
    cases hdecode : decode id with
    | error error =>
      obtain ⟨reason, rfl⟩ := malformed_of_decode hdecode
      exact ⟨reason, rfl⟩
    | ok i =>
      obtain ⟨project, name, hspells⟩ := decode_eq_ok_iff_spells.1 hdecode
      exact absurd ⟨i, project, name, hspells⟩ hnone
  nonempty _ := ne_of_decode
  canonical i hdecode := by
    obtain ⟨plain, hplain⟩ := exists_encode (ne_of_decode hdecode)
    have hagain : decode plain = .ok i := decode_of_encode hplain
    refine ⟨plain, hplain, hagain, ?_⟩
    rw [hagain]
    exact hplain

/-- Escapes in either case of letters, escapes that are not needed, and signs that begin none. -/
example : decode "%61%3a%C3%A9:100%%4" = .ok ⟨"a:é", "100%%4"⟩ := rfl

/-- A sequence of bytes that is no text, be it split between the sides. -/
example : (decode "%C3:%A9").isOk = false := by decide +kernel

end Identity

end NamespaceLifecycle
