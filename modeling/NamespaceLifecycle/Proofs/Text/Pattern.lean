import NamespaceLifecycle.Text.Pattern

/-!
# What fits a pattern

Which texts fit a pattern is said by one rule for each way to fit, without taking a text apart. The
patterns that are left while a text is taken character by character decide exactly this: the empty
text fits where it is let pass, and a text fits behind its first character what this character
leaves.
-/

namespace NamespaceLifecycle.Text.Pattern

variable {pattern first second left right part : Pattern} {accepts : Char → Bool} {c : Char}
  {chars : List Char}

inductive Fits : Pattern → List Char → Prop
  | empty : Fits .empty []
  | one {accepts : Char → Bool} {c : Char} (h : accepts c = true) : Fits (.one accepts) [c]
  | andThen {first second : Pattern} {before behind : List Char} (hfirst : Fits first before)
      (hsecond : Fits second behind) : Fits (.andThen first second) (before ++ behind)
  | left {left right : Pattern} {chars : List Char} (h : Fits left chars) :
      Fits (.either left right) chars
  | right {left right : Pattern} {chars : List Char} (h : Fits right chars) :
      Fits (.either left right) chars
  | none {part : Pattern} : Fits (.many part) []
  | more {part : Pattern} {before behind : List Char} (hpart : Fits part before)
      (hmany : Fits (.many part) behind) : Fits (.many part) (before ++ behind)

theorem not_fits_never : ¬Fits .never chars := nofun

theorem fits_empty_iff : Fits .empty chars ↔ chars = [] := by
  constructor
  · rintro ⟨⟩
    rfl
  · rintro rfl
    exact .empty

theorem fits_one_iff : Fits (.one accepts) chars ↔ ∃ c, accepts c = true ∧ chars = [c] := by
  constructor
  · rintro ⟨⟩
    exact ⟨_, ‹_›, rfl⟩
  · rintro ⟨c, hc, rfl⟩
    exact .one hc

theorem fits_andThen_iff : Fits (.andThen first second) chars ↔
    ∃ before behind, chars = before ++ behind ∧ Fits first before ∧ Fits second behind := by
  constructor
  · rintro ⟨⟩
    exact ⟨_, _, rfl, ‹_›, ‹_›⟩
  · rintro ⟨before, behind, rfl, hfirst, hsecond⟩
    exact .andThen hfirst hsecond

theorem fits_either_iff : Fits (.either left right) chars ↔ Fits left chars ∨ Fits right chars := by
  constructor
  · rintro (_ | _)
    · exact .inl ‹_›
    · exact .inr ‹_›
  · rintro (h | h)
    · exact .left h
    · exact .right h

/-- A text that is not empty and fits a repetition begins with a part that is not empty. -/
theorem fits_many_cons_iff : Fits (.many part) (c :: chars) ↔
    ∃ before behind, chars = before ++ behind ∧ Fits part (c :: before) ∧
      Fits (.many part) behind := by
  constructor
  · intro h
    generalize hpattern : Pattern.many part = pattern at h
    generalize htext : c :: chars = text at h
    induction h with
    | empty | one | andThen | left | right => cases hpattern
    | none => cases htext
    | @more repeated before behind hpart hmany _ ih =>
      cases hpattern
      cases before with
      | nil => exact ih rfl htext
      | cons d before =>
        obtain ⟨rfl, rfl⟩ := List.cons.inj htext
        exact ⟨before, behind, rfl, hpart, hmany⟩
  · rintro ⟨before, behind, rfl, hpart, hmany⟩
    exact .more hpart hmany

/-- Characters of a class, any number of them. -/
theorem fits_many_one_iff : Fits (.many (.one accepts)) chars ↔ ∀ c ∈ chars, accepts c = true := by
  induction chars with
  | nil => exact ⟨fun _ ↦ List.forall_mem_nil _, fun _ ↦ .none⟩
  | cons c chars ih =>
    rw [fits_many_cons_iff, List.forall_mem_cons]
    constructor
    · rintro ⟨before, behind, rfl, hpart, hmany⟩
      obtain ⟨d, hd, hsingle⟩ := fits_one_iff.1 hpart
      obtain ⟨rfl, rfl⟩ := List.cons.inj hsingle
      exact ⟨hd, ih.1 hmany⟩
    · rintro ⟨hc, hrest⟩
      exact ⟨[], chars, rfl, .one hc, ih.2 hrest⟩

/-! ## Deciding -/

theorem fitsEmpty_iff : pattern.fitsEmpty = true ↔ Fits pattern [] := by
  induction pattern with
  | never => exact ⟨nofun, fun h ↦ absurd h not_fits_never⟩
  | empty => exact ⟨fun _ ↦ .empty, fun _ ↦ rfl⟩
  | one accepts => exact ⟨nofun, nofun⟩
  | andThen first second ihFirst ihSecond =>
    rw [fitsEmpty, Bool.and_eq_true, ihFirst, ihSecond, fits_andThen_iff]
    constructor
    · rintro ⟨hfirst, hsecond⟩
      exact ⟨[], [], rfl, hfirst, hsecond⟩
    · rintro ⟨before, behind, happend, hfirst, hsecond⟩
      obtain ⟨rfl, rfl⟩ := List.append_eq_nil_iff.1 happend.symm
      exact ⟨hfirst, hsecond⟩
  | either left right ihLeft ihRight =>
    rw [fitsEmpty, Bool.or_eq_true, ihLeft, ihRight, fits_either_iff]
  | many part ih => exact ⟨fun _ ↦ .none, fun _ ↦ rfl⟩

/-- One pattern behind another takes its first character in the first one, or in the second one when
the first lets the empty text pass. -/
theorem fits_andThen_cons_iff : Fits (.andThen first second) (c :: chars) ↔
    (∃ before behind, chars = before ++ behind ∧ Fits first (c :: before) ∧ Fits second behind) ∨
      (Fits first [] ∧ Fits second (c :: chars)) := by
  rw [fits_andThen_iff]
  constructor
  · rintro ⟨before, behind, happend, hfirst, hsecond⟩
    cases before with
    | nil =>
      rw [List.nil_append] at happend
      exact .inr ⟨hfirst, happend ▸ hsecond⟩
    | cons d before =>
      obtain ⟨rfl, rfl⟩ := List.cons.inj happend
      exact .inl ⟨before, behind, rfl, hfirst, hsecond⟩
  · rintro (⟨before, behind, rfl, hfirst, hsecond⟩ | ⟨hfirst, hsecond⟩)
    · exact ⟨c :: before, behind, rfl, hfirst, hsecond⟩
    · exact ⟨[], c :: chars, rfl, hfirst, hsecond⟩

/-- A character leaves what the rest behind it has to fit. -/
theorem fits_after_iff : Fits (pattern.after c) chars ↔ Fits pattern (c :: chars) := by
  induction pattern generalizing chars with
  | never => exact ⟨fun h ↦ absurd h not_fits_never, nofun⟩
  | empty => exact ⟨fun h ↦ absurd h not_fits_never, nofun⟩
  | one accepts =>
    rw [after, fits_one_iff]
    by_cases hc : accepts c = true
    · rw [if_pos hc, fits_empty_iff]
      constructor
      · rintro rfl
        exact ⟨c, hc, rfl⟩
      · rintro ⟨d, -, hsingle⟩
        exact (List.cons.inj hsingle).2
    · rw [if_neg hc]
      constructor
      · exact fun h ↦ absurd h not_fits_never
      · rintro ⟨d, hd, hsingle⟩
        exact absurd ((List.cons.inj hsingle).1 ▸ hd) hc
  | andThen first second ihFirst ihSecond =>
    have hlater : Fits (.andThen (first.after c) second) chars ↔
        ∃ before behind, chars = before ++ behind ∧ Fits first (c :: before) ∧
          Fits second behind := by
      simp only [fits_andThen_iff, ihFirst]
    rw [after, fits_andThen_cons_iff, ← fitsEmpty_iff]
    by_cases hempty : first.fitsEmpty = true
    · rw [if_pos hempty, fits_either_iff, hlater, ihSecond]
      simp only [hempty, true_and]
    · rw [if_neg hempty, hlater]
      exact ⟨.inl, fun h ↦ h.resolve_right fun hskip ↦ hempty hskip.1⟩
  | either left right ihLeft ihRight =>
    rw [after, fits_either_iff, fits_either_iff, ihLeft, ihRight]
  | many part ih =>
    rw [after, fits_andThen_iff, fits_many_cons_iff]
    simp only [ih]

/-- What is left of a pattern at the end of a text decides whether the text fits. -/
theorem fits_iff : pattern.fits chars = true ↔ Fits pattern chars := by
  induction chars generalizing pattern with
  | nil => exact fitsEmpty_iff
  | cons c chars ih => exact ih.trans fits_after_iff

end NamespaceLifecycle.Text.Pattern
