import NamespaceLifecycle.Text.Basic

/-!
# Texts put together and split again

A text put together from parts without a separator is split into these parts again; so it has one
part exactly where it has no separator, and two where it has one. Splitting adds no character, and
where the last character of a text stays, nothing is dropped at its end.
-/

namespace NamespaceLifecycle.Text

variable {isSeparator : Char → Bool}

theorem splitWhere_cons_separator {c : Char} (h : isSeparator c = true) (rest : List Char) :
    splitWhere isSeparator (c :: rest) = [] :: splitWhere isSeparator rest := by
  rw [splitWhere, if_pos h]

/-- Up to the first separator the characters belong to the first part. -/
theorem splitWhere_append_separator {part : List Char} (hpart : ∀ c ∈ part, isSeparator c = false)
    {separator : Char} (hseparator : isSeparator separator = true) (rest : List Char) :
    splitWhere isSeparator (part ++ separator :: rest) = part :: splitWhere isSeparator rest := by
  induction part with
  | nil => exact splitWhere_cons_separator hseparator rest
  | cons c part ih =>
    have hc : isSeparator c = false := hpart c List.mem_cons_self
    rw [List.cons_append, splitWhere, if_neg (by simp [hc]),
      ih fun d hd ↦ hpart d (List.mem_cons_of_mem _ hd)]

/-- A separator between two texts parts them, whatever they are. -/
theorem splitWhere_append (first : List Char) {separator : Char}
    (hseparator : isSeparator separator = true) (second : List Char) :
    splitWhere isSeparator (first ++ separator :: second) =
      splitWhere isSeparator first ++ splitWhere isSeparator second := by
  induction first with
  | nil => exact splitWhere_cons_separator hseparator second
  | cons c first ih =>
    rw [List.cons_append, splitWhere, splitWhere, ih]
    by_cases hc : isSeparator c = true
    · rw [if_pos hc, if_pos hc, List.cons_append]
    · rw [if_neg hc, if_neg hc]
      obtain ⟨part, parts, hparts⟩ :=
        List.exists_cons_of_ne_nil (splitWhere_ne_nil isSeparator first)
      rw [hparts]
      rfl

/-- A text without a separator is one part. -/
theorem splitWhere_of_forall {part : List Char} (hpart : ∀ c ∈ part, isSeparator c = false) :
    splitWhere isSeparator part = [part] := by
  induction part with
  | nil => rfl
  | cons c part ih =>
    have hc : isSeparator c = false := hpart c List.mem_cons_self
    rw [splitWhere, if_neg (by simp [hc]), ih fun d hd ↦ hpart d (List.mem_cons_of_mem _ hd)]

theorem splitWhere_eq_singleton_iff {chars part : List Char} :
    splitWhere isSeparator chars = [part] ↔
      chars = part ∧ ∀ c ∈ part, isSeparator c = false := by
  constructor
  · intro h
    constructor
    · induction chars generalizing part with
      | nil =>
        cases h
        rfl
      | cons c rest ih =>
        rw [splitWhere] at h
        split at h
        · exact absurd (List.cons.inj h).2 (splitWhere_ne_nil _ _)
        · split at h
          · exact absurd ‹_› (splitWhere_ne_nil _ _)
          · rename_i first others hrest
            cases h
            rw [ih hrest]
    · have hmem : part ∈ splitWhere isSeparator chars := by
        rw [h]
        exact List.mem_cons_self
      exact not_isSeparator_of_mem_splitWhere hmem
  · rintro ⟨rfl, hpart⟩
    exact splitWhere_of_forall hpart

/-- There are two parts where one separator stands between them. -/
theorem splitWhere_eq_pair_iff {chars first second : List Char} :
    splitWhere isSeparator chars = [first, second] ↔
      ∃ separator, isSeparator separator = true ∧ chars = first ++ separator :: second ∧
        (∀ c ∈ first, isSeparator c = false) ∧ ∀ c ∈ second, isSeparator c = false := by
  constructor
  · intro h
    induction chars generalizing first with
    | nil => cases h
    | cons c rest ih =>
      rw [splitWhere] at h
      split at h
      · rename_i hc
        obtain ⟨rfl, hrest⟩ := List.cons.inj h
        obtain ⟨rfl, hsecond⟩ := splitWhere_eq_singleton_iff.1 hrest
        exact ⟨c, hc, rfl, by simp, hsecond⟩
      · rename_i hc
        split at h
        · cases h
        · rename_i part others hrest
          cases h
          obtain ⟨separator, hseparator, rfl, hfirst, hsecond⟩ := ih hrest
          exact ⟨separator, hseparator, rfl, List.forall_mem_cons.2 ⟨by simpa using hc, hfirst⟩,
            hsecond⟩
  · rintro ⟨separator, hseparator, rfl, hfirst, hsecond⟩
    rw [splitWhere_append_separator hfirst hseparator, splitWhere_of_forall hsecond]

/-- The same for one separator. -/
theorem splitAt_eq_pair_iff {separator : Char} {chars first second : List Char} :
    splitAt separator chars = [first, second] ↔
      chars = first ++ separator :: second ∧ separator ∉ first ∧ separator ∉ second := by
  have hnot (part : List Char) : (∀ c ∈ part, (c == separator) = false) ↔ separator ∉ part :=
    ⟨fun h hmem ↦ absurd (h separator hmem) (by simp),
      fun h c hc ↦ beq_false_of_ne (ne_of_mem_of_not_mem hc h)⟩
  rw [splitAt, splitWhere_eq_pair_iff]
  simp only [hnot, beq_iff_eq, exists_eq_left]

/-- Splitting a text adds no character to it. -/
theorem mem_of_mem_splitWhere {chars part : List Char}
    (hpart : part ∈ splitWhere isSeparator chars) {c : Char} (hc : c ∈ part) : c ∈ chars := by
  induction chars generalizing part with
  | nil =>
    rw [splitWhere, List.mem_singleton] at hpart
    exact absurd (hpart ▸ hc) List.not_mem_nil
  | cons d rest ih =>
    rw [splitWhere] at hpart
    split at hpart
    · rcases List.mem_cons.1 hpart with rfl | hpart
      · exact absurd hc List.not_mem_nil
      · exact List.mem_cons_of_mem d (ih hpart hc)
    · split at hpart
      · rename_i hnil
        exact absurd hnil (splitWhere_ne_nil _ _)
      · rename_i first others hsplit
        rw [hsplit] at ih
        rcases List.mem_cons.1 hpart with rfl | hpart
        · rcases List.mem_cons.1 hc with rfl | hc
          · exact List.mem_cons_self
          · exact List.mem_cons_of_mem d (ih List.mem_cons_self hc)
        · exact List.mem_cons_of_mem d (ih (List.mem_cons_of_mem first hpart) hc)

/-- The parts with a slash before each. -/
def slashed (parts : List (List Char)) : List Char := parts.flatMap ('/' :: ·)

@[simp] theorem slashed_nil : slashed [] = [] := rfl

@[simp] theorem slashed_cons (part : List Char) (parts : List (List Char)) :
    slashed (part :: parts) = '/' :: (part ++ slashed parts) := rfl

/-- Parts without a separator, the slash being one, are found again behind their slashes. -/
theorem splitWhere_slashed (hslash : isSeparator '/' = true) {part : List Char}
    {parts : List (List Char)} (hparts : ∀ p ∈ part :: parts, ∀ c ∈ p, isSeparator c = false) :
    splitWhere isSeparator (part ++ slashed parts) = part :: parts := by
  induction parts generalizing part with
  | nil =>
    rw [slashed_nil, List.append_nil]
    exact splitWhere_of_forall (hparts part List.mem_cons_self)
  | cons next parts ih =>
    rw [slashed_cons, splitWhere_append_separator (hparts part List.mem_cons_self) hslash,
      ih fun p hp ↦ hparts p (List.mem_cons_of_mem _ hp)]

theorem dropWhileEnd_of_getLast? {drops : Char → Bool} {chars : List Char}
    (h : ∀ c ∈ chars.getLast?, drops c = false) : dropWhileEnd drops chars = chars := by
  rw [← List.head?_reverse] at h
  rw [dropWhileEnd]
  cases hlist : chars.reverse with
  | nil => exact (List.reverse_eq_nil_iff.1 hlist).symm
  | cons c rest =>
    have hc : drops c = false := h c (hlist ▸ rfl)
    rw [List.dropWhile_cons_of_neg (by simp [hc]), ← hlist, List.reverse_reverse]

theorem withoutTrailing_of_getLast? {c : Char} {text : String}
    (h : text.toList.getLast? ≠ some c) : withoutTrailing c text = text := by
  have hlast : ∀ d ∈ text.toList.getLast?, (d == c) = false := by
    intro d hd
    rw [beq_eq_false_iff_ne]
    rintro rfl
    exact h hd
  rw [withoutTrailing, dropWhileEnd_of_getLast? hlast, String.ofList_toList]

end NamespaceLifecycle.Text
