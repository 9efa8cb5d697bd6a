import Mathlib.Data.List.Flatten
import NamespaceLifecycle.Http.Exchange
import NamespaceLifecycle.Proofs.Text.Utf8

/-!
# What the log shows of a body

Every body can be shown in the log. A body of two hundred bytes or fewer is shown whole; of a longer
one the longest start within two hundred bytes is shown, with a note of its length behind it. Since
no character has more than four bytes, at most three of the two hundred are given up. Nothing but
printable ASCII is left of either.
-/

namespace NamespaceLifecycle.Http

open Text.Utf8

/-! ## Printable characters -/

/-- A character of ASCII that prints: a space, or one that shows something. -/
def IsPrintable (c : Char) : Prop := c = ' ' ∨ '!' ≤ c ∧ c ≤ '~'

instance : DecidablePred IsPrintable := fun c ↦
  inferInstanceAs (Decidable (c = ' ' ∨ '!' ≤ c ∧ c ≤ '~'))

/-- A text without the characters that do not print. -/
def printable (text : String) : String := String.ofList (text.toList.filter (IsPrintable ·))

theorem isPrintable_iff {c : Char} : IsPrintable c ↔ 0x20 ≤ c.toNat ∧ c.toNat < 0x7f := by
  have hspace : c = ' ' ↔ c.toNat = 0x20 := Char.toNat_inj.symm
  have hlow : '!' ≤ c ↔ 0x21 ≤ c.toNat := Iff.rfl
  have hhigh : c ≤ '~' ↔ c.toNat ≤ 0x7e := Iff.rfl
  rw [IsPrintable, hspace, hlow, hhigh]
  omega

theorem ofList_filter_isLoggable (text : String) :
    String.ofList (text.toList.filter isLoggable) = printable text := by
  have hsame : isLoggable = fun c ↦ decide (IsPrintable c) :=
    funext fun c ↦ decide_eq_decide.2 isPrintable_iff.symm
  rw [hsame, printable]

theorem isPrintable_of_mem_printable {text : String} {c : Char}
    (h : c ∈ (printable text).toList) : IsPrintable c := by
  rw [printable, String.toList_ofList] at h
  exact of_decide_eq_true (List.mem_filter.1 h).2

theorem printable_append (first second : String) :
    printable (first ++ second) = printable first ++ printable second := by
  rw [printable, String.toList_append, List.filter_append, String.ofList_append]
  rfl

theorem printable_eq_self {text : String} (h : ∀ c ∈ text.toList, IsPrintable c) :
    printable text = text := by
  have hall : text.toList.filter (IsPrintable ·) = text.toList :=
    List.filter_eq_self.2 fun c hc ↦ decide_eq_true (h c hc)
  rw [printable, hall, String.ofList_toList]

/-- What is left of a text has no more bytes than the text. -/
theorem utf8ByteSize_printable_le (text : String) :
    (printable text).utf8ByteSize ≤ text.utf8ByteSize := by
  rw [← length_bytes, ← length_bytes, bytes, bytes, printable, String.toList_ofList]
  exact (List.filter_sublist.flatMap _).length_le

/-- The note on the length of a body that is not shown whole. -/
def cutNote (size : Nat) : String := "... [truncated, " ++ toString size ++ " bytes total]"

theorem isPrintable_of_isDigit {c : Char} (h : c.isDigit = true) : IsPrintable c := by
  rw [Char.isDigit, Bool.and_eq_true, decide_eq_true_eq, decide_eq_true_eq] at h
  have hlow : 0x30 ≤ c.toNat := h.1
  have hhigh : c.toNat ≤ 0x39 := h.2
  exact isPrintable_iff.2 (by omega)

theorem printable_cutNote (size : Nat) : printable (cutNote size) = cutNote size := by
  have hdigits : printable (toString size) = toString size := by
    apply printable_eq_self
    intro c hc
    have hmem : c ∈ Nat.toDigits 10 size := Nat.toList_repr ▸ hc
    exact isPrintable_of_isDigit (Nat.isDigit_of_mem_toDigits (by decide) (by decide) hmem)
  have hfront : printable "... [truncated, " = "... [truncated, " := by decide +kernel
  have hback : printable " bytes total]" = " bytes total]" := by decide +kernel
  delta cutNote
  rw [printable_append, printable_append, hfront, hdigits, hback]

/-! ## The longest start -/

/-- The longest start of a text within a number of bytes. -/
structure IsLongestStart (limit : Nat) (text front : String) : Prop where
  isStart : ∃ back, text = front ++ back
  size_le : front.utf8ByteSize ≤ limit
  longest : ∀ other back : String, text = other ++ back → other.utf8ByteSize ≤ limit →
    other.utf8ByteSize ≤ front.utf8ByteSize

/-- The search backwards from the limit finds a cut, and the cut is behind the longest start. -/
theorem exists_isLongestStart (limit : Nat) (text : String) : ∃ front : String,
    boundaryFrom? (bytes text) limit = some front.utf8ByteSize ∧
      before? text front.utf8ByteSize = some front ∧ IsLongestStart limit text front := by
  obtain ⟨place, hle, hfound, hplace, hlast⟩ := exists_boundaryFrom? (bytes text) limit
  obtain ⟨front, back, rfl, rfl⟩ := isBoundary_iff.1 hplace
  refine ⟨front, hfound, before?_append front back, ⟨back, rfl⟩, hle, ?_⟩
  intro other rest hother hsize
  exact hlast _ hsize (isBoundary_iff.2 ⟨other, rest, hother, rfl⟩)

/-- A cut within a character goes back to where the character begins. -/
example : (boundaryFrom? (bytes "aé!") 2).bind (before? "aé!") = some "a" := by decide +kernel

/-- Where a text is longer than the limit, its longest start lacks fewer than four bytes. -/
theorem IsLongestStart.lt_size_add_four {limit : Nat} {text front : String}
    (h : IsLongestStart limit text front) (hlong : limit < text.utf8ByteSize) :
    limit < front.utf8ByteSize + 4 := by
  obtain ⟨back, rfl⟩ := h.isStart
  have hback : back ≠ "" := by
    rintro rfl
    rw [String.append_empty] at hlong
    exact Nat.not_lt_of_le h.size_le hlong
  obtain ⟨c, rest, hchars⟩ := List.exists_cons_of_ne_nil (mt String.toList_eq_nil_iff.1 hback)
  -- One more character would still fit if four bytes did.
  have hnext : front ++ back = (front ++ String.singleton c) ++ String.ofList rest := by
    rw [String.append_assoc, String.singleton_eq_ofList, ← String.ofList_append,
      List.singleton_append, ← hchars, String.ofList_toList]
  have hsize : (front ++ String.singleton c).utf8ByteSize = front.utf8ByteSize + c.utf8Size := by
    rw [String.utf8ByteSize_append, String.utf8ByteSize_singleton]
  have hpos := c.utf8Size_pos
  have hfour := c.utf8Size_le_four
  refine Nat.lt_of_not_le fun hfits ↦ ?_
  have hlonger := h.longest _ _ hnext (by omega)
  omega

/-! ## The log -/

/-- What a log may show of a body. -/
structure IsLogTextOf (body shown : String) : Prop where
  /-- Only what prints in ASCII is shown. -/
  prints : ∀ c ∈ shown.toList, IsPrintable c
  /-- A short body is shown whole. -/
  whole : body.utf8ByteSize ≤ 200 → shown = printable body
  /-- Of a long body the longest start within two hundred bytes is shown, and its length is told. -/
  cut : 200 < body.utf8ByteSize → ∃ front, IsLongestStart 200 body front ∧
    197 ≤ front.utf8ByteSize ∧ (printable front).utf8ByteSize ≤ 200 ∧
      shown = printable front ++ cutNote body.utf8ByteSize

theorem logText?_of_le {body : String} (h : body.utf8ByteSize ≤ 200) :
    logText? body = some (printable body) := by
  have hshown : shown? body = some body := if_neg (Nat.not_lt_of_le h)
  rw [logText?, hshown, Option.map_some, ofList_filter_isLoggable]

theorem logText?_of_lt {body : String} (h : 200 < body.utf8ByteSize) : ∃ front,
    IsLongestStart 200 body front ∧
      logText? body = some (printable front ++ cutNote body.utf8ByteSize) := by
  obtain ⟨front, hfound, hbefore, hlongest⟩ := exists_isLongestStart 200 body
  have hshown : shown? body = some (front ++ cutNote body.utf8ByteSize) := by
    rw [shown?, if_pos (show logLimit < body.utf8ByteSize from h)]
    simp only [logLimit, hfound, hbefore, Option.bind_eq_bind, Option.bind_some, Option.pure_def]
    rfl
  refine ⟨front, hlongest, ?_⟩
  rw [logText?, hshown, Option.map_some, ofList_filter_isLoggable, printable_append,
    printable_cutNote]

/-- Every body can be shown in the log: the search for the cut never goes below zero, and what it
finds is a place where the body can be cut. What is shown is printable ASCII, and holds two hundred
bytes of the body at most. -/
theorem logText_isLogTextOf (body : String) :
    logText? body = some (logText body) ∧ IsLogTextOf body (logText body) := by
  rcases Nat.lt_or_ge 200 body.utf8ByteSize with hlong | hshort
  · obtain ⟨front, hlongest, htext⟩ := logText?_of_lt hlong
    have hvalue : logText body = printable front ++ cutNote body.utf8ByteSize := by
      rw [logText, htext, Option.getD_some]
    rw [hvalue]
    refine ⟨htext, ?_, fun hle ↦ absurd hlong (Nat.not_lt_of_le hle), fun _ ↦ ?_⟩
    · intro c hc
      rw [← printable_cutNote, ← printable_append] at hc
      exact isPrintable_of_mem_printable hc
    · have hlack := hlongest.lt_size_add_four hlong
      have hprinted := Nat.le_trans (utf8ByteSize_printable_le front) hlongest.size_le
      exact ⟨front, hlongest, by omega, hprinted, rfl⟩
  · have htext := logText?_of_le hshort
    have hvalue : logText body = printable body := by rw [logText, htext, Option.getD_some]
    rw [hvalue]
    exact ⟨htext, fun c hc ↦ isPrintable_of_mem_printable hc, fun _ ↦ rfl,
      fun hlong ↦ absurd hlong (Nat.not_lt_of_le hshort)⟩

end NamespaceLifecycle.Http
