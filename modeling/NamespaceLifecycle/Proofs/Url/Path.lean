import NamespaceLifecycle.Proofs.Text.Percent
import NamespaceLifecycle.Proofs.Text.Split
import NamespaceLifecycle.Url.Path

/-!
# Walking along a path

A segment that is neither one point nor two stays in a path, in its place and with its escapes. A
segment of points adds no place, so a path with one of them in its middle is too short. The text of
a path is split at its slashes into the segments.
-/

namespace NamespaceLifecycle.Url

open Text

/-- A segment that stays in a path. -/
structure IsPlain (segment : List Char) : Prop where
  not_single : isSingleDot segment = false
  not_double : isDoubleDot segment = false

/-- Without escapes only points are points. -/
theorem eq_replicate_of_points? {segment : List Char} (hescape : '%' ∉ segment) {n : Nat}
    (h : points? segment = some n) : segment = List.replicate n '.' := by
  induction segment generalizing n with
  | nil =>
    cases h
    rfl
  | cons c rest ih =>
    rw [List.mem_cons, not_or] at hescape
    by_cases hc : c = '.'
    · subst hc
      rw [points?] at h
      obtain ⟨k, hk, rfl⟩ := Option.map_eq_some_iff.1 h
      rw [List.replicate_succ, ← ih hescape.2 hk]
    · have hnone : points? (c :: rest) = none := by
        unfold points?
        split <;> simp_all
      rw [hnone] at h
      cases h

theorem isPlain_of_ne {segment : List Char} (hescape : '%' ∉ segment) (hsingle : segment ≠ ['.'])
    (hdouble : segment ≠ ['.', '.']) : IsPlain segment where
  not_single := by
    rw [isSingleDot, beq_eq_false_iff_ne]
    exact fun h ↦ hsingle (eq_replicate_of_points? hescape h)
  not_double := by
    rw [isDoubleDot, beq_eq_false_iff_ne]
    exact fun h ↦ hdouble (eq_replicate_of_points? hescape h)

/-! ## Steps -/

theorem enter_of_isPlain {segment : List Char} (h : IsPlain segment) (segments : List String) :
    enter segments segment = segments ++ [escapeSegment segment] := by
  rw [enter, if_neg (by simp [h.not_double]), if_neg (by simp [h.not_single])]

theorem finish_of_isPlain {segment : List Char} (h : IsPlain segment) (segments : List String) :
    finish segments segment = segments ++ [escapeSegment segment] := by
  rw [finish, if_neg (by simp [h.not_double]), if_neg (by simp [h.not_single])]

theorem length_above_le (segments : List String) : (above segments).length ≤ segments.length := by
  unfold above
  split
  · split
    · exact Nat.le_refl _
    · rw [List.length_dropLast]
      exact Nat.sub_le _ _
  · exact Nat.zero_le _

theorem le_length_above (segments : List String) :
    segments.length ≤ (above segments).length + 1 := by
  unfold above
  split
  · split
    · exact Nat.le_succ _
    · rw [List.length_dropLast]
      omega
  · rename_i h
    rw [List.getLast?_eq_none_iff.1 h]
    exact Nat.zero_le _

theorem length_enter_le (segments : List String) (segment : List Char) :
    (enter segments segment).length ≤ segments.length + 1 := by
  unfold enter
  split
  · exact Nat.le_succ_of_le (length_above_le segments)
  · split
    · exact Nat.le_succ _
    · simp

theorem le_length_enter (segments : List String) (segment : List Char) :
    segments.length ≤ (enter segments segment).length + 1 := by
  unfold enter
  split
  · exact le_length_above segments
  · split
    · exact Nat.le_succ _
    · rw [List.length_append]
      omega

/-- A segment of points adds no place. -/
theorem length_enter_le_of_points {segment : List Char}
    (hpoints : segment = ['.'] ∨ segment = ['.', '.']) (segments : List String) :
    (enter segments segment).length ≤ segments.length := by
  rcases hpoints with rfl | rfl
  · exact Nat.le_refl _
  · exact length_above_le segments

theorem length_finish_le (segments : List String) (segment : List Char) :
    (finish segments segment).length ≤ segments.length + 1 := by
  have habove := length_above_le segments
  unfold finish
  split
  · rw [List.length_append, List.length_singleton]
    omega
  · split <;> simp

/-! ## The walk -/

theorem walk_cons {segment : List Char} {rest : List (List Char)} (h : rest ≠ [])
    (segments : List String) :
    walk segments (segment :: rest) = walk (enter segments segment) rest := by
  cases rest with
  | nil => exact absurd rfl h
  | cons next rest => rfl

/-- Segments that stay come first, whatever follows them. -/
theorem walk_append_of_isPlain {front rest : List (List Char)} (hfront : ∀ s ∈ front, IsPlain s)
    (hrest : rest ≠ []) (segments : List String) :
    walk segments (front ++ rest) = walk (segments ++ front.map escapeSegment) rest := by
  induction front generalizing segments with
  | nil => rw [List.nil_append, List.map_nil, List.append_nil]
  | cons segment front ih =>
    rw [List.cons_append, walk_cons (by simp [hrest]),
      enter_of_isPlain (hfront _ List.mem_cons_self),
      ih fun s hs ↦ hfront s (List.mem_cons_of_mem _ hs)]
    rw [List.map_cons, List.append_assoc, List.singleton_append]

/-- Segments that all stay are the path. -/
theorem walk_of_isPlain {rest : List (List Char)} (h : ∀ s ∈ rest, IsPlain s)
    (segments : List String) : walk segments rest = segments ++ rest.map escapeSegment := by
  fun_induction walk segments rest with
  | case1 segments => rw [List.map_nil, List.append_nil]
  | case2 segments last => exact finish_of_isPlain (h last List.mem_cons_self) segments
  | case3 segments segment next rest ih =>
    rw [ih fun s hs ↦ h s (List.mem_cons_of_mem _ hs),
      enter_of_isPlain (h segment List.mem_cons_self), List.append_assoc, List.singleton_append]
    rfl

/-- Points at the end leave an empty place there. -/
theorem getLast?_walk_of_points {points : List Char}
    (hpoints : points = ['.'] ∨ points = ['.', '.']) (segments : List String)
    (front : List (List Char)) :
    (walk segments (front ++ [points])).getLast? = some "" := by
  induction front generalizing segments with
  | nil =>
    rcases hpoints with rfl | rfl
    · exact List.getLast?_concat
    · exact List.getLast?_concat
  | cons segment front ih =>
    rw [List.cons_append, walk_cons (by simp)]
    exact ih (enter segments segment)

theorem length_walk_le (segments : List String) (rest : List (List Char)) :
    (walk segments rest).length ≤ segments.length + rest.length := by
  fun_induction walk segments rest with
  | case1 segments => exact Nat.le_refl _
  | case2 segments last => exact length_finish_le segments last
  | case3 segments segment next rest ih =>
    have henter := length_enter_le segments segment
    rw [List.length_cons] at ⊢
    omega

/-- Points before the end take no place of their own. -/
theorem length_walk_le_of_points {points : List Char}
    (hpoints : points = ['.'] ∨ points = ['.', '.']) {front rest : List (List Char)}
    (hfront : ∀ s ∈ front, IsPlain s) (hrest : rest ≠ []) :
    (walk [] (front ++ points :: rest)).length ≤ front.length + rest.length := by
  have hwalk : walk [] (front ++ points :: rest) =
      walk (enter (front.map escapeSegment) points) rest := by
    rw [walk_append_of_isPlain hfront (List.cons_ne_nil _ _), List.nil_append, walk_cons hrest]
  have henter := length_enter_le_of_points hpoints (front.map escapeSegment)
  have hrest := length_walk_le (enter (front.map escapeSegment) points) rest
  rw [List.length_map] at henter
  rw [hwalk]
  omega

theorem mem_above {segments : List String} {place : String} (h : place ∈ above segments) :
    place ∈ segments := by
  unfold above at h
  split at h
  · split at h
    · exact h
    · exact (List.dropLast_sublist _).subset h
  · exact absurd h List.not_mem_nil

theorem mem_enter {segments : List String} {segment : List Char} {place : String}
    (h : place ∈ enter segments segment) : place ∈ segments ∨ place = escapeSegment segment := by
  unfold enter at h
  split at h
  · exact .inl (mem_above h)
  · split at h
    · exact .inl h
    · exact (List.mem_append.1 h).imp_right List.mem_singleton.1

theorem mem_finish {segments : List String} {segment : List Char} {place : String}
    (h : place ∈ finish segments segment) :
    place ∈ segments ∨ place = "" ∨ place = escapeSegment segment := by
  unfold finish at h
  split at h
  · exact (List.mem_append.1 h).imp mem_above fun hlast ↦ .inl (List.mem_singleton.1 hlast)
  · split at h
    · exact (List.mem_append.1 h).imp_right fun hlast ↦ .inl (List.mem_singleton.1 hlast)
    · exact (List.mem_append.1 h).imp_right fun hlast ↦ .inr (List.mem_singleton.1 hlast)

/-- A walked path holds what was there before, escaped segments, and empty ones. -/
theorem mem_walk {segments : List String} {rest : List (List Char)} {place : String}
    (h : place ∈ walk segments rest) :
    place ∈ segments ∨ place = "" ∨ ∃ s ∈ rest, place = escapeSegment s := by
  fun_induction walk segments rest with
  | case1 segments => exact .inl h
  | case2 segments last =>
    rcases mem_finish h with h | h | h
    · exact .inl h
    · exact .inr (.inl h)
    · exact .inr (.inr ⟨last, List.mem_cons_self, h⟩)
  | case3 segments segment next rest ih =>
    rcases ih h with h | h | ⟨s, hs, h⟩
    · rcases mem_enter h with h | h
      · exact .inl h
      · exact .inr (.inr ⟨segment, List.mem_cons_self, h⟩)
    · exact .inr (.inl h)
    · exact .inr (.inr ⟨s, List.mem_cons_of_mem _ hs, h⟩)

/-! ## Files -/

/-- With as many places as segments that are left, no drive comes first any more. -/
theorem findDrive_of_length_le {segments : List String} {rest : List (List Char)}
    (h : rest.length ≤ segments.length) : findDrive segments rest = (false, rest) := by
  induction rest generalizing segments with
  | nil => rfl
  | cons segment rest ih =>
    rw [List.length_cons] at h
    have hne : segments.isEmpty = false := by
      cases segments with
      | nil => exact absurd h (Nat.not_succ_le_zero _)
      | cons _ _ => rfl
    have henter := le_length_enter segments segment
    have hrest : findDrive (enter segments segment) rest = (false, rest) := ih (by omega)
    rw [findDrive, hne, Bool.false_and, if_neg (by simp), hrest]

/-- Segments that stay and are no drives come first, whatever follows them. -/
theorem findDrive_append_of_isPlain {front rest : List (List Char)}
    (hfront : ∀ s ∈ front, IsPlain s ∧ isDrive s = false) (segments : List String) {found : Bool}
    {others : List (List Char)}
    (h : findDrive (segments ++ front.map escapeSegment) rest = (found, others)) :
    findDrive segments (front ++ rest) = (found, front ++ others) := by
  induction front generalizing segments with
  | nil =>
    rw [List.map_nil, List.append_nil] at h
    exact h
  | cons segment front ih =>
    obtain ⟨hplain, hdrive⟩ := hfront segment List.mem_cons_self
    have hrest := ih (fun s hs ↦ hfront s (List.mem_cons_of_mem _ hs))
      (segments ++ [escapeSegment segment]) (by simpa using h)
    rw [List.cons_append, findDrive, hdrive, Bool.and_false, if_neg (by simp),
      enter_of_isPlain hplain, hrest]
    rfl

theorem length_withoutLeadingEmpty_le (segments : List String) :
    (withoutLeadingEmpty segments).length ≤ segments.length := by
  fun_induction withoutLeadingEmpty segments with
  | case1 next rest ih =>
    rw [List.length_cons]
    exact Nat.le_succ_of_le ih
  | case2 segments => exact Nat.le_refl _

theorem getLast?_withoutLeadingEmpty (segments : List String) :
    (withoutLeadingEmpty segments).getLast? = segments.getLast? := by
  fun_induction withoutLeadingEmpty segments with
  | case1 next rest ih => rw [ih, List.getLast?_cons_cons]
  | case2 segments => rfl

theorem mem_withoutLeadingEmpty {segments : List String} {place : String}
    (h : place ∈ withoutLeadingEmpty segments) : place ∈ segments := by
  fun_induction withoutLeadingEmpty segments with
  | case1 next rest ih => exact List.mem_cons_of_mem _ (ih h)
  | case2 segments => exact h

theorem withoutLeadingEmpty_of_ne {first : String} (h : first ≠ "") (rest : List String) :
    withoutLeadingEmpty (first :: rest) = first :: rest := by
  unfold withoutLeadingEmpty
  split
  · simp_all
  · rfl

/-! ## The text of a path -/

theorem toList_text_rooted (segments : List String) :
    (Path.rooted segments).text.toList = slashed (segments.map String.toList) := by
  rw [Path.text, String.toList_join]
  induction segments with
  | nil => rfl
  | cons segment segments ih =>
    rw [List.map_cons, List.flatMap_cons, ih, List.map_cons, slashed_cons, String.toList_append]
    rfl

/-- The text of a path is split at its slashes into nothing and the segments. -/
theorem splitAt_text_rooted {segments : List String} (h : ∀ s ∈ segments, '/' ∉ s.toList) :
    splitAt '/' (Path.rooted segments).text.toList = [] :: segments.map String.toList := by
  have hparts : ∀ p ∈ [] :: segments.map String.toList, ∀ c ∈ p, (c == '/') = false := by
    intro p hp c hc
    rcases List.mem_cons.1 hp with rfl | hp
    · exact absurd hc List.not_mem_nil
    · obtain ⟨s, hs, rfl⟩ := List.mem_map.1 hp
      rw [beq_eq_false_iff_ne]
      rintro rfl
      exact h s hs hc
  rw [toList_text_rooted]
  exact splitWhere_slashed rfl hparts

theorem slash_not_mem_escapeSegment {segment : List Char} (h : '/' ∉ segment) :
    '/' ∉ (escapeSegment segment).toList := by
  rw [escapeSegment, String.toList_ofList]
  intro hmem
  rcases Percent.mem_encodeChars hmem with ⟨hmem, -⟩ | hescape
  · exact h hmem
  · exact absurd hescape (by decide)

/-- The text that a raw segment of a path stands for; none when its bytes are no text. -/
def meaning? (segment : List Char) : Option String :=
  Utf8.text? (Percent.decode (String.ofList segment))

/-- An escaped segment means the text that was escaped. -/
theorem meaning?_escapeSegment {text : String} (h : '%' ∉ text.toList) :
    meaning? (escapeSegment text.toList).toList = some text := by
  have hdecode : Percent.decode (Percent.encode isPathChar text) = Utf8.bytes text := by
    apply Percent.decode_encode
    rintro c hc - rfl
    exact h hc
  rw [meaning?, String.ofList_toList]
  change Utf8.text? (Percent.decode (Percent.encode isPathChar text)) = _
  rw [hdecode, Utf8.text?_bytes]

end NamespaceLifecycle.Url
