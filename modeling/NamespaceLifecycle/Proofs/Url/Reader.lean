import NamespaceLifecycle.Proofs.Url.Host
import NamespaceLifecycle.Proofs.Url.Path
import NamespaceLifecycle.Url.Reader

/-!
# Reading an address that was written

An address that is read has a scheme and, when it has a host, the text of an authority. Written
with two slashes between them and segments behind, they are read back as they are: the path of the
new address is the walk along these very segments.
-/

namespace NamespaceLifecycle.Url

open Text

/-! ## Characters -/

/-- A character that ends no segment and that is not dropped around an address. -/
def isSegmentChar (c : Char) : Bool :=
  decide (0x20 < c.toNat) && !"/\\?#".toList.contains c

theorem isSegmentChar_iff {c : Char} : isSegmentChar c = true ↔
    0x20 < c.toNat ∧ c ≠ '/' ∧ c ≠ '\\' ∧ c ≠ '?' ∧ c ≠ '#' := by
  have hsigns : "/\\?#".toList = ['/', '\\', '?', '#'] := rfl
  simp [isSegmentChar, hsigns]

theorem isSegmentChar_of_isAuthorityChar {c : Char} (h : isAuthorityChar c = true) :
    isSegmentChar c = true := by
  obtain ⟨hlow, hslash, hback, hquery, hfragment, -⟩ := isAuthorityChar_iff.1 h
  exact isSegmentChar_iff.2 ⟨hlow, hslash, hback, hquery, hfragment⟩

theorem isSlash_of_isSegmentChar {c : Char} (h : isSegmentChar c = true) (special : Bool) :
    isSlash special c = false := by
  obtain ⟨-, hslash, hback, -, -⟩ := isSegmentChar_iff.1 h
  simp [isSlash, hslash, hback]

theorem endsPath_of_isSegmentChar {c : Char} (h : isSegmentChar c = true) : endsPath c = false := by
  obtain ⟨-, -, -, hquery, hfragment⟩ := isSegmentChar_iff.1 h
  simp [endsPath, hquery, hfragment]

theorem endsAuthority_of_isSegmentChar {c : Char} (h : isSegmentChar c = true) (special : Bool) :
    endsAuthority special c = false := by
  have hpath := endsPath_of_isSegmentChar h
  rw [endsPath] at hpath
  rw [endsAuthority, isSlash_of_isSegmentChar h, Bool.false_or, hpath]

/-- Where nothing is low, nothing is dropped. -/
theorem significant_of_forall {chars : List Char} (h : ∀ c ∈ chars, 0x20 < c.toNat) :
    significant chars = chars := by
  have hlow : ∀ c ∈ chars, isLow c = false := by
    intro c hc
    rw [isLow, decide_eq_false_iff_not]
    exact Nat.not_le.2 (h c hc)
  have hbreak : ∀ c ∈ chars, (!isBreak c) = true := by
    intro c hc
    have hc := h c hc
    have hne : c ≠ '\t' ∧ c ≠ '\n' ∧ c ≠ '\r' := by
      refine ⟨?_, ?_, ?_⟩ <;> rintro rfl <;> exact absurd hc (by decide)
    simp [isBreak, hne]
  have hfront : chars.dropWhile isLow = chars := by
    cases chars with
    | nil => rfl
    | cons c rest => exact List.dropWhile_cons_of_neg (by simp [hlow c])
  have hend : Text.dropWhileEnd isLow chars = chars :=
    Text.dropWhileEnd_of_getLast? fun c hc ↦ hlow c (List.mem_of_mem_getLast? hc)
  rw [significant, hfront, hend]
  exact List.filter_eq_self.2 hbreak

/-! ## Schemes -/

/-- A text that is read as a scheme and stays as it is. -/
structure IsSchemeText (scheme : String) : Prop where
  head : ∃ first rest, scheme.toList = first :: rest ∧ first.isAlpha = true
  isSchemeChar : ∀ c ∈ scheme.toList, isSchemeChar c = true
  toLower : ∀ c ∈ scheme.toList, c.toLower = c

theorem lt_of_isSchemeChar {c : Char} (h : isSchemeChar c = true) : c.toNat < 128 := by
  simp only [isSchemeChar, Bool.or_eq_true, beq_iff_eq] at h
  rcases h with ((h | rfl) | rfl) | rfl
  · exact lt_of_isAlphanum h
  · decide
  · decide
  · decide

/-- In lower case a character of a scheme is one again, and a letter stays a letter. -/
theorem isSchemeChar_toLower {c : Char} (h : isSchemeChar c = true) :
    isSchemeChar c.toLower = true ∧ c.toLower.toLower = c.toLower ∧
      c.toLower.isAlpha = c.isAlpha :=
  forall_of_lt (p := fun c ↦ isSchemeChar c = true → isSchemeChar c.toLower = true ∧
      c.toLower.toLower = c.toLower ∧ c.toLower.isAlpha = c.isAlpha)
    (by decide +kernel) (lt_of_isSchemeChar h) h

theorem isSegmentChar_of_isSchemeChar {c : Char} (h : isSchemeChar c = true) :
    isSegmentChar c = true :=
  forall_of_lt (p := fun c ↦ isSchemeChar c = true → isSegmentChar c = true)
    (by decide +kernel) (lt_of_isSchemeChar h) h

/-- What is read as a scheme is a scheme in lower case. -/
theorem isSchemeText_of_splitScheme? {chars rest : List Char} {scheme : String}
    (h : splitScheme? chars = some (scheme, rest)) : IsSchemeText scheme := by
  unfold splitScheme? at h
  split at h
  · rename_i first _ hhead _
    split at h
    · rename_i halpha
      obtain ⟨hscheme, -⟩ := Prod.mk.inj (Option.some.inj h)
      have hfirst : isSchemeChar first = true := by
        simp [isSchemeChar, Char.isAlphanum, halpha]
      have htext : scheme.toList = (chars.takeWhile isSchemeChar).map Char.toLower := by
        rw [← hscheme, String.toList_ofList]
      have hlower : ∀ c ∈ scheme.toList, ∃ d, isSchemeChar d = true ∧ d.toLower = c := by
        intro c hc
        rw [htext] at hc
        obtain ⟨d, hd, hdc⟩ := List.mem_map.1 hc
        exact ⟨d, List.all_eq_true.1 List.all_takeWhile d hd, hdc⟩
      refine ⟨?_, ?_, ?_⟩
      · cases chars with
        | nil => cases hhead
        | cons c tail =>
          cases hhead
          rw [List.takeWhile_cons_of_pos hfirst, List.map_cons] at htext
          exact ⟨_, _, htext, (isSchemeChar_toLower hfirst).2.2.trans halpha⟩
      · intro c hc
        obtain ⟨d, hd, rfl⟩ := hlower c hc
        exact (isSchemeChar_toLower hd).1
      · intro c hc
        obtain ⟨d, hd, rfl⟩ := hlower c hc
        exact (isSchemeChar_toLower hd).2.1
    · cases h
  · cases h

/-- A scheme before a colon is read back. -/
theorem splitScheme?_of_isSchemeText {scheme : String} (h : IsSchemeText scheme)
    (rest : List Char) : splitScheme? (scheme.toList ++ ':' :: rest) = some (scheme, rest) := by
  obtain ⟨first, others, htext, halpha⟩ := h.head
  have hcolon : ¬isSchemeChar ':' = true := by decide
  have hhead : (scheme.toList ++ ':' :: rest).head? = some first := by
    rw [htext]
    rfl
  have htake : (scheme.toList ++ ':' :: rest).takeWhile isSchemeChar = scheme.toList := by
    rw [List.takeWhile_append_of_pos h.isSchemeChar, List.takeWhile_cons_of_neg hcolon,
      List.append_nil]
  have hdrop : (scheme.toList ++ ':' :: rest).dropWhile isSchemeChar = ':' :: rest := by
    rw [List.dropWhile_append_of_pos h.isSchemeChar, List.dropWhile_cons_of_neg hcolon]
  have hlower : scheme.toList.map Char.toLower = scheme.toList := by
    calc scheme.toList.map Char.toLower
      _ = scheme.toList.map id := List.map_congr_left h.toLower
      _ = scheme.toList := List.map_id _
  simp only [splitScheme?, hhead, hdrop, htake, hlower, halpha, if_true, String.ofList_toList]

/-! ## Authorities -/

theorem splitLast?_of_not_mem {sign : Char} {chars : List Char} (h : sign ∉ chars) :
    splitLast? sign chars = none := by
  induction chars with
  | nil => rfl
  | cons c rest ih =>
    rw [List.mem_cons, not_or] at h
    rw [splitLast?, ih h.2]
    exact if_neg (Ne.symm h.1)

theorem endsAuthority_of_isAuthorityChar {c : Char} (h : isAuthorityChar c = true)
    (special : Bool) : endsAuthority special c = false :=
  endsAuthority_of_isSegmentChar (isSegmentChar_of_isAuthorityChar h) special

theorem endsAuthority_slash (special : Bool) : endsAuthority special '/' = true := by
  simp [endsAuthority, isSlash]

section

variable {text : List Char} (htext : ∀ c ∈ text, isAuthorityChar c = true) (path : List Char)

include htext

theorem takeWhile_endsAuthority (special : Bool) :
    (text ++ '/' :: path).takeWhile (fun c ↦ !endsAuthority special c) = text := by
  have hends : ∀ c ∈ text, (!endsAuthority special c) = true := by
    intro c hc
    rw [endsAuthority_of_isAuthorityChar (htext c hc), Bool.not_false]
  rw [List.takeWhile_append_of_pos hends,
    List.takeWhile_cons_of_neg (by simp [endsAuthority_slash]), List.append_nil]

theorem dropWhile_endsAuthority (special : Bool) :
    (text ++ '/' :: path).dropWhile (fun c ↦ !endsAuthority special c) = '/' :: path := by
  have hends : ∀ c ∈ text, (!endsAuthority special c) = true := by
    intro c hc
    rw [endsAuthority_of_isAuthorityChar (htext c hc), Bool.not_false]
  rw [List.dropWhile_append_of_pos hends,
    List.dropWhile_cons_of_neg (by simp [endsAuthority_slash])]

/-- Without the sign there are no credentials. -/
theorem splitCredentials_of_forall (special : Bool) :
    splitCredentials special (text ++ '/' :: path) = .ok (("", none), text ++ '/' :: path) := by
  have hsign : '@' ∉ text := by
    intro hmem
    exact (isAuthorityChar_iff.1 (htext _ hmem)).2.2.2.2.2 rfl
  simp only [splitCredentials, takeWhile_endsAuthority htext, splitLast?_of_not_mem hsign]

/-- The host ends at the slash of the path or at the colon of a port. -/
theorem splitHost_of_forall (special bracketed : Bool) : ∃ host port,
    text = host ++ port ∧ (port = [] ∨ ∃ digits, port = ':' :: digits) ∧
      splitHost special bracketed (text ++ '/' :: path) = (host, port ++ '/' :: path) := by
  induction text generalizing bracketed with
  | nil =>
    refine ⟨[], [], rfl, .inl rfl, ?_⟩
    rw [List.nil_append, splitHost, endsAuthority_slash, Bool.true_or, if_pos rfl]
  | cons c text ih =>
    have hends : endsAuthority special c = false :=
      endsAuthority_of_isAuthorityChar (htext c List.mem_cons_self) special
    rw [List.cons_append, splitHost, hends, Bool.false_or]
    split
    · rename_i hcolon
      rw [Bool.and_eq_true, beq_iff_eq] at hcolon
      exact ⟨[], c :: text, rfl, .inr ⟨text, by rw [hcolon.1]⟩, rfl⟩
    · obtain ⟨host, port, happend, hport, hsplit⟩ :=
        ih (fun d hd ↦ htext d (List.mem_cons_of_mem _ hd))
          (if c == '[' then true else if c == ']' then false else bracketed)
      refine ⟨c :: host, port, by rw [happend, List.cons_append], hport, ?_⟩
      simp only [hsplit]

/-- A port that is read ends at the slash of the path. -/
theorem rest_eq_of_readPort {usual : Option Nat} {port : Option Nat} {rest : List Char}
    (h : readPort usual (text ++ '/' :: path) = .ok (port, rest)) : rest = '/' :: path := by
  have hslash : ¬Char.isDigit '/' = true := by decide
  have hrest : rest = (text ++ '/' :: path).dropWhile Char.isDigit ∧
      (rest.head?.any fun c ↦ !endsAuthority true c) = false := by
    simp only [readPort] at h
    split at h
    · cases h
    · split at h
      · cases h
      · rename_i hhead
        cases h
        exact ⟨rfl, eq_false_of_ne_true hhead⟩
  obtain ⟨hdrop, hhead⟩ := hrest
  rw [List.dropWhile_append] at hdrop
  cases hdigits : text.dropWhile Char.isDigit with
  | nil =>
    rw [hdigits, List.isEmpty_nil, if_pos rfl, List.dropWhile_cons_of_neg hslash] at hdrop
    exact hdrop
  | cons c others =>
    -- what is left of the digits would have to end the authority
    have hmem : c ∈ text := by
      apply (List.dropWhile_suffix Char.isDigit).subset
      rw [hdigits]
      exact List.mem_cons_self
    have hends : endsAuthority true c = false :=
      endsAuthority_of_isAuthorityChar (htext c hmem) true
    rw [hdigits, List.isEmpty_cons, if_neg (by simp)] at hdrop
    rw [hdrop, List.cons_append, List.head?_cons, Option.any_some, hends] at hhead
    cases hhead

end

variable {domains : Domains}

/-- The steps of an authority that is read. -/
theorem of_readAuthority {kind : Kind} {chars rest : List Char} {authority : Authority}
    (h : readAuthority domains kind chars = .ok (authority, rest)) : ∃ credentials chars',
      splitCredentials kind.isSpecial chars = .ok (credentials, chars') ∧
      readHost domains kind (splitHost kind.isSpecial false chars').1
        (splitHost kind.isSpecial false chars').2 = .ok authority.host ∧
      readPort? kind.port? (splitHost kind.isSpecial false chars').2 =
        .ok (authority.port, rest) := by
  simp only [readAuthority, bind, Except.bind, pure, Except.pure] at h
  split at h
  · cases h
  rename_i parts hcredentials
  obtain ⟨credentials, chars'⟩ := parts
  simp only at h
  split at h
  · cases h
  rename_i host hhost
  split at h
  · cases h
  rename_i result hport
  obtain ⟨port, after⟩ := result
  simp only at h
  split at h
  · cases h
  cases h
  exact ⟨credentials, chars', hcredentials, hhost, hport⟩

/-- Behind the text of an authority the path is left. -/
theorem rest_eq_of_readAuthority {kind : Kind} {text path rest : List Char}
    (htext : ∀ c ∈ text, isAuthorityChar c = true) {authority : Authority}
    (h : readAuthority domains kind (text ++ '/' :: path) = .ok (authority, rest)) :
    rest = '/' :: path := by
  obtain ⟨credentials, chars, hcredentials, -, hport⟩ := of_readAuthority h
  rw [splitCredentials_of_forall htext] at hcredentials
  obtain ⟨-, rfl⟩ := Prod.mk.inj (Except.ok.inj hcredentials)
  obtain ⟨host, port, happend, hform, hsplit⟩ :=
    splitHost_of_forall htext path kind.isSpecial false
  rw [hsplit] at hport
  rcases hform with rfl | ⟨digits, rfl⟩
  · exact (Prod.mk.inj (Except.ok.inj hport)).2.symm
  · have hdigits : ∀ c ∈ digits, isAuthorityChar c = true := by
      intro c hc
      apply htext c
      rw [happend]
      exact List.mem_append_right _ (List.mem_cons_of_mem _ hc)
    exact rest_eq_of_readPort hdigits path hport

/-- The host that is read for a kind of scheme. -/
theorem isHost_of_readHost {kind : Kind} {chars rest : List Char} {host : Host}
    (h : readHost domains kind chars rest = .ok (some host)) :
    (∃ usual, kind = .web usual) ∧ IsWebHost domains host ∨
      (∀ usual, kind ≠ .web usual) ∧ IsOtherHost host := by
  unfold readHost at h
  split at h
  · split at h
    · cases h
    · cases hweb : Host.ofWeb domains chars with
      | error fault =>
        rw [hweb] at h
        cases h
      | ok other =>
        rw [hweb] at h
        cases h
        exact .inl ⟨⟨_, rfl⟩, isWebHost_of_ofWeb hweb⟩
  · rename_i hkind
    cases hother : Host.ofOther chars with
    | error fault =>
      rw [hother] at h
      cases h
    | ok found =>
      simp only [hother, bind, Except.bind] at h
      split at h
      · cases h
      · cases h
        exact .inr ⟨hkind, isOtherHost_of_ofOther hother⟩

theorem isAuthorityText_of_readHost {kind : Kind} {chars rest : List Char} {host : Host}
    (h : readHost domains kind chars rest = .ok (some host)) :
    IsAuthorityText host.text.toList := by
  rcases isHost_of_readHost h with ⟨-, hhost⟩ | ⟨-, hhost⟩
  · exact hhost.isAuthorityText
  · exact hhost.isAuthorityText

theorem isAuthorityText_of_readAuthority {kind : Kind} {chars rest : List Char}
    {authority : Authority} (h : readAuthority domains kind chars = .ok (authority, rest))
    {host : Host} (hhost : authority.host = some host) : IsAuthorityText host.text.toList := by
  obtain ⟨credentials, chars', -, hread, -⟩ := of_readAuthority h
  rw [hhost] at hread
  exact isAuthorityText_of_readHost hread

/-! ## Addresses that were read -/

/-- The scheme of an address and the text of its host can be written again. -/
structure IsOrigin (url : Url) : Prop where
  isSchemeText : IsSchemeText url.scheme
  isAuthorityText : ∀ host, url.host? = some host → IsAuthorityText host.text.toList

/-- The host of a file is the one given, and not the local one. -/
theorem of_host?_filePath {given : Option Host} {chars : List Char} {host : Host}
    (h : (filePath given chars).host? = some host) :
    given = some host ∧ host ≠ .name "localhost" := by
  simp only [filePath, host?, Option.bind_some] at h
  split at h
  · cases h
  · rename_i hkept
    subst h
    rw [Bool.or_eq_true, not_or, beq_iff_eq, Option.some.injEq] at hkept
    exact ⟨rfl, hkept.2⟩

theorem of_readWeb {scheme : String} {port : Nat} {chars : List Char} {url : Url}
    (h : readWeb domains scheme port chars = .ok url) : ∃ authority rest,
      readAuthority domains (.web port) (chars.dropWhile (isSlash true)) = .ok (authority, rest) ∧
        url = withAuthority scheme authority rest := by
  simp only [readWeb, bind, Except.bind, pure, Except.pure] at h
  split at h
  · cases h
  · rename_i result hread
    cases h
    exact ⟨result.1, result.2, hread, rfl⟩

theorem of_readFile {chars : List Char} {url : Url} (h : readFile domains chars = .ok url) :
    ∃ given rest,
      (∀ host, given = some host → ∃ hostChars, Host.ofWeb domains hostChars = .ok host) ∧
        url = filePath given rest := by
  have hnone : ∀ host : Host, none = some host →
      ∃ hostChars, Host.ofWeb domains hostChars = .ok host := by
    intro host hhost
    cases hhost
  unfold readFile at h
  split at h
  · split at h
    · simp only [bind, Except.bind, pure, Except.pure] at h
      split at h
      · cases h
        exact ⟨none, _, hnone, rfl⟩
      · split at h
        · cases h
        · rename_i other hother
          cases h
          refine ⟨some other, _, ?_, rfl⟩
          intro host hhost
          cases hhost
          exact ⟨_, hother⟩
    · cases h
      exact ⟨none, _, hnone, rfl⟩
  · cases h
    exact ⟨none, _, hnone, rfl⟩

theorem isOrigin_of_readOther {scheme : String} (hscheme : IsSchemeText scheme)
    {chars : List Char} {url : Url} (h : readOther domains scheme chars = .ok url) :
    IsOrigin url := by
  unfold readOther at h
  split at h
  · simp only [bind, Except.bind, pure, Except.pure] at h
    split at h
    · cases h
    · rename_i hread
      cases h
      exact ⟨hscheme, fun host hhost ↦ isAuthorityText_of_readAuthority hread hhost⟩
  · simp only at h
    split at h
    · cases h
      exact ⟨hscheme, fun host hhost ↦ nomatch hhost⟩
    · cases h
      exact ⟨hscheme, fun host hhost ↦ nomatch hhost⟩

theorem eq_file_of_kind {scheme : String} (h : kind scheme = .file) : scheme = "file" := by
  unfold kind at h
  split at h
  · cases h
  · split at h
    · cases h
    · split at h
      · cases h
      · split at h
        · assumption
        · cases h

/-- Whatever address is read, its scheme and its host can be written again. -/
theorem isOrigin_of_ofText {text : String} {url : Url} (h : ofText domains text = .ok url) :
    IsOrigin url := by
  unfold ofText at h
  split at h
  · cases h
  rename_i scheme rest hsplit
  have hscheme : IsSchemeText scheme := isSchemeText_of_splitScheme? hsplit
  split at h
  · obtain ⟨authority, after, hread, rfl⟩ := of_readWeb h
    exact ⟨hscheme, fun host hhost ↦ isAuthorityText_of_readAuthority hread hhost⟩
  · rename_i hkind
    obtain ⟨given, after, hgiven, rfl⟩ := of_readFile h
    rw [eq_file_of_kind hkind] at hscheme
    refine ⟨hscheme, fun host hhost ↦ ?_⟩
    obtain ⟨hostChars, hread⟩ := hgiven host (of_host?_filePath hhost).1
    exact (isWebHost_of_ofWeb hread).isAuthorityText
  · exact isOrigin_of_readOther hscheme h

/-- The text of a host stays the text of an authority with a port behind it. -/
theorem IsAuthorityText.append_portText {chars : List Char} (h : IsAuthorityText chars)
    (port : Option Nat) : IsAuthorityText (chars ++ (portText port).toList) := by
  cases port with
  | none =>
    rw [show (portText none).toList = [] from rfl, List.append_nil]
    exact h
  | some n =>
    have htext : (portText (some n)).toList = ':' :: (toString n).toList := by
      rw [portText, String.toList_append]
      rfl
    have hdigits : (toString n).toList ≠ [] := by
      rw [Nat.toString_eq_repr, Nat.toList_repr]
      exact Nat.toDigits_ne_nil
    rw [htext]
    refine ⟨?_, ?_, ?_⟩
    · exact List.append_ne_nil_of_left_ne_nil h.ne_nil _
    · intro c hc
      rcases List.mem_append.1 hc with hc | hc
      · exact h.isAuthorityChar c hc
      · rcases List.mem_cons.1 hc with rfl | hc
        · decide
        · exact (isDigitOf_of_mem_toString hc).isAuthorityChar
    · -- a drive has two characters, and here are three at least
      have hlength : 3 ≤ (chars ++ ':' :: (toString n).toList).length := by
        have hhost := List.length_pos_iff.2 h.ne_nil
        have hport := List.length_pos_iff.2 hdigits
        rw [List.length_append, List.length_cons]
        omega
      unfold isDrive
      split
      · rename_i heq
        rw [heq] at hlength
        exact absurd hlength (Nat.not_succ_le_self 2)
      · rfl

/-! ## Addresses that are written -/

/-- The path that is read behind a scheme, two slashes and an authority: a walk along the segments,
with the marks of drives and without empty segments at the start for a file. -/
def IsPathOf (segments : List (List Char)) (path : Path) : Prop :=
  path = .rooted (walk [] segments) ∨
    path = .rooted (withoutLeadingEmpty (walk [] (findDrive [] segments).2))

section

variable {segments : List (List Char)} (hne : segments ≠ [])
  (hsegments : ∀ s ∈ segments, ∀ c ∈ s, isSegmentChar c = true)

include hsegments

theorem endsPath_of_mem_slashed : ∀ c ∈ slashed segments, endsPath c = false := by
  intro c hc
  obtain ⟨s, hs, hmem⟩ := List.mem_flatMap.1 hc
  rcases List.mem_cons.1 hmem with rfl | hmem
  · decide
  · exact endsPath_of_isSegmentChar (hsegments s hs c hmem)

theorem takeWhile_endsPath :
    (slashed segments).takeWhile (fun c ↦ !endsPath c) = slashed segments := by
  have hends : ∀ c ∈ slashed segments, (!endsPath c) = true := by
    intro c hc
    rw [endsPath_of_mem_slashed hsegments c hc, Bool.not_false]
  calc (slashed segments).takeWhile (fun c ↦ !endsPath c)
    _ = (slashed segments ++ []).takeWhile (fun c ↦ !endsPath c) := by rw [List.append_nil]
    _ = slashed segments ++ [].takeWhile (fun c ↦ !endsPath c) :=
      List.takeWhile_append_of_pos hends
    _ = slashed segments := List.append_nil _

include hne

theorem rawSegments_slashed (kind : Kind) : rawSegments kind (slashed segments) = segments := by
  cases segments with
  | nil => exact absurd rfl hne
  | cons first others =>
    have hslash : isSlash kind.isSpecial '/' = true := rfl
    have hparts : ∀ p ∈ first :: others, ∀ c ∈ p, isSlash kind.isSpecial c = false := by
      intro p hp c hc
      exact isSlash_of_isSegmentChar (hsegments p hp c hc) _
    have hraw : rawSegments kind (slashed (first :: others)) =
        splitWhere (isSlash kind.isSpecial) (first ++ slashed others) := rfl
    rw [hraw]
    exact splitWhere_slashed hslash hparts

theorem path_withAuthority (scheme : String) (authority : Authority) :
    (withAuthority scheme authority (slashed segments)).path = .rooted (walk [] segments) := by
  have hempty : (slashed segments).isEmpty = false := by
    cases segments with
    | nil => exact absurd rfl hne
    | cons first others => rfl
  simp only [withAuthority, takeWhile_endsPath hsegments, readSegments, hempty, Bool.false_and,
    rawSegments_slashed hne hsegments]
  rfl

theorem path_filePath (given : Option Host) : (filePath given (slashed segments)).path =
    .rooted (withoutLeadingEmpty (walk [] (findDrive [] segments).2)) := by
  simp only [filePath, takeWhile_endsPath hsegments, rawSegments_slashed hne hsegments]

end

theorem low_of_mem_written {scheme : String} (hscheme : IsSchemeText scheme)
    {authority : List Char} (hauthority : IsAuthorityText authority)
    {segments : List (List Char)}
    (hsegments : ∀ s ∈ segments, ∀ c ∈ s, isSegmentChar c = true) :
    ∀ c ∈ scheme.toList ++ ':' :: '/' :: '/' :: (authority ++ slashed segments),
      0x20 < c.toNat := by
  intro c hc
  simp only [List.mem_append, List.mem_cons, slashed, List.mem_flatMap] at hc
  rcases hc with hc | rfl | rfl | rfl | hc | ⟨s, hs, rfl | hc⟩
  · exact (isSegmentChar_iff.1 (isSegmentChar_of_isSchemeChar (hscheme.isSchemeChar c hc))).1
  · decide
  · decide
  · decide
  · exact (isAuthorityChar_iff.1 (hauthority.isAuthorityChar c hc)).1
  · decide
  · exact (isSegmentChar_iff.1 (hsegments s hs c hc)).1

theorem dropWhile_isSlash {authority : List Char} (hauthority : IsAuthorityText authority)
    (rest : List Char) : (authority ++ rest).dropWhile (isSlash true) = authority ++ rest := by
  cases authority with
  | nil => exact absurd rfl hauthority.ne_nil
  | cons c others =>
    have hslash : isSlash true c = false := isSlash_of_isSegmentChar
      (isSegmentChar_of_isAuthorityChar (hauthority.isAuthorityChar c List.mem_cons_self)) true
    exact List.dropWhile_cons_of_neg (by simp [hslash])

/-- An address written from a scheme, an authority and segments has the path of these segments. -/
theorem isPathOf_of_ofText {scheme : String} (hscheme : IsSchemeText scheme)
    {authority : List Char} (hauthority : IsAuthorityText authority)
    {segments : List (List Char)} (hne : segments ≠ [])
    (hsegments : ∀ s ∈ segments, ∀ c ∈ s, isSegmentChar c = true) {text : String}
    (htext : text.toList = scheme.toList ++ ':' :: '/' :: '/' :: (authority ++ slashed segments))
    {url : Url} (h : ofText domains text = .ok url) : IsPathOf segments url.path := by
  have hlow : ∀ c ∈ text.toList, 0x20 < c.toNat := by
    rw [htext]
    exact low_of_mem_written hscheme hauthority hsegments
  obtain ⟨path, hpath⟩ : ∃ path, slashed segments = '/' :: path := by
    cases segments with
    | nil => exact absurd rfl hne
    | cons first others => exact ⟨_, slashed_cons first others⟩
  have hread {kind : Kind} {found : Authority} {rest : List Char}
      (hfound : readAuthority domains kind (authority ++ slashed segments) = .ok (found, rest)) :
      rest = slashed segments := by
    rw [hpath] at hfound ⊢
    exact rest_eq_of_readAuthority hauthority.isAuthorityChar hfound
  rw [ofText, significant_of_forall hlow, htext, splitScheme?_of_isSchemeText hscheme] at h
  simp only at h
  split at h
  · -- the web: all slashes lead to the authority
    obtain ⟨found, rest, hfound, rfl⟩ := of_readWeb h
    rw [List.dropWhile_cons_of_pos rfl, List.dropWhile_cons_of_pos rfl,
      dropWhile_isSlash hauthority] at hfound
    rw [hread hfound]
    exact .inl (path_withAuthority hne hsegments scheme found)
  · -- files: a host that is neither empty nor a drive
    have hhost : (authority ++ slashed segments).takeWhile (fun c ↦ !endsAuthority true c) =
        authority := by
      rw [hpath]
      exact takeWhile_endsAuthority hauthority.isAuthorityChar path true
    have hrest : (authority ++ slashed segments).dropWhile (fun c ↦ !endsAuthority true c) =
        slashed segments := by
      rw [hpath]
      exact dropWhile_endsAuthority hauthority.isAuthorityChar path true
    have hempty : authority.isEmpty = false := List.isEmpty_eq_false_iff.2 hauthority.ne_nil
    have hslash : isSlash true '/' = true := rfl
    simp only [readFile, hslash, Bool.and_self, if_true, hhost, hrest, hempty,
      hauthority.not_drive, Bool.or_self, Bool.false_eq_true, if_false, bind, Except.bind, pure,
      Except.pure] at h
    split at h
    · cases h
    · cases h
      exact .inr (path_filePath hne hsegments _)
  · -- any other scheme: two slashes lead to the authority
    simp only [readOther, bind, Except.bind, pure, Except.pure] at h
    split at h
    · cases h
    · rename_i result hfound
      cases h
      rw [hread hfound]
      exact .inl (path_withAuthority hne hsegments scheme result.1)

end NamespaceLifecycle.Url
