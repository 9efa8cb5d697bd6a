import NamespaceLifecycle.Proofs.Text.Percent
import NamespaceLifecycle.Url.Basic

/-!
# The text of a host

A host that is read comes in one form: a name of the web without escapes and in lower case, a
numeric address, or a name of any other scheme with its escapes. Its text holds no character that
would end an authority or stand for credentials, no blank at all, and it is never taken for a drive.
With a port behind it this stays so.
-/

namespace NamespaceLifecycle.Url

open Text

/-- A character that may stand in the text of a host or a port. -/
def isAuthorityChar (c : Char) : Bool :=
  decide (0x20 < c.toNat) && !"/\\?#@".toList.contains c

/-- A text that can stand as an authority without credentials. -/
structure IsAuthorityText (chars : List Char) : Prop where
  ne_nil : chars ≠ []
  isAuthorityChar : ∀ c ∈ chars, isAuthorityChar c = true
  not_drive : isDrive chars = false

theorem isDrive_eq_false_of_ne {chars : List Char} (h : ∀ c ∈ chars, c ≠ ':' ∧ c ≠ '|') :
    isDrive chars = false := by
  unfold isDrive
  split
  · rename_i letter mark
    obtain ⟨hcolon, hbar⟩ := h mark (by simp)
    simp [hcolon, hbar]
  · rfl

/-! ## Numbers -/

theorem mem_toDigits {base : Nat} (hbase : 1 < base) {n : Nat} {c : Char}
    (h : c ∈ Nat.toDigits base n) : ∃ d < base, c = Nat.digitChar d := by
  induction n using Nat.strongRecOn with
  | ind n ih =>
    rw [Nat.toDigits_eq_if hbase] at h
    split at h
    · rename_i hn
      exact ⟨n, hn, List.mem_singleton.1 h⟩
    · rename_i hn
      rcases List.mem_append.1 h with h | h
      · exact ih (n / base) (Nat.div_lt_self (by omega) hbase) h
      · exact ⟨n % base, Nat.mod_lt n (by omega), List.mem_singleton.1 h⟩

/-- A character of a number in base sixteen, in lower case. -/
def IsDigitOf (c : Char) : Prop := ∃ d < 16, c = Nat.digitChar d

theorem isDigitOf_of_mem_toString {n : Nat} {c : Char} (h : c ∈ (toString n).toList) :
    IsDigitOf c := by
  rw [Nat.toString_eq_repr, Nat.toList_repr] at h
  obtain ⟨d, hd, hc⟩ := mem_toDigits (by decide) h
  exact ⟨d, by omega, hc⟩

theorem isDigitOf_of_mem_lowerHex {n : Nat} {c : Char} (h : c ∈ (lowerHex n).toList) :
    IsDigitOf c := by
  rw [lowerHex, String.toList_ofList] at h
  exact mem_toDigits (by decide) h

theorem IsDigitOf.isAuthorityChar {c : Char} (h : IsDigitOf c) : isAuthorityChar c = true := by
  obtain ⟨d, hd, rfl⟩ := h
  revert d
  decide

theorem IsDigitOf.ne {c : Char} (h : IsDigitOf c) : c ≠ ':' ∧ c ≠ '|' := by
  obtain ⟨d, hd, rfl⟩ := h
  revert d
  decide

theorem IsDigitOf.isNameChar {c : Char} (h : IsDigitOf c) :
    isNameChar c = true ∧ c.toLower = c := by
  obtain ⟨d, hd, rfl⟩ := h
  revert d
  decide

/-! ## Addresses -/

theorem mem_ipv4Text {address : UInt32} {c : Char} (h : c ∈ (ipv4Text address).toList) :
    c = '.' ∨ IsDigitOf c := by
  have hpoint : ".".toList = ['.'] := rfl
  simp only [ipv4Text, String.toList_append, List.mem_append, hpoint, List.mem_singleton] at h
  rcases h with (((((h | h) | h) | h) | h) | h) | h
  · exact .inr (isDigitOf_of_mem_toString h)
  · exact .inl h
  · exact .inr (isDigitOf_of_mem_toString h)
  · exact .inl h
  · exact .inr (isDigitOf_of_mem_toString h)
  · exact .inl h
  · exact .inr (isDigitOf_of_mem_toString h)

theorem mem_groupsText {groups : List UInt16} {c : Char} (h : c ∈ (groupsText groups).toList) :
    c = ':' ∨ IsDigitOf c := by
  unfold groupsText at h
  induction groups with
  | nil =>
    rw [List.map_nil, String.intercalate_nil] at h
    cases h
  | cons group groups ih =>
    cases groups with
    | nil =>
      rw [List.map_cons, List.map_nil, String.intercalate_singleton] at h
      exact .inr (isDigitOf_of_mem_lowerHex h)
    | cons next groups =>
      rw [List.map_cons, List.map_cons, String.intercalate_cons_cons, String.toList_append,
        String.toList_append, List.mem_append, List.mem_append] at h
      rcases h with (h | h) | h
      · exact .inr (isDigitOf_of_mem_lowerHex h)
      · exact .inl (List.mem_singleton.1 h)
      · exact ih h

theorem mem_ipv6_text {address : Ipv6} {c : Char} (h : c ∈ address.text.toList) :
    c = ':' ∨ IsDigitOf c := by
  have hcolons : "::".toList = [':', ':'] := rfl
  unfold Ipv6.text at h
  split at h
  split at h
  · exact mem_groupsText h
  · simp only [String.toList_append, List.mem_append, hcolons, List.mem_cons, List.not_mem_nil,
      or_false, or_self] at h
    rcases h with (h | h) | h
    · exact mem_groupsText h
    · exact .inl h
    · exact mem_groupsText h

/-! ## Hosts -/

theorem isAuthorityChar_iff {c : Char} : isAuthorityChar c = true ↔
    0x20 < c.toNat ∧ c ≠ '/' ∧ c ≠ '\\' ∧ c ≠ '?' ∧ c ≠ '#' ∧ c ≠ '@' := by
  have hsigns : "/\\?#@".toList = ['/', '\\', '?', '#', '@'] := rfl
  simp [isAuthorityChar, hsigns]

theorem isAuthorityChar_of_isNameChar {c : Char} (h : isNameChar c = true) :
    isAuthorityChar c = true ∧ c ≠ ':' ∧ c ≠ '|' := by
  have hsigns : "%#/:<>?@[\\]^|".toList =
      ['%', '#', '/', ':', '<', '>', '?', '@', '[', '\\', ']', '^', '|'] := rfl
  rw [isAuthorityChar_iff]
  simp [isNameChar, hsigns] at h
  simp [h]

theorem isAuthorityChar_of_not_isForbiddenInHost {c : Char} (hprintable : isPrintableAscii c = true)
    (h : isForbiddenInHost c = false) : isAuthorityChar c = true ∧ c ≠ ':' ∧ c ≠ '|' := by
  have hsigns : "\x00\t\n\r #/:<>?@[\\]^|".toList = ['\x00', '\t', '\n', '\r', ' ', '#', '/', ':',
      '<', '>', '?', '@', '[', '\\', ']', '^', '|'] := rfl
  simp [isForbiddenInHost, hsigns] at h
  simp only [isPrintableAscii, decide_eq_true_eq] at hprintable
  have hspace : c.toNat ≠ 0x20 := by
    intro heq
    have hc : c = ' ' := Char.toNat_inj.1 heq
    simp [hc] at h
  have hlow : 0x20 < c.toNat := by omega
  rw [isAuthorityChar_iff]
  simp [h, hlow]

theorem isAuthorityText_of_forall {chars : List Char} (hne : chars ≠ [])
    (h : ∀ c ∈ chars, isAuthorityChar c = true ∧ c ≠ ':' ∧ c ≠ '|') : IsAuthorityText chars where
  ne_nil := hne
  isAuthorityChar c hc := (h c hc).1
  not_drive := isDrive_eq_false_of_ne fun c hc ↦ (h c hc).2

theorem isAuthorityText_ipv4 (address : UInt32) :
    IsAuthorityText (Host.ipv4 address).text.toList where
  ne_nil := by
    simp [Host.text, ipv4Text, String.toList_append]
  isAuthorityChar c h := by
    rcases mem_ipv4Text h with rfl | h
    · decide
    · exact h.isAuthorityChar
  not_drive := by
    apply isDrive_eq_false_of_ne
    intro c h
    rcases mem_ipv4Text h with rfl | h
    · decide
    · exact h.ne

theorem isAuthorityText_ipv6 (address : Ipv6) :
    IsAuthorityText (Host.ipv6 address).text.toList := by
  have htext : (Host.ipv6 address).text.toList = '[' :: (address.text.toList ++ [']']) := by
    simp [Host.text, String.toList_append]
  rw [htext]
  refine ⟨List.cons_ne_nil _ _, fun c h ↦ ?_, ?_⟩
  · rcases List.mem_cons.1 h with rfl | h
    · decide
    · rcases List.mem_append.1 h with h | h
      · rcases mem_ipv6_text h with rfl | h
        · decide
        · exact h.isAuthorityChar
      · rw [List.mem_singleton.1 h]
        decide
  · unfold isDrive
    split
    · rename_i letter mark hlist
      rw [← (List.cons.inj hlist).1]
      rfl
    · rfl

/-! ## Names -/

/-- A name of the web in the one form in which it is written. -/
structure IsWebName (name : List Char) : Prop where
  ne_nil : name ≠ []
  isNameChar : ∀ c ∈ name, isNameChar c = true
  toLower : ∀ c ∈ name, c.toLower = c

theorem isNameChar_iff {c : Char} : isNameChar c = true ↔
    (0x20 < c.toNat ∧ c.toNat < 0x7f) ∧ c ∉ "%#/:<>?@[\\]^|".toList := by
  simp [isNameChar]

theorem IsWebName.not_mem {name : List Char} (h : IsWebName name) {c : Char}
    (hc : c ∈ "%#/:<>?@[\\]^|".toList) : c ∉ name :=
  fun hmem ↦ (isNameChar_iff.1 (h.isNameChar c hmem)).2 hc

/-- A name of any other scheme in the one form in which it is written. -/
structure IsOtherName (name : List Char) : Prop where
  ne_nil : name ≠ []
  isPrintableAscii : ∀ c ∈ name, isPrintableAscii c = true
  not_isForbiddenInHost : ∀ c ∈ name, isForbiddenInHost c = false

theorem IsOtherName.not_mem {name : List Char} (h : IsOtherName name) {c : Char}
    (hc : isForbiddenInHost c = true) : c ∉ name :=
  fun hmem ↦ Bool.false_ne_true ((h.not_isForbiddenInHost c hmem).symm.trans hc)

/-- A name with its escapes is in this form. -/
theorem isOtherName_encodeChars {chars : List Char} (hne : chars ≠ [])
    (hchars : ∀ c ∈ chars, isForbiddenInHost c = false) :
    IsOtherName (Percent.encodeChars isPrintableAscii chars) := by
  have hforms : ∀ c ∈ Percent.encodeChars isPrintableAscii chars,
      isPrintableAscii c = true ∧ isForbiddenInHost c = false := by
    intro c hc
    rcases Percent.mem_encodeChars hc with ⟨hmem, hprintable⟩ | hescape
    · exact ⟨hprintable, hchars c hmem⟩
    · have hall : "%0123456789ABCDEF".toList.all
          (fun d ↦ decide (isPrintableAscii d = true ∧ isForbiddenInHost d = false)) = true := by
        decide
      exact of_decide_eq_true (List.all_eq_true.1 hall c (List.contains_iff_mem.1 hescape))
  exact ⟨Percent.encodeChars_ne_nil hne, fun c hc ↦ (hforms c hc).1, fun c hc ↦ (hforms c hc).2⟩

/-! ## Hosts that are read -/

inductive IsWebHost (domains : Domains) : Host → Prop where
  | ipv6 (address : Ipv6) : IsWebHost domains (.ipv6 address)
  | ipv4 (address : UInt32) : IsWebHost domains (.ipv4 address)
  | name {name : String} (hname : IsWebName name.toList)
    (hascii : domains.toAscii? name = some name) (hnumber : endsInNumber name.toList = false) :
    IsWebHost domains (.name name)

inductive IsOtherHost : Host → Prop where
  | ipv6 (address : Ipv6) : IsOtherHost (.ipv6 address)
  | name {name : List Char} (hname : IsOtherName name) : IsOtherHost (.name (String.ofList name))

/-- What stands between brackets is an address of eight groups. -/
theorem exists_ipv6_of_bracketed? {chars : List Char} {host : Host}
    (h : bracketed? chars = some (.ok host)) : ∃ address, host = .ipv6 address := by
  unfold bracketed? at h
  split at h
  · rw [Option.some.injEq] at h
    split at h
    · cases h
      exact ⟨_, rfl⟩
    · cases h
  · cases h

variable {domains : Domains}

/-- What a domain is in ASCII is a name of the web, unless it is empty. -/
theorem isWebName_of_toAscii? {domain name : String} (h : domains.toAscii? domain = some name)
    (hempty : name ≠ "") : IsWebName name.toList where
  ne_nil hnil := hempty (String.toList_eq_nil_iff.1 hnil)
  isNameChar c hc := (domains.isName_of_toAscii? h c hc).1
  toLower c hc := (domains.isName_of_toAscii? h c hc).2

theorem isWebHost_of_ofWeb {chars : List Char} {host : Host}
    (h : Host.ofWeb domains chars = .ok host) : IsWebHost domains host := by
  unfold Host.ofWeb at h
  split at h
  · rename_i hbracketed
    subst h
    obtain ⟨address, rfl⟩ := exists_ipv6_of_bracketed? hbracketed
    exact .ipv6 address
  · split at h
    · cases h
    rename_i name hname
    split at h
    · cases h
    rename_i hempty
    split at h
    · split at h
      · cases h
        exact .ipv4 _
      · cases h
    rename_i hnumber
    cases h
    exact .name (isWebName_of_toAscii? hname hempty) (domains.toAscii?_toAscii? hname)
      (eq_false_of_ne_true hnumber)

theorem isOtherHost_of_ofOther {chars : List Char} {host : Host}
    (h : Host.ofOther chars = .ok (some host)) : IsOtherHost host := by
  unfold Host.ofOther at h
  split at h
  · rename_i found hbracketed
    cases found with
    | error fault => cases h
    | ok other =>
      cases h
      obtain ⟨address, rfl⟩ := exists_ipv6_of_bracketed? hbracketed
      exact .ipv6 address
  · split at h
    · cases h
    rename_i hforbidden
    split at h
    · cases h
    rename_i hempty
    cases h
    rw [Bool.not_eq_true, List.any_eq_false] at hforbidden
    exact .name (isOtherName_encodeChars (fun hnil ↦ hempty (List.isEmpty_iff.2 hnil))
      fun c hc ↦ eq_false_of_ne_true (hforbidden c hc))

/-- A host of the web has the text of an authority. -/
theorem IsWebHost.isAuthorityText {host : Host} (h : IsWebHost domains host) :
    IsAuthorityText host.text.toList := by
  cases h with
  | ipv6 address => exact isAuthorityText_ipv6 address
  | ipv4 address => exact isAuthorityText_ipv4 address
  | name hname _ _ =>
    exact isAuthorityText_of_forall hname.ne_nil fun c hc ↦
      isAuthorityChar_of_isNameChar (hname.isNameChar c hc)

/-- A host of any other scheme has the text of an authority. -/
theorem IsOtherHost.isAuthorityText {host : Host} (h : IsOtherHost host) :
    IsAuthorityText host.text.toList := by
  cases h with
  | ipv6 address => exact isAuthorityText_ipv6 address
  | name hname =>
    rw [Host.text, String.toList_ofList]
    exact isAuthorityText_of_forall hname.ne_nil fun c hc ↦
      isAuthorityChar_of_not_isForbiddenInHost (hname.isPrintableAscii c hc)
        (hname.not_isForbiddenInHost c hc)

end NamespaceLifecycle.Url
