import Mathlib.Data.List.Basic
import NamespaceLifecycle.Proofs.Json.Scalar
import NamespaceLifecycle.Proofs.Text.Utf8
import NamespaceLifecycle.Proofs.Url.Ip
import NamespaceLifecycle.Proofs.Url.Reader

/-!
# Hosts and ports that were written

A host that is read is written in the one form in which it is read again as it is: a name of the web
without escapes and in lower case, a numeric address in its canonical text, and any other name with
its escapes. A port that is read is not the usual one of the scheme, so it is written and found
again. Hence an address that is written behind such an origin has the same origin, and no
credentials, query or fragment.
-/

namespace NamespaceLifecycle.Url

open Text

/-! ## Names -/

theorem bracketed?_of_not_mem {chars : List Char} (h : '[' ∉ chars) : bracketed? chars = none := by
  unfold bracketed?
  split
  · exact absurd List.mem_cons_self h
  · rfl

variable {domains : Domains}

section

variable {name : String} (h : IsWebName name.toList)

include h

/-- A name of the web has no escapes. -/
theorem IsWebName.decode_eq : Utf8.lenient (Percent.decode name) = name := by
  rw [Percent.decode_of_not_mem (h.not_mem (by decide)), Utf8.lenient_bytes]

theorem IsWebName.bracketed?_eq : bracketed? name.toList = none :=
  bracketed?_of_not_mem (h.not_mem (by decide))

theorem IsWebName.ne_empty : name ≠ "" := fun hempty ↦ h.ne_nil (String.toList_eq_nil_iff.2 hempty)

/-- A name of the web that does not end in a number is read as it is. -/
theorem IsWebName.ofWeb_of_name (hascii : domains.toAscii? name = some name)
    (hnumber : endsInNumber name.toList = false) :
    Host.ofWeb domains name.toList = .ok (.name name) := by
  simp only [Host.ofWeb, h.bracketed?_eq, String.ofList_toList, h.decode_eq, hascii,
    if_neg h.ne_empty, hnumber, Bool.false_eq_true, if_false]

/-- A name of the web that is meant as an address is read as that address. -/
theorem IsWebName.ofWeb_of_ipv4 (hascii : domains.toAscii? name = some name)
    (hnumber : endsInNumber name.toList = true) {address : UInt32}
    (haddress : ipv4? name.toList = some address) :
    Host.ofWeb domains name.toList = .ok (.ipv4 address) := by
  simp only [Host.ofWeb, h.bracketed?_eq, String.ofList_toList, h.decode_eq, hascii,
    if_neg h.ne_empty, hnumber, haddress, if_true]

end

/-- A name of the web without an x has no encoded label. -/
theorem IsWebName.toAscii?_eq {name : String} (h : IsWebName name.toList)
    (hx : 'x' ∉ name.toList) : domains.toAscii? name = some name := by
  have hlower : name.toLower = name := toLower_of_forall h.toLower
  have hplain : isPlainDomain name = true := by
    rw [isPlainDomain, hlower, Bool.and_eq_true, List.all_eq_true, List.all_eq_true]
    refine ⟨fun c hc ↦ ?_, fun label hlabel ↦ ?_⟩
    · have hc := (isNameChar_iff.1 (h.isNameChar c hc)).1
      exact decide_eq_true (by omega)
    · rw [Bool.not_eq_true', Bool.eq_false_iff]
      intro hencoded
      apply hx
      apply mem_of_mem_splitWhere hlabel
      exact (List.isPrefixOf_iff_prefix.1 hencoded).subset (by decide)
  have hall : name.toList.all Url.isNameChar = true := List.all_eq_true.2 h.isNameChar
  rw [domains.toAscii?_of_isPlainDomain hplain, hlower, if_pos hall]

theorem isWebName_ipv4Text (address : UInt32) : IsWebName (ipv4Text address).toList where
  ne_nil := (isAuthorityText_ipv4 address).ne_nil
  isNameChar c hc := by
    rcases mem_ipv4Text hc with rfl | hdigit
    · decide
    · exact hdigit.isNameChar.1
  toLower c hc := by
    rcases mem_ipv4Text hc with rfl | hdigit
    · decide
    · exact hdigit.isNameChar.2

theorem toAscii?_ipv4Text (address : UInt32) :
    domains.toAscii? (ipv4Text address) = some (ipv4Text address) := by
  apply (isWebName_ipv4Text address).toAscii?_eq
  intro hx
  rcases mem_ipv4Text hx with hpoint | ⟨d, hd, hdigit⟩
  · exact absurd hpoint (by decide)
  · revert d
    decide

/-- A name of any other scheme is read as it is. -/
theorem IsOtherName.ofOther {name : List Char} (h : IsOtherName name) :
    Host.ofOther name = .ok (some (.name (String.ofList name))) := by
  have hbracket : bracketed? name = none := bracketed?_of_not_mem (h.not_mem (by decide))
  have hany : name.any isForbiddenInHost = false := by
    rw [List.any_eq_false]
    intro c hc
    rw [h.not_isForbiddenInHost c hc]
    exact Bool.false_ne_true
  have hempty : name.isEmpty = false := List.isEmpty_eq_false_iff.2 h.ne_nil
  simp only [Host.ofOther, hbracket, hany, hempty,
    Percent.encodeChars_of_forall h.isPrintableAscii, Bool.false_eq_true, if_false]

/-! ## Hosts -/

theorem toList_text_ipv6 (address : Ipv6) :
    (Host.ipv6 address).text.toList = '[' :: (address.text.toList ++ [']']) := by
  simp [Host.text, String.toList_append]

theorem bracketed?_text (address : Ipv6) :
    bracketed? (Host.ipv6 address).text.toList = some (.ok (.ipv6 address)) := by
  rw [toList_text_ipv6]
  simp only [bracketed?, List.getLast?_concat, List.dropLast_concat, ipv6?_text]

/-- A host of the web is read again as it is written. -/
theorem IsWebHost.ofWeb_text {host : Host} (h : IsWebHost domains host) :
    Host.ofWeb domains host.text.toList = .ok host := by
  cases h with
  | ipv6 address => rw [Host.ofWeb, bracketed?_text]
  | ipv4 address =>
    exact (isWebName_ipv4Text address).ofWeb_of_ipv4 (toAscii?_ipv4Text address)
      (endsInNumber_ipv4Text address) (ipv4?_ipv4Text address)
  | name hname hascii hnumber => exact hname.ofWeb_of_name hascii hnumber

/-- A host of any other scheme is read again as it is written. -/
theorem IsOtherHost.ofOther_text {host : Host} (h : IsOtherHost host) :
    Host.ofOther host.text.toList = .ok (some host) := by
  cases h with
  | ipv6 address =>
    rw [Host.ofOther, bracketed?_text]
    rfl
  | name hname => rw [Host.text, String.toList_ofList, hname.ofOther]

/-! ## Hosts before a port or a path -/

/-- Text in which no host ends; a colon only stands between brackets. -/
theorem splitHost_append {special bracketed : Bool} {text : List Char}
    (htext : ∀ c ∈ text,
      isAuthorityChar c = true ∧ c ≠ '[' ∧ c ≠ ']' ∧ (c = ':' → bracketed = true))
    (rest : List Char) : splitHost special bracketed (text ++ rest) =
      (text ++ (splitHost special bracketed rest).1, (splitHost special bracketed rest).2) := by
  induction text with
  | nil => rfl
  | cons c text ih =>
    rw [List.forall_mem_cons] at htext
    obtain ⟨⟨hc, hopen, hclose, hcolon⟩, htext⟩ := htext
    have hends : (endsAuthority special c || c == ':' && !bracketed) = false := by
      rw [endsAuthority_of_isAuthorityChar hc, Bool.false_or, Bool.and_eq_false_iff]
      by_cases h : c = ':'
      · exact .inr (by rw [hcolon h]; rfl)
      · exact .inl (beq_eq_false_iff_ne.2 h)
    rw [List.cons_append, splitHost, hends]
    simp only [beq_iff_eq, hopen, hclose, if_false, Bool.false_eq_true, ih htext, List.cons_append]

/-- A text that is a host up to the port or the path behind it. -/
def IsHostText (text : List Char) : Prop :=
  ∀ special rest, rest.head? = some '/' ∨ rest.head? = some ':' →
    splitHost special false (text ++ rest) = (text, rest)

theorem splitHost_of_head? {rest : List Char} (h : rest.head? = some '/' ∨ rest.head? = some ':')
    (special : Bool) : splitHost special false rest = ([], rest) := by
  cases rest with
  | nil => rfl
  | cons c rest =>
    have hends : (endsAuthority special c || c == ':' && !false) = true := by
      rcases h with h | h
      · rw [Option.some.inj h, endsAuthority_slash, Bool.true_or]
      · rw [Option.some.inj h]
        exact Bool.or_true _
    rw [splitHost, hends, if_pos rfl]

theorem isHostText_of_forall {text : List Char} (h : ∀ c ∈ text, isAuthorityChar c = true)
    (hopen : '[' ∉ text) (hclose : ']' ∉ text) (hcolon : ':' ∉ text) : IsHostText text := by
  intro special rest hrest
  rw [splitHost_append fun c hc ↦ ⟨h c hc, ne_of_mem_of_not_mem hc hopen,
    ne_of_mem_of_not_mem hc hclose, fun heq ↦ absurd (heq ▸ hc) hcolon⟩,
    splitHost_of_head? hrest, List.append_nil]

theorem isHostText_ipv6 (address : Ipv6) : IsHostText (Host.ipv6 address).text.toList := by
  intro special rest hrest
  have hinner : ∀ c ∈ address.text.toList, isAuthorityChar c = true ∧ c ≠ '[' ∧ c ≠ ']' ∧
      (c = ':' → true = true) := by
    intro c hc
    rcases mem_ipv6_text hc with rfl | hdigit
    · decide
    · refine ⟨hdigit.isAuthorityChar, ?_, ?_, fun _ ↦ rfl⟩ <;>
      · rintro rfl
        exact absurd hdigit.isNameChar.1 (by decide)
  have hopen : endsAuthority special '[' = false := endsAuthority_of_isAuthorityChar rfl special
  have hclose : endsAuthority special ']' = false := endsAuthority_of_isAuthorityChar rfl special
  rw [toList_text_ipv6, List.cons_append, List.append_assoc, List.singleton_append, splitHost,
    hopen]
  simp only [beq_self_eq_true, if_true, Char.reduceBEq, Bool.false_and, Bool.or_false,
    Bool.false_eq_true, if_false, splitHost_append hinner, splitHost, hclose,
    splitHost_of_head? hrest]

theorem IsWebName.isHostText {name : List Char} (h : IsWebName name) : IsHostText name :=
  isHostText_of_forall (fun c hc ↦ (isAuthorityChar_of_isNameChar (h.isNameChar c hc)).1)
    (h.not_mem (by decide)) (h.not_mem (by decide)) (h.not_mem (by decide))

theorem IsWebHost.isHostText {host : Host} (h : IsWebHost domains host) :
    IsHostText host.text.toList := by
  cases h with
  | ipv6 address => exact isHostText_ipv6 address
  | ipv4 address => exact (isWebName_ipv4Text address).isHostText
  | name hname _ _ => exact hname.isHostText

theorem IsOtherHost.isHostText {host : Host} (h : IsOtherHost host) :
    IsHostText host.text.toList := by
  cases h with
  | ipv6 address => exact isHostText_ipv6 address
  | name hname =>
    rw [Host.text, String.toList_ofList]
    refine isHostText_of_forall (fun c hc ↦ ?_) (hname.not_mem (by decide))
      (hname.not_mem (by decide)) (hname.not_mem (by decide))
    exact (isAuthorityChar_of_not_isForbiddenInHost (hname.isPrintableAscii c hc)
      (hname.not_isForbiddenInHost c hc)).1

/-! ## Ports -/

/-- A port that is read is small enough and not the usual one. -/
theorem of_readPort? {usual port : Option Nat} {chars rest : List Char}
    (h : readPort? usual chars = .ok (port, rest)) :
    ∀ n ∈ port, n ≤ 65535 ∧ usual ≠ some n := by
  intro n hn
  unfold readPort? at h
  split at h
  · simp only [readPort] at h
    split at h
    · cases h
    rename_i hle
    split at h
    · cases h
    obtain ⟨rfl, -⟩ := Prod.mk.inj (Except.ok.inj h)
    split at hn
    · cases hn
    rename_i husual
    cases hn
    rw [Bool.or_eq_true, not_or, beq_iff_eq] at husual
    exact ⟨Nat.not_lt.1 hle, husual.2⟩
  · cases h
    cases hn

/-- Such a port is read again behind a host. -/
theorem readPort?_portText {usual port : Option Nat}
    (hport : ∀ n ∈ port, n ≤ 65535 ∧ usual ≠ some n) (path : List Char) :
    readPort? usual ((portText port).toList ++ '/' :: path) = .ok (port, '/' :: path) := by
  cases port with
  | none => rfl
  | some n =>
    obtain ⟨hle, husual⟩ := hport n rfl
    have htext : (portText (some n)).toList = ':' :: Nat.toDigits 10 n := by
      rw [portText, String.toList_append, Nat.toString_eq_repr, Nat.toList_repr]
      rfl
    have hdigits : ∀ c ∈ Nat.toDigits 10 n, c.isDigit = true := fun c ↦ Json.isDigit_of_mem_toDigits
    have hslash : ¬Char.isDigit '/' = true := by decide
    have htake : (Nat.toDigits 10 n ++ '/' :: path).takeWhile Char.isDigit = Nat.toDigits 10 n := by
      rw [List.takeWhile_append_of_pos hdigits, List.takeWhile_cons_of_neg hslash, List.append_nil]
    have hdrop : (Nat.toDigits 10 n ++ '/' :: path).dropWhile Char.isDigit = '/' :: path := by
      rw [List.dropWhile_append_of_pos hdigits, List.dropWhile_cons_of_neg hslash]
    have hvalue : ofDigits 10 ((Nat.toDigits 10 n).filterMap decimalDigit?) = n := by
      have hmap : (Nat.toDigits 10 n).filterMap decimalDigit? =
          (Nat.toDigits 10 n).map Json.digitValue :=
        List.filterMap_eq_map_iff_forall_eq_some.2 fun c hc ↦
          Json.decimalDigit?_of_isDigit (hdigits c hc)
      rw [hmap, Json.ofDigits_toDigits]
    have hempty : (Nat.toDigits 10 n).isEmpty = false :=
      List.isEmpty_eq_false_iff.2 Nat.toDigits_ne_nil
    rw [htext, List.cons_append, readPort?]
    simp only [readPort, htake, hdrop, hvalue, hempty, Nat.not_lt.2 hle, if_false,
      beq_eq_false_iff_ne.2 husual, Bool.or_self, Bool.false_eq_true]
    rfl

/-! ## Origins -/

/-- A host and a port in the one form in which they are written for a kind of scheme. -/
structure IsSettled domains (kind : Kind) (host : Host) (port : Option Nat) : Prop where
  isWebHost : kind ≠ .other → IsWebHost domains host
  isOtherHost : kind = .other → IsOtherHost host
  isPort : ∀ n ∈ port, n ≤ 65535 ∧ kind.port? ≠ some n
  isFile : kind = .file → host ≠ .name "localhost" ∧ port = none

theorem isSettled_of_readAuthority_web {usual : Nat} {chars rest : List Char}
    {authority : Authority} (h : readAuthority domains (.web usual) chars = .ok (authority, rest))
    {host : Host} (hhost : authority.host = some host) :
    IsSettled domains (.web usual) host authority.port := by
  obtain ⟨credentials, chars', -, hread, hport⟩ := of_readAuthority h
  rw [hhost] at hread
  rcases isHost_of_readHost hread with ⟨-, hweb⟩ | ⟨hkind, -⟩
  · exact ⟨fun _ ↦ hweb, by simp, of_readPort? hport, by simp⟩
  · exact absurd rfl (hkind usual)

theorem isSettled_of_readAuthority_other {chars rest : List Char} {authority : Authority}
    (h : readAuthority domains .other chars = .ok (authority, rest)) {host : Host}
    (hhost : authority.host = some host) : IsSettled domains .other host authority.port := by
  obtain ⟨credentials, chars', -, hread, hport⟩ := of_readAuthority h
  rw [hhost] at hread
  rcases isHost_of_readHost hread with ⟨⟨usual, hkind⟩, -⟩ | ⟨-, hother⟩
  · cases hkind
  · exact ⟨fun hkind ↦ absurd rfl hkind, fun _ ↦ hother, of_readPort? hport, by simp⟩

theorem isSettled_of_readOther {scheme : String} (hkind : kind scheme = .other)
    {chars : List Char} {url : Url} (h : readOther domains scheme chars = .ok url) {host : Host}
    (hhost : url.host? = some host) : IsSettled domains (kind url.scheme) host url.port? := by
  unfold readOther at h
  split at h
  · simp only [bind, Except.bind, pure, Except.pure] at h
    split at h
    · cases h
    · rename_i hread
      cases h
      change IsSettled domains (kind scheme) host _
      rw [hkind]
      exact isSettled_of_readAuthority_other hread hhost
  · simp only at h
    split at h <;>
    · cases h
      cases hhost

/-- Whatever address is read, its host and its port are in their one form. -/
theorem isSettled_of_ofText {text : String} {url : Url} (h : ofText domains text = .ok url)
    {host : Host} (hhost : url.host? = some host) :
    IsSettled domains (kind url.scheme) host url.port? := by
  unfold ofText at h
  split at h
  · cases h
  rename_i scheme rest _
  split at h
  · rename_i usual hkind
    obtain ⟨authority, after, hread, rfl⟩ := of_readWeb h
    change IsSettled domains (kind scheme) host authority.port
    rw [hkind]
    exact isSettled_of_readAuthority_web hread hhost
  · obtain ⟨given, after, hgiven, rfl⟩ := of_readFile h
    obtain ⟨hsome, hlocal⟩ := of_host?_filePath hhost
    obtain ⟨hostChars, hread⟩ := hgiven host hsome
    exact ⟨fun _ ↦ isWebHost_of_ofWeb hread, nofun, nofun, fun _ ↦ ⟨hlocal, rfl⟩⟩
  · rename_i hkind
    exact isSettled_of_readOther hkind h hhost

namespace IsSettled

variable {kind : Kind} {host : Host} {port : Option Nat} (h : IsSettled domains kind host port)

include h

theorem isHostText : IsHostText host.text.toList := by
  by_cases hkind : kind = .other
  · exact (h.isOtherHost hkind).isHostText
  · exact (h.isWebHost hkind).isHostText

theorem readHost_text (hfile : kind ≠ .file) (hne : host.text.toList ≠ []) (rest : List Char) :
    readHost domains kind host.text.toList rest = .ok (some host) := by
  cases kind with
  | web usual =>
    have hempty : host.text.toList.isEmpty = false := List.isEmpty_eq_false_iff.2 hne
    simp only [readHost, hempty, Bool.false_eq_true, if_false, (h.isWebHost (by simp)).ofWeb_text]
    rfl
  | file => exact absurd rfl hfile
  | other =>
    simp only [readHost, (h.isOtherHost rfl).ofOther_text, bind, Except.bind]
    rfl

/-- Host and port are read again as an authority, up to the path. -/
theorem readAuthority_text (hfile : kind ≠ .file) (htext : IsAuthorityText host.text.toList)
    (path : List Char) :
    readAuthority domains kind (host.text.toList ++ (portText port).toList ++ '/' :: path) =
      .ok (⟨"", none, some host, port⟩, '/' :: path) := by
  have hcredentials := splitCredentials_of_forall (htext.append_portText port).isAuthorityChar path
    kind.isSpecial
  have hrest : ((portText port).toList ++ '/' :: path).head? = some '/' ∨
      ((portText port).toList ++ '/' :: path).head? = some ':' := by
    cases port with
    | none => exact .inl rfl
    | some n =>
      rw [portText, String.toList_append]
      exact .inr rfl
  have hhost := h.isHostText kind.isSpecial ((portText port).toList ++ '/' :: path) hrest
  rw [← List.append_assoc] at hhost
  simp only [readAuthority, hcredentials, hhost, h.readHost_text hfile htext.ne_nil,
    readPort?_portText h.isPort, bind, Except.bind, pure, Except.pure]
  rfl

end IsSettled

/-! ## Addresses that are written -/

section

variable {segments : List (List Char)} (hne : segments ≠ [])
  (hsegments : ∀ s ∈ segments, ∀ c ∈ s, isSegmentChar c = true)

include hsegments

theorem dropWhile_endsPath : (slashed segments).dropWhile (fun c ↦ !endsPath c) = [] := by
  have hends : ∀ c ∈ slashed segments, (!endsPath c) = true := by
    intro c hc
    rw [endsPath_of_mem_slashed hsegments c hc, Bool.not_false]
  calc (slashed segments).dropWhile (fun c ↦ !endsPath c)
    _ = (slashed segments ++ []).dropWhile (fun c ↦ !endsPath c) := by rw [List.append_nil]
    _ = [].dropWhile (fun c ↦ !endsPath c) := List.dropWhile_append_of_pos hends
    _ = [] := rfl

include hne

/-- Behind an authority there are only the segments. -/
theorem withAuthority_slashed (scheme : String) (authority : Authority) :
    withAuthority scheme authority (slashed segments) =
      ⟨scheme, some authority, .rooted (walk [] segments), none, none⟩ := by
  have hpath := path_withAuthority hne hsegments scheme authority
  simp only [withAuthority, dropWhile_endsPath hsegments] at hpath ⊢
  rw [hpath]
  rfl

/-- Behind the host of a file there are only the segments, and no drive takes the host away. -/
theorem filePath_slashed (hdrive : findDrive [] segments = (false, segments)) {host : Host}
    (hhost : host ≠ .name "localhost") : filePath (some host) (slashed segments) =
      ⟨"file", some ⟨"", none, some host, none⟩,
        .rooted (withoutLeadingEmpty (walk [] segments)), none, none⟩ := by
  have hlocal : (some host == some (Host.name "localhost")) = false :=
    beq_eq_false_iff_ne.2 fun heq ↦ hhost (Option.some.inj heq)
  simp only [filePath, takeWhile_endsPath hsegments, rawSegments_slashed hne hsegments, hdrive,
    dropWhile_endsPath hsegments, hlocal, Bool.or_self, Bool.false_eq_true, if_false]
  rfl

/-! One lemma for each kind of scheme: what is read behind the colon. -/

section

variable {host : Host} {port : Option Nat} (hhost : IsAuthorityText host.text.toList)

include hhost

theorem readAuthority_slashed {kind : Kind} (hfile : kind ≠ .file)
    (hsettled : IsSettled domains kind host port) :
    readAuthority domains kind (host.text.toList ++ (portText port).toList ++ slashed segments) =
      .ok (⟨"", none, some host, port⟩, slashed segments) := by
  cases segments with
  | nil => exact absurd rfl hne
  | cons first others => exact hsettled.readAuthority_text hfile hhost (first ++ slashed others)

theorem readWeb_slashed {usual : Nat} (hsettled : IsSettled domains (.web usual) host port)
    (scheme : String) :
    readWeb domains scheme usual
        ('/' :: '/' :: (host.text.toList ++ (portText port).toList ++ slashed segments)) =
      .ok ⟨scheme, some ⟨"", none, some host, port⟩, .rooted (walk [] segments), none, none⟩ := by
  have hread := readAuthority_slashed hne hsegments hhost (by simp) hsettled
  simp only [readWeb]
  rw [List.dropWhile_cons_of_pos rfl, List.dropWhile_cons_of_pos rfl,
    dropWhile_isSlash (hhost.append_portText port), hread]
  exact congrArg Except.ok (withAuthority_slashed hne hsegments _ _)

theorem readOther_slashed (hsettled : IsSettled domains .other host port) (scheme : String) :
    readOther domains scheme
        ('/' :: '/' :: (host.text.toList ++ (portText port).toList ++ slashed segments)) =
      .ok ⟨scheme, some ⟨"", none, some host, port⟩, .rooted (walk [] segments), none, none⟩ := by
  have hread := readAuthority_slashed hne hsegments hhost (by simp) hsettled
  simp only [readOther]
  rw [hread]
  exact congrArg Except.ok (withAuthority_slashed hne hsegments _ _)

theorem readFile_slashed (hdrive : findDrive [] segments = (false, segments))
    (hsettled : IsSettled domains .file host port) :
    readFile domains
        ('/' :: '/' :: (host.text.toList ++ (portText port).toList ++ slashed segments)) =
      .ok ⟨"file", some ⟨"", none, some host, port⟩,
        .rooted (withoutLeadingEmpty (walk [] segments)), none, none⟩ := by
  obtain ⟨hlocal, rfl⟩ := hsettled.isFile rfl
  obtain ⟨path, hpath⟩ : ∃ path, slashed segments = '/' :: path := by
    cases segments with
    | nil => exact absurd rfl hne
    | cons first others => exact ⟨_, slashed_cons first others⟩
  have hnone : (portText none).toList = [] := rfl
  have htake : (host.text.toList ++ slashed segments).takeWhile
      (fun c ↦ !endsAuthority true c) = host.text.toList := by
    rw [hpath]
    exact takeWhile_endsAuthority hhost.isAuthorityChar path true
  have hdrop : (host.text.toList ++ slashed segments).dropWhile
      (fun c ↦ !endsAuthority true c) = slashed segments := by
    rw [hpath]
    exact dropWhile_endsAuthority hhost.isAuthorityChar path true
  have hempty : host.text.toList.isEmpty = false := List.isEmpty_eq_false_iff.2 hhost.ne_nil
  have hslash : isSlash true '/' = true := rfl
  have hweb : IsWebHost domains host := hsettled.isWebHost (by simp)
  rw [hnone, List.append_nil]
  simp only [readFile, hslash, Bool.and_self, if_true, htake, hdrop, hempty, hhost.not_drive,
    Bool.or_self, Bool.false_eq_true, if_false, hweb.ofWeb_text, bind, Except.bind, pure,
    Except.pure]
  exact congrArg Except.ok (filePath_slashed hne hsegments hdrive hlocal)

end

/-- An address that is written from a scheme, a host and a port in their one form, and from
segments, has these and nothing else: no credentials, no query and no fragment. -/
theorem exists_ofText_eq {scheme : String} (hscheme : IsSchemeText scheme) {host : Host}
    {port : Option Nat} (hsettled : IsSettled domains (kind scheme) host port)
    (hhost : IsAuthorityText host.text.toList)
    (hdrive : findDrive [] segments = (false, segments)) {text : String}
    (htext : text.toList = scheme.toList ++ ':' :: '/' :: '/' ::
      (host.text.toList ++ (portText port).toList ++ slashed segments)) :
    ∃ places, ofText domains text =
      .ok ⟨scheme, some ⟨"", none, some host, port⟩, .rooted places, none, none⟩ := by
  have hlow : ∀ c ∈ text.toList, 0x20 < c.toNat := by
    rw [htext]
    exact low_of_mem_written hscheme (hhost.append_portText port) hsegments
  rw [ofText, significant_of_forall hlow, htext, splitScheme?_of_isSchemeText hscheme]
  simp only
  cases hkind : kind scheme with
  | web usual =>
    rw [hkind] at hsettled
    exact ⟨_, readWeb_slashed hne hsegments hhost hsettled scheme⟩
  | file =>
    rw [hkind] at hsettled
    obtain rfl := eq_file_of_kind hkind
    exact ⟨_, readFile_slashed hne hsegments hhost hdrive hsettled⟩
  | other =>
    rw [hkind] at hsettled
    exact ⟨_, readOther_slashed hne hsegments hhost hsettled scheme⟩

end

end NamespaceLifecycle.Url
