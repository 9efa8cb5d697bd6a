import NamespaceLifecycle.Proofs.Text.Split
import NamespaceLifecycle.Proofs.Url.Host

/-!
# Numeric hosts that were written

The text of a numeric address is read back as that address. An address of four bytes has four
decimal parts. In one of eight groups the run of zeros that gives way to two colons is the only
place where two colons stand, so the groups on either side of it are found again, and as many zeros
as are missing.
-/

namespace NamespaceLifecycle.Url

open Text

/-! ## Numbers -/

theorem hexDigit?_digitChar : ∀ d < 16, hexDigit? (Nat.digitChar d) = some d := by
  decide

theorem numberIn?_concat {base value digit : Nat} {chars : List Char} {c : Char}
    (hchars : numberIn? base chars = some value) (hc : hexDigit? c = some digit)
    (hdigit : digit < base) : numberIn? base (chars ++ [c]) = some (value * base + digit) := by
  obtain ⟨digits, hdigits, rfl⟩ := Option.map_eq_some_iff.1 hchars
  have hlast : (hexDigit? c).filter (· < base) = some digit := by
    rw [hc]
    exact Option.filter_some_pos (decide_eq_true hdigit)
  have happend : (chars ++ [c]).mapM (fun c ↦ (hexDigit? c).filter (· < base)) =
      some (digits ++ [digit]) := by
    rw [List.mapM_append, hdigits, List.mapM_cons, hlast]
    rfl
  rw [numberIn?, happend, Option.map_some, ofDigits, List.foldl_append]
  rfl

/-- A number written in a base of sixteen at most is read back in it. -/
theorem numberIn?_toDigits {base : Nat} (hbase : 1 < base) (hle : base ≤ 16) (n : Nat) :
    numberIn? base (Nat.toDigits base n) = some n := by
  induction n using Nat.strongRecOn with
  | ind n ih =>
    rw [Nat.toDigits_eq_if hbase]
    split
    · rename_i hn
      have hempty : numberIn? base [] = some 0 := rfl
      have hdigit := numberIn?_concat hempty (hexDigit?_digitChar n (by omega)) hn
      rw [List.nil_append, Nat.zero_mul, Nat.zero_add] at hdigit
      exact hdigit
    · rename_i hn
      have hlast : n % base < base := Nat.mod_lt n (by omega)
      have hdigit := numberIn?_concat (ih (n / base) (Nat.div_lt_self (by omega) hbase))
        (hexDigit?_digitChar (n % base) (by omega)) hlast
      rw [Nat.div_add_mod'] at hdigit
      exact hdigit

/-! ## Addresses of four bytes -/

theorem ipv4Part?_toDigits : ∀ n < 256, ipv4Part? (Nat.toDigits 10 n) = some n := by
  decide +kernel

theorem ne_point_of_mem_toDigits {n : Nat} {c : Char} (h : c ∈ Nat.toDigits 10 n) :
    (c == '.') = false := by
  rw [beq_eq_false_iff_ne]
  rintro rfl
  exact absurd (Nat.isDigit_of_mem_toDigits (by decide) (by decide) h) (by decide)

def ipv4Bytes (address : UInt32) : List Nat :=
  [address.toNat / 16777216, address.toNat / 65536 % 256, address.toNat / 256 % 256,
    address.toNat % 256]

theorem lt_of_mem_ipv4Bytes {address : UInt32} {n : Nat} (h : n ∈ ipv4Bytes address) : n < 256 := by
  have haddress : address.toNat < 4294967296 := address.toNat_lt
  simp only [ipv4Bytes, List.mem_cons, List.not_mem_nil, or_false] at h
  rcases h with rfl | rfl | rfl | rfl <;> omega

theorem splitAt_ipv4Text (address : UInt32) :
    splitAt '.' (ipv4Text address).toList = (ipv4Bytes address).map (Nat.toDigits 10) := by
  have hpoint : ".".toList = ['.'] := rfl
  have hparts (n : Nat) : ∀ c ∈ Nat.toDigits 10 n, (c == '.') = false :=
    fun c hc ↦ ne_point_of_mem_toDigits hc
  simp only [ipv4Text, String.toList_append, hpoint, Nat.toString_eq_repr, Nat.toList_repr,
    List.append_assoc, List.cons_append, List.nil_append]
  rw [splitAt, splitWhere_append_separator (hparts _) rfl,
    splitWhere_append_separator (hparts _) rfl, splitWhere_append_separator (hparts _) rfl,
    splitWhere_of_forall (hparts _)]
  rfl

theorem dottedParts_ipv4Text (address : UInt32) :
    dottedParts (ipv4Text address).toList = (ipv4Bytes address).map (Nat.toDigits 10) := by
  have hlast : ((ipv4Bytes address).map (Nat.toDigits 10)).getLast? ≠ some [] := by
    intro h
    exact Nat.toDigits_ne_nil (Option.some.inj h)
  simp only [dottedParts, splitAt_ipv4Text]
  exact if_neg fun h ↦ hlast h.1

theorem mapM_ipv4Part?_toDigits {bytes : List Nat} (h : ∀ n ∈ bytes, n < 256) :
    (bytes.map (Nat.toDigits 10)).mapM ipv4Part? = some bytes := by
  induction bytes with
  | nil => rfl
  | cons n bytes ih =>
    rw [List.forall_mem_cons] at h
    rw [List.map_cons, List.mapM_cons, ipv4Part?_toDigits n h.1, ih h.2]
    rfl

theorem ipv4OfParts?_ipv4Bytes (address : UInt32) :
    ipv4OfParts? 4 (ipv4Bytes address) = some address.toNat := by
  have haddress : address.toNat < 4294967296 := address.toNat_lt
  have hpow : Nat.pow 256 1 = 256 ∧ Nat.pow 256 2 = 65536 ∧ Nat.pow 256 3 = 16777216 := by decide
  have hfirst : address.toNat / 16777216 < 256 := by omega
  simp only [ipv4Bytes, ipv4OfParts?, hfirst, Nat.mod_lt _ (show 256 > 0 by decide), hpow,
    Nat.reduceSub, Nat.reduceLT, and_self, if_true, Option.map_some, Option.some.injEq]
  omega

/-- The text of an address of four bytes is read as that address. -/
theorem ipv4?_ipv4Text (address : UInt32) : ipv4? (ipv4Text address).toList = some address := by
  have hbytes : ∀ n ∈ ipv4Bytes address, n < 256 := fun n ↦ lt_of_mem_ipv4Bytes
  rw [ipv4?, dottedParts_ipv4Text, mapM_ipv4Part?_toDigits hbytes]
  simp only [Option.bind_eq_bind, Option.bind_some, ipv4OfParts?_ipv4Bytes, UInt32.ofNat_toNat]
  rfl

/-- It is also seen to be meant as an address. -/
theorem endsInNumber_ipv4Text (address : UInt32) :
    endsInNumber (ipv4Text address).toList = true := by
  have hpart : ipv4Part? (Nat.toDigits 10 (address.toNat % 256)) = some (address.toNat % 256) :=
    ipv4Part?_toDigits _ (Nat.mod_lt _ (by decide))
  rw [endsInNumber, dottedParts_ipv4Text]
  simp only [ipv4Bytes, List.map_cons, List.map_nil, List.getLast?_cons_cons,
    List.getLast?_singleton, hpart, Option.isSome_some, Bool.or_true]

/-! ## Addresses of eight groups -/

theorem group?_toDigits (group : UInt16) : group? (Nat.toDigits 16 group.toNat) = some group := by
  have hne : (Nat.toDigits 16 group.toNat).isEmpty = false :=
    List.isEmpty_eq_false_iff.2 Nat.toDigits_ne_nil
  have hlength : (Nat.toDigits 16 group.toNat).length ≤ 4 :=
    (Nat.length_toDigits_le_iff (by decide) (by decide)).2 group.toNat_lt
  rw [group?, hne, if_neg (by simp [hlength]), numberIn?_toDigits (by decide) (Nat.le_refl 16),
    Option.map_some, UInt16.ofNat_toNat]

theorem ne_colon_of_mem_toDigits {n : Nat} {c : Char} (h : c ∈ Nat.toDigits 16 n) :
    (c == ':') = false := by
  have hdigit : IsDigitOf c := mem_toDigits (by decide) h
  exact beq_eq_false_iff_ne.2 hdigit.ne.1

theorem toList_groupsText_singleton (group : UInt16) :
    (groupsText [group]).toList = Nat.toDigits 16 group.toNat := by
  rw [groupsText, List.map_cons, List.map_nil, String.intercalate_singleton, lowerHex,
    String.toList_ofList]

theorem toList_groupsText_cons (group next : UInt16) (groups : List UInt16) :
    (groupsText (group :: next :: groups)).toList =
      Nat.toDigits 16 group.toNat ++ ':' :: (groupsText (next :: groups)).toList := by
  have hcolon : ":".toList = [':'] := rfl
  simp only [groupsText, List.map_cons, String.intercalate_cons_cons, String.toList_append, hcolon,
    lowerHex, String.toList_ofList, List.append_assoc, List.singleton_append]

theorem exists_cons_groupsText (group : UInt16) (groups : List UInt16) :
    ∃ c rest, (groupsText (group :: groups)).toList = c :: rest ∧ (c == ':') = false := by
  obtain ⟨c, rest, hdigits⟩ :=
    List.exists_cons_of_ne_nil (Nat.toDigits_ne_nil (n := group.toNat) (b := 16))
  have hc : (c == ':') = false := ne_colon_of_mem_toDigits (hdigits ▸ List.mem_cons_self)
  cases groups with
  | nil => exact ⟨c, rest, by rw [toList_groupsText_singleton, hdigits], hc⟩
  | cons next groups =>
    exact ⟨c, _, by rw [toList_groupsText_cons, hdigits, List.cons_append], hc⟩

/-- Groups are found again between their colons. -/
theorem splitAt_groupsText {groups : List UInt16} (hne : groups ≠ []) :
    splitAt ':' (groupsText groups).toList =
      groups.map fun group ↦ Nat.toDigits 16 group.toNat := by
  have hpart (n : Nat) : ∀ c ∈ Nat.toDigits 16 n, (c == ':') = false :=
    fun c hc ↦ ne_colon_of_mem_toDigits hc
  induction groups with
  | nil => exact absurd rfl hne
  | cons group groups ih =>
    cases groups with
    | nil =>
      rw [toList_groupsText_singleton]
      exact splitWhere_of_forall (hpart _)
    | cons next groups =>
      rw [toList_groupsText_cons, splitAt, splitWhere_append_separator (hpart _) rfl,
        List.map_cons]
      exact congrArg _ (ih (List.cons_ne_nil _ _))

theorem groups?_toDigits (dotted : Bool) (groups : List UInt16) :
    groups? dotted (groups.map fun group ↦ Nat.toDigits 16 group.toNat) = some groups := by
  induction groups with
  | nil => rfl
  | cons group groups ih =>
    cases groups with
    | nil =>
      have hpoint : (Nat.toDigits 16 group.toNat).contains '.' = false := by
        rw [List.contains_eq_mem, decide_eq_false_iff_not]
        intro hmem
        obtain ⟨d, hd, hdigit⟩ := mem_toDigits (by decide) hmem
        revert d
        decide
      rw [List.map_cons, List.map_nil, groups?, hpoint, Bool.and_false, if_neg Bool.false_ne_true,
        group?_toDigits]
      rfl
    | cons next groups =>
      rw [List.map_cons, groups?, group?_toDigits, ih]
      · rfl
      · exact fun h ↦ List.cons_ne_nil _ _ h

theorem side?_groupsText (dotted : Bool) (groups : List UInt16) :
    side? dotted (groupsText groups).toList = some groups := by
  cases groups with
  | nil => rfl
  | cons group groups =>
    obtain ⟨c, rest, htext, -⟩ := exists_cons_groupsText group groups
    have hempty : (groupsText (group :: groups)).toList.isEmpty = false := by
      rw [htext]
      rfl
    rw [side?, hempty, if_neg Bool.false_ne_true, splitAt_groupsText (List.cons_ne_nil _ _),
      groups?_toDigits]

/-! ## Two colons -/

/-- What stands before and after the first two colons when more text stands before. -/
def behind (front : List Char) (found : Option (List Char × List Char)) :
    Option (List Char × List Char) :=
  found.map fun parts ↦ (front ++ parts.1, parts.2)

theorem behind_behind (first second : List Char) (found : Option (List Char × List Char)) :
    behind first (behind second found) = behind (first ++ second) found := by
  cases found with
  | none => rfl
  | some parts => simp [behind]

theorem splitAtColons_cons {c : Char} {rest : List Char} (h : c = ':' → rest.head? ≠ some ':') :
    splitAtColons (c :: rest) = behind [c] (splitAtColons rest) := by
  rw [splitAtColons]
  · rfl
  · rintro more rfl rfl
    exact h rfl rfl

theorem splitAtColons_append {front : List Char} (hfront : ∀ c ∈ front, (c == ':') = false)
    (rest : List Char) : splitAtColons (front ++ rest) = behind front (splitAtColons rest) := by
  induction front with
  | nil => cases h : splitAtColons rest <;> simp [behind, h]
  | cons c front ih =>
    rw [List.forall_mem_cons] at hfront
    have hc : c ≠ ':' := beq_eq_false_iff_ne.1 hfront.1
    rw [List.cons_append, splitAtColons_cons fun h ↦ absurd h hc, ih hfront.2, behind_behind]
    rfl

/-- Between groups no two colons stand together. -/
theorem splitAtColons_groupsText (groups : List UInt16) (rest : List Char) :
    splitAtColons ((groupsText groups).toList ++ rest) =
      behind (groupsText groups).toList (splitAtColons rest) := by
  have hpart (n : Nat) : ∀ c ∈ Nat.toDigits 16 n, (c == ':') = false :=
    fun c hc ↦ ne_colon_of_mem_toDigits hc
  induction groups with
  | nil => exact splitAtColons_append (fun c hc ↦ absurd hc List.not_mem_nil) rest
  | cons group groups ih =>
    cases groups with
    | nil =>
      rw [toList_groupsText_singleton]
      exact splitAtColons_append (hpart _) rest
    | cons next groups =>
      obtain ⟨c, more, htext, hc⟩ := exists_cons_groupsText next groups
      have hhead : ((groupsText (next :: groups)).toList ++ rest).head? ≠ some ':' := by
        rw [htext, List.cons_append, List.head?_cons]
        exact fun h ↦ beq_eq_false_iff_ne.1 hc (Option.some.inj h)
      rw [toList_groupsText_cons, List.append_assoc, List.cons_append,
        splitAtColons_append (hpart _), splitAtColons_cons fun _ ↦ hhead, ih, behind_behind,
        behind_behind, List.append_assoc, List.singleton_append]

theorem zeroRun_eq (groups : List UInt16) :
    groups.takeWhile (· == 0) = List.replicate (zeroRun groups) 0 := by
  rw [List.eq_replicate_iff]
  refine ⟨rfl, fun group hgroup ↦ ?_⟩
  exact eq_of_beq (List.all_eq_true.1 List.all_takeWhile group hgroup)

/-- The longest run of zeros is a run of zeros, at its place. -/
theorem longestZeroRun_eq (index : Nat) (groups : List UInt16) : ∃ front back,
    groups = front ++ (List.replicate (longestZeroRun index groups).2 0 ++ back) ∧
      (longestZeroRun index groups).1 = index + front.length := by
  induction groups generalizing index with
  | nil => exact ⟨[], [], rfl, rfl⟩
  | cons group groups ih =>
    simp only [longestZeroRun]
    split
    · refine ⟨[], (group :: groups).dropWhile (· == 0), ?_, rfl⟩
      rw [← zeroRun_eq, List.nil_append, List.takeWhile_append_dropWhile]
    · obtain ⟨front, back, hgroups, hindex⟩ := ih (index + 1)
      refine ⟨group :: front, back, ?_, ?_⟩
      · rw [List.cons_append, ← hgroups]
      · rw [hindex, List.length_cons]
        omega

/-- The text of an address of eight groups is read as that address. -/
theorem ipv6?_text (address : Ipv6) : ipv6? address.text.toList = some address := by
  obtain ⟨groups, hlength⟩ := address
  obtain ⟨front, back, hgroups, hstart⟩ := longestZeroRun_eq 0 groups
  generalize hrun : longestZeroRun 0 groups = run at hgroups hstart
  obtain ⟨start, zeros⟩ := run
  simp only [Nat.zero_add] at hgroups hstart
  simp only [Ipv6.text, hrun]
  split
  · -- all groups are written, so there are no two colons
    have hcolons : splitAtColons (groupsText groups).toList = none := by
      have h := splitAtColons_groupsText groups []
      rwa [List.append_nil] at h
    have hne : groups ≠ [] := by
      rintro rfl
      cases hlength
    simp only [ipv6?, hcolons, splitAt_groupsText hne, groups?_toDigits, Option.bind_eq_bind,
      Option.bind_some, hlength, dite_true]
  · -- the zeros that are left out are as many as the other groups lack
    have hfront : groups.take start = front := by
      rw [hgroups, hstart, List.take_left]
    have hback : groups.drop (start + zeros) = back := by
      rw [hgroups, hstart, ← List.drop_drop, List.drop_left, List.drop_left' List.length_replicate]
    have hcolons : splitAtColons ((groupsText front).toList ++ ':' :: ':' ::
        (groupsText back).toList) = some ((groupsText front).toList, (groupsText back).toList) := by
      rw [splitAtColons_groupsText]
      simp [splitAtColons, behind]
    have htwo : "::".toList = [':', ':'] := rfl
    have hcount : front.length + (zeros + back.length) = 8 := by
      rw [← hlength, hgroups, List.length_append, List.length_append, List.length_replicate]
    have hlack : front.length + back.length < 8 := by omega
    have hzeros : 8 - (front.length + back.length) = zeros := by omega
    rw [hfront, hback]
    simp only [String.toList_append, htwo, List.append_assoc, List.cons_append, List.nil_append,
      ipv6?, hcolons, side?_groupsText, Option.bind_eq_bind, Option.bind_some, hlack, dite_true,
      hzeros, ← hgroups]

end NamespaceLifecycle.Url
