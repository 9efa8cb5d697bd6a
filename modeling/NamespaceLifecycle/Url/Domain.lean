import NamespaceLifecycle.Text.Basic

/-!
# Domains

On the web a domain is known in ASCII: in lower case, and labels of other scripts in an encoded
form that begins with `xn--`. The mapping to this form rests on tables of Unicode, so it is given
from outside, together with what the reader of addresses relies on. For a plain domain, which is in
ASCII and has no encoded label, nothing but the case changes.
-/

namespace NamespaceLifecycle.Url

open Text

/-- Characters that a name on the web may hold, all of them ASCII. -/
def isNameChar (c : Char) : Bool :=
  decide (0x20 < c.toNat ∧ c.toNat < 0x7f) && !"%#/:<>?@[\\]^|".toList.contains c

/-- A domain in ASCII none of whose labels is marked as encoded. -/
def isPlainDomain (domain : String) : Bool :=
  domain.toLower.toList.all (fun c => decide (c.toNat < 0x80)) &&
    (splitAt '.' domain.toLower.toList).all fun label => !"xn--".toList.isPrefixOf label

/-- The mapping of domains to ASCII. -/
structure Domains where
  /-- None for a domain that is not valid. -/
  toAscii? : String → Option String
  isName_of_toAscii? : ∀ {domain ascii}, toAscii? domain = some ascii →
    ∀ c ∈ ascii.toList, isNameChar c = true ∧ c.toLower = c
  /-- A domain in ASCII that came out of the mapping stays as it is. -/
  toAscii?_toAscii? : ∀ {domain ascii}, toAscii? domain = some ascii →
    toAscii? ascii = some ascii
  toAscii?_of_isPlainDomain : ∀ {domain}, isPlainDomain domain = true →
    toAscii? domain =
      if domain.toLower.toList.all isNameChar then some domain.toLower else none

/-- What holds of the first characters of the table holds of each of them. -/
theorem forall_of_lt {p : Char → Prop} {bound : Nat} (h : ∀ n < bound, p (Char.ofNat n)) {c : Char}
    (hc : c.toNat < bound) : p c := by
  have hn := h c.toNat hc
  rwa [Char.ofNat_toNat] at hn

theorem toLower_toLower (c : Char) : c.toLower.toLower = c.toLower := by
  by_cases hascii : c.toNat < 128
  · revert hascii
    exact forall_of_lt (p := fun c ↦ c.toLower.toLower = c.toLower) (by decide +kernel)
  · have hupper : ¬(c.val ≥ 'A'.val ∧ c.val ≤ 'Z'.val) := by
      rintro ⟨-, hle⟩
      have hle : c.toNat ≤ 'Z'.toNat := UInt32.le_iff_toNat_le.1 hle
      exact hascii (Nat.lt_of_le_of_lt hle (by decide))
    have hlower : c.toLower = c := dif_neg hupper
    rw [hlower, hlower]

theorem toList_toLower (text : String) :
    text.toLower.toList = text.toList.map Char.toLower := String.toList_map

/-- A text whose characters are in lower case is in lower case. -/
theorem toLower_of_forall {text : String} (h : ∀ c ∈ text.toList, c.toLower = c) :
    text.toLower = text := by
  apply String.toList_inj.1
  calc text.toLower.toList
    _ = text.toList.map Char.toLower := toList_toLower text
    _ = text.toList.map id := List.map_congr_left h
    _ = text.toList := List.map_id _

theorem toLower_of_mem_toLower {text : String} {c : Char} (h : c ∈ text.toLower.toList) :
    c.toLower = c := by
  rw [toList_toLower] at h
  obtain ⟨d, -, rfl⟩ := List.mem_map.1 h
  exact toLower_toLower d

@[simp] theorem toLower_toLower_text (text : String) : text.toLower.toLower = text.toLower :=
  toLower_of_forall fun _ ↦ toLower_of_mem_toLower

@[simp] theorem isPlainDomain_toLower (domain : String) :
    isPlainDomain domain.toLower = isPlainDomain domain := by
  rw [isPlainDomain, toLower_toLower_text, isPlainDomain]

namespace Domains

/-- The mapping where only plain domains are known. -/
def ascii : Domains where
  toAscii? domain :=
    if isPlainDomain domain ∧ domain.toLower.toList.all isNameChar then some domain.toLower
    else none
  isName_of_toAscii? := by
    intro domain ascii h c hc
    rw [Option.ite_none_right_eq_some] at h
    obtain ⟨⟨-, hall⟩, hlower⟩ := h
    cases hlower
    exact ⟨List.all_eq_true.1 hall c hc, toLower_of_mem_toLower hc⟩
  toAscii?_toAscii? := by
    intro domain ascii h
    rw [Option.ite_none_right_eq_some] at h
    obtain ⟨hplain, hlower⟩ := h
    cases hlower
    rw [isPlainDomain_toLower, toLower_toLower_text, if_pos hplain]
  toAscii?_of_isPlainDomain := by
    intro domain hplain
    simp only [hplain, true_and]

end Domains

end NamespaceLifecycle.Url
