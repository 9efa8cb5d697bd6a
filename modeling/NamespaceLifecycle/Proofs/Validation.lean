import Mathlib.Data.List.Basic
import NamespaceLifecycle.Proofs.Change
import NamespaceLifecycle.Proofs.Text.Pattern
import NamespaceLifecycle.Proofs.Text.Percent
import NamespaceLifecycle.Proofs.Text.Utf8

/-!
# Which inputs are accepted

Inputs are accepted exactly when a namespace can be made from them: every required field is given,
the beginning of the name is a label, and every entry of the initial limits has a name. A label is
checked by the number of its bytes and by a pattern; in plain words it has at most 63 characters,
all of them lower-case letters, digits and hyphens, with no hyphen at either end. Inputs that are
not accepted are refused for one field, the first in the order of the checks.
-/

namespace NamespaceLifecycle

namespace Text.Utf8

/-- A text of ASCII has one byte for each character. -/
theorem utf8ByteSize_of_ascii {text : String} (h : ∀ c ∈ text.toList, c.toNat < 0x80) :
    text.utf8ByteSize = text.length := by
  have hsingle (chars : List Char) (hchars : ∀ c ∈ chars, c.toNat < 0x80) :
      (chars.flatMap String.utf8EncodeChar).length = chars.length := by
    induction chars with
    | nil => rfl
    | cons c chars ih =>
      rw [List.forall_mem_cons] at hchars
      rw [List.flatMap_cons, List.length_append, utf8EncodeChar_of_lt hchars.1, ih hchars.2,
        List.length_singleton, List.length_cons, Nat.add_comm]
  rw [← length_bytes, bytes, hsingle _ h, String.length_toList]

end Text.Utf8

namespace State

open Text

variable {s : State} {field : Field}

/-! ## Labels -/

/-- A label in plain words. -/
structure IsLabelText (text : String) : Prop where
  length_pos : 0 < text.length
  length_le : text.length ≤ 63
  chars : ∀ c ∈ text.toList, ('a' ≤ c ∧ c ≤ 'z') ∨ ('0' ≤ c ∧ c ≤ '9') ∨ c = '-'
  first_ne : text.toList.head? ≠ some '-'
  last_ne : text.toList.getLast? ≠ some '-'

theorem isLabelChar_iff {c : Char} :
    isLabelChar c = true ↔ ('a' ≤ c ∧ c ≤ 'z') ∨ ('0' ≤ c ∧ c ≤ '9') := by
  rw [isLabelChar, Bool.or_eq_true, decide_eq_true_eq, decide_eq_true_eq]

/-- Letters and digits are no hyphens. -/
theorem ne_hyphen_of_isLabelChar {c : Char} (h : isLabelChar c = true) : c ≠ '-' := by
  rintro rfl
  exact absurd h (by decide)

/-- A text that fits is one letter or digit, or one at either end of letters, digits and hyphens. -/
theorem fits_labelPattern_iff {chars : List Char} : Pattern.Fits labelPattern chars ↔
    ∃ first, isLabelChar first = true ∧ (chars = [first] ∨ ∃ middle last,
      chars = first :: (middle ++ [last]) ∧
        (∀ c ∈ middle, (c == '-' || isLabelChar c) = true) ∧ isLabelChar last = true) := by
  simp only [labelPattern, Pattern.optional, Pattern.fits_andThen_iff, Pattern.fits_either_iff,
    Pattern.fits_one_iff, Pattern.fits_many_one_iff, Pattern.fits_empty_iff]
  constructor
  · rintro ⟨_, behind, rfl, ⟨first, hfirst, rfl⟩,
      ⟨middle, _, rfl, hmiddle, last, hlast, rfl⟩ | rfl⟩
    · exact ⟨first, hfirst, .inr ⟨middle, last, rfl, hmiddle, hlast⟩⟩
    · exact ⟨first, hfirst, .inl rfl⟩
  · rintro ⟨first, hfirst, rfl | ⟨middle, last, rfl, hmiddle, hlast⟩⟩
    · exact ⟨[first], [], rfl, ⟨first, hfirst, rfl⟩, .inr rfl⟩
    · exact ⟨[first], middle ++ [last], rfl, ⟨first, hfirst, rfl⟩,
        .inl ⟨middle, [last], rfl, hmiddle, last, hlast, rfl⟩⟩

/-- The pattern in plain words, for characters. -/
theorem fits_labelPattern_iff_forall {chars : List Char} : Pattern.Fits labelPattern chars ↔
    chars ≠ [] ∧ (∀ c ∈ chars, c = '-' ∨ isLabelChar c = true) ∧ chars.head? ≠ some '-' ∧
      chars.getLast? ≠ some '-' := by
  rw [fits_labelPattern_iff]
  constructor
  · rintro ⟨first, hfirst, rfl | ⟨middle, last, rfl, hmiddle, hlast⟩⟩
    · simpa [hfirst] using ne_hyphen_of_isLabelChar hfirst
    · refine ⟨List.cons_ne_nil _ _, ?_, ?_, ?_⟩
      · intro c hc
        rcases List.mem_cons.1 hc with rfl | hc
        · exact .inr hfirst
        · rcases List.mem_append.1 hc with hc | hc
          · simpa using hmiddle c hc
          · exact .inr (List.mem_singleton.1 hc ▸ hlast)
      · simpa using ne_hyphen_of_isLabelChar hfirst
      · rw [← List.cons_append, List.getLast?_concat]
        simpa using ne_hyphen_of_isLabelChar hlast
  · rintro ⟨hne, hchars, hhead, hend⟩
    cases chars with
    | nil => exact absurd rfl hne
    | cons first rest =>
      rw [List.forall_mem_cons] at hchars
      have hfirst : isLabelChar first = true := hchars.1.resolve_left fun hhyphen ↦
        hhead (congrArg some hhyphen)
      refine ⟨first, hfirst, ?_⟩
      rcases List.eq_nil_or_concat rest with rfl | ⟨middle, last, rfl⟩
      · exact .inl rfl
      · rw [List.concat_eq_append] at hchars hend ⊢
        rw [← List.cons_append, List.getLast?_concat] at hend
        refine .inr ⟨middle, last, rfl, fun c hc ↦ ?_, ?_⟩
        · simpa using hchars.2 c (List.mem_append_left _ hc)
        · exact (hchars.2 last (by simp)).resolve_left fun hhyphen ↦
            hend (congrArg some hhyphen)

/-- The check of labels accepts exactly the labels. -/
theorem isLabel_iff {text : String} : isLabel text = true ↔ IsLabelText text := by
  have hplain (c : Char) : (c = '-' ∨ isLabelChar c = true) ↔
      ('a' ≤ c ∧ c ≤ 'z') ∨ ('0' ≤ c ∧ c ≤ '9') ∨ c = '-' := by
    rw [isLabelChar_iff, or_comm, or_assoc]
  have hascii (c : Char) (hc : c = '-' ∨ isLabelChar c = true) : c.toNat < 0x80 := by
    have hlt (last : Char) (hlast : last.toNat < 0x80) (hle : c ≤ last) : c.toNat < 0x80 :=
      Nat.lt_of_le_of_lt (UInt32.le_iff_toNat_le.1 hle) hlast
    rcases (hplain c).1 hc with ⟨-, hle⟩ | ⟨-, hle⟩ | rfl
    · exact hlt 'z' (by decide) hle
    · exact hlt '9' (by decide) hle
    · decide
  rw [isLabel, Bool.and_eq_true, decide_eq_true_eq, Pattern.fits_iff,
    fits_labelPattern_iff_forall]
  constructor
  · rintro ⟨hsize, hne, hchars, hfirst, hlast⟩
    rw [Utf8.utf8ByteSize_of_ascii fun c hc ↦ hascii c (hchars c hc)] at hsize
    refine ⟨?_, hsize, fun c hc ↦ (hplain c).1 (hchars c hc), hfirst, hlast⟩
    rw [← String.length_toList]
    exact List.length_pos_iff.2 hne
  · rintro ⟨hpos, hle, hchars, hfirst, hlast⟩
    have hchars : ∀ c ∈ text.toList, c = '-' ∨ isLabelChar c = true :=
      fun c hc ↦ (hplain c).2 (hchars c hc)
    refine ⟨?_, ?_, hchars, hfirst, hlast⟩
    · rwa [Utf8.utf8ByteSize_of_ascii fun c hc ↦ hascii c (hchars c hc)]
    · rw [← String.length_toList] at hpos
      exact List.length_pos_iff.1 hpos

/-- One character is enough; a line break at the end and letters beyond ASCII are not taken. -/
example : isLabel "a" ∧ isLabel "a--9" ∧ ¬isLabel "a\n" ∧ ¬isLabel "é" := by decide +kernel

/-! ## Inputs -/

/-- Inputs from which a namespace can be made. -/
structure IsCreatable (s : State) : Prop where
  projectName_ne : s.projectName ≠ ""
  className_ne : s.className ≠ ""
  regionName_ne : s.regionName ≠ ""
  vpcName_ne : s.vpcName ≠ ""
  namePrefix : IsLabelText s.namePrefix
  storageClassOverrides_ne : s.storageClassOverrides ≠ []
  zoneOverrides_ne : s.zoneOverrides ≠ []
  storageClass_name_ne : ∀ entry ∈ s.storageClassOverrides, entry.name ≠ ""
  zone_name_ne : ∀ entry ∈ s.zoneOverrides, entry.name ≠ ""

def IsComplete (s : State) : Prop :=
  ∀ field ∈ requiredFields, (s.get field).isUnset = false

/-- The field for which inputs are refused: the first required one that is not given; when all are
given, the beginning of the name that is no label; and then the first list with an entry without a
name. -/
inductive IsFirstFault (s : State) : Field → Prop
  | unset {before after : List Field} {field : Field}
      (horder : requiredFields = before ++ field :: after)
      (hbefore : ∀ other ∈ before, (s.get other).isUnset = false)
      (hunset : (s.get field).isUnset = true) : IsFirstFault s field
  | label (hcomplete : s.IsComplete) (hlabel : ¬IsLabelText s.namePrefix) :
      IsFirstFault s .namePrefix
  | storageClass (hcomplete : s.IsComplete) (hlabel : IsLabelText s.namePrefix)
      (hunnamed : ∃ entry ∈ s.storageClassOverrides, entry.name = "") :
      IsFirstFault s .storageClassOverrides
  | zone (hcomplete : s.IsComplete) (hlabel : IsLabelText s.namePrefix)
      (hnamed : ∀ entry ∈ s.storageClassOverrides, entry.name ≠ "")
      (hunnamed : ∃ entry ∈ s.zoneOverrides, entry.name = "") : IsFirstFault s .zoneOverrides

theorem isComplete_iff : s.IsComplete ↔ s.namePrefix ≠ "" ∧ s.projectName ≠ "" ∧
    s.className ≠ "" ∧ s.regionName ≠ "" ∧ s.vpcName ≠ "" ∧ s.storageClassOverrides ≠ [] ∧
      s.zoneOverrides ≠ [] := by
  have hfields : requiredFields = [.namePrefix, .projectName, .className, .regionName, .vpcName,
      .storageClassOverrides, .zoneOverrides] := by decide
  simp [IsComplete, hfields, get, FieldValue.isUnset]

/-- A label is not empty, so the beginning of the name is given with it. -/
theorem IsLabelText.ne_empty {text : String} (h : IsLabelText text) : text ≠ "" := by
  rintro rfl
  exact absurd h.length_pos (by decide)

theorem isCreatable_iff : s.IsCreatable ↔ s.IsComplete ∧ IsLabelText s.namePrefix ∧
    (∀ entry ∈ s.storageClassOverrides, entry.name ≠ "") ∧
      ∀ entry ∈ s.zoneOverrides, entry.name ≠ "" := by
  rw [isComplete_iff]
  constructor
  · rintro ⟨hproject, hclass, hregion, hvpc, hlabel, hstorage, hzones, hstorageNames, hzoneNames⟩
    exact ⟨⟨hlabel.ne_empty, hproject, hclass, hregion, hvpc, hstorage, hzones⟩, hlabel,
      hstorageNames, hzoneNames⟩
  · rintro ⟨⟨-, hproject, hclass, hregion, hvpc, hstorage, hzones⟩, hlabel, hstorageNames,
      hzoneNames⟩
    exact ⟨hproject, hclass, hregion, hvpc, hlabel, hstorage, hzones, hstorageNames, hzoneNames⟩

/-! ## The checks -/

/-- A field that is given has as many entries as it needs. -/
theorem fieldFault?_eq (s : State) (field : Field) : s.fieldFault? field =
    if (s.get field).isUnset then some (.validation field.key "not specified") else none := by
  have hitems (items : Nat) (h : (s.get field).isUnset = false)
      (hcount : (s.get field).items? = some items) : field.minItems ≤ items := by
    cases field
    case storageClassOverrides =>
      cases hcount
      exact List.length_pos_iff.2 (List.isEmpty_eq_false_iff.1 h)
    case zoneOverrides =>
      cases hcount
      exact List.length_pos_iff.2 (List.isEmpty_eq_false_iff.1 h)
    all_goals exact Nat.zero_le items
  unfold fieldFault?
  by_cases hunset : (s.get field).isUnset = true
  · simp only [if_pos hunset]
  · simp only [if_neg hunset]
    split
    · rename_i items hcount
      exact if_neg (Nat.not_lt.2 (hitems items (eq_false_of_ne_true hunset) hcount))
    · rfl

theorem findSome?_fieldFault?_eq_none_iff :
    requiredFields.findSome? s.fieldFault? = none ↔ s.IsComplete := by
  rw [List.findSome?_eq_none_iff]
  refine forall₂_congr fun field _ ↦ ?_
  rw [fieldFault?_eq]
  by_cases hunset : (s.get field).isUnset = true <;> simp [hunset]

/-- The first required field that is not given is refused. -/
theorem validate_of_unset {before after : List Field}
    (horder : requiredFields = before ++ field :: after)
    (hbefore : ∀ other ∈ before, (s.get other).isUnset = false)
    (hunset : (s.get field).isUnset = true) :
    s.validate = .error (.validation field.key "not specified") := by
  have hfirst : requiredFields.findSome? s.fieldFault? =
      some (.validation field.key "not specified") := by
    rw [List.findSome?_eq_some_iff]
    refine ⟨before, field, after, horder, ?_, fun other hother ↦ ?_⟩
    · rw [fieldFault?_eq, if_pos hunset]
    · rw [fieldFault?_eq, hbefore other hother, if_neg Bool.false_ne_true]
  rw [validate, hfirst]

/-- When all required fields are given, the beginning of the name is checked next. -/
theorem validate_of_not_isLabelText (hcomplete : s.IsComplete)
    (hlabel : ¬IsLabelText s.namePrefix) : s.validate = .error (.validation Field.namePrefix.key
      "Name must match RFC 1123 Label name (lower case alphabet, 0-9 and hyphen -)") := by
  have hcheck : isLabel s.namePrefix = false := eq_false_of_ne_true (isLabel_iff.not.2 hlabel)
  rw [validate, findSome?_fieldFault?_eq_none_iff.2 hcomplete]
  exact if_pos hcheck

/-- When the beginning of the name is a label too, the entries of the lists are checked. -/
theorem validate_of_isLabelText (hcomplete : s.IsComplete) (hlabel : IsLabelText s.namePrefix) :
    s.validate =
      if ∃ entry ∈ s.storageClassOverrides, entry.name = "" then
        .error (.validation Field.storageClassOverrides.key "every entry needs a name")
      else if ∃ entry ∈ s.zoneOverrides, entry.name = "" then
        .error (.validation Field.zoneOverrides.key "every entry needs a name")
      else .ok () := by
  have hcheck : ¬isLabel s.namePrefix = false := by
    rw [isLabel_iff.2 hlabel]
    exact Bool.false_ne_true.symm
  rw [validate, findSome?_fieldFault?_eq_none_iff.2 hcomplete]
  simp only [if_neg hcheck, List.any_eq_true, decide_eq_true_eq]

/-- Inputs are refused for the first field that is at fault. -/
theorem validate_of_isFirstFault (h : s.IsFirstFault field) :
    ∃ reason, s.validate = .error (.validation field.key reason) := by
  cases h with
  | unset horder hbefore hunset => exact ⟨_, validate_of_unset horder hbefore hunset⟩
  | label hcomplete hlabel => exact ⟨_, validate_of_not_isLabelText hcomplete hlabel⟩
  | storageClass hcomplete hlabel hunnamed =>
    rw [validate_of_isLabelText hcomplete hlabel, if_pos hunnamed]
    exact ⟨_, rfl⟩
  | zone hcomplete hlabel hnamed hunnamed =>
    have hstorage : ¬∃ entry ∈ s.storageClassOverrides, entry.name = "" :=
      fun ⟨entry, hentry, hempty⟩ ↦ hnamed entry hentry hempty
    rw [validate_of_isLabelText hcomplete hlabel, if_neg hstorage, if_pos hunnamed]
    exact ⟨_, rfl⟩

theorem validate_of_isCreatable (h : s.IsCreatable) : s.validate = .ok () := by
  obtain ⟨hcomplete, hlabel, hnamed, hzoneNamed⟩ := isCreatable_iff.1 h
  have hstorage : ¬∃ entry ∈ s.storageClassOverrides, entry.name = "" :=
    fun ⟨entry, hentry, hempty⟩ ↦ hnamed entry hentry hempty
  have hzones : ¬∃ entry ∈ s.zoneOverrides, entry.name = "" :=
    fun ⟨entry, hentry, hempty⟩ ↦ hzoneNamed entry hentry hempty
  rw [validate_of_isLabelText hcomplete hlabel, if_neg hstorage, if_neg hzones]

/-- Either a namespace can be made from inputs, or one field is at fault first. -/
theorem isCreatable_or_isFirstFault (s : State) :
    s.IsCreatable ∨ ∃ field, s.IsFirstFault field := by
  by_cases hcomplete : s.IsComplete
  · by_cases hlabel : IsLabelText s.namePrefix
    · by_cases hstorage : ∃ entry ∈ s.storageClassOverrides, entry.name = ""
      · exact .inr ⟨_, .storageClass hcomplete hlabel hstorage⟩
      · have hnamed : ∀ entry ∈ s.storageClassOverrides, entry.name ≠ "" := by
          simpa using hstorage
        by_cases hzones : ∃ entry ∈ s.zoneOverrides, entry.name = ""
        · exact .inr ⟨_, .zone hcomplete hlabel hnamed hzones⟩
        · exact .inl (isCreatable_iff.2 ⟨hcomplete, hlabel, hnamed, by simpa using hzones⟩)
    · exact .inr ⟨_, .label hcomplete hlabel⟩
  · cases hfault : requiredFields.findSome? s.fieldFault? with
    | none => exact absurd (findSome?_fieldFault?_eq_none_iff.1 hfault) hcomplete
    | some error =>
      obtain ⟨before, field, after, horder, hfield, hbefore⟩ :=
        List.findSome?_eq_some_iff.1 hfault
      refine .inr ⟨field, .unset horder (fun other hother ↦ ?_) ?_⟩
      · have hother := hbefore other hother
        rw [fieldFault?_eq] at hother
        by_contra hunset
        rw [if_pos (eq_true_of_ne_false hunset)] at hother
        cases hother
      · rw [fieldFault?_eq] at hfield
        by_contra hset
        rw [if_neg hset] at hfield
        cases hfield

theorem Field.key_injective : Function.Injective Field.key := by
  intro field other h
  have hother := Field.ofKey?_key other
  rw [← h, Field.ofKey?_key] at hother
  exact Option.some.inj hother

/-- How the inputs for making a namespace are checked. -/
structure ChecksInputs (s : State) : Prop where
  /-- Accepted are the inputs from which a namespace can be made. -/
  accepts : s.validate = .ok () ↔ s.IsCreatable
  /-- Inputs are refused for a field exactly when it is the first one at fault. -/
  refuses : ∀ field, (∃ reason, s.validate = .error (.validation field.key reason)) ↔
    s.IsFirstFault field
  /-- There is no other way to be refused. -/
  names : ∀ error, s.validate = .error error →
    ∃ field reason, s.IsFirstFault field ∧ error = .validation field.key reason
  /-- Only the required fields matter: not the identity, not the description, and nothing that the
  service computes. -/
  congr : ∀ t : State, (∀ field : Field, field.presence = .required → t.get field = s.get field) →
    t.validate = s.validate

/-- Inputs are accepted when a namespace can be made from them, and refused for the first field at
fault otherwise. -/
theorem validate_checksInputs (s : State) : s.ChecksInputs where
  accepts := by
    refine ⟨fun h ↦ ?_, validate_of_isCreatable⟩
    refine (isCreatable_or_isFirstFault s).resolve_right ?_
    rintro ⟨field, hfault⟩
    obtain ⟨reason, herror⟩ := validate_of_isFirstFault hfault
    cases h.symm.trans herror
  refuses field := by
    refine ⟨?_, validate_of_isFirstFault⟩
    rintro ⟨reason, herror⟩
    rcases isCreatable_or_isFirstFault s with hcreatable | ⟨other, hother⟩
    · cases herror.symm.trans (validate_of_isCreatable hcreatable)
    · obtain ⟨otherReason, hotherError⟩ := validate_of_isFirstFault hother
      have hkeys := Error.validation.inj (Except.error.inj (herror.symm.trans hotherError))
      exact Field.key_injective hkeys.1 ▸ hother
  names error herror := by
    rcases isCreatable_or_isFirstFault s with hcreatable | ⟨field, hfault⟩
    · cases herror.symm.trans (validate_of_isCreatable hcreatable)
    · obtain ⟨reason, hreported⟩ := validate_of_isFirstFault hfault
      exact ⟨field, reason, hfault, Except.error.inj (herror.symm.trans hreported)⟩
  congr t h := by
    have hfaults : requiredFields.findSome? t.fieldFault? =
        requiredFields.findSome? s.fieldFault? := by
      rw [← List.head?_filterMap, ← List.head?_filterMap]
      congr 1
      apply List.filterMap_congr
      intro field hfield
      have hrequired : field.presence = .required := by simpa using (List.mem_filter.1 hfield).2
      rw [fieldFault?_eq, fieldFault?_eq, h field hrequired]
    have hprefix := FieldValue.text.inj (h .namePrefix rfl)
    have hstorage := FieldValue.storageClasses.inj (h .storageClassOverrides rfl)
    have hzones := FieldValue.zones.inj (h .zoneOverrides rfl)
    rw [validate, validate, hfaults, hprefix, hstorage, hzones]

end State

end NamespaceLifecycle
