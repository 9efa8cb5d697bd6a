import NamespaceLifecycle.Proofs.Drift

/-!
# What has changed

What is reported as changed between two states are the declared fields whose values differ, by the
table of fields and the look-up of their values by name. The object that is sent to make a namespace
is put together without this table. Both speak of the same inputs: nothing is reported exactly when
the two states would be sent in the same form, since every field is read back from the form, also
one that is left out of it.
-/

namespace NamespaceLifecycle

open Json

/-- Two objects are the same exactly when they are written alike, but for the order of members. -/
theorem RemoteObject.reordered_iff {o other : RemoteObject} :
    Reordered o.toJson other.toJson ↔ o = other := by
  constructor
  · intro h
    have hother : ofJson other.toJson = .ok other := ofJson_of_toJson other (.refl _)
    exact Except.ok.inj ((ofJson_of_toJson o h).symm.trans hother)
  · rintro rfl
    exact .refl _

namespace Field

/-- No two fields have the same key. -/
theorem ofKey?_key (field : Field) : ofKey? field.key = some field := by
  cases field <;> decide

theorem nodup_keys : (all.map key).Nodup := by decide

end Field

namespace State

variable {s t : State}

theorem get?_key (s : State) (field : Field) : s.get? field.key = some (s.get field) := by
  rw [get?, Field.ofKey?_key]
  rfl

theorem mem_changedFields {field : Field} :
    field ∈ s.changedFields t ↔ field.presence ≠ .computed ∧ s.get field ≠ t.get field := by
  simp [changedFields, declaredFields, Field.mem_all, and_comm]

/-- States declare the same inputs when the declared fields have the same values. -/
theorem sameInputs_of_get_eq
    (h : ∀ field : Field, field.presence ≠ .computed → s.get field = t.get field) :
    s.SameInputs t where
  projectName_eq := FieldValue.text.inj (h .projectName (by decide))
  namePrefix_eq := FieldValue.text.inj (h .namePrefix (by decide))
  specification_eq := by
    have hclass := FieldValue.text.inj (h .className (by decide))
    have hdescription := FieldValue.text.inj (h .description (by decide))
    have hregion := FieldValue.text.inj (h .regionName (by decide))
    have hvpc := FieldValue.text.inj (h .vpcName (by decide))
    have hstorage := FieldValue.storageClasses.inj (h .storageClassOverrides (by decide))
    have hzones := FieldValue.zones.inj (h .zoneOverrides (by decide))
    rw [specification, specification, hclass, hdescription, hregion, hvpc, hstorage, hzones]

/-- Nothing has changed exactly when the declared inputs are the same. -/
theorem changedFields_eq_nil_iff : s.changedFields t = [] ↔ s.SameInputs t := by
  constructor
  · intro hnone
    apply sameInputs_of_get_eq
    intro field hpresence
    by_contra hne
    have hmem := mem_changedFields.2 ⟨hpresence, hne⟩
    rw [hnone] at hmem
    cases hmem
  · exact SameInputs.changedFields_eq_nil

/-- The object that is sent says what is declared, and nothing else. -/
theorem sameInputs_iff_toObject_eq : s.SameInputs t ↔ s.toObject = t.toObject := by
  constructor
  · rintro ⟨hproject, hbeginning, hspecification⟩
    rw [toObject, toObject, hproject, hbeginning, hspecification]
  · intro h
    have hmetadata := congrArg RemoteObject.metadata h
    exact ⟨congrArg Metadata.namespaceName hmetadata, congrArg Metadata.generateName hmetadata,
      congrArg RemoteObject.specification h⟩

/-- What has changed depends on the declared inputs alone. -/
theorem SameInputs.changedFields_eq {s' t' : State} (h : s.SameInputs s') (h' : t.SameInputs t') :
    s'.changedFields t' = s.changedFields t := by
  unfold changedFields
  apply List.filter_congr
  intro field hfield
  have hpresence : field.presence ≠ .computed := by simpa using (List.mem_filter.1 hfield).2
  rw [h.get_eq hpresence, h'.get_eq hpresence]

theorem changedFields_comm (s t : State) : t.changedFields s = s.changedFields t := by
  unfold changedFields
  apply List.filter_congr
  intro field _
  exact decide_eq_decide.2 ne_comm

/-- By their names, the fields that have changed are the declared ones whose values differ when they
are looked up by name. -/
theorem keys_changedFields (s t : State) :
    (s.changedFields t).map Field.key =
      (declaredFields.map Field.key).filter fun key ↦ s.get? key ≠ t.get? key := by
  rw [List.filter_map]
  congr 1
  apply List.filter_congr
  intro field _
  simp [get?_key]

theorem changedFields_sublist (s t : State) : (s.changedFields t).Sublist Field.all :=
  List.filter_sublist.trans List.filter_sublist

/-- What is reported as changed between two states. -/
structure ReportsChanges (s t : State) : Prop where
  /-- Nothing, exactly when both states are sent in the same form. -/
  none_iff : s.changedFields t = [] ↔ s.toObject.toJson = t.toObject.toJson
  /-- The order of members makes no difference to this. -/
  none_iff_reordered : s.changedFields t = [] ↔ Reordered s.toObject.toJson t.toObject.toJson
  /-- The declared fields whose values differ. -/
  mem_iff : ∀ field, field ∈ s.changedFields t ↔
    field.presence ≠ .computed ∧ s.get field ≠ t.get field
  /-- Their names are those of the table under which different values are found. -/
  keys_eq : (s.changedFields t).map Field.key =
    (declaredFields.map Field.key).filter fun key ↦ s.get? key ≠ t.get? key
  /-- They stand in the order of the table. -/
  sublist : (s.changedFields t).Sublist Field.all
  /-- Each is named once. -/
  nodup : ((s.changedFields t).map Field.key).Nodup
  /-- They are the same from the other state to this one. -/
  comm : t.changedFields s = s.changedFields t
  /-- They depend on the declared inputs alone, not on the identity and not on what is computed. -/
  congr : ∀ s' t', s.SameInputs s' → t.SameInputs t' → s'.changedFields t' = s.changedFields t
  /-- A change is refused with their names, and nothing is sent. -/
  refused : ∀ (m : Manager) (surroundings : Surroundings) (p : Progress),
    m.update s t surroundings p =
      (.error (.failed (.unsupportedOperation ((s.changedFields t).map Field.key))), [])

/-- The report of changes agrees with the form in which states are sent. -/
theorem changedFields_reportsChanges (s t : State) : s.ReportsChanges t where
  none_iff := by
    rw [changedFields_eq_nil_iff, sameInputs_iff_toObject_eq]
    constructor
    · exact congrArg RemoteObject.toJson
    · intro h
      rw [← RemoteObject.reordered_iff, h]
      exact .refl _
  none_iff_reordered := by
    rw [changedFields_eq_nil_iff, sameInputs_iff_toObject_eq, RemoteObject.reordered_iff]
  mem_iff _ := mem_changedFields
  keys_eq := keys_changedFields s t
  sublist := changedFields_sublist s t
  nodup := Field.nodup_keys.sublist ((changedFields_sublist s t).map Field.key)
  comm := changedFields_comm s t
  congr _ _ h h' := h.changedFields_eq h'
  refused _ _ _ := rfl

/-- What is computed makes no change, and what is declared is named in the order of the table. -/
example :
    let prior : State := { State.empty with className := "small", vpcName := "vpc" }
    let planned : State :=
      { prior with id := some "shop:dev-1", phase := "CREATED", vpcName := "", namePrefix := "dev" }
    prior.changedFields planned = [.namePrefix, .vpcName] := by
  decide

end State

end NamespaceLifecycle
