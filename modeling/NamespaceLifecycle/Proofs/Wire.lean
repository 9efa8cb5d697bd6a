import NamespaceLifecycle.Proofs.Json.Order
import NamespaceLifecycle.State

/-!
# What is written is read again

Parts that are empty are left out when a record is written, and what is missing is read as empty, so
what was written is read again, be it from a document held in memory or from the text of one. The
two agree field by field: what stands under the key of a field is either the form of the field or
nothing, and nothing only where the field is empty.
-/

namespace NamespaceLifecycle

namespace Json

/-- A decoder reads a value from a document, be the document held in memory or read from a text. -/
def Decoder.Reads {α : Type} (d : Decoder α) (value : Json) (a : α) : Prop :=
  ∀ ⦃ending : Ending⦄, ending.IsWhole → d (value.toDraft ending) = .ok a

theorem Decoder.Reads.decode_eq {α : Type} {d : Decoder α} {value : Json} {a : α}
    (h : d.Reads value a) : decode d value = .ok a :=
  h Ending.isWhole_counted

/-! ## Scalars and lists -/

theorem reads_text (value : String) : Decoder.text.Reads (.text value) value := fun _ _ ↦ rfl

theorem reads_int64 (n : Int64) : Decoder.int64.Reads (.int64 n) n := by
  intro ending _
  have hlow : -(2 ^ 63 : Int) ≤ n.toInt := Int64.le_toInt n
  have hhigh : n.toInt < 2 ^ 63 := Int64.toInt_lt n
  unfold Json.int64 Json.int Number.ofInt
  by_cases hsign : 0 ≤ n.toInt
  · have hsize : n.toInt.toNat < UInt64.size / 2 := by
      change n.toInt.toNat < 2 ^ 63
      omega
    have hvalue : Int64.ofNat n.toInt.toNat = n := calc
      Int64.ofNat n.toInt.toNat = Int64.ofInt n.toInt.toNat := Int64.ofInt_eq_ofNat.symm
      _ = Int64.ofInt n.toInt := by rw [Int.toNat_of_nonneg hsign]
      _ = n := Int64.ofInt_toInt n
    rw [if_pos hsign, toDraft, Decoder.int64, if_pos hsize, hvalue]
  · rw [if_neg hsign, toDraft, Decoder.int64, Int64.ofInt_toInt]

theorem reads_list {α : Type} {d : Decoder α} {toJson : α → Json}
    (h : ∀ a, d.Reads (toJson a) a) (values : List α) :
    (Decoder.list d).Reads (.array (values.map toJson)) values := by
  intro ending hending
  rw [Decoder.list_array_eq_ok hending]
  induction values with
  | nil => rfl
  | cons a values ih => exact Decoder.items_cons_eq_ok.2 ⟨a, values, h a hending, ih, rfl⟩

/-! ## Members that may be left out -/

theorem member?_textUnlessEmpty (key other text : String) :
    member? key (.object (textUnlessEmpty other text)) =
      if other = key ∧ text ≠ "" then some (.text text) else none := by
  unfold textUnlessEmpty
  split
  · simp [*]
  · simp [*, member?_cons]

theorem member?_listUnlessEmpty {α : Type} (key other : String) (toJson : α → Json)
    (items : List α) : member? key (.object (listUnlessEmpty other toJson items)) =
      if other = key ∧ items ≠ [] then some (.array (items.map toJson)) else none := by
  unfold listUnlessEmpty
  cases items with
  | nil => simp
  | cons item items => simp [member?_cons]

theorem keys_textUnlessEmpty (key text : String) :
    List.Sublist ((textUnlessEmpty key text).map Prod.fst) [key] := by
  unfold textUnlessEmpty
  split
  · exact List.nil_sublist _
  · exact .refl _

theorem keys_listUnlessEmpty {α : Type} (key : String) (toJson : α → Json) (items : List α) :
    List.Sublist ((listUnlessEmpty key toJson items).map Prod.fst) [key] := by
  unfold listUnlessEmpty
  split
  · exact List.nil_sublist _
  · exact .refl _

namespace Record

variable {α : Type} {key : String} {members : List (String × Json)} {a : α}
variable {ending : Ending} {d : Decoder α} {fallback : α} {value : Json}

/-- A field that is left out exactly when it has the value to fall back on. -/
theorem takes_unless [Decidable (a = fallback)] (hd : d (value.toDraft ending) = .ok a)
    (h : member? key (.object members) = if a ≠ fallback then some value else none) :
    (optional key d fallback).Takes (drafts ending members) a := by
  by_cases hfallback : a = fallback
  · rw [if_neg fun hne ↦ hne hfallback] at h
    exact hfallback ▸ takes_fallback h
  · rw [if_pos hfallback] at h
    exact takes_member h hd

theorem takes_text {text : String}
    (h : member? key (.object members) = if text ≠ "" then some (.text text) else none) :
    (optional key Decoder.text "").Takes (drafts ending members) text :=
  takes_unless rfl h

theorem takes_list [DecidableEq α] (hending : ending.IsWhole) {toJson : α → Json} {items : List α}
    (hd : ∀ item, d.Reads (toJson item) item)
    (h : member? key (.object members) =
      if items ≠ [] then some (.array (items.map toJson)) else none) :
    (optional key (Decoder.list d) []).Takes (drafts ending members) items :=
  takes_unless (reads_list hd items hending) h

end Record

end Json

open Json

/-! ## Objects of the service -/

theorem StorageClass.requested_reads (c : StorageClass) : requested.Reads c.toWire c := by
  intro ending hending
  apply Record.decoder_of_nodup hending (by simp)
  exact ((Record.takes_required_member rfl (reads_text _ hending)).map StorageClass.mk).seq
    (Record.takes_required_member rfl (reads_int64 _ hending))

theorem StorageClass.observed_reads (c : StorageClass) : observed.Reads c.toWire c := by
  intro ending hending
  apply Record.decoder_of_nodup hending (by simp)
  exact ((Record.takes_member rfl (reads_text _ hending)).map StorageClass.mk).seq
    (Record.takes_member rfl (reads_int64 _ hending))

theorem VmClass.observed_reads (c : VmClass) : observed.Reads c.toJson c := by
  intro ending hending
  apply Record.decoder_of_nodup hending (by simp)
  exact (Record.takes_member rfl (reads_text _ hending)).map VmClass.mk

theorem Zone.requested_reads (z : Zone) : requested.Reads z.toWire z := by
  intro ending hending
  apply Record.decoder_of_nodup hending (by simp)
  exact (((((Record.takes_required_member rfl (reads_text _ hending)).map Zone.mk).seq
    (Record.takes_required_member rfl (reads_int64 _ hending))).seq
    (Record.takes_required_member rfl (reads_int64 _ hending))).seq
    (Record.takes_required_member rfl (reads_int64 _ hending))).seq
    (Record.takes_required_member rfl (reads_int64 _ hending))

theorem Zone.observed_reads (z : Zone) : observed.Reads z.toWire z := by
  intro ending hending
  apply Record.decoder_of_nodup hending (by simp)
  exact (((((Record.takes_member rfl (reads_text _ hending)).map Zone.mk).seq
    (Record.takes_member rfl (reads_int64 _ hending))).seq
    (Record.takes_member rfl (reads_int64 _ hending))).seq
    (Record.takes_member rfl (reads_int64 _ hending))).seq
    (Record.takes_member rfl (reads_int64 _ hending))

theorem Condition.decoder_reads (c : Condition) : decoder.Reads c.toJson c := by
  intro ending hending
  apply Record.decoder_of_nodup hending (by simp)
  exact (((((Record.takes_member rfl (reads_text _ hending)).map Condition.mk).seq
    (Record.takes_member rfl (reads_text _ hending))).seq
    (Record.takes_member rfl (reads_text _ hending))).seq
    (Record.takes_member rfl (reads_text _ hending))).seq
    (Record.takes_member rfl (reads_text _ hending))

theorem Metadata.decoder_reads (m : Metadata) : decoder.Reads m.toJson m := by
  intro ending hending
  apply Record.decoder_of_nodup hending
  · have hkeys := ((keys_textUnlessEmpty "name" m.name).append
      (keys_textUnlessEmpty "generateName" m.generateName)).append
      (keys_textUnlessEmpty "namespace" m.namespaceName)
    simp only [List.map_append]
    exact List.Nodup.sublist hkeys (by simp)
  · refine (((Record.takes_text ?_).map Metadata.mk).seq (Record.takes_text ?_)).seq
      (Record.takes_text ?_)
    all_goals simp [member?_append, member?_textUnlessEmpty]

theorem Overrides.decoder_reads (o : Overrides) : decoder.Reads o.toJson o := by
  intro ending hending
  apply Record.decoder_of_nodup hending
  · have hclasses := keys_listUnlessEmpty "storageClasses" StorageClass.toWire o.storageClasses
    have hkeys := hclasses.append (keys_listUnlessEmpty "zones" Zone.toWire o.zones)
    rw [← List.map_append] at hkeys
    exact List.Nodup.sublist hkeys (by simp)
  · refine ((Record.takes_list hending StorageClass.requested_reads ?_).map Overrides.mk).seq
      (Record.takes_list hending Zone.requested_reads ?_)
    · simp [member?_append, member?_listUnlessEmpty]
    · simp [member?_append, member?_listUnlessEmpty]

theorem Specification.decoder_reads (s : Specification) : decoder.Reads s.toJson s := by
  intro ending hending
  apply Record.decoder_of_nodup hending
  · have hkeys := ((((keys_textUnlessEmpty "className" s.className).append
      (keys_textUnlessEmpty "description" s.description)).append
      (.refl ["initialClassConfigOverrides"])).append
      (keys_textUnlessEmpty "regionName" s.regionName)).append
      (keys_textUnlessEmpty "vpcName" s.vpcName)
    simp only [List.map_append]
    exact List.Nodup.sublist hkeys (by simp)
  · refine (((((Record.takes_text ?_).map Specification.mk).seq (Record.takes_text ?_)).seq
      (Record.takes_member ?_ (Overrides.decoder_reads _ hending))).seq (Record.takes_text ?_)).seq
      (Record.takes_text ?_)
    all_goals simp [member?_append, member?_textUnlessEmpty, member?_cons]

theorem Status.decoder_reads (s : Status) : decoder.Reads s.toJson s := by
  intro ending hending
  apply Record.decoder_of_nodup hending
  · have hkeys := (((((keys_listUnlessEmpty "conditions" Condition.toJson s.conditions).append
      (keys_textUnlessEmpty "namespaceEndpointURL" s.endpointUrl)).append
      (keys_textUnlessEmpty "phase" s.phase)).append
      (keys_listUnlessEmpty "storageClasses" StorageClass.toWire s.storageClasses)).append
      (keys_listUnlessEmpty "vmClasses" VmClass.toJson s.vmClasses)).append
      (keys_listUnlessEmpty "zones" Zone.toWire s.zones)
    simp only [List.map_append]
    exact List.Nodup.sublist hkeys (by simp)
  · refine ((((((Record.takes_list hending Condition.decoder_reads ?_).map Status.mk).seq
      (Record.takes_text ?_)).seq (Record.takes_text ?_)).seq
      (Record.takes_list hending StorageClass.observed_reads ?_)).seq
      (Record.takes_list hending VmClass.observed_reads ?_)).seq
      (Record.takes_list hending Zone.observed_reads ?_)
    all_goals simp [member?_append, member?_textUnlessEmpty, member?_listUnlessEmpty]

/-- A status stands in the form of an object exactly when something is observed. -/
theorem RemoteObject.member?_status (o : RemoteObject) :
    member? "status" o.toJson = if o.status ≠ .empty then some o.status.toJson else none := by
  unfold toJson
  by_cases h : o.status = .empty
  · simp [h, member?_cons]
  · simp [h, member?_cons]

theorem RemoteObject.decoder_reads (o : RemoteObject) : decoder.Reads o.toJson o := by
  intro ending hending
  apply Record.decoder_of_nodup hending
  · split <;> simp
  · exact (((((Record.takes_member rfl (reads_text _ hending)).map RemoteObject.mk).seq
      (Record.takes_member rfl (reads_text _ hending))).seq
      (Record.takes_member rfl (Metadata.decoder_reads _ hending))).seq
      (Record.takes_member rfl (Specification.decoder_reads _ hending))).seq
      (Record.takes_unless (Status.decoder_reads _ hending) o.member?_status)

/-! ## Objects in any order of members -/

instance : StorageClass.requested.IgnoresOrder := by
  unfold StorageClass.requested
  infer_instance

instance : StorageClass.observed.IgnoresOrder := by
  unfold StorageClass.observed
  infer_instance

instance : VmClass.observed.IgnoresOrder := by
  unfold VmClass.observed
  infer_instance

instance : Zone.requested.IgnoresOrder := by
  unfold Zone.requested
  infer_instance

instance : Zone.observed.IgnoresOrder := by
  unfold Zone.observed
  infer_instance

instance : Metadata.decoder.IgnoresOrder := by
  unfold Metadata.decoder
  infer_instance

instance : Overrides.decoder.IgnoresOrder := by
  unfold Overrides.decoder
  infer_instance

instance : Specification.decoder.IgnoresOrder := by
  unfold Specification.decoder
  infer_instance

instance : Condition.decoder.IgnoresOrder := by
  unfold Condition.decoder
  infer_instance

instance : Status.decoder.IgnoresOrder := by
  unfold Status.decoder
  infer_instance

instance : RemoteObject.decoder.IgnoresOrder := by
  unfold RemoteObject.decoder
  infer_instance

/-- Documents that differ in the order of members are the same object. -/
theorem RemoteObject.ofJson_of_reordered {value other : Json} (h : Reordered value other)
    {object : RemoteObject} (hobject : ofJson value = .ok object) : ofJson other = .ok object :=
  Decoder.IgnoresOrder.decode_eq h hobject

/-- What is written of an object is that object, in every order of its members. -/
theorem RemoteObject.ofJson_of_toJson (o : RemoteObject) {value : Json}
    (h : Reordered o.toJson value) : ofJson value = .ok o :=
  ofJson_of_reordered h o.decoder_reads.decode_eq

/-- A new object is written without a status, since nothing is observed of it yet. -/
theorem RemoteObject.member?_status_new (project generateName : String)
    (specification : Specification) :
    member? "status" (new project generateName specification).toJson = none := by
  rw [member?_status]
  exact if_neg fun h ↦ h rfl

/-- The metadata of a new object is written without a name. -/
theorem Metadata.member?_name_of_empty (generateName project : String) :
    member? "name" (Metadata.mk "" generateName project).toJson = none := by
  simp [toJson, member?_append, member?_textUnlessEmpty]

/-- Every object is read from what is written of it, so objects that are written alike, but for the
order of members, are the same; and what is written of a new object has neither a status nor a name
of its own. -/
theorem RemoteObject.toJson_roundTrips :
    (∀ (o : RemoteObject) (value : Json), Reordered o.toJson value → ofJson value = .ok o) ∧
    (∀ o other : RemoteObject, Reordered o.toJson other.toJson → o = other) ∧
    ∀ (project generateName : String) (s : State),
      member? "status" (new project generateName s.specification).toJson = none ∧
      ∃ metadata, member? "metadata" (new project generateName s.specification).toJson =
        some metadata ∧ member? "name" metadata = none := by
  refine ⟨fun o value h ↦ ofJson_of_toJson o h, fun o other h ↦ ?_,
    fun project generateName s ↦ ⟨member?_status_new _ _ _, _, rfl, ?_⟩⟩
  · have hother : ofJson other.toJson = .ok other := ofJson_of_toJson other (.refl _)
    exact Except.ok.inj ((ofJson_of_toJson o h).symm.trans hother)
  · exact Metadata.member?_name_of_empty generateName project

end NamespaceLifecycle
