import NamespaceLifecycle.Proofs.Agreement
import NamespaceLifecycle.Proofs.Json.Pruning

/-!
# Objects of which parts are missing

The service may leave out nearly every member of an object, at every depth, and may put in members
of its own. What is missing is read as empty and all else as before, and members that a record does
not know are passed over. Only the entries of the overrides in a specification must be complete:
without one of their members a document is no object, and a reading that is answered with it fails.
-/

namespace NamespaceLifecycle

open Json

/-! ## Shapes of the records of an object

A class and a zone have one shape, be they asked for or observed. -/

def StorageClass.shape : Shape := .record [("name", .plain), ("limitMiB", .plain)]

def VmClass.shape : Shape := .record [("name", .plain)]

def Zone.shape : Shape :=
  .record [("name", .plain), ("cpuLimitMHz", .plain), ("cpuReservationMHz", .plain),
    ("memoryLimitMiB", .plain), ("memoryReservationMiB", .plain)]

def Metadata.shape : Shape :=
  .record [("name", .plain), ("generateName", .plain), ("namespace", .plain)]

def Overrides.shape : Shape :=
  .record [("storageClasses", .list StorageClass.shape), ("zones", .list Zone.shape)]

def Specification.shape : Shape :=
  .record [("className", .plain), ("description", .plain),
    ("initialClassConfigOverrides", Overrides.shape), ("regionName", .plain), ("vpcName", .plain)]

def Condition.shape : Shape :=
  .record [("type", .plain), ("status", .plain), ("reason", .plain), ("message", .plain),
    ("severity", .plain)]

def Status.shape : Shape :=
  .record [("conditions", .list Condition.shape), ("namespaceEndpointURL", .plain),
    ("phase", .plain), ("storageClasses", .list StorageClass.shape),
    ("vmClasses", .list VmClass.shape), ("zones", .list Zone.shape)]

/-- An object is a record of records, with lists of further records in them. -/
def RemoteObject.shape : Shape :=
  .record [("apiVersion", .plain), ("kind", .plain), ("metadata", Metadata.shape),
    ("spec", Specification.shape), ("status", Status.shape)]

/-! ## Objects without some of their fields

What is left of a record when members are taken: a field whose member is taken has the value to fall
back on, and every other one what is left of it. -/

def StorageClass.pruned (c : StorageClass) (marks : Marks) : StorageClass where
  name := marks.rest "name" "" fun _ ↦ c.name
  limit := marks.rest "limitMiB" 0 fun _ ↦ c.limit

def VmClass.pruned (c : VmClass) (marks : Marks) : VmClass where
  name := marks.rest "name" "" fun _ ↦ c.name

def Zone.pruned (z : Zone) (marks : Marks) : Zone where
  name := marks.rest "name" "" fun _ ↦ z.name
  cpuLimit := marks.rest "cpuLimitMHz" 0 fun _ ↦ z.cpuLimit
  cpuReservation := marks.rest "cpuReservationMHz" 0 fun _ ↦ z.cpuReservation
  memoryLimit := marks.rest "memoryLimitMiB" 0 fun _ ↦ z.memoryLimit
  memoryReservation := marks.rest "memoryReservationMiB" 0 fun _ ↦ z.memoryReservation

def Metadata.pruned (m : Metadata) (marks : Marks) : Metadata where
  name := marks.rest "name" "" fun _ ↦ m.name
  generateName := marks.rest "generateName" "" fun _ ↦ m.generateName
  namespaceName := marks.rest "namespace" "" fun _ ↦ m.namespaceName

/-- Overrides lose a list as a whole or not at all, since nothing is taken from their entries. -/
def Overrides.pruned (o : Overrides) (marks : Marks) : Overrides where
  storageClasses := marks.rest "storageClasses" [] fun _ ↦ o.storageClasses
  zones := marks.rest "zones" [] fun _ ↦ o.zones

def Specification.pruned (s : Specification) (marks : Marks) : Specification where
  className := marks.rest "className" "" fun _ ↦ s.className
  description := marks.rest "description" "" fun _ ↦ s.description
  overrides := marks.rest "initialClassConfigOverrides" .empty s.overrides.pruned
  regionName := marks.rest "regionName" "" fun _ ↦ s.regionName
  vpcName := marks.rest "vpcName" "" fun _ ↦ s.vpcName

def Condition.pruned (c : Condition) (marks : Marks) : Condition where
  type := marks.rest "type" "" fun _ ↦ c.type
  status := marks.rest "status" "" fun _ ↦ c.status
  reason := marks.rest "reason" "" fun _ ↦ c.reason
  message := marks.rest "message" "" fun _ ↦ c.message
  severity := marks.rest "severity" "" fun _ ↦ c.severity

def Status.pruned (s : Status) (marks : Marks) : Status where
  conditions := marks.rest "conditions" [] (Marks.restOfItems Condition.pruned s.conditions)
  endpointUrl := marks.rest "namespaceEndpointURL" "" fun _ ↦ s.endpointUrl
  phase := marks.rest "phase" "" fun _ ↦ s.phase
  storageClasses :=
    marks.rest "storageClasses" [] (Marks.restOfItems StorageClass.pruned s.storageClasses)
  vmClasses := marks.rest "vmClasses" [] (Marks.restOfItems VmClass.pruned s.vmClasses)
  zones := marks.rest "zones" [] (Marks.restOfItems Zone.pruned s.zones)

/-- What is left of an object when the marked members are taken, at every depth. -/
def RemoteObject.pruned (o : RemoteObject) (marks : Marks) : RemoteObject where
  apiVersion := marks.rest "apiVersion" "" fun _ ↦ o.apiVersion
  kind := marks.rest "kind" "" fun _ ↦ o.kind
  metadata := marks.rest "metadata" .empty o.metadata.pruned
  specification := marks.rest "spec" .empty o.specification.pruned
  status := marks.rest "status" .empty o.status.pruned

/-! A record without any field loses nothing more. -/

theorem Metadata.pruned_empty (marks : Marks) : empty.pruned marks = empty := by
  simp [pruned, empty, Marks.rest]

theorem Overrides.pruned_empty (marks : Marks) : empty.pruned marks = empty := by
  simp [pruned, empty, Marks.rest]

theorem Specification.pruned_empty (marks : Marks) : empty.pruned marks = empty := by
  simp [pruned, empty, Marks.rest, Overrides.pruned_empty]

theorem Status.pruned_empty (marks : Marks) : empty.pruned marks = empty := by
  simp [pruned, empty, Marks.rest, Marks.restOfItems]

/-! ## Members that may be missing -/

theorem StorageClass.observed_leaves (marks : Marks) : observed.Leaves shape marks pruned := by
  apply Record.decoder_leaves
  intro members _
  -- Each field leaves its rest, and the rests together make up the rest of the record.
  refine (Record.carries_text.map ?_).seq Record.carries_int64
  rintro _ _ rfl _ _ rfl
  rfl

theorem VmClass.observed_leaves (marks : Marks) : observed.Leaves shape marks pruned := by
  apply Record.decoder_leaves
  intro members _
  refine Record.carries_text.map ?_
  rintro _ _ rfl
  rfl

theorem Zone.observed_leaves (marks : Marks) : observed.Leaves shape marks pruned := by
  apply Record.decoder_leaves
  intro members _
  refine ((((Record.carries_text.map ?_).seq Record.carries_int64).seq Record.carries_int64).seq
    Record.carries_int64).seq Record.carries_int64
  rintro _ _ rfl _ _ rfl _ _ rfl _ _ rfl _ _ rfl
  rfl

theorem Condition.decoder_leaves (marks : Marks) : decoder.Leaves shape marks pruned := by
  apply Record.decoder_leaves
  intro members _
  refine ((((Record.carries_text.map ?_).seq Record.carries_text).seq Record.carries_text).seq
    Record.carries_text).seq Record.carries_text
  rintro _ _ rfl _ _ rfl _ _ rfl _ _ rfl _ _ rfl
  rfl

theorem Metadata.decoder_leaves (marks : Marks) : decoder.Leaves shape marks pruned := by
  apply Record.decoder_leaves
  intro members _
  refine ((Record.carries_text.map ?_).seq Record.carries_text).seq Record.carries_text
  rintro _ _ rfl _ _ rfl _ _ rfl
  rfl

theorem Status.decoder_leaves (marks : Marks) : decoder.Leaves shape marks pruned := by
  apply Record.decoder_leaves
  intro members hfits
  refine ((((((Record.carries_list Condition.decoder_leaves
      (hfits ("conditions", _) (by simp))).map ?_).seq Record.carries_text).seq
    Record.carries_text).seq (Record.carries_list StorageClass.observed_leaves
      (hfits ("storageClasses", _) (by simp)))).seq (Record.carries_list VmClass.observed_leaves
      (hfits ("vmClasses", _) (by simp)))).seq (Record.carries_list Zone.observed_leaves
      (hfits ("zones", _) (by simp)))
  rintro _ _ rfl _ _ rfl _ _ rfl _ _ rfl _ _ rfl _ _ rfl
  rfl

/-! ## Entries of overrides -/

theorem StorageClass.requested_leaves {marks : Marks}
    (hmarks : ∀ part, marks [.member part] = false) :
    requested.Leaves shape marks fun c _ ↦ c := by
  apply Record.decoder_leaves
  intro members _
  refine ((Record.carries_required Decoder.text_leaves (hmarks _)).map ?_).seq
    (Record.carries_required Decoder.int64_leaves (hmarks _))
  rintro _ _ rfl _ _ rfl
  rfl

theorem Zone.requested_leaves {marks : Marks} (hmarks : ∀ part, marks [.member part] = false) :
    requested.Leaves shape marks fun z _ ↦ z := by
  apply Record.decoder_leaves
  intro members _
  refine (((((Record.carries_required Decoder.text_leaves (hmarks _)).map ?_).seq
    (Record.carries_required Decoder.int64_leaves (hmarks _))).seq
    (Record.carries_required Decoder.int64_leaves (hmarks _))).seq
    (Record.carries_required Decoder.int64_leaves (hmarks _))).seq
    (Record.carries_required Decoder.int64_leaves (hmarks _))
  rintro _ _ rfl _ _ rfl _ _ rfl _ _ rfl _ _ rfl
  rfl

theorem Overrides.decoder_leaves {marks : Marks}
    (hmarks : ∀ list index part, marks [.member list, .item index, .member part] = false) :
    decoder.Leaves shape marks pruned := by
  apply Record.decoder_leaves
  intro members hfits
  refine ((Record.carries_optional
      (.list fun index ↦ StorageClass.requested_leaves fun part ↦ hmarks _ index part) rfl
      (hfits ("storageClasses", _) (by simp))).map ?_).seq
    (Record.carries_optional
      (.list fun index ↦ Zone.requested_leaves fun part ↦ hmarks _ index part) rfl
      (hfits ("zones", _) (by simp)))
  rintro _ _ rfl _ _ rfl
  simp only [pruned, funext (Marks.restOfItems_eq_self _)]

theorem Specification.decoder_leaves {marks : Marks} (hmarks : ∀ list index part,
      marks [.member "initialClassConfigOverrides", .member list, .item index, .member part] =
        false) :
    decoder.Leaves shape marks pruned := by
  apply Record.decoder_leaves
  intro members hfits
  refine ((((Record.carries_text.map ?_).seq Record.carries_text).seq
    (Record.carries_optional (Overrides.decoder_leaves hmarks) (Overrides.pruned_empty _)
      (hfits ("initialClassConfigOverrides", Overrides.shape) (by simp)))).seq
    Record.carries_text).seq Record.carries_text
  rintro _ _ rfl _ _ rfl _ _ rfl _ _ rfl _ _ rfl
  rfl

/-- The way to a member of an entry of the overrides. -/
def RemoteObject.wayToPart (list : String) (index : Nat) (part : String) : List Step :=
  [.member "spec", .member "initialClassConfigOverrides", .member list, .item index, .member part]

theorem RemoteObject.decoder_leaves {marks : Marks}
    (hmarks : ∀ list index part, marks (wayToPart list index part) = false) :
    decoder.Leaves shape marks pruned := by
  apply Record.decoder_leaves
  intro members hfits
  refine ((((Record.carries_text.map ?_).seq Record.carries_text).seq
    (Record.carries_optional (Metadata.decoder_leaves _) (Metadata.pruned_empty _)
      (hfits ("metadata", Metadata.shape) (by simp)))).seq
    (Record.carries_optional (Specification.decoder_leaves hmarks) (Specification.pruned_empty _)
      (hfits ("spec", Specification.shape) (by simp)))).seq
    (Record.carries_optional (Status.decoder_leaves _) (Status.pruned_empty _)
      (hfits ("status", Status.shape) (by simp)))
  rintro _ _ rfl _ _ rfl _ _ rfl _ _ rfl _ _ rfl
  rfl

/-! ## Strangers -/

instance : StorageClass.requested.IgnoresStrangers StorageClass.shape :=
  Record.decoder_ignoresStrangers (by simp)

instance : StorageClass.observed.IgnoresStrangers StorageClass.shape :=
  Record.decoder_ignoresStrangers (by simp)

instance : VmClass.observed.IgnoresStrangers VmClass.shape :=
  Record.decoder_ignoresStrangers (by simp)

instance : Zone.requested.IgnoresStrangers Zone.shape :=
  Record.decoder_ignoresStrangers (by simp)

instance : Zone.observed.IgnoresStrangers Zone.shape :=
  Record.decoder_ignoresStrangers (by simp)

instance : Metadata.decoder.IgnoresStrangers Metadata.shape :=
  Record.decoder_ignoresStrangers (by simp)

instance : Overrides.decoder.IgnoresStrangers Overrides.shape :=
  Record.decoder_ignoresStrangers (by simp)

instance : Specification.decoder.IgnoresStrangers Specification.shape :=
  Record.decoder_ignoresStrangers (by simp)

instance : Condition.decoder.IgnoresStrangers Condition.shape :=
  Record.decoder_ignoresStrangers (by simp)

instance : Status.decoder.IgnoresStrangers Status.shape :=
  Record.decoder_ignoresStrangers (by simp)

instance : RemoteObject.decoder.IgnoresStrangers RemoteObject.shape :=
  Record.decoder_ignoresStrangers (by simp)

/-! ## Members that must be there -/

/-- A member that an entry of the overrides must have. -/
inductive Overrides.HasPart (o : Overrides) : String → Nat → String → Prop
  | storageClass {index : Nat} {part : String} (h : index < o.storageClasses.length)
      (hpart : part ∈ ["name", "limitMiB"]) : HasPart o "storageClasses" index part
  | zone {index : Nat} {part : String} (h : index < o.zones.length)
      (hpart : part ∈ ["name", "cpuLimitMHz", "cpuReservationMHz", "memoryLimitMiB",
        "memoryReservationMiB"]) : HasPart o "zones" index part

theorem Overrides.HasPart.ne_empty {o : Overrides} {list part : String} {index : Nat}
    (h : o.HasPart list index part) : o ≠ .empty := by
  rintro rfl
  cases h with
  | storageClass h => exact absurd h index.not_lt_zero
  | zone h => exact absurd h index.not_lt_zero

theorem Overrides.refuses_without_part {value : Json} {o : Overrides} {list part : String}
    {index : Nat} {marks : Marks} (hfits : shape.Fits value) (h : decode decoder value = .ok o)
    (hpart : o.HasPart list index part) (hlist : marks [.member list] = false)
    (hmark : marks [.member list, .item index, .member part] = true) :
    decoder.Refuses (value.pruned marks) := by
  cases hfits with
  | @record _ members hfits =>
    obtain ⟨-, hbuild⟩ := (Record.decoder_object_iff Ending.isWhole_counted).1 h
    obtain ⟨_, zones, hfirst, hzones, rfl⟩ := Record.build_seq_eq_ok.1 hbuild
    obtain ⟨classes, hclasses, rfl⟩ := Record.build_map_eq_ok.1 hfirst
    cases hpart with
    | storageClass hindex hpart =>
      obtain ⟨value, hmember, hvalue⟩ :=
        Record.exists_member_of_ne hclasses (List.ne_nil_of_length_pos (Nat.zero_lt_of_lt hindex))
      have hvalueFits :=
        hfits ("storageClasses", .list StorageClass.shape) (by simp) value hmember
      apply Record.refuses_of_member (.head _) (member?_prunedMembers_of_some hlist hmember)
      exact Record.refuses_without_part hvalueFits hvalue hindex hpart hmark
    | zone hindex hpart =>
      obtain ⟨value, hmember, hvalue⟩ :=
        Record.exists_member_of_ne hzones (List.ne_nil_of_length_pos (Nat.zero_lt_of_lt hindex))
      have hvalueFits := hfits ("zones", .list Zone.shape) (by simp) value hmember
      apply Record.refuses_of_member (.tail _ (.head _))
        (member?_prunedMembers_of_some hlist hmember)
      exact Record.refuses_without_part hvalueFits hvalue hindex hpart hmark

/-- Overrides that are not empty are read from their member. -/
theorem Specification.exists_overrides {members : List (String × Json)} {s : Specification}
    (h : decode decoder (.object members) = .ok s) (hne : s.overrides ≠ .empty) :
    ∃ value, member? "initialClassConfigOverrides" (.object members) = some value ∧
      decode Overrides.decoder value = .ok s.overrides := by
  obtain ⟨-, hbuild⟩ := (Record.decoder_object_iff Ending.isWhole_counted).1 h
  simp only [Record.build_seq_eq_ok, Record.build_map_eq_ok] at hbuild
  obtain ⟨_, _, ⟨_, _, ⟨_, _, ⟨_, _, ⟨_, -, rfl⟩, -, rfl⟩, hfield, rfl⟩, -, rfl⟩, -, rfl⟩ := hbuild
  exact Record.exists_member_of_ne hfield hne

/-- A specification that is not empty is read from its member. -/
theorem RemoteObject.exists_specification {members : List (String × Json)} {o : RemoteObject}
    (h : ofJson (.object members) = .ok o) (hne : o.specification ≠ .empty) :
    ∃ value, member? "spec" (.object members) = some value ∧
      decode Specification.decoder value = .ok o.specification := by
  obtain ⟨-, hbuild⟩ := (Record.decoder_object_iff Ending.isWhole_counted).1 h
  simp only [Record.build_seq_eq_ok, Record.build_map_eq_ok] at hbuild
  obtain ⟨_, _, ⟨_, _, ⟨_, _, ⟨_, _, ⟨_, -, rfl⟩, -, rfl⟩, -, rfl⟩, hfield, rfl⟩, -, rfl⟩ := hbuild
  exact Record.exists_member_of_ne hfield hne

theorem Specification.refuses_without_part {value : Json} {s : Specification} {list part : String}
    {index : Nat} {marks : Marks} (hfits : shape.Fits value) (h : decode decoder value = .ok s)
    (hpart : s.overrides.HasPart list index part)
    (hstays : marks [.member "initialClassConfigOverrides"] = false)
    (hlist : marks [.member "initialClassConfigOverrides", .member list] = false)
    (hmark : marks [.member "initialClassConfigOverrides", .member list, .item index,
      .member part] = true) :
    decoder.Refuses (value.pruned marks) := by
  cases hfits with
  | @record _ members hfits =>
    obtain ⟨value, hmember, hvalue⟩ := exists_overrides h hpart.ne_empty
    have hvalueFits :=
      hfits ("initialClassConfigOverrides", Overrides.shape) (by simp) value hmember
    apply Record.refuses_of_member (.tail _ (.tail _ (.head _)))
      (member?_prunedMembers_of_some hstays hmember)
    exact Overrides.refuses_without_part hvalueFits hvalue hpart hlist hmark

/-- An object is not read when an entry of its overrides stays, but loses a member. -/
theorem RemoteObject.refuses_without_part {value : Json} {o : RemoteObject} {list part : String}
    {index : Nat} {marks : Marks} (hfits : shape.Fits value) (h : ofJson value = .ok o)
    (hpart : o.specification.overrides.HasPart list index part)
    (hspec : marks [.member "spec"] = false)
    (hstays : marks [.member "spec", .member "initialClassConfigOverrides"] = false)
    (hlist : marks [.member "spec", .member "initialClassConfigOverrides", .member list] = false)
    (hmark : marks (wayToPart list index part) = true) :
    decoder.Refuses (value.pruned marks) := by
  cases hfits with
  | @record _ members hfits =>
    have hne : o.specification ≠ .empty := fun hempty ↦
      hpart.ne_empty (congrArg Specification.overrides hempty)
    obtain ⟨value, hmember, hvalue⟩ := exists_specification h hne
    have hvalueFits := hfits ("spec", Specification.shape) (by simp) value hmember
    apply Record.refuses_of_member (.tail _ (.tail _ (.tail _ (.head _))))
      (member?_prunedMembers_of_some hspec hmember)
    exact Specification.refuses_without_part hvalueFits hvalue hpart hstays hlist hmark

/-! ## Readings -/

theorem Endpoint.found_of_error {identity : Identity} {value : Json} {cause : DecodeError}
    (h : RemoteObject.ofJson value = .error cause) :
    found identity (.ok value) =
      .error (.transport .reading identity.project identity.name (.decode cause)) := by
  simp only [found, objectOf, h]
  rfl

/-- A document that is no object: whoever reads a namespace and is answered so ends with an error of
the transport, which holds the cause. -/
structure RemoteObject.IsRefused (value : Json) (cause : DecodeError) : Prop where
  undecoded : ofJson value = .error cause
  fetched : ∀ (e : Endpoint) (identity : Identity) (s : Surroundings) (p : Progress) (url : Url),
    e.url identity.project (some identity.name) = .ok url →
    s.Answers p ⟨.get, url, none⟩ (.ok value) →
    (e.fetch identity s p).1 =
      .error (.failed (.transport .reading identity.project identity.name (.decode cause)))
  read : ∀ (m : Manager) (state : State) (identity : Identity) (s : Surroundings) (p : Progress)
    (url : Url), Manager.identityOf state = .ok identity →
    m.endpoint.url identity.project (some identity.name) = .ok url →
    m.endpoint.IsAnswered identity s p (.ok value) →
    (m.read state s p).1 =
      .error (.failed (.transport .reading identity.project identity.name (.decode cause)))

theorem Endpoint.fetch_of_undecoded {e : Endpoint} {identity : Identity} {s : Surroundings}
    {p : Progress} {url : Url} {value : Json} {cause : DecodeError}
    (hvalue : RemoteObject.ofJson value = .error cause)
    (hurl : e.url identity.project (some identity.name) = .ok url)
    (hanswer : s.Answers p ⟨.get, url, none⟩ (.ok value)) :
    (e.fetch identity s p).1 =
      .error (.failed (.transport .reading identity.project identity.name (.decode cause))) := by
  obtain ⟨lines, hrun⟩ := fetch_isExchange hurl s p
  have hcount := hanswer.counted
  rw [Progress.elapsed_replied] at hcount
  rw [hrun, if_pos hcount, hanswer.outcome]
  exact congrArg (Except.mapError Stop.failed) (found_of_error hvalue)

theorem Manager.read_of_undecoded {m : Manager} {state : State} {identity : Identity}
    {s : Surroundings} {p : Progress} {url : Url} {value : Json} {cause : DecodeError}
    (hvalue : RemoteObject.ofJson value = .error cause)
    (hidentity : identityOf state = .ok identity)
    (hurl : m.endpoint.url identity.project (some identity.name) = .ok url)
    (hanswer : m.endpoint.IsAnswered identity s p (.ok value)) :
    (m.read state s p).1 =
      .error (.failed (.transport .reading identity.project identity.name (.decode cause))) := by
  obtain ⟨events, hlook, -⟩ := hanswer.run (refresh_carriesOut identity "read")
  rcases hrun : m.read state s p with ⟨result, events'⟩
  cases read_run hrun with
  | unidentified hnone => cases hidentity.symm.trans hnone
  | asked hknown hread =>
    cases hidentity.symm.trans hknown
    cases hlook.symm.trans hread
    rw [Endpoint.looked, hurl]
    change (((Endpoint.found identity (.ok value)).bind identity.view).mapError Stop.failed).map
      (keepPrefix state) = _
    rw [Endpoint.found_of_error hvalue]
    rfl

theorem RemoteObject.exists_isRefused {value : Json} (h : decoder.Refuses value) :
    ∃ cause, IsRefused value cause := by
  cases hvalue : ofJson value with
  | ok object => exact absurd hvalue (h object)
  | error cause =>
    refine ⟨cause, hvalue, ?_, ?_⟩
    · exact fun _ _ _ _ _ hurl hanswer ↦ Endpoint.fetch_of_undecoded hvalue hurl hanswer
    · exact fun _ _ _ _ _ _ hidentity hurl hanswer ↦
        Manager.read_of_undecoded hvalue hidentity hurl hanswer

/-- How an object is read from a document of which parts are missing, or to which parts are
added. -/
structure RemoteObject.IsReadLeniently (value : Json) (o : RemoteObject) : Prop where
  /-- Any members may be missing but those of the entries of the overrides. -/
  resets : ∀ marks : Marks, (∀ list index part, marks (wayToPart list index part) = false) →
    ofJson (value.pruned marks) = .ok (o.pruned marks)
  /-- Members that a record does not know change nothing. -/
  ignores : ∀ other, Padded shape value other → ofJson other = .ok o
  /-- An entry of the overrides must have all its members. -/
  refuses : ∀ list index part, o.specification.overrides.HasPart list index part →
    ∃ cause, IsRefused (value.pruned (.only (wayToPart list index part))) cause

/-- Objects are read leniently, whatever is missing, but for the entries of their overrides. -/
theorem RemoteObject.ofJson_isReadLeniently {value : Json} {o : RemoteObject}
    (hfits : shape.Fits value) (h : ofJson value = .ok o) : IsReadLeniently value o where
  resets _ hmarks := decoder_leaves hmarks hfits h
  ignores _ hpadded := Decoder.IgnoresStrangers.decode_eq hpadded h
  refuses list index part hpart := by
    apply exists_isRefused
    apply refuses_without_part hfits h hpart <;> simp [Marks.only, wayToPart]

/-- An object that is still being made, with one class asked for and a stranger in its metadata. -/
theorem RemoteObject.ofJson_isReadLeniently_creating :
    let value : Json := .object
      [("metadata", .object [("name", .text "dev-1"), ("uid", .text "7f3a")]),
        ("spec", .object [("initialClassConfigOverrides", .object [("storageClasses",
          .array [.object [("name", .text "gold"), ("limitMiB", .nat 1024)]])])]),
        ("status", .object [("phase", .text "CREATING"),
          ("zones", .array [.object [("name", .text "zone-1")]])])]
    let o : RemoteObject :=
      ⟨"", "", ⟨"dev-1", "", ""⟩, ⟨"", "", ⟨[⟨"gold", 1024⟩], []⟩, "", ""⟩,
        ⟨[], "", "CREATING", [], [], [⟨"zone-1", 0, 0, 0, 0⟩]⟩⟩
    shape.Fits value ∧ ofJson value = .ok o ∧
      o.specification.overrides.HasPart "storageClasses" 0 "limitMiB" ∧
      IsReadLeniently value o := by
  intro value o
  have hfits : shape.Fits value := by
    simp [value, shape, Metadata.shape, Specification.shape, Overrides.shape, StorageClass.shape,
      Status.shape, Zone.shape, Shape.fits_record_iff, Shape.fits_list_iff, Shape.Fits.plain,
      member?_cons]
  have hvalue : ofJson value = .ok o := rfl
  have hpart : o.specification.overrides.HasPart "storageClasses" 0 "limitMiB" :=
    .storageClass (by decide) (by decide)
  exact ⟨hfits, hvalue, hpart, ofJson_isReadLeniently hfits hvalue⟩

end NamespaceLifecycle
