import NamespaceLifecycle.Proofs.Reading
import NamespaceLifecycle.Proofs.Wire

/-!
# No changes that nobody made

A faithful service answers with the object that was submitted, completed by its name and by whatever
status it observes; it may leave out the beginning of the name. The declared inputs then come back
as they went out: through the form on the wire and its reading, through the view, and through the
two ways in which making and reading a namespace treat the beginning of its name.
-/

namespace NamespaceLifecycle

namespace Json

def without (key : String) : Json → Json
  | object members => .object (members.filter (·.1 ≠ key))
  | value => value

def extended (key : String) (content : Json) : Json → Json
  | object members => .object (members ++ [(key, content)])
  | value => value

def atMember (key : String) (change : Json → Json) : Json → Json
  | object members =>
    .object (members.map fun member ↦ if member.1 = key then (key, change member.2) else member)
  | value => value

/-- A submitted object as a faithful service completes it: under a name, with a status, and with the
beginning of its name or without. -/
def completed (submitted : Json) (name : String) (keepsPrefix : Bool) (status : Json) : Json :=
  extended "status" status <| submitted.atMember "metadata" fun metadata ↦
    extended "name" (.text name) (if keepsPrefix then metadata else metadata.without "generateName")

/-- A document is what a faithful service makes of a submitted object, with any status and with its
members in any order. -/
def IsEchoOf (submitted : Json) (name : String) (value : Json) : Prop :=
  ∃ keepsPrefix status observed, decode Status.decoder status = .ok observed ∧
    (submitted.completed name keepsPrefix status).Reordered value

theorem member?_filter (key other : String) (members : List (String × Json)) :
    member? key (.object (members.filter (·.1 ≠ other))) =
      if key = other then none else member? key (.object members) := by
  induction members with
  | nil => simp
  | cons member members ih =>
    obtain ⟨first, value⟩ := member
    rw [List.filter_cons, member?_cons]
    by_cases hother : first = other
    · subst hother
      simp only [ne_eq, not_true_eq_false, decide_false, Bool.false_eq_true, if_false, ih]
      by_cases hkey : key = first
      · rw [if_pos hkey, if_pos hkey]
      · rw [if_neg hkey, if_neg hkey, if_neg (Ne.symm hkey)]
    · simp only [ne_eq, hother, not_false_eq_true, decide_true, if_true]
      rw [member?_cons, ih]
      by_cases hkey : first = key
      · rw [if_pos hkey, if_pos hkey, if_neg (hkey ▸ hother)]
      · rw [if_neg hkey, if_neg hkey]

theorem keys_filter (other : String) (members : List (String × Json)) :
    List.Sublist ((members.filter (·.1 ≠ other)).map Prod.fst) (members.map Prod.fst) :=
  List.filter_sublist.map Prod.fst

end Json

open Json

/-- The metadata that a faithful service completes. -/
theorem Metadata.decode_completed (name generateName project : String) (keepsPrefix : Bool) :
    decode decoder (extended "name" (.text name) (if keepsPrefix then
        (Metadata.mk "" generateName project).toJson
      else (Metadata.mk "" generateName project).toJson.without "generateName")) =
      .ok ⟨name, if keepsPrefix then generateName else "", project⟩ := by
  have hkeys : List.Sublist ((textUnlessEmpty "name" "" ++
      textUnlessEmpty "generateName" generateName ++
      textUnlessEmpty "namespace" project).map Prod.fst) ["generateName", "namespace"] := by
    rw [List.map_append, List.map_append]
    exact ((List.Sublist.refl []).append (keys_textUnlessEmpty "generateName" generateName)).append
      (keys_textUnlessEmpty "namespace" project)
  cases keepsPrefix with
  | true =>
    refine Record.decoder_of_nodup Ending.isWhole_counted ?_ ?_
    · rw [List.map_append]
      exact List.Nodup.sublist (hkeys.append (.refl ["name"])) (by simp)
    · refine (((Record.takes_member ?_ (reads_text _).decode_eq).map Metadata.mk).seq
        (Record.takes_text ?_)).seq (Record.takes_text ?_)
      all_goals simp [member?_append, member?_textUnlessEmpty, member?_cons]
  | false =>
    refine Record.decoder_of_nodup Ending.isWhole_counted ?_ ?_
    · have hleft := (keys_filter "generateName" _).trans hkeys
      rw [List.map_append]
      exact List.Nodup.sublist (hleft.append (.refl ["name"])) (by simp)
    · refine (((Record.takes_member ?_ (reads_text _).decode_eq).map Metadata.mk).seq
        (Record.takes_fallback ?_)).seq (Record.takes_text ?_)
      all_goals
        rw [member?_append, member?_filter]
        simp [member?_append, member?_textUnlessEmpty, member?_cons]

/-- What a faithful service makes of a new object. -/
theorem RemoteObject.completed_new (project generateName : String) (specification : Specification)
    (name : String) (keepsPrefix : Bool) (status : Json) :
    completed (new project generateName specification).toJson name keepsPrefix status =
      .object [("apiVersion", .text currentApiVersion), ("kind", .text kindName),
        ("metadata", extended "name" (.text name) (if keepsPrefix then
            (Metadata.mk "" generateName project).toJson
          else (Metadata.mk "" generateName project).toJson.without "generateName")),
        ("spec", specification.toJson), ("status", status)] := rfl

theorem RemoteObject.ofJson_completed (project generateName : String)
    (specification : Specification) (name : String) (keepsPrefix : Bool) {status : Json}
    {observed : Status} (hstatus : decode Status.decoder status = .ok observed) :
    ofJson (completed (new project generateName specification).toJson name keepsPrefix status) =
      .ok ⟨currentApiVersion, kindName, ⟨name, if keepsPrefix then generateName else "", project⟩,
        specification, observed⟩ := by
  rw [completed_new]
  refine Record.decoder_of_nodup Ending.isWhole_counted (by simp) ?_
  exact (((((Record.takes_member rfl (reads_text _).decode_eq).map RemoteObject.mk).seq
    (Record.takes_member rfl (reads_text _).decode_eq)).seq
    (Record.takes_member rfl (Metadata.decode_completed name generateName project keepsPrefix))).seq
    (Record.takes_member rfl (Specification.decoder_reads specification).decode_eq)).seq
    (Record.takes_member rfl hstatus)

/-- An echo of a new object has its specification, and tells the beginning of its name or none. -/
theorem RemoteObject.of_isEchoOf {project generateName name : String}
    {specification : Specification} {value : Json}
    (h : IsEchoOf (new project generateName specification).toJson name value) :
    ∃ object, ofJson value = .ok object ∧ object.specification = specification ∧
      (object.metadata.generateName = generateName ∨ object.metadata.generateName = "") := by
  obtain ⟨keepsPrefix, status, observed, hstatus, hvalue⟩ := h
  refine ⟨_, ofJson_of_reordered hvalue (ofJson_completed project generateName specification name
    keepsPrefix hstatus), rfl, ?_⟩
  cases keepsPrefix with
  | true => exact .inl rfl
  | false => exact .inr rfl

/-! ## Declared inputs -/

namespace State

/-- Two states declare the same inputs. -/
structure SameInputs (s t : State) : Prop where
  projectName_eq : s.projectName = t.projectName
  namePrefix_eq : s.namePrefix = t.namePrefix
  specification_eq : s.specification = t.specification

theorem SameInputs.get_eq {s t : State} (h : s.SameInputs t) {field : Field}
    (hfield : field.presence ≠ .computed) : s.get field = t.get field := by
  have hspecification := h.specification_eq
  simp only [specification, Specification.mk.injEq, Overrides.mk.injEq] at hspecification
  obtain ⟨hclass, hdescription, ⟨hstorage, hzones⟩, hregion, hvpc⟩ := hspecification
  cases field with
  | namePrefix => exact congrArg FieldValue.text h.namePrefix_eq
  | projectName => exact congrArg FieldValue.text h.projectName_eq
  | className => exact congrArg FieldValue.text hclass
  | description => exact congrArg FieldValue.text hdescription
  | regionName => exact congrArg FieldValue.text hregion
  | vpcName => exact congrArg FieldValue.text hvpc
  | storageClassOverrides => exact congrArg FieldValue.storageClasses hstorage
  | zoneOverrides => exact congrArg FieldValue.zones hzones
  | name | phase | ready | endpointUrl | storageClasses | vmClasses | zones =>
    exact absurd rfl hfield

/-- Nothing has changed between states that declare the same. -/
theorem SameInputs.changedFields_eq_nil {s t : State} (h : s.SameInputs t) :
    s.changedFields t = [] := by
  rw [changedFields, List.filter_eq_nil_iff]
  intro field hfield
  have hpresence : field.presence ≠ .computed := by simpa using (List.mem_filter.1 hfield).2
  simp [h.get_eq hpresence]

end State

/-! ## Making and reading -/

/-- Whatever the service answers with a document, it is an echo of what was submitted. -/
def Surroundings.Echoes (s : Surroundings) (config : State) (name : String) : Prop :=
  ∀ n request value, (s.transport n request).outcome = .ok (.ok value) →
    IsEchoOf config.toObject.toJson name value

theorem Surroundings.Echoes.isEchoOf {s : Surroundings} {config : State} {name : String}
    (h : s.Echoes config name) {p : Progress} {events : List Event} {value : Json}
    (hlast : AnsweredLast s p events (.ok value)) :
    IsEchoOf config.toObject.toJson name value := by
  obtain ⟨_, _, _, hanswer⟩ := hlast.exists_last
  exact h _ _ _ hanswer

namespace Manager

open Run

variable {m : Manager} {s : Surroundings} {p : Progress}

theorem createdState_sameInputs {config : State} (id name : String) {object : RemoteObject}
    (h : object.specification = config.specification) :
    config.SameInputs (createdState config id name object) where
  projectName_eq := rfl
  namePrefix_eq := rfl
  specification_eq := h.symm

/-- The view of an echo declares what was declared, whether or not it tells the beginning of its
name. -/
theorem keepPrefix_sameInputs {config state : State} (h : config.SameInputs state)
    (id name : String) {object : RemoteObject}
    (hspecification : object.specification = config.specification)
    (hbeginning : object.metadata.generateName = config.namePrefix ∨
      object.metadata.generateName = "") :
    config.SameInputs (keepPrefix state (.ofObject id ⟨config.projectName, name⟩ object)) := by
  unfold keepPrefix
  split
  · exact ⟨rfl, h.namePrefix_eq, hspecification.symm⟩
  · rename_i htold
    exact ⟨rfl, (hbeginning.resolve_right htold).symm, hspecification.symm⟩

/-- The states that further readings give, whose service always echoes. -/
inductive Rereads (m : Manager) (config : State) (name : String) (state : State) : State → Prop
  | none : Rereads m config name state state
  | more {current next : State} {s : Surroundings} {p : Progress} {events : List Event}
      (hbefore : Rereads m config name state current) (hserver : s.Echoes config name)
      (hread : m.read current s p = (.ok next, events)) : Rereads m config name state next

/-- A state is of a namespace under an identity and declares what was declared. -/
structure Keeps (config : State) (id : String) (state : State) : Prop where
  id_eq : state.id = some id
  sameInputs : config.SameInputs state

theorem create_keeps {config state : State} {events : List Event} {name : String}
    (hserver : s.Echoes config name) (hcreate : m.create config s p = (.ok state, events)) :
    ∃ given id, Identity.encode ⟨config.projectName, given⟩ = .ok id ∧ Keeps config id state := by
  obtain ⟨given, id, value, object, hid, hlast, hobject, rfl⟩ := create_shows hcreate
  obtain ⟨echo, hecho, hspecification, -⟩ := RemoteObject.of_isEchoOf (hserver.isEchoOf hlast)
  cases hobject.symm.trans hecho
  exact ⟨given, id, hid, rfl, createdState_sameInputs id given hspecification⟩

/-- A reading that is answered gives a state again, and keeps what was declared. -/
theorem read_keeps {config state : State} {given id name : String}
    (hid : Identity.encode ⟨config.projectName, given⟩ = .ok id) (hstate : Keeps config id state)
    (hserver : s.Echoes config name) {result : Except Stop State} {events : List Event}
    (hread : m.read state s p = (result, events)) {value : Json}
    (hlast : AnsweredLast s p events (.ok value)) :
    ∃ next, result = .ok next ∧ Keeps config id next := by
  obtain ⟨object, hobject, hspecification, hbeginning⟩ :=
    RemoteObject.of_isEchoOf (hserver.isEchoOf hlast)
  refine ⟨_, read_shows hstate.id_eq hid hread hlast hobject, ?_, ?_⟩
  · unfold keepPrefix
    split <;> rfl
  · exact keepPrefix_sameInputs hstate.sameInputs id given hspecification hbeginning

theorem Rereads.keeps {config state later : State} {given id name : String}
    (hid : Identity.encode ⟨config.projectName, given⟩ = .ok id) (hstate : Keeps config id state)
    (h : Rereads m config name state later) : Keeps config id later := by
  induction h with
  | none => exact hstate
  | more _ hserver hread ih =>
    obtain ⟨value, hlast⟩ := answeredLast_of_read ih.id_eq hid hread
    obtain ⟨next, hnext, hkeeps⟩ := read_keeps hid ih hserver hread hlast
    cases hnext
    exact hkeeps

/-- While the service echoes what was submitted, nothing has changed: not in the state that making a
namespace returns, and not in any state that is read after it. No reading fails that is answered. -/
theorem create_changedFields {config state : State} {events : List Event} {name : String}
    (hserver : s.Echoes config name) (hcreate : m.create config s p = (.ok state, events)) :
    config.changedFields state = [] ∧
      ∀ later, Rereads m config name state later → config.changedFields later = [] ∧
        ∀ s' p' result events' value, s'.Echoes config name →
          m.read later s' p' = (result, events') → AnsweredLast s' p' events' (.ok value) →
          ∃ next, result = .ok next := by
  obtain ⟨given, id, hid, hkeeps⟩ := create_keeps hserver hcreate
  refine ⟨hkeeps.sameInputs.changedFields_eq_nil, fun later hlater ↦ ?_⟩
  have hlaterKeeps := hlater.keeps hid hkeeps
  refine ⟨hlaterKeeps.sameInputs.changedFields_eq_nil, ?_⟩
  intro s' p' result events' value hserver' hread hlast
  obtain ⟨next, hresult, -⟩ := read_keeps hid hlaterKeeps hserver' hread hlast
  exact ⟨next, hresult⟩

/-- A service that leaves out the beginning of the name, and orders members by their keys, shows no
change, neither at once nor when the namespace is read again. -/
theorem create_changedFields_of_untold :
    let config : State :=
      { State.empty with
        namePrefix := "dev", projectName := "shop", className := "small", regionName := "west"
        vpcName := "vpc", storageClassOverrides := [⟨"fast", -1⟩],
        zoneOverrides := [⟨"z", 1, 2, 3, 4⟩] }
    let m : Manager := ⟨⟨"https://vcfa.example.com", .ascii⟩, .usual, .usual⟩
    let fast : Json := .object [("limitMiB", .int64 (-1)), ("name", .text "fast")]
    let z : Json := .object [("cpuLimitMHz", .int64 1), ("cpuReservationMHz", .int64 2),
      ("memoryLimitMiB", .int64 3), ("memoryReservationMiB", .int64 4), ("name", .text "z")]
    let value : Json := .object
      [("apiVersion", .text "infrastructure.cci.vmware.com/v1alpha"),
        ("kind", .text "SupervisorNamespace"),
        ("metadata", .object [("name", .text "dev-1"), ("namespace", .text "shop")]),
        ("spec", .object [("className", .text "small"),
          ("initialClassConfigOverrides",
            .object [("storageClasses", .array [fast]), ("zones", .array [z])]),
          ("regionName", .text "west"), ("vpcName", .text "vpc")]),
        ("status", .object [("phase", .text "CREATED")])]
    let s : Surroundings := .always (.ok value)
    ∃ state later, (m.create config s .start).1 = .ok state ∧
      (m.read state s .start).1 = .ok later ∧
      config.changedFields state = [] ∧ config.changedFields later = [] := by
  intro config m fast z value s
  have hfast : Reordered (StorageClass.toWire ⟨"fast", -1⟩) fast := .members (.swap _ _ _)
  have hz : Reordered (Zone.toWire ⟨"z", 1, 2, 3, 4⟩) z :=
    .members (@List.perm_append_comm _ [_] _)
  have hmetadata : Reordered (.object [("namespace", .text "shop"), ("name", .text "dev-1")])
      (.object [("name", .text "dev-1"), ("namespace", .text "shop")]) := .members (.swap _ _ _)
  have hoverrides : Reordered config.specification.overrides.toJson
      (.object [("storageClasses", .array [fast]), ("zones", .array [z])]) :=
    (Reordered.member "storageClasses" [] _ (.item [] [] hfast)).trans
      (.member "zones" [("storageClasses", .array [fast])] [] (.item [] [] hz))
  have hvalue : (config.toObject.toJson.completed "dev-1" false
      (.object [("phase", .text "CREATED")])).Reordered value :=
    (Reordered.member "metadata" [_, _] _ hmetadata).trans (.member "spec" [_, _, _] [_]
      (.member "initialClassConfigOverrides" [("className", .text "small")] _ hoverrides))
  have hserver : s.Echoes config "dev-1" := by
    intro n request answer hanswer
    cases hanswer
    exact ⟨false, _, _, rfl, hvalue⟩
  obtain ⟨state, events, result, events', hcreate, -, hread, hlast⟩ :=
    @exists_read_of_create m config value (by decide +kernel)
  obtain ⟨hnow, hlater⟩ := create_changedFields hserver hcreate
  obtain ⟨later, rfl⟩ := (hlater state .none).2 s .start result events' value hserver hread hlast
  exact ⟨state, later, congrArg Prod.fst hcreate, congrArg Prod.fst hread, hnow,
    (hlater later (.more .none hserver hread)).1⟩

end Manager

end NamespaceLifecycle
