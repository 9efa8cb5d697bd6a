import NamespaceLifecycle.Json.Decode
import NamespaceLifecycle.Proofs.Except

/-!
# Records of objects

A record is read from the members of an object by their keys alone. Members that no field asks for
are passed over, and their order does not matter: what decides is the member that stands under the
key of a field, and that no such key stands twice.
-/

namespace NamespaceLifecycle.Json

/-! ## Documents without faults -/

/-- A row that no fault ends. -/
def Ending.IsWhole (ending : Ending) : Prop := ∀ flaw, ending ≠ .broken flaw

theorem Ending.isWhole_counted : Ending.counted.IsWhole := fun _ h ↦ by cases h

theorem Ending.isWhole_closed : Ending.closed.IsWhole := fun _ h ↦ by cases h

theorem Ending.IsWhole.read_eq {ending : Ending} (h : ending.IsWhole) : ending.read = .ok () := by
  cases ending with
  | broken flaw => exact absurd rfl (h flaw)
  | counted => rfl
  | closed => rfl

theorem Ending.IsWhole.pass_eq {ending : Ending} (h : ending.IsWhole) : ending.pass = .ok () := by
  cases ending with
  | broken flaw => exact absurd rfl (h flaw)
  | counted => rfl
  | closed => rfl

theorem toDrafts_eq_map (ending : Ending) (items : List Json) :
    toDrafts ending items = items.map (toDraft ending) := by
  induction items with
  | nil => rfl
  | cons item items ih => rw [toDrafts, ih, List.map_cons]

mutual

/-- Nothing hinders one who passes over a document. -/
theorem pass_toDraft {ending : Ending} (hending : ending.IsWhole) :
    ∀ value : Json, (toDraft ending value).pass = .ok ()
  | .null => rfl
  | .bool _ => rfl
  | .number _ => rfl
  | .text _ => rfl
  | .array items => by
    rw [toDraft, Draft.pass, passItems_toDrafts hending items]
    exact hending.pass_eq
  | .object members => by
    rw [toDraft, Draft.pass, passMembers_toDraftMembers hending members]
    exact hending.pass_eq

theorem passItems_toDrafts {ending : Ending} (hending : ending.IsWhole) :
    ∀ items : List Json, Draft.passItems (toDrafts ending items) = .ok ()
  | [] => rfl
  | item :: items => by
    rw [toDrafts, Draft.passItems, pass_toDraft hending item]
    exact passItems_toDrafts hending items

theorem passMembers_toDraftMembers {ending : Ending} (hending : ending.IsWhole) :
    ∀ members : List (String × Json),
      Draft.passMembers (toDraftMembers ending members) = .ok ()
  | [] => rfl
  | (_, value) :: members => by
    rw [toDraftMembers, Draft.passMembers, pass_toDraft hending value]
    exact passMembers_toDraftMembers hending members

end

/-! ## Members by their keys -/

@[simp] theorem member?_nil (key : String) : member? key (.object []) = none := rfl

theorem member?_cons (key other : String) (value : Json) (members : List (String × Json)) :
    member? key (.object ((other, value) :: members)) =
      if other = key then some value else member? key (.object members) := by
  unfold member?
  by_cases h : other = key
  · simp [h]
  · simp [h]

theorem member?_append (key : String) (first second : List (String × Json)) :
    member? key (.object (first ++ second)) =
      (member? key (.object first)).or (member? key (.object second)) := by
  induction first with
  | nil => rfl
  | cons member first ih =>
    obtain ⟨other, value⟩ := member
    rw [List.cons_append, member?_cons, member?_cons, ih]
    split <;> rfl

/-- Under keys that do not stand twice, a member is found exactly when it is there. -/
theorem member?_eq_some_iff {members : List (String × Json)} {key : String} {value : Json}
    (hkeys : (members.map Prod.fst).Nodup) :
    member? key (.object members) = some value ↔ (key, value) ∈ members := by
  induction members with
  | nil => simp
  | cons member members ih =>
    obtain ⟨other, first⟩ := member
    rw [List.map_cons, List.nodup_cons] at hkeys
    rw [member?_cons, List.mem_cons, Prod.mk.injEq]
    by_cases hkey : other = key
    · subst hkey
      have hnot (value : Json) : (other, value) ∉ members := fun hmem ↦
        hkeys.1 (List.mem_map.2 ⟨_, hmem, rfl⟩)
      simp [hnot, eq_comm]
    · rw [if_neg hkey, ih hkeys.2]
      simp [Ne.symm hkey]

def drafts (ending : Ending) (members : List (String × Json)) : Slots :=
  members.map fun member ↦ (member.1, toDraft ending member.2)

@[simp] theorem drafts_nil (ending : Ending) : drafts ending [] = [] := rfl

@[simp] theorem drafts_cons (ending : Ending) (member : String × Json)
    (members : List (String × Json)) : drafts ending (member :: members) =
      (member.1, toDraft ending member.2) :: drafts ending members := rfl

@[simp] theorem Slots.find?_nil (key : String) : Slots.find? [] key = none := rfl

theorem Slots.find?_cons (key other : String) (draft : Draft) (slots : Slots) :
    Slots.find? ((other, draft) :: slots) key =
      if other = key then some draft else slots.find? key := by
  unfold Slots.find?
  by_cases h : other = key
  · simp [h]
  · simp [h]

theorem Slots.find?_append_singleton (key other : String) (draft : Draft) (slots : Slots) :
    Slots.find? (slots ++ [(other, draft)]) key =
      (slots.find? key).or (if other = key then some draft else none) := by
  induction slots with
  | nil => simp [Slots.find?_cons]
  | cons slot slots ih =>
    rw [List.cons_append, Slots.find?_cons, Slots.find?_cons, ih]
    split <;> rfl

theorem find?_drafts (ending : Ending) (members : List (String × Json)) (key : String) :
    (drafts ending members).find? key = (member? key (.object members)).map (toDraft ending) := by
  induction members with
  | nil => rfl
  | cons member members ih =>
    obtain ⟨other, value⟩ := member
    rw [drafts_cons, Slots.find?_cons, member?_cons, ih]
    split <;> rfl

def known (fields : List Field) (members : List (String × Json)) : List (String × Json) :=
  members.filter fun member ↦ (fields.find? (·.key = member.1)).isSome

@[simp] theorem known_nil (fields : List Field) : known fields [] = [] := rfl

theorem known_cons (fields : List Field) (member : String × Json) (members : List (String × Json)) :
    known fields (member :: members) =
      if (fields.find? (·.key = member.1)).isSome then member :: known fields members
      else known fields members := List.filter_cons

theorem map_fst_known (fields : List Field) (members : List (String × Json)) :
    (known fields members).map Prod.fst =
      (members.map Prod.fst).filter fun key ↦ (fields.find? (·.key = key)).isSome := by
  rw [known, List.filter_map]
  rfl

theorem member?_known {fields : List Field} {field : Field} (h : field ∈ fields)
    (members : List (String × Json)) :
    member? field.key (.object (known fields members)) = member? field.key (.object members) := by
  induction members with
  | nil => rfl
  | cons member members ih =>
    obtain ⟨key, value⟩ := member
    rw [member?_cons, ← ih, known_cons]
    by_cases hkey : key = field.key
    · have hknown : (fields.find? (·.key = key)).isSome = true :=
        List.find?_isSome.2 ⟨field, h, by simp [hkey]⟩
      rw [if_pos hknown, member?_cons]
    · rw [if_neg hkey]
      split
      · rw [member?_cons, if_neg hkey]
      · rfl

theorem find?_drafts_known {ending : Ending} {fields : List Field} {field : Field}
    (h : field ∈ fields) (members : List (String × Json)) :
    (drafts ending (known fields members)).find? field.key =
      (drafts ending members).find? field.key := by
  rw [find?_drafts, find?_drafts, member?_known h]

/-! ## Gathering -/

/-- Members are gathered when the checks of their fields pass and no key of a field stands twice;
what is gathered is the drafts of the members that fields ask for. -/
theorem gatherMembers_eq_ok {ending : Ending} (hending : ending.IsWhole) {fields : List Field}
    {members : List (String × Json)} {slots gathered : Slots} :
    gatherMembers fields slots (toDraftMembers ending members) = .ok gathered ↔
      gathered = slots ++ drafts ending (known fields members) ∧
      (∀ member ∈ members, ∀ field, fields.find? (·.key = member.1) = some field →
        field.check (toDraft ending member.2) = .ok ()) ∧
      ((known fields members).map Prod.fst).Nodup ∧
      ∀ member ∈ known fields members, slots.find? member.1 = none := by
  induction members generalizing slots with
  | nil => simp [toDraftMembers, gatherMembers, eq_comm]
  | cons member members ih =>
    obtain ⟨key, value⟩ := member
    rw [toDraftMembers, gatherMembers, known_cons]
    cases hfield : fields.find? (·.key = key) with
    | none =>
      simp only [pass_toDraft hending, ofFault, bind, Except.bind, ih, Option.isSome_none,
        Bool.false_eq_true, if_false, List.forall_mem_cons, hfield]
      simp
    | some field =>
      simp only [Option.isSome_some, if_true]
      by_cases hslot : (slots.find? key).isSome = true
      · rw [if_pos hslot]
        refine ⟨nofun, fun ⟨_, _, _, hfree⟩ ↦ ?_⟩
        rw [hfree (key, value) List.mem_cons_self] at hslot
        cases hslot
      rw [if_neg hslot]
      have hnone : slots.find? key = none := Option.not_isSome_iff_eq_none.1 hslot
      cases hcheck : field.check (toDraft ending value) with
      | error error =>
        refine ⟨nofun, fun ⟨_, hchecks, _, _⟩ ↦ ?_⟩
        rw [hchecks (key, value) List.mem_cons_self field hfield] at hcheck
        cases hcheck
      | ok _ =>
        have hchecks : (∀ other, fields.find? (·.key = key) = some other →
            other.check (toDraft ending value) = .ok ()) := by
          intro other hother
          cases hfield.symm.trans hother
          exact hcheck
        -- A later key is new to the slots with this one exactly when it is new to both.
        have hfree : (∀ member ∈ known fields members,
              Slots.find? (slots ++ [(key, toDraft ending value)]) member.1 = none) ↔
            key ∉ (known fields members).map Prod.fst ∧
              ∀ member ∈ known fields members, slots.find? member.1 = none := by
          simp only [Slots.find?_append_singleton, Option.or_eq_none_iff, ite_eq_right_iff,
            reduceCtorEq, imp_false, List.mem_map, not_exists, not_and, forall_and]
          constructor
          · exact fun ⟨hold, hnew⟩ ↦ ⟨fun member hmember h ↦ hnew member hmember h.symm, hold⟩
          · exact fun ⟨hnew, hold⟩ ↦ ⟨hold, fun member hmember h ↦ hnew member hmember h.symm⟩
        simp only [bind, Except.bind]
        rw [ih, hfree, List.append_assoc, List.singleton_append, List.forall_mem_cons,
          List.forall_mem_cons, List.map_cons, List.nodup_cons, drafts_cons]
        constructor
        · exact fun ⟨hgathered, hrest, hnodup, hkey, hold⟩ ↦
            ⟨hgathered, ⟨hchecks, hrest⟩, ⟨hkey, hnodup⟩, hnone, hold⟩
        · exact fun ⟨hgathered, ⟨_, hrest⟩, ⟨hkey, hnodup⟩, _, hold⟩ ↦
            ⟨hgathered, hrest, hnodup, hkey, hold⟩

/-- Items are gathered when the checks of the fields at their places pass. -/
theorem gatherItems_eq_ok {ending : Ending} {fields : List Field} {items : List Json}
    {slots : Slots} {left : List Draft} :
    gatherItems fields (toDrafts ending items) = .ok (slots, left) ↔
      slots = drafts ending ((fields.map Field.key).zip items) ∧
      left = toDrafts ending (items.drop fields.length) ∧
      ∀ pair ∈ fields.zip items, pair.1.check (toDraft ending pair.2) = .ok () := by
  induction fields generalizing items slots left with
  | nil => simp [gatherItems, eq_comm]
  | cons field fields ih =>
    cases items with
    | nil => simp [toDrafts, gatherItems, eq_comm]
    | cons item items =>
      rw [toDrafts, gatherItems, List.map_cons, List.zip_cons_cons, List.zip_cons_cons,
        List.length_cons, List.drop_succ_cons, List.forall_mem_cons, drafts_cons]
      cases hcheck : field.check (toDraft ending item) with
      | error error => exact ⟨nofun, nofun⟩
      | ok _ =>
        cases hrest : gatherItems fields (toDrafts ending items) with
        | error error =>
          refine ⟨nofun, fun ⟨_, _, _, hchecks⟩ ↦ ?_⟩
          cases hrest.symm.trans (ih.2 ⟨rfl, rfl, hchecks⟩)
        | ok gathered =>
          obtain ⟨hslots, hleft, hchecks⟩ := ih.1 hrest
          simp only [bind, Except.bind, pure, Except.pure, Except.ok.injEq, Prod.mk.injEq, hslots,
            hleft, true_and]
          exact ⟨fun ⟨h, h'⟩ ↦ ⟨h.symm, h'.symm, hchecks⟩, fun ⟨h, h', _⟩ ↦ ⟨h.symm, h'.symm⟩⟩

theorem missing?_eq_none {slots : Slots} {fields : List Field} :
    missing? slots fields = none ↔
      ∀ field ∈ fields, field.required = true → (slots.find? field.key).isSome = true := by
  have hfields : (List.zip (List.range fields.length) fields).map Prod.snd = fields :=
    List.map_snd_zip (Nat.le_of_eq List.length_range.symm)
  rw [missing?, List.find?_eq_none]
  constructor
  · intro h field hfield hrequired
    rw [← hfields] at hfield
    obtain ⟨pair, hpair, rfl⟩ := List.mem_map.1 hfield
    have hthere : ¬(pair.2.required && (slots.find? pair.2.key).isNone) = true := h pair hpair
    rw [hrequired, Bool.true_and, Bool.not_eq_true, Option.isNone_eq_false_iff] at hthere
    exact hthere
  · intro h pair hpair hmissing
    change (pair.2.required && (slots.find? pair.2.key).isNone) = true at hmissing
    rw [Bool.and_eq_true] at hmissing
    have hthere := h pair.2 (List.of_mem_zip hpair).2 hmissing.1
    rw [← Option.not_isNone, hmissing.2] at hthere
    cases hthere

/-! ## What a record takes -/

namespace Record

variable {α β : Type}

/-- What a record takes from slots: a value that rests on the drafts of its fields alone, all of
which are right, and none of which is missing. -/
structure Takes (r : Record α) (slots : Slots) (a : α) : Prop where
  build_eq : ∀ other : Slots, (∀ field ∈ r.fields, other.find? field.key = slots.find? field.key) →
    r.build other = .ok a
  check_eq : ∀ field ∈ r.fields, ∀ draft, slots.find? field.key = some draft →
    field.check draft = .ok ()
  isSome_of_required : ∀ field ∈ r.fields, field.required = true →
    (slots.find? field.key).isSome = true

/-- A record that is built from drafts has taken its value from them. -/
class IsLawful (r : Record α) : Prop where
  takes : ∀ ⦃slots a⦄, r.build slots = .ok a → r.Takes slots a

theorem Takes.congr {r : Record α} {slots other : Slots} {a : α} (h : r.Takes slots a)
    (hsame : ∀ field ∈ r.fields, other.find? field.key = slots.find? field.key) :
    r.Takes other a where
  build_eq third hthird := h.build_eq third fun field hfield ↦
    (hthird field hfield).trans (hsame field hfield)
  check_eq field hfield draft hdraft :=
    h.check_eq field hfield draft (hsame field hfield ▸ hdraft)
  isSome_of_required field hfield hrequired :=
    hsame field hfield ▸ h.isSome_of_required field hfield hrequired

theorem build_map_eq_ok {r : Record α} {f : α → β} {slots : Slots} {b : β} :
    (f <$> r).build slots = .ok b ↔ ∃ a, r.build slots = .ok a ∧ f a = b := by
  change (r.build slots).map f = .ok b ↔ _
  refine ⟨exists_of_map_eq_ok, fun ⟨a, ha, hb⟩ ↦ ?_⟩
  rw [ha, ← hb]
  rfl

theorem build_seq_eq_ok {f : Record (α → β)} {r : Record α} {slots : Slots} {b : β} :
    (f <*> r).build slots = .ok b ↔
      ∃ g a, f.build slots = .ok g ∧ r.build slots = .ok a ∧ g a = b := by
  change (f.build slots).bind (fun g ↦ (r.build slots).bind fun a ↦ .ok (g a)) = .ok b ↔ _
  constructor
  · intro h
    obtain ⟨g, hg, h⟩ := exists_of_bind_eq_ok h
    obtain ⟨a, ha, h⟩ := exists_of_bind_eq_ok h
    exact ⟨g, a, hg, ha, Except.ok.inj h⟩
  · rintro ⟨g, a, hg, ha, hb⟩
    rw [hg, ← hb]
    change (r.build slots).bind (fun a ↦ .ok (g a)) = _
    rw [ha]
    rfl

/-- The check of a field passes what its decoder takes. -/
theorem check_eq_ok {d : Decoder α} {draft : Draft} :
    (d draft).map (fun _ ↦ ()) = .ok () ↔ ∃ a, d draft = .ok a := by
  cases d draft with
  | error error => exact ⟨nofun, nofun⟩
  | ok a => exact ⟨fun _ ↦ ⟨a, rfl⟩, fun _ ↦ rfl⟩

theorem Takes.map {r : Record α} {slots : Slots} {a : α} (h : r.Takes slots a) (f : α → β) :
    (f <$> r).Takes slots (f a) where
  build_eq other hother := build_map_eq_ok.2 ⟨a, h.build_eq other hother, rfl⟩
  check_eq := h.check_eq
  isSome_of_required := h.isSome_of_required

theorem Takes.seq {f : Record (α → β)} {r : Record α} {slots : Slots} {g : α → β} {a : α}
    (hf : f.Takes slots g) (hr : r.Takes slots a) : (f <*> r).Takes slots (g a) where
  build_eq other hother := by
    have hfirst := hf.build_eq other fun field hfield ↦
      hother field (List.mem_append_left _ hfield)
    have hsecond := hr.build_eq other fun field hfield ↦
      hother field (List.mem_append_right _ hfield)
    exact build_seq_eq_ok.2 ⟨g, a, hfirst, hsecond, rfl⟩
  check_eq field hfield :=
    (List.mem_append.1 hfield).elim (hf.check_eq field) (hr.check_eq field)
  isSome_of_required field hfield :=
    (List.mem_append.1 hfield).elim (hf.isSome_of_required field) (hr.isSome_of_required field)

theorem takes_required {key : String} {d : Decoder α} {slots : Slots} {draft : Draft} {a : α}
    (hfind : slots.find? key = some draft) (hd : d draft = .ok a) :
    (required key d).Takes slots a where
  build_eq other hother := by
    have hsame : other.find? key = some draft := (hother _ List.mem_cons_self).trans hfind
    simp only [required, hsame, hd]
  check_eq := List.forall_mem_singleton.2 fun other hother ↦ by
    cases hfind.symm.trans hother
    exact check_eq_ok.2 ⟨a, hd⟩
  isSome_of_required := List.forall_mem_singleton.2 fun _ ↦ Option.isSome_of_eq_some hfind

theorem takes_optional {key : String} {d : Decoder α} {fallback : α} {slots : Slots} {a : α}
    (hsome : ∀ draft, slots.find? key = some draft → d draft = .ok a)
    (hnone : slots.find? key = none → fallback = a) : (optional key d fallback).Takes slots a where
  build_eq other hother := by
    have hsame : other.find? key = slots.find? key := hother _ List.mem_cons_self
    cases hfind : slots.find? key with
    | none =>
      rw [hfind] at hsame
      simp only [optional, hsame, hnone hfind]
    | some draft =>
      rw [hfind] at hsame
      simp only [optional, hsame, hsome draft hfind]
  check_eq := List.forall_mem_singleton.2 fun draft hdraft ↦
    check_eq_ok.2 ⟨a, hsome draft hdraft⟩
  isSome_of_required := List.forall_mem_singleton.2 nofun

instance {r : Record α} [h : r.IsLawful] (f : α → β) : (f <$> r).IsLawful where
  takes slots b hbuild := by
    obtain ⟨a, ha, rfl⟩ := build_map_eq_ok.1 hbuild
    exact (h.takes ha).map f

instance {f : Record (α → β)} {r : Record α} [hf : f.IsLawful] [hr : r.IsLawful] :
    (f <*> r).IsLawful where
  takes slots b hbuild := by
    obtain ⟨g, a, hg, ha, rfl⟩ := build_seq_eq_ok.1 hbuild
    exact (hf.takes hg).seq (hr.takes ha)

instance (key : String) (d : Decoder α) : (required key d).IsLawful where
  takes slots a hbuild := by
    cases hfind : slots.find? key with
    | none =>
      simp only [required, hfind] at hbuild
      cases hbuild
    | some draft =>
      simp only [required, hfind] at hbuild
      exact takes_required hfind hbuild

instance (key : String) (d : Decoder α) (fallback : α) : (optional key d fallback).IsLawful where
  takes slots a hbuild := by
    cases hfind : slots.find? key with
    | none =>
      simp only [optional, hfind] at hbuild
      exact takes_optional (by simp [hfind]) fun _ ↦ Except.ok.inj hbuild
    | some draft =>
      simp only [optional, hfind] at hbuild
      refine takes_optional (fun other hother ↦ ?_) (by simp [hfind])
      cases hfind.symm.trans hother
      exact hbuild

/-! ## Decoding -/

variable {ending : Ending} {name : String} {r : Record α} {a : α}

theorem gather_object (hending : ending.IsWhole) {fields : List Field}
    {members : List (String × Json)} {slots : Slots} :
    gather name fields (toDraft ending (.object members)) = .ok slots ↔
      gatherMembers fields [] (toDraftMembers ending members) = .ok slots ∧
        missing? slots fields = none := by
  rw [toDraft, gather]
  cases hgather : gatherMembers fields [] (toDraftMembers ending members) with
  | error error => exact ⟨nofun, nofun⟩
  | ok gathered =>
    simp only [hending.read_eq, ofFault, bind, Except.bind]
    cases hmissing : missing? gathered fields with
    | some pair =>
      refine ⟨nofun, fun ⟨hslots, hnone⟩ ↦ ?_⟩
      cases hslots
      cases hmissing.symm.trans hnone
    | none =>
      refine ⟨fun hslots ↦ ?_, fun ⟨hslots, _⟩ ↦ hslots⟩
      cases hslots
      exact ⟨rfl, hmissing⟩

/-- A record takes its value from the members of an object when no key of a field stands twice. -/
theorem decoder_of_takes (hending : ending.IsWhole) {members : List (String × Json)}
    (hkeys : ((known r.fields members).map Prod.fst).Nodup)
    (h : r.Takes (drafts ending members) a) :
    decoder name r (toDraft ending (.object members)) = .ok a := by
  have hknown : r.Takes (drafts ending (known r.fields members)) a :=
    h.congr fun field hfield ↦ find?_drafts_known hfield members
  have hchecks : ∀ member ∈ members, ∀ field, r.fields.find? (·.key = member.1) = some field →
      field.check (toDraft ending member.2) = .ok () := by
    intro member hmember field hfield
    have hkey : field.key = member.1 := by simpa using List.find?_some hfield
    have hmem : member ∈ known r.fields members :=
      List.mem_filter.2 ⟨hmember, Option.isSome_of_eq_some hfield⟩
    apply h.check_eq field (List.mem_of_find?_eq_some hfield)
    rw [find?_drafts, ← member?_known (List.mem_of_find?_eq_some hfield), hkey,
      (member?_eq_some_iff hkeys).2 hmem]
    rfl
  have hgather : gather name r.fields (toDraft ending (.object members)) =
      .ok (drafts ending (known r.fields members)) :=
    (gather_object hending).2 ⟨(gatherMembers_eq_ok hending).2 ⟨rfl, hchecks, hkeys, by simp⟩,
      missing?_eq_none.2 hknown.isSome_of_required⟩
  rw [decoder, hgather]
  exact hknown.build_eq _ fun _ _ ↦ rfl

/-- A record that is read from an object has taken its value from the members, and no key of a field
stands twice. -/
theorem decoder_object_iff [hr : r.IsLawful] (hending : ending.IsWhole)
    {members : List (String × Json)} :
    decoder name r (toDraft ending (.object members)) = .ok a ↔
      ((known r.fields members).map Prod.fst).Nodup ∧ r.build (drafts ending members) = .ok a := by
  constructor
  · intro h
    rw [decoder] at h
    cases hgather : gather name r.fields (toDraft ending (.object members)) with
    | error error =>
      rw [hgather] at h
      cases h
    | ok slots =>
      rw [hgather] at h
      obtain ⟨hgathered, -⟩ := (gather_object hending).1 hgather
      obtain ⟨rfl, -, hkeys, -⟩ := (gatherMembers_eq_ok hending).1 hgathered
      refine ⟨hkeys, (hr.takes h).build_eq _ fun field hfield ↦ ?_⟩
      exact (find?_drafts_known hfield members).symm
  · exact fun ⟨hkeys, hbuild⟩ ↦ decoder_of_takes hending hkeys (hr.takes hbuild)

/-- A record is read from an array by the places of its fields. -/
theorem decoder_array_iff (hending : ending.IsWhole) {items : List Json} :
    decoder name r (toDraft ending (.array items)) = .ok a ↔
      items.length ≤ r.fields.length ∧
      (∀ pair ∈ r.fields.zip items, pair.1.check (toDraft ending pair.2) = .ok ()) ∧
      missing? (drafts ending ((r.fields.map Field.key).zip items)) r.fields = none ∧
      r.build (drafts ending ((r.fields.map Field.key).zip items)) = .ok a := by
  have hleft : (toDrafts ending (items.drop r.fields.length)).isEmpty = true ↔
      items.length ≤ r.fields.length := by
    rw [toDrafts_eq_map, List.isEmpty_iff, List.map_eq_nil_iff, List.drop_eq_nil_iff]
  unfold decoder gather
  simp only [toDraft]
  cases hgather : gatherItems r.fields (toDrafts ending items) with
  | error error =>
    refine ⟨nofun, fun ⟨_, hchecks, _⟩ ↦ ?_⟩
    cases hgather.symm.trans (gatherItems_eq_ok.2 ⟨rfl, rfl, hchecks⟩)
  | ok gathered =>
    obtain ⟨slots, left⟩ := gathered
    obtain ⟨rfl, rfl, hchecks⟩ := gatherItems_eq_ok.1 hgather
    simp only [bind, Except.bind, hending.read_eq, ofFault]
    by_cases hlength : items.length ≤ r.fields.length
    · simp only [hleft.2 hlength, if_true, hlength, true_and]
      cases hmissing : missing? (drafts ending ((r.fields.map Field.key).zip items)) r.fields with
      | some pair => exact ⟨nofun, nofun⟩
      | none => exact ⟨fun hbuild ↦ ⟨hchecks, rfl, hbuild⟩, fun ⟨_, _, hbuild⟩ ↦ hbuild⟩
    · simp only [mt hleft.1 hlength, Bool.false_eq_true, if_false, hlength, false_and, iff_false]
      cases ending <;> exact nofun

/-! ## Fields and their members -/

variable {key : String} {members : List (String × Json)} {d : Decoder α} {fallback : α}
  {value : Json}

theorem decoder_of_nodup (hending : ending.IsWhole) (hkeys : (members.map Prod.fst).Nodup)
    (h : r.Takes (drafts ending members) a) :
    decoder name r (toDraft ending (.object members)) = .ok a :=
  decoder_of_takes hending (hkeys.sublist ((List.filter_sublist).map Prod.fst)) h

theorem takes_required_member (h : member? key (.object members) = some value)
    (hd : d (value.toDraft ending) = .ok a) : (required key d).Takes (drafts ending members) a := by
  apply takes_required _ hd
  rw [find?_drafts, h]
  rfl

theorem takes_member (h : member? key (.object members) = some value)
    (hd : d (value.toDraft ending) = .ok a) :
    (optional key d fallback).Takes (drafts ending members) a := by
  apply takes_optional
  · intro draft hdraft
    rw [find?_drafts, h] at hdraft
    cases hdraft
    exact hd
  · intro hnone
    rw [find?_drafts, h] at hnone
    cases hnone

theorem takes_fallback (h : member? key (.object members) = none) :
    (optional key d fallback).Takes (drafts ending members) fallback := by
  apply takes_optional
  · intro draft hdraft
    rw [find?_drafts, h] at hdraft
    cases hdraft
  · exact fun _ ↦ rfl

theorem build_optional_of_none (h : member? key (.object members) = none) :
    (optional key d fallback).build (drafts ending members) = .ok fallback :=
  (takes_fallback h).build_eq _ fun _ _ ↦ rfl

theorem build_optional_of_some (h : member? key (.object members) = some value) :
    (optional key d fallback).build (drafts ending members) = d (toDraft ending value) := by
  simp only [optional, find?_drafts, h, Option.map_some]

theorem build_required_eq_ok :
    (required key d).build (drafts ending members) = .ok a ↔
      ∃ value, member? key (.object members) = some value ∧ d (toDraft ending value) = .ok a := by
  simp only [required, find?_drafts]
  cases member? key (.object members) with
  | none => simp
  | some value => simp

end Record

end NamespaceLifecycle.Json
