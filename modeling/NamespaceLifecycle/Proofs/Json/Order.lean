import NamespaceLifecycle.Proofs.Json.Record

/-!
# The order of members

Two documents that differ only in the order of members, at any depth, say the same. What is decoded
from one is decoded from the other: by records, since they look for members by their keys, and by
everything that is made of records.
-/

namespace NamespaceLifecycle.Json

/-- A document with the members of objects in another order, at any depth. -/
inductive Reordered : Json → Json → Prop
  | refl (value : Json) : Reordered value value
  | members {first second : List (String × Json)} (h : first.Perm second) :
      Reordered (.object first) (.object second)
  | member {value other : Json} (key : String) (front back : List (String × Json))
      (h : Reordered value other) :
      Reordered (.object (front ++ (key, value) :: back)) (.object (front ++ (key, other) :: back))
  | item {value other : Json} (front back : List Json) (h : Reordered value other) :
      Reordered (.array (front ++ value :: back)) (.array (front ++ other :: back))
  | trans {first second third : Json} (h : Reordered first second) (h' : Reordered second third) :
      Reordered first third

/-- Two lookups find nothing, or the same up to the order of members. -/
abbrev SameFound : Option Json → Option Json → Prop := Option.Rel Reordered

theorem SameFound.refl (found : Option Json) : SameFound found found := by
  cases found with
  | none => exact .none
  | some value => exact .some (.refl value)

theorem SameFound.isSome_eq {found other : Option Json} (h : SameFound found other) :
    found.isSome = other.isSome := by
  cases h with
  | none => rfl
  | some => rfl

/-- One member in another form changes what is found under its key. -/
theorem sameFound_member {value other : Json} (h : Reordered value other) (key sought : String)
    (front back : List (String × Json)) :
    SameFound (member? sought (.object (front ++ (key, value) :: back)))
      (member? sought (.object (front ++ (key, other) :: back))) := by
  induction front with
  | nil =>
    rw [List.nil_append, List.nil_append, member?_cons, member?_cons]
    split
    · exact .some h
    · exact .refl _
  | cons member front ih =>
    obtain ⟨first, content⟩ := member
    rw [List.cons_append, List.cons_append, member?_cons, member?_cons]
    split
    · exact .refl _
    · exact ih

/-- What pairs stand at the place of one item depends on whether the other list reaches it. -/
theorem zip_append_cons_cases {α : Type} (places : List α) (front back : List Json)
    (value other : Json) :
    places.zip (front ++ value :: back) = places.zip (front ++ other :: back) ∨
      ∃ before place after,
        places.zip (front ++ value :: back) = before ++ (place, value) :: after ∧
        places.zip (front ++ other :: back) = before ++ (place, other) :: after := by
  induction front generalizing places with
  | nil =>
    cases places with
    | nil => exact .inl rfl
    | cons place places => exact .inr ⟨[], place, places.zip back, rfl, rfl⟩
  | cons item front ih =>
    cases places with
    | nil => exact .inl rfl
    | cons place places =>
      rw [List.cons_append, List.cons_append, List.zip_cons_cons, List.zip_cons_cons]
      rcases ih places with hsame | ⟨before, at', after, hvalue, hother⟩
      · exact .inl (congrArg _ hsame)
      · exact .inr ⟨(place, item) :: before, at', after, by rw [hvalue]; rfl, by rw [hother]; rfl⟩

/-- One item in another form changes what is found under the key of its place. -/
theorem sameFound_item {value other : Json} (h : Reordered value other) (keys : List String)
    (front back : List Json) (sought : String) :
    SameFound (member? sought (.object (keys.zip (front ++ value :: back))))
      (member? sought (.object (keys.zip (front ++ other :: back)))) := by
  rcases zip_append_cons_cases keys front back value other with
    hsame | ⟨before, key, after, hvalue, hother⟩
  · rw [hsame]
    exact .refl _
  · rw [hvalue, hother]
    exact sameFound_member h key sought before after

/-! ## Decoders that ignore the order -/

/-- What is decoded from a document is decoded from it with members in any order. -/
class Decoder.IgnoresOrder {α : Type} (d : Decoder α) : Prop where
  decode_eq : ∀ ⦃value other⦄, Reordered value other →
    ∀ ⦃a⦄, decode d value = .ok a → decode d other = .ok a

/-- A record for which only what stands under the keys of its fields matters, in any form. -/
class Record.IgnoresOrder {α : Type} (r : Record α) : Prop extends r.IsLawful where
  check_eq : ∀ field ∈ r.fields, ∀ ⦃value other⦄, Reordered value other →
    field.check (toDraft .counted value) = .ok () → field.check (toDraft .counted other) = .ok ()
  build_eq : ∀ ⦃first second : List (String × Json)⦄,
    (∀ field ∈ r.fields,
      SameFound (member? field.key (.object first)) (member? field.key (.object second))) →
    ∀ ⦃a⦄, r.build (drafts .counted first) = .ok a → r.build (drafts .counted second) = .ok a

namespace Decoder

variable {α : Type}

/-- Scalars have no members. -/
theorem ignoresOrder_of_scalar {d : Decoder α}
    (hobject : ∀ members a, decode d (.object members) ≠ .ok a)
    (harray : ∀ items a, decode d (.array items) ≠ .ok a) : d.IgnoresOrder where
  decode_eq value other h a ha := by
    induction h with
    | refl => exact ha
    | members => exact absurd ha (hobject _ a)
    | member => exact absurd ha (hobject _ a)
    | item => exact absurd ha (harray _ a)
    | trans _ _ ih ih' => exact ih' (ih ha)

instance : text.IgnoresOrder := ignoresOrder_of_scalar nofun nofun

instance : bool.IgnoresOrder := ignoresOrder_of_scalar nofun nofun

instance : int64.IgnoresOrder := ignoresOrder_of_scalar nofun nofun

theorem items_cons_eq_ok {d : Decoder α} {draft : Draft} {rest : List Draft} {values : List α} :
    items d (draft :: rest) = .ok values ↔
      ∃ a others, d draft = .ok a ∧ items d rest = .ok others ∧ values = a :: others := by
  rw [items]
  cases hdraft : d draft with
  | error error => exact ⟨nofun, nofun⟩
  | ok a =>
    cases hrest : items d rest with
    | error error => exact ⟨nofun, nofun⟩
    | ok others =>
      simp only [bind, Except.bind, pure, Except.pure, Except.ok.injEq]
      exact ⟨fun h ↦ ⟨a, others, rfl, rfl, h.symm⟩, fun ⟨_, _, ha, hothers, h⟩ ↦ by
        rw [ha, hothers, h]⟩

theorem list_array_eq_ok {ending : Ending} (hending : ending.IsWhole) {d : Decoder α}
    {content : List Json} {values : List α} :
    list d (toDraft ending (.array content)) = .ok values ↔
      items d (content.map (toDraft ending)) = .ok values := by
  rw [toDraft, list, toDrafts_eq_map, hending.read_eq]
  cases items d (content.map (toDraft ending)) with
  | error error => exact ⟨nofun, nofun⟩
  | ok others => exact Iff.rfl

theorem items_append_cons {d : Decoder α} {front back : List Draft} {draft other : Draft}
    (h : ∀ a, d draft = .ok a → d other = .ok a) {values : List α}
    (hvalues : items d (front ++ draft :: back) = .ok values) :
    items d (front ++ other :: back) = .ok values := by
  induction front generalizing values with
  | nil =>
    obtain ⟨a, rest, ha, hrest, rfl⟩ := items_cons_eq_ok.1 hvalues
    exact items_cons_eq_ok.2 ⟨a, rest, h a ha, hrest, rfl⟩
  | cons item front ih =>
    obtain ⟨a, rest, ha, hrest, rfl⟩ := items_cons_eq_ok.1 hvalues
    exact items_cons_eq_ok.2 ⟨a, rest, ha, ih hrest, rfl⟩

instance {d : Decoder α} [hd : d.IgnoresOrder] : (list d).IgnoresOrder where
  decode_eq value other h a ha := by
    induction h with
    | refl => exact ha
    | members => cases ha
    | member => cases ha
    | @item value other front back h _ =>
      rw [decode, list_array_eq_ok Ending.isWhole_counted, List.map_append, List.map_cons] at ha ⊢
      exact items_append_cons (hd.decode_eq h) ha
    | trans _ _ ih ih' => exact ih' (ih ha)

end Decoder

namespace Record

variable {α β : Type}

instance {r : Record α} [h : r.IgnoresOrder] (f : α → β) : (f <$> r).IgnoresOrder where
  check_eq := h.check_eq
  build_eq first second hsame b hb := by
    obtain ⟨a, ha, hf⟩ := build_map_eq_ok.1 hb
    exact build_map_eq_ok.2 ⟨a, h.build_eq hsame ha, hf⟩

instance {f : Record (α → β)} {r : Record α} [hf : f.IgnoresOrder] [hr : r.IgnoresOrder] :
    (f <*> r).IgnoresOrder where
  check_eq field hfield := (List.mem_append.1 hfield).elim (hf.check_eq field) (hr.check_eq field)
  build_eq first second hsame b hb := by
    have hfirst := hf.build_eq fun field hfield ↦ hsame field (List.mem_append_left _ hfield)
    have hsecond := hr.build_eq fun field hfield ↦ hsame field (List.mem_append_right _ hfield)
    obtain ⟨g, a, hg, ha, hresult⟩ := build_seq_eq_ok.1 hb
    exact build_seq_eq_ok.2 ⟨g, a, hfirst hg, hsecond ha, hresult⟩

/-- A check passes a value in every order of its members when the decoder takes it in every
order. -/
theorem check_of_reordered {d : Decoder α} [hd : d.IgnoresOrder] {value other : Json}
    (h : Reordered value other) (hvalue : (d (toDraft .counted value)).map (fun _ ↦ ()) = .ok ()) :
    (d (toDraft .counted other)).map (fun _ ↦ ()) = .ok () := by
  obtain ⟨a, ha⟩ := check_eq_ok.1 hvalue
  exact check_eq_ok.2 ⟨a, hd.decode_eq h ha⟩

instance (key : String) (d : Decoder α) [hd : d.IgnoresOrder] : (required key d).IgnoresOrder where
  check_eq := List.forall_mem_singleton.2 fun _ _ h ↦ check_of_reordered h
  build_eq first second hsame a ha := by
    have hkey : SameFound (member? key (.object first)) (member? key (.object second)) :=
      hsame _ List.mem_cons_self
    simp only [required, find?_drafts] at ha ⊢
    generalize member? key (.object first) = found at hkey ha
    generalize member? key (.object second) = found' at hkey
    cases hkey with
    | none => cases ha
    | some h => exact hd.decode_eq h ha

instance (key : String) (d : Decoder α) (fallback : α) [hd : d.IgnoresOrder] :
    (optional key d fallback).IgnoresOrder where
  check_eq := List.forall_mem_singleton.2 fun _ _ h ↦ check_of_reordered h
  build_eq first second hsame a ha := by
    have hkey : SameFound (member? key (.object first)) (member? key (.object second)) :=
      hsame _ List.mem_cons_self
    simp only [optional, find?_drafts] at ha ⊢
    generalize member? key (.object first) = found at hkey ha
    generalize member? key (.object second) = found' at hkey
    cases hkey with
    | none => exact ha
    | some h => exact hd.decode_eq h ha

/-- A record is decoded from members in any order. -/
instance (name : String) (r : Record α) [hr : r.IgnoresOrder] : (decoder name r).IgnoresOrder where
  decode_eq value other h a ha := by
    induction h with
    | refl => exact ha
    | @members first second h =>
      obtain ⟨hkeys, hbuild⟩ := (decoder_object_iff Ending.isWhole_counted).1 ha
      have hknown : (known r.fields first).Perm (known r.fields second) := h.filter _
      have hkeys' : ((known r.fields second).map Prod.fst).Nodup :=
        (hknown.map Prod.fst).nodup_iff.1 hkeys
      refine (decoder_object_iff Ending.isWhole_counted).2 ⟨hkeys', hr.build_eq ?_ hbuild⟩
      intro field hfield
      -- No key of a field stands twice, so a member is found by being there, not by coming first.
      have hsame : member? field.key (.object first) = member? field.key (.object second) := by
        rw [← member?_known hfield first, ← member?_known hfield second]
        ext value
        rw [member?_eq_some_iff hkeys, member?_eq_some_iff hkeys']
        exact hknown.mem_iff
      rw [hsame]
      exact .refl _
    | @member value other key front back h _ =>
      obtain ⟨hkeys, hbuild⟩ := (decoder_object_iff Ending.isWhole_counted).1 ha
      refine (decoder_object_iff Ending.isWhole_counted).2 ⟨?_, hr.build_eq ?_ hbuild⟩
      · simp only [map_fst_known, List.map_append, List.map_cons] at hkeys ⊢
        exact hkeys
      · exact fun field _ ↦ sameFound_member h key field.key front back
    | @item value other front back h _ =>
      obtain ⟨hlength, hchecks, hmissing, hbuild⟩ :=
        (decoder_array_iff Ending.isWhole_counted).1 ha
      have hfound := sameFound_item h (r.fields.map Field.key) front back
      refine (decoder_array_iff Ending.isWhole_counted).2 ⟨?_, ?_, ?_, ?_⟩
      · simpa using hlength
      · rcases zip_append_cons_cases r.fields front back value other with
          hsame | ⟨before, place, after, hvalue, hother⟩
        · rwa [← hsame]
        · have hmem : (place, value) ∈ r.fields.zip (front ++ value :: back) := by
            rw [hvalue]
            exact List.mem_append_right _ List.mem_cons_self
          have hplace : place ∈ r.fields := (List.of_mem_zip hmem).1
          rw [hvalue] at hchecks
          rw [hother]
          simp only [List.forall_mem_append, List.forall_mem_cons] at hchecks ⊢
          exact ⟨hchecks.1, hr.check_eq place hplace h hchecks.2.1, hchecks.2.2⟩
      · rw [missing?_eq_none] at hmissing ⊢
        intro field hfield hrequired
        have hthere := hmissing field hfield hrequired
        rw [find?_drafts, Option.isSome_map] at hthere ⊢
        exact (hfound field.key).isSome_eq ▸ hthere
      · exact hr.build_eq (fun field _ ↦ hfound field.key) hbuild
    | trans _ _ ih ih' => exact ih' (ih ha)

end Record

end NamespaceLifecycle.Json
