import Mathlib.Data.List.Nodup
import NamespaceLifecycle.Proofs.Json.Order

/-!
# Shapes of records

Where a document is read as a record, which keys the record knows, and which of them hold records
again, is the shape of the document. Members under keys that a record does not know are strangers to
it, and strangers may be put among the members of every record without a change to what is decoded.
-/

namespace NamespaceLifecycle.Json

/-- Where a document is a record, with the keys that the record knows, where a list, and where
neither. -/
inductive Shape where
  | plain
  | list (item : Shape)
  | record (fields : List (String × Shape))

/-- A document whose records are given as objects, and its lists as arrays. -/
inductive Shape.Fits : Shape → Json → Prop
  | plain (value : Json) : Fits .plain value
  | list {item : Shape} {items : List Json} (h : ∀ value ∈ items, Fits item value) :
      Fits (.list item) (.array items)
  | record {fields : List (String × Shape)} {members : List (String × Json)}
      (h : ∀ field ∈ fields, ∀ value, member? field.1 (.object members) = some value →
        Fits field.2 value) :
      Fits (.record fields) (.object members)

theorem Shape.fits_list_iff {item : Shape} {items : List Json} :
    (Shape.list item).Fits (.array items) ↔ ∀ value ∈ items, item.Fits value := by
  constructor
  · rintro ⟨⟩
    assumption
  · exact .list

theorem Shape.fits_record_iff {fields : List (String × Shape)} {members : List (String × Json)} :
    (Shape.record fields).Fits (.object members) ↔
      ∀ field ∈ fields, ∀ value, member? field.1 (.object members) = some value →
        field.2.Fits value := by
  constructor
  · rintro ⟨⟩
    assumption
  · exact .record

/-- A document with further members in its records, under keys that the records do not know. -/
inductive Padded : Shape → Json → Json → Prop
  | refl (shape : Shape) (value : Json) : Padded shape value value
  | stranger {fields : List (String × Shape)} {key : String} (h : key ∉ fields.map Prod.fst)
      (value : Json) (front back : List (String × Json)) :
      Padded (.record fields) (.object (front ++ back)) (.object (front ++ (key, value) :: back))
  | member {fields : List (String × Shape)} {key : String} {shape : Shape} {value other : Json}
      (hfield : (key, shape) ∈ fields) (h : Padded shape value other)
      (front back : List (String × Json)) :
      Padded (.record fields) (.object (front ++ (key, value) :: back))
        (.object (front ++ (key, other) :: back))
  | item {shape : Shape} {value other : Json} (h : Padded shape value other)
      (front back : List Json) :
      Padded (.list shape) (.array (front ++ value :: back)) (.array (front ++ other :: back))
  | trans {shape : Shape} {first second third : Json} (h : Padded shape first second)
      (h' : Padded shape second third) : Padded shape first third

/-- What is no record takes no strangers. -/
theorem Padded.eq_of_plain {value other : Json} (h : Padded .plain value other) :
    value = other := by
  generalize hshape : Shape.plain = shape at h
  induction h with
  | refl => rfl
  | stranger => cases hshape
  | member => cases hshape
  | item => cases hshape
  | trans _ _ ih ih' => exact (ih hshape).trans (ih' hshape)

theorem Padded.rel_refl (shape : Shape) (found : Option Json) :
    Option.Rel (Padded shape) found found := by
  cases found with
  | none => exact .none
  | some value => exact .some (.refl shape value)

/-- One member with strangers in it changes what is found under its key. -/
theorem rel_padded_member {shape : Shape} {key : String} {value other : Json}
    (h : Padded shape value other) (front back : List (String × Json)) {field : String × Shape}
    (hfield : field.1 = key → field.2 = shape) :
    Option.Rel (Padded field.2) (member? field.1 (.object (front ++ (key, value) :: back)))
      (member? field.1 (.object (front ++ (key, other) :: back))) := by
  rw [member?_append, member?_append, member?_cons, member?_cons]
  cases member? field.1 (.object front) with
  | some found => exact .some (.refl _ found)
  | none =>
    rw [Option.none_or, Option.none_or]
    by_cases hkey : key = field.1
    · rw [if_pos hkey, if_pos hkey, hfield hkey.symm]
      exact .some h
    · rw [if_neg hkey, if_neg hkey]
      exact Padded.rel_refl _ _

/-- What is decoded from a document is decoded from it with strangers in its records. -/
class Decoder.IgnoresStrangers {α : Type} (d : Decoder α) (shape : outParam Shape) : Prop where
  decode_eq : ∀ ⦃value other⦄, Padded shape value other →
    ∀ ⦃a⦄, decode d value = .ok a → decode d other = .ok a

/-- A record for which only what stands under the keys that it knows matters, be it with strangers
or without. -/
class Record.IgnoresStrangers {α : Type} (r : Record α)
    (fields : outParam (List (String × Shape))) : Prop extends r.IsLawful where
  keys_eq : r.fields.map Field.key = fields.map Prod.fst
  build_eq : ∀ ⦃first second : List (String × Json)⦄,
    (∀ field ∈ fields, Option.Rel (Padded field.2) (member? field.1 (.object first))
      (member? field.1 (.object second))) →
    ∀ ⦃a⦄, r.build (drafts .counted first) = .ok a → r.build (drafts .counted second) = .ok a

namespace Decoder

variable {α : Type} {d : Decoder α} {shape : Shape}

instance : text.IgnoresStrangers .plain where
  decode_eq _ _ h _ ha := h.eq_of_plain ▸ ha

instance : int64.IgnoresStrangers .plain where
  decode_eq _ _ h _ ha := h.eq_of_plain ▸ ha

instance [hd : d.IgnoresStrangers shape] : (list d).IgnoresStrangers (.list shape) where
  decode_eq value other h a ha := by
    generalize hshape : Shape.list shape = whole at h
    induction h with
    | refl => exact ha
    | stranger => cases hshape
    | member => cases hshape
    | @item inner value other h front back _ =>
      cases hshape
      rw [decode, list_array_eq_ok Ending.isWhole_counted, List.map_append, List.map_cons] at ha ⊢
      exact items_append_cons (hd.decode_eq h) ha
    | trans _ _ ih ih' => exact ih' (ih ha hshape) hshape

end Decoder

namespace Record

variable {α β : Type} {fields others : List (String × Shape)} {shape : Shape}

instance {r : Record α} [h : r.IgnoresStrangers fields] (f : α → β) :
    (f <$> r).IgnoresStrangers fields where
  keys_eq := h.keys_eq
  build_eq first second hsame b hb := by
    obtain ⟨a, ha, hf⟩ := build_map_eq_ok.1 hb
    exact build_map_eq_ok.2 ⟨a, h.build_eq hsame ha, hf⟩

instance {f : Record (α → β)} {r : Record α} [hf : f.IgnoresStrangers fields]
    [hr : r.IgnoresStrangers others] : (f <*> r).IgnoresStrangers (fields ++ others) where
  keys_eq := by
    rw [List.map_append, ← hf.keys_eq, ← hr.keys_eq, ← List.map_append]
    rfl
  build_eq first second hsame b hb := by
    have hfirst := hf.build_eq fun field hfield ↦ hsame field (List.mem_append_left _ hfield)
    have hsecond := hr.build_eq fun field hfield ↦ hsame field (List.mem_append_right _ hfield)
    obtain ⟨g, a, hg, ha, hresult⟩ := build_seq_eq_ok.1 hb
    exact build_seq_eq_ok.2 ⟨g, a, hfirst hg, hsecond ha, hresult⟩

instance (key : String) (d : Decoder α) [hd : d.IgnoresStrangers shape] :
    (required key d).IgnoresStrangers [(key, shape)] where
  keys_eq := rfl
  build_eq first second hsame a ha := by
    have hkey := hsame (key, shape) List.mem_cons_self
    simp only [required, find?_drafts] at ha ⊢
    generalize member? key (.object first) = found at hkey ha
    generalize member? key (.object second) = found' at hkey
    cases hkey with
    | none => cases ha
    | some h => exact hd.decode_eq h ha

instance (key : String) (d : Decoder α) (fallback : α) [hd : d.IgnoresStrangers shape] :
    (optional key d fallback).IgnoresStrangers [(key, shape)] where
  keys_eq := rfl
  build_eq first second hsame a ha := by
    have hkey := hsame (key, shape) List.mem_cons_self
    simp only [optional, find?_drafts] at ha ⊢
    generalize member? key (.object first) = found at hkey ha
    generalize member? key (.object second) = found' at hkey
    cases hkey with
    | none => exact ha
    | some h => exact hd.decode_eq h ha

/-- A record whose fields have keys of their own passes over strangers. -/
theorem decoder_ignoresStrangers {name : String} {r : Record α} [hr : r.IgnoresStrangers fields]
    (hnodup : (fields.map Prod.fst).Nodup) :
    (decoder name r).IgnoresStrangers (.record fields) where
  decode_eq value other h a ha := by
    generalize hshape : Shape.record fields = shape at h
    induction h with
    | refl => exact ha
    | @stranger fields' key hkey value front back =>
      cases hshape
      obtain ⟨hkeys, hbuild⟩ := (decoder_object_iff Ending.isWhole_counted).1 ha
      refine (decoder_object_iff Ending.isWhole_counted).2 ⟨?_, hr.build_eq ?_ hbuild⟩
      · have hunknown : (r.fields.find? (·.key = key)).isSome = false := by
          rw [Option.isSome_eq_false_iff, Option.isNone_iff_eq_none, List.find?_eq_none]
          intro field hfield heq
          rw [← hr.keys_eq] at hkey
          exact hkey (List.mem_map.2 ⟨field, hfield, by simpa using heq⟩)
        simpa [map_fst_known, hunknown] using hkeys
      · intro field hfield
        have hne : key ≠ field.1 := fun heq ↦ hkey (List.mem_map.2 ⟨field, hfield, heq.symm⟩)
        rw [member?_append, member?_append, member?_cons, if_neg hne]
        exact Padded.rel_refl _ _
    | @member fields' key shape' value other hfield h front back _ =>
      cases hshape
      obtain ⟨hkeys, hbuild⟩ := (decoder_object_iff Ending.isWhole_counted).1 ha
      refine (decoder_object_iff Ending.isWhole_counted).2 ⟨?_, hr.build_eq ?_ hbuild⟩
      · simp only [map_fst_known, List.map_append, List.map_cons] at hkeys ⊢
        exact hkeys
      · intro found hfound
        refine rel_padded_member h front back fun heq ↦ ?_
        rw [List.inj_on_of_nodup_map hnodup hfound hfield heq]
    | item => cases hshape
    | trans _ _ ih ih' => exact ih' (ih ha hshape) hshape

end Record

end NamespaceLifecycle.Json
