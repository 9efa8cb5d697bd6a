import Mathlib.Logic.Relator
import NamespaceLifecycle.Proofs.Json.Shape

/-!
# Documents without some of their members

Members are taken out of a document at any depth, by marks on the ways that lead to them. A field
that may be missing falls back when its member is taken, and all else that a record holds stays, so
what is decoded from the rest of a document is told by the same marks from what is decoded from the
whole. A field that must be there is another matter: without its member nothing is decoded.
-/

namespace NamespaceLifecycle.Json

open scoped Relator

/-! ## Marks -/

/-- A step into a document: to the member of a key, or to an item. -/
inductive Step where
  | member (key : String)
  | item (index : Nat)
  deriving DecidableEq, Repr

/-- Tells which members are taken out, by the ways that lead to them. -/
abbrev Marks := List Step → Bool

namespace Marks

def under (marks : Marks) (step : Step) : Marks := fun way ↦ marks (step :: way)

/-- The one way that is marked. -/
def only (way : List Step) : Marks := fun other ↦ decide (other = way)

/-- A field when members are taken: its value to fall back on if its own member is, and otherwise
what is left of it. -/
def rest {α : Type} (marks : Marks) (key : String) (fallback : α) (inner : Marks → α) : α :=
  if marks [.member key] then fallback else inner (marks.under (.member key))

/-- The items of a list when members of theirs are taken. -/
def restOfItems {α : Type} (inner : α → Marks → α) (items : List α) (marks : Marks) : List α :=
  items.mapIdx fun index item ↦ inner item (marks.under (.item index))

theorem restOfItems_eq_self {α : Type} (items : List α) (marks : Marks) :
    restOfItems (fun item _ ↦ item) items marks = items :=
  List.ext_getElem? (by simp [restOfItems])

end Marks

mutual

/-- A document without the marked members. -/
def pruned (marks : Marks) : Json → Json
  | .array items => .array (prunedItems marks 0 items)
  | .object members => .object (prunedMembers marks members)
  | value => value

def prunedItems (marks : Marks) (index : Nat) : List Json → List Json
  | [] => []
  | item :: items =>
    pruned (marks.under (.item index)) item :: prunedItems marks (index + 1) items

/-- Members without the marked ones, and without the marked ones in those that stay. -/
def prunedMembers (marks : Marks) : List (String × Json) → List (String × Json)
  | [] => []
  | (key, value) :: members =>
    if marks [.member key] then prunedMembers marks members
    else (key, pruned (marks.under (.member key)) value) :: prunedMembers marks members

end

theorem member?_prunedMembers (marks : Marks) (key : String) (members : List (String × Json)) :
    member? key (.object (prunedMembers marks members)) =
      if marks [.member key] then none
      else (member? key (.object members)).map (pruned (marks.under (.member key))) := by
  induction members with
  | nil => simp [prunedMembers]
  | cons member members ih =>
    obtain ⟨other, value⟩ := member
    rw [prunedMembers, member?_cons]
    by_cases hkey : other = key
    · subst hkey
      by_cases hmark : marks [.member other] = true
      · rw [if_pos hmark, ih, if_pos hmark, if_pos hmark]
      · rw [if_neg hmark, if_neg hmark, if_pos rfl, member?_cons, if_pos rfl]
        rfl
    · rw [if_neg hkey, ← ih]
      split
      · rfl
      · rw [member?_cons, if_neg hkey]

/-- A member that is not marked leaves its rest. -/
theorem member?_prunedMembers_of_some {marks : Marks} {key : String}
    {members : List (String × Json)} {value : Json} (hmark : marks [.member key] = false)
    (h : member? key (.object members) = some value) :
    member? key (.object (prunedMembers marks members)) =
      some (value.pruned (marks.under (.member key))) := by
  rw [member?_prunedMembers, hmark, h]
  rfl

theorem keys_prunedMembers (marks : Marks) (members : List (String × Json)) :
    List.Sublist ((prunedMembers marks members).map Prod.fst) (members.map Prod.fst) := by
  induction members with
  | nil => exact .refl _
  | cons member members ih =>
    obtain ⟨key, value⟩ := member
    rw [prunedMembers]
    split
    · exact .cons _ ih
    · exact .cons_cons _ ih

theorem getElem?_prunedItems (marks : Marks) (start index : Nat) (items : List Json) :
    (prunedItems marks start items)[index]? =
      items[index]?.map (pruned (marks.under (.item (start + index)))) := by
  induction items generalizing start index with
  | nil => rfl
  | cons item items ih =>
    rw [prunedItems]
    cases index with
    | zero => rfl
    | succ index =>
      rw [List.getElem?_cons_succ, List.getElem?_cons_succ, ih, Nat.add_right_comm, Nat.add_assoc]

/-! ## Fields that may be missing -/

/-- What is decoded from the rest of a document is what is left of the value of the whole. -/
def Decoder.Leaves {α : Type} (d : Decoder α) (shape : Shape) (marks : Marks)
    (rest : α → Marks → α) : Prop :=
  ∀ ⦃value⦄, shape.Fits value → ∀ ⦃a⦄, decode d value = .ok a →
    decode d (value.pruned marks) = .ok (rest a marks)

namespace Decoder

variable {α : Type} {d : Decoder α} {shape : Shape} {marks : Marks} {rest : α → Marks → α}

theorem text_leaves (marks : Marks) : text.Leaves .plain marks fun a _ ↦ a := by
  intro value _ a h
  cases value with
  | text => exact h
  | _ => cases h

theorem int64_leaves (marks : Marks) : int64.Leaves .plain marks fun a _ ↦ a := by
  intro value _ a h
  cases value with
  | number => exact h
  | _ => cases h

/-- Items are decoded as what is left of each, counted from the index of the first. -/
theorem items_pruned (h : ∀ index, d.Leaves shape (marks.under (.item index)) rest)
    {content : List Json} {values : List α} (start : Nat)
    (hfits : ∀ value ∈ content, shape.Fits value)
    (hvalues : items d (content.map (toDraft .counted)) = .ok values) :
    items d ((prunedItems marks start content).map (toDraft .counted)) =
      .ok (values.mapIdx fun index a ↦ rest a (marks.under (.item (start + index)))) := by
  induction content generalizing start values with
  | nil =>
    cases hvalues
    rfl
  | cons item content ih =>
    obtain ⟨a, others, ha, hothers, rfl⟩ := items_cons_eq_ok.1 hvalues
    rw [List.forall_mem_cons] at hfits
    rw [prunedItems, List.map_cons, List.mapIdx_cons]
    have hrest := ih (start + 1) hfits.2 hothers
    refine items_cons_eq_ok.2 ⟨_, _, h start hfits.1 ha, hrest, ?_⟩
    simp only [Nat.add_zero, Nat.add_assoc, Nat.add_comm 1]

theorem Leaves.list (h : ∀ index, d.Leaves shape (marks.under (.item index)) rest) :
    (list d).Leaves (.list shape) marks (Marks.restOfItems rest) := by
  intro value hfits values hvalues
  cases hfits with
  | @list _ content hfits =>
    rw [decode, list_array_eq_ok Ending.isWhole_counted] at hvalues
    have hrest := items_pruned h 0 hfits hvalues
    simp only [Nat.zero_add] at hrest
    rw [pruned, decode, list_array_eq_ok Ending.isWhole_counted, hrest]
    rfl

end Decoder

namespace Record

variable {α β : Type} {r : Record α} {first second members : List (String × Json)} {key : String}
  {d : Decoder α} {fallback : α} {marks : Marks}

/-- What a record takes from members it takes from other members, up to a relation. -/
def Carries (r : Record α) (first second : List (String × Json)) (R : α → α → Prop) : Prop :=
  ∀ ⦃a⦄, r.build (drafts .counted first) = .ok a → ∃ b, r.Takes (drafts .counted second) b ∧ R a b

theorem Carries.map {f : α → β} {R : α → α → Prop} {S : β → β → Prop}
    (h : r.Carries first second R) (hf : (R ⇒ S) f f) : (f <$> r).Carries first second S := by
  intro b hb
  obtain ⟨a, ha, rfl⟩ := build_map_eq_ok.1 hb
  obtain ⟨a', ha', hrelated⟩ := h ha
  exact ⟨f a', ha'.map f, hf hrelated⟩

theorem Carries.seq {f : Record (α → β)} {R : α → α → Prop} {S : β → β → Prop}
    (hf : f.Carries first second (R ⇒ S)) (h : r.Carries first second R) :
    (f <*> r).Carries first second S := by
  intro b hb
  obtain ⟨g, a, hg, ha, rfl⟩ := build_seq_eq_ok.1 hb
  obtain ⟨g', hg', hrelated⟩ := hf hg
  obtain ⟨a', ha', hrelated'⟩ := h ha
  exact ⟨g' a', hg'.seq ha', hrelated hrelated'⟩

/-- A field that may be missing falls back when its member is taken, and else keeps its rest. -/
theorem carries_optional {shape : Shape} {rest : α → Marks → α}
    (hd : d.Leaves shape (marks.under (.member key)) rest)
    (hfallback : rest fallback (marks.under (.member key)) = fallback)
    (hfits : ∀ value, member? key (.object members) = some value → shape.Fits value) :
    (optional key d fallback).Carries members (prunedMembers marks members)
      fun a b ↦ b = marks.rest key fallback (rest a) := by
  intro a ha
  refine ⟨_, ?_, rfl⟩
  have hrest := member?_prunedMembers marks key members
  unfold Marks.rest
  cases hmark : marks [.member key] with
  | true =>
    rw [hmark] at hrest
    exact takes_fallback hrest
  | false =>
    cases hmember : member? key (.object members) with
    | none =>
      rw [build_optional_of_none hmember, Except.ok.injEq] at ha
      rw [hmark, hmember] at hrest
      rw [← ha, hfallback]
      exact takes_fallback hrest
    | some value =>
      rw [build_optional_of_some hmember] at ha
      rw [hmark, hmember] at hrest
      exact takes_member hrest (hd (hfits value hmember) ha)

theorem carries_text : (optional key Decoder.text "").Carries members (prunedMembers marks members)
    fun a b ↦ b = marks.rest key "" fun _ ↦ a :=
  carries_optional (Decoder.text_leaves _) rfl fun value _ ↦ .plain value

theorem carries_int64 : (optional key Decoder.int64 0).Carries members
    (prunedMembers marks members) fun a b ↦ b = marks.rest key 0 fun _ ↦ a :=
  carries_optional (Decoder.int64_leaves _) rfl fun value _ ↦ .plain value

/-- A list that may be missing keeps its items, and these what is left of them. -/
theorem carries_list {shape : Shape} {rest : α → Marks → α}
    (hd : ∀ marks, d.Leaves shape marks rest)
    (hfits : ∀ value, member? key (.object members) = some value → (Shape.list shape).Fits value) :
    (optional key (Decoder.list d) []).Carries members (prunedMembers marks members)
      fun a b ↦ b = marks.rest key [] (Marks.restOfItems rest a) :=
  carries_optional (.list fun _ ↦ hd _) rfl hfits

/-- A plain field that must be there stays as it is when its member is not taken. -/
theorem carries_required (hd : ∀ marks, d.Leaves .plain marks fun a _ ↦ a)
    (hmark : marks [.member key] = false) :
    (required key d).Carries members (prunedMembers marks members) Eq := by
  intro a ha
  obtain ⟨value, hmember, hvalue⟩ := build_required_eq_ok.1 ha
  have hrest := member?_prunedMembers_of_some hmark hmember
  exact ⟨a, takes_required_member hrest (hd _ (.plain value) hvalue), rfl⟩

/-- A record leaves what its fields leave. -/
theorem decoder_leaves [r.IsLawful] {name : String} {fields : List (String × Shape)}
    {rest : α → Marks → α}
    (h : ∀ members, (∀ field ∈ fields, ∀ value,
        member? field.1 (.object members) = some value → field.2.Fits value) →
      r.Carries members (prunedMembers marks members) fun a b ↦ b = rest a marks) :
    (decoder name r).Leaves (.record fields) marks rest := by
  intro value hfits a ha
  cases hfits with
  | @record _ members hfits =>
    obtain ⟨hkeys, hbuild⟩ := (decoder_object_iff Ending.isWhole_counted).1 ha
    obtain ⟨b, hb, rfl⟩ := h members hfits hbuild
    refine decoder_of_takes Ending.isWhole_counted ?_ hb
    rw [map_fst_known] at hkeys ⊢
    exact hkeys.sublist ((keys_prunedMembers marks members).filter _)

end Record

/-! ## Fields that must be there -/

theorem Decoder.length_of_decode_list {α : Type} {d : Decoder α} {items : List Json}
    {values : List α} (h : decode (list d) (.array items) = .ok values) :
    values.length = items.length := by
  rw [decode, list_array_eq_ok Ending.isWhole_counted] at h
  induction items generalizing values with
  | nil =>
    cases h
    rfl
  | cons item items ih =>
    obtain ⟨a, others, -, hothers, rfl⟩ := items_cons_eq_ok.1 h
    rw [List.length_cons, List.length_cons, ih hothers]

/-- Nothing is decoded from a document. -/
def Decoder.Refuses {α : Type} (d : Decoder α) (value : Json) : Prop := ∀ a, decode d value ≠ .ok a

theorem Decoder.Refuses.list {α : Type} {d : Decoder α} {items : List Json} {item : Json}
    (hitem : item ∈ items) (h : d.Refuses item) : (list d).Refuses (.array items) := by
  intro values hvalues
  rw [decode, list_array_eq_ok Ending.isWhole_counted] at hvalues
  induction items generalizing values with
  | nil => cases hitem
  | cons first items ih =>
    obtain ⟨a, others, ha, hothers, -⟩ := items_cons_eq_ok.1 hvalues
    rcases List.mem_cons.1 hitem with rfl | hitem
    · exact h a ha
    · exact ih hitem others hothers

namespace Record

variable {α β : Type} {r : Record α} {name key : String} {members : List (String × Json)}

/-- The keys of the fields that must be there. -/
def requiredKeys (r : Record α) : List String := (r.fields.filter Field.required).map Field.key

/-- A record is not read without a field that must be there. -/
theorem refuses_of_required [hr : r.IsLawful] (hkey : key ∈ r.requiredKeys)
    (hnone : member? key (.object members) = none) :
    (decoder name r).Refuses (.object members) := by
  intro a ha
  obtain ⟨-, hbuild⟩ := (decoder_object_iff Ending.isWhole_counted).1 ha
  obtain ⟨field, hfield, rfl⟩ := List.mem_map.1 hkey
  rw [List.mem_filter] at hfield
  have hthere := (hr.takes hbuild).isSome_of_required field hfield.1 hfield.2
  rw [find?_drafts, hnone] at hthere
  cases hthere

/-- A record is not read from a member that its field refuses. -/
theorem refuses_of_member [hr : r.IsLawful] {required : Bool} {d : Decoder β} {value : Json}
    (hfield : ⟨key, required, fun draft ↦ (d draft).map fun _ ↦ ()⟩ ∈ r.fields)
    (hmember : member? key (.object members) = some value) (h : d.Refuses value) :
    (decoder name r).Refuses (.object members) := by
  intro a ha
  obtain ⟨-, hbuild⟩ := (decoder_object_iff Ending.isWhole_counted).1 ha
  have hfound : (drafts .counted members).find? key = some (toDraft .counted value) := by
    rw [find?_drafts, hmember]
    rfl
  obtain ⟨b, hb⟩ := check_eq_ok.1 ((hr.takes hbuild).check_eq _ hfield _ hfound)
  exact h b hb

/-- A list of records is not read when one of them loses a member that must be there. -/
theorem refuses_without_part [r.IsLawful] {fields : List (String × Shape)} {value : Json}
    {values : List α} {index : Nat} {marks : Marks}
    (hfits : (Shape.list (.record fields)).Fits value)
    (hvalues : decode (Decoder.list (decoder name r)) value = .ok values)
    (hindex : index < values.length) (hkey : key ∈ r.requiredKeys)
    (hmark : marks [.item index, .member key] = true) :
    (Decoder.list (decoder name r)).Refuses (value.pruned marks) := by
  cases hfits with
  | @list _ items hfits =>
    rw [Decoder.length_of_decode_list hvalues] at hindex
    have hrest : items[index].pruned (marks.under (.item index)) ∈ prunedItems marks 0 items := by
      apply List.mem_of_getElem?
      rw [getElem?_prunedItems, List.getElem?_eq_getElem hindex, Nat.zero_add]
      rfl
    apply Decoder.Refuses.list hrest
    have hitem : (Shape.record fields).Fits items[index] := hfits _ (List.getElem_mem hindex)
    generalize items[index] = item at hitem
    cases hitem with
    | @record _ members _ =>
      apply refuses_of_required hkey
      rw [member?_prunedMembers]
      exact if_pos hmark

/-- A field with another value than the one to fall back on is read from its member. -/
theorem exists_member_of_ne {d : Decoder α} {fallback a : α}
    (h : (optional key d fallback).build (drafts .counted members) = .ok a) (hne : a ≠ fallback) :
    ∃ value, member? key (.object members) = some value ∧ decode d value = .ok a := by
  cases hmember : member? key (.object members) with
  | none =>
    rw [build_optional_of_none hmember, Except.ok.injEq] at h
    exact absurd h.symm hne
  | some value =>
    rw [build_optional_of_some hmember] at h
    exact ⟨value, rfl, h⟩

end Record

end NamespaceLifecycle.Json
