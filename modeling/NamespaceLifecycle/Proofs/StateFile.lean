import NamespaceLifecycle.Command.Execution
import NamespaceLifecycle.Proofs.Json.Spread
import NamespaceLifecycle.Proofs.Wire
import NamespaceLifecycle.Proofs.Workspace

/-!
# A state is read from its file

Every state is read again from the text that is kept of it, whatever its texts and numbers are, and
so from the file that the text is written to. The numbers of a state are whole and fit into 64 bits,
so the text loses nothing; an identity that is missing is left out, and what is left out is read as
missing.
-/

namespace NamespaceLifecycle

open Json

/-! ## Whole numbers -/

theorem Json.isIntegral_int64 (n : Int64) : IsIntegral (.int64 n) := by
  have hlow : -(2 ^ 63 : Int) ≤ n.toInt := Int64.le_toInt n
  have hhigh : n.toInt < 2 ^ 63 := Int64.toInt_lt n
  unfold Json.int64 Json.int Number.ofInt
  by_cases hsign : 0 ≤ n.toInt
  · rw [if_pos hsign]
    change n.toInt.toNat < 2 ^ 64
    omega
  · rw [if_neg hsign]
    change n.toInt < 0 ∧ -n.toInt ≤ 2 ^ 63
    omega

theorem Json.isIntegral_map {α : Type} {toJson : α → Json} (h : ∀ a, IsIntegral (toJson a))
    (values : List α) : IsIntegral (.array (values.map toJson)) :=
  areIntegral_iff.2 (List.forall_mem_map.2 fun a _ ↦ h a)

theorem StorageClass.isIntegral_toStored (c : StorageClass) : IsIntegral c.toStored :=
  ⟨trivial, isIntegral_int64 _, trivial⟩

theorem VmClass.isIntegral_toJson (c : VmClass) : IsIntegral c.toJson := ⟨trivial, trivial⟩

theorem Zone.isIntegral_toStored (z : Zone) : IsIntegral z.toStored :=
  ⟨trivial, isIntegral_int64 _, isIntegral_int64 _, isIntegral_int64 _, isIntegral_int64 _, trivial⟩

/-! ## Forms in a state file -/

theorem StorageClass.stored_reads (c : StorageClass) : stored.Reads c.toStored c := by
  intro ending hending
  apply Record.decoder_of_nodup hending (by simp)
  exact ((Record.takes_required_member rfl (reads_text _ hending)).map StorageClass.mk).seq
    (Record.takes_member rfl (reads_int64 _ hending))

theorem VmClass.stored_reads (c : VmClass) : stored.Reads c.toJson c := by
  intro ending hending
  apply Record.decoder_of_nodup hending (by simp)
  exact (Record.takes_required_member rfl (reads_text _ hending)).map VmClass.mk

theorem Zone.stored_reads (z : Zone) : stored.Reads z.toStored z := by
  intro ending hending
  apply Record.decoder_of_nodup hending (by simp)
  exact (((((Record.takes_required_member rfl (reads_text _ hending)).map Zone.mk).seq
    (Record.takes_member rfl (reads_int64 _ hending))).seq
    (Record.takes_member rfl (reads_int64 _ hending))).seq
    (Record.takes_member rfl (reads_int64 _ hending))).seq
    (Record.takes_member rfl (reads_int64 _ hending))

namespace State

/-- The identity stands in the form of a state exactly when there is one. -/
theorem member?_id (s : State) : member? "id" s.toJson = s.id.map .text := by
  unfold toJson
  cases s.id with
  | none => simp [member?_cons]
  | some id => simp [member?_cons]

/-- The other members do not depend on the identity. -/
theorem member?_of_ne_id {key : String} (h : key ≠ "id") (s : State) :
    member? key s.toJson = member? key { s with id := none }.toJson := by
  unfold toJson
  cases s.id with
  | none => rfl
  | some id => exact (member?_cons key "id" _ _).trans (if_neg h.symm)

/-- No key stands twice. -/
theorem exists_members (s : State) :
    ∃ members, s.toJson = .object members ∧ (members.map Prod.fst).Nodup := by
  refine ⟨_, rfl, ?_⟩
  cases s.id <;> simp

theorem decoder_reads (s : State) : decoder.Reads s.toJson s := by
  intro ending hending
  obtain ⟨members, hmembers, hkeys⟩ := s.exists_members
  have hid : (Record.optional "id" (Decoder.optional Decoder.text) none).Takes
      (drafts ending members) s.id := by
    have hthere := hmembers ▸ s.member?_id
    cases hid : s.id with
    | none => exact Record.takes_fallback (hthere.trans (by rw [hid]; rfl))
    | some id => exact Record.takes_member (hthere.trans (by rw [hid]; rfl)) rfl
  have hother {key : String} {value : Json} (h : key ≠ "id")
      (hvalue : member? key { s with id := none }.toJson = some value) :
      member? key (.object members) = some value :=
    hmembers ▸ (member?_of_ne_id h s).trans hvalue
  rw [hmembers]
  apply Record.decoder_of_nodup hending hkeys
  exact ((((((((((((((((hid.map State.mk).seq
      (Record.takes_member (hother (by decide) rfl) (reads_text _ hending))).seq
      (Record.takes_member (hother (by decide) rfl) (reads_text _ hending))).seq
      (Record.takes_member (hother (by decide) rfl) (reads_text _ hending))).seq
      (Record.takes_member (hother (by decide) rfl) (reads_text _ hending))).seq
      (Record.takes_member (hother (by decide) rfl) (reads_text _ hending))).seq
      (Record.takes_member (hother (by decide) rfl) (reads_text _ hending))).seq
      (Record.takes_member (hother (by decide) rfl)
        (reads_list StorageClass.stored_reads _ hending))).seq
      (Record.takes_member (hother (by decide) rfl) (reads_list Zone.stored_reads _ hending))).seq
      (Record.takes_member (hother (by decide) rfl) (reads_text _ hending))).seq
      (Record.takes_member (hother (by decide) rfl) (reads_text _ hending))).seq
      (Record.takes_member (hother (by decide) rfl) rfl)).seq
      (Record.takes_member (hother (by decide) rfl) (reads_text _ hending))).seq
      (Record.takes_member (hother (by decide) rfl)
        (reads_list StorageClass.stored_reads _ hending))).seq
      (Record.takes_member (hother (by decide) rfl)
        (reads_list VmClass.stored_reads _ hending))).seq
      (Record.takes_member (hother (by decide) rfl) (reads_list Zone.stored_reads _ hending)))

theorem isIntegral_toJson (s : State) : IsIntegral s.toJson := by
  apply hasIntegral_append
  · cases s.id with
    | none => exact trivial
    | some id => exact ⟨trivial, trivial⟩
  · have hclasses (classes : List StorageClass) :=
      isIntegral_map StorageClass.isIntegral_toStored classes
    have hzones (zones : List Zone) := isIntegral_map Zone.isIntegral_toStored zones
    exact ⟨trivial, trivial, trivial, trivial, trivial, trivial, hclasses _, hzones _, trivial,
      trivial, trivial, trivial, hclasses _, isIntegral_map VmClass.isIntegral_toJson _, hzones _,
      trivial⟩

/-! ## Files -/

theorem ofFileText_of_fileText (s : State) : ofFileText s.fileText = .ok s := by
  rw [ofFileText, fileText, decodeText_spread decoder s.isIntegral_toJson]
  exact s.decoder_reads Ending.isWhole_closed

end State

namespace Command

variable {w saved : Workspace} {path : String} {s : State}

/-- A state is saved exactly where its text can be written. -/
theorem saveState_eq_ok_iff :
    saveState w path s = .ok saved ↔ w.write path s.fileText = .ok saved := by
  unfold saveState
  cases w.write path s.fileText with
  | error cause => exact ⟨nofun, nofun⟩
  | ok written => simp only [Except.ok.injEq]

theorem read_of_saveState (h : saveState w path s = .ok saved) :
    saved.read path = .ok s.fileText :=
  Workspace.read_of_write (saveState_eq_ok_iff.1 h)

/-- A state that was saved is loaded again. -/
theorem loadState_of_saveState (h : saveState w path s = .ok saved) :
    loadState saved path = .ok s := by
  simp only [loadState, read_of_saveState h, State.ofFileText_of_fileText]

end Command

/-- Whatever a state holds, the text that is kept of it is read as that state again. The identity is
left out of the text exactly when there is none. The state is saved exactly where this text can be
written, and then the file holds it and is loaded as the state. -/
theorem State.fileText_roundTrips (s : State) :
    ofFileText s.fileText = .ok s ∧ member? "id" s.toJson = s.id.map .text ∧
      ∀ (w saved : Workspace) (path : String),
        (Command.saveState w path s = .ok saved ↔ w.write path s.fileText = .ok saved) ∧
        (Command.saveState w path s = .ok saved →
          saved.read path = .ok s.fileText ∧ Command.loadState saved path = .ok s) :=
  ⟨s.ofFileText_of_fileText, s.member?_id, fun _ _ _ ↦ ⟨Command.saveState_eq_ok_iff, fun h ↦
    ⟨Command.read_of_saveState h, Command.loadState_of_saveState h⟩⟩⟩

/-- A state with signs that need escapes and with the least number is saved and loaded. -/
theorem State.fileText_roundTrips_of_extremes :
    let s : State := { State.empty with
      description := "\"ü\"\n\\", storageClasses := [⟨"fast", -9223372036854775808⟩] }
    let w : Workspace := ⟨["home"], [(["home", "n.json"], .file [0])]⟩
    let saved : Workspace :=
      ⟨["home"], [(["home", "n.json"], .file (Text.Utf8.bytes s.fileText))]⟩
    Command.saveState w "n.json" s = .ok saved ∧ Command.loadState saved "n.json" = .ok s := by
  intro s w saved
  have hwrite : w.write "n.json" s.fileText = .ok saved := rfl
  obtain ⟨hsave, hload⟩ := s.fileText_roundTrips.2.2 w saved "n.json"
  exact ⟨hsave.2 hwrite, (hload (hsave.2 hwrite)).2⟩

end NamespaceLifecycle
