import NamespaceLifecycle.Proofs.StateFile
import NamespaceLifecycle.Settings

/-!
# Settings are read from their file

Settings are read again from the text that is kept of them, whatever their texts are, whatever their
numbers are within 64 bits, and whichever of them are not set: what is not set is written as null,
and null is read as not set. So the file to which settings are saved holds these settings and no
others.
-/

namespace NamespaceLifecycle

open Json

/-! ## Parts of settings -/

theorem Json.isIntegral_uint64 (n : UInt64) : IsIntegral (.uint64 n) := n.toNat_lt

theorem Json.isIntegral_text (value : String) : IsIntegral (.text value) := trivial

theorem Json.isIntegral_orNull {α : Type} {toJson : α → Json} (h : ∀ a, IsIntegral (toJson a)) :
    ∀ value : Option α, IsIntegral (orNull toJson value)
  | none => trivial
  | some a => h a

theorem Json.reads_uint64 (n : UInt64) : Decoder.uint64.Reads (.uint64 n) n := by
  intro ending _
  change Except.ok (UInt64.ofNat n.toNat) = Except.ok n
  rw [UInt64.ofNat_toNat]

/-- What is not set is written as null, which is no form of a value that is set. -/
theorem Json.reads_orNull {α : Type} {d : Decoder α} {toJson : α → Json}
    (hnull : ∀ a, toJson a ≠ .null) (h : ∀ a, d.Reads (toJson a) a) (value : Option α) :
    (Decoder.optional d).Reads (orNull toJson value) value := by
  intro ending hending
  cases value with
  | none => rfl
  | some a =>
    have hread := h a hending
    rw [orNull]
    cases hvalue : toJson a with
    | null => exact absurd hvalue (hnull a)
    | _ =>
      rw [hvalue] at hread
      simp only [toDraft] at hread ⊢
      rw [Decoder.optional, hread]
      · rfl
      · nofun

theorem TimeoutSettings.decoder_reads (t : TimeoutSettings) : decoder.Reads t.toJson t := by
  intro ending hending
  apply Record.decoder_of_nodup hending (by simp)
  exact ((Record.takes_member rfl (reads_orNull nofun reads_uint64 _ hending)).map
    TimeoutSettings.mk).seq (Record.takes_member rfl (reads_uint64 _ hending))

theorem TimeoutSettings.isIntegral_toJson (t : TimeoutSettings) : IsIntegral t.toJson :=
  ⟨isIntegral_orNull isIntegral_uint64 _, isIntegral_uint64 _, trivial⟩

namespace Settings

theorem decoder_reads (s : Settings) : decoder.Reads s.toJson s := by
  intro ending hending
  apply Record.decoder_of_nodup hending (by simp)
  have hset (value : Option String) := reads_orNull nofun reads_text value hending
  exact (((((Record.takes_member rfl (hset _)).map Settings.mk).seq
    (Record.takes_member rfl (hset _))).seq
    (Record.takes_member rfl (hset _))).seq
    (Record.takes_member rfl (reads_uint64 _ hending))).seq
    (Record.takes_member rfl (s.timeouts.decoder_reads hending))

theorem isIntegral_toJson (s : Settings) : IsIntegral s.toJson := by
  have hset (value : Option String) : IsIntegral (orNull .text value) :=
    isIntegral_orNull isIntegral_text value
  exact ⟨hset _, hset _, hset _, isIntegral_uint64 _, s.timeouts.isIntegral_toJson, trivial⟩

/-! ## Files -/

theorem ofFileText_of_fileText (s : Settings) : ofFileText s.fileText = s := by
  have hread : decodeText decoder s.fileText = .ok s := by
    rw [fileText, decodeText_spread decoder s.isIntegral_toJson]
    exact s.decoder_reads Ending.isWhole_closed
  rw [ofFileText, hread]

variable {s : Settings} {w saved : Workspace} {root : String}

/-- Settings are saved into their file below a directory that was made for them. -/
theorem exists_of_save_eq_ok (h : s.save w (some root) = .ok saved) :
    ∃ made, w.makeDirectory (directory root) = .ok made ∧
      made.write (path root) s.fileText = .ok saved := by
  rw [save] at h
  split at h
  · cases h
  · rename_i made hmade
    split at h
    · cases h
    · rename_i written hwrite
      cases h
      exact ⟨made, hmade, hwrite⟩

theorem load_of_read {text : String} (h : w.read (path root) = .ok text) :
    load w (some root) = ofFileText text := by
  rw [load, h]

/-- Settings that were saved are loaded again. -/
theorem load_of_save (h : s.save w (some root) = .ok saved) : load saved (some root) = s := by
  obtain ⟨made, -, hwrite⟩ := exists_of_save_eq_ok h
  rw [load_of_read (Workspace.read_of_write hwrite), ofFileText_of_fileText]

end Settings

end NamespaceLifecycle
