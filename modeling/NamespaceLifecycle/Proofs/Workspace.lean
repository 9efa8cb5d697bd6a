import NamespaceLifecycle.Proofs.Except
import NamespaceLifecycle.Proofs.Text.Split
import NamespaceLifecycle.Workspace

/-!
# Writing and reading files

A text that was written is read again under the same path, and nothing that stood elsewhere has
changed. Something that is put in the tree can only add directories on the way to it, so a path that
led to a place before leads there afterwards. So neither a directory that is made nor another file
that is written changes a text that can be read in the directory; only where the names on the way
lead back may the new directories open ways that were closed before.
-/

namespace NamespaceLifecycle.Workspace

variable {w saved : Workspace} {place other : Location} {entry found : Entry} {path text : String}

/-! ## Entries -/

theorem find?_map_replaced (entries : List (Location × Entry)) (place : Location) (entry : Entry)
    (other : Location) :
    (entries.map fun e ↦ if e.1 = place then (place, entry) else e).find? (·.1 = other) =
      if other = place then (entries.find? (·.1 = place)).map fun _ ↦ (place, entry)
      else entries.find? (·.1 = other) := by
  induction entries with
  | nil => simp
  | cons e entries ih =>
    rw [List.map_cons, List.find?_cons, ih, List.find?_cons, List.find?_cons]
    by_cases hplace : e.1 = place
    · by_cases hother : other = place
      · simp [hplace, hother]
      · simp [hplace, hother, Ne.symm hother]
    · by_cases hother : other = place
      · simp [hplace, hother]
      · simp [hplace, hother]

/-- What is put at a place is the entry of the place, and the other places keep theirs. -/
theorem find?_entries_put (w : Workspace) (place : Location) (entry : Entry) (other : Location) :
    (w.put place entry).entries.find? (·.1 = other) =
      if other = place then some (place, entry) else w.entries.find? (·.1 = other) := by
  unfold put
  split
  · rename_i hthere
    rw [find?_map_replaced]
    have hsome : (w.entries.find? (·.1 = place)).isSome = true := by
      rwa [List.find?_isSome, ← List.any_eq_true]
    obtain ⟨e, he⟩ := Option.isSome_iff_exists.1 hsome
    rw [he, Option.map_some]
  · rename_i hnew
    have hnone : w.entries.find? (·.1 = place) = none := by
      rw [List.find?_eq_none]
      exact fun e he hplace ↦ hnew (List.any_eq_true.2 ⟨e, he, hplace⟩)
    rw [List.find?_append]
    by_cases hother : other = place
    · simp [hother, hnone]
    · simp [hother, Ne.symm hother]

theorem find?_put_self (w : Workspace) (place : Location) (entry : Entry) :
    (w.put place entry).find? place = some entry := by
  rw [find?, find?_entries_put, if_pos rfl]

/-- Every place with an entry has one when something is put. -/
theorem any_entries_put {p : Location → Bool} (h : (w.entries.any fun e ↦ p e.1) = true) :
    ((w.put place entry).entries.any fun e ↦ p e.1) = true := by
  obtain ⟨e, he, hp⟩ := List.any_eq_true.1 h
  unfold put
  split
  · rw [List.any_map, List.any_eq_true]
    refine ⟨e, he, ?_⟩
    by_cases hplace : e.1 = place
    · simp [hplace, ← hp]
    · simp [hplace, hp]
  · rw [List.any_append, h, Bool.true_or]

@[simp] theorem current_put (w : Workspace) (place : Location) (entry : Entry) :
    (w.put place entry).current = w.current := by
  unfold put
  split <;> rfl

/-- What stands at another place stays when something is put. -/
theorem find?_put_of_ne (hne : other ≠ place) (h : w.find? other = some found) :
    (w.put place entry).find? other = some found := by
  rw [find?, find?_entries_put, if_neg hne, current_put]
  rw [find?] at h
  cases hentry : w.entries.find? (·.1 = other) with
  | some pair =>
    rw [hentry] at h
    exact h
  | none =>
    -- A directory on the way to an entry is on the way to the same entry still.
    rw [hentry] at h
    simp only [Option.ite_none_right_eq_some, Bool.or_eq_true] at h ⊢
    exact ⟨h.1.imp_right any_entries_put, h.2⟩

/-- What is put at a place shows only there and on the way to it. -/
theorem find?_put_of_not_prefix (h : ¬other <+: place) :
    (w.put place entry).find? other = w.find? other := by
  have hne : other ≠ place := fun heq ↦ h (heq ▸ List.prefix_rfl)
  have hway : ((w.put place entry).entries.any fun e ↦ other.isPrefixOf e.1) =
      w.entries.any fun e ↦ other.isPrefixOf e.1 := by
    unfold put
    split
    · rw [List.any_map]
      refine List.any_congr rfl fun e ↦ ?_
      by_cases hplace : e.1 = place <;> simp [hplace]
    · simp [h]
  rw [find?, find?_entries_put, if_neg hne, current_put, hway, find?]

/-- Below a place where nothing stands there is nothing. -/
theorem find?_eq_none_below (h : w.find? place = none) (hway : place <+: other) :
    w.find? other = none := by
  unfold find? at h
  split at h
  · cases h
  · simp only [ite_eq_right_iff, reduceCtorEq, imp_false, Bool.or_eq_true, not_or,
      List.any_eq_true, not_exists, not_and, List.isPrefixOf_iff_prefix] at h
    have hentry : w.entries.find? (·.1 = other) = none := by
      refine List.find?_eq_none.2 fun e he hplace ↦ h.2 e he ?_
      rw [of_decide_eq_true hplace]
      exact hway
    rw [find?, hentry]
    simp only [ite_eq_right_iff, reduceCtorEq, imp_false, Bool.or_eq_true, not_or,
      List.any_eq_true, not_exists, not_and, List.isPrefixOf_iff_prefix]
    exact ⟨fun hcurrent ↦ h.1 (hway.trans hcurrent),
      fun e he hbelow ↦ h.2 e he (hway.trans hbelow)⟩

/-! ## Paths -/

def IsName (name : String) : Prop := '/' ∉ name.toList ∧ name ≠ "" ∧ name ≠ "." ∧ name ≠ ".."

instance : DecidablePred IsName := fun name ↦
  inferInstanceAs (Decidable ('/' ∉ name.toList ∧ name ≠ "" ∧ name ≠ "." ∧ name ≠ ".."))

theorem step_of_isName {name : String} (h : IsName name) (place : Location) :
    step place name = place ++ [name] := by
  rw [step, if_neg (not_or.2 ⟨h.2.1, h.2.2.1⟩), if_neg h.2.2.2]

/-- Without a step back, names lead on from a place. -/
theorem prefix_foldl_step {names : List String} (h : ".." ∉ names) (place : Location) :
    place <+: names.foldl step place := by
  induction names generalizing place with
  | nil => exact List.prefix_rfl
  | cons name names ih =>
    rw [List.mem_cons, not_or] at h
    refine List.IsPrefix.trans ?_ (ih h.2 _)
    rw [step, if_neg (Ne.symm h.1)]
    split
    · exact List.prefix_rfl
    · exact List.prefix_append place [name]

/-- Names that can be followed lead where their steps lead. -/
theorem foldl_step_of_follow {start goal : Location} {names : List String}
    (h : w.follow start names = .ok goal) : goal = names.foldl step start := by
  induction names generalizing start with
  | nil => exact (Except.ok.inj h).symm
  | cons name names ih =>
    rw [follow] at h
    split at h
    · rename_i hlast
      rw [List.isEmpty_iff.1 hlast]
      exact (Except.ok.inj h).symm
    · split at h
      · exact ih h
      · cases h
      · cases h

/-- A name in a directory is followed where the directory is found. -/
theorem follow_concat_eq_ok_iff {start goal : Location} {names : List String} (hnames : names ≠ [])
    {name : String} (hname : IsName name) :
    w.follow start (names ++ [name]) = .ok goal ↔ ∃ place, w.follow start names = .ok place ∧
      w.find? place = some .directory ∧ goal = place ++ [name] := by
  induction names generalizing start with
  | nil => exact absurd rfl hnames
  | cons first names ih =>
    have hmore : ¬(names ++ [name]).isEmpty = true := by simp
    rw [List.cons_append, follow, if_neg hmore, follow]
    by_cases hlast : names = []
    · subst hlast
      have hdone : w.follow (step start first) [name] = .ok (step start first ++ [name]) := by
        rw [follow, if_pos List.isEmpty_nil, step_of_isName hname]
      rw [if_pos List.isEmpty_nil, List.nil_append, hdone]
      cases hnext : w.find? (step start first) with
      | none => simp [hnext]
      | some entry => cases entry <;> simp [hnext, eq_comm]
    · rw [if_neg (mt List.isEmpty_iff.1 hlast)]
      cases w.find? (step start first) with
      | none => simp
      | some entry =>
        cases entry with
        | file content => simp
        | directory => exact ih hlast


/-- A path leads to the same place when something is put that takes no directory away. -/
theorem follow_put (hplace : w.find? place ≠ some .directory) {start goal : Location}
    {names : List String} (h : w.follow start names = .ok goal) :
    (w.put place entry).follow start names = .ok goal := by
  induction names generalizing start with
  | nil => exact h
  | cons name names ih =>
    simp only [follow] at h ⊢
    split at h
    · rename_i hlast
      rw [if_pos hlast]
      exact h
    · rename_i hmore
      rw [if_neg hmore]
      split at h
      · rename_i hnext
        have hne : _ ≠ place := fun heq ↦ hplace (heq ▸ hnext)
        simp only [find?_put_of_ne hne hnext]
        exact ih h
      · cases h
      · cases h

theorem locate_put (hplace : w.find? place ≠ some .directory) {goal : Location}
    (h : w.locate path = .ok goal) : (w.put place entry).locate path = .ok goal := by
  unfold locate at h ⊢
  split at h
  · cases h
  · rename_i hpath
    rw [if_neg hpath]
    rw [current_put]
    exact follow_put hplace h

/-- A path to something in a directory: the names of the directory and one more. -/
theorem parts_in_directory {directory name : String} (hdirectory : directory ≠ "")
    (hname : IsName name) :
    parts (directory ++ ("/" ++ name)) = ((parts directory).1, (parts directory).2 ++ [name]) := by
  obtain ⟨c, chars, hchars⟩ :=
    List.exists_cons_of_ne_nil (mt String.toList_eq_nil_iff.1 hdirectory)
  have hnone : ∀ c ∈ name.toList, (c == '/') = false := fun c hc ↦
    beq_false_of_ne (ne_of_mem_of_not_mem hc hname.1)
  have hsplit : Text.splitAt '/' (directory ++ ("/" ++ name)).toList =
      Text.splitAt '/' directory.toList ++ [name.toList] := by
    rw [String.toList_append, String.toList_append, Text.splitAt,
      ← Text.splitWhere_of_forall hnone]
    exact Text.splitWhere_append _ rfl _
  rw [parts, hsplit, parts, List.map_append, List.map_singleton, String.ofList_toList,
    String.toList_append, hchars]
  rfl

/-- A path leads into a directory where the path to the directory leads to it. -/
theorem locate_in_directory {directory name : String} {goal : Location}
    (hdirectory : directory ≠ "") (hname : IsName name) :
    w.locate (directory ++ ("/" ++ name)) = .ok goal ↔ ∃ place, w.locate directory = .ok place ∧
      w.find? place = some .directory ∧ goal = place ++ [name] := by
  have hpath : directory ++ ("/" ++ name) ≠ "" := fun h ↦
    hdirectory (String.append_eq_empty_iff.1 h).1
  have hnames : (parts directory).2 ≠ [] := by
    rw [parts]
    exact mt List.map_eq_nil_iff.1 (Text.splitWhere_ne_nil _ _)
  rw [locate, if_neg hpath, locate, if_neg hdirectory, parts_in_directory hdirectory hname]
  exact follow_concat_eq_ok_iff hnames hname

/-! ## Making directories -/

/-- Directories that are made show only on the way along their names. -/
theorem find?_makeWay {made : Workspace} {start : Location} {names : List String}
    (hback : ".." ∉ names) (h : w.makeWay start names = .ok made)
    (hother : ¬other <+: names.foldl step start) : made.find? other = w.find? other := by
  induction names generalizing w start with
  | nil =>
    cases h
    rfl
  | cons name names ih =>
    have hrest : ".." ∉ names := fun hmem ↦ hback (List.mem_cons_of_mem _ hmem)
    rw [makeWay] at h
    split at h
    · exact ih hrest h hother
    · split at h <;> cases h
    · rw [ih hrest h hother]
      exact find?_put_of_not_prefix fun hway ↦
        hother (hway.trans (prefix_foldl_step hrest _))

theorem current_makeWay {made : Workspace} {start : Location} {names : List String}
    (h : w.makeWay start names = .ok made) : made.current = w.current := by
  induction names generalizing w start with
  | nil =>
    cases h
    rfl
  | cons name names ih =>
    rw [makeWay] at h
    split at h
    · exact ih h
    · split at h <;> cases h
    · rw [ih h, current_put]

/-- Either all directories were there, or what is to stand in the last of them is not yet. -/
theorem makeWay_cases (name : String) {made : Workspace} {start : Location} {names : List String}
    (hback : ".." ∉ names) (h : w.makeWay start names = .ok made) :
    made = w ∨ w.find? (names.foldl step start ++ [name]) = none ∧
      ∀ goal, w.follow start (names ++ [name]) ≠ .ok goal := by
  induction names generalizing w start with
  | nil =>
    cases h
    exact .inl rfl
  | cons first names ih =>
    have hrest : ".." ∉ names := fun hmem ↦ hback (List.mem_cons_of_mem _ hmem)
    have hmore : ¬(names ++ [name]).isEmpty = true := by simp
    rw [List.cons_append, follow, if_neg hmore]
    rw [makeWay] at h
    split at h
    · exact ih hrest h
    · split at h <;> cases h
    · rename_i hnext
      refine .inr ⟨find?_eq_none_below hnext ?_, nofun⟩
      exact (prefix_foldl_step hrest _).trans (List.prefix_append _ _)

/-- A directory that is made changes no text that can be read in it. -/
theorem read_of_makeDirectory {made : Workspace} {directory name : String}
    (hdirectory : directory ≠ "") (hback : ".." ∉ (parts directory).2) (hname : IsName name)
    (h : w.makeDirectory directory = .ok made) :
    made.read (directory ++ ("/" ++ name)) = .ok text ↔
      w.read (directory ++ ("/" ++ name)) = .ok text := by
  have hparts := parts_in_directory hdirectory hname
  have hpath : directory ++ ("/" ++ name) ≠ "" := fun h ↦
    hdirectory (String.append_eq_empty_iff.1 h).1
  have hmade : w.makeWay (if (parts directory).1 then [] else w.current) (parts directory).2 =
      .ok made := h
  rcases makeWay_cases name hback hmade with rfl | ⟨hnone, hlost⟩
  · exact Iff.rfl
  · have hbefore : w.read (directory ++ ("/" ++ name)) ≠ .ok text := by
      intro hread
      obtain ⟨goal, hlocate, -⟩ := exists_of_bind_eq_ok hread
      rw [locate, if_neg hpath, hparts] at hlocate
      exact hlost goal hlocate
    have hafter : made.read (directory ++ ("/" ++ name)) ≠ .ok text := by
      intro hread
      obtain ⟨goal, hlocate, hfound⟩ := exists_of_bind_eq_ok hread
      rw [locate, if_neg hpath, hparts, current_makeWay hmade] at hlocate
      -- What the path leads to is no directory on the way, so it stands there as before: not at
      -- all.
      have hgoal := foldl_step_of_follow hlocate
      rw [List.foldl_append, List.foldl_cons, List.foldl_nil, step_of_isName hname] at hgoal
      have hlonger {way : Location} : ¬way ++ [name] <+: way := by
        intro hway
        have hlength := hway.length_le
        rw [List.length_append, List.length_singleton] at hlength
        omega
      have hmissing : made.find? goal = none := by
        rw [hgoal, find?_makeWay hback hmade hlonger]
        exact hnone
      rw [hmissing] at hfound
      cases hfound
    exact iff_of_false hafter hbefore

/-! ## Files -/

/-- A file that is opened for writing stands where its path leads, no directory gave way to it, and
its content is made of the one that it had. -/
theorem exists_of_writeWith_eq_ok {content : List UInt8 → List UInt8}
    (h : w.writeWith path content = .ok saved) :
    ∃ place old, w.locate path = .ok place ∧ w.find? place ≠ some .directory ∧
      saved = w.put place (.file (content old)) := by
  unfold writeWith at h
  obtain ⟨place, hlocate, h⟩ := exists_of_bind_eq_ok h
  split at h
  · cases h
  · rename_i hlast
    rw [Text.withoutTrailing_of_getLast? hlast] at hlocate
    split at h
    · cases h
    · rename_i old hfile
      exact ⟨place, old, hlocate, by simp [hfile], (Except.ok.inj h).symm⟩
    · rename_i hnone
      exact ⟨place, [], hlocate, by simp [hnone], (Except.ok.inj h).symm⟩

/-- A text that is written is the whole file. -/
theorem exists_of_write_eq_ok (h : w.write path text = .ok saved) :
    ∃ place, w.locate path = .ok place ∧ w.find? place ≠ some .directory ∧
      saved = w.put place (.file (Text.Utf8.bytes text)) := by
  obtain ⟨place, _, hlocate, hplace, hsaved⟩ := exists_of_writeWith_eq_ok h
  exact ⟨place, hlocate, hplace, hsaved⟩

/-- A text that was written is read again. -/
theorem read_of_write (h : w.write path text = .ok saved) : saved.read path = .ok text := by
  obtain ⟨place, hlocate, hplace, rfl⟩ := exists_of_write_eq_ok h
  rw [read, locate_put hplace hlocate]
  simp only [bind, Except.bind, find?_put_self, Text.Utf8.text?_bytes]

/-- Writing one file of a directory changes no text that can be read in another. -/
theorem read_of_writeWith {directory name other : String} {content : List UInt8 → List UInt8}
    (hdirectory : directory ≠ "") (hname : IsName name) (hother : IsName other)
    (hne : name ≠ other)
    (h : w.writeWith (directory ++ ("/" ++ other)) content = .ok saved) :
    saved.read (directory ++ ("/" ++ name)) = w.read (directory ++ ("/" ++ name)) := by
  obtain ⟨_, old, hlocate, hplace, rfl⟩ := exists_of_writeWith_eq_ok h
  obtain ⟨place, hthere, hfound, rfl⟩ := (locate_in_directory hdirectory hother).1 hlocate
  have hgoal : w.locate (directory ++ ("/" ++ name)) = .ok (place ++ [name]) :=
    (locate_in_directory hdirectory hname).2 ⟨place, hthere, hfound, rfl⟩
  have hbeside : ¬place ++ [name] <+: place ++ [other] := by
    rw [List.prefix_append_right_inj]
    intro hway
    exact hne (List.cons.inj (hway.eq_of_length rfl)).1
  rw [read, read, locate_put hplace hgoal, hgoal]
  simp only [bind, Except.bind, find?_put_of_not_prefix hbeside]

/-- A file is written where nothing stood, so every other file is still there. -/
theorem find?_of_write (h : w.write path text = .ok saved) (hnew : w.exists? path = false)
    (hfound : w.find? other = some found) : saved.find? other = some found := by
  obtain ⟨place, hlocate, -, rfl⟩ := exists_of_write_eq_ok h
  have hnone : w.find? place = none := by
    rw [exists?, hlocate] at hnew
    exact Option.isNone_iff_eq_none.1 (by simpa using hnew)
  have hne : other ≠ place := by
    rintro rfl
    cases hnone.symm.trans hfound
  exact find?_put_of_ne hne hfound

end NamespaceLifecycle.Workspace
