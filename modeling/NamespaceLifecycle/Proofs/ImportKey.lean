import NamespaceLifecycle.Proofs.Agreement

/-!
# Keys for importing

A key for importing is a project and a name with a point between them, neither of them empty and
neither with a point of its own. Nothing is escaped in it, so a colon, a percent sign or a character
beyond ASCII stands for itself. Every other key is called malformed, and nothing is sent for it.

An import sends one request, for the namespace that its key names. The text of the identity that it
yields is written in the other way, with a colon and escapes, and denotes the same namespace.
-/

namespace NamespaceLifecycle

namespace Identity

open Text

variable {key : String} {i : Identity}

/-- A key is that of a namespace: its project and its name with the one point between them. -/
structure IsKeyOf (key : String) (i : Identity) : Prop where
  key_eq : key = i.project ++ "." ++ i.name
  project_ne : i.project ≠ ""
  name_ne : i.name ≠ ""
  not_mem_project : '.' ∉ i.project.toList
  not_mem_name : '.' ∉ i.name.toList

/-- A key that is read is that of the namespace it is read as. -/
theorem isKeyOf_of_ofImportKey (h : ofImportKey key = .ok i) : IsKeyOf key i := by
  obtain ⟨hproject, hname⟩ := ne_of_ofImportKey h
  unfold ofImportKey at h
  split at h
  · rename_i project name hsides
    split at h
    · cases h
    · cases h
      obtain ⟨hkey, hprojectPoint, hnamePoint⟩ := splitAt_eq_pair_iff.1 hsides
      refine ⟨?_, hproject, hname, ?_, ?_⟩
      · rw [← String.toList_inj, hkey]
        simp
      · rwa [String.toList_ofList]
      · rwa [String.toList_ofList]
  · cases h

theorem ofImportKey_eq_ok_iff : ofImportKey key = .ok i ↔ IsKeyOf key i := by
  refine ⟨isKeyOf_of_ofImportKey, ?_⟩
  rintro ⟨rfl, hproject, hname, hprojectPoint, hnamePoint⟩
  exact ofImportKey_of_not_mem hprojectPoint hnamePoint ⟨hproject, hname⟩

theorem malformed_of_ofImportKey {error : Error} (h : ofImportKey key = .error error) :
    ∃ reason, error = .malformedIdentifier key reason := by
  unfold ofImportKey ofImportKey.malformed at h
  split at h
  · split at h
    · cases h
      exact ⟨_, rfl⟩
    · cases h
  · cases h
    exact ⟨_, rfl⟩

end Identity

namespace Manager

open Run

variable {m : Manager} {s : Surroundings} {p : Progress} {key : String} {identity : Identity}

/-- What an import that yields a view has done: one request for the namespace, and the view has the
identity of that namespace. -/
structure TakesUp (m : Manager) (identity : Identity) (view : State) (events : List Event) :
    Prop where
  request : ∃ url, m.endpoint.url identity.project (some identity.name) = .ok url ∧
    requestsIn events = [⟨.get, url, none⟩]
  identified : ∃ id, view.id = some id ∧ Identity.decode id = .ok identity

/-- How an import treats its key. -/
structure HeedsKey (m : Manager) (key : String) : Prop where
  /-- A key is read as the namespace whose key it is. -/
  accepts : ∀ identity, Identity.ofImportKey key = .ok identity ↔ identity.IsKeyOf key
  /-- A key of no namespace is called malformed, and nothing is sent. -/
  refuses : (¬∃ identity : Identity, identity.IsKeyOf key) → ∃ reason,
    Identity.ofImportKey key = .error (.malformedIdentifier key reason) ∧
      ∀ s p, m.importKey key s p = (.error (.failed (.malformedIdentifier key reason)), [])
  /-- An import that succeeds has read the namespace whose key it was given. -/
  takesUp : ∀ identity : Identity, identity.IsKeyOf key → ∀ s p view events,
    m.importKey key s p = (.ok view, events) → m.TakesUp identity view events
  /-- An import whose request is answered by an object succeeds. -/
  succeeds : ∀ identity : Identity, identity.IsKeyOf key → ∀ s p answer object,
    (m.endpoint.url identity.project (some identity.name)).isOk →
      m.endpoint.IsAnswered identity s p answer → answer.Shows object →
        ((m.importKey key s p).1).isOk

theorem takesUp_of_importKey (hkey : Identity.ofImportKey key = .ok identity) {view : State}
    {events : List Event} (h : m.importKey key s p = (.ok view, events)) :
    m.TakesUp identity view events := by
  cases importKey_run h with
  | @imported _ object id line fetched hidentity hfetch hid =>
    cases hkey.symm.trans hidentity
    obtain ⟨url, answer, hurl, hsent, -, -⟩ :=
      (fetch_follows identity "imported" hfetch).of_ok fun error _ ↦ nofun
    have hlogged : requestsIn (fetched ++ [.logged line]) = requestsIn fetched := by
      simp [Event.request?]
    exact ⟨⟨url, hurl, hlogged.trans hsent⟩, id, rfl, Identity.decode_of_encode hid⟩

/-- An import reads its key by the grammar of keys, reads the namespace that the key names, and
yields a view of that identity. -/
theorem importKey_heedsKey (m : Manager) (key : String) : m.HeedsKey key where
  accepts _ := Identity.ofImportKey_eq_ok_iff
  refuses hnone := by
    cases hkey : Identity.ofImportKey key with
    | ok identity => exact absurd ⟨identity, Identity.ofImportKey_eq_ok_iff.1 hkey⟩ hnone
    | error error =>
      obtain ⟨reason, rfl⟩ := Identity.malformed_of_ofImportKey hkey
      refine ⟨reason, rfl, fun s p ↦ ?_⟩
      rw [importKey, ofExcept_error_bind hkey, fail_run]
  takesUp identity hkey s p view events h :=
    takesUp_of_importKey (Identity.ofImportKey_eq_ok_iff.2 hkey) h
  succeeds identity hkey s p answer object haddress hanswered hobject := by
    obtain ⟨url, hurl⟩ := exists_of_isOk haddress
    obtain ⟨id, hid⟩ := Identity.exists_encode ⟨hkey.project_ne, hkey.name_ne⟩
    have hlooked : m.endpoint.looked identity answer = .ok object := by
      rw [Endpoint.looked, hurl]
      exact Endpoint.found_eq_ok_iff.2 hobject
    rw [(importKey_of_isAnswered (Identity.ofImportKey_eq_ok_iff.2 hkey) hid hanswered).1, hlooked]
    rfl

/-- A colon and a letter beyond ASCII stand as they are in a key, and escaped in the identity. -/
example :
    let m : Manager := ⟨⟨"https://vcfa.example.com", .ascii⟩, .usual, .usual⟩
    let answer : Answer := .ok (.object [])
    ((m.importKey "team:a.é" (.always answer) .start).1.toOption.bind State.id) =
      some "team%3Aa:%C3%A9" := by
  decide +kernel

end Manager

end NamespaceLifecycle
