import Mathlib.Control.Monad.Basic
import NamespaceLifecycle.Endpoint
import NamespaceLifecycle.Proofs.Url.Reader

/-!
# What the addresses of the service lead to

Below a server the address of a project's collection, or of a namespace in it, is a path with eight
fixed places and perhaps a ninth. The places of the project and of the name mean exactly the texts
that were asked for, unless one of these texts is a point or two. Such a text passes the check of
segments, but the path it stands in is shorter or ends with an empty place, so that the address
leads elsewhere.
-/

namespace NamespaceLifecycle

open Text Url

/-- A text that a path takes for a place already reached, or for the place above. -/
def IsPoints (text : String) : Prop := text = "." ∨ text = ".."

instance (text : String) : Decidable (IsPoints text) :=
  inferInstanceAs (Decidable (_ ∨ _))

def HasPoints (project : String) (name : Option String) : Prop :=
  IsPoints project ∨ ∃ n, name = some n ∧ IsPoints n

def baseSegments : List (List Char) :=
  ["cci", "kubernetes", "apis", apiGroup, collectionVersion, "namespaces"].map String.toList

def resourceSegments (project : List Char) (name : Option (List Char)) : List (List Char) :=
  baseSegments ++ project :: collectionName.toList :: name.toList

/-- The segments that are written for a project and a name. -/
def writtenSegments (project : String) (name : Option String) : List (List Char) :=
  resourceSegments project.toList (name.map String.toList)

/-- The path of an address has exactly the segments of a collection or of a namespace, and the
segments of the project and of the name mean the given texts. -/
def Url.Addresses (url : Url) (project : String) (name : Option String) : Prop :=
  ∃ p n, splitAt '/' url.path.text.toList = [] :: resourceSegments p n ∧
    meaning? p = some project ∧ n.map meaning? = name.map some

/-! ## Accepted segments -/

structure IsSegment (text : String) : Prop where
  isSegmentChar : ∀ c ∈ text.toList, isSegmentChar c = true
  no_escape : '%' ∉ text.toList

theorem isSegmentChar_of_not_isRefusedInSegment {c : Char} (h : isRefusedInSegment c = false) :
    isSegmentChar c = true ∧ c ≠ '%' := by
  simp only [isRefusedInSegment, Bool.or_eq_false_iff, beq_eq_false_iff_ne] at h
  obtain ⟨⟨⟨⟨⟨⟨hslash, hquery⟩, hfragment⟩, hescape⟩, hback⟩, hblank⟩, hcontrol⟩ := h
  have hcontrol : ¬c.toNat < 0x20 := by
    simp only [isControl, Bool.or_eq_false_iff, decide_eq_false_iff_not] at hcontrol
    exact hcontrol.1
  have hspace : c.toNat ≠ 0x20 := by
    intro heq
    simp [isBlank, heq] at hblank
  have hlow : 0x20 < c.toNat := by omega
  exact ⟨isSegmentChar_iff.2 ⟨hlow, hslash, hback, hquery, hfragment⟩, hescape⟩

theorem isSegment_of_segmentFault? {what text : String} (h : segmentFault? what text = none) :
    IsSegment text := by
  unfold segmentFault? at h
  split at h
  · cases h
  · rw [Option.map_eq_none_iff, List.find?_eq_none] at h
    have hchars (c : Char) (hc : c ∈ text.toList) : isSegmentChar c = true ∧ c ≠ '%' :=
      isSegmentChar_of_not_isRefusedInSegment (eq_false_of_ne_true (h c hc))
    exact ⟨fun c hc ↦ (hchars c hc).1, fun hmem ↦ (hchars '%' hmem).2 rfl⟩

theorem IsSegment.isPlain {text : String} (h : IsSegment text) (hpoints : ¬IsPoints text) :
    IsPlain text.toList := by
  rw [IsPoints, not_or] at hpoints
  apply isPlain_of_ne h.no_escape
  · intro hsingle
    exact hpoints.1 (String.toList_inj.1 hsingle)
  · intro hdouble
    exact hpoints.2 (String.toList_inj.1 hdouble)

theorem IsPoints.toList {text : String} (h : IsPoints text) :
    text.toList = ['.'] ∨ text.toList = ['.', '.'] := by
  rcases h with rfl | rfl
  · exact .inl rfl
  · exact .inr rfl

/-- Project and name of an address that is built were accepted, and its text was read. -/
theorem of_resourceUrl {domains : Domains} {server project : String} {name : Option String}
    {url : Url} (h : resourceUrl domains server project name = .ok url) :
    IsSegment project ∧ (∀ n, name = some n → IsSegment n) ∧
      ofText domains (resourceText server project name) = .ok url := by
  simp only [resourceUrl] at h
  split at h
  · cases h
  rename_i hfault
  split at h
  · cases h
  rename_i found hread
  split at h
  · cases h
  cases h
  split at hfault
  · cases hfault
  rw [Option.orElse_eq_orElse, Option.orElse_eq_or, Option.or_eq_none_iff] at hfault
  refine ⟨isSegment_of_segmentFault? hfault.1, ?_, hread⟩
  rintro n rfl
  exact isSegment_of_segmentFault? hfault.2

/-! ## The text of an address -/

/-- A server stands at the scheme, the host and the port of an endpoint, with two segments below. -/
theorem exists_url_of_server? {e : Endpoint} {server : String} (h : e.server? = some server) :
    ∃ url host, ofText e.domains e.text = .ok url ∧ url.host? = some host ∧
      server.toList = url.scheme.toList ++ ':' :: '/' :: '/' ::
        ((host.text.toList ++ (portText url.port?).toList) ++
          slashed ["cci".toList, "kubernetes".toList]) := by
  unfold Endpoint.server? at h
  split at h
  · cases h
  rename_i url hread
  obtain ⟨host, hhost, rfl⟩ := Option.map_eq_some_iff.1 h
  refine ⟨url, host, hread, hhost, ?_⟩
  have hcolon : "://".toList = [':', '/', '/'] := rfl
  have hbelow : "/cci/kubernetes".toList = slashed ["cci".toList, "kubernetes".toList] := by decide
  simp only [String.toList_append, hcolon, hbelow, List.append_assoc, List.cons_append,
    List.nil_append]

/-- A server stands at a scheme and an authority, with two segments below. -/
theorem exists_origin_of_server? {e : Endpoint} {server : String} (h : e.server? = some server) :
    ∃ scheme authority, IsSchemeText scheme ∧ IsAuthorityText authority ∧
      server.toList = scheme.toList ++ ':' :: '/' :: '/' ::
        (authority ++ slashed ["cci".toList, "kubernetes".toList]) := by
  obtain ⟨url, host, hread, hhost, hserver⟩ := exists_url_of_server? h
  obtain ⟨hscheme, hauthority⟩ := isOrigin_of_ofText hread
  exact ⟨url.scheme, host.text.toList ++ (portText url.port?).toList, hscheme,
    (hauthority host hhost).append_portText url.port?, hserver⟩

section

variable {scheme server : String} {authority : List Char}
  (hserver : server.toList = scheme.toList ++ ':' :: '/' :: '/' ::
    (authority ++ slashed ["cci".toList, "kubernetes".toList]))

include hserver

theorem withoutTrailing_server : withoutTrailing '/' server = server := by
  obtain ⟨front, hfront⟩ : ∃ front, server.toList = front ++ ['s'] := by
    have hbelow : slashed ["cci".toList, "kubernetes".toList] =
        "/cci/kubernete".toList ++ ['s'] := by decide
    refine ⟨scheme.toList ++ ':' :: '/' :: '/' :: (authority ++ "/cci/kubernete".toList), ?_⟩
    rw [hserver, hbelow]
    simp only [List.append_assoc, List.cons_append]
  apply withoutTrailing_of_getLast?
  rw [hfront, List.getLast?_concat]
  decide

/-- The text of an address puts the segments of the resource behind the authority. -/
theorem toList_resourceText (project : String) (name : Option String) :
    (resourceText server project name).toList = scheme.toList ++ ':' :: '/' :: '/' ::
      (authority ++ slashed (writtenSegments project name)) := by
  have hslash : "/".toList = ['/'] := rfl
  have hapis : "/apis/".toList = '/' :: ("apis".toList ++ ['/']) := rfl
  have hnamespaces : "/namespaces/".toList = '/' :: ("namespaces".toList ++ ['/']) := rfl
  have hname : ((name.map ("/" ++ ·)).getD "").toList =
      slashed (name.map String.toList).toList := by
    cases name with
    | none => rfl
    | some n => simp
  simp only [resourceText, withoutTrailing_server hserver, String.toList_append, hserver, hslash,
    hapis, hnamespaces, hname, writtenSegments, resourceSegments, baseSegments, slashed_cons,
    slashed_nil, List.map_cons, List.map_nil, List.append_assoc, List.cons_append, List.nil_append]

end

/-! ## The path of an address -/

theorem isSegmentChar_of_mem_baseSegments {s : List Char} (h : s ∈ baseSegments) :
    ∀ c ∈ s, isSegmentChar c = true := by
  have hall : baseSegments.all (fun s ↦ s.all isSegmentChar) = true := by decide
  exact List.all_eq_true.1 (List.all_eq_true.1 hall s h)

theorem isPlain_of_mem_baseSegments : ∀ s ∈ baseSegments, IsPlain s ∧ isDrive s = false := by
  have hall : ∀ s ∈ baseSegments,
      isSingleDot s = false ∧ isDoubleDot s = false ∧ isDrive s = false := by decide
  intro s hs
  obtain ⟨hsingle, hdouble, hdrive⟩ := hall s hs
  exact ⟨⟨hsingle, hdouble⟩, hdrive⟩

theorem isSegmentChar_of_mem_collectionName : ∀ c ∈ collectionName.toList,
    isSegmentChar c = true := by
  have hall : collectionName.toList.all isSegmentChar = true := by decide
  exact List.all_eq_true.1 hall

theorem isPlain_collectionName : IsPlain collectionName.toList := ⟨by decide, by decide⟩

theorem map_escapeSegment_baseSegments :
    (baseSegments.map escapeSegment).map String.toList = baseSegments := by
  decide

theorem toList_escapeSegment_collectionName :
    (escapeSegment collectionName.toList).toList = collectionName.toList := by
  decide

theorem mem_writtenSegments {project : String} {name : Option String} {s : List Char}
    (h : s ∈ writtenSegments project name) :
    s ∈ baseSegments ∨ s = project.toList ∨ s = collectionName.toList ∨
      ∃ n, name = some n ∧ n.toList = s := by
  simpa [writtenSegments, resourceSegments] using h

theorem isSegmentChar_of_isSegment {project : String} {name : Option String}
    (hproject : IsSegment project) (hname : ∀ n, name = some n → IsSegment n) :
    ∀ s ∈ writtenSegments project name, ∀ c ∈ s, isSegmentChar c = true := by
  intro s hs
  rcases mem_writtenSegments hs with hs | rfl | rfl | ⟨n, hn, rfl⟩
  · exact isSegmentChar_of_mem_baseSegments hs
  · exact hproject.isSegmentChar
  · exact isSegmentChar_of_mem_collectionName
  · exact (hname n hn).isSegmentChar

/-- No drive stands before the places of a resource. -/
theorem findDrive_writtenSegments (project : String) (name : Option String) :
    findDrive [] (writtenSegments project name) = (false, writtenSegments project name) := by
  apply findDrive_append_of_isPlain isPlain_of_mem_baseSegments
  apply findDrive_of_length_le
  have hbase : baseSegments.length = 6 := rfl
  have hname : (name.map String.toList).toList.length ≤ 1 := by
    cases name with
    | none => exact Nat.zero_le _
    | some n => exact Nat.le_refl _
  rw [List.nil_append, List.length_map, hbase, List.length_cons, List.length_cons]
  omega

section

variable {e : Endpoint} {server project : String} {name : Option String} {url : Url}
  (hserver : e.server? = some server) (h : resourceUrl e.domains server project name = .ok url)

include h

theorem isSegmentChar_of_mem_writtenSegments :
    ∀ s ∈ writtenSegments project name, ∀ c ∈ s, isSegmentChar c = true := by
  obtain ⟨hproject, hname, -⟩ := of_resourceUrl h
  exact isSegmentChar_of_isSegment hproject hname

theorem isPlain_of_mem_writtenSegments (hproject : ¬IsPoints project)
    (hname : ∀ n, name = some n → ¬IsPoints n) : ∀ s ∈ writtenSegments project name, IsPlain s := by
  obtain ⟨hsegment, hsegments, -⟩ := of_resourceUrl h
  intro s hs
  rcases mem_writtenSegments hs with hs | rfl | rfl | ⟨n, hn, rfl⟩
  · exact (isPlain_of_mem_baseSegments s hs).1
  · exact hsegment.isPlain hproject
  · exact isPlain_collectionName
  · exact (hsegments n hn).isPlain (hname n hn)

include hserver

/-- The path of an address is the walk along the segments of the resource; for a file the empty
places at its start are left out. -/
theorem exists_places : ∃ places : List String,
    splitAt '/' url.path.text.toList = [] :: places.map String.toList ∧
      (places = walk [] (writtenSegments project name) ∨
        places = withoutLeadingEmpty (walk [] (writtenSegments project name))) := by
  obtain ⟨scheme, authority, hscheme, hauthority, htext⟩ := exists_origin_of_server? hserver
  obtain ⟨-, -, hread⟩ := of_resourceUrl h
  have hsegments := isSegmentChar_of_mem_writtenSegments h
  have hne : writtenSegments project name ≠ [] :=
    List.append_ne_nil_of_right_ne_nil _ (List.cons_ne_nil _ _)
  have hpath := isPathOf_of_ofText hscheme hauthority hne hsegments
    (toList_resourceText htext project name) hread
  have hslash : ∀ place ∈ walk [] (writtenSegments project name), '/' ∉ place.toList := by
    intro place hplace
    rcases mem_walk hplace with hplace | rfl | ⟨s, hs, rfl⟩
    · exact absurd hplace List.not_mem_nil
    · exact List.not_mem_nil
    · apply slash_not_mem_escapeSegment
      intro hmem
      exact absurd (hsegments s hs '/' hmem) (by decide)
  rw [IsPathOf, findDrive_writtenSegments] at hpath
  rcases hpath with hpath | hpath
  · refine ⟨_, ?_, .inl rfl⟩
    rw [hpath]
    exact splitAt_text_rooted hslash
  · refine ⟨_, ?_, .inr rfl⟩
    rw [hpath]
    exact splitAt_text_rooted fun place hplace ↦ hslash place (mem_withoutLeadingEmpty hplace)

/-- Without points the path has the places that were asked for. -/
theorem addresses_of_not_isPoints (hproject : ¬IsPoints project)
    (hname : ∀ n, name = some n → ¬IsPoints n) : url.Addresses project name := by
  obtain ⟨places, hsplit, hplaces⟩ := exists_places hserver h
  obtain ⟨hsegment, hsegments, -⟩ := of_resourceUrl h
  have hcci : escapeSegment "cci".toList ≠ "" := by decide
  have hfirst : withoutLeadingEmpty ((writtenSegments project name).map escapeSegment) =
      (writtenSegments project name).map escapeSegment := withoutLeadingEmpty_of_ne hcci _
  rw [walk_of_isPlain (isPlain_of_mem_writtenSegments h hproject hname), List.nil_append] at hplaces
  rw [hfirst, or_self] at hplaces
  refine ⟨(escapeSegment project.toList).toList,
    name.map fun n ↦ (escapeSegment n.toList).toList, ?_,
    meaning?_escapeSegment hsegment.no_escape, ?_⟩
  · rw [hsplit, hplaces, writtenSegments, resourceSegments, List.map_append, List.map_append,
      map_escapeSegment_baseSegments]
    cases name with
    | none => simp [resourceSegments, toList_escapeSegment_collectionName]
    | some n => simp [resourceSegments, toList_escapeSegment_collectionName]
  · cases name with
    | none => rfl
    | some n =>
      exact congrArg some (meaning?_escapeSegment (hsegments n rfl).no_escape)

/-- Points for the project leave too few places. -/
theorem not_addresses_of_isPoints_project (hproject : IsPoints project) :
    ¬url.Addresses project name := by
  rintro ⟨p, n, hpath, -, hn⟩
  obtain ⟨places, hsplit, hplaces⟩ := exists_places hserver h
  have hwalk : places.length ≤ (walk [] (writtenSegments project name)).length := by
    rcases hplaces with rfl | rfl
    · exact Nat.le_refl _
    · exact length_withoutLeadingEmpty_le _
  have hshort : (walk [] (writtenSegments project name)).length ≤
      baseSegments.length + (collectionName.toList :: (name.map String.toList).toList).length :=
    length_walk_le_of_points hproject.toList (fun s hs ↦ (isPlain_of_mem_baseSegments s hs).1)
      (List.cons_ne_nil _ _)
  have hlength : places.length = (resourceSegments p n).length := by
    rw [hsplit, List.cons.injEq] at hpath
    rw [← hpath.2, List.length_map]
  have hname : n.toList.length = (name.map String.toList).toList.length := by
    cases n with
    | none =>
      cases name with
      | none => rfl
      | some m => cases hn
    | some raw =>
      cases name with
      | none => cases hn
      | some m => rfl
  rw [resourceSegments, List.length_append, List.length_cons, List.length_cons, hname] at hlength
  rw [List.length_cons] at hshort
  omega

/-- Points for the name leave an empty place at the end. -/
theorem not_addresses_of_isPoints_name {n : String} (hname : name = some n) (hn : IsPoints n) :
    ¬url.Addresses project name := by
  subst hname
  rintro ⟨p, part, hpath, -, hpart⟩
  obtain ⟨raw, rfl, hraw⟩ := Option.map_eq_some_iff.1 hpart
  obtain ⟨places, hsplit, hplaces⟩ := exists_places hserver h
  have hwalk : (walk [] (writtenSegments project (some n))).getLast? = some "" :=
    getLast?_walk_of_points hn.toList [] (baseSegments ++ [project.toList, collectionName.toList])
  have hlast : places.getLast? = some "" := by
    rcases hplaces with rfl | rfl
    · exact hwalk
    · rw [getLast?_withoutLeadingEmpty]
      exact hwalk
  have hempty : raw = [] := by
    have hplace : (places.map String.toList).getLast? = some [] := by
      rw [List.getLast?_map, hlast]
      rfl
    have hend : (resourceSegments p (some raw)).getLast? = some raw := by
      simp [resourceSegments]
    rw [hsplit, List.cons.injEq] at hpath
    rw [hpath.2, hend] at hplace
    exact Option.some.inj hplace
  have hmeaning : meaning? [] = some "" := by decide
  rw [hempty, hmeaning] at hraw
  rw [← Option.some.inj hraw] at hn
  exact absurd hn (by decide)

end

/-- What a path means, it means alone. -/
theorem Url.Addresses.unique {url url' : Url} {project project' : String}
    {name name' : Option String} (h : url.Addresses project name)
    (h' : url'.Addresses project' name') (hpath : url'.path = url.path) :
    project' = project ∧ name' = name := by
  obtain ⟨p, n, hsplit, hproject, hname⟩ := h
  obtain ⟨p', n', hsplit', hproject', hname'⟩ := h'
  rw [hpath, hsplit, List.cons.injEq] at hsplit'
  have hsegments := List.append_cancel_left hsplit'.2
  rw [List.cons.injEq, List.cons.injEq] at hsegments
  obtain ⟨rfl, -, hparts⟩ := hsegments
  have hn : n' = n := by
    have hhead := congrArg List.head? hparts
    rwa [Option.head?_toList, Option.head?_toList, eq_comm] at hhead
  subst hn
  refine ⟨Option.some.inj (hproject'.symm.trans hproject), ?_⟩
  rw [hname] at hname'
  exact (Option.map_inj_right fun _ _ hsome ↦ Option.some.inj hsome).1 hname'.symm

/-- An address that is built leads to exactly what was asked for, unless project or name is made of
points; and without points two different resources have different paths. -/
theorem resourceUrl_addresses_iff {e : Endpoint} {server : String}
    (hserver : e.server? = some server) {project : String} {name : Option String} {url : Url}
    (h : resourceUrl e.domains server project name = .ok url) :
    (url.Addresses project name ↔ ¬HasPoints project name) ∧
      ∀ {project' name' url'}, resourceUrl e.domains server project' name' = .ok url' →
        ¬HasPoints project name → ¬HasPoints project' name' → url'.path = url.path →
          project' = project ∧ name' = name := by
  have haddresses {project : String} {name : Option String} {url : Url}
      (h : resourceUrl e.domains server project name = .ok url)
      (hpoints : ¬HasPoints project name) :
      url.Addresses project name := by
    rw [HasPoints, not_or] at hpoints
    exact addresses_of_not_isPoints hserver h hpoints.1 fun n hname hn ↦
      hpoints.2 ⟨n, hname, hn⟩
  refine ⟨⟨?_, haddresses h⟩, ?_⟩
  · rintro hpath (hproject | ⟨n, hname, hn⟩)
    · exact not_addresses_of_isPoints_project hserver h hproject hpath
    · exact not_addresses_of_isPoints_name hserver h hname hn hpath
  · intro project' name' url' h' hpoints hpoints' hpath
    exact (haddresses h hpoints).unique (haddresses h' hpoints') hpath

/-- The name of a namespace leads to it; two points in its place lead to what is above. -/
theorem resourceUrl_addresses_iff_above :
    let e : Endpoint := ⟨"https://vcfa.example.com", .ascii⟩
    let server := "https://vcfa.example.com/cci/kubernetes"
    let url (places : List String) : Url :=
      ⟨"https", some ⟨"", none, some (.name "vcfa.example.com"), none⟩,
        .rooted (["cci", "kubernetes", "apis", "infrastructure.cci.vmware.com", "v1alpha1",
          "namespaces", "p"] ++ places), none, none⟩
    e.server? = some server ∧
    (resourceUrl e.domains server "p" (some "n") = .ok (url ["supervisornamespaces", "n"]) ∧
      (url ["supervisornamespaces", "n"]).Addresses "p" (some "n")) ∧
    (resourceUrl e.domains server "p" (some "..") = .ok (url [""]) ∧
      ¬(url [""]).Addresses "p" (some "..")) := by
  intro e server url
  have hserver : e.server? = some server := by decide +kernel
  have hname : resourceUrl e.domains server "p" (some "n") =
      .ok (url ["supervisornamespaces", "n"]) := by decide +kernel
  have habove : resourceUrl e.domains server "p" (some "..") = .ok (url [""]) := by decide +kernel
  have hpoints : IsPoints ".." := .inr rfl
  refine ⟨hserver, ⟨hname, (resourceUrl_addresses_iff hserver hname).1.2 ?_⟩, habove, ?_⟩
  · rintro (hproject | ⟨n, hn, hpoints⟩)
    · exact absurd hproject (by decide)
    · cases hn
      exact absurd hpoints (by decide)
  · intro haddresses
    exact (resourceUrl_addresses_iff hserver habove).1.1 haddresses (.inr ⟨"..", rfl, hpoints⟩)

end NamespaceLifecycle
