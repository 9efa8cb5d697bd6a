import NamespaceLifecycle.Proofs.Endpoint
import NamespaceLifecycle.Proofs.Protocol
import NamespaceLifecycle.Proofs.Url.Origin

/-!
# Addresses stay at the server

The server of an endpoint is made from its scheme, its host and its port, and every address below
the server is put together as a text and read again. Nothing that the endpoint carried besides, and
nothing in a project or in a name, gets into the authority, and no query and no fragment can begin.
So every request goes to the server that the user has configured, and where project and name are
accepted there is an address. This holds for every mapping of domains to ASCII, since what came out
of it stays as it is.
-/

namespace NamespaceLifecycle

open Text Url

/-- An address at the origin of another one, with nothing but a path. -/
structure Url.IsAt (url endpoint : Url) : Prop where
  scheme_eq : url.scheme = endpoint.scheme
  host?_eq : url.host? = endpoint.host?
  effectivePort?_eq : url.effectivePort? = endpoint.effectivePort?
  no_credentials : ∃ host port, url.authority = some ⟨"", none, host, port⟩
  no_query : url.query = none
  no_fragment : url.fragment = none

/-- A text that can be a project or a name in an address. -/
structure IsAddressable (text : String) : Prop where
  ne_empty : text ≠ ""
  chars : ∀ c ∈ text.toList, c ≠ '/' ∧ c ≠ '?' ∧ c ≠ '#' ∧ c ≠ '%' ∧ c ≠ '\\' ∧
    isBlank c = false ∧ isControl c = false

theorem isRefusedInSegment_eq_false_iff {c : Char} : isRefusedInSegment c = false ↔
    c ≠ '/' ∧ c ≠ '?' ∧ c ≠ '#' ∧ c ≠ '%' ∧ c ≠ '\\' ∧ isBlank c = false ∧ isControl c = false := by
  simp [isRefusedInSegment, and_assoc]

/-- The check of segments finds no fault exactly in what can stand in an address. -/
theorem segmentFault?_eq_none_iff {what text : String} :
    segmentFault? what text = none ↔ IsAddressable text := by
  unfold segmentFault?
  constructor
  · intro h
    split at h
    · cases h
    · rename_i hne
      rw [Option.map_eq_none_iff, List.find?_eq_none] at h
      exact ⟨hne, fun c hc ↦ isRefusedInSegment_eq_false_iff.1 (eq_false_of_ne_true (h c hc))⟩
  · intro h
    rw [if_neg h.ne_empty, Option.map_eq_none_iff, List.find?_eq_none]
    intro c hc
    rw [isRefusedInSegment_eq_false_iff.2 (h.chars c hc)]
    exact Bool.false_ne_true

theorem IsAddressable.isSegment {text : String} (h : IsAddressable text) : IsSegment text :=
  isSegment_of_segmentFault? (segmentFault?_eq_none_iff.2 h : segmentFault? "" text = none)

/-! ## Addresses below a server -/

/-- The address with the given places at the host of an endpoint. -/
def Url.below (endpoint : Url) (host : Host) (places : List String) : Url :=
  ⟨endpoint.scheme, some ⟨"", none, some host, endpoint.port?⟩, .rooted places, none, none⟩

theorem Url.isAt_below {endpoint : Url} {host : Host} (hhost : endpoint.host? = some host)
    (places : List String) : (endpoint.below host places).IsAt endpoint where
  scheme_eq := rfl
  host?_eq := hhost.symm
  effectivePort?_eq := rfl
  no_credentials := ⟨_, _, rfl⟩
  no_query := rfl
  no_fragment := rfl

section

variable {domains : Domains} {given : String} {endpoint : Url} {host : Host}
  (hread : ofText domains given = .ok endpoint) (hhost : endpoint.host? = some host)

include hread hhost

/-- A text that is made of the origin of an endpoint and of segments is an address below it. -/
theorem exists_below {segments : List (List Char)} (hne : segments ≠ [])
    (hsegments : ∀ s ∈ segments, ∀ c ∈ s, isSegmentChar c = true)
    (hdrive : findDrive [] segments = (false, segments)) {text : String}
    (htext : text.toList = endpoint.scheme.toList ++ ':' :: '/' :: '/' ::
      (host.text.toList ++ (portText endpoint.port?).toList ++ slashed segments)) :
    ∃ places, ofText domains text = .ok (endpoint.below host places) := by
  obtain ⟨hscheme, hauthority⟩ := isOrigin_of_ofText hread
  exact exists_ofText_eq hne hsegments hscheme (isSettled_of_ofText hread hhost)
    (hauthority host hhost) hdrive htext

variable {server : String}
  (hserver : server.toList = endpoint.scheme.toList ++ ':' :: '/' :: '/' ::
    ((host.text.toList ++ (portText endpoint.port?).toList) ++
      slashed ["cci".toList, "kubernetes".toList]))

include hserver

theorem server?_of_server : (Endpoint.of domains server).server? = some server := by
  have hall : ["cci".toList, "kubernetes".toList].all (fun s ↦ s.all isSegmentChar) = true := by
    decide
  have hsegments : ∀ s ∈ ["cci".toList, "kubernetes".toList], ∀ c ∈ s, isSegmentChar c = true :=
    fun s hs ↦ List.all_eq_true.1 (List.all_eq_true.1 hall s hs)
  obtain ⟨places, hplaces⟩ :=
    exists_below hread hhost (List.cons_ne_nil _ _) hsegments (by decide) hserver
  have hcolon : "://".toList = [':', '/', '/'] := rfl
  have hbelow : "/cci/kubernetes".toList = slashed ["cci".toList, "kubernetes".toList] := by decide
  rw [Endpoint.of, withoutTrailing_server hserver, Endpoint.server?, hplaces]
  refine congrArg some (String.toList_inj.1 ?_)
  simp only [below, port?, String.toList_append, hcolon, hbelow, hserver, List.append_assoc,
    List.cons_append, List.nil_append, Option.bind_some]

/-- Where project and name can be in an address, there is one. -/
theorem exists_resourceUrl_eq_below {project : String} {name : Option String}
    (hproject : IsAddressable project) (hname : ∀ n, name = some n → IsAddressable n) :
    ∃ places, resourceUrl domains server project name = .ok (endpoint.below host places) := by
  have hsegments := isSegmentChar_of_isSegment hproject.isSegment fun n hn ↦ (hname n hn).isSegment
  have hne : writtenSegments project name ≠ [] :=
    List.append_ne_nil_of_right_ne_nil _ (List.cons_ne_nil _ _)
  obtain ⟨places, hplaces⟩ := exists_below hread hhost hne hsegments
    (findDrive_writtenSegments project name) (toList_resourceText hserver project name)
  have hempty : withoutTrailing '/' server ≠ "" := by
    rw [withoutTrailing_server hserver]
    rintro rfl
    simp at hserver
  have hfault : (segmentFault? "project" project <|> name.bind (segmentFault? "name")) = none := by
    rw [segmentFault?_eq_none_iff.2 hproject]
    cases name with
    | none => rfl
    | some n => exact segmentFault?_eq_none_iff.2 (hname n rfl)
  refine ⟨places, ?_⟩
  simp only [resourceUrl, if_neg hempty, hfault, hplaces]
  rfl

end

/-- Without an address the error is about the address. -/
theorem exists_urlConstruction_of_resourceUrl {domains : Domains} {server project : String}
    {name : Option String} {error : Error}
    (h : resourceUrl domains server project name = .error error) :
    ∃ reason, error = .urlConstruction (resourceText server project name) reason := by
  simp only [resourceUrl] at h
  split at h
  · cases h
    exact ⟨_, rfl⟩
  split at h
  · cases h
    exact ⟨_, rfl⟩
  split at h
  · cases h
    exact ⟨_, rfl⟩
  · cases h

/-- Project and name of an address that is built can be in one. -/
theorem isAddressable_of_resourceUrl {domains : Domains} {server project : String}
    {name : Option String} {url : Url} (h : resourceUrl domains server project name = .ok url) :
    IsAddressable project ∧ ∀ n, name = some n → IsAddressable n := by
  simp only [resourceUrl] at h
  split at h
  · cases h
  rename_i hfault
  split at hfault
  · cases hfault
  rw [Option.orElse_eq_orElse, Option.orElse_eq_or, Option.or_eq_none_iff] at hfault
  refine ⟨segmentFault?_eq_none_iff.1 hfault.1, ?_⟩
  rintro n rfl
  exact segmentFault?_eq_none_iff.1 hfault.2

/-! ## Requests -/

namespace Manager

variable {m : Manager} {s : Surroundings} {p : Progress} {requests : List Request}

theorem CreateSends.exists_url {config : State} (h : m.CreateSends config s p requests) :
    ∀ request ∈ requests, ∃ project name, m.endpoint.url project name = .ok request.url := by
  cases h with
  | nothing => exact fun request hrequest ↦ absurd hrequest List.not_mem_nil
  | submission hurl hnamed _ =>
    rw [List.forall_mem_cons]
    refine ⟨⟨_, _, hurl⟩, fun read hread ↦ ?_⟩
    obtain ⟨object, url, -, -, hinstance, hsame⟩ := hnamed (List.ne_nil_of_mem hread)
    rw [hsame read hread]
    exact ⟨_, _, hinstance⟩

theorem DeleteSends.exists_url {state : State} (h : m.DeleteSends state s p requests) :
    ∀ request ∈ requests, ∃ project name, m.endpoint.url project name = .ok request.url := by
  cases h with
  | nothing => exact fun request hrequest ↦ absurd hrequest List.not_mem_nil
  | removal _ hurl _ hreads =>
    rw [List.forall_mem_cons]
    refine ⟨⟨_, _, hurl⟩, fun read hread ↦ ?_⟩
    rw [hreads read hread]
    exact ⟨_, _, hurl⟩

theorem ReadSends.exists_url {identity? : Except Error Identity}
    (h : m.ReadSends identity? requests) :
    ∀ request ∈ requests, ∃ project name, m.endpoint.url project name = .ok request.url := by
  cases h with
  | nothing => exact fun request hrequest ↦ absurd hrequest List.not_mem_nil
  | read _ hurl =>
    intro request hrequest
    rw [List.mem_singleton.1 hrequest]
    exact ⟨_, _, hurl⟩

/-- Whatever is called, each request goes to an address of the endpoint. -/
theorem exists_url_of_perform (m : Manager) (call : Call) (s : Surroundings) (p : Progress) :
    ∀ request ∈ requestsIn (m.perform call s p).2,
      ∃ project name, m.endpoint.url project name = .ok request.url := by
  cases call with
  | create config => exact (create_sends rfl).1.exists_url
  | read state => exact (read_sends rfl).exists_url
  | delete state => exact (delete_sends rfl).1.exists_url
  | importKey key => exact (importKey_sends rfl).exists_url

end Manager

/-- What it means that an endpoint, read as an address, keeps to its server. -/
structure Endpoint.KeepsTo (e : Endpoint) (server : String) (endpoint : Url) : Prop where
  ofText_eq : ofText e.domains e.text = .ok endpoint
  /-- The server is an endpoint, and its server is the same. -/
  server?_eq : (Endpoint.of e.domains server).server? = some server
  /-- There is an address exactly for a project and a name that can be in one. -/
  exists_url_iff : ∀ project name, (∃ url, resourceUrl e.domains server project name = .ok url) ↔
    IsAddressable project ∧ ∀ n, name = some n → IsAddressable n
  /-- Without an address, that is the error. -/
  urlConstruction : ∀ project name error, resourceUrl e.domains server project name = .error error →
    ∃ reason, error = .urlConstruction (resourceText server project name) reason
  /-- Every address is at the origin of the endpoint and has nothing but a path. -/
  isAt : ∀ project name url, resourceUrl e.domains server project name = .ok url → url.IsAt endpoint
  /-- So is that of every request, whoever keeps namespaces at the endpoint. -/
  request_isAt : ∀ m : Manager, m.endpoint = e → ∀ call s p,
    ∀ request ∈ requestsIn (m.perform call s p).2, request.url.IsAt endpoint

/-- Whatever an endpoint carries besides its server, and whatever is asked for, no address and no
request leaves the server. -/
theorem Endpoint.keepsTo_server {e : Endpoint} {server : String}
    (hserver : e.server? = some server) : ∃ endpoint, e.KeepsTo server endpoint := by
  obtain ⟨endpoint, host, hread, hhost, hchars⟩ := exists_url_of_server? hserver
  have hisAt {project : String} {name : Option String} {url : Url}
      (h : resourceUrl e.domains server project name = .ok url) : url.IsAt endpoint := by
    obtain ⟨hproject, hname⟩ := isAddressable_of_resourceUrl h
    obtain ⟨places, hplaces⟩ := exists_resourceUrl_eq_below hread hhost hchars hproject hname
    obtain rfl : url = endpoint.below host places := Except.ok.inj (h.symm.trans hplaces)
    exact Url.isAt_below hhost places
  refine ⟨endpoint, hread, server?_of_server hread hhost hchars, ?_, ?_, ?_, ?_⟩
  · intro project name
    constructor
    · rintro ⟨url, h⟩
      exact isAddressable_of_resourceUrl h
    · rintro ⟨hproject, hname⟩
      obtain ⟨places, hplaces⟩ := exists_resourceUrl_eq_below hread hhost hchars hproject hname
      exact ⟨_, hplaces⟩
  · exact fun project name error h ↦ exists_urlConstruction_of_resourceUrl h
  · exact fun project name url h ↦ hisAt h
  · rintro m rfl call s p request hrequest
    obtain ⟨project, name, hurl⟩ := m.exists_url_of_perform call s p request hrequest
    rw [Endpoint.url, hserver] at hurl
    exact hisAt hurl

/-- A mapping that knows one domain with an encoded label besides the plain ones. -/
def Url.Domains.bookshop : Domains where
  toAscii? domain :=
    if domain = "bücher.example" ∨ domain = "xn--bcher-kva.example" then
      some "xn--bcher-kva.example"
    else Domains.ascii.toAscii? domain
  isName_of_toAscii? := by
    intro domain ascii h
    split at h
    · cases h
      have hall : "xn--bcher-kva.example".toList.all
          (fun c ↦ Url.isNameChar c && c.toLower == c) = true := by decide +kernel
      intro c hc
      simpa using List.all_eq_true.1 hall c hc
    · exact Domains.ascii.isName_of_toAscii? h
  toAscii?_toAscii? := by
    intro domain ascii h
    split at h
    · cases h
      rw [if_pos (.inr rfl)]
    · have hbook : ascii ≠ "bücher.example" := by
        rintro rfl
        exact absurd (Domains.ascii.isName_of_toAscii? h 'ü' (by simp)).1 (by decide)
      split
      · rename_i hknown
        rw [hknown.resolve_left hbook]
      · exact Domains.ascii.toAscii?_toAscii? h
  toAscii?_of_isPlainDomain := by
    intro domain hplain
    have hknown : ¬(domain = "bücher.example" ∨ domain = "xn--bcher-kva.example") := by
      rintro (rfl | rfl)
      · exact absurd hplain (by decide +kernel)
      · exact absurd hplain (by decide +kernel)
    rw [if_neg hknown, Domains.ascii.toAscii?_of_isPlainDomain hplain]

/-- Of an endpoint with credentials, a path, a query and a fragment only the origin is left, and a
domain with letters of another script is left in ASCII. -/
theorem Endpoint.keepsTo_server_of_credentials :
    let keeps (given server : String) : Prop :=
      let e := Endpoint.of .bookshop given
      e.server? = some server ∧ ∃ endpoint, e.KeepsTo server endpoint
    keeps "HTTPS://user:secret@[2001:DB8:0:0:0:0:0:1]:08443/tm?org=1#top//"
        "https://[2001:db8::1]:8443/cci/kubernetes" ∧
      keeps "https://user@b%C3%BCcher.example/tm?org=1#top/"
        "https://xn--bcher-kva.example/cci/kubernetes" := by
  intro keeps
  constructor
  · have hserver : (Endpoint.of .bookshop
        "HTTPS://user:secret@[2001:DB8:0:0:0:0:0:1]:08443/tm?org=1#top//").server? =
          some "https://[2001:db8::1]:8443/cci/kubernetes" := by decide +kernel
    exact ⟨hserver, keepsTo_server hserver⟩
  · have hserver : (Endpoint.of .bookshop
        "https://user@b%C3%BCcher.example/tm?org=1#top/").server? =
          some "https://xn--bcher-kva.example/cci/kubernetes" := by decide +kernel
    exact ⟨hserver, keepsTo_server hserver⟩

end NamespaceLifecycle
