import PhoneSignIn.Proofs.Gateway.Request
import PhoneSignIn.Proofs.Url.Directory

/-!
Requests stay below the base URL. A gateway's base URL is read from a text that ends in a slash, whatever the
text that was given (`baseText_ends`), so every call's path leads below it: to the same server and, from its
directory on, to the path of the call (`below_base`). Slashes at the end of what was given do not count
(`baseText_slashes`).
-/
namespace PhoneSignIn.RestGateway
open Http Url

variable {ν : Type} {g : RestGateway ν} {baseUrl guestToken language : String} {network : ν}

/-! ### The text of the base URL -/

/-- Slashes in a row. -/
def slashes (n : Nat) : String := String.ofList (List.replicate n '/')

/-- Slashes at the end of what was given do not count. -/
theorem baseText_slashes (s : String) (n : Nat) : baseText (s ++ slashes n) = baseText s := by
  have dropped : ∀ c ∈ List.replicate n '/', decide (c = '/') = true := fun c member =>
    decide_eq_true (List.eq_of_mem_replicate member)
  rw [baseText,slashes,String.toList_append,String.toList_ofList,List.reverse_append,List.reverse_replicate,
    List.dropWhile_append_of_pos dropped,← baseText]

theorem baseText_ends (s : String) : ['/'] <:+ (baseText s).toList := by
  rw [baseText,String.toList_ofList]
  exact List.suffix_append _ _

/-- The text has no characters but those that were given and the slash. -/
theorem baseText_absent {s : String} {c : Char} (other : c ≠ '/') (absent : c ∉ s.toList) : c ∉ (baseText s).toList := by
  rw [baseText,String.toList_ofList]
  intro member
  rcases List.mem_append.mp member with given | slash
  · exact absent (List.mem_reverse.mp ((List.dropWhile_suffix _).mem (List.mem_reverse.mp given)))
  · exact other (List.mem_singleton.mp slash)

/-- The base URL of a gateway is what is read of the text that was given, up to one slash at its end. -/
theorem new_base (accepted : new baseUrl guestToken language network = .ok g) : parse (baseText baseUrl) = .ok g.base := by
  rw [new] at accepted
  split at accepted
  · next base read =>
    cases accepted
    exact read
  · cases accepted

/-! ### Calls -/

/-- The names of a call's path. -/
def route : Call → List String
  | .authenticateDevice .. => ["1","sdk","login"]
  | .registerDevice .. => ["1.1","device","register.json"]
  | .createAccount .. | .verifyAccount _ => ["1.1","sdk","account.json"]
  | .verifyCode .. => ["auth","1","xauth_challenge.json"]
  | .verifyPin .. => ["auth","1","xauth_pin.json"]
  | .submitEmail .. => ["1.1","sdk","account","email"]

/-- Every call's path is one of plain names. -/
theorem pathOf_route (call : Call) : IsRoute (pathOf call) (route call) where
  plain := by cases call <;> rw [route] <;> decide
  read kind := by
    have marks : kind.isSlash = SchemeKind.file.isSlash ∨ kind.isSlash = SchemeKind.other.isSlash := by
      cases kind with
      | special port => exact .inl rfl
      | file => exact .inl rfl
      | other => exact .inr rfl
    rcases marks with same | same <;> rw [same] <;> cases call <;> rw [pathOf,route] <;> decide +kernel
  written := by cases call <;> rfl

/-- A request below a base URL, to the server of that URL. User name and password that the URL has authorize the request
    instead. -/
structure SentBelow (r : Request) (g : RestGateway ν) (call : Call) : Prop where
  scheme : r.url.scheme = g.base.scheme
  server : r.url.authority.map (fun a => (a.host,a.port)) = g.base.authority.map fun a => (a.host,a.port)
  credentials : r.url.authority = (takeCredentials g.base).2.authority ∧
    r.authorization = (takeCredentials g.base).1 ++ bearer (token g.guestToken call)
  path_text : r.url.path.text = g.base.directory ++ pathOf call
  query : r.url.query = (RestGateway.query call).map Form.encode
  no_fragment : r.url.fragment = none

/-- User name and password are those of the authority, and nothing else of the URL counts. -/
theorem takeCredentials_authority {url url' : Url} (same : url.authority = url'.authority) :
    (takeCredentials url).1 = (takeCredentials url').1 ∧
      (takeCredentials url).2.authority = (takeCredentials url').2.authority := by
  simp only [takeCredentials,same]
  split
  · exact ⟨rfl,same⟩
  · split_ifs
    · exact ⟨rfl,same⟩
    · exact ⟨rfl,rfl⟩

/-- Without user name and password a URL leads to the same server. -/
theorem takeCredentials_server (url : Url) : (takeCredentials url).2.authority.map (fun a => (a.host,a.port)) =
    url.authority.map fun a => (a.host,a.port) := by
  rw [takeCredentials]
  split
  · rfl
  · rename_i a username taken
    simp only
    split_ifs
    · rfl
    · obtain ⟨authority,found,decoded⟩ := Option.bind_eq_some_iff.mp taken
      obtain ⟨name,-,same⟩ := Option.map_eq_some_iff.mp decoded
      cases same
      rw [found]
      rfl

/-- A request is made at the URL that the call's path leads to. -/
theorem sent_below {call : Call} {r : Request} {u : Url} (joined : g.base.join (pathOf call) = .ok u)
    (below : u.IsBelow g.base (pathOf call)) (sent : g.request call = .ok r) : SentBelow r g call := by
  have asked := (request_parts sent).2
  obtain ⟨u',joined',rfl⟩ := request_ok sent
  cases joined.symm.trans joined'
  obtain ⟨authority,same⟩ := takeCredentials_url u
  have ⟨basic,rest⟩ := takeCredentials_authority below.authority
  have queried (url : Url) : ∃ query, withQuery call url = { url with query } := by
    rw [withQuery]
    split <;> exact ⟨_,rfl⟩
  obtain ⟨query,with_query⟩ := queried (takeCredentials u).2
  refine ⟨?_,?_,⟨?_,congrArg (· ++ _) basic⟩,?_,asked,?_⟩ <;> rw [with_query]
  · rw [same]
    exact below.scheme
  · exact (takeCredentials_server u).trans (congrArg _ below.authority)
  · exact rest
  · rw [same]
    exact below.path_text
  · rw [same]
    exact below.no_fragment

/-- Where the base URL is read from a text without marks of a query or a fragment and a path leads on from it, it is a
    directory or bare, and every call's path leads below it. -/
theorem below_base (accepted : new baseUrl guestToken language network = .ok g) (no_query : '?' ∉ baseUrl.toList)
    (no_fragment : '#' ∉ baseUrl.toList) (leads : ∀ text, g.base.path ≠ .verbatim text) :
    (g.base.path.IsDirectory ∨ g.base.IsBare) ∧
      ∀ call, ∃ u, g.base.join (pathOf call) = .ok u ∧ u.IsBelow g.base (pathOf call) := by
  obtain ⟨-,path⟩ := parse_directory (baseText_ends baseUrl) (baseText_absent (by decide) no_query)
    (baseText_absent (by decide) no_fragment) (new_base accepted)
  rcases path with ⟨text,verbatim⟩ | directory | bare
  · exact absurd verbatim (leads text)
  · refine ⟨.inl directory,fun call => ?_⟩
    obtain ⟨names,based,ends⟩ := directory
    exact join_route (pathOf_route call) based fun _ => ends
  · exact ⟨.inr bare,fun call => join_route (pathOf_route call) bare.2.2 fun some_named => absurd rfl some_named⟩

/-- For every base URL without marks of a query or a fragment that is accepted and that paths lead on from, every call's
    path leads to a URL of the same scheme, user, password, host and port, whose path is the path of the base URL and
    behind it the path of the call, and that has no query or fragment; and so does every request that is sent, which has
    the call's own query. The path of the base URL ends in a slash. It is empty, and as good as a slash, only where
    nothing but a scheme without hosts of its own and two slashes is read. Slashes at the end of what is given change
    nothing. -/
theorem requests_below_base (baseUrl guestToken language : String) (network : ν) :
    (∀ g : RestGateway ν, new baseUrl guestToken language network = .ok g →
      '?' ∉ baseUrl.toList → '#' ∉ baseUrl.toList → (∀ text, g.base.path ≠ .verbatim text) →
        ((∃ before, g.base.path.text = before ++ "/") ∨ g.base.IsBare) ∧
        ∀ call, (∃ u, g.base.join (pathOf call) = .ok u ∧ u.IsBelow g.base (pathOf call)) ∧
          ∀ r, g.request call = .ok r → SentBelow r g call) ∧
    ∀ n, new (baseUrl ++ slashes n) guestToken language network = new baseUrl guestToken language network := by
  refine ⟨?_,fun n => by simp only [new,baseText_slashes]⟩
  intro g accepted no_query no_fragment leads
  obtain ⟨path,below⟩ := below_base accepted no_query no_fragment leads
  refine ⟨path.imp_left ?_,fun call => ?_⟩
  · rintro ⟨names,based,before,rfl⟩
    exact ⟨(UrlPath.segments before).text,by rw [based,text_append]; rfl⟩
  · obtain ⟨u,joined,under⟩ := below call
    exact ⟨⟨u,joined,under⟩,fun r sent => sent_below joined under sent⟩

/-- A gateway to a base URL without a path. -/
def pathless : RestGateway Unit :=
  { base := { scheme := "foo", authority := some { host := .domain "" }, path := .segments [] },
    guestToken := "t", network := () }

/-- A tab does not count in a URL, so nothing is read here but a scheme and two slashes: the path of this base URL has
    no slash at its end, and the path that a call's leads to has one more slash before the call's. -/
theorem bare_base : new "foo:/\t" "t" "en" () = .ok pathless ∧
    ('?' ∉ "foo:/\t".toList ∧ '#' ∉ "foo:/\t".toList) ∧ (∀ text, pathless.base.path ≠ .verbatim text) ∧
    (¬ ∃ before, pathless.base.path.text = before ++ "/") ∧
    ∃ u, pathless.base.join (pathOf (.createAccount "1" "+1")) = .ok u ∧
      u.path.text ≠ pathless.base.path.text ++ pathOf (.createAccount "1" "+1") := by
  refine ⟨rfl,⟨by decide,by decide⟩,fun _ => UrlPath.noConfusion,?_,_,rfl,by decide +kernel⟩
  rintro ⟨before,same⟩
  simpa [pathless,UrlPath.text] using congrArg String.toList same

/-- A gateway below a path, with a user's name and password. -/
def versioned : RestGateway Unit :=
  { base :=
      { scheme := "https", path := .segments ["v1",""],
        authority := some { username := "u", password := some "p", host := .domain "a.example", port := some 8443 } },
    guestToken := "t", network := () }

/-- A call is made below a base URL that has no slash at its end, and the user and the password are left out. -/
theorem below_version_one : new "https://u:p@a.example:8443/v1" "t" "en" () = .ok versioned ∧
    ∃ r, versioned.request (.createAccount "1" "+1") = .ok r ∧ SentBelow r versioned (.createAccount "1" "+1") ∧
      r.url.text = "https://a.example:8443/v1/1.1/sdk/account.json" := by
  have accepted : new "https://u:p@a.example:8443/v1" "t" "en" () = .ok versioned := rfl
  obtain ⟨-,calls⟩ := (requests_below_base "https://u:p@a.example:8443/v1" "t" "en" ()).1 versioned accepted
    (by decide) (by decide) fun _ verbatim => nomatch verbatim
  have text : (versioned.request (.createAccount "1" "+1")).toOption.map (·.url.text) =
      some "https://a.example:8443/v1/1.1/sdk/account.json" := by decide +kernel
  cases sent : versioned.request (.createAccount "1" "+1") with
  | error e => rw [sent] at text; cases text
  | ok r =>
    rw [sent] at text
    exact ⟨accepted,r,rfl,(calls _).2 r sent,Option.some.inj text⟩

end PhoneSignIn.RestGateway
