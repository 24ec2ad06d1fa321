import Compliance.License.Fetch
import Compliance.Proofs.Submission.Commit

/-!
What is asked for when a license is fetched. Owner and name are both encoded, and nothing that is
written for them is dropped, rewritten or read as a separator, whatever they hold; so the path that
is asked for is the path that is written, unless one of them is a dot segment, which no encoding
protects.
-/

namespace Compliance

namespace Http.Url

/-- What is encoded stands in a path as it is. -/
theorem kept_percentEncode (s : String) : kept (percentEncode s).toList = percentEncode s := by
  have hplain : ∀ c ∈ (percentEncode s).toList, isWrittenOut isEscapedInPath c = false := by
    intro c hc
    rcases of_mem_percentEncode hc with rfl | hplain
    · decide
    · exact isWrittenOut_of_plain hplain
  rw [kept, escapeChars_eq_self hplain, String.ofList_toList]

theorem percentDecode_percentEncode (s : String) : percentDecode (percentEncode s) = s := by
  rw [percentDecode, percentBytes_percentEncode, Text.textOfBytes_bytesOf]

theorem withoutUser_target (u : Url) : u.withoutUser.target = u.target := by
  unfold target pathText
  rw [withoutUser_path, withoutUser_query]

end Http.Url

namespace GitHub

open Http Http.Url

/-! ### What is asked for -/

/-- Neither the owner nor the name is a dot segment. -/
def IsUndotted (r : Coordinates) : Prop :=
  (r.owner ≠ "." ∧ r.owner ≠ "..") ∧ r.name ≠ "." ∧ r.name ≠ ".."

def pathTextOf (path : List String) : String := String.join (path.map ("/" ++ ·))

/-- A URL asks for the license of a repository below a path, and for nothing else. -/
structure AsksForLicense (path : List String) (r : Coordinates) (u : Url) : Prop where
  target : u.target = pathTextOf path ++ "/repos/" ++ percentEncode r.owner ++ "/" ++
    percentEncode r.name ++ "/license"
  query : u.query = none
  fragment : u.fragment = none
  /-- Of the segments behind the path, the second and the third decode to the owner and the name. -/
  segments : ∃ owner name, u.path = .segments (path ++ ["repos", owner, name, "license"]) ∧
    percentBytes owner.toList = Text.bytesOf r.owner.toList ∧ percentDecode owner = r.owner ∧
    percentBytes name.toList = Text.bytesOf r.name.toList ∧ percentDecode name = r.name

/-- A URL has one license to ask for. -/
theorem AsksForLicense.unique {path : List String} {r r' : Coordinates} {u : Url}
    (h : AsksForLicense path r u) (h' : AsksForLicense path r' u) : r = r' := by
  obtain ⟨owner, name, hpath, -, howner, -, hname⟩ := h.segments
  obtain ⟨owner', name', hpath', -, howner', -, hname'⟩ := h'.segments
  have hsegments := Path.segments.inj (hpath.symm.trans hpath')
  simp only [List.append_cancel_left_eq, List.cons.injEq, true_and, and_true] at hsegments
  obtain ⟨rfl, rfl⟩ := hsegments
  cases r
  cases r'
  exact congrArg₂ Coordinates.mk (howner.symm.trans howner') (hname.symm.trans hname')

/-! ### What is written -/

def askingLicense (r : Coordinates) : List Char :=
  "repos".toList ++ '/' :: ((percentEncode r.owner).toList ++ '/' ::
    ((percentEncode r.name).toList ++ '/' :: "license".toList))

theorem licenseDraft_address (p : Place) (slashes : Nat) (http : Http.Client)
    (token : Option String) (r : Coordinates) :
    ((Client.make http (p.text slashes) token).licenseDraft r).address =
      String.ofList (p.base ++ '/' :: askingLicense r) := by
  show withoutSlashes (p.text slashes) ++ "/repos/" ++ percentEncode r.owner ++ "/" ++
    percentEncode r.name ++ "/license" = _
  rw [withoutSlashes_text, ← String.toList_inj]
  simp [askingLicense]

/-- The slashes at the end of the address of the interface make no difference. -/
theorem licenseDraft_slashes (p : Place) (slashes slashes' : Nat) (http : Http.Client)
    (token : Option String) (r : Coordinates) :
    (Client.make http (p.text slashes) token).licenseDraft r =
      (Client.make http (p.text slashes') token).licenseDraft r := by
  have hsame : withoutSlashes (p.text slashes) = withoutSlashes (p.text slashes') := by
    rw [withoutSlashes_text, withoutSlashes_text]
  rw [Client.make, Client.make, hsame]

/-- No part of what is written is dropped. -/
theorem unbroken_askingLicense (r : Coordinates) :
    unbroken (askingLicense r) = askingLicense r := by
  rw [askingLicense, unbroken_append, unbroken_cons (by decide), unbroken_append,
    unbroken_cons (by decide), unbroken_append, unbroken_cons (by decide), unbroken_percentEncode,
    unbroken_percentEncode]
  rfl

theorem endsVisibly_askingLicense (r : Coordinates) : EndsVisibly ('/' :: askingLicense r) := by
  refine ⟨'/' :: ("repos".toList ++ '/' :: ((percentEncode r.owner).toList ++ '/' ::
    ((percentEncode r.name).toList ++ '/' :: "licens".toList))), 'e', ?_, by decide⟩
  simp [askingLicense]

/-- No query and no fragment begins in what is written. -/
theorem isTail_askingLicense (r : Coordinates) : ∀ c ∈ askingLicense r, isTail c = false := by
  have hrepos : ∀ c ∈ "repos".toList, isTail c = false := by simp [isTail]
  have hlicense : ∀ c ∈ "license".toList, isTail c = false := by simp [isTail]
  have hslash : isTail '/' = false := by decide
  rw [askingLicense, List.forall_mem_append, List.forall_mem_cons, List.forall_mem_append,
    List.forall_mem_cons, List.forall_mem_append, List.forall_mem_cons]
  exact ⟨hrepos, hslash, isTail_percentEncode r.owner, hslash, isTail_percentEncode r.name, hslash,
    hlicense⟩

/-- What is written is cut at its own slashes only. -/
theorem pieces_askingLicense {path : List String} (hplain : ∀ s ∈ path, IsPlainSegment s)
    (r : Coordinates) :
    Text.pieces (isSlash .web) (trail path (askingLicense r)) =
      path.map String.toList ++ ["repos".toList, (percentEncode r.owner).toList,
        (percentEncode r.name).toList, "license".toList] := by
  have hrepos : Text.pieces (isSlash .web) "repos".toList = ["repos".toList] := by decide
  have hlicense : Text.pieces (isSlash .web) "license".toList = ["license".toList] := by decide
  rw [pieces_trail hplain, askingLicense, Text.pieces_append_cons (by decide),
    Text.pieces_append_cons (by decide), Text.pieces_append_cons (by decide), hrepos, hlicense,
    pieces_percentEncode, pieces_percentEncode]
  rfl

/-- All segments that are written are kept as they are. -/
theorem resolve_askingLicense {path : List String} (hplain : ∀ s ∈ path, IsPlainSegment s)
    {r : Coordinates} (h : IsUndotted r) :
    resolve .web [] (Text.pieces (isSlash .web) (trail path (askingLicense r))) =
      path ++ ["repos", percentEncode r.owner, percentEncode r.name, "license"] := by
  have hundotted : ∀ s ∈ path.map String.toList ++ ["repos".toList,
      (percentEncode r.owner).toList, (percentEncode r.name).toList, "license".toList],
      isDotted s = false := by
    rw [List.forall_mem_append, List.forall_mem_cons, List.forall_mem_cons, List.forall_mem_cons,
      List.forall_mem_singleton]
    refine ⟨fun s hs => ?_, by decide, undotted_of_revision h.1, undotted_of_revision h.2,
      by decide⟩
    obtain ⟨t, ht, rfl⟩ := List.mem_map.1 hs
    exact isDotted_of_plain (hplain t ht)
  rw [pieces_askingLicense hplain, resolve_of_undotted hundotted, List.map_append,
    map_kept_of_plain hplain]
  simp only [List.map_cons, List.map_nil, kept_percentEncode, List.nil_append]
  rfl

/-! ### The URL that is read -/

theorem asksForLicense_setPath {v : Url} (hkind : kindOf v.scheme = .web) {path : List String}
    (hplain : ∀ s ∈ path, IsPlainSegment s) {r : Coordinates} (h : IsUndotted r) :
    AsksForLicense path r (v.setPath [] (trail path (askingLicense r))) := by
  have htail : ∀ c ∈ trail path (askingLicense r), isTail c = false :=
    (isTail_trail hplain).2 (isTail_askingLicense r)
  obtain ⟨hquery, hfragment⟩ := (setPath_tail v _).2 htail
  have hall : ∀ c ∈ trail path (askingLicense r), (!isTail c) = true := fun c hc => by
    rw [htail c hc]
    rfl
  have hpath : (v.setPath [] (trail path (askingLicense r))).path =
      .segments (path ++ ["repos", percentEncode r.owner, percentEncode r.name, "license"]) := by
    rw [setPath_path hkind, List.takeWhile_eq_self_iff.2 hall, resolve_askingLicense hplain h]
  refine ⟨?_, hquery, hfragment, _, _, hpath, percentBytes_percentEncode _,
    percentDecode_percentEncode _, percentBytes_percentEncode _, percentDecode_percentEncode _⟩
  rw [target, hquery, pathText, hpath, pathTextOf, ← String.toList_inj]
  simp [String.join]

theorem AsksForLicense.withoutUser {path : List String} {r : Coordinates} {u : Url}
    (h : AsksForLicense path r u) : AsksForLicense path r u.withoutUser where
  target := u.withoutUser_target.trans h.target
  query := u.withoutUser_query.trans h.query
  fragment := u.withoutUser_fragment.trans h.fragment
  segments := by
    rw [withoutUser_path]
    exact h.segments

variable {p : Place} {slashes : Nat} {http : Http.Client} {token : Option String}
  {r : Coordinates} {u : Url}

/-- The URL of a license is one of the server of the interface, and its path is read from what the
client writes. -/
theorem exists_of_parse_license
    (h : Url.parse ((Client.make http (p.text slashes) token).licenseDraft r).address = .ok u)
    (hu : u.isHttp = true) :
    ∃ v, server p.schemeName p.authority = .ok v ∧ kindOf v.scheme = .web ∧
      u = v.setPath [] (trail p.path (askingLicense r)) := by
  rw [licenseDraft_address] at h
  obtain ⟨v, hv, hkind, rfl⟩ := Place.exists_of_parse (endsVisibly_askingLicense r) h hu
  exact ⟨v, hv, hkind, by rw [unbroken_askingLicense]⟩

/-- If the address of the interface is read as a URL, the one of a license is read as a URL of the
same server. -/
theorem parse_license_of_home {home : Url} (hhome : Url.parse (p.text 1) = .ok home)
    (hhttp : home.isHttp = true) :
    ∃ v : Url, Url.parse ((Client.make http (p.text slashes) token).licenseDraft r).address =
        .ok (v.setPath [] (trail p.path (askingLicense r))) ∧ kindOf v.scheme = .web ∧
      (v.setPath [] (trail p.path (askingLicense r))).SharesServer home := by
  rw [Place.text, List.replicate_one] at hhome
  have hend : EndsVisibly ('/' :: []) := ⟨[], '/', rfl, rfl⟩
  obtain ⟨v, hv, hkind, rfl⟩ := Place.exists_of_parse hend hhome hhttp
  have hname : kindOf p.schemeName = .web := scheme_of_server hv ▸ hkind
  refine ⟨v, ?_, hkind, (sharesServer_setPath hkind _).trans (sharesServer_setPath hkind _).symm⟩
  rw [licenseDraft_address, p.parse_append hname (endsVisibly_askingLicense r), hv,
    unbroken_askingLicense]
  rfl

/-! ### The request -/

/-- To fetch a license nothing is sent but the request for it, again and along redirects where it
has to be. -/
theorem talks_fetchLicense_of_draft (c : Client) (r : Coordinates) :
    (c.fetchLicense r).Talks fun q' =>
      ∃ q, (c.licenseDraft r).request c.http.settings = .ok q ∧ q.LeadsTo q' := by
  refine (talks_sendWithRetry_of_draft _ _).bind fun x => ?_
  cases x <;> trivial

/-- The request for a license asks for it. -/
theorem asksForLicense_of_request {q : Request} (hr : IsUndotted r)
    (h : ((Client.make http (p.text slashes) token).licenseDraft r).request http.settings = .ok q) :
    AsksForLicense p.path r q.url := by
  obtain ⟨u, hu, hhttp, hurl⟩ := url_of_request h
  obtain ⟨v, -, hkind, rfl⟩ := exists_of_parse_license hu hhttp
  rw [hurl]
  exact (asksForLicense_setPath hkind p.plain hr).withoutUser

/-- Two licenses have one URL exactly if they are those of one repository. -/
theorem parse_license_inj {u' : Url} {slashes' : Nat} {r' : Coordinates} (hr : IsUndotted r)
    (hr' : IsUndotted r') (hu : u.isHttp = true)
    (h : Url.parse ((Client.make http (p.text slashes) token).licenseDraft r).address = .ok u)
    (h' : Url.parse ((Client.make http (p.text slashes') token).licenseDraft r').address =
      .ok u') : u = u' ↔ r = r' := by
  constructor
  · rintro rfl
    obtain ⟨v, -, hkind, hv⟩ := exists_of_parse_license h hu
    obtain ⟨v', -, hkind', hv'⟩ := exists_of_parse_license h' hu
    have hasks : AsksForLicense p.path r u := hv ▸ asksForLicense_setPath hkind p.plain hr
    have hasks' : AsksForLicense p.path r' u := hv' ▸ asksForLicense_setPath hkind' p.plain hr'
    exact hasks.unique hasks'
  · rintro rfl
    rw [licenseDraft_address] at h h'
    exact Except.ok.inj (h.symm.trans h')

end GitHub

namespace License

open GitHub Http Http.Url

/-- To fetch the license of a module nothing is sent but a request that asks for the license of the
repository of the module, and what follows from it, unless the owner or the name of the repository is
a dot segment. Two modules have one URL for their licenses exactly if they have one repository, and
the slashes at the end of the address of the interface do not count. -/
theorem license_asked (p : Place) (slashes : Nat) (http : Http.Client) (token : Option String)
    (root : String) (hroot : IsUndotted (coordinatesOf root)) :
    let draft := fun slashes root =>
      (GitHub.Client.make http (p.text slashes) token).licenseDraft (coordinatesOf root)
    ((GitHub.Client.make http (p.text slashes) token).fetchLicense (coordinatesOf root)).Talks
        (fun q' => ∃ q, (draft slashes root).request http.settings = .ok q ∧ q.LeadsTo q') ∧
      (∀ home, Url.parse (p.text 1) = .ok home → home.isHttp = true →
        ∃ u, Url.parse (draft slashes root).address = .ok u ∧ u.SharesServer home ∧
          AsksForLicense p.path (coordinatesOf root) u) ∧
      (∀ q, (draft slashes root).request http.settings = .ok q →
        AsksForLicense p.path (coordinatesOf root) q.url) ∧
      (∀ slashes', draft slashes' root = draft slashes root) ∧
      ∀ slashes' root' u u', IsUndotted (coordinatesOf root') →
        Url.parse (draft slashes root).address = .ok u →
        Url.parse (draft slashes' root').address = .ok u' → u.isHttp = true →
          (u = u' ↔ coordinatesOf root = coordinatesOf root') := by
  intro draft
  refine ⟨talks_fetchLicense_of_draft _ _, fun home hhome hhttp => ?_,
    fun q hq => asksForLicense_of_request hroot hq,
    fun slashes' => licenseDraft_slashes p slashes' slashes http token _,
    fun slashes' root' u u' hroot' h h' hu => parse_license_inj hroot hroot' hu h h'⟩
  obtain ⟨v, hv, hkind, hshares⟩ := parse_license_of_home hhome hhttp
  exact ⟨_, hv, hshares, asksForLicense_setPath hkind p.plain hroot⟩

/-- An empty owner is kept, and so is a name with all that has a meaning in a URL. -/
theorem license_asked_marks :
    IsUndotted (coordinatesOf "github.com//a%?#\\b") ∧
      ∃ u, Url.parse ((GitHub.Client.make ⟨.standard⟩ (Submission.localPlace.text 0)
          none).licenseDraft (coordinatesOf "github.com//a%?#\\b")).address = .ok u ∧
        AsksForLicense [] ⟨"", "a%?#\\b"⟩ u ∧ u.target = "/repos//a%25%3F%23%5Cb/license" := by
  have hroot : IsUndotted (coordinatesOf "github.com//a%?#\\b") := by
    unfold IsUndotted
    decide +kernel
  have hread : (Url.parse (Submission.localPlace.text 1)).toOption.map Url.isHttp = some true := by
    decide +kernel
  obtain ⟨home, hhome, hhttp⟩ := Option.map_eq_some_iff.1 hread
  obtain ⟨u, hu, -, hasks⟩ :=
    (license_asked Submission.localPlace 0 ⟨.standard⟩ none "github.com//a%?#\\b" hroot).2.1 home
      (toOption_eq_some.1 hhome) hhttp
  have hcoordinates : coordinatesOf "github.com//a%?#\\b" = ⟨"", "a%?#\\b"⟩ := by decide +kernel
  refine ⟨hroot, u, hu, hcoordinates ▸ hasks, hasks.target.trans ?_⟩
  decide +kernel

end License

end Compliance
