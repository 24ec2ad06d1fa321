import Compliance.Proofs.GitHub.Target
import Compliance.Proofs.Submission.Libraries
import Compliance.Proofs.Work.Repeated

/-!
Looking up the commit of a branch. Whatever a dependency says, the request goes to the server of the
interface; it asks for the commit of the dependency, and for nothing else, exactly if nothing in the
dependency has a meaning in a URL.
-/

namespace Compliance

namespace Http

inductive Request.LeadsTo (q : Request) : Request → Prop
  | here : q.LeadsTo q
  | onward {q' : Request} (status : Status) (url : Url) (h : q.LeadsTo q') :
      q.LeadsTo (q'.onward status url)

theorem Request.LeadsTo.isReading {q q' : Request} (h : q.LeadsTo q') (hq : IsReading q) :
    IsReading q' := by
  induction h with
  | here => exact hq
  | onward status url _ ih => exact isReading_onward _ status url ih

/-- Nothing is sent but the request of a draft, again and along redirects where it has to be. -/
theorem talks_sendWithRetry_of_draft (c : Client) (d : Draft) :
    (c.sendWithRetry d).Talks fun q' => ∃ q, d.request c.settings = .ok q ∧ q.LeadsTo q' :=
  talks_sendWithRetry (fun _ status url ⟨q, hq, hleads⟩ => ⟨q, hq, hleads.onward status url⟩)
    fun q hq => ⟨q, hq, .here⟩

end Http

namespace GitHub

open Http Http.Url

/-- A request that a client makes to look up some commit, or that follows from one. -/
def Client.Asks (c : Client) (q' : Request) : Prop :=
  ∃ repository revision q, (c.commitDraft repository revision).request c.http.settings = .ok q ∧
    q.LeadsTo q'

theorem Client.Asks.isReading {c : Client} {q' : Request} (h : c.Asks q') : IsReading q' := by
  obtain ⟨repository, revision, q, hq, hleads⟩ := h
  exact hleads.isReading (method_of_request hq).1

/-- To look up a commit nothing is sent but the request for it, again and along redirects where it
has to be. -/
theorem talks_commitDate_of_draft (c : Client) (repository revision : String) :
    (c.commitDate repository revision).Talks fun q' =>
      ∃ q, (c.commitDraft repository revision).request c.http.settings = .ok q ∧ q.LeadsTo q' := by
  refine (talks_sendWithRetry_of_draft _ _).bind fun x => ?_
  cases x <;> trivial

theorem talks_commitDate_asks (c : Client) (repository revision : String) :
    (c.commitDate repository revision).Talks c.Asks :=
  (talks_commitDate_of_draft c repository revision).mono fun _ h => ⟨repository, revision, h⟩

variable {p : Place} {slashes : Nat} {http : Http.Client} {token : Option String}
  {repository revision : String} {q : Request}

theorem commitDraft_address (p : Place) (slashes : Nat) (http : Http.Client)
    (token : Option String) (repository revision : String) :
    ((Client.make http (p.text slashes) token).commitDraft repository revision).address =
      String.ofList (p.base ++ '/' :: asking repository.toList revision) := by
  show withoutSlashes (p.text slashes) ++ "/repos/" ++ repository ++ "/commits/" ++
    percentEncode revision = _
  rw [withoutSlashes_text, ← String.toList_inj]
  simp [asking]

/-- The request for a commit is one of the server of the interface, and its path is read from what
the client writes. -/
theorem exists_of_request
    (h : ((Client.make http (p.text slashes) token).commitDraft repository revision).request
      http.settings = .ok q) :
    ∃ v, server p.schemeName p.authority = .ok v ∧ kindOf v.scheme = .web ∧
      q.url = (v.setPath [] (trail p.path
        (asking (unbroken repository.toList) revision))).withoutUser := by
  obtain ⟨u, hu, hhttp, hurl⟩ := url_of_request h
  rw [commitDraft_address] at hu
  obtain ⟨v, hv, hkind, rfl⟩ :=
    Place.exists_of_parse (endsVisibly_asking repository.toList revision) hu hhttp
  rw [unbroken_asking] at hurl
  exact ⟨v, hv, hkind, hurl⟩

/-- The address of the interface is read as a URL of the same server. -/
theorem exists_home
    (h : ((Client.make http (p.text slashes) token).commitDraft repository revision).request
      http.settings = .ok q) :
    ∃ home, Url.parse (p.text 1) = .ok home ∧ q.url.SharesServer home := by
  obtain ⟨v, hv, hkind, hurl⟩ := exists_of_request h
  have hname : kindOf p.schemeName = .web := scheme_of_server hv ▸ hkind
  have hend : EndsVisibly ('/' :: []) := ⟨[], '/', rfl, rfl⟩
  refine ⟨v.setPath [] (trail p.path (unbroken [])), ?_, ?_⟩
  · rw [Place.text, List.replicate_one, p.parse_append hname hend, hv]
    rfl
  · rw [hurl]
    exact ((sharesServer_withoutUser _).trans (sharesServer_setPath hkind _)).trans
      (sharesServer_setPath hkind _).symm

/-- The request asks for the commit exactly if nothing in its names has a meaning. -/
theorem asksFor_of_request
    (h : ((Client.make http (p.text slashes) token).commitDraft repository revision).request
      http.settings = .ok q) :
    AsksFor p.path repository revision q.url ↔ IsInert repository revision := by
  obtain ⟨v, -, hkind, hurl⟩ := exists_of_request h
  rw [hurl, asksFor_withoutUser, asksFor_iff hkind p.plain]
  refine ⟨fun ⟨htail, hnames⟩ => isInert_of_names p.plain htail hnames, fun hinert => ⟨?_, ?_⟩⟩
  · intro c hc
    have hchars := hinert.chars c ((unbroken_sublist _).mem hc)
    simp only [List.mem_cons, not_or] at hchars
    simp [isTail, hchars]
  · exact names_of_isInert p.plain hinert

end GitHub

namespace Submission

open GitHub Http Http.Url

def onBranch (repository revision branch : String) : Dependency :=
  ⟨"github.com/" ++ repository, revision, "branch " ++ branch⟩

theorem talks_resolveVersion (github : GitHub.Client) (repository revision branch : String) :
    (resolveVersion github (onBranch repository revision branch)).Talks fun q' =>
      ∃ q, (github.commitDraft repository revision).request github.http.settings = .ok q ∧
        q.LeadsTo q' := by
  have hbranch : branch? (onBranch repository revision branch).version = some branch :=
    branch?_eq_some.2 rfl
  have hrepository : repository? (onBranch repository revision branch).root = some repository :=
    repository?_eq_some.2 rfl
  unfold resolveVersion
  rw [hbranch]
  dsimp only
  rw [hrepository]
  dsimp only
  refine (talks_commitDate_of_draft github repository revision).bind fun x => ?_
  cases x <;> trivial

/-- To resolve the version of a branch nothing is sent but a request to the server of the interface,
and what follows from it. That request asks for the commit, and for nothing else, exactly if neither
the repository nor the revision holds anything that has a meaning in a URL. -/
theorem commit_asked_iff (p : Place) (slashes : Nat) (http : Http.Client) (token : Option String)
    (repository revision branch : String) :
    let github := GitHub.Client.make http (p.text slashes) token
    let draft := github.commitDraft repository revision
    (resolveVersion github (onBranch repository revision branch)).Talks
        (fun q' => ∃ q, draft.request http.settings = .ok q ∧ q.LeadsTo q') ∧
      ∀ q, draft.request http.settings = .ok q →
        (∃ home, Url.parse (p.text 1) = .ok home ∧ q.url.SharesServer home) ∧
          (AsksFor p.path repository revision q.url ↔ IsInert repository revision) := by
  intro github draft
  exact ⟨talks_resolveVersion github repository revision branch,
    fun q hq => ⟨exists_home hq, asksFor_of_request hq⟩⟩

def localPlace : Place where
  scheme := "http".toList
  authority := "[::1]".toList
  path := []
  letter := by decide
  schemeChars := List.all_eq_true.1 (by decide)
  told := by decide
  authorityChars := List.all_eq_true.1 (by decide)
  plain := nofun

/-- A question mark in a repository begins a query: a request for `foo/bar?x` asks for `foo/bar`. -/
theorem not_commit_asked_query :
    ∃ q, ((GitHub.Client.make ⟨.standard⟩ (localPlace.text 0) none).commitDraft "foo/bar?x"
        "abc123").request .standard = .ok q ∧
      q.url.path = .segments ["repos", "foo", "bar"] ∧
        q.url.query = some "x/commits/abc123" ∧
          ¬ AsksFor localPlace.path "foo/bar?x" "abc123" q.url := by
  have hread : (((GitHub.Client.make ⟨.standard⟩ (localPlace.text 0) none).commitDraft "foo/bar?x"
      "abc123").request .standard).toOption.map (fun q => (q.url.path, q.url.query)) =
        some (.segments ["repos", "foo", "bar"], some "x/commits/abc123") := by
    decide +kernel
  obtain ⟨q, hq, hparts⟩ := Option.map_eq_some_iff.1 hread
  obtain ⟨hpath, hquery⟩ := Prod.mk.inj hparts
  refine ⟨q, toOption_eq_some.1 hq, hpath, hquery, fun hasks => ?_⟩
  exact absurd (hquery.symm.trans hasks.1) nofun

end Submission

end Compliance
