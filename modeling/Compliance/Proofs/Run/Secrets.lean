import Compliance.Proofs.Http.Alike
import Compliance.Run.Submission

/-!
Secrets and the requests that carry them. Two requests are the same but for secrets if they differ
in the token that goes to GitHub, which goes to no other server, or in the three tokens of a form
that is posted. They stay so along redirects, so the jobs of both programs, given one secret or the
other, take the same steps.
-/

namespace Compliance

structure Secrets where
  github : String
  tokens : Submission.Tokens
  project : String
  deriving DecidableEq, Repr

open Http (Request Url)

/-- A URL of the server that answers for GitHub, if the interface is at an address. -/
def GitHub.IsHome (address : String) (url : Url) : Prop :=
  ∃ path home, Url.parse (withoutSlashes address ++ "/repos/" ++ path) = .ok home ∧
    url.host = home.host ∧ url.knownPort = home.knownPort

theorem GitHub.IsHome.of_eq {address : String} {u url : Url} (h : IsHome address u)
    (hhost : u.host = url.host) (hport : u.knownPort = url.knownPort) : IsHome address url := by
  obtain ⟨path, home, hparse, hhost', hport'⟩ := h
  exact ⟨path, home, hparse, hhost.symm.trans hhost', hport.symm.trans hport'⟩

namespace Secrets

def bearing (token : String) : String × String := ("authorization", "Bearer " ++ token)

variable {α : Type} {s s' : Secrets} {address : String}

/-- Two requests that differ in nothing but secrets. -/
inductive SameBut (address : String) (s s' : Secrets) : Request → Request → Prop
  | same (q : Request) : SameBut address s s' q q
  /-- GitHub is asked by the one token or the other. -/
  | asked {url : Url} (home : GitHub.IsHome address url) (before after : List (String × String))
      (patience : Duration) :
      SameBut address s s' ⟨.get, url, before ++ bearing s.github :: after, "", patience⟩
        ⟨.get, url, before ++ bearing s'.github :: after, "", patience⟩
  /-- One form or the other is posted. -/
  | posted (url : Url) (headers : List (String × String)) (libraries : List Submission.Library)
      (time : Int) (patience : Duration) :
      SameBut address s s'
        ⟨.post, url, headers,
          Http.Form.encode (Submission.form ⟨s.project, libraries⟩ s.tokens time), patience⟩
        ⟨.post, url, headers,
          Http.Form.encode (Submission.form ⟨s'.project, libraries⟩ s'.tokens time), patience⟩

theorem SameBut.url_eq {q q' : Request} (h : SameBut address s s' q q') : q.url = q'.url := by
  cases h <;> rfl

theorem filter_bearing (p : String × String → Bool) (before after : List (String × String))
    (token : String) (hp : p (bearing token) = true) :
    (before ++ bearing token :: after).filter p =
      before.filter p ++ bearing token :: after.filter p := by
  rw [List.filter_append, List.filter_cons_of_pos hp]

theorem filter_not_bearing (p : String × String → Bool) (before after : List (String × String))
    (token : String) (hp : p (bearing token) = false) :
    (before ++ bearing token :: after).filter p = before.filter p ++ after.filter p := by
  rw [List.filter_append, List.filter_cons_of_neg (by simp [hp])]

/-- A request that is sent on to another server has lost its token. -/
theorem SameBut.onward {q q' : Request} (h : SameBut address s s' q q') (status : Http.Status)
    (url : Url) : SameBut address s s' (q.onward status url) (q'.onward status url) := by
  cases h with
  | same q => exact .same _
  | @asked u home before after patience =>
    unfold Request.onward
    dsimp only
    by_cases hserver : (u.host == url.host && u.knownPort == url.knownPort) = true
    · rw [if_pos hserver, if_pos hserver]
      obtain ⟨hhost, hport⟩ := Bool.and_eq_true_iff.1 hserver
      have hhome : GitHub.IsHome address url := home.of_eq (eq_of_beq hhost) (eq_of_beq hport)
      split
      · rw [filter_bearing _ _ _ _ (by rfl), filter_bearing _ _ _ _ (by rfl)]
        exact .asked hhome _ _ _
      · exact .asked hhome _ _ _
    · rw [if_neg hserver, if_neg hserver, filter_not_bearing _ _ _ _ (by rfl),
        filter_not_bearing _ _ _ _ (by rfl)]
      exact .same _
  | posted u headers libraries time patience =>
    unfold Request.onward
    dsimp only
    split
    · exact .same _
    · exact .posted _ _ _ _ _

theorem staysAlike (address : String) (s s' : Secrets) :
    Http.StaysAlike (SameBut address s s') :=
  ⟨fun _ _ h => h.url_eq, fun _ _ status url h => h.onward status url⟩

/-! ### Drafts -/

def IsSendable (token : String) : Prop :=
  Text.isAllBlank token = false ∧ Http.isHeaderValue token = true

def SameGitHub (s s' : Secrets) (token token' : Option String) : Prop :=
  token = token' ∨ (token = some s.github ∧ token' = some s'.github ∧
    IsSendable s.github ∧ IsSendable s'.github)

theorem isSome_lookup_bearing (name : String) (before after : List (String × String))
    (token token' : String) : ((before ++ bearing token :: after).lookup name).isSome =
      ((before ++ bearing token' :: after).lookup name).isSome := by
  induction before with
  | nil =>
    rw [bearing, bearing, List.nil_append, List.nil_append, List.lookup_cons, List.lookup_cons]
    cases name == "authorization" <;> rfl
  | cons p before ih =>
    rw [List.cons_append, List.cons_append, List.lookup_cons, List.lookup_cons]
    cases name == p.1 with
    | true => rfl
    | false => exact ih

/-- Whether a header is added does not depend on the token. -/
theorem exists_withDefault (name value : String) (before after : List (String × String)) :
    ∃ rest, ∀ token, Http.withDefault name value (before ++ bearing token :: after) =
      before ++ bearing token :: rest := by
  cases hpresent : ((before ++ bearing "" :: after).lookup name).isSome with
  | true =>
    refine ⟨after, fun token => ?_⟩
    rw [Http.withDefault, isSome_lookup_bearing name before after token "", hpresent, if_pos rfl]
  | false =>
    refine ⟨after ++ [(name, value)], fun token => ?_⟩
    rw [Http.withDefault, isSome_lookup_bearing name before after token "", hpresent,
      if_neg Bool.false_ne_true, List.append_assoc, List.cons_append]

theorem exists_sentHeaders (settings : Http.Settings) (before : List (String × String)) :
    ∃ after, ∀ (method : Http.Method) (address body token : String),
      Http.Draft.sentHeaders ⟨method, address, before ++ [bearing token], body⟩ settings =
        before ++ bearing token :: after := by
  obtain ⟨first, hfirst⟩ := exists_withDefault "user-agent" settings.userAgent before []
  obtain ⟨after, hafter⟩ := exists_withDefault "accept" "*/*" before first
  refine ⟨after, fun method address body token => ?_⟩
  rw [Http.Draft.sentHeaders, hfirst token, hafter token]

theorem credentials_of_isSendable {token : String} (h : IsSendable token) (http : Http.Client)
    (address : String) : (GitHub.Client.make http address (some token)).credentials =
      [bearing token] := by
  have hkept : (some token).filter (!Text.isAllBlank ·) = some token := by
    rw [Option.filter_some, h.1]
    rfl
  rw [GitHub.Client.make, hkept]
  rfl

theorem isHeaderValue_bearing {token : String} (h : IsSendable token) :
    Http.isHeaderValue (bearing token).2 = true := by
  have htoken : token.toList.all Http.isHeaderChar = true := h.2
  rw [bearing, Http.isHeaderValue, String.toList_append, List.all_append, htoken, Bool.and_true]
  decide

theorem isHome_of_parse {path : String} {u : Url}
    (h : Url.parse (GitHub.withoutSlashes address ++ "/repos/" ++ path) = .ok u) :
    GitHub.IsHome address u.withoutUser := by
  refine ⟨path, u, h, Url.withoutUser_host u, ?_⟩
  rw [Url.knownPort, Url.knownPort, Url.withoutUser_port, Url.withoutUser_scheme]

/-- What is asked of GitHub is the same but for the token. -/
theorem madeAlike_asking {token token' : Option String} (h : SameGitHub s s' token token')
    (http : Http.Client) (path : String) (header : String × String) :
    Http.MadeAlike (SameBut address s s')
      (Http.Draft.request ⟨.get, GitHub.withoutSlashes address ++ "/repos/" ++ path,
        header :: (GitHub.Client.make http address token).credentials, ""⟩ http.settings)
      (Http.Draft.request ⟨.get, GitHub.withoutSlashes address ++ "/repos/" ++ path,
        header :: (GitHub.Client.make http address token').credentials, ""⟩ http.settings) := by
  rcases h with rfl | ⟨rfl, rfl, hsendable, hsendable'⟩
  · exact Http.madeAlike_request rfl rfl fun _ _ => .same _
  · rw [credentials_of_isSendable hsendable, credentials_of_isSendable hsendable']
    refine Http.madeAlike_request rfl ?_ fun u hu => ?_
    · show (_ && (Http.isHeaderValue _ && true)) = (_ && (Http.isHeaderValue _ && true))
      rw [isHeaderValue_bearing hsendable, isHeaderValue_bearing hsendable']
    · obtain ⟨after, hafter⟩ := exists_sentHeaders http.settings [header]
      have hasked : SameBut address s s' _ _ :=
        .asked (isHome_of_parse hu) [header] after http.settings.timeout
      rw [← hafter .get (GitHub.withoutSlashes address ++ "/repos/" ++ path) "" s.github,
        ← hafter .get (GitHub.withoutSlashes address ++ "/repos/" ++ path) "" s'.github] at hasked
      exact hasked

/-! ### Jobs -/

theorem alike_refl (j : Job α) : j.Alike (SameBut address s s') j := Job.Alike.refl .same j

section

variable {token token' : Option String} (h : SameGitHub s s' token token') (http : Http.Client)

include h

theorem alike_commitDate (repository revision : String) :
    ((GitHub.Client.make http address token).commitDate repository revision).Alike
      (SameBut address s s')
      ((GitHub.Client.make http address token').commitDate repository revision) := by
  have hdraft (t : Option String) :
      (GitHub.Client.make http address t).commitDraft repository revision =
        ⟨.get, GitHub.withoutSlashes address ++ "/repos/" ++
          (repository ++ "/commits/" ++ Http.percentEncode revision),
          ("user-agent", "esg-usa-bot_ci") ::
            (GitHub.Client.make http address t).credentials, ""⟩ := by
    rw [GitHub.Client.commitDraft, ← String.append_assoc, ← String.append_assoc]
    rfl
  unfold GitHub.Client.commitDate
  rw [hdraft token, hdraft token']
  refine (Http.alike_sendWithRetry (staysAlike address s s') http
    (madeAlike_asking h http _ _)).bind fun x => ?_
  cases x <;> exact .done _

theorem alike_fetchLicense (r : Coordinates) :
    ((GitHub.Client.make http address token).fetchLicense r).Alike (SameBut address s s')
      ((GitHub.Client.make http address token').fetchLicense r) := by
  have hdraft (t : Option String) : (GitHub.Client.make http address t).licenseDraft r =
      ⟨.get, GitHub.withoutSlashes address ++ "/repos/" ++
        (Http.percentEncode r.owner ++ "/" ++ Http.percentEncode r.name ++ "/license"),
        ("accept", "application/vnd.github.VERSION.raw") ::
          (GitHub.Client.make http address t).credentials, ""⟩ := by
    rw [GitHub.Client.licenseDraft, ← String.append_assoc, ← String.append_assoc,
      ← String.append_assoc]
    rfl
  unfold GitHub.Client.fetchLicense
  rw [hdraft token, hdraft token']
  refine (Http.alike_sendWithRetry (staysAlike address s s') http
    (madeAlike_asking h http _ _)).bind fun x => ?_
  cases x <;> exact .done _

theorem alike_libraryJob (d : Dependency) :
    (Submission.libraryJob (GitHub.Client.make http address token) d).Alike (SameBut address s s')
      (Submission.libraryJob (GitHub.Client.make http address token') d) := by
  refine Job.Alike.bind ?_ fun x => alike_refl _
  unfold Submission.resolveVersion
  split
  · exact .done _
  · split
    · exact .done _
    · exact (alike_commitDate h http _ _).bind fun x => alike_refl _

theorem alike_entryJob (store : License.Store) (policy : License.StalePolicy) (d : Dependency) :
    (License.entryJob (GitHub.Client.make http address token) store policy d).Alike
      (SameBut address s s')
      (License.entryJob (GitHub.Client.make http address token') store policy d) := by
  refine Job.Alike.bind ?_ fun outcome => alike_refl _
  exact (alike_fetchLicense h http _).bind fun x => alike_refl _

/-- The libraries are the same, or the failure. -/
theorem libraries_agree (workers : Nat) (ds : List Dependency) {w w' : World}
    (hw : w.Alike (SameBut address s s') w') : World.Agree (SameBut address s s') Eq
      (Submission.libraries (GitHub.Client.make http address token) workers ds w)
      (Submission.libraries (GitHub.Client.make http address token') workers ds w') := by
  obtain ⟨hresults, hafter⟩ :=
    Batch.run_map_agree workers (alike_libraryJob h http) (Submission.targets ds) hw
  exact ⟨congrArg Submission.collect hresults, hafter⟩

theorem fetchAll_agree (store : License.Store) (policy : License.StalePolicy) (workers : Nat)
    (ds : List Dependency) {w w' : World} (hw : w.Alike (SameBut address s s') w') :
    World.Agree (SameBut address s s') Eq
      (License.fetchAll (GitHub.Client.make http address token) store policy workers ds w)
      (License.fetchAll (GitHub.Client.make http address token') store policy workers ds w') := by
  obtain ⟨hresults, hafter⟩ :=
    Batch.run_map_agree workers (alike_entryJob h http store policy) ds hw
  exact ⟨congrArg License.Report.mk hresults, hafter⟩

end

/-- Posting one form or the other brings the same answer. -/
theorem alike_submit (http : Http.Client) (site : String) (libraries : List Submission.Library)
    (time : Int) :
    (Submission.submit http site (Submission.form ⟨s.project, libraries⟩ s.tokens time)).Alike
      (SameBut address s s')
      (Submission.submit http site (Submission.form ⟨s'.project, libraries⟩ s'.tokens time)) := by
  refine (Http.alike_send (staysAlike address s s') http ?_).bind fun x => alike_refl _
  -- The headers do not depend on the form, which is not to be compared with the other one.
  unfold Submission.draft
  refine Http.madeAlike_request rfl rfl fun u _ => ?_
  dsimp only [Http.Draft.sentHeaders]
  exact .posted _ _ _ _ _

end Secrets

end Compliance
