import Compliance.Proofs.Run.Licenses
import Compliance.Proofs.Run.Preview
import Compliance.Proofs.Run.Secrets

/-!
Secrecy. Two runs of one program that differ in secrets are given the same answers by servers that
make no difference between them; then they print the same, note down the same, write the same files,
start the same programs and come to the same end. What they send differs in the secrets themselves,
where they belong, and in nothing else.
-/

namespace Compliance

open Secrets (SameBut)

variable {R : Http.Request → Http.Request → Prop} {s s' : Secrets}

namespace Run

/-! ### Parts of a run that know no secret -/

theorem alike_dependencies (repository : String) (c : CommandLine.Common) :
    (dependencies repository c).Alike R (dependencies repository c) := by
  refine (Action.alike_ofExcept _).bind fun command => ?_
  refine Action.Alike.bind ?_ fun location => ?_
  · refine Action.alike_get fun w w' hw => ?_
    obtain ⟨-, h, -, rfl⟩ := hw
    dsimp only
    split
    · exact Action.alike_pure _
    · exact Action.alike_fail _
  · refine (Action.alike_note _).bind fun _ => ?_
    refine (Action.alike_modifyGet fun w w' hw => hw.startProgram _).bind fun output => ?_
    cases output with
    | error fault => exact Action.alike_fail _
    | ok output => exact Action.alike_ofExcept _

theorem alike_printTable (table : Option String) :
    (printTable table).Alike R (printTable table) := by
  cases table with
  | none => exact Action.alike_pure _
  | some table => exact Action.alike_print table

theorem alike_writeJson (json path : String) :
    (writeJson json path).Alike R (writeJson json path) :=
  ((Action.alike_ofHost fun _ _ hw => hw.writeFile path json).under _).bind
    fun _ => Action.alike_print _

theorem alike_publish (v : Json.Value) (inPrint : Bool) (file : Option String) :
    (publish v inPrint file).Alike R (publish v inPrint file) := by
  have hprint : (if inPrint then Action.print ("JSON出力:\n" ++ v.pretty) else pure ()).Alike R
      (if inPrint then Action.print ("JSON出力:\n" ++ v.pretty) else pure ()) := by
    split
    · exact Action.alike_print _
    · exact Action.alike_pure _
  unfold publish
  cases file with
  | none => exact hprint
  | some path => exact (alike_writeJson _ path).bind fun _ => hprint

theorem alike_concludeLicenses (report : License.Report) :
    (concludeLicenses report).Alike R (concludeLicenses report) := by
  unfold concludeLicenses
  split
  · exact (Action.alike_print _).bind fun _ => Action.alike_pure _
  · exact (Action.alike_print _).bind fun _ => (Action.alike_note _).bind fun _ =>
      Action.alike_pure _

theorem alike_openAt (folder : String) :
    (License.Store.openAt folder).Alike R (License.Store.openAt folder) :=
  ((Action.alike_ofHost fun _ _ hw => hw.makeFolders folder).bind
    fun _ => Action.alike_pure _).under _

/-! ### Fetching licenses -/

inductive SameLicenses (s s' : Secrets) (o : CommandLine.Licenses) : CommandLine.Licenses → Prop
  | intro {token : Option String} (github : s.SameGitHub s' o.common.githubToken token) :
      SameLicenses s s' o { o with common := { o.common with githubToken := token } }

/-- The client for GitHub, by its token. -/
theorem githubClient_withToken (c : CommandLine.Common) (token : Option String) :
    githubClient { c with githubToken := token } =
      .ok (.make ⟨c.settings⟩ c.githubAddress token) := githubClient_eq _

section

variable {o o' : CommandLine.Licenses} (h : SameLicenses s s' o o')
include h

theorem alike_fetchLicenses (ds : List Dependency) :
    (fetchLicenses o ds).Alike (SameBut o.common.githubAddress s s') (fetchLicenses o' ds) := by
  obtain ⟨hgithub⟩ := h
  refine (alike_openAt o.folder).bind fun store => ?_
  dsimp only
  rw [githubClient_withToken, githubClient_eq]
  refine Action.alike_ok_bind (Action.alike_modifyGet fun w w' hw => ?_)
  exact Secrets.fetchAll_agree hgithub _ _ _ _ _ hw

theorem alike_handOut (report : License.Report) :
    (handOut o report).Alike R (handOut o' report) := by
  obtain ⟨-⟩ := h
  refine (alike_printTable _).bind fun _ => ?_
  exact (alike_publish _ _ _).bind fun _ => alike_concludeLicenses report

theorem alike_licensesFrom (ds : List Dependency) :
    (licensesFrom o ds).Alike (SameBut o.common.githubAddress s s') (licensesFrom o' ds) := by
  unfold licensesFrom
  refine (Action.alike_note _).bind fun _ => ?_
  split
  · exact (Action.alike_print _).bind fun _ => Action.alike_pure _
  · exact (alike_fetchLicenses h ds).bind fun report => alike_handOut h report

theorem alike_runLicenses :
    (runLicenses o).Alike (SameBut o.common.githubAddress s s') (runLicenses o') := by
  have hlisted : (dependencies o.repository o.common).Alike
      (SameBut o.common.githubAddress s s') (dependencies o'.repository o'.common) := by
    obtain ⟨-⟩ := h
    exact alike_dependencies _ _
  exact (Action.alike_print _).bind fun _ => hlisted.bind fun ds => alike_licensesFrom h ds

end

/-! ### Submitting -/

/-- A token that is missing in both runs, or of which each has its own secret. -/
def SameGiven (secret secret' : String) (token token' : Option String) : Prop :=
  (token.all Text.isAllBlank = true ∧ token'.all Text.isAllBlank = true) ∨
    (IsGiven token secret ∧ IsGiven token' secret')

/-- Options that are the same but for secrets. A dry run prints the token of the project, which is
no secret then. -/
inductive SameSubmission (s s' : Secrets) (o : CommandLine.Submission) :
    CommandLine.Submission → Prop
  | intro {token organisation product project : Option String}
      (github : s.SameGitHub s' o.common.githubToken token)
      (ofOrganisation :
        SameGiven s.tokens.organisation s'.tokens.organisation o.organisationToken organisation)
      (ofProduct : SameGiven s.tokens.product s'.tokens.product o.productToken product)
      (dry : o.dryRun = true → o.projectToken = project)
      (wet : o.dryRun = false → SameGiven s.project s'.project o.projectToken project) :
      SameSubmission s s' o
        { o with
          projectToken := project
          organisationToken := organisation
          productToken := product
          common := { o.common with githubToken := token } }

theorem required_of_sameGiven {secret secret' : String} {token token' : Option String}
    (h : SameGiven secret secret' token token') (name : String) :
    (∃ e, required name token = .error e ∧ required name token' = .error e) ∨
      (required name token = .ok secret ∧ required name token' = .ok secret') := by
  rcases h with ⟨hmissing, hmissing'⟩ | ⟨hgiven, hgiven'⟩
  · exact .inl ⟨_, required_of_isMissing hmissing, required_of_isMissing hmissing'⟩
  · exact .inr ⟨required_of_isGiven hgiven, required_of_isGiven hgiven'⟩

/-- The first token that is missing is the same in both runs. -/
theorem tokens_of_sameGiven {o o' : CommandLine.Submission}
    (horganisation : SameGiven s.tokens.organisation s'.tokens.organisation o.organisationToken
      o'.organisationToken)
    (hproduct : SameGiven s.tokens.product s'.tokens.product o.productToken o'.productToken)
    (hproject : SameGiven s.project s'.project o.projectToken o'.projectToken) :
    (∃ e, tokens o = .error e ∧ tokens o' = .error e) ∨
      (tokens o = .ok (s.tokens, s.project) ∧ tokens o' = .ok (s'.tokens, s'.project)) := by
  unfold tokens
  rcases required_of_sameGiven horganisation "WHITESOURCE_ORG_TOKEN" with
    ⟨e, he, he'⟩ | ⟨horg, horg'⟩
  · rw [he, he']
    exact .inl ⟨e, rfl, rfl⟩
  rw [horg, horg']
  rcases required_of_sameGiven hproduct "WHITESOURCE_PRODUCT_TOKEN" with
    ⟨e, he, he'⟩ | ⟨hprod, hprod'⟩
  · rw [he, he']
    exact .inl ⟨e, rfl, rfl⟩
  rw [hprod, hprod']
  rcases required_of_sameGiven hproject "WHITESOURCE_PROJECT_TOKEN" with
    ⟨e, he, he'⟩ | ⟨hproj, hproj'⟩
  · rw [he, he']
    exact .inl ⟨e, rfl, rfl⟩
  rw [hproj, hproj']
  exact .inr ⟨rfl, rfl⟩

theorem alike_post {o o' : CommandLine.Submission} (address : String)
    (hsettings : o'.common.settings = o.common.settings) (haddress : o'.address = o.address)
    (htokens : (∃ e, tokens o = .error e ∧ tokens o' = .error e) ∨
      (tokens o = .ok (s.tokens, s.project) ∧ tokens o' = .ok (s'.tokens, s'.project)))
    (ls : List Submission.Library) :
    (post o ls).Alike (SameBut address s s') (post o' ls) := by
  unfold post
  rcases htokens with ⟨e, he, he'⟩ | ⟨hgiven, hgiven'⟩
  · rw [he, he']
    exact Action.alike_error_bind e _ _
  · rw [hgiven, hgiven', hsettings, haddress, httpClient_settings]
    refine Action.alike_ok_bind ?_
    refine (Action.alike_print _).bind fun _ => (Action.alike_print _).bind fun _ => ?_
    refine Action.alike_get fun w w' hw => ?_
    rw [hw.clock_eq]
    refine (Action.alike_ofExcept _).bind fun client => ?_
    refine (Action.alike_tryJob (Secrets.alike_submit _ _ _ _)).bind fun answer => ?_
    refine (Action.alike_print _).bind fun _ => ?_
    split
    · exact Action.alike_pure _
    · exact Action.alike_fail _

section

variable {o o' : CommandLine.Submission} (h : SameSubmission s s' o o')
include h

theorem alike_submissionFrom (ds : List Dependency) :
    (submissionFrom o ds).Alike (SameBut o.common.githubAddress s s') (submissionFrom o' ds) := by
  obtain ⟨hgithub, horganisation, hproduct, hdry, hwet⟩ := h
  unfold submissionFrom
  split
  · exact (Action.alike_print _).bind fun _ => Action.alike_pure _
  · dsimp only
    rw [githubClient_withToken, githubClient_eq]
    refine Action.alike_ok_bind ?_
    refine Action.Alike.bind (Action.alike_modifyGet fun w w' hw => ?_) fun found => ?_
    · exact Secrets.libraries_agree hgithub _ _ _ hw
    refine (Action.alike_ofExcept found).bind fun ls => (alike_printTable _).bind fun _ => ?_
    cases hkind : o.dryRun with
    | true =>
      obtain rfl := hdry hkind
      exact (Action.alike_print _).bind fun _ => (Action.alike_print _).bind fun _ =>
        Action.alike_pure _
    | false =>
      rw [if_neg Bool.false_ne_true, if_neg Bool.false_ne_true]
      apply alike_post
      · rfl
      · rfl
      · exact tokens_of_sameGiven horganisation hproduct (hwet hkind)

theorem alike_runSubmission :
    (runSubmission o).Alike (SameBut o.common.githubAddress s s') (runSubmission o') := by
  have hlisted : (dependencies o.repository o.common).Alike
      (SameBut o.common.githubAddress s s') (dependencies o'.repository o'.common) := by
    obtain ⟨-⟩ := h
    exact alike_dependencies _ _
  exact (Action.alike_print _).bind fun _ => hlisted.bind fun ds => alike_submissionFrom h ds

end

/-! ### Two runs -/

structure Indistinguishable (R : Http.Request → Http.Request → Prop)
    (r r' : Except Failure Status × World) : Prop where
  result : r.1 = r'.1
  printed : r.2.printed = r'.2.printed
  notices : r.2.notices = r'.2.notices
  tree : r.2.tree = r'.2.tree
  starts : r.2.starts = r'.2.starts
  pauses : r.2.pauses = r'.2.pauses
  requests : r.2.history.Alike R r'.2.history

theorem indistinguishable_of_agree {r r' : Except Failure Status × World}
    (h : World.Agree R Eq r r') : Indistinguishable R r r' := by
  obtain ⟨u, v⟩ := r
  obtain ⟨u', v'⟩ := r'
  obtain ⟨hresult, -, history, hhistory, hafter⟩ := h
  obtain rfl : v' = { v with history := history } := hafter
  exact ⟨hresult, rfl, rfl, rfl, rfl, rfl, hhistory⟩

theorem alike_self (address : String) (s s' : Secrets) {w : World}
    (h : w.network.IsBlind (SameBut address s s')) : w.Alike (SameBut address s s') w :=
  ⟨h, w.history, List.forall₂_same.2 fun _ _ => ⟨.same _, rfl⟩, rfl⟩

/-- If the network makes no difference between requests that differ in secrets alone, then two runs
with different secrets cannot be told apart but by what they send, and there by the secrets alone:
by the token with which GitHub is asked, or by those in the form. -/
theorem runs_indistinguishable (s s' : Secrets) (w : World) :
    (∀ o o' : CommandLine.Licenses, SameLicenses s s' o o' →
      w.network.IsBlind (SameBut o.common.githubAddress s s') →
        Indistinguishable (SameBut o.common.githubAddress s s') ((runLicenses o).run w)
          ((runLicenses o').run w)) ∧
    ∀ o o' : CommandLine.Submission, SameSubmission s s' o o' →
      w.network.IsBlind (SameBut o.common.githubAddress s s') →
        Indistinguishable (SameBut o.common.githubAddress s s') ((runSubmission o).run w)
          ((runSubmission o').run w) := by
  refine ⟨fun o o' h hblind => ?_, fun o o' h hblind => ?_⟩
  · exact indistinguishable_of_agree (alike_runLicenses h w w (alike_self _ s s' hblind))
  · exact indistinguishable_of_agree (alike_runSubmission h w w (alike_self _ s s' hblind))

def ours : Secrets := ⟨"g", ⟨"o", "q"⟩, "p"⟩

def theirs : Secrets := ⟨"h", ⟨"r", "s"⟩, "t"⟩

def entrusted (s : Secrets) : CommandLine.Submission :=
  { complete with
    projectToken := some s.project
    organisationToken := some s.tokens.organisation
    productToken := some s.tokens.product
    common := { complete.common with githubToken := some s.github } }

def authorised (s : Secrets) : CommandLine.Licenses :=
  { forgiving with common := { forgiving.common with githubToken := some s.github } }

theorem sameGitHub_ours :
    ours.SameGitHub theirs (some ours.github) (some theirs.github) :=
  .inr ⟨rfl, rfl, ⟨by decide, by decide⟩, by decide, by decide⟩

/-- The commit is asked for and the form is posted with the secrets of either owner, and nothing
else is different. -/
theorem runs_indistinguishable_owners :
    Indistinguishable (SameBut "http://[::1]" ours theirs)
        ((runLicenses (authorised ours)).run committing)
        ((runLicenses (authorised theirs)).run committing) ∧
      Indistinguishable (SameBut "http://[::1]" ours theirs)
        ((runSubmission (entrusted ours)).run committing)
        ((runSubmission (entrusted theirs)).run committing) ∧
      ((runSubmission (entrusted ours)).run committing).2.history.length = 2 ∧
      ((runSubmission (entrusted ours)).run committing).2.history ≠
        ((runSubmission (entrusted theirs)).run committing).2.history := by
  have hblind : committing.network.IsBlind (SameBut "http://[::1]" ours theirs) :=
    fun _ _ _ _ _ _ => rfl
  have hlicenses : SameLicenses ours theirs (authorised ours) (authorised theirs) :=
    .intro sameGitHub_ours
  have hsubmission : SameSubmission ours theirs (entrusted ours) (entrusted theirs) :=
    .intro sameGitHub_ours (.inr ⟨⟨rfl, by decide⟩, rfl, by decide⟩)
      (.inr ⟨⟨rfl, by decide⟩, rfl, by decide⟩) nofun
      fun _ => .inr ⟨⟨rfl, by decide⟩, rfl, by decide⟩
  obtain ⟨hfetching, hsubmitting⟩ := runs_indistinguishable ours theirs committing
  exact ⟨hfetching _ _ hlicenses hblind, hsubmitting _ _ hsubmission hblind, by decide +kernel,
    by decide +kernel⟩

end Run

end Compliance
