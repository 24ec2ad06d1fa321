import Compliance.Proofs.Submission.Libraries
import Compliance.Proofs.Work.Action
import Compliance.Run.Submission

/-!
What a run of the submission sends. Until all is ready only questions are asked; then one form is
posted, once, and what comes back decides how the run ends.
-/

namespace Compliance.Run

open Submission (Library Tokens)

/-! ### The way to the libraries -/

theorem httpClient_settings (c : CommandLine.Common) : httpClient c.settings = .ok ⟨c.settings⟩ := by
  have hname : Http.isHeaderValue c.settings.userAgent = true := by
    show Http.isHeaderValue "esg-usa-bot" = true
    decide
  rw [httpClient, Http.Client.make, if_pos hname]
  rfl

def asker (c : CommandLine.Common) : GitHub.Client :=
  .make ⟨c.settings⟩ c.githubAddress c.githubToken

theorem githubClient_eq (c : CommandLine.Common) : githubClient c = .ok (asker c) := by
  rw [githubClient, httpClient_settings]
  rfl

def begun (w : World) : World :=
  w.print "> Gopkg.lockをWhiteSource APIのペイロードに変換します..."

/-- The run has the libraries: the manifest was read, it lists more than the module of system calls,
and every version was resolved. `v` is the world that this leaves. -/
def Prepares (o : CommandLine.Submission) (w : World) (ls : List Library) (v : World) : Prop :=
  ∃ ds u, (dependencies o.repository o.common).run (begun w) = (.ok ds, u) ∧
    Submission.targets ds ≠ [] ∧
    Submission.libraries (asker o.common) o.common.workers ds u = (.ok ls, v)

def IsGiven (token : Option String) (value : String) : Prop :=
  token = some value ∧ Text.isAllBlank value = false

/-- All that it takes to submit: the libraries, no dry run, and three tokens. -/
structure Ready (o : CommandLine.Submission) (w : World) (ls : List Library) (v : World)
    (tokens : Tokens) (project : String) : Prop where
  prepared : Prepares o w ls v
  wet : o.dryRun = false
  organisation : IsGiven o.organisationToken tokens.organisation
  product : IsGiven o.productToken tokens.product
  project : IsGiven o.projectToken project

def firstMissing? (o : CommandLine.Submission) : Option String :=
  ([("WHITESOURCE_ORG_TOKEN", o.organisationToken), ("WHITESOURCE_PRODUCT_TOKEN", o.productToken),
    ("WHITESOURCE_PROJECT_TOKEN", o.projectToken)].find? (·.2.all Text.isAllBlank)).map (·.1)

theorem required_of_isGiven {name : String} {token : Option String} {value : String}
    (h : IsGiven token value) : required name token = .ok value := by
  obtain ⟨rfl, hblank⟩ := h
  simp [required, Option.filter, hblank]

theorem required_of_isMissing {name : String} {token : Option String}
    (h : token.all Text.isAllBlank = true) :
    required name token = .error (.of (.settingMissing name)) := by
  cases token with
  | none => rfl
  | some v =>
    have hblank : Text.isAllBlank v = true := h
    simp [required, Option.filter, hblank]

theorem exists_isGiven {token : Option String} (h : token.all Text.isAllBlank = false) :
    ∃ value, IsGiven token value := by
  cases token with
  | none => cases h
  | some v => exact ⟨v, rfl, h⟩

/-- The first token that is missing is the one that is complained about. -/
theorem tokens_of_firstMissing? {o : CommandLine.Submission} {name : String}
    (h : firstMissing? o = some name) : tokens o = .error (.of (.settingMissing name)) := by
  unfold firstMissing? at h
  unfold tokens
  cases horg : o.organisationToken.all Text.isAllBlank with
  | true =>
    obtain rfl : "WHITESOURCE_ORG_TOKEN" = name := by simpa [List.find?, horg] using h
    rw [required_of_isMissing horg]
    rfl
  | false =>
    obtain ⟨organisation, hgiven⟩ := exists_isGiven horg
    rw [required_of_isGiven hgiven]
    cases hprod : o.productToken.all Text.isAllBlank with
    | true =>
      obtain rfl : "WHITESOURCE_PRODUCT_TOKEN" = name := by simpa [List.find?, horg, hprod] using h
      rw [required_of_isMissing hprod]
      rfl
    | false =>
      obtain ⟨product, hgiven'⟩ := exists_isGiven hprod
      rw [required_of_isGiven hgiven']
      cases hproj : o.projectToken.all Text.isAllBlank with
      | true =>
        obtain rfl : "WHITESOURCE_PROJECT_TOKEN" = name := by
          simpa [List.find?, horg, hprod, hproj] using h
        rw [required_of_isMissing hproj]
        rfl
      | false => simp [List.find?, horg, hprod, hproj] at h

theorem exists_given_of_firstMissing? {o : CommandLine.Submission} (h : firstMissing? o = none) :
    ∃ tokens : Tokens, ∃ project, IsGiven o.organisationToken tokens.organisation ∧
      IsGiven o.productToken tokens.product ∧ IsGiven o.projectToken project := by
  have hall : ∀ p ∈ [("WHITESOURCE_ORG_TOKEN", o.organisationToken),
      ("WHITESOURCE_PRODUCT_TOKEN", o.productToken),
      ("WHITESOURCE_PROJECT_TOKEN", o.projectToken)], p.2.all Text.isAllBlank = false := by
    simpa [firstMissing?, List.find?_eq_none] using h
  obtain ⟨organisation, horg⟩ := exists_isGiven (hall _ List.mem_cons_self)
  obtain ⟨product, hprod⟩ :=
    exists_isGiven (hall _ (List.mem_cons_of_mem _ List.mem_cons_self))
  obtain ⟨project, hproj⟩ :=
    exists_isGiven (hall _ (List.mem_cons_of_mem _ (List.mem_cons_of_mem _ List.mem_cons_self)))
  exact ⟨⟨organisation, product⟩, project, horg, hprod, hproj⟩

theorem tokens_of_isGiven {o : CommandLine.Submission} {tokens : Tokens} {project : String}
    (horganisation : IsGiven o.organisationToken tokens.organisation)
    (hproduct : IsGiven o.productToken tokens.product)
    (hproject : IsGiven o.projectToken project) : Run.tokens o = .ok (tokens, project) := by
  unfold Run.tokens
  rw [required_of_isGiven horganisation, required_of_isGiven hproduct,
    required_of_isGiven hproject]
  rfl

theorem Ready.tokens_eq {o : CommandLine.Submission} {w v : World} {ls : List Library}
    {tokens : Tokens} {project : String} (h : Ready o w ls v tokens project) :
    Run.tokens o = .ok (tokens, project) :=
  tokens_of_isGiven h.organisation h.product h.project

/-! ### The one form -/

def answerOf (address : String) : Http.Outcome → Except Failure Submission.Answer
  | .error e => .error ⟨["WhiteSourceへの送信に失敗しました: " ++ address], .http e⟩
  | .ok response =>
    match response.text with
    | .error e => .error ⟨["WhiteSourceのレスポンス読み込みに失敗しました"], .http e⟩
    | .ok text =>
      match Submission.readAnswer text with
      | .error e => .error (.of (.answerMalformed e))
      | .ok body => .ok ⟨response.status, body⟩

def verdict (answer : Submission.Answer) : Except Failure Status :=
  if answer.status.isSuccess then .ok .success else .error (.of (.rejected answer.status))

/-- There is an answer if one came back, its body arrived, and it can be read. -/
theorem answerOf_eq_ok {address : String} {x : Http.Outcome} {answer : Submission.Answer} :
    answerOf address x = .ok answer ↔ ∃ response text body, x = .ok response ∧
      response.text = .ok text ∧ Submission.readAnswer text = .ok body ∧
        answer = ⟨response.status, body⟩ := by
  constructor
  · intro h
    unfold answerOf at h
    split at h
    · cases h
    · rename_i response
      split at h
      · cases h
      · rename_i text htext
        split at h
        · cases h
        · rename_i body hbody
          exact ⟨response, text, body, rfl, htext, hbody, (Except.ok.inj h).symm⟩
  · rintro ⟨response, text, body, rfl, htext, hbody, rfl⟩
    simp only [answerOf, htext, hbody]

theorem verdict_eq_success {answer : Submission.Answer} :
    verdict answer = .ok .success ↔ answer.status.isSuccess = true := by
  unfold verdict
  cases answer.status.isSuccess with
  | true => simp
  | false => simp

/-- The run is a success only by an answer of a good status whose body can be read. -/
theorem bind_verdict_eq_success {address : String} {x : Http.Outcome} :
    (answerOf address x).bind verdict = .ok .success ↔
      ∃ response text body, x = .ok response ∧ response.text = .ok text ∧
        Submission.readAnswer text = .ok body ∧ response.status.isSuccess = true := by
  constructor
  · intro h
    obtain ⟨answer, hanswer, hverdict⟩ := bind_eq_ok.1 h
    obtain ⟨response, text, body, hx, htext, hbody, rfl⟩ := answerOf_eq_ok.1 hanswer
    exact ⟨response, text, body, hx, htext, hbody, verdict_eq_success.1 hverdict⟩
  · rintro ⟨response, text, body, hx, htext, hbody, hstatus⟩
    have hanswer : answerOf address x = .ok ⟨response.status, body⟩ :=
      answerOf_eq_ok.2 ⟨response, text, body, hx, htext, hbody, rfl⟩
    exact bind_eq_ok.2 ⟨_, hanswer, verdict_eq_success.2 hstatus⟩

/-- Posting a form is sending it once. -/
theorem ends_submit {client : Http.Client} {address : String} {form : List (String × String)}
    {es : List Event} {answer : Except Failure Submission.Answer}
    (h : (Submission.submit client address form).Ends es answer) :
    ∃ sent x, (client.send (Submission.draft address form)).Ends sent x ∧
      Event.exchanges es = Event.exchanges sent ∧ answer = answerOf address x := by
  obtain ⟨sent, x, rest, rfl, hsent, hrest⟩ := Job.ends_bind.1 h
  refine ⟨sent, x, hsent, ?_⟩
  cases x with
  | error e =>
    obtain ⟨rfl, rfl⟩ := Job.ends_done.1 hrest
    exact ⟨by simp, rfl⟩
  | ok response =>
    cases htext : response.text with
    | error e =>
      simp only [htext] at hrest
      obtain ⟨rfl, rfl⟩ := Job.ends_done.1 hrest
      exact ⟨by simp, by simp only [answerOf, htext]⟩
    | ok text =>
      cases hbody : Submission.readAnswer text with
      | error e =>
        simp only [htext, hbody] at hrest
        obtain ⟨_, rfl, hdone⟩ := Job.ends_note.1 hrest
        obtain ⟨rfl, rfl⟩ := Job.ends_done.1 hdone
        exact ⟨by simp [Event.exchanges, Event.exchange?], by simp only [answerOf, htext, hbody]⟩
      | ok body =>
        simp only [htext, hbody] at hrest
        obtain ⟨rfl, rfl⟩ := Job.ends_done.1 hrest
        exact ⟨by simp, by simp only [answerOf, htext, hbody]⟩

theorem run_post_of_missing {o : CommandLine.Submission} {name : String} (ls : List Library)
    (h : firstMissing? o = some name) (w : World) :
    (post o ls).run w = (.error (.of (.settingMissing name)), w) := by
  unfold post
  rw [Action.run_bind, Action.run_ofExcept, tokens_of_firstMissing? h]

/-- With its tokens the run makes one attempt and ends by what comes of it. -/
theorem run_post {o : CommandLine.Submission} {tokens : Tokens} {project : String}
    (ls : List Library) (h : Run.tokens o = .ok (tokens, project)) (w : World) :
    ∃ es x, Http.Attempt o.common.settings
        (Submission.draft o.address (Submission.form ⟨project, ls⟩ tokens w.clock)) es x ∧
      ((post o ls).run w).1 = (answerOf o.address x).bind verdict ∧
      ((post o ls).run w).2.history = w.history ++ Event.exchanges es := by
  -- The form is made after two lines were printed, which changes neither clock nor history.
  obtain ⟨w', hw'⟩ : ∃ w', w' = (w.print "").print "> WhiteSourceへ依存関係を送信中..." :=
    ⟨_, rfl⟩
  have hclock : w'.clock = w.clock := by rw [hw']; rfl
  have hbefore : w'.history = w.history := by rw [hw']; rfl
  let job := Submission.submit ⟨o.common.settings⟩ o.address
    (Submission.form ⟨project, ls⟩ tokens w.clock)
  obtain ⟨es, hes, _, hafter⟩ := job.run_ends w'
  obtain ⟨sent, x, hsent, hexchanges, hanswer⟩ := ends_submit hes
  have hhistory : (job.run w').2.history = w.history ++ Event.exchanges sent := by
    rw [← hafter, World.history_afterAll, hexchanges, hbefore]
  have hrun : (post o ls).run w = match job.run w' with
      | (.ok answer, u) => (verdict answer, u.print answer.body.pretty)
      | (.error failure, u) => (.error failure, u) := by
    unfold post
    rw [Action.run_bind, Action.run_ofExcept, h]
    simp only [Action.run_bind, Action.run_print, Action.run_get, httpClient_settings,
      Action.run_ofExcept, Action.run_tryJob, ← hw', hclock]
    cases job.run w' with
    | mk answer u =>
      cases answer with
      | error failure => rfl
      | ok answer =>
        simp only [verdict]
        split <;> rfl
  refine ⟨sent, x, Http.attempt_of_ends hsent, ?_, ?_⟩
  · rw [hrun, ← hanswer]
    cases job.run w' with
    | mk answer u => cases answer <;> rfl
  · rw [hrun, ← hhistory]
    cases job.run w' with
    | mk answer u => cases answer <;> rfl

/-! ### The whole run -/

theorem isSilent_dependencies (repository : String) (c : CommandLine.Common) :
    (dependencies repository c).IsSilent := by
  refine (Action.isSilent_ofExcept _).bind fun command => ?_
  refine Action.IsSilent.bind ?_ fun location => ?_
  · refine Action.isSilent_get.bind fun w => ?_
    split
    · exact Action.isSilent_pure _
    · exact Action.isSilent_fail _
  · refine (Action.isSilent_note _).bind fun _ => ?_
    refine (Action.isSilent_startProgram _).bind fun output => ?_
    cases output with
    | error fault => exact Action.isSilent_fail _
    | ok output => exact Action.isSilent_ofExcept _

def tabled (ls : List Library) (w : World) : World := (Library.table? ls).elim w w.print

theorem run_printTable (ls : List Library) (w : World) :
    (printTable (Library.table? ls)).run w = (.ok (), tabled ls w) := by
  unfold tabled
  cases Library.table? ls <;> rfl

theorem history_tabled (ls : List Library) (w : World) : (tabled ls w).history = w.history := by
  unfold tabled
  cases Library.table? ls <;> rfl

theorem clock_tabled (ls : List Library) (w : World) : (tabled ls w).clock = w.clock := by
  unfold tabled
  cases Library.table? ls <;> rfl

section

variable {o : CommandLine.Submission} {w : World}

theorem run_of_unlisted {failure : Failure} {u : World}
    (h : (dependencies o.repository o.common).run (begun w) = (.error failure, u)) :
    (runSubmission o).run w = (.error failure, u) := by
  have hbegun : (Action.print _).run w = (.ok (), begun w) := rfl
  unfold runSubmission
  rw [Action.run_bind_ok hbegun, Action.run_bind_error h]

theorem run_of_nothing {ds : List Dependency} {u : World}
    (h : (dependencies o.repository o.common).run (begun w) = (.ok ds, u))
    (hnone : Submission.targets ds = []) :
    (runSubmission o).run w = (.ok .success, u.print nothingToDo) := by
  have hbegun : (Action.print _).run w = (.ok (), begun w) := rfl
  unfold runSubmission
  rw [Action.run_bind_ok hbegun, Action.run_bind_ok h, submissionFrom, hnone]
  rfl

/-- From the libraries on. -/
theorem run_of_libraries {ds : List Dependency} {u v : World}
    {result : Except Failure (List Library)}
    (h : (dependencies o.repository o.common).run (begun w) = (.ok ds, u))
    (hsome : Submission.targets ds ≠ [])
    (hlibraries : Submission.libraries (asker o.common) o.common.workers ds u = (result, v)) :
    (runSubmission o).run w = match result with
      | .error failure => (.error failure, v)
      | .ok ls => (if o.dryRun then dryRun o ls else post o ls).run (tabled ls v) := by
  have hbegun : (Action.print _).run w = (.ok (), begun w) := rfl
  have hfull : (Submission.targets ds).isEmpty = false := by simpa using hsome
  unfold runSubmission
  rw [Action.run_bind_ok hbegun, Action.run_bind_ok h, submissionFrom, hfull]
  simp only [Bool.false_eq_true, if_false, Action.run_bind, Action.run_ofExcept, githubClient_eq,
    Action.run_modifyGet, hlibraries]
  cases result with
  | error failure => rfl
  | ok ls => simp only [run_printTable]

theorem run_of_prepares {ls : List Library} {v : World} (h : Prepares o w ls v) :
    (runSubmission o).run w =
      (if o.dryRun then dryRun o ls else post o ls).run (tabled ls v) := by
  obtain ⟨ds, u, hlisted, hsome, hlibraries⟩ := h
  exact run_of_libraries hlisted hsome hlibraries

theorem history_listed {r : Except Failure (List Dependency)} {u : World}
    (h : (dependencies o.repository o.common).run (begun w) = (r, u)) : u.history = w.history := by
  have hsilent := isSilent_dependencies o.repository o.common (begun w)
  rw [h] at hsilent
  exact hsilent

/-- Only questions were asked before the libraries were there. -/
theorem history_of_prepares {ls : List Library} {v : World} (h : Prepares o w ls v) :
    ∃ asked : Http.History, (∀ p ∈ asked, p.1.method = .get) ∧
      v.history = w.history ++ asked := by
  obtain ⟨ds, u, hlisted, _, hlibraries⟩ := h
  obtain ⟨asked, hreading, hasked⟩ :=
    Submission.history_libraries (asker o.common) o.common.workers ds u
  rw [hlibraries, history_listed hlisted] at hasked
  exact ⟨asked, hreading, hasked⟩

end

/-- The run made one attempt to post a form, after nothing but questions, and ended by what came of
it: `es` are the events of the attempt and `x` is its outcome. -/
structure Attempted (o : CommandLine.Submission) (w : World) (form : List (String × String))
    (result : Except Failure Status) (u : World) (asked : Http.History) (es : List Event)
    (x : Http.Outcome) : Prop where
  questions : ∀ p ∈ asked, p.1.method = .get
  attempt : Http.Attempt o.common.settings (Submission.draft o.address form) es x
  history : u.history = w.history ++ asked ++ Event.exchanges es
  success_iff : result = .ok .success ↔ ∃ response text body, x = .ok response ∧
    response.text = .ok text ∧ Submission.readAnswer text = .ok body ∧
      response.status.isSuccess = true
  malformed : ∀ response text e, x = .ok response → response.text = .ok text →
    Submission.readAnswer text = .error e → result = .error (.of (.answerMalformed e))
  rejected : ∀ response text body, x = .ok response → response.text = .ok text →
    Submission.readAnswer text = .ok body → response.status.isSuccess = false →
      result = .error (.of (.rejected response.status))

inductive Halted (o : CommandLine.Submission) (w : World) : Except Failure Status → Prop
  | unlisted {failure : Failure} {u : World}
      (h : (dependencies o.repository o.common).run (begun w) = (.error failure, u)) :
      Halted o w (.error failure)
  | nothing {ds : List Dependency} {u : World}
      (h : (dependencies o.repository o.common).run (begun w) = (.ok ds, u))
      (hnone : Submission.targets ds = []) : Halted o w (.ok .success)
  | unresolved {ds : List Dependency} {u v : World} {failure : Failure}
      (h : (dependencies o.repository o.common).run (begun w) = (.ok ds, u))
      (hsome : Submission.targets ds ≠ [])
      (hlibraries : Submission.libraries (asker o.common) o.common.workers ds u =
        (.error failure, v)) : Halted o w (.error failure)
  | dry {ls : List Library} {v : World} (h : Prepares o w ls v) (hdry : o.dryRun = true) :
      Halted o w (.ok .success)
  | tokenless {ls : List Library} {v : World} {name : String} (h : Prepares o w ls v)
      (hwet : o.dryRun = false) (hname : firstMissing? o = some name) :
      Halted o w (.error (.of (.settingMissing name)))

def Unattempted (o : CommandLine.Submission) (w : World) (result : Except Failure Status)
    (u : World) : Prop :=
  Halted o w result ∧ ∃ asked : Http.History, (∀ p ∈ asked, p.1.method = .get) ∧
    u.history = w.history ++ asked

variable {o : CommandLine.Submission} {w : World}

theorem attempted_of_ready {ls : List Library} {v : World} {tokens : Tokens} {project : String}
    (h : Ready o w ls v tokens project) :
    ∃ asked es x, Attempted o w (Submission.form ⟨project, ls⟩ tokens v.clock)
      ((runSubmission o).run w).1 ((runSubmission o).run w).2 asked es x := by
  obtain ⟨asked, hreading, hasked⟩ := history_of_prepares h.prepared
  obtain ⟨es, x, hattempt, hresult, hhistory⟩ := run_post ls h.tokens_eq (tabled ls v)
  rw [clock_tabled] at hattempt
  rw [history_tabled, hasked] at hhistory
  have hrun : (runSubmission o).run w = (post o ls).run (tabled ls v) := by
    rw [run_of_prepares h.prepared, h.wet]
    rfl
  rw [← hrun] at hresult hhistory
  refine ⟨asked, es, x, hreading, hattempt, hhistory, ?_, ?_, ?_⟩
  · rw [hresult]
    exact bind_verdict_eq_success
  · rintro response text e rfl htext hbody
    simp [hresult, answerOf, htext, hbody, Except.bind]
  · rintro response text body rfl htext hbody hstatus
    simp [hresult, answerOf, htext, hbody, Except.bind, verdict, hstatus]

/-- A run that has the libraries and is no dry run, but lacks a token, complains about the first. -/
theorem run_of_tokenless {ls : List Library} {v : World} {name : String} (h : Prepares o w ls v)
    (hwet : o.dryRun = false) (hname : firstMissing? o = some name) :
    (runSubmission o).run w = (.error (.of (.settingMissing name)), tabled ls v) := by
  rw [run_of_prepares h, hwet]
  exact run_post_of_missing ls hname (tabled ls v)

theorem unattempted_of_prepares {ls : List Library} {v : World} (hprepared : Prepares o w ls v)
    (h : ¬ ∃ tokens project, Ready o w ls v tokens project) :
    Unattempted o w ((runSubmission o).run w).1 ((runSubmission o).run w).2 := by
  obtain ⟨asked, hreading, hasked⟩ := history_of_prepares hprepared
  rw [← history_tabled ls v] at hasked
  cases hdry : o.dryRun with
  | true =>
    rw [run_of_prepares hprepared, hdry]
    exact ⟨.dry hprepared hdry, asked, hreading, hasked⟩
  | false =>
    cases hmissing : firstMissing? o with
    | none =>
      obtain ⟨tokens, project, horg, hprod, hproj⟩ := exists_given_of_firstMissing? hmissing
      exact absurd ⟨tokens, project, hprepared, hdry, horg, hprod, hproj⟩ h
    | some name =>
      rw [run_of_tokenless hprepared hdry hmissing]
      exact ⟨.tokenless hprepared hdry hmissing, asked, hreading, hasked⟩

theorem unattempted_of_not_ready (h : ¬ ∃ ls v tokens project, Ready o w ls v tokens project) :
    Unattempted o w ((runSubmission o).run w).1 ((runSubmission o).run w).2 := by
  obtain ⟨⟨listed, u⟩, hlisted⟩ :
      ∃ p, (dependencies o.repository o.common).run (begun w) = p := ⟨_, rfl⟩
  have hsilent := (history_listed hlisted).trans (List.append_nil _).symm
  cases listed with
  | error failure =>
    rw [run_of_unlisted hlisted]
    exact ⟨.unlisted hlisted, [], by simp, hsilent⟩
  | ok ds =>
    by_cases hnone : Submission.targets ds = []
    · rw [run_of_nothing hlisted hnone]
      exact ⟨.nothing hlisted hnone, [], by simp, hsilent⟩
    · obtain ⟨⟨libraries, v⟩, hlibraries⟩ :
          ∃ p, Submission.libraries (asker o.common) o.common.workers ds u = p := ⟨_, rfl⟩
      cases libraries with
      | error failure =>
        obtain ⟨asked, hreading, hasked⟩ :=
          Submission.history_libraries (asker o.common) o.common.workers ds u
        rw [hlibraries, history_listed hlisted] at hasked
        rw [run_of_libraries hlisted hnone hlibraries]
        exact ⟨.unresolved hlisted hnone hlibraries, asked, hreading, hasked⟩
      | ok ls =>
        -- With the libraries at hand, only a dry run or a token can be in the way.
        apply unattempted_of_prepares ⟨ds, u, hlisted, hnone, hlibraries⟩
        rintro ⟨tokens, project, hready⟩
        exact h ⟨ls, v, tokens, project, hready⟩

/-- A run makes one attempt to submit if all is ready, and else none. If nothing is in the way but
the tokens, it complains about the first that is missing. -/
theorem runSubmission_attempts (o : CommandLine.Submission) (w : World) :
    (∀ ls v tokens project, Ready o w ls v tokens project →
      ∃ asked es x, Attempted o w (Submission.form ⟨project, ls⟩ tokens v.clock)
        ((runSubmission o).run w).1 ((runSubmission o).run w).2 asked es x) ∧
    ((¬ ∃ ls v tokens project, Ready o w ls v tokens project) →
      Unattempted o w ((runSubmission o).run w).1 ((runSubmission o).run w).2) ∧
    ∀ ls v name, Prepares o w ls v → o.dryRun = false → firstMissing? o = some name →
      ((runSubmission o).run w).1 = .error (.of (.settingMissing name)) := by
  refine ⟨fun ls v tokens project h => attempted_of_ready h, unattempted_of_not_ready,
    fun ls v name h hwet hname => ?_⟩
  rw [run_of_tokenless h hwet hname]

def complete : CommandLine.Submission where
  repository := "/"
  dryRun := false
  projectToken := some "p"
  organisationToken := some "o"
  productToken := some "q"
  address := "http://[::1]"
  common := ⟨none, "http://[::1]", "dep", 1, 1, 3, 0, false⟩

def refusing : World :=
  { World.quiet with
    network := fun _ _ => .answer ⟨500, none, "\x7b\x7d".toUTF8.toList, true⟩
    programs := fun _ => .ok ⟨"[[\"a/b/c\",\"\",\"1.0\"]]".toUTF8.toList, [], .exited 0⟩ }

theorem ready_complete : ∃ ls v, Ready complete refusing ls v ⟨"o", "q"⟩ "p" := by
  have hlisted : ((dependencies complete.repository complete.common).run
      (begun refusing)).1.toOption = some [⟨"a/b/c", "", "1.0"⟩] := by decide +kernel
  have hlibraries : (Submission.libraries (asker complete.common) complete.common.workers
      [⟨"a/b/c", "", "1.0"⟩] ((dependencies complete.repository complete.common).run
        (begun refusing)).2).1.toOption = some [⟨⟨"b", "c"⟩, "1.0"⟩] := by decide +kernel
  have hprepared : Prepares complete refusing [⟨⟨"b", "c"⟩, "1.0"⟩] _ :=
    ⟨_, _, Prod.ext (toOption_eq_some.1 hlisted) rfl, by decide,
      Prod.ext (toOption_eq_some.1 hlibraries) rfl⟩
  exact ⟨_, _, hprepared, rfl, ⟨rfl, by decide⟩, ⟨rfl, by decide⟩, ⟨rfl, by decide⟩⟩

/-- The form is not sent again after an answer of status 500. -/
theorem runSubmission_attempts_refused :
    ∃ ls v, Ready complete refusing ls v ⟨"o", "q"⟩ "p" ∧
      (∃ asked es x, Attempted complete refusing (Submission.form ⟨"p", ls⟩ ⟨"o", "q"⟩ v.clock)
        ((runSubmission complete).run refusing).1 ((runSubmission complete).run refusing).2
        asked es x) ∧
      ((runSubmission complete).run refusing).2.history.length = 1 := by
  obtain ⟨ls, v, h⟩ := ready_complete
  have hattempted := (runSubmission_attempts complete refusing).1 ls v ⟨"o", "q"⟩ "p" h
  exact ⟨ls, v, h, hattempted, by decide +kernel⟩

end Compliance.Run
