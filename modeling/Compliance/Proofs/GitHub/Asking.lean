import Compliance.GitHub.Client
import Compliance.Proofs.Except
import Compliance.Proofs.Http.Sending

/-!
Asking GitHub: what is asked is only read, and what is found is what the last answer says.
-/

namespace Compliance

namespace Http

def IsReading (q : Request) : Prop := q.method = .get

theorem isReading_onward (q : Request) (status : Status) (url : Url) (h : IsReading q) :
    IsReading (q.onward status url) := by
  unfold IsReading Request.onward
  split
  · rfl
  · exact h

/-- The request of a draft has the method and the body of the draft. -/
theorem method_of_request {d : Draft} {settings : Settings} {q : Request}
    (h : d.request settings = .ok q) : q.method = d.method ∧ q.body = d.body := by
  unfold Draft.request at h
  obtain ⟨url, _, h⟩ := bind_eq_ok.1 h
  obtain ⟨_, h⟩ := check_eq_ok.1 h
  obtain ⟨_, h⟩ := check_eq_ok.1 h
  obtain ⟨asked, _, h⟩ := bind_eq_ok.1 h
  obtain rfl := pure_eq_ok.1 h
  exact ⟨rfl, rfl⟩

theorem talks_of_reading {c : Client} {d : Draft} (h : d.method = .get) :
    (c.sendWithRetry d).Talks IsReading :=
  talks_sendWithRetry isReading_onward fun _ hq => (method_of_request hq).1.trans h

end Http

namespace GitHub

def licenseOf (r : Coordinates) : Http.Outcome → Except Failure Fetched
  | .error e => .error ⟨["GitHubリクエストに失敗しました: " ++ r.slug], .http e⟩
  | .ok answer => fetched r answer

def commitOf (repository revision : String) : Http.Outcome → Except Failure String
  | .error e =>
    .error ⟨["GitHubリクエストに失敗しました: " ++ repository ++ "@" ++ revision], .http e⟩
  | .ok answer => committed repository revision answer

variable {c : Client} {es : List Event}

theorem ends_fetchLicense {r : Coordinates} {x : Except Failure Fetched}
    (h : (c.fetchLicense r).Ends es x) :
    ∃ y, (c.http.sendWithRetry (c.licenseDraft r)).Ends es y ∧ x = licenseOf r y := by
  obtain ⟨fs, y, gs, rfl, hy, hrest⟩ := Job.ends_bind.1 h
  cases y <;>
  · obtain ⟨rfl, rfl⟩ := Job.ends_done.1 hrest
    exact ⟨_, by simpa using hy, rfl⟩

/-- A commit is looked up by one request, which is sent again where it has to be. -/
theorem ends_commitDate {repository revision : String} {x : Except Failure String}
    (h : (c.commitDate repository revision).Ends es x) :
    ∃ y, (c.http.sendWithRetry (c.commitDraft repository revision)).Ends es y ∧
      x = commitOf repository revision y := by
  obtain ⟨fs, y, gs, rfl, hy, hrest⟩ := Job.ends_bind.1 h
  cases y <;>
  · obtain ⟨rfl, rfl⟩ := Job.ends_done.1 hrest
    exact ⟨_, by simpa using hy, rfl⟩

theorem talks_fetchLicense (c : Client) (r : Coordinates) :
    (c.fetchLicense r).Talks Http.IsReading := by
  refine (Http.talks_of_reading rfl).bind fun y => ?_
  cases y <;> trivial

theorem talks_commitDate (c : Client) (repository revision : String) :
    (c.commitDate repository revision).Talks Http.IsReading := by
  refine (Http.talks_of_reading rfl).bind fun y => ?_
  cases y <;> trivial

/-- The body of the last answer, which has status 200 and arrived whole, says a text. -/
def Serves (es : List Event) (text : String) : Prop :=
  ∃ answer, Http.lastReply? es = some (.answer answer) ∧ answer.status = 200 ∧
    answer.text = .ok text

theorem fetched_eq_found {r : Coordinates} {answer : Http.Response} {text : String}
    (h : fetched r answer = .ok (.found text)) :
    answer.status = 200 ∧ answer.text = .ok text := by
  unfold fetched at h
  split at h
  · rename_i hstatus
    split at h
    · rename_i t ht
      cases h
      exact ⟨hstatus, ht⟩
    · cases h
  · cases h

/-- A license that is found is the body of the last answer. -/
theorem serves_of_found {r : Coordinates} {text : String}
    (h : (c.fetchLicense r).Ends es (.ok (.found text))) : Serves es text := by
  obtain ⟨y, hy, hx⟩ := ends_fetchLicense h
  cases y with
  | error e => cases hx
  | ok answer =>
    obtain ⟨hstatus, htext⟩ := fetched_eq_found hx.symm
    exact ⟨answer, Http.lastReply?_sendWithRetry hy, hstatus, htext⟩

end GitHub

end Compliance
