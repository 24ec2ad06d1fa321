import Compliance.Proofs.Http.Retrying
import Compliance.Proofs.License.Session

/-!
What the entries of a report say. The outcome of an entry is decided by what came of the request for
the license in the end, and by what the host says to the job when that goes on from there: whether it
takes the file, or has one already.
-/

namespace Compliance

/-! ### Where a job stands in a trace -/

theorem Trace.exists_step {t : Trace} {i : Nat} {fs gs : List Event} {e : Event}
    (h : t.own i = fs ++ e :: gs) :
    ∃ before after : Trace, t = before ++ (i, e) :: after ∧ before.own i = fs := by
  -- Steps of other jobs go to the part in front, and so do the first events of the job itself.
  induction t generalizing fs with
  | nil => simp [Trace.own] at h
  | cons s t ih =>
    obtain ⟨k, f⟩ := s
    rw [Trace.own_cons] at h
    by_cases hk : k = i
    · subst hk
      rw [if_pos rfl] at h
      cases fs with
      | nil =>
        obtain ⟨rfl, _⟩ := List.cons.inj h
        exact ⟨[], t, rfl, rfl⟩
      | cons g fs =>
        obtain ⟨rfl, hrest⟩ := List.cons.inj h
        obtain ⟨before, after, rfl, hown⟩ := ih hrest
        refine ⟨(k, f) :: before, after, rfl, ?_⟩
        rw [Trace.own_cons, if_pos rfl, hown]
    · rw [if_neg hk] at h
      obtain ⟨before, after, rfl, hown⟩ := ih h
      refine ⟨(k, f) :: before, after, rfl, ?_⟩
      rw [Trace.own_cons, if_neg hk, hown]

/-- The world in which a job of a trace goes on after some events of its own. -/
def World.Meets (w : World) (t : Trace) (i : Nat) (fs : List Event) (v : World) : Prop :=
  ∃ (before after : Trace) (e : Event), t = before ++ (i, e) :: after ∧ before.own i = fs ∧
    v = w.afterAll before.events

theorem World.exists_meets {w : World} {t : Trace} (hb : w.BringsAll t.events) {i : Nat}
    {fs gs : List Event} {e : Event} (h : t.own i = fs ++ e :: gs) :
    ∃ v, w.Meets t i fs v ∧ v.Brings e := by
  obtain ⟨before, after, rfl, hown⟩ := Trace.exists_step h
  rw [Trace.events_append, World.bringsAll_append] at hb
  exact ⟨_, ⟨before, after, e, rfl, hown, rfl⟩, hb.2.1⟩

namespace License

/-! ### What decides the outcome -/

def outcomeIn (store : Store) (policy : StalePolicy) (r : Coordinates) (v : World) :
    Except Failure GitHub.Fetched → Outcome
  | .error failure => .failed failure.message
  | .ok (.found text) =>
    match (v.writeFile (store.pathFor r) text).1 with
    | .ok () => .retrieved
    | .error fault =>
      .failed (Failure.mk ["ライセンスファイルの書き込みに失敗: " ++ store.pathFor r]
        (.host fault)).message
  | .ok (.unavailable status) =>
    if policy = .accept ∧ v.isFile (store.pathFor r) = true then .onDisk status
    else .missing status

def limitWarning (r : Coordinates) : Outcome → List Notice
  | .onDisk status => if status = 403 ∨ status = 429 then [.rateLimited r.slug status] else []
  | _ => []

variable {github : GitHub.Client} {store : Store} {policy : StalePolicy} {r : Coordinates}

theorem Settled.outcome_eq {x : Except Failure GitHub.Fetched} {filed : List Event} {o : Outcome}
    {v : World} (h : Settled store policy r x filed o)
    (hb : ∀ e ∈ filed.head?, v.Brings e) : o = outcomeIn store policy r v x := by
  unfold outcomeIn
  cases h with
  | lost failure => rfl
  | kept text =>
    have hok : (v.writeFile (store.pathFor r) text).1 = .ok () := hb _ rfl
    simp only [hok]
  | refused text fault =>
    have hfault : (v.writeFile (store.pathFor r) text).1 = .error fault := hb _ rfl
    simp only [hfault]
  | unasked status hpolicy => simp [hpolicy]
  | absent status hpolicy =>
    have hnone : v.isFile (store.pathFor r) = false := hb _ rfl
    simp [hnone]
  | present status hpolicy =>
    have hsome : v.isFile (store.pathFor r) = true := hb _ rfl
    simp [hpolicy, hsome]

theorem isRateLimit_iff {status : Http.Status} :
    isRateLimit status = true ↔ status = 403 ∨ status = 429 := by
  simp [isRateLimit]

theorem Settled.notices_eq {x : Except Failure GitHub.Fetched} {filed : List Event} {o : Outcome}
    (h : Settled store policy r x filed o) : Event.notices filed = limitWarning r o := by
  cases h with
  | present status =>
    show Event.notices (if isRateLimit status then [.noted (.rateLimited r.slug status)] else []) =
      if status = 403 ∨ status = 429 then [.rateLimited r.slug status] else []
    by_cases hlimit : isRateLimit status = true
    · rw [if_pos hlimit, if_pos (isRateLimit_iff.1 hlimit)]
      rfl
    · rw [if_neg hlimit, if_neg fun h => hlimit (isRateLimit_iff.2 h)]
      rfl
  | _ => rfl

/-! ### The four outcomes -/

section

variable {v : World} {x : Except Failure GitHub.Fetched}

theorem outcomeIn_error (failure : Failure) :
    outcomeIn store policy r v (.error failure) = .failed failure.message := rfl

theorem outcomeIn_found (store : Store) (policy : StalePolicy) (r : Coordinates) (v : World)
    (text : String) :
    ((v.writeFile (store.pathFor r) text).1 = .ok () ∧
        outcomeIn store policy r v (.ok (.found text)) = .retrieved) ∨
      ∃ fault reason, (v.writeFile (store.pathFor r) text).1 = .error fault ∧
        outcomeIn store policy r v (.ok (.found text)) = .failed reason := by
  unfold outcomeIn
  cases hwrite : (v.writeFile (store.pathFor r) text).1 with
  | ok _ => exact .inl ⟨rfl, by simp only [hwrite]⟩
  | error fault =>
    simp only [hwrite]
    exact .inr ⟨fault, _, rfl, rfl⟩

theorem outcomeIn_unavailable (status : Nat) :
    outcomeIn store policy r v (.ok (.unavailable status)) =
      if policy = .accept ∧ v.isFile (store.pathFor r) = true then .onDisk status
      else .missing status := rfl

theorem outcomeIn_eq_retrieved : outcomeIn store policy r v x = .retrieved ↔
    ∃ text, x = .ok (.found text) ∧ (v.writeFile (store.pathFor r) text).1 = .ok () := by
  match x with
  | .error failure => simp [outcomeIn_error]
  | .ok (.unavailable status) =>
    rw [outcomeIn_unavailable]
    split <;> simp
  | .ok (.found text) =>
    obtain ⟨hwrite, hout⟩ | ⟨fault, reason, hwrite, hout⟩ := outcomeIn_found store policy r v text
    · simp [hout, hwrite]
    · simp [hout, hwrite]

theorem outcomeIn_eq_onDisk {status : Nat} : outcomeIn store policy r v x = .onDisk status ↔
    x = .ok (.unavailable status) ∧ policy = .accept ∧ v.isFile (store.pathFor r) = true := by
  match x with
  | .error failure => simp [outcomeIn_error]
  | .ok (.found text) =>
    obtain ⟨-, hout⟩ | ⟨_, reason, -, hout⟩ := outcomeIn_found store policy r v text
    · simp [hout]
    · simp [hout]
  | .ok (.unavailable status') =>
    rw [outcomeIn_unavailable]
    by_cases hthere : policy = .accept ∧ v.isFile (store.pathFor r) = true
    · simp [hthere]
    · simp [hthere]

theorem outcomeIn_eq_missing {status : Nat} : outcomeIn store policy r v x = .missing status ↔
    x = .ok (.unavailable status) ∧ (policy = .reject ∨ v.isFile (store.pathFor r) = false) := by
  match x with
  | .error failure => simp [outcomeIn_error]
  | .ok (.found text) =>
    obtain ⟨-, hout⟩ | ⟨_, reason, -, hout⟩ := outcomeIn_found store policy r v text
    · simp [hout]
    · simp [hout]
  | .ok (.unavailable status') =>
    rw [outcomeIn_unavailable]
    cases policy with
    | reject => simp
    | accept =>
      cases hthere : v.isFile (store.pathFor r) with
      | true => simp
      | false => simp

theorem exists_outcomeIn_eq_failed : (∃ reason, outcomeIn store policy r v x = .failed reason) ↔
    (∃ failure, x = .error failure) ∨ ∃ text fault, x = .ok (.found text) ∧
      (v.writeFile (store.pathFor r) text).1 = .error fault := by
  match x with
  | .error failure => simp [outcomeIn_error]
  | .ok (.unavailable status) =>
    rw [outcomeIn_unavailable]
    split <;> simp
  | .ok (.found text) =>
    obtain ⟨hwrite, hout⟩ | ⟨fault, reason, hwrite, hout⟩ := outcomeIn_found store policy r v text
    · simp [hout, hwrite]
    · simp [hout, hwrite]

end

section

variable {y : Http.Outcome}

def Brought (y : Http.Outcome) (text : String) : Prop :=
  ∃ answer, y = .ok answer ∧ answer.status = 200 ∧ answer.text = .ok text

def Denied (y : Http.Outcome) (status : Http.Status) : Prop :=
  ∃ answer, y = .ok answer ∧ answer.status = status ∧ status ≠ 200

/-- No answer, or one of status 200 with a body that did not arrive whole. -/
def Lost (y : Http.Outcome) : Prop :=
  (∃ e, y = .error e) ∨ ∃ answer e, y = .ok answer ∧ answer.status = 200 ∧ answer.text = .error e

theorem licenseOf_eq_found {text : String} :
    GitHub.licenseOf r y = .ok (.found text) ↔ Brought y text := by
  constructor
  · intro h
    cases y with
    | error e => cases h
    | ok answer => exact ⟨answer, rfl, GitHub.fetched_eq_found h⟩
  · rintro ⟨answer, rfl, hstatus, htext⟩
    simp only [GitHub.licenseOf, GitHub.fetched, hstatus, htext, if_true]

theorem licenseOf_eq_unavailable {status : Http.Status} :
    GitHub.licenseOf r y = .ok (.unavailable status) ↔ Denied y status := by
  constructor
  · intro h
    cases y with
    | error e => cases h
    | ok answer =>
      by_cases hstatus : answer.status = 200
      · cases htext : answer.text with
        | error e => simp [GitHub.licenseOf, GitHub.fetched, hstatus, htext] at h
        | ok text => simp [GitHub.licenseOf, GitHub.fetched, hstatus, htext] at h
      · have heq : answer.status = status := by
          simpa [GitHub.licenseOf, GitHub.fetched, hstatus] using h
        exact ⟨answer, rfl, heq, heq ▸ hstatus⟩
  · rintro ⟨answer, rfl, rfl, hstatus⟩
    simp only [GitHub.licenseOf, GitHub.fetched, hstatus, if_false]

theorem exists_licenseOf_eq_error :
    (∃ failure, GitHub.licenseOf r y = .error failure) ↔ Lost y := by
  constructor
  · rintro ⟨failure, h⟩
    cases y with
    | error e => exact .inl ⟨e, rfl⟩
    | ok answer =>
      by_cases hstatus : answer.status = 200
      · cases htext : answer.text with
        | error e => exact .inr ⟨answer, e, rfl, hstatus, htext⟩
        | ok text => simp [GitHub.licenseOf, GitHub.fetched, hstatus, htext] at h
      · simp [GitHub.licenseOf, GitHub.fetched, hstatus] at h
  · rintro (⟨e, rfl⟩ | ⟨answer, e, rfl, hstatus, htext⟩)
    · exact ⟨_, rfl⟩
    · simp only [GitHub.licenseOf, GitHub.fetched, hstatus, htext, if_true]
      exact ⟨_, rfl⟩

end

/-! ### What an entry says -/

/-- What an entry says of its dependency, and what its job notes down: `y` is the outcome of the last
of its attempts to fetch the license, by the events `asked`, and `v` is the world in which it goes on
from there. -/
structure Accounted (github : GitHub.Client) (store : Store) (policy : StalePolicy)
    (d : Dependency) (own asked : List Event) (y : Http.Outcome) (v : World) (entry : Entry) :
    Prop where
  root : entry.root = d.root
  repository : entry.repository =
    .ofPath (if d.root = "golang.org/x/sys" then "github.com/golang/sys" else d.root)
  /-- The outcome is that of the last attempt. -/
  final : ∃ (a : Http.Attempting (github.http.send (github.licenseDraft entry.repository)))
    (k : Nat), y = a.outcome k ∧
      Http.Resent github.http.settings.retryDelay github.http.settings.retries a k asked
  retrieved_iff : entry.outcome = .retrieved ↔ ∃ text, Brought y text ∧
    (v.writeFile (store.pathFor entry.repository) text).1 = .ok ()
  onDisk_iff : ∀ status, entry.outcome = .onDisk status ↔ Denied y status ∧ policy = .accept ∧
    v.isFile (store.pathFor entry.repository) = true
  missing_iff : ∀ status, entry.outcome = .missing status ↔ Denied y status ∧
    (policy = .reject ∨ v.isFile (store.pathFor entry.repository) = false)
  failed_iff : (∃ reason, entry.outcome = .failed reason) ↔ Lost y ∨ ∃ text fault, Brought y text ∧
    (v.writeFile (store.pathFor entry.repository) text).1 = .error fault
  /-- The outcome is noted once, and before it that a file stands in because of a rate limit. -/
  notices : Event.notices own = Event.notices asked ++ limitWarning entry.repository entry.outcome ++
    [.outcome entry.repository.slug entry.outcome]
  limit_warn : ∀ n ∈ limitWarning entry.repository entry.outcome, n.level = .warn
  info_iff : (Notice.outcome entry.repository.slug entry.outcome).level = .info ↔
    entry.outcome = .retrieved ∨ ∃ status, entry.outcome = .onDisk status
  warn_iff : (Notice.outcome entry.repository.slug entry.outcome).level = .warn ↔
    (∃ status, entry.outcome = .missing status) ∨ ∃ reason, entry.outcome = .failed reason

theorem isResolved_iff {o : Outcome} :
    o.isResolved = true ↔ o = .retrieved ∨ ∃ status, o = .onDisk status := by
  cases o <;> simp [Outcome.isResolved]

theorem isResolved_eq_false_iff {o : Outcome} :
    o.isResolved = false ↔ (∃ status, o = .missing status) ∨ ∃ reason, o = .failed reason := by
  cases o <;> simp [Outcome.isResolved]

theorem level_outcome_eq_info {slug : String} {o : Outcome} :
    (Notice.outcome slug o).level = .info ↔ o = .retrieved ∨ ∃ status, o = .onDisk status := by
  rw [← isResolved_iff, Notice.level]
  cases o.isResolved <;> decide

theorem level_outcome_eq_warn {slug : String} {o : Outcome} :
    (Notice.outcome slug o).level = .warn ↔
      (∃ status, o = .missing status) ∨ ∃ reason, o = .failed reason := by
  rw [← isResolved_eq_false_iff, Notice.level]
  cases o.isResolved <;> decide

theorem level_eq_of_mem_limitWarning {r : Coordinates} {o : Outcome} {n : Notice}
    (h : n ∈ limitWarning r o) : n.level = .warn := by
  cases o with
  | onDisk status =>
    unfold limitWarning at h
    dsimp only at h
    split at h
    · rw [List.mem_singleton.1 h]
      rfl
    · cases h
  | _ => cases h

/-- In every order of the steps each entry accounts for its dependency. -/
theorem accounted_of_interleaving {ds : List Dependency} {w u : World} {t : Trace}
    {entries : List Entry}
    (h : Batch.Interleaving (ds.map (entryJob github store policy)) w t entries u) {i : Nat}
    {entry : Entry} (hentry : entries[i]? = some entry) :
    ∃ d asked y v, ds[i]? = some d ∧ w.Meets t i asked v ∧
      Accounted github store policy d (t.own i) asked y v entry := by
  obtain ⟨d, hd, hentered⟩ := entered_of_entry h hentry
  generalize hown : t.own i = own at hentered
  cases hentered with
  | intro hasked hsettled =>
    rename_i asked filed x o
    -- The job goes on with the first of its events on files, or else with its last notice.
    obtain ⟨e, gs, hnext⟩ : ∃ e gs, filed ++ [.noted (.outcome (coordinatesOf d.root).slug o)] =
        e :: gs := by
      cases filed with
      | nil => exact ⟨_, _, rfl⟩
      | cons e filed => exact ⟨e, _, rfl⟩
    rw [List.append_assoc, hnext] at hown
    obtain ⟨v, hmeets, hbrings⟩ := World.exists_meets h.brought hown
    have hfiled : ∀ e' ∈ filed.head?, v.Brings e' := by
      intro e' he'
      cases filed with
      | nil => cases he'
      | cons f filed =>
        obtain rfl : f = e' := by simpa using he'
        obtain ⟨rfl, _⟩ := List.cons.inj hnext
        exact hbrings
    have houtcome := hsettled.outcome_eq hfiled
    obtain ⟨y, hy, rfl⟩ := GitHub.ends_fetchLicense hasked
    refine ⟨d, asked, y, v, hd, hmeets, ?_⟩
    exact
      { root := rfl
        repository := rfl
        final := Http.resent_of_ends hy
        retrieved_iff := by
          show o = .retrieved ↔ _
          rw [houtcome, outcomeIn_eq_retrieved]
          simp only [licenseOf_eq_found]
          rfl
        onDisk_iff := fun status => by
          show o = .onDisk status ↔ _
          rw [houtcome, outcomeIn_eq_onDisk, licenseOf_eq_unavailable]
          rfl
        missing_iff := fun status => by
          show o = .missing status ↔ _
          rw [houtcome, outcomeIn_eq_missing, licenseOf_eq_unavailable]
          rfl
        failed_iff := by
          show (∃ reason, o = .failed reason) ↔ _
          rw [houtcome, exists_outcomeIn_eq_failed, exists_licenseOf_eq_error]
          simp only [licenseOf_eq_found]
          rfl
        notices := by
          rw [Event.notices_append, Event.notices_append, hsettled.notices_eq]
          rfl
        limit_warn := fun n hn => level_eq_of_mem_limitWarning hn
        info_iff := level_outcome_eq_info
        warn_iff := level_outcome_eq_warn }

end License

end Compliance
