import Compliance.Proofs.License.Entry
import Compliance.Proofs.Work.Shadow

/-!
The two policies side by side. A job that may fall back on a stored file takes the steps of one that
may not, and may look for the file and write a notice in between, so a call under the one policy
shadows the same call under the other: the servers and the files see no difference, and the reports
are the same but for the entries that stored files stand in for.
-/

namespace Compliance

namespace License

/-! ### What is left of a report if stored files do not count -/

/-- The outcome if a stored file does not stand in. -/
def Outcome.strict : Outcome → Outcome
  | .onDisk status => .missing status
  | o => o

def Entry.strict (e : Entry) : Entry := { e with outcome := e.outcome.strict }

def Report.strict (r : Report) : Report := ⟨r.entries.map Entry.strict⟩

theorem Outcome.strict_ne_onDisk (o : Outcome) (status : Nat) : o.strict ≠ .onDisk status := by
  cases o <;> simp [strict]

theorem Outcome.isResolved_strict {o : Outcome} :
    o.strict.isResolved = true ↔ o.isResolved = true ∧ ∀ status, o ≠ .onDisk status := by
  cases o <;> simp [strict, isResolved]

theorem Outcome.strict_eq_self {o : Outcome} (h : o.strict.isResolved = true) : o.strict = o := by
  cases o with
  | onDisk status => cases h
  | _ => rfl

theorem Entry.strict_eq_self {e : Entry} (h : e.strict.outcome.isResolved = true) :
    e.strict = e := by
  unfold Entry.strict
  rw [Outcome.strict_eq_self h]

theorem Report.allResolved_strict {r : Report} :
    r.strict.allResolved = true ↔ r.allResolved = true ∧
      ∀ e ∈ r.entries, ∀ status, e.outcome ≠ .onDisk status := by
  have hentry : ∀ e : Entry, e.strict.outcome.isResolved = true ↔
      e.outcome.isResolved = true ∧ ∀ status, e.outcome ≠ .onDisk status :=
    fun _ => Outcome.isResolved_strict
  simp only [allResolved_iff, strict, List.forall_mem_map, hentry]
  exact ⟨fun h => ⟨fun e he => (h e he).1, fun e he => (h e he).2⟩,
    fun h e he => ⟨h.1 e he, h.2 e he⟩⟩

/-- All licenses are resolved either way or neither way, unless only stored files make it so. -/
theorem Report.allResolved_strict_eq_iff {r : Report} :
    r.strict.allResolved = r.allResolved ↔
      (∀ e ∈ r.entries, ∀ status, e.outcome ≠ .onDisk status) ∨
        ∃ e ∈ r.entries, e.outcome.isResolved = false := by
  have hunresolved : (∃ e ∈ r.entries, e.outcome.isResolved = false) ↔ ¬ r.allResolved = true := by
    simp [allResolved_iff]
  rw [Bool.eq_iff_iff, allResolved_strict, hunresolved]
  constructor
  · intro h
    by_cases hall : r.allResolved = true
    · exact .inl (h.2 hall).2
    · exact .inr hall
  · rintro (hstored | hall)
    · exact ⟨fun h => h.1, fun h => ⟨h, hstored⟩⟩
    · exact ⟨fun h => h.1, fun h => absurd h hall⟩

/-! ### Jobs -/

variable {github : GitHub.Client} {store : Store}

/-- That GitHub has no license to give is what an answer says, so a request is sent before it. -/
theorem ne_unavailable_of_done {r : Coordinates} {x : Except Failure GitHub.Fetched}
    (h : github.fetchLicense r = .done x) (status : Http.Status) :
    x ≠ .ok (.unavailable status) := by
  rintro rfl
  have hends : (github.fetchLicense r).Ends [] (.ok (.unavailable status)) := by
    rw [h]
    exact .nil _
  obtain ⟨y, hy, hx⟩ := GitHub.ends_fetchLicense hends
  cases y with
  | error e => cases hx
  | ok answer => cases Http.lastReply?_sendWithRetry hy

def settle (store : Store) (policy : StalePolicy) (r : Coordinates) :
    Except Failure GitHub.Fetched → Job Outcome
  | .error failure => return .failed failure.message
  | .ok (.unavailable status) => fallback store policy r status
  | .ok (.found text) => do
    match ← store.write r text with
    | .ok () => return .retrieved
    | .error failure => return .failed failure.message

theorem obtain_eq (github : GitHub.Client) (store : Store) (policy : StalePolicy)
    (r : Coordinates) :
    obtain github store policy r = (github.fetchLicense r).bind (settle store policy r) := rfl

def enter (d : Dependency) (o : Outcome) : Job Entry :=
  .note (.outcome (coordinatesOf d.root).slug o)
    (.done ⟨d.root, (coordinatesOf d.root).owner, (coordinatesOf d.root).name, o⟩)

theorem entryJob_eq (github : GitHub.Client) (store : Store) (policy : StalePolicy)
    (d : Dependency) : entryJob github store policy d =
      (github.fetchLicense (coordinatesOf d.root)).bind fun x =>
        (settle store policy (coordinatesOf d.root) x).bind (enter d) := by
  show (obtain github store policy (coordinatesOf d.root)).bind (enter d) = _
  rw [obtain_eq, Job.bind_assoc]

/-- An entry under the one policy, and what it is under the other. -/
def Stricter (e e' : Entry) : Prop := e' = e.strict

theorem enter_shadows (d : Dependency) (o : Outcome) (free : Bool) :
    (enter d o).Shadows Stricter free (enter d o.strict) :=
  .note _ _ (.done rfl)

/-- Looking for a stored file makes no difference but to the outcome. -/
theorem fallback_shadows (store : Store) (d : Dependency) (status : Http.Status) :
    ((fallback store .accept (coordinatesOf d.root) status).bind (enter d)).Shadows Stricter true
      ((fallback store .reject (coordinatesOf d.root) status).bind (enter d)) := by
  refine .lookAside (store.pathFor (coordinatesOf d.root)) rfl fun found => ?_
  cases found with
  | false => exact enter_shadows d (.missing status) true
  | true =>
    cases isRateLimit status with
    | false => exact enter_shadows d (.onDisk status) true
    | true => exact .noteAside _ rfl (enter_shadows d (.onDisk status) true)

theorem settle_shadows (store : Store) (d : Dependency) {free : Bool}
    {x : Except Failure GitHub.Fetched}
    (hx : free = false → ∀ status, x ≠ .ok (.unavailable status)) :
    ((settle store .accept (coordinatesOf d.root) x).bind (enter d)).Shadows Stricter free
      ((settle store .reject (coordinatesOf d.root) x).bind (enter d)) := by
  match x with
  | .error failure => exact enter_shadows d (.failed failure.message) free
  | .ok (.unavailable status) =>
    cases free with
    | false => exact absurd rfl (hx rfl status)
    | true => exact fallback_shadows store d status
  | .ok (.found text) =>
    refine .write (store.pathFor (coordinatesOf d.root)) text fun result => ?_
    cases result with
    | ok _ => exact enter_shadows d .retrieved true
    | error fault => exact enter_shadows d (.failed _) true

/-- The job for a dependency under the policy that accepts stored files shadows the one under the
policy that does not. -/
theorem entryJob_shadows (github : GitHub.Client) (store : Store) (d : Dependency) :
    (entryJob github store .accept d).Shadows Stricter false
      (entryJob github store .reject d) := by
  rw [entryJob_eq, entryJob_eq]
  refine (Job.Shadows.refl (github.fetchLicense (coordinatesOf d.root)) false).bind ?_ ?_
  · rintro x _ rfl
    exact settle_shadows store d fun h => nomatch h
  · rintro x _ hdone - rfl
    exact settle_shadows store d fun _ => ne_unavailable_of_done hdone

/-! ### Calls -/

structure Compared (accepted rejected : Report × World) : Prop where
  /-- The same requests are sent, in the same order, and get the same replies. -/
  requests : rejected.2.history = accepted.2.history
  /-- The same files are left. -/
  files : rejected.2.tree = accepted.2.tree
  /-- Each stored file that stands in is a missing license with the same status to the other, and
  nothing else differs. -/
  report : rejected.1 = accepted.1.strict
  no_onDisk : ∀ e ∈ rejected.1.entries, ∀ status, e.outcome ≠ .onDisk status
  /-- What is resolved without stored files is resolved, and by the same entry, with them. -/
  resolved : ∀ (i : Nat) (e : Entry), rejected.1.entries[i]? = some e →
    e.outcome.isResolved = true → accepted.1.entries[i]? = some e
  allResolved_eq_iff : rejected.1.allResolved = accepted.1.allResolved ↔
    (∀ e ∈ accepted.1.entries, ∀ status, e.outcome ≠ .onDisk status) ∨
      ∃ e ∈ accepted.1.entries, e.outcome.isResolved = false

theorem compared_of_abreast {accepted rejected : List Entry × World}
    (h : World.Abreast (List.Forall₂ Stricter) accepted rejected) :
    Compared (⟨accepted.1⟩, accepted.2) (⟨rejected.1⟩, rejected.2) := by
  obtain ⟨entries, v⟩ := accepted
  obtain ⟨entries', v'⟩ := rejected
  obtain ⟨hentries, _, _, rfl⟩ := h
  have heq : List.Forall₂ Eq entries' (entries.map Entry.strict) :=
    List.forall₂_map_right_iff.2 hentries.flip
  rw [List.forall₂_eq_eq_eq] at heq
  subst heq
  exact
    { requests := rfl
      files := rfl
      report := rfl
      no_onDisk := by
        intro e he
        obtain ⟨e, _, rfl⟩ := List.mem_map.1 he
        exact e.outcome.strict_ne_onDisk
      resolved := by
        intro i e he hresolved
        obtain ⟨e, hsame, rfl⟩ := Option.map_eq_some_iff.1 (List.getElem?_map.symm.trans he)
        rw [Entry.strict_eq_self hresolved]
        exact hsame
      allResolved_eq_iff := Report.allResolved_strict_eq_iff }

/-- Whatever is listed, whatever is stored before, whatever the servers answer and in whatever order
the jobs take their steps: a call under one policy is matched by a call under the other one, with the
same workers, in which the jobs take the same steps in the same order but for those by which stored
files are looked for. -/
theorem policies_compared (github : GitHub.Client) (store : Store) (workers : Nat)
    (ds : List Dependency) (w : World) :
    (∀ turns, ∃ turns', turns'.Sublist turns ∧
        Compared (fetchAll github store .accept workers ds (w.withTurns turns))
          (fetchAll github store .reject workers ds (w.withTurns turns'))) ∧
      ∀ turns', ∃ turns, turns'.Sublist turns ∧
        Compared (fetchAll github store .accept workers ds (w.withTurns turns))
          (fetchAll github store .reject workers ds (w.withTurns turns')) := by
  have hjobs : List.Forall₂ (Job.Shadows Stricter false)
      (ds.map (entryJob github store .accept)) (ds.map (entryJob github store .reject)) :=
    List.forall₂_map_left_iff.2 (List.forall₂_map_right_iff.2
      (List.forall₂_same.2 fun d _ => entryJob_shadows github store d))
  constructor
  · intro turns
    obtain ⟨turns', hsub, h⟩ := Batch.exists_run_shadowed workers hjobs w turns
    exact ⟨turns', hsub, compared_of_abreast h⟩
  · intro turns'
    obtain ⟨turns, hsub, h⟩ := Batch.exists_run_shadowing workers hjobs w turns'
    exact ⟨turns, hsub, compared_of_abreast h⟩

/-- A stored file stands in under one policy only; where there is none the policies agree. -/
example :
    let w := { World.quiet with
      network := fun _ _ => .answer ⟨404, none, [], true⟩
      tree := ⟨[(["lic"], .folder), (["lic", "b--c"], .file "MIT")]⟩ }
    let outcomes := fun policy => (fetchAll ⟨⟨.standard⟩, "http://[::1]", none⟩ ⟨"lic"⟩ policy 2
      [⟨"a/b/c", "", ""⟩, ⟨"a/b/d", "", ""⟩] w).1.entries.map (·.outcome)
    outcomes .accept = [.onDisk 404, .missing 404] ∧
      outcomes .reject = [.missing 404, .missing 404] := by
  decide +kernel

end License

end Compliance
