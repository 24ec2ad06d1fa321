import Compliance.Proofs.Except
import Compliance.Proofs.GitHub.Asking
import Compliance.Proofs.Text.Pieces
import Compliance.Proofs.Work.Interleaving
import Compliance.Submission.Version

/-!
What the libraries of a manifest are. Each dependency is settled by a job of its own, which asks for
a commit only if the version names a branch and the module is on GitHub. The order of the jobs has no
part in the result: the libraries stand in the order of the manifest, or the first failure in that
order stands for all of them.
-/

namespace Compliance

theorem Batch.run_nil {α : Type} (workers : Nat) (w : World) :
    Batch.run workers ([] : List (Job α)) w = ([], w) := by
  obtain ⟨t, h⟩ := Batch.run_interleaving workers ([] : List (Job α)) w
  have ht : t = [] := List.eq_nil_iff_forall_not_mem.2 fun s hs => by simpa using h.owned s hs
  have hresults : (Batch.run workers ([] : List (Job α)) w).1 = [] := by simpa using h.length
  have hleft := h.left
  subst ht
  exact Prod.ext hresults hleft.symm

namespace Submission

/-! ### All values or the first failure -/

theorem collect_eq_ok {α : Type} {xs : List (Except Failure α)} {as : List α} :
    collect xs = .ok as ↔ xs = as.map .ok := by
  induction xs generalizing as with
  | nil => cases as <;> simp [collect]
  | cons x xs ih =>
    cases x with
    | error f => cases as <;> simp [collect]
    | ok a =>
      rw [collect, map_eq_ok]
      constructor
      · rintro ⟨bs, hbs, rfl⟩
        rw [ih.1 hbs, List.map_cons]
      · intro h
        cases as with
        | nil => cases h
        | cons b bs =>
          obtain ⟨hab, hrest⟩ := List.cons.inj h
          obtain rfl := Except.ok.inj hab
          exact ⟨bs, ih.2 hrest, rfl⟩

theorem collect_eq_error {α : Type} {xs : List (Except Failure α)} {f : Failure} :
    collect xs = .error f ↔ ∃ (as : List α) (rest : List (Except Failure α)),
      xs = as.map .ok ++ .error f :: rest := by
  induction xs with
  | nil => simp [collect]
  | cons x xs ih =>
    cases x with
    | error g =>
      constructor
      · intro h
        obtain rfl := Except.error.inj h
        exact ⟨[], xs, rfl⟩
      · rintro ⟨as, rest, h⟩
        cases as with
        | nil => exact congrArg Except.error (Except.error.inj (List.cons.inj h).1)
        | cons a as => cases (List.cons.inj h).1
    | ok a =>
      rw [collect, map_eq_error, ih]
      constructor
      · rintro ⟨as, rest, rfl⟩
        exact ⟨a :: as, rest, rfl⟩
      · rintro ⟨as, rest, h⟩
        cases as with
        | nil => cases (List.cons.inj h).1
        | cons b as => exact ⟨as, rest, (List.cons.inj h).2⟩

/-! ### One dependency -/

theorem branch?_eq_some {version branch : String} :
    branch? version = some branch ↔ version = "branch " ++ branch :=
  Text.after?_eq_some

theorem repository?_eq_some {root repository : String} :
    repository? root = some repository ↔ root = "github.com/" ++ repository :=
  Text.after?_eq_some

/-- How the job for a dependency comes to its end: its events, and the library or the failure. Only
where the version names a branch of a module on GitHub is anything sent, and that is one request for
a commit with what sending it again brings with it. -/
inductive Resolved (github : GitHub.Client) (d : Dependency) :
    List Event → Except Failure Library → Prop
  | definite (h : ∀ branch, d.version ≠ "branch " ++ branch) :
      Resolved github d
        [.noted (.resolved (Coordinates.ofPath d.root).owner (Coordinates.ofPath d.root).name
          d.version)]
        (.ok ⟨.ofPath d.root, d.version⟩)
  | elsewhere {branch : String} (h : d.version = "branch " ++ branch)
      (hroot : ∀ repository, d.root ≠ "github.com/" ++ repository) :
      Resolved github d
        [.noted (.resolved (Coordinates.ofPath d.root).owner (Coordinates.ofPath d.root).name
          branch)]
        (.ok ⟨.ofPath d.root, branch⟩)
  | dated {branch repository date : String} {es : List Event} {x : Http.Outcome}
      (h : d.version = "branch " ++ branch) (hroot : d.root = "github.com/" ++ repository)
      (asked : (github.http.sendWithRetry (github.commitDraft repository d.revision)).Ends es x)
      (told : GitHub.commitOf repository d.revision x = .ok date) :
      Resolved github d
        (es ++ [.noted (.resolved (Coordinates.ofPath d.root).owner
          (Coordinates.ofPath d.root).name (branch ++ "_" ++ date))])
        (.ok ⟨.ofPath d.root, branch ++ "_" ++ date⟩)
  | failed {branch repository : String} {failure : Failure} {es : List Event} {x : Http.Outcome}
      (h : d.version = "branch " ++ branch) (hroot : d.root = "github.com/" ++ repository)
      (asked : (github.http.sendWithRetry (github.commitDraft repository d.revision)).Ends es x)
      (told : GitHub.commitOf repository d.revision x = .error failure) :
      Resolved github d es (.error (failure.under ("バージョンの解決に失敗: " ++ d.root)))

variable {github : GitHub.Client} {d : Dependency} {es : List Event}

theorem resolved_of_ends {result : Except Failure Library}
    (h : (libraryJob github d).Ends es result) : Resolved github d es result := by
  obtain ⟨fs, x, gs, rfl, hversion, hrest⟩ := Job.ends_bind.1 h
  unfold resolveVersion at hversion
  split at hversion
  · rename_i hbranch
    obtain ⟨rfl, rfl⟩ := Job.ends_done.1 hversion
    obtain ⟨_, rfl, hdone⟩ := Job.ends_note.1 hrest
    obtain ⟨rfl, rfl⟩ := Job.ends_done.1 hdone
    refine .definite fun branch heq => ?_
    simp [branch?_eq_some.2 heq] at hbranch
  · rename_i branch hbranch
    split at hversion
    · rename_i hrepository
      obtain ⟨rfl, rfl⟩ := Job.ends_done.1 hversion
      obtain ⟨_, rfl, hdone⟩ := Job.ends_note.1 hrest
      obtain ⟨rfl, rfl⟩ := Job.ends_done.1 hdone
      refine .elsewhere (branch?_eq_some.1 hbranch) fun repository heq => ?_
      simp [repository?_eq_some.2 heq] at hrepository
    · rename_i repository hrepository
      obtain ⟨asked, date, _, rfl, hasked, htold⟩ := Job.ends_bind.1 hversion
      obtain ⟨y, hy, rfl⟩ := GitHub.ends_commitDate hasked
      have hbranch' := branch?_eq_some.1 hbranch
      have hroot := repository?_eq_some.1 hrepository
      cases hdate : GitHub.commitOf repository d.revision y with
      | error failure =>
        rw [hdate] at htold
        obtain ⟨rfl, rfl⟩ := Job.ends_done.1 htold
        obtain ⟨rfl, rfl⟩ := Job.ends_done.1 hrest
        simpa using Resolved.failed hbranch' hroot hy hdate
      | ok date =>
        rw [hdate] at htold
        obtain ⟨rfl, rfl⟩ := Job.ends_done.1 htold
        obtain ⟨_, rfl, hdone⟩ := Job.ends_note.1 hrest
        obtain ⟨rfl, rfl⟩ := Job.ends_done.1 hdone
        simpa using Resolved.dated hbranch' hroot hy hdate

/-- Nothing is sent for a dependency but what a commit is looked up by. -/
theorem talks_libraryJob_of {P : Http.Request → Prop}
    (h : ∀ repository revision, (github.commitDate repository revision).Talks P)
    (d : Dependency) : (libraryJob github d).Talks P := by
  have hversion : (resolveVersion github d).Talks P := by
    unfold resolveVersion
    split
    · trivial
    · split
      · trivial
      · refine (h _ _).bind fun x => ?_
        cases x <;> trivial
  refine hversion.bind fun x => ?_
  cases x <;> trivial

/-- What is sent for a dependency only reads. -/
theorem talks_libraryJob (github : GitHub.Client) (d : Dependency) :
    (libraryJob github d).Talks Http.IsReading :=
  talks_libraryJob_of (GitHub.talks_commitDate github) d

/-! ### All dependencies -/

/-- How the libraries for some dependencies come about: by a trace of their jobs, with one result for
each of them. -/
structure Converted (github : GitHub.Client) (ds : List Dependency) (w : World) (t : Trace)
    (results : List (Except Failure Library)) (libraries : Except Failure (List Library))
    (u : World) : Prop where
  /-- Every job comes to its end, also where another one fails. -/
  done : Batch.Interleaving (ds.map (libraryJob github)) w t results u
  /-- Each result is that of the job in its place, which is all that sends anything for it. -/
  resolved : ∀ (i : Nat) (d : Dependency), ds[i]? = some d →
    ∃ result, results[i]? = some result ∧ Resolved github d (t.own i) result
  /-- What is sent is sent by one of the jobs. -/
  owned : ∀ s ∈ t, s.1 < ds.length
  /-- The libraries are the results, in their order, if all of them are good. -/
  all : ∀ ls, libraries = .ok ls ↔ results = ls.map .ok
  /-- Each library is submitted in fields made of the coordinates of its dependency and its version. -/
  fields : ∀ ls, libraries = .ok ls → ls.length = ds.length ∧
    ∀ (i : Nat) (d : Dependency) (l : Library), ds[i]? = some d → ls[i]? = some l →
      let r := Coordinates.ofPath d.root
      l.fields = [("filename", r.name ++ "-" ++ l.version), ("name", r.name),
        ("groupId", r.owner), ("artifactId", r.name), ("version", l.version), ("sha1", ""),
        ("dependencyType", "SOURCE_LIBRARY"),
        ("coordinates", r.owner ++ ":" ++ r.name ++ ":" ++ l.version)]
  /-- Else there is the first failure in that order, which names its dependency, and no list. -/
  first : ∀ failure, libraries = .error failure ↔ ∃ (ls : List Library) (d : Dependency)
    (cause : Failure) (rest : List (Except Failure Library)),
      results = ls.map .ok ++ .error failure :: rest ∧ ds[ls.length]? = some d ∧
        failure = cause.under ("バージョンの解決に失敗: " ++ d.root)

theorem Resolved.coordinates_eq {l : Library} (h : Resolved github d es (.ok l)) :
    l.coordinates = .ofPath d.root := by
  cases h <;> rfl

theorem Resolved.failure_eq {failure : Failure} (h : Resolved github d es (.error failure)) :
    ∃ cause : Failure, failure = cause.under ("バージョンの解決に失敗: " ++ d.root) := by
  cases h with
  | failed => exact ⟨_, rfl⟩

theorem converted_of_interleaving {ds : List Dependency} {w u : World} {t : Trace}
    {results : List (Except Failure Library)}
    (h : Batch.Interleaving (ds.map (libraryJob github)) w t results u) :
    Converted github ds w t results (collect results) u := by
  have hlength : results.length = ds.length := by simpa using h.length
  have hresolved : ∀ (i : Nat) (d : Dependency), ds[i]? = some d →
      ∃ result, results[i]? = some result ∧ Resolved github d (t.own i) result := by
    intro i d hd
    have hj : (ds.map (libraryJob github))[i]? = some (libraryJob github d) := by simp [hd]
    obtain ⟨result, hresult, hends⟩ := h.exists_result hj
    exact ⟨result, hresult, resolved_of_ends hends⟩
  refine ⟨h, hresolved, fun s hs => by simpa using h.owned s hs, fun ls => collect_eq_ok,
    fun ls hls => ?_, fun failure => collect_eq_error.trans ⟨?_, ?_⟩⟩
  · have hresults := collect_eq_ok.1 hls
    refine ⟨by simpa [hresults] using hlength, fun i d l hd hl => ?_⟩
    obtain ⟨result, hresult, hend⟩ := hresolved i d hd
    obtain rfl : .ok l = result := by simpa [hresults, hl] using hresult
    simp only [Library.fields, Library.fileName, Library.identifier, hend.coordinates_eq]
  · -- The first failure stands behind as many libraries as there are dependencies before its own.
    rintro ⟨ls, rest, heq⟩
    have hplace : results[ls.length]? = some (.error failure) := by simp [heq]
    have hi : ls.length < ds.length := hlength ▸ (List.getElem?_eq_some_iff.1 hplace).1
    obtain ⟨result, hresult, hend⟩ := hresolved _ _ (List.getElem?_eq_getElem hi)
    obtain rfl := Option.some.inj (hplace.symm.trans hresult)
    obtain ⟨cause, hcause⟩ := hend.failure_eq
    exact ⟨ls, _, cause, rest, heq, List.getElem?_eq_getElem hi, hcause⟩
  · rintro ⟨ls, _, _, rest, heq, _, _⟩
    exact ⟨ls, rest, heq⟩

/-- Getting the libraries asks questions only. -/
theorem history_libraries (github : GitHub.Client) (workers : Nat) (ds : List Dependency)
    (w : World) :
    ∃ asked : Http.History, (∀ p ∈ asked, Http.IsReading p.1) ∧
      (libraries github workers ds w).2.history = w.history ++ asked := by
  obtain ⟨t, h⟩ := Batch.run_interleaving workers ((targets ds).map (libraryJob github)) w
  refine ⟨Event.exchanges t.events, fun ⟨q, r⟩ hp => ?_, ?_⟩
  · refine Batch.sent_of_talks (fun j hj => ?_) h (Event.mem_exchanges.1 hp)
    obtain ⟨d, _, rfl⟩ := List.mem_map.1 hj
    exact talks_libraryJob github d
  · rw [← World.history_afterAll, h.left]
    rfl

/-- Whatever is answered and in whatever order the jobs take their steps, the dependencies but that
of system calls are converted; if there are none nothing is done at all. -/
theorem libraries_converted (github : GitHub.Client) (workers : Nat) (ds : List Dependency)
    (w : World) :
    (targets ds = [] → libraries github workers ds w = (.ok [], w)) ∧
      ∃ t results, Converted github (ds.filter fun d => d.root ≠ "golang.org/x/sys") w t results
        (libraries github workers ds w).1 (libraries github workers ds w).2 := by
  constructor
  · intro hnone
    simp [libraries, hnone, Batch.run_nil, collect]
  · obtain ⟨t, h⟩ :=
      Batch.run_interleaving workers ((targets ds).map (libraryJob github)) w
    exact ⟨t, _, converted_of_interleaving h⟩

end Submission

end Compliance
