import Compliance.License.Fetch
import Compliance.Proofs.GitHub.Asking
import Compliance.Proofs.Work.Folder

/-!
What the job for one dependency does from its beginning to its end: the license is asked for, what
came of it is settled on the files, and the outcome is noted down. Each way of settling it is a case
of one relation, from which all else is read off.
-/

namespace Compliance

namespace Coordinates

/-- The file of a repository is an entry of its own in the folder. -/
theorem isEntry_fileName {r : Coordinates} (h : r.IsPlain) : Host.Path.IsEntry r.fileName := by
  have hlist : r.fileName.toList = r.owner.toList ++ '-' :: '-' :: r.name.toList := by
    simp [fileName]
  have hmem : '-' ∈ r.fileName.toList := by simp [hlist]
  refine ⟨?_, ?_, ?_, ?_⟩
  · intro heq
    simp [heq] at hmem
  · rw [hlist]
    simpa using not_or.2 h
  · intro heq
    rw [heq] at hmem
    exact absurd hmem (by decide)
  · intro heq
    rw [heq] at hmem
    exact absurd hmem (by decide)

/-- An owner as GitHub has them now: no two hyphens in a row, and none at the end. -/
def HasTidyOwner (r : Coordinates) : Prop :=
  ¬ ['-', '-'] <:+: r.owner.toList ∧ r.owner.toList.getLast? ≠ some '-'

theorem append_hyphens_inj {o o' n n' x : List Char} (hpair : ¬ ['-', '-'] <:+: o')
    (hlast : o'.getLast? ≠ some '-') (ho : o' = o ++ x)
    (h : '-' :: '-' :: n = x ++ '-' :: '-' :: n') : o = o' ∧ n = n' := by
  -- If `o` were shorter than `o'`, the rest of `o'` would begin with the hyphens behind `o`.
  match x with
  | [] => simp_all
  | [c] =>
    obtain rfl : '-' = c := by simpa using (List.cons.inj h).1
    simp [ho] at hlast
  | c :: d :: y =>
    obtain ⟨rfl, hrest⟩ := List.cons.inj h
    obtain ⟨rfl, _⟩ := List.cons.inj hrest
    exact absurd ⟨o, y, by simp [ho]⟩ hpair

/-- Repositories with tidy owners share no file. -/
theorem fileName_inj {r r' : Coordinates} (hr : r.HasTidyOwner) (hr' : r'.HasTidyOwner)
    (h : r.fileName = r'.fileName) : r = r' := by
  have hlist : r.owner.toList ++ '-' :: '-' :: r.name.toList =
      r'.owner.toList ++ '-' :: '-' :: r'.name.toList := by
    simpa [fileName] using congrArg String.toList h
  have hparts : r.owner.toList = r'.owner.toList ∧ r.name.toList = r'.name.toList := by
    rcases List.append_eq_append_iff.1 hlist with ⟨x, ho, hn⟩ | ⟨x, ho, hn⟩
    · exact append_hyphens_inj hr'.1 hr'.2 ho hn
    · obtain ⟨howner, hname⟩ := append_hyphens_inj hr.1 hr.2 ho hn
      exact ⟨howner.symm, hname.symm⟩
  obtain ⟨owner, name⟩ := r
  obtain ⟨owner', name'⟩ := r'
  obtain rfl := String.toList_inj.1 hparts.1
  obtain rfl := String.toList_inj.1 hparts.2
  rfl

end Coordinates

namespace License

theorem isPlain_coordinatesOf (root : String) : (coordinatesOf root).IsPlain :=
  Coordinates.isPlain_ofPath _

theorem isEntry_coordinatesOf (root : String) :
    Host.Path.IsEntry (coordinatesOf root).fileName :=
  Coordinates.isEntry_fileName (isPlain_coordinatesOf root)

/-- What can become of what was fetched: the events on the way, and the outcome. -/
inductive Settled (store : Store) (policy : StalePolicy) (r : Coordinates) :
    Except Failure GitHub.Fetched → List Event → Outcome → Prop
  | lost (failure : Failure) : Settled store policy r (.error failure) [] (.failed failure.message)
  | kept (text : String) :
      Settled store policy r (.ok (.found text)) [.wrote (store.pathFor r) text (.ok ())] .retrieved
  | refused (text : String) (fault : Host.Fault) :
      Settled store policy r (.ok (.found text)) [.wrote (store.pathFor r) text (.error fault)]
        (.failed (Failure.mk ["ライセンスファイルの書き込みに失敗: " ++ store.pathFor r]
          (.host fault)).message)
  | unasked (status : Http.Status) (h : policy = .reject) :
      Settled store policy r (.ok (.unavailable status)) [] (.missing status)
  | absent (status : Http.Status) (h : policy = .accept) :
      Settled store policy r (.ok (.unavailable status)) [.looked (store.pathFor r) false]
        (.missing status)
  | present (status : Http.Status) (h : policy = .accept) :
      Settled store policy r (.ok (.unavailable status))
        (.looked (store.pathFor r) true ::
          if isRateLimit status then [.noted (.rateLimited r.slug status)] else [])
        (.onDisk status)

variable {github : GitHub.Client} {store : Store} {policy : StalePolicy} {r : Coordinates}

theorem settled_of_ends_fallback {status : Http.Status} {es : List Event} {o : Outcome}
    (h : (fallback store policy r status).Ends es o) :
    Settled store policy r (.ok (.unavailable status)) es o := by
  cases policy with
  | reject =>
    obtain ⟨rfl, rfl⟩ := Job.ends_done.1 h
    exact .unasked status rfl
  | accept =>
    obtain ⟨b, fs, rfl, hb⟩ := Job.ends_look.1 h
    cases b with
    | false =>
      obtain ⟨rfl, rfl⟩ := Job.ends_done.1 hb
      exact .absent status rfl
    | true =>
      have hpresent : Settled store .accept r (.ok (.unavailable status)) _ _ :=
        .present status rfl
      by_cases hlimit : isRateLimit status = true
      · simp only [hlimit, if_true, Job.bind] at hb hpresent
        obtain ⟨_, rfl, hdone⟩ := Job.ends_note.1 hb
        obtain ⟨rfl, rfl⟩ := Job.ends_done.1 hdone
        exact hpresent
      · simp only [hlimit, Job.bind] at hb hpresent
        obtain ⟨rfl, rfl⟩ := Job.ends_done.1 hb
        exact hpresent

theorem ends_obtain {es : List Event} {o : Outcome}
    (h : (obtain github store policy r).Ends es o) :
    ∃ asked x filed, es = asked ++ filed ∧ (github.fetchLicense r).Ends asked x ∧
      Settled store policy r x filed o := by
  obtain ⟨asked, x, filed, rfl, hasked, hrest⟩ := Job.ends_bind.1 h
  refine ⟨asked, x, filed, rfl, hasked, ?_⟩
  match x with
  | .error failure =>
    obtain ⟨rfl, rfl⟩ := Job.ends_done.1 hrest
    exact .lost failure
  | .ok (.unavailable status) => exact settled_of_ends_fallback hrest
  | .ok (.found text) =>
    obtain ⟨result, fs, rfl, hdone⟩ := Job.ends_write.1 hrest
    cases result with
    | ok _ =>
      obtain ⟨rfl, rfl⟩ := Job.ends_done.1 hdone
      exact .kept text
    | error fault =>
      obtain ⟨rfl, rfl⟩ := Job.ends_done.1 hdone
      exact .refused text fault

/-- The whole job for a dependency: what was asked, what was done to files, and one notice. -/
inductive Entered (github : GitHub.Client) (store : Store) (policy : StalePolicy)
    (d : Dependency) : List Event → Entry → Prop
  | intro {asked filed : List Event} {x : Except Failure GitHub.Fetched} {o : Outcome}
      (fetched : (github.fetchLicense (coordinatesOf d.root)).Ends asked x)
      (settled : Settled store policy (coordinatesOf d.root) x filed o) :
      Entered github store policy d
        (asked ++ filed ++ [.noted (.outcome (coordinatesOf d.root).slug o)])
        ⟨d.root, (coordinatesOf d.root).owner, (coordinatesOf d.root).name, o⟩

theorem entered_of_ends {d : Dependency} {es : List Event} {entry : Entry}
    (h : (entryJob github store policy d).Ends es entry) :
    Entered github store policy d es entry := by
  obtain ⟨fs, o, gs, rfl, hobtain, hrest⟩ := Job.ends_bind.1 h
  obtain ⟨_, rfl, hdone⟩ := Job.ends_note.1 hrest
  obtain ⟨rfl, rfl⟩ := Job.ends_done.1 hdone
  obtain ⟨asked, x, filed, rfl, hasked, hsettled⟩ := ends_obtain hobtain
  exact .intro hasked hsettled

/-! ### Files -/

variable {x : Except Failure GitHub.Fetched} {d : Dependency} {es : List Event} {o : Outcome}
  {entry : Entry}

theorem Settled.isIn (h : Settled store policy r x es o) (hr : Host.Path.IsEntry r.fileName) :
    ∀ e ∈ es, e.IsIn store.folder := by
  cases h with
  | lost => simp
  | unasked => simp
  | kept text => simpa [Event.IsIn] using ⟨_, hr, rfl⟩
  | refused text => simpa [Event.IsIn] using ⟨_, hr, rfl⟩
  | absent => simpa [Event.IsIn] using ⟨_, hr, rfl⟩
  | present status =>
    intro e he
    rcases List.mem_cons.1 he with rfl | he
    · exact ⟨_, hr, rfl⟩
    · split at he
      · obtain rfl := List.mem_singleton.1 he
        trivial
      · cases he

/-- The job touches no file but its own. -/
theorem Entered.isIn (h : Entered github store policy d es entry) :
    ∀ e ∈ es, e.IsIn store.folder := by
  cases h with
  | intro hasked hsettled =>
    intro e he
    rcases List.mem_append.1 he with he | he
    · rcases List.mem_append.1 he with he | he
      · refine Event.isIn_of_isOnFile_eq _ ?_
        exact (GitHub.talks_fetchLicense github _).isOnFile_eq hasked e he
      · exact hsettled.isIn (isEntry_coordinatesOf d.root) e he
    · obtain rfl := List.mem_singleton.1 he
      trivial

/-- An event on files in the job is one of those by which the outcome is settled. -/
theorem mem_filed {asked filed : List Event} {n : Notice} {e : Event}
    (hasked : (github.fetchLicense r).Ends asked x) (hfile : e.isOnFile = true)
    (he : e ∈ asked ++ filed ++ [.noted n]) : e ∈ filed := by
  rcases List.mem_append.1 he with he | he
  · rcases List.mem_append.1 he with he | he
    · have hnone := (GitHub.talks_fetchLicense github r).isOnFile_eq hasked e he
      rw [hfile] at hnone
      cases hnone
    · exact he
  · obtain rfl := List.mem_singleton.1 he
    cases hfile

theorem Settled.exchanges_eq (h : Settled store policy r x es o) : Event.exchanges es = [] := by
  cases h with
  | present status =>
    split <;> rfl
  | _ => rfl

/-- A write that is not refused gives the text that was found to the file of the repository, and the
license counts as retrieved. -/
theorem Settled.of_wrote {path text : String} (h : Settled store policy r x es o)
    (he : .wrote path text (.ok ()) ∈ es) :
    path = store.pathFor r ∧ x = .ok (.found text) ∧ o = .retrieved := by
  cases h with
  | lost => simp at he
  | unasked => simp at he
  | kept text' =>
    obtain ⟨rfl, rfl⟩ : path = store.pathFor r ∧ text = text' := by simpa using he
    exact ⟨rfl, rfl, rfl⟩
  | refused text' fault => simp at he
  | absent => simp at he
  | present status => split at he <;> simp at he

/-- A file is looked for where GitHub has no license to give and one from an earlier run will do. -/
theorem Settled.of_looked {path : String} {b : Bool} (h : Settled store policy r x es o)
    (he : .looked path b ∈ es) :
    path = store.pathFor r ∧ policy = .accept ∧ ∃ status, x = .ok (.unavailable status) := by
  cases h with
  | absent status hpolicy =>
    obtain ⟨rfl, _⟩ : path = store.pathFor r ∧ b = false := by simpa using he
    exact ⟨rfl, hpolicy, status, rfl⟩
  | present status hpolicy =>
    have hpath : path = store.pathFor r := by
      rcases List.mem_cons.1 he with heq | he
      · exact (Event.looked.inj heq).1
      · split at he <;> simp at he
    exact ⟨hpath, hpolicy, status, rfl⟩
  | _ => simp at he

theorem Settled.looked_of_onDisk {status : Nat}
    (h : Settled store policy r x es (.onDisk status)) : .looked (store.pathFor r) true ∈ es := by
  generalize ho : Outcome.onDisk status = o at h
  cases h with
  | present => exact List.mem_cons_self
  | _ => cases ho

theorem Settled.wrote_of_retrieved (h : Settled store policy r x es .retrieved) :
    ∃ text, .wrote (store.pathFor r) text (.ok ()) ∈ es := by
  generalize ho : Outcome.retrieved = o at h
  cases h with
  | kept text => exact ⟨text, List.mem_singleton_self _⟩
  | _ => cases ho

theorem Settled.looked_of_missing {status : Nat} (hpolicy : policy = .accept)
    (h : Settled store policy r x es (.missing status)) :
    .looked (store.pathFor r) false ∈ es := by
  subst hpolicy
  generalize ho : Outcome.missing status = o at h
  cases h with
  | absent => exact List.mem_singleton_self _
  | unasked _ h => cases h
  | _ => cases ho

theorem Entered.of_wrote {path text : String} (h : Entered github store policy d es entry)
    (he : .wrote path text (.ok ()) ∈ es) :
    path = store.pathFor (coordinatesOf d.root) ∧ entry.outcome = .retrieved ∧
      GitHub.Serves es text := by
  cases h with
  | intro hasked hsettled =>
    obtain ⟨rfl, rfl, rfl⟩ := hsettled.of_wrote (mem_filed hasked rfl he)
    refine ⟨rfl, rfl, ?_⟩
    obtain ⟨answer, hlast, hstatus, htext⟩ := GitHub.serves_of_found hasked
    refine ⟨answer, ?_, hstatus, htext⟩
    rw [List.append_assoc, Http.lastReply?_append_of_nil _ (by simp [hsettled.exchanges_eq]; rfl),
      hlast]

theorem Entered.wrote_of_retrieved (h : Entered github store policy d es entry)
    (ho : entry.outcome = .retrieved) :
    ∃ text, .wrote (store.pathFor (coordinatesOf d.root)) text (.ok ()) ∈ es := by
  cases h with
  | intro hasked hsettled =>
    subst ho
    obtain ⟨text, hmem⟩ := hsettled.wrote_of_retrieved
    exact ⟨text, by simp [hmem]⟩

theorem Entered.looked_of_missing {status : Nat} (hpolicy : policy = .accept)
    (h : Entered github store policy d es entry) (ho : entry.outcome = .missing status) :
    .looked (store.pathFor (coordinatesOf d.root)) false ∈ es := by
  cases h with
  | intro hasked hsettled =>
    subst ho
    have hmem := hsettled.looked_of_missing hpolicy
    simp [hmem]

end License

end Compliance
