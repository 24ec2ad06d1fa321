import Compliance.Proofs.License.Account
import Compliance.Proofs.Run.Listing

/-!
What a run over all licenses reports, and how it ends by that. The report accounts for each
dependency in the order of the manifest; it is handed out as it is, and the run is a success if no
license is missing from it.
-/

namespace Compliance.Run

open License (Report Entry)

/-! ### Handing out the report -/

def statusOf (report : Report) : Status :=
  if report.allResolved then .success else .failure

theorem concludeLicenses_fst (report : Report) (w : World) :
    ((concludeLicenses report).run w).1 = .ok (statusOf report) := by
  unfold concludeLicenses statusOf
  split <;> rfl

/-- What is printed has no part in what becomes of a file. -/
theorem writeFile_print_fst (w : World) (text path json : String) :
    ((w.print text).writeFile path json).1 = (w.writeFile path json).1 := by
  rw [World.writeFile_fst, World.writeFile_fst]
  rfl

theorem run_writeJson_ok {json path : String} {w : World}
    (h : (w.writeFile path json).1 = .ok ()) :
    (writeJson json path).run w = (.ok (),
      (w.writeFile path json).2.print ("JSONを" ++ path ++ "に書き出しました。")) := by
  have hwritten : (Action.under ("JSONファイルの書き込みに失敗: " ++ path)
      (Action.ofHost (·.writeFile path json))).run w = (.ok (), (w.writeFile path json).2) := by
    rw [Action.run_under, Action.run_ofHost_ok h]
    rfl
  rw [writeJson, Action.run_bind_ok hwritten, Action.run_print]

theorem run_writeJson_error {json path : String} {w : World} {fault : Host.Fault}
    (h : (w.writeFile path json).1 = .error fault) :
    (writeJson json path).run w =
      (.error ⟨["JSONファイルの書き込みに失敗: " ++ path], .host fault⟩,
        (w.writeFile path json).2) := by
  have hrefused : (Action.under ("JSONファイルの書き込みに失敗: " ++ path)
      (Action.ofHost (·.writeFile path json))).run w =
        (.error ⟨["JSONファイルの書き込みに失敗: " ++ path], .host fault⟩,
          (w.writeFile path json).2) := by
    rw [Action.run_under, Action.run_ofHost_error h]
    rfl
  exact Action.run_bind_error hrefused

/-- The world after a value was handed out has its text wherever it was asked for. -/
structure Carried (text : String) (inPrint : Bool) (file : Option String) (u : World) : Prop where
  file : ∀ path, file = some path → u.textAt? path = some text
  print : inPrint = true → u.printed.getLast? = some ("JSON出力:\n" ++ text)

theorem exists_carried_inPrint {v : Json.Value} {file : Option String} {m : World}
    (inPrint : Bool) (h : Carried v.pretty false file m) :
    ∃ u, (if inPrint then Action.print ("JSON出力:\n" ++ v.pretty) else pure ()).run m =
      (.ok (), u) ∧ Carried v.pretty inPrint file u := by
  cases inPrint with
  | false => exact ⟨m, Action.run_pure () m, h⟩
  | true =>
    exact ⟨m.print ("JSON出力:\n" ++ v.pretty), Action.run_print _ m, h.file,
      fun _ => List.getLast?_concat ..⟩

/-- Where the file can be written, if there is one, a value is handed out. -/
theorem exists_carried (v : Json.Value) (inPrint : Bool) (file : Option String) (w : World)
    (h : ∀ path, file = some path → (w.writeFile path v.pretty).1 = .ok ()) :
    ∃ u, (publish v inPrint file).run w = (.ok (), u) ∧ Carried v.pretty inPrint file u := by
  cases file with
  | none => exact exists_carried_inPrint inPrint ⟨nofun, nofun⟩
  | some path =>
    have hwritten : Carried v.pretty false (some path)
        ((w.writeFile path v.pretty).2.print ("JSONを" ++ path ++ "に書き出しました。")) :=
      ⟨fun p hp => Option.some.inj hp ▸ World.textAt?_of_written (h path rfl), nofun⟩
    obtain ⟨u, hu, hcarried⟩ := exists_carried_inPrint inPrint hwritten
    exact ⟨u, (Action.run_bind_ok (run_writeJson_ok (h path rfl))).trans hu, hcarried⟩

theorem run_publish_error {v : Json.Value} {path : String} {w : World} {fault : Host.Fault}
    (inPrint : Bool) (h : (w.writeFile path v.pretty).1 = .error fault) :
    ∃ u, (publish v inPrint (some path)).run w =
      (.error ⟨["JSONファイルの書き込みに失敗: " ++ path], .host fault⟩, u) :=
  ⟨_, Action.run_bind_error (run_writeJson_error h)⟩

section

variable {o : CommandLine.Licenses} {report : Report} {w : World}

/-- The table has no part in what becomes of the file. -/
theorem run_printReport (report : Report) (w : World) :
    ∃ u, (printTable report.table?).run w = (.ok (), u) ∧ ∀ path,
      (u.writeFile path report.json.pretty).1 = (w.writeFile path report.json.pretty).1 := by
  cases report.table? with
  | none => exact ⟨w, rfl, fun _ => rfl⟩
  | some text => exact ⟨w.print text, rfl, fun path => writeFile_print_fst w text path _⟩

theorem handOut_of_written
    (h : ∀ path, o.jsonFile = some path → (w.writeFile path report.json.pretty).1 = .ok ()) :
    ((handOut o report).run w).1 = .ok (statusOf report) := by
  obtain ⟨u, htable, hfile⟩ := run_printReport report w
  obtain ⟨v, hpublish, _⟩ := exists_carried report.json o.printJson o.jsonFile u
    fun path hjson => (hfile path).trans (h path hjson)
  rw [handOut, Action.run_bind_ok htable, Action.run_bind_ok hpublish, concludeLicenses_fst]

theorem handOut_of_refused {path : String} {fault : Host.Fault} (hjson : o.jsonFile = some path)
    (h : (w.writeFile path report.json.pretty).1 = .error fault) :
    ((handOut o report).run w).1 =
      .error ⟨["JSONファイルの書き込みに失敗: " ++ path], .host fault⟩ := by
  obtain ⟨u, htable, hfile⟩ := run_printReport report w
  obtain ⟨v, hpublish⟩ := run_publish_error o.printJson ((hfile path).trans h)
  rw [handOut, Action.run_bind_ok htable, hjson, Action.run_bind_error hpublish]

end

/-! ### The whole run -/

/-- The run reports on the dependencies `ds`: with the folder of the licenses made, which leaves the
world `before`, the jobs take their steps in the order of the trace `t`, and the report that comes of
it is handed out in the world `after`. -/
structure Reported (o : CommandLine.Licenses) (w : World) (ds : List Dependency) (before : World)
    (t : Trace) (report : Report) (after : World) : Prop where
  made : before.tree = (w.makeFolders o.folder).2.tree
  jobs : Batch.Interleaving (ds.map (License.entryJob (asker o.common) ⟨o.folder⟩ o.stalePolicy))
    before t report.entries after
  length : report.entries.length = ds.length
  /-- Each dependency has its entry in the place that it has in the manifest. -/
  entries : ∀ i d, ds[i]? = some d → ∃ entry asked y v, report.entries[i]? = some entry ∧
    before.Meets t i asked v ∧
      License.Accounted (asker o.common) ⟨o.folder⟩ o.stalePolicy d (t.own i) asked y v entry
  handed : (runLicenses o).run w = (handOut o report).run after
  /-- Where the file that is asked for can be written, the report alone decides the end. -/
  success_iff : (∀ path, o.jsonFile = some path →
      (after.writeFile path report.json.pretty).1 = .ok ()) →
    (((runLicenses o).run w).1 = .ok .success ↔ ∀ entry ∈ report.entries,
      entry.outcome = .retrieved ∨ ∃ status, entry.outcome = .onDisk status)
  failure_iff : (∀ path, o.jsonFile = some path →
      (after.writeFile path report.json.pretty).1 = .ok ()) →
    (((runLicenses o).run w).1 = .ok .failure ↔ ∃ entry ∈ report.entries,
      (∃ status, entry.outcome = .missing status) ∨ ∃ reason, entry.outcome = .failed reason)
  /-- Where it cannot be written, that is the end whatever the report says. -/
  refused : ∀ path fault, o.jsonFile = some path →
    (after.writeFile path report.json.pretty).1 = .error fault →
      ((runLicenses o).run w).1 = .error ⟨["JSONファイルの書き込みに失敗: " ++ path], .host fault⟩

theorem status_eq_success {report : Report} : statusOf report = .success ↔
    ∀ entry ∈ report.entries,
      entry.outcome = .retrieved ∨ ∃ status, entry.outcome = .onDisk status := by
  have hresolved : statusOf report = .success ↔ report.allResolved = true := by
    unfold statusOf
    split <;> simp_all
  rw [hresolved, License.Report.allResolved_iff]
  simp only [License.isResolved_iff]

theorem status_eq_failure {report : Report} : statusOf report = .failure ↔
    ∃ entry ∈ report.entries,
      (∃ status, entry.outcome = .missing status) ∨ ∃ reason, entry.outcome = .failed reason := by
  have hresolved : statusOf report = .failure ↔ ¬ report.allResolved = true := by
    unfold statusOf
    split <;> simp_all
  rw [hresolved, License.Report.allResolved_iff]
  simp only [not_forall, Bool.not_eq_true, License.isResolved_eq_false_iff, exists_prop]

def listedFor (o : CommandLine.Licenses) (w : World) (start : Option Host.Start)
    (ds : List Dependency) : World :=
  (listedBy (w.print "> Goの依存関係を取得し、ライセンスを保存します...") o.repository start).note
    (.manifestRead ds.length)

/-- Up to there nothing has happened to the files. -/
theorem makeFolders_listedFor (o : CommandLine.Licenses) (w : World) (start : Option Host.Start)
    (ds : List Dependency) (path : String) :
    ((listedFor o w start ds).makeFolders path).1 = (w.makeFolders path).1 ∧
      ((listedFor o w start ds).makeFolders path).2.tree = (w.makeFolders path).2.tree := by
  cases start with
  | none => exact ⟨rfl, rfl⟩
  | some s => exact ⟨rfl, rfl⟩

theorem run_openAt {folder : String} {u : World} (h : (u.makeFolders folder).1 = .ok ()) :
    (License.Store.openAt folder).run u = (.ok ⟨folder⟩, (u.makeFolders folder).2) := by
  have hmade : (Action.ofHost (·.makeFolders folder)).run u =
      (.ok (), (u.makeFolders folder).2) := Action.run_ofHost_ok h
  rw [License.Store.openAt, Action.run_under, Action.run_bind_ok hmade, Action.run_pure]
  rfl

/-- The licenses are fetched in the world with the folder for them. -/
theorem run_fetchLicenses (o : CommandLine.Licenses) (ds : List Dependency) {u v : World}
    {report : Report} (hfolder : (u.makeFolders o.folder).1 = .ok ())
    (h : License.fetchAll (asker o.common) ⟨o.folder⟩ o.stalePolicy o.common.workers ds
      (u.makeFolders o.folder).2 = (report, v)) :
    (fetchLicenses o ds).run u = (.ok report, v) := by
  rw [fetchLicenses, Action.run_bind_ok (run_openAt hfolder), githubClient_eq,
    Action.run_bind_ok (Action.run_ofExcept _ _), Action.run_modifyGet, h]

section

variable {o : CommandLine.Licenses} {w : World} {start : Option Host.Start}
  {ds : List Dependency}

theorem run_of_listing (h : Listing w o.repository o.common.manifestLine start (.ok ds))
    (hsome : ds ≠ []) : (runLicenses o).run w =
      (do handOut o (← fetchLicenses o ds) : Action Status).run (listedFor o w start ds) := by
  have hfull : ds.isEmpty = false := by simpa using hsome
  rw [runLicenses, Action.run_bind_ok (Action.run_print _ w), Action.run_bind_ok (h.run_eq _),
    licensesFrom, Action.run_bind_ok (Action.run_note _ _), hfull]
  rfl

/-- A run that has its dependencies and can make its folder fetches their licenses. -/
theorem run_of_made (h : Listing w o.repository o.common.manifestLine start (.ok ds))
    (hsome : ds ≠ []) (hfolder : (w.makeFolders o.folder).1 = .ok ()) :
    ∃ before report after, before.tree = (w.makeFolders o.folder).2.tree ∧
      License.fetchAll (asker o.common) ⟨o.folder⟩ o.stalePolicy o.common.workers ds before =
        (report, after) ∧
      (runLicenses o).run w = (handOut o report).run after := by
  obtain ⟨hmade, htree⟩ := makeFolders_listedFor o w start ds o.folder
  refine ⟨((listedFor o w start ds).makeFolders o.folder).2, _, _, htree, rfl, ?_⟩
  have hfetched := run_fetchLicenses o ds (hmade.trans hfolder) rfl
  rw [run_of_listing h hsome, Action.run_bind_ok hfetched]

end

/-- A run over all licenses reports on each dependency and ends by what it reports, whatever the
servers answer, whatever stands in the folder and in whatever order the jobs take their steps. -/
theorem runLicenses_reported (o : CommandLine.Licenses) (w : World) {start : Option Host.Start}
    {ds : List Dependency} (h : Listing w o.repository o.common.manifestLine start (.ok ds))
    (hsome : ds ≠ []) (hfolder : (w.makeFolders o.folder).1 = .ok ()) :
    ∃ before t report after, Reported o w ds before t report after := by
  obtain ⟨before, report, after, hmade, hfetched, hrun⟩ := run_of_made h hsome hfolder
  obtain ⟨t, hjobs⟩ : ∃ t, Batch.Interleaving (ds.map (License.entryJob (asker o.common) ⟨o.folder⟩
      o.stalePolicy)) before t report.entries after := by
    obtain ⟨rfl, rfl⟩ := Prod.mk.inj hfetched
    exact Batch.run_interleaving _ _ before
  have hlength : report.entries.length = ds.length := by simpa using hjobs.length
  have hwritten (hfile : ∀ path, o.jsonFile = some path →
      (after.writeFile path report.json.pretty).1 = .ok ()) :
      ((runLicenses o).run w).1 = .ok (statusOf report) := by
    rw [hrun, handOut_of_written hfile]
  refine ⟨before, t, report, after, ?_⟩
  exact
    { made := hmade
      jobs := hjobs
      length := hlength
      entries := fun i d hd => by
        have hi : i < report.entries.length :=
          hlength ▸ (List.getElem?_eq_some_iff.1 hd).1
        have hentry : report.entries[i]? = some report.entries[i] := List.getElem?_eq_getElem hi
        obtain ⟨d', asked, y, v, hd', hmeets, haccounted⟩ :=
          License.accounted_of_interleaving hjobs hentry
        obtain rfl := Option.some.inj (hd.symm.trans hd')
        exact ⟨_, asked, y, v, hentry, hmeets, haccounted⟩
      handed := hrun
      success_iff := fun hfile => by
        rw [hwritten hfile, Except.ok.injEq, status_eq_success]
      failure_iff := fun hfile => by
        rw [hwritten hfile, Except.ok.injEq, status_eq_failure]
      refused := fun path fault hjson hrefused => by
        rw [hrun, handOut_of_refused hjson hrefused] }

def forgiving : CommandLine.Licenses where
  repository := "/"
  folder := "/licenses"
  stalePolicy := .accept
  jsonFile := none
  printJson := false
  common := ⟨none, "http://[::1]", "dep", 1, 1, 3, 0, false⟩

def lacking : World :=
  { World.quiet with
    network := fun _ _ => .answer ⟨404, none, [], true⟩
    programs := fun _ => .ok ⟨"[[\"a/b/c\",\"\",\"1.0\"]]".toUTF8.toList, [], .exited 0⟩ }

theorem listing_lacking : Listing lacking forgiving.repository forgiving.common.manifestLine
    (some ⟨[], "dep", []⟩) (.ok [⟨"a/b/c", "", "1.0"⟩]) := by
  have hparse : (Manifest.parse (Text.textOfBytes "[[\"a/b/c\",\"\",\"1.0\"]]".toUTF8.toList)).toOption =
      some [⟨"a/b/c", "", "1.0"⟩] := by decide +kernel
  exact .listed ⟨by decide +kernel, by decide +kernel⟩ rfl rfl (by decide +kernel)
    (toOption_eq_some.1 hparse)

/-- Where a license is not to be had and no file stands in for it the run fails. -/
theorem runLicenses_reported_missing :
    [(⟨"a/b/c", "", "1.0"⟩ : Dependency)] ≠ [] ∧
      (lacking.makeFolders forgiving.folder).1 = .ok () ∧
      (∃ before t report after, Reported forgiving lacking [⟨"a/b/c", "", "1.0"⟩] before t report
        after) ∧
      ((runLicenses forgiving).run lacking).1.toOption = some .failure := by
  have hfolder : (lacking.makeFolders forgiving.folder).1 = .ok () :=
    toOption_eq_some.1 (by decide +kernel)
  have hsome : [(⟨"a/b/c", "", "1.0"⟩ : Dependency)] ≠ [] := List.cons_ne_nil _ _
  exact ⟨hsome, hfolder, runLicenses_reported forgiving lacking listing_lacking hsome hfolder,
    by decide +kernel⟩

end Compliance.Run
