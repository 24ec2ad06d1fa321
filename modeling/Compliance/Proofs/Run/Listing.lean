import Compliance.Proofs.Run.Submission
import Compliance.Proofs.Text.Pieces
import Compliance.Run.Licenses

/-!
What both programs do first: they list the dependencies of a repository. The stages of it stand in
one order, and the first that fails decides how the run ends. Up to then nothing is sent and no file
is touched; and from then on no further program is started.
-/

namespace Compliance

namespace Manifest

variable {c : Command} {output : Host.Output}

/-! ### The stages up to the start of the command -/

theorem Command.parse_of_blank {line : String} (h : Text.isAllBlank line = true) :
    parse line = none := by
  rw [parse, Text.words_eq_nil_iff.2 h]

/-- The words of a line are those of its command. -/
theorem Command.exists_parse {line : String} (h : Text.isAllBlank line = false) :
    ∃ c, parse line = some c ∧ Text.words line = c.program :: c.args := by
  unfold parse
  cases hwords : Text.words line with
  | nil =>
    rw [Text.words_eq_nil_iff.1 hwords] at h
    cases h
  | cons program args => exact ⟨_, rfl, rfl⟩

def ended (c : Command) : Except Host.Fault Host.Output → Except Failure (List Dependency)
  | .error fault => .error (.of (.manifestNotStarted c.shown fault))
  | .ok output => listed c output

theorem run_list_of_none {path : String} {w : World}
    (h : w.tree.findFolder? w.folder path = none) :
    (list path c).run w = (.error (.of (.repositoryMissing path)), w) := by
  have hrepository : (repository path).run w = (.error (.of (.repositoryMissing path)), w) := by
    rw [repository, Action.run_bind_ok (Action.run_get w), h, Action.run_fail]
  exact Action.run_bind_error hrepository

theorem run_list_of_some {path : String} {w : World} {l : Host.Location}
    (h : w.tree.findFolder? w.folder path = some l) :
    (list path c).run w = (ended c (w.programs.start ⟨l, c.program, c.args⟩),
      ((w.note (.readingManifest c.shown path)).startProgram ⟨l, c.program, c.args⟩).2) := by
  have hrepository : (repository path).run w = (.ok l, w) := by
    rw [repository, Action.run_bind_ok (Action.run_get w), h, Action.run_pure]
  have hstarted (u : World) : (modifyGet (·.startProgram ⟨l, c.program, c.args⟩) : Action _).run u =
      (.ok (u.programs.start ⟨l, c.program, c.args⟩),
        (u.startProgram ⟨l, c.program, c.args⟩).2) := rfl
  rw [list, Action.run_bind_ok hrepository, Action.run_bind_ok (Action.run_note _ w),
    Action.run_bind_ok (hstarted _)]
  have hprograms : (w.note (.readingManifest c.shown path)).programs = w.programs := rfl
  rw [hprograms]
  cases w.programs.start ⟨l, c.program, c.args⟩ with
  | error fault => exact Action.run_fail _ _
  | ok output => exact Action.run_ofExcept _ _

/-! ### The stages after the end of the command -/

theorem listed_of_failed (h : output.ending ≠ .exited 0) :
    listed c output = .error (.of (.manifestFailed c.shown output.ending.text
      (Text.trim (Text.textOfBytes output.complaints)))) := by
  have hfailure : output.ending.isSuccess = false := by
    simpa [Host.Ending.isSuccess] using h
  rw [listed, hfailure]
  rfl

theorem listed_of_complained (hend : output.ending = .exited 0)
    (h : Text.isAllBlank (Text.textOfBytes output.complaints) = false) :
    listed c output = .error (.of (.manifestComplained c.shown
      (Text.trim (Text.textOfBytes output.complaints)))) := by
  have hsuccess : output.ending.isSuccess = true := by rw [hend]; rfl
  have htrim : Text.trim (Text.textOfBytes output.complaints) ≠ "" := fun htrim => by
    rw [Text.trim_eq_empty_iff.1 htrim] at h
    cases h
  rw [listed, hsuccess]
  simp only [Bool.not_true, Bool.false_eq_true, if_false]
  rw [if_pos htrim]

theorem listed_of_quiet (hend : output.ending = .exited 0)
    (h : Text.isAllBlank (Text.textOfBytes output.complaints) = true) :
    listed c output =
      (parse (Text.textOfBytes output.written)).mapError fun e => .of (.manifestMalformed e) := by
  have hsuccess : output.ending.isSuccess = true := by rw [hend]; rfl
  have htrim : Text.trim (Text.textOfBytes output.complaints) = "" := Text.trim_eq_empty_iff.2 h
  rw [listed, hsuccess]
  simp only [Bool.not_true, Bool.false_eq_true, if_false]
  rw [if_neg (not_not_intro htrim)]

end Manifest

namespace Run

/-! ### How the dependencies are listed -/

/-- The program that lists the dependencies: the first word of a line, with the other words as its
arguments, in the folder of the repository. -/
structure Lists (w : World) (repository line : String) (s : Host.Start) : Prop where
  words : Text.words line = s.program :: s.args
  folder : w.tree.findFolder? w.folder repository = some s.folder

def shown (s : Host.Start) : String := " ".intercalate (s.program :: s.args)

/-- How the dependencies are listed: the start that is attempted, if it comes to that, and what
comes of it. The stages stand in their order, and each is reached through those before it. -/
inductive Listing (w : World) (repository line : String) :
    Option Host.Start → Except Failure (List Dependency) → Prop
  | wordless (h : Text.isAllBlank line = true) :
      Listing w repository line none (.error (.of .commandEmpty))
  | folderless (hline : Text.isAllBlank line = false)
      (h : w.tree.findFolder? w.folder repository = none) :
      Listing w repository line none (.error (.of (.repositoryMissing repository)))
  | unstarted {s : Host.Start} {fault : Host.Fault} (hs : Lists w repository line s)
      (h : w.programs.start s = .error fault) :
      Listing w repository line (some s) (.error (.of (.manifestNotStarted (shown s) fault)))
  | failed {s : Host.Start} {output : Host.Output} (hs : Lists w repository line s)
      (hstart : w.programs.start s = .ok output) (h : output.ending ≠ .exited 0) :
      Listing w repository line (some s) (.error (.of (.manifestFailed (shown s)
        output.ending.text (Text.trim (Text.textOfBytes output.complaints)))))
  | complained {s : Host.Start} {output : Host.Output} (hs : Lists w repository line s)
      (hstart : w.programs.start s = .ok output) (hend : output.ending = .exited 0)
      (h : Text.isAllBlank (Text.textOfBytes output.complaints) = false) :
      Listing w repository line (some s) (.error (.of (.manifestComplained (shown s)
        (Text.trim (Text.textOfBytes output.complaints)))))
  | malformed {s : Host.Start} {output : Host.Output} {e : Json.Error}
      (hs : Lists w repository line s) (hstart : w.programs.start s = .ok output)
      (hend : output.ending = .exited 0)
      (hquiet : Text.isAllBlank (Text.textOfBytes output.complaints) = true)
      (h : Manifest.parse (Text.textOfBytes output.written) = .error e) :
      Listing w repository line (some s) (.error (.of (.manifestMalformed e)))
  | listed {s : Host.Start} {output : Host.Output} {ds : List Dependency}
      (hs : Lists w repository line s) (hstart : w.programs.start s = .ok output)
      (hend : output.ending = .exited 0)
      (hquiet : Text.isAllBlank (Text.textOfBytes output.complaints) = true)
      (h : Manifest.parse (Text.textOfBytes output.written) = .ok ds) :
      Listing w repository line (some s) (.ok ds)

def attempts (w : World) (start : Option Host.Start) :
    List (Host.Start × Except Host.Fault Host.Output) :=
  start.toList.map fun s => (s, w.programs.start s)

def listedBy (w : World) (repository : String) : Option Host.Start → World
  | none => w
  | some s => ((w.note (.readingManifest (shown s) repository)).startProgram s).2

theorem starts_listedBy (w : World) (repository : String) (start : Option Host.Start) :
    (listedBy w repository start).starts = w.starts ++ attempts w start := by
  cases start with
  | none => exact (List.append_nil _).symm
  | some s => rfl

theorem tree_listedBy (w : World) (repository : String) (start : Option Host.Start) :
    (listedBy w repository start).tree = w.tree ∧
      (listedBy w repository start).history = w.history := by
  cases start with
  | none => exact ⟨rfl, rfl⟩
  | some s => exact ⟨rfl, rfl⟩

/-- There is one way or another in which the dependencies are listed. -/
theorem exists_listing (w : World) (repository line : String) :
    ∃ start result, Listing w repository line start result := by
  cases hline : Text.isAllBlank line with
  | true => exact ⟨_, _, .wordless hline⟩
  | false =>
    obtain ⟨c, _, hwords⟩ := Manifest.Command.exists_parse hline
    cases hfolder : w.tree.findFolder? w.folder repository with
    | none => exact ⟨_, _, .folderless hline hfolder⟩
    | some l =>
      have hs : Lists w repository line ⟨l, c.program, c.args⟩ := ⟨hwords, hfolder⟩
      cases hstart : w.programs.start ⟨l, c.program, c.args⟩ with
      | error fault => exact ⟨_, _, .unstarted hs hstart⟩
      | ok output =>
        by_cases hend : output.ending = .exited 0
        · cases hblank : Text.isAllBlank (Text.textOfBytes output.complaints) with
          | false => exact ⟨_, _, .complained hs hstart hend hblank⟩
          | true =>
            cases hparse : Manifest.parse (Text.textOfBytes output.written) with
            | error e => exact ⟨_, _, .malformed hs hstart hend hblank hparse⟩
            | ok ds => exact ⟨_, _, .listed hs hstart hend hblank hparse⟩
        · exact ⟨_, _, .failed hs hstart hend⟩

section

variable {w : World} {repository : String} {c : CommandLine.Common}

/-- Where the program is known and its folder is there, the program is started. What was printed
before makes no difference. -/
theorem Lists.run_eq {s : Host.Start} (hs : Lists w repository c.manifestLine s) (text : String) :
    (dependencies repository c).run (w.print text) =
      (Manifest.ended ⟨s.program, s.args⟩ (w.programs.start s),
        listedBy (w.print text) repository (some s)) := by
  have hcommand : c.manifestCommand = .ok ⟨s.program, s.args⟩ := by
    rw [CommandLine.Common.manifestCommand, Manifest.Command.parse, hs.words]
  rw [dependencies, Action.run_bind, Action.run_ofExcept, hcommand]
  exact Manifest.run_list_of_some hs.folder

/-- The dependencies come out as they are listed. -/
theorem Listing.run_eq {start : Option Host.Start} {result : Except Failure (List Dependency)}
    (h : Listing w repository c.manifestLine start result) (text : String) :
    (dependencies repository c).run (w.print text) =
      (result, listedBy (w.print text) repository start) := by
  cases h with
  | wordless hline =>
    rw [dependencies, Action.run_bind, Action.run_ofExcept, CommandLine.Common.manifestCommand,
      Manifest.Command.parse_of_blank hline]
    rfl
  | folderless hline hfolder =>
    obtain ⟨command, hparse, _⟩ := Manifest.Command.exists_parse hline
    rw [dependencies, Action.run_bind, Action.run_ofExcept, CommandLine.Common.manifestCommand,
      hparse]
    exact Manifest.run_list_of_none hfolder
  | unstarted hs hstart =>
    rw [hs.run_eq, hstart]
    rfl
  | failed hs hstart hend =>
    rw [hs.run_eq, hstart, Manifest.ended, Manifest.listed_of_failed hend]
    rfl
  | complained hs hstart hend hloud =>
    rw [hs.run_eq, hstart, Manifest.ended, Manifest.listed_of_complained hend hloud]
    rfl
  | malformed hs hstart hend hquiet hparse =>
    rw [hs.run_eq, hstart, Manifest.ended, Manifest.listed_of_quiet hend hquiet, hparse]
    rfl
  | listed hs hstart hend hquiet hparse =>
    rw [hs.run_eq, hstart, Manifest.ended, Manifest.listed_of_quiet hend hquiet, hparse]
    rfl

end

/-! ### After the listing no program is started -/

section

open Compliance.Action

theorem leaves_print (text : String) : (Action.print text).Leaves World.starts := fun _ => rfl

theorem leaves_note (n : Notice) : (Action.note n).Leaves World.starts := fun _ => rfl

theorem starts_writeFile (w : World) (path text : String) :
    (w.writeFile path text).2.starts = w.starts := by
  rw [World.writeFile_snd]

theorem leaves_printTable (table : Option String) : (printTable table).Leaves World.starts := by
  cases table with
  | none => exact leaves_pure ()
  | some text => exact leaves_print text

theorem leaves_publish (v : Json.Value) (inPrint : Bool) (file : Option String) :
    (publish v inPrint file).Leaves World.starts := by
  have hprint : (if inPrint then Action.print ("JSON出力:\n" ++ v.pretty) else pure ()).Leaves
      World.starts := by
    cases inPrint with
    | true => exact leaves_print _
    | false => exact leaves_pure ()
  cases file with
  | none => exact hprint
  | some path =>
    refine Leaves.bind ?_ fun _ => hprint
    refine Leaves.bind ?_ fun _ => leaves_print _
    exact (leaves_ofHost fun w => starts_writeFile w path v.pretty).under _

theorem leaves_concludeLicenses (report : License.Report) :
    (concludeLicenses report).Leaves World.starts := by
  unfold concludeLicenses
  split
  · exact (leaves_print _).bind fun _ => leaves_pure _
  · exact (leaves_print _).bind fun _ => (leaves_note _).bind fun _ => leaves_pure _

theorem leaves_fetchLicenses (o : CommandLine.Licenses) (ds : List Dependency) :
    (fetchLicenses o ds).Leaves World.starts := by
  refine Leaves.bind ?_ fun store => (leaves_ofExcept _).bind fun github => ?_
  · refine Leaves.under ?_ _
    exact (leaves_ofHost fun _ => rfl).bind fun _ => leaves_pure _
  · exact leaves_modifyGet fun w => Batch.starts_run _ _ w

theorem leaves_handOut (o : CommandLine.Licenses) (report : License.Report) :
    (handOut o report).Leaves World.starts := by
  refine (leaves_printTable _).bind fun _ => ?_
  exact (leaves_publish _ _ _).bind fun _ => leaves_concludeLicenses report

theorem leaves_licensesFrom (o : CommandLine.Licenses) (ds : List Dependency) :
    (licensesFrom o ds).Leaves World.starts := by
  refine (leaves_note _).bind fun _ => ?_
  split
  · exact (leaves_print _).bind fun _ => leaves_pure _
  · exact (leaves_fetchLicenses o ds).bind (leaves_handOut o)

theorem leaves_dryRun (o : CommandLine.Submission) (ls : List Submission.Library) :
    (dryRun o ls).Leaves World.starts :=
  (leaves_print _).bind fun _ => (leaves_print _).bind fun _ => leaves_pure _

theorem leaves_post (o : CommandLine.Submission) (ls : List Submission.Library) :
    (post o ls).Leaves World.starts := by
  refine (leaves_ofExcept _).bind fun (tokens, project) => ?_
  refine (leaves_print _).bind fun _ => (leaves_print _).bind fun _ => ?_
  refine leaves_get.bind fun w => (leaves_ofExcept _).bind fun client => ?_
  refine (leaves_tryJob fun u => Job.starts_run _ u).bind fun answer => ?_
  refine (leaves_print _).bind fun _ => ?_
  split
  · exact leaves_pure _
  · exact leaves_fail _

theorem leaves_submissionFrom (o : CommandLine.Submission) (ds : List Dependency) :
    (submissionFrom o ds).Leaves World.starts := by
  unfold submissionFrom
  split
  · exact (leaves_print _).bind fun _ => leaves_pure _
  · refine (leaves_ofExcept _).bind fun github => ?_
    have hlibraries : (modifyGet (Submission.libraries github o.common.workers ds) :
        Action _).Leaves World.starts :=
      leaves_modifyGet fun u => Batch.starts_run o.common.workers _ u
    refine hlibraries.bind fun result => (leaves_ofExcept result).bind fun ls => ?_
    refine (leaves_printTable _).bind fun _ => ?_
    split
    · exact leaves_dryRun o ls
    · exact leaves_post o ls

end

/-! ### What stands behind the listing -/

/-- A run stands behind the listing of the dependencies: the program that lists them is the only one
that is started, a listing that fails ends the run, and so does one that brings nothing to do; in
both cases nothing was sent and no file was touched. -/
structure Guarded (w : World) (repository line : String) (nothing : List Dependency → Prop)
    (result : Except Failure Status) (u : World) : Prop where
  /-- One start at most is attempted, and it is the one of the listing. -/
  started : ∃ start listing, Listing w repository line start listing ∧
    u.starts = w.starts ++ attempts w start
  /-- The stage at which the listing fails decides the end. -/
  failed : ∀ start failure, Listing w repository line start (.error failure) →
    result = .error failure ∧ u.history = w.history ∧ u.tree = w.tree
  /-- Without anything to do the run is a success, whatever tokens it has. -/
  idle : ∀ start ds, Listing w repository line start (.ok ds) → nothing ds →
    result = .ok .success ∧ u.history = w.history ∧ u.tree = w.tree

/-- A run that begins with the listing stands behind it if the rest of it starts no program and does
nothing where there is nothing to do. -/
theorem guarded_of_rest {repository : String} {c : CommandLine.Common}
    {nothing : List Dependency → Prop} {v : World} {result : Except Failure Status} (w : World)
    (text : String) (rest : List Dependency → Action Status)
    (hstarts : ∀ ds, (rest ds).Leaves World.starts)
    (hidle : ∀ ds, nothing ds → ∀ u, ((rest ds).run u).1 = .ok .success ∧
      ((rest ds).run u).2.history = u.history ∧ ((rest ds).run u).2.tree = u.tree)
    (hrun : (do Action.print text; rest (← dependencies repository c) : Action Status).run w =
      (result, v)) :
    Guarded w repository c.manifestLine nothing result v := by
  rw [Action.run_bind_ok (Action.run_print text w)] at hrun
  refine ⟨?_, fun start failure h => ?_, fun start ds h hnothing => ?_⟩
  · obtain ⟨start, listing, h⟩ := exists_listing w repository c.manifestLine
    refine ⟨start, listing, h, ?_⟩
    have hlisted : (listedBy (w.print text) repository start).starts =
        w.starts ++ attempts w start := starts_listedBy _ repository start
    rw [Action.run_bind, h.run_eq] at hrun
    cases listing with
    | error failure =>
      obtain ⟨rfl, rfl⟩ := Prod.mk.inj hrun
      exact hlisted
    | ok ds =>
      have hrest : (rest ds).run (listedBy (w.print text) repository start) = (result, v) := hrun
      have hleft := hstarts ds (listedBy (w.print text) repository start)
      rw [hrest] at hleft
      exact hleft.trans hlisted
  · obtain ⟨htree, hhistory⟩ := tree_listedBy (w.print text) repository start
    rw [Action.run_bind_error (h.run_eq text)] at hrun
    obtain ⟨rfl, rfl⟩ := Prod.mk.inj hrun
    exact ⟨rfl, hhistory, htree⟩
  · obtain ⟨htree, hhistory⟩ := tree_listedBy (w.print text) repository start
    obtain ⟨hresult, hsent, htouched⟩ :=
      hidle ds hnothing (listedBy (w.print text) repository start)
    rw [Action.run_bind_ok (h.run_eq text)] at hrun
    rw [hrun] at hresult hsent htouched
    exact ⟨hresult, hsent.trans hhistory, htouched.trans htree⟩

/-- Both programs stand behind the listing, with any options and in any world. -/
theorem runs_guarded (w : World) :
    (∀ o : CommandLine.Licenses, Guarded w o.repository o.common.manifestLine (fun ds => ds = [])
      ((runLicenses o).run w).1 ((runLicenses o).run w).2) ∧
    ∀ o : CommandLine.Submission, Guarded w o.repository o.common.manifestLine
      (fun ds => ∀ d ∈ ds, d.root = "golang.org/x/sys")
      ((runSubmission o).run w).1 ((runSubmission o).run w).2 := by
  constructor
  · intro o
    refine guarded_of_rest w _ (licensesFrom o) (leaves_licensesFrom o)
      (fun ds hnothing u => ?_) rfl
    subst hnothing
    exact ⟨rfl, rfl, rfl⟩
  · intro o
    refine guarded_of_rest w _ (submissionFrom o) (leaves_submissionFrom o)
      (fun ds hnothing u => ?_) rfl
    have hnone : Submission.targets ds = [] := by
      rw [Submission.targets, List.filter_eq_nil_iff]
      intro d hd
      simp [hnothing d hd, License.systemCalls]
    rw [submissionFrom, hnone]
    exact ⟨rfl, rfl, rfl⟩

end Run

end Compliance
