import Compliance.Proofs.Json.Pretty
import Compliance.Proofs.Run.Listing
import Compliance.Proofs.Submission.Commit
import Compliance.Proofs.Submission.Form

/-!
What a dry run shows. It does all that the run does which submits, up to the libraries, and prints
the payload where that one posts it. Two runs of one kind and the other that have the same manifest
and the same GitHub come to the same libraries; so what one of them prints over several lines and
what the other posts on one line are read as the same value.
-/

namespace Compliance

theorem Json.Value.Fits.mono {depth depth' : Nat} {v : Json.Value} (h : v.Fits depth)
    (hle : depth ≤ depth') : v.Fits depth' := by
  induction h generalizing depth' with
  | null => exact .null _
  | bool _ b => exact .bool _ b
  | number _ word => exact .number _ word
  | string _ s => exact .string _ s
  | @array depth vs more _ ih =>
    obtain ⟨k, rfl⟩ := Nat.exists_eq_add_of_lt hle
    exact .array (by omega) fun v hv => ih v hv (by omega)
  | @object depth ms more _ ih =>
    obtain ⟨k, rfl⟩ := Nat.exists_eq_add_of_lt hle
    exact .object (by omega) fun m hm => ih m hm (by omega)

namespace Submission

/-! ### The payload in print and in the form -/

theorem fits_json (p : Payload) : p.json.Fits Json.depthLimit := by
  have hlist : (Json.Value.array [p.json]).Fits (127 + 1) := fits_payload p
  cases hlist with
  | array _ items => exact (items _ List.mem_cons_self).mono (by decide)

theorem read_printed (p : Payload) : Json.read p.json.pretty = .ok p.json.asRead :=
  Json.read_pretty (fits_json p)

theorem read_diff (p : Payload) :
    Json.read (Json.Value.array [p.json]).compact = .ok (.array [p.json.asRead]) := by
  rw [Json.read_compact (fits_payload p), Json.Value.asRead, Json.itemsAsRead_eq_map]
  rfl

/-- The last pair of a form, as a server finds it that takes the body apart. -/
theorem lookup_diff (p : Payload) (tokens : Tokens) (time : Int) (address : String) :
    (Http.Form.decode (draft address (form p tokens time)).body).lookup "diff" =
      some (Json.Value.array [p.json]).compact := by
  show (Http.Form.decode (Http.Form.encode (form p tokens time))).lookup "diff" = _
  rw [Http.Form.decode_encode]
  rfl

/-! ### Posts -/

theorem posts_of_hops {body : String} {n : Nat} {q : Http.Request} {es : List Event}
    {x : Http.Outcome} (h : Http.Hops n q es x) (hq : Posts body q) :
    ∀ q' r, .sent q' r ∈ es → Posts body q' := by
  induction h with
  | lost | final | exhausted | barred =>
    intro q' r hmem
    cases List.mem_singleton.1 hmem
    exact hq
  | onward _ _ _ ih =>
    intro q' r hmem
    rcases List.mem_cons.1 hmem with heq | hmem
    · cases heq
      exact hq
    · exact ih (hq.onward _ _) q' r hmem

/-- Whatever is answered, an attempt at a draft posts nothing but its body. -/
theorem posts_of_attempt {settings : Http.Settings} {d : Http.Draft} {es : List Event}
    {x : Http.Outcome} (h : Http.Attempt settings d es x) :
    ∀ p ∈ Event.exchanges es, Posts d.body p.1 := by
  rintro ⟨q', r⟩ hp
  cases h with
  | unmade => cases hp
  | made hq hops =>
    exact posts_of_hops hops (fun _ => (Http.method_of_request hq).2) q' r
      (Event.mem_exchanges.1 hp)

/-! ### The libraries in two worlds -/

/-- Where the replies to what GitHub is asked depend on nothing but the requests, the libraries are
the same, or the failure, and so are the requests but for their order. -/
theorem libraries_repeated (github : GitHub.Client) (workers : Nat) (ds : List Dependency)
    {answer : Http.Request → Http.Reply} {w w' : World} (hw : w.Answers github.Asks answer)
    (hw' : w'.Answers github.Asks answer) :
    (libraries github workers ds w).1 = (libraries github workers ds w').1 ∧
      ∃ asked asked' : Http.History, asked.Perm asked' ∧ (∀ p ∈ asked, p.1.method = .get) ∧
        (libraries github workers ds w).2.history = w.history ++ asked ∧
          (libraries github workers ds w').2.history = w'.history ++ asked' := by
  have htalks : ∀ j ∈ (targets ds).map (libraryJob github), j.Talks github.Asks := by
    intro j hj
    obtain ⟨d, -, rfl⟩ := List.mem_map.1 hj
    exact talks_libraryJob_of (GitHub.talks_commitDate_asks github) d
  obtain ⟨hresults, es, es', hperm, hasks, hleft, hleft'⟩ :=
    Batch.run_repeated htalks hw hw' workers workers
  refine ⟨congrArg collect hresults, Event.exchanges es, Event.exchanges es',
    hperm.filterMap _, fun ⟨q, r⟩ hp => ?_, ?_, ?_⟩
  · exact (hasks q r (Event.mem_exchanges.1 hp)).isReading
  · rw [← World.history_afterAll, ← hleft]
    rfl
  · rw [← World.history_afterAll, ← hleft']
    rfl

end Submission

namespace Run

open Submission (Library Payload Tokens)

/-! ### Two runs -/

/-- Listing the dependencies sends nothing and does not change the network. -/
theorem exists_listed {o : CommandLine.Submission} {w : World} {start : Option Host.Start}
    {ds : List Dependency} (h : Listing w o.repository o.common.manifestLine start (.ok ds)) :
    ∃ u, (dependencies o.repository o.common).run (begun w) = (.ok ds, u) ∧
      u.history = w.history ∧ u.network = w.network := by
  refine ⟨_, h.run_eq _, (tree_listedBy _ _ start).2, ?_⟩
  cases start <;> rfl

theorem run_dryRun (o : CommandLine.Submission) (ls : List Library) (w : World) :
    (dryRun o ls).run w = (.ok .success, (w.print "> --dry-run のため送信しません。ペイロード:").print
      (Payload.mk (o.projectToken.getD "") ls).json.pretty) := rfl

/-- How a dry run ends and what it prints, beside the end of a run that submits and what that one
sends once it has the libraries. -/
inductive Beside (o : CommandLine.Submission) :
    Except Failure Status → List String → Except Failure Status → Http.History → Prop
  /-- No version of some dependency was found: both fail by that, and nothing is posted. -/
  | unresolved (failure : Failure) (printed : List String) :
      Beside o (.error failure) printed (.error failure) []
  /-- The last that is printed is the one element of the list that is posted, if anything is. -/
  | resolved {printed : List String} {shown diff : String} {value : Json.Value}
      {form : List (String × String)} {es : List Event} {x : Http.Outcome}
      {result : Except Failure Status} (last : printed.getLast? = some shown)
      (payload : Json.read shown = .ok value)
      (attempt : Http.Attempt o.common.settings (Submission.draft o.address form) es x)
      (posted : ∀ p ∈ Event.exchanges es, p.1.method = .post →
        p.1.body = (Submission.draft o.address form).body)
      (field : (Http.Form.decode (Submission.draft o.address form).body).lookup "diff" = some diff)
      (submitted : Json.read diff = .ok (.array [value])) :
      Beside o (.ok .success) printed result (Event.exchanges es)

/-- A dry run and a run that submits, each in a world of its own: after the same questions they end
beside one another. -/
def Previews (o : CommandLine.Submission) (w w' : World)
    (dry real : Except Failure Status × World) : Prop :=
  ∃ asked asked' sent : Http.History, asked.Perm asked' ∧ (∀ p ∈ asked, p.1.method = .get) ∧
    dry.2.history = w.history ++ asked ∧ real.2.history = w'.history ++ asked' ++ sent ∧
      Beside o dry.1 dry.2.printed real.1 sent

variable {o : CommandLine.Submission}

theorem getLast?_printed (w : World) (text : String) :
    (w.print text).printed.getLast? = some text :=
  List.getLast?_concat

section

variable {w w' : World} {ls : List Library} {v : World}

/-- A dry run that has the libraries prints the payload at last, as it would be posted. -/
theorem dryRun_printed (o : CommandLine.Submission) (ls : List Library) (w : World) :
    ∃ shown, ((dryRun o ls).run w).2.printed.getLast? = some shown ∧
      Json.read shown = .ok (Payload.mk (o.projectToken.getD "") ls).json.asRead := by
  refine ⟨_, ?_, Submission.read_printed _⟩
  rw [run_dryRun]
  exact getLast?_printed _ _

/-- Once both runs have the same libraries, one prints what the other posts. -/
theorem beside_of_libraries {tokens : Tokens} {project : String} (ls : List Library)
    (horganisation : IsGiven o.organisationToken tokens.organisation)
    (hproduct : IsGiven o.productToken tokens.product)
    (hproject : IsGiven o.projectToken project) (v v' : World) :
    ∃ sent, ((post o ls).run v').2.history = v'.history ++ sent ∧
      Beside o (.ok .success) ((dryRun o ls).run v).2.printed ((post o ls).run v').1 sent := by
  obtain ⟨es, x, hattempt, -, hhistory⟩ :=
    run_post ls (tokens_of_isGiven horganisation hproduct hproject) v'
  obtain ⟨shown, hlast, hshown⟩ := dryRun_printed o ls v
  have hgiven : o.projectToken.getD "" = project := by rw [hproject.1, Option.getD_some]
  rw [hgiven] at hshown
  exact ⟨_, hhistory, .resolved hlast hshown hattempt (Submission.posts_of_attempt hattempt)
    (Submission.lookup_diff _ _ _ _) (Submission.read_diff _)⟩

end

/-- What becomes of the libraries depends on nothing but the option that says so. -/
theorem run_withDryRun (b : Bool) {ds : List Dependency} {w u v : World}
    {result : Except Failure (List Library)}
    (h : (dependencies o.repository o.common).run (begun w) = (.ok ds, u))
    (hds : Submission.targets ds ≠ [])
    (hlibraries : Submission.libraries (asker o.common) o.common.workers ds u = (result, v)) :
    (runSubmission { o with dryRun := b }).run w = match result with
      | .error failure => (.error failure, v)
      | .ok ls => (if b then dryRun o ls else post o ls).run (tabled ls v) := by
  have hrun := @run_of_libraries { o with dryRun := b } w ds u v result h hds hlibraries
  have hdry (ls : List Library) : dryRun { o with dryRun := b } ls = dryRun o ls := rfl
  have hpost (ls : List Library) : post { o with dryRun := b } ls = post o ls := by
    unfold post
    rfl
  rw [hrun]
  cases result with
  | error failure => rfl
  | ok ls => simp only [hdry, hpost]

/-- The two runs after the listing. -/
theorem previews_of_listing {w w' : World} {answer : Http.Request → Http.Reply}
    {start start' : Option Host.Start} {ds : List Dependency} {tokens : Tokens} {project : String}
    (hds : Submission.targets ds ≠ [])
    (hlisting : Listing w o.repository o.common.manifestLine start (.ok ds))
    (hlisting' : Listing w' o.repository o.common.manifestLine start' (.ok ds))
    (hw : w.Answers (asker o.common).Asks answer) (hw' : w'.Answers (asker o.common).Asks answer)
    (horganisation : IsGiven o.organisationToken tokens.organisation)
    (hproduct : IsGiven o.productToken tokens.product)
    (hproject : IsGiven o.projectToken project) :
    Previews o w w' ((runSubmission { o with dryRun := true }).run w)
      ((runSubmission { o with dryRun := false }).run w') := by
  obtain ⟨u, hlisted, hhistory, hnetwork⟩ := exists_listed hlisting
  obtain ⟨u', hlisted', hhistory', hnetwork'⟩ := exists_listed hlisting'
  have hu : u.Answers (asker o.common).Asks answer := fun history q => by
    rw [hnetwork]
    exact hw history q
  have hu' : u'.Answers (asker o.common).Asks answer := fun history q => by
    rw [hnetwork']
    exact hw' history q
  obtain ⟨hsame, asked, asked', hperm, hreading, hasked, hasked'⟩ :=
    Submission.libraries_repeated (asker o.common) o.common.workers ds hu hu'
  rw [hhistory] at hasked
  rw [hhistory'] at hasked'
  generalize hlibraries : Submission.libraries (asker o.common) o.common.workers ds u = prepared
    at hsame hasked
  generalize hlibraries' : Submission.libraries (asker o.common) o.common.workers ds u' = prepared'
    at hsame hasked'
  obtain ⟨result, v⟩ := prepared
  obtain ⟨result', v'⟩ := prepared'
  obtain rfl : result = result' := hsame
  rw [run_withDryRun true hlisted hds hlibraries, run_withDryRun false hlisted' hds hlibraries']
  cases result with
  | error failure =>
    refine ⟨asked, asked', [], hperm, hreading, hasked, ?_, .unresolved failure _⟩
    rw [List.append_nil]
    exact hasked'
  | ok ls =>
    obtain ⟨sent, hsent, hbeside⟩ := beside_of_libraries ls horganisation hproduct hproject
      (tabled ls v) (tabled ls v')
    have hbefore : (tabled ls v').history = w'.history ++ asked' :=
      (history_tabled ls v').trans hasked'
    rw [hbefore] at hsent
    refine ⟨asked, asked', sent, hperm, hreading, ?_, hsent, hbeside⟩
    exact (history_tabled ls v).trans hasked

/-! ### What a dry run shows -/

/-- A dry run shows what would be submitted. Beside a run that submits, with the same manifest and
the same GitHub, it asks the same questions, fails by the same version that is not found, and prints
the payload that the other posts. By itself it posts nothing, and once the versions are found it is
a success whatever tokens there are. -/
theorem dryRun_previews (o : CommandLine.Submission) :
    (∀ (w w' : World) (answer : Http.Request → Http.Reply) (start start' : Option Host.Start)
        (ds : List Dependency) (tokens : Tokens) (project : String),
      IsGiven o.organisationToken tokens.organisation → IsGiven o.productToken tokens.product →
      IsGiven o.projectToken project →
      Listing w o.repository o.common.manifestLine start (.ok ds) →
      Listing w' o.repository o.common.manifestLine start' (.ok ds) →
      (∃ d ∈ ds, d.root ≠ "golang.org/x/sys") →
      w.Answers (asker o.common).Asks answer → w'.Answers (asker o.common).Asks answer →
        Previews o w w' ((runSubmission { o with dryRun := true }).run w)
          ((runSubmission { o with dryRun := false }).run w')) ∧
    (∀ w, o.dryRun = true → ∃ asked : Http.History, (∀ p ∈ asked, p.1.method = .get) ∧
      ((runSubmission o).run w).2.history = w.history ++ asked) ∧
    ∀ w ls v, Prepares o w ls v → o.dryRun = true → ∃ shown,
      ((runSubmission o).run w).1 = .ok .success ∧
        ((runSubmission o).run w).2.printed.getLast? = some shown ∧
          Json.read shown = .ok (.object
            [("dependencies", .array (ls.map fun l => l.json.asRead)),
              ("projectToken", .string (o.projectToken.getD ""))]) := by
  refine ⟨?_, fun w hdry => ?_, fun w ls v h hdry => ?_⟩
  · intro w w' answer start start' ds tokens project horganisation hproduct hproject hlisting
      hlisting' hsome hw hw'
    have hds : Submission.targets ds ≠ [] := fun hnone => by
      obtain ⟨d, hd, hroot⟩ := hsome
      exact List.filter_eq_nil_iff.1 hnone d hd (decide_eq_true hroot)
    exact previews_of_listing hds hlisting hlisting' hw hw' horganisation hproduct hproject
  · refine (unattempted_of_not_ready ?_).2
    rintro ⟨ls, v, tokens, project, hready⟩
    rw [hready.wet] at hdry
    cases hdry
  · obtain ⟨shown, hlast, hshown⟩ := dryRun_printed o ls (tabled ls v)
    rw [run_of_prepares h, hdry]
    rw [Submission.asRead_payload] at hshown
    exact ⟨shown, rfl, hlast, hshown⟩

def dated : String :=
  "\x7b\"commit\":\x7b\"author\":\x7b\"date\":\"2018-05-04T10:11:12Z\"\x7d\x7d\x7d"

def committing : World :=
  { World.quiet with
    network := fun _ _ => .answer ⟨200, none, dated.toUTF8.toList, true⟩
    programs := fun _ =>
      .ok ⟨"[[\"github.com/a/b\",\"r\",\"branch m\"]]".toUTF8.toList, [], .exited 0⟩ }

theorem listing_committing : Listing committing complete.repository complete.common.manifestLine
    (some ⟨[], "dep", []⟩) (.ok [⟨"github.com/a/b", "r", "branch m"⟩]) := by
  have hparse : (Manifest.parse (Text.textOfBytes
      "[[\"github.com/a/b\",\"r\",\"branch m\"]]".toUTF8.toList)).toOption =
        some [⟨"github.com/a/b", "r", "branch m"⟩] := by decide +kernel
  exact .listed ⟨by decide +kernel, by decide +kernel⟩ rfl rfl (by decide +kernel)
    (toOption_eq_some.1 hparse)

/-- Both runs ask for the commit of the branch, and only one of them posts. -/
theorem dryRun_previews_branch :
    Previews complete committing committing
        ((runSubmission { complete with dryRun := true }).run committing)
        ((runSubmission { complete with dryRun := false }).run committing) ∧
      ((runSubmission { complete with dryRun := true }).run committing).2.history.length = 1 ∧
      ((runSubmission { complete with dryRun := false }).run committing).2.history.length = 2 := by
  refine ⟨?_, by decide +kernel, by decide +kernel⟩
  exact (dryRun_previews complete).1 committing committing _ _ _ _ ⟨"o", "q"⟩ "p"
    ⟨rfl, by decide⟩ ⟨rfl, by decide⟩ ⟨rfl, by decide⟩ listing_committing listing_committing
    ⟨_, List.mem_cons_self, by decide⟩ (fun _ _ _ => rfl) (fun _ _ _ => rfl)

end Run

end Compliance
