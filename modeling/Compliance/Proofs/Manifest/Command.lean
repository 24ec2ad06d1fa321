import Compliance.Proofs.Run.Listing
import Compliance.Proofs.Text.Words

/-!
The command that lists the dependencies, as it is written and as it is shown. A line gives the one
command whose words make up the line, and no command exactly if it is blank. A command that is shown
is a line again, which gives the same command; so what a failure says of the command can be used in
its place.
-/

namespace Compliance

/-- The command that a cause of failure names, as it is shown there. -/
def Cause.command? : Cause → Option String
  | .manifestNotStarted command _ => some command
  | .manifestFailed command _ _ => some command
  | .manifestComplained command _ => some command
  | _ => none

namespace Manifest

open Text (IsWord MadeUp)

namespace Command

def words (c : Command) : List String := c.program :: c.args

theorem parse_eq_none {line : String} :
    parse line = none ↔ ∀ c ∈ line.toList, Text.isBlank c = true := by
  rw [← List.all_eq_true, ← Text.isAllBlank]
  constructor
  · intro h
    by_contra hblank
    obtain ⟨c, hc, -⟩ := exists_parse (by simpa using hblank)
    rw [h] at hc
    cases hc
  · exact parse_of_blank

theorem parse_eq_some {line : String} {c : Command} :
    parse line = some c ↔ Text.words line = c.words := by
  obtain ⟨program, args⟩ := c
  unfold parse words
  cases Text.words line <;> simp

/-- A command that is made of words is read from what is shown of it. -/
theorem parse_shown {c : Command} (h : ∀ w ∈ c.words, IsWord w) : parse c.shown = some c :=
  parse_eq_some.2 (Text.words_intercalate h)

theorem isWord_of_parse {line : String} {c : Command} (h : parse line = some c) :
    ∀ w ∈ c.words, IsWord w :=
  (Text.words_eq_iff.1 (parse_eq_some.1 h)).isWord

end Command

/-! ### What a failure says -/

variable {c : Command} {named : String} {failure : Failure}

theorem named_of_listed {output : Host.Output} (h : listed c output = .error failure)
    (hnamed : failure.cause.command? = some named) : named = c.shown := by
  by_cases hend : output.ending = .exited 0
  · cases hquiet : Text.isAllBlank (Text.textOfBytes output.complaints) with
    | true =>
      -- The command has done well, and only what it printed can be at fault.
      rw [listed_of_quiet hend hquiet] at h
      cases hparse : parse (Text.textOfBytes output.written) with
      | ok ds => simp [hparse, Except.mapError] at h
      | error e =>
        obtain rfl : .of (.manifestMalformed e) = failure := by
          simpa [hparse, Except.mapError] using h
        cases hnamed
    | false =>
      rw [listed_of_complained hend hquiet] at h
      cases h
      exact (Option.some.inj hnamed).symm
  · rw [listed_of_failed hend] at h
    cases h
    exact (Option.some.inj hnamed).symm

/-- A failure that names a command names the one that was to be run, as it is shown. -/
theorem named_of_failure {path : String} {w : World}
    (h : ((list path c).run w).1 = .error failure)
    (hnamed : failure.cause.command? = some named) : named = c.shown := by
  cases hfolder : w.tree.findFolder? w.folder path with
  | none =>
    rw [run_list_of_none hfolder] at h
    cases h
    cases hnamed
  | some l =>
    rw [run_list_of_some hfolder] at h
    cases hstart : w.programs.start ⟨l, c.program, c.args⟩ with
    | error fault =>
      rw [hstart] at h
      cases h
      exact (Option.some.inj hnamed).symm
    | ok output =>
      rw [hstart] at h
      exact named_of_listed h hnamed

/-! ### Writing and showing -/

/-- A line gives no command exactly if it is blank, and else the one command whose words make it up.
Showing a command loses nothing: what is shown, also in a failure of the command, is a line that
gives the same command, and the command of that line is shown in the same way. -/
theorem command_shown (line : String) :
    (Command.parse line = none ↔ ∀ c ∈ line.toList, Text.isBlank c = true) ∧
      (∀ c, Command.parse line = some c ↔ MadeUp (c.program :: c.args) line.toList) ∧
      (∀ ws ws', MadeUp ws line.toList → MadeUp ws' line.toList → ws = ws') ∧
      ∀ c, Command.parse line = some c → Command.parse c.shown = some c ∧
        (Command.parse c.shown).map Command.shown = some c.shown ∧
          ∀ path w failure named, ((list path c).run w).1 = .error failure →
            failure.cause.command? = some named → Command.parse named = some c := by
  refine ⟨Command.parse_eq_none, fun c => ?_, fun ws ws' h h' => ?_, fun c hc => ?_⟩
  · rw [Command.parse_eq_some, Text.words_eq_iff]
    rfl
  · rw [← h.wordsIn_eq, h'.wordsIn_eq]
  · have hshown := Command.parse_shown (Command.isWord_of_parse hc)
    refine ⟨hshown, ?_, fun path w failure named h hnamed => ?_⟩
    · rw [hshown, Option.map_some]
    · rw [named_of_failure h hnamed, hshown]

/-- Blanks of all kinds keep words apart, and single ones are left of them. -/
theorem command_shown_blanks :
    Command.parse "\u3000dep\u0085 status\u2028\t-json\n" = some Command.standard ∧
      MadeUp ["dep", "status", "-json"] "\u3000dep\u0085 status\u2028\t-json\n".toList ∧
      Command.parse Command.standard.shown = some Command.standard ∧
      Command.standard.shown = Command.standardLine := by
  have hparse : Command.parse "\u3000dep\u0085 status\u2028\t-json\n" = some Command.standard := by
    decide +kernel
  obtain ⟨-, hmade, -, hshown⟩ := command_shown "\u3000dep\u0085 status\u2028\t-json\n"
  exact ⟨hparse, (hmade _).1 hparse, (hshown _ hparse).1, by decide +kernel⟩

end Manifest

end Compliance
