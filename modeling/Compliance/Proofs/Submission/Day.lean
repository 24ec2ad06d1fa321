import Compliance.Proofs.Calendar
import Compliance.Proofs.Json.Object
import Compliance.Proofs.Json.Saying
import Compliance.Proofs.Submission.Commit

/-!
The day in the version of a branch. It is what an answer says of its commit, as it is written there
in front of the time, and it is a day that exists; but it need not have the usual form, since the
reader of days takes more than that.
-/

namespace Compliance

namespace GitHub

open Json

/-- A text stands before the first `T` of another one, or is all of it. -/
def StandsBefore (day timestamp : String) : Prop :=
  'T' ∉ day.toList ∧ (timestamp = day ∨ ∃ rest, timestamp.toList = day.toList ++ 'T' :: rest)

/-- An answer is JSON and tells a day: it says when its commit was made, and the day stands in
front of the time. -/
inductive Tells (answer day : String) : Prop
  | mk {v commit author : Value} {timestamp : String} (text : IsText answer.toList v)
      (hcommit : v.member? "commit" = some commit) (hauthor : commit.member? "author" = some author)
      (hdate : author.member? "date" = some (.string timestamp))
      (first : StandsBefore day timestamp)

theorem dayOf_eq {timestamp day : String} : dayOf timestamp = day ↔ StandsBefore day timestamp := by
  constructor
  · rintro rfl
    have hsplit : timestamp.toList.takeWhile (· ≠ 'T') ++ timestamp.toList.dropWhile (· ≠ 'T') =
        timestamp.toList := List.takeWhile_append_dropWhile
    rw [StandsBefore, dayOf, String.toList_ofList]
    refine ⟨fun hmem => by simpa using List.mem_takeWhile_imp hmem, ?_⟩
    cases hrest : timestamp.toList.dropWhile (· ≠ 'T') with
    | nil =>
      rw [hrest, List.append_nil] at hsplit
      exact .inl (by rw [hsplit, String.ofList_toList])
    | cons c cs =>
      have hhead := List.head?_dropWhile_not (· ≠ 'T') timestamp.toList
      rw [hrest] at hhead hsplit
      obtain rfl : c = 'T' := by simpa using hhead
      exact .inr ⟨cs, hsplit.symm⟩
  · rintro ⟨hnone, hall⟩
    have hkept : ∀ c ∈ day.toList, decide (c ≠ 'T') = true := fun c hc =>
      decide_eq_true fun hT => hnone (hT ▸ hc)
    rw [dayOf, ← String.toList_inj, String.toList_ofList]
    rcases hall with rfl | ⟨rest, hrest⟩
    · exact List.takeWhile_eq_self_iff.2 hkept
    · rw [hrest, List.takeWhile_append_of_pos hkept, List.takeWhile_cons_of_neg (by simp),
        List.append_nil]

theorem timestamp?_eq_some {v : Value} {timestamp : String} :
    timestamp? v = some timestamp ↔ ∃ commit author, v.member? "commit" = some commit ∧
      commit.member? "author" = some author ∧
        author.member? "date" = some (.string timestamp) := by
  show (do
    let commit ← v.member? "commit"
    let author ← commit.member? "author"
    let date ← author.member? "date"
    date.string?) = some timestamp ↔ _
  simp only [Option.bind_eq_bind, Option.bind_eq_some_iff, Value.string?_eq_some]
  constructor
  · rintro ⟨commit, hcommit, author, hauthor, date, hdate, rfl⟩
    exact ⟨commit, author, hcommit, hauthor, hdate⟩
  · rintro ⟨commit, author, hcommit, hauthor, hdate⟩
    exact ⟨commit, hcommit, author, hauthor, _, hdate, rfl⟩

/-- The day of a commit is told by the answer and exists. -/
theorem commitDate_eq_ok {answer day : String} :
    commitDate answer = .ok day ↔ Tells answer day ∧
      ∃ date, Calendar.Spells day.toList date ∧ date.isValid = true := by
  constructor
  · intro h
    unfold commitDate at h
    obtain ⟨v, hv, h⟩ := bind_eq_ok.1 h
    have htext : IsText answer.toList v := read_eq_ok.1 (mapError_eq_ok.1 hv)
    split at h
    · cases h
    · rename_i timestamp htimestamp
      split at h
      · cases h
      · rename_i date hdate
        obtain ⟨commit, author, hcommit, hauthor, hmember⟩ := timestamp?_eq_some.1 htimestamp
        have hday := pure_eq_ok.1 h
        rw [hday] at hdate
        exact ⟨.mk htext hcommit hauthor hmember (dayOf_eq.1 hday),
          date, Calendar.parse_eq_ok.1 hdate⟩
  · rintro ⟨⟨htext, hcommit, hauthor, hmember, hfirst⟩, date, hdate⟩
    have htimestamp := timestamp?_eq_some.2 ⟨_, _, hcommit, hauthor, hmember⟩
    have hday := dayOf_eq.2 hfirst
    have hparse := Calendar.parse_eq_ok.2 hdate
    rw [← hday] at hparse
    refine bind_eq_ok.2 ⟨_, mapError_eq_ok.2 (read_eq_ok.2 htext), ?_⟩
    rw [htimestamp]
    dsimp only
    rw [hparse]
    exact congrArg Except.ok hday

theorem exists_of_commitOf {repository revision day : String} {x : Http.Outcome}
    (h : commitOf repository revision x = .ok day) :
    ∃ response text, x = .ok response ∧ response.text = .ok text ∧ commitDate text = .ok day := by
  cases x with
  | error e => cases h
  | ok response =>
    unfold commitOf committed at h
    dsimp only at h
    split at h
    · cases h
    · rename_i text htext
      split at h
      · rename_i date hdate
        cases h
        exact ⟨response, text, rfl, htext, hdate⟩
      · cases h

end GitHub

namespace Submission

open GitHub

/-- The version of a branch on GitHub is made definite by the day that the last answer tells. -/
theorem day_of_ends {github : GitHub.Client} {repository revision branch version : String}
    {es : List Event}
    (h : (resolveVersion github (onBranch repository revision branch)).Ends es (.ok version)) :
    ∃ response text day, Http.lastReply? es = some (.answer response) ∧ response.text = .ok text ∧
      commitDate text = .ok day ∧ version = branch ++ "_" ++ day := by
  have hbranch : branch? (onBranch repository revision branch).version = some branch :=
    branch?_eq_some.2 rfl
  have hrepository : repository? (onBranch repository revision branch).root = some repository :=
    repository?_eq_some.2 rfl
  unfold resolveVersion at h
  rw [hbranch] at h
  dsimp only at h
  rw [hrepository] at h
  dsimp only at h
  obtain ⟨asked, told, rest, rfl, hasked, hrest⟩ := Job.ends_bind.1 h
  obtain ⟨x, hx, rfl⟩ := ends_commitDate hasked
  cases hday : commitOf repository revision x with
  | error failure =>
    rw [show (onBranch repository revision branch).revision = revision from rfl, hday] at hrest
    cases (Job.ends_done.1 hrest).2
  | ok day =>
    rw [show (onBranch repository revision branch).revision = revision from rfl, hday] at hrest
    obtain ⟨rfl, hversion⟩ := Job.ends_done.1 hrest
    obtain ⟨response, text, rfl, htext, hdate⟩ := exists_of_commitOf hday
    exact ⟨response, text, day, by simpa using Http.lastReply?_sendWithRetry hx, htext, hdate,
      Except.ok.inj hversion⟩

/-- The day of a commit is what its answer says in front of the time, as it is written there, if it is
read as a day that exists. It has the usual form unless it is shorter or longer than that, holds a
blank or begins with a sign. Every version of a branch on GitHub ends with such a day. -/
theorem commit_day_told (answer day : String) :
    (commitDate answer = .ok day ↔ Tells answer day ∧
        ∃ date, Calendar.Spells day.toList date ∧ date.isValid = true) ∧
      (commitDate answer = .ok day →
        (Calendar.IsCanonical day.toList ↔ day.toList.length = 10 ∧
          (∀ c ∈ day.toList, Text.isBlank c = false) ∧ day.toList.head? ≠ some '+' ∧
            day.toList.head? ≠ some '-')) ∧
      ∀ github repository revision branch events version,
        (resolveVersion github (onBranch repository revision branch)).Ends events (.ok version) →
          ∃ response text told, Http.lastReply? events = some (.answer response) ∧
            response.text = .ok text ∧ commitDate text = .ok told ∧
              version = branch ++ "_" ++ told := by
  refine ⟨commitDate_eq_ok, fun h => ?_, fun _ _ _ _ _ _ h => day_of_ends h⟩
  obtain ⟨-, date, hspells, -⟩ := commitDate_eq_ok.1 h
  exact hspells.isCanonical_iff

/-- A month and a day of one digit each are taken as they are written. -/
theorem not_commit_day_canonical :
    commitDate ("\x7b\"commit\":\x7b\"author\":\x7b\"date\":\"2018-3-4T09:26:53Z\"\x7d\x7d\x7d") =
        .ok "2018-3-4" ∧ ¬ Calendar.IsCanonical "2018-3-4".toList := by
  refine ⟨toOption_eq_some.1 (by decide +kernel), fun h => ?_⟩
  exact absurd h.plain.1 (by decide)

end Submission

end Compliance
