import Compliance.Proofs.License.Decoding
import Compliance.Proofs.Run.Licenses

/-!
Handing out a report as JSON. The file and the print carry one text, and from that text alone the
report can be taken back, whatever characters its entries are made of.
-/

namespace Compliance

namespace Run

open License (Report Entry)

structure Recoverable (r : Report) (text : String) : Prop where
  /-- One object is read for each entry, in order, with four members or with five. -/
  read : Json.read text = .ok (.object [("entries", .array (r.entries.map Entry.asRead))])
  /-- None of the members that are written hides another one. -/
  distinct : ∀ e ∈ r.entries, e.json = .object e.members ∧ (e.members.map Prod.fst).Nodup
  decoded : Report.ofText? text = some r
  alone : ∀ r' : Report, r'.HasShortStatuses → r'.json.pretty = text → r' = r
  allResolved_iff : r.allResolved = true ↔ ∀ v ∈ r.entries.map Entry.asRead,
    v.member? "status" = some (.string "retrieved") ∨
      v.member? "status" = some (.string "on_disk")
  /-- The text is the one that is handed out, to a file, in print or both. -/
  published : ∀ inPrint file w,
    (∀ path, file = some path → (World.writeFile w path text).1 = .ok ()) →
      ∃ u, (publish r.json inPrint file).run w = (.ok (), u) ∧ Carried text inPrint file u

/-- Whatever its entries are made of, a report can be taken back from the text that is handed out. -/
theorem report_recoverable (r : Report) (h : r.HasShortStatuses) : Recoverable r r.json.pretty where
  read := Report.read_pretty h
  distinct e _ := ⟨e.json_eq, e.nodup_members⟩
  decoded := Report.ofText?_pretty h
  alone r' h' heq := Report.pretty_inj h h' heq
  allResolved_iff := by
    rw [Report.allResolved_iff, List.forall_mem_map]
    exact forall₂_congr fun e _ => e.isResolved_iff_word
  published inPrint file w := exists_carried r.json inPrint file w

/-- A report with quotes, backslashes, controls and letters from afar, and with names that are those
of members. -/
def thorny : Report :=
  ⟨[⟨"a\"b\\c/\n", "status", "\x01é𝕏", .onDisk 65535⟩,
    ⟨"", "\", \"owner\": \"", "ライセンス", .failed "\t\x7b\x7d\r\x1f"⟩,
    ⟨"m", "o", "n", .missing 404⟩, ⟨"m", "o", "n", .retrieved⟩]⟩

theorem report_recoverable_thorny :
    thorny.HasShortStatuses ∧ Recoverable thorny thorny.json.pretty ∧
      (World.quiet.writeFile "report.json" thorny.json.pretty).1 = .ok () := by
  have hstatuses : thorny.HasShortStatuses := by
    simp [Report.HasShortStatuses, thorny, License.Outcome.status?]
  exact ⟨hstatuses, report_recoverable thorny hstatuses, rfl⟩

end Run

end Compliance
