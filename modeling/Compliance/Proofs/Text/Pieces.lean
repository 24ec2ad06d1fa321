import Compliance.Dependency
import Mathlib.Data.List.TakeWhile

/-!
Cutting a text at a character. A text that holds the character at one place is cut there, and no
piece holds it; so neither the owner nor the name in the path of a module holds a slash.
-/

namespace Compliance

namespace Text

theorem pieces_append_cons {sep : Char → Bool} {c : Char} (hc : sep c = true)
    (cs ds : List Char) : pieces sep (cs ++ c :: ds) = pieces sep cs ++ pieces sep ds := by
  induction cs with
  | nil => simp [pieces, hc]
  | cons x cs ih =>
    by_cases hx : sep x = true
    · simp [pieces, hx, ih]
    · obtain ⟨p, ps, hp⟩ := List.exists_cons_of_ne_nil (pieces_ne_nil sep cs)
      simp [pieces, hx, ih, hp]

theorem pieces_of_forall {sep : Char → Bool} {cs : List Char} (h : ∀ c ∈ cs, sep c = false) :
    pieces sep cs = [cs] := by
  induction cs with
  | nil => rfl
  | cons c cs ih =>
    have hc : sep c = false := h c (by simp)
    simp [pieces, hc, ih fun d hd => h d (List.mem_cons_of_mem _ hd)]

/-- Texts that are joined by a character which none of them holds are the pieces of the whole. -/
theorem pieces_intercalate {sep : Char → Bool} {c : Char} (hc : sep c = true)
    {ps : List (List Char)} (hps : ps ≠ []) (h : ∀ p ∈ ps, ∀ d ∈ p, sep d = false) :
    pieces sep (List.intercalate [c] ps) = ps := by
  induction ps with
  | nil => exact absurd rfl hps
  | cons p ps ih =>
    have hp : pieces sep p = [p] := pieces_of_forall (h p List.mem_cons_self)
    cases ps with
    | nil => rw [List.intercalate_singleton, hp]
    | cons q ps =>
      have hrest := ih (List.cons_ne_nil q ps) fun r hr => h r (List.mem_cons_of_mem _ hr)
      rw [List.intercalate_cons_cons, List.append_assoc, List.singleton_append,
        pieces_append_cons hc, hp, hrest]
      rfl

/-- No piece holds a character that the text is cut at. -/
theorem sep_eq_false_of_mem_pieces {sep : Char → Bool} {cs p : List Char}
    (hp : p ∈ pieces sep cs) : ∀ c ∈ p, sep c = false := by
  induction cs generalizing p with
  | nil =>
    obtain rfl : p = [] := by simpa [pieces] using hp
    simp
  | cons x cs ih =>
    by_cases hx : sep x = true
    · rw [pieces, if_pos hx] at hp
      rcases List.mem_cons.1 hp with rfl | hp
      · simp
      · exact ih hp
    · obtain ⟨q, qs, hq⟩ := List.exists_cons_of_ne_nil (pieces_ne_nil sep cs)
      rw [pieces, if_neg hx, hq] at hp
      rw [hq] at ih
      rcases List.mem_cons.1 hp with rfl | hp
      · intro c hc
        rcases List.mem_cons.1 hc with rfl | hc
        · simpa using hx
        · exact ih List.mem_cons_self c hc
      · exact ih (List.mem_cons_of_mem _ hp)

/-- All pieces are empty where there is nothing but characters that the text is cut at. -/
theorem forall_pieces_eq_nil {sep : Char → Bool} {cs : List Char} :
    (∀ p ∈ pieces sep cs, p = []) ↔ cs.all sep = true := by
  induction cs with
  | nil => simp [pieces]
  | cons c cs ih =>
    cases hc : sep c with
    | true => simpa [pieces, hc] using ih
    | false =>
      obtain ⟨p, ps, hp⟩ := List.exists_cons_of_ne_nil (pieces_ne_nil sep cs)
      simp [pieces, hc, hp]

/-- A line has no word if it is blank. -/
theorem words_eq_nil_iff {line : String} : words line = [] ↔ isAllBlank line = true := by
  have hpieces : (∀ p ∈ pieces isBlank line.toList, p = []) ↔ line.toList.all isBlank = true :=
    forall_pieces_eq_nil
  rw [isAllBlank, ← hpieces, words, List.map_eq_nil_iff, List.filter_eq_nil_iff]
  simp

theorem forall_mem_dropWhile {p : Char → Bool} {cs : List Char} :
    (∀ c ∈ cs.dropWhile p, p c = true) ↔ ∀ c ∈ cs, p c = true := by
  induction cs with
  | nil => rfl
  | cons c cs ih =>
    cases hc : p c with
    | true => simp [hc, ih]
    | false => simp [hc]

/-- Nothing is left of a blank text when it is trimmed, and only of one. -/
theorem trim_eq_empty_iff {s : String} : trim s = "" ↔ isAllBlank s = true := by
  have hofList : trim s = "" ↔ trimList s.toList = [] := by
    rw [trim, ← String.toList_inj, String.toList_ofList]
    rfl
  rw [hofList, trimList, List.reverse_eq_nil_iff, List.dropWhile_eq_nil_iff]
  simp only [List.mem_reverse]
  rw [forall_mem_dropWhile, isAllBlank, List.all_eq_true]

/-- Blanks and nothing else, or nothing at all. -/
def IsBlanks (cs : List Char) : Prop := ∀ c ∈ cs, isBlank c = true

theorem notMem_of_mem_splitAt {sep : Char} {s p : String} (hp : p ∈ splitAt sep s) :
    sep ∉ p.toList := by
  obtain ⟨cs, hcs, rfl⟩ := List.mem_map.1 hp
  intro h
  rw [String.toList_ofList] at h
  simpa using sep_eq_false_of_mem_pieces hcs sep h

theorem after?_eq_some {beginning s rest : String} :
    after? beginning s = some rest ↔ s = beginning ++ rest := by
  unfold after?
  constructor
  · intro h
    split at h
    · rename_i hprefix
      obtain ⟨cs, hcs⟩ := List.isPrefixOf_iff_prefix.1 hprefix
      obtain rfl := Option.some.inj h
      rw [← hcs, List.drop_left]
      exact String.toList_inj.1 (by simp [hcs])
    · cases h
  · rintro rfl
    simp

end Text

namespace Coordinates

def IsPlain (c : Coordinates) : Prop := '/' ∉ c.owner.toList ∧ '/' ∉ c.name.toList

theorem isPlain_ofPath (path : String) : (ofPath path).IsPlain := by
  have h : ∀ s ∈ Text.splitAt '/' path, '/' ∉ s.toList := fun s hs =>
    Text.notMem_of_mem_splitAt hs
  unfold ofPath
  split
  · exact ⟨by simp, by simp⟩
  · rename_i name hs
    exact ⟨by simp, h name (by simp [hs])⟩
  · rename_i name hs
    exact ⟨by simp, h name (by simp [hs])⟩
  · rename_i owner segment segments hs
    refine ⟨h owner (by simp [hs]), h _ ?_⟩
    rw [hs]
    exact List.mem_cons_of_mem _ (List.mem_cons_of_mem _ (List.getLast_mem _))

end Coordinates

end Compliance
