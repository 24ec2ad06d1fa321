import Compliance.Proofs.Text.Pieces

/-!
The words of a line. Every line is made up of words that are kept apart by blanks, and in one way
only, which is how it is cut. Words that are joined by single blanks make up a line of their own, so
that cutting it gives them back.
-/

namespace Compliance.Text

structure IsWord (word : String) : Prop where
  ne_empty : word ≠ ""
  unbroken : ∀ c ∈ word.toList, isBlank c = false

/-- A line is made up of words, in their order. There may be a gap in front of each word and behind
the last one, and what follows a word begins with a blank, so that no two words touch. -/
inductive MadeUp : List String → List Char → Prop
  | gap {cs : List Char} (blank : IsBlanks cs) : MadeUp [] cs
  | word {gap rest : List Char} {word : String} {more : List String} (blank : IsBlanks gap)
      (isWord : IsWord word) (apart : ∀ c ∈ rest.head?, isBlank c = true)
      (behind : MadeUp more rest) : MadeUp (word :: more) (gap ++ (word.toList ++ rest))

variable {ws : List String} {cs : List Char} {c : Char}

theorem isWord_ofList (hne : cs ≠ []) (h : ∀ d ∈ cs, isBlank d = false) :
    IsWord (String.ofList cs) where
  ne_empty heq := hne (by simpa using congrArg String.toList heq)
  unbroken := by simpa using h

/-- A line that begins with a word. -/
theorem MadeUp.first {word : String} {rest : List Char} (hword : IsWord word)
    (happart : ∀ c ∈ rest.head?, isBlank c = true) (h : MadeUp ws rest) :
    MadeUp (word :: ws) (word.toList ++ rest) :=
  have hnone : IsBlanks [] := nofun
  .word hnone hword happart h

theorem MadeUp.isWord (h : MadeUp ws cs) : ∀ w ∈ ws, IsWord w := by
  induction h with
  | gap => simp
  | word _ hword _ _ ih => exact List.forall_mem_cons.2 ⟨hword, ih⟩

/-! ### A line is made up in one way -/

def wordsIn (cs : List Char) : List String :=
  ((pieces isBlank cs).filter (· ≠ [])).map String.ofList

theorem wordsIn_blank (h : isBlank c = true) (cs : List Char) :
    wordsIn (c :: cs) = wordsIn cs := by
  simp [wordsIn, pieces, h]

theorem wordsIn_gap {gap : List Char} (h : IsBlanks gap) (cs : List Char) :
    wordsIn (gap ++ cs) = wordsIn cs := by
  induction gap with
  | nil => rfl
  | cons c gap ih =>
    obtain ⟨hc, hgap⟩ := List.forall_mem_cons.1 h
    rw [List.cons_append, wordsIn_blank hc, ih hgap]

theorem wordsIn_word {word : String} (h : IsWord word) {rest : List Char}
    (hrest : ∀ c ∈ rest.head?, isBlank c = true) :
    wordsIn (word.toList ++ rest) = word :: wordsIn rest := by
  have hpieces : pieces isBlank word.toList = [word.toList] := pieces_of_forall h.unbroken
  cases rest with
  | nil => simp [wordsIn, pieces, hpieces, h.ne_empty]
  | cons c rest =>
    have hc : isBlank c = true := hrest c rfl
    rw [wordsIn_blank hc, wordsIn, pieces_append_cons hc, hpieces]
    simp [wordsIn, h.ne_empty]

theorem MadeUp.wordsIn_eq (h : MadeUp ws cs) : wordsIn cs = ws := by
  induction h with
  | gap hgap =>
    have hnone := wordsIn_gap hgap []
    rw [List.append_nil] at hnone
    rw [hnone]
    rfl
  | word hgap hword happart _ ih => rw [wordsIn_gap hgap, wordsIn_word hword happart, ih]

/-! ### Every line is made up of words -/

theorem MadeUp.cons_blank (h : MadeUp ws cs) (hc : isBlank c = true) : MadeUp ws (c :: cs) := by
  cases h with
  | gap hgap => exact .gap (List.forall_mem_cons.2 ⟨hc, hgap⟩)
  | @word gap rest word more hgap hword happart hbehind =>
    have hwider : IsBlanks (c :: gap) := List.forall_mem_cons.2 ⟨hc, hgap⟩
    exact .word hwider hword happart hbehind

/-- A character that is not blank begins a word, or makes the first word longer. -/
theorem MadeUp.exists_cons (h : MadeUp ws cs) (hc : isBlank c = false) :
    ∃ ws', MadeUp ws' (c :: cs) := by
  have halone : IsWord (String.ofList [c]) := isWord_ofList (by simp) (by simpa using hc)
  have hstarts (happart : ∀ d ∈ cs.head?, isBlank d = true) : ∃ ws', MadeUp ws' (c :: cs) := by
    have hfirst := h.first halone happart
    rw [String.toList_ofList] at hfirst
    exact ⟨_, hfirst⟩
  cases h with
  | gap hgap => exact hstarts fun d hd => hgap d (List.mem_of_head? hd)
  | @word gap rest word more hgap hword happart hbehind =>
    cases gap with
    | nil =>
      have hlonger : IsWord (String.ofList (c :: word.toList)) :=
        isWord_ofList (by simp) (List.forall_mem_cons.2 ⟨hc, hword.unbroken⟩)
      have hfirst := hbehind.first hlonger happart
      rw [String.toList_ofList] at hfirst
      exact ⟨_, hfirst⟩
    | cons d gap =>
      refine hstarts fun e he => ?_
      obtain rfl : d = e := by simpa using he
      exact hgap d List.mem_cons_self

theorem exists_madeUp (cs : List Char) : ∃ ws, MadeUp ws cs := by
  induction cs with
  | nil => exact ⟨[], .gap nofun⟩
  | cons c cs ih =>
    obtain ⟨ws, h⟩ := ih
    cases hc : isBlank c with
    | true => exact ⟨ws, h.cons_blank hc⟩
    | false => exact h.exists_cons hc

/-- The words of a line are those that it is made up of. -/
theorem words_eq_iff {line : String} : words line = ws ↔ MadeUp ws line.toList := by
  constructor
  · rintro rfl
    obtain ⟨ws, h⟩ := exists_madeUp line.toList
    have hwords : words line = ws := h.wordsIn_eq
    rwa [hwords]
  · exact MadeUp.wordsIn_eq

/-! ### Words with single blanks between them -/

/-- Words that are joined by single blanks are the words of the line that comes of it. -/
theorem words_intercalate (h : ∀ w ∈ ws, IsWord w) : words (" ".intercalate ws) = ws := by
  by_cases hne : ws = []
  · rw [hne]
    rfl
  · have hunbroken : ∀ p ∈ ws.map String.toList, ∀ c ∈ p, isBlank c = false := by
      intro p hp
      obtain ⟨w, hw, rfl⟩ := List.mem_map.1 hp
      exact (h w hw).unbroken
    have hpieces : pieces isBlank (" ".intercalate ws).toList = ws.map String.toList := by
      rw [String.toList_intercalate]
      exact pieces_intercalate (by decide) (by simpa using hne) hunbroken
    have hall : (ws.map String.toList).filter (· ≠ []) = ws.map String.toList := by
      refine List.filter_eq_self.2 fun p hp => ?_
      obtain ⟨w, hw, rfl⟩ := List.mem_map.1 hp
      simpa using (h w hw).ne_empty
    rw [words, hpieces, hall, List.map_map]
    simp [Function.comp_def]

end Compliance.Text
