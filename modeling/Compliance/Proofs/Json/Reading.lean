import Compliance.Json.Reader
import Compliance.Proofs.Json.Number

/-!
What the reader of values makes of a text once it is known what stands next in it. There is one rule
for each form of a value, and one for each way a list or an object can go on; space in front of what
stands next is passed over, and a rule says nothing about the text that is left.
-/

namespace Compliance.Json

variable {s : List Char} {rest : List Char} {depth : Nat}

/-! ### What stands next -/

theorem exists_next {r : List Char} {c : Char} (h : skipSpace s = c :: r) :
    ∃ lt, next s = .char c r lt :=
  ⟨length_lt_of_skipSpace h, next_eq_char.2 h⟩

theorem Taken.exists_next {α : Type} {t : Taken α s} {r : List Char} {c : Char}
    (h : skipSpace t.rest = c :: r) : ∃ lt, t.next = .char c r lt := by
  obtain ⟨lt, hnext⟩ := Json.exists_next h
  refine ⟨Nat.lt_of_lt_of_le lt t.le, ?_⟩
  rw [Taken.next, hnext]

/-- A character that is no space stands next in the text that it begins. -/
theorem skipSpace_cons {c : Char} (h : isSpace c = false) (cs : List Char) :
    skipSpace (c :: cs) = c :: cs :=
  List.dropWhile_cons_of_neg (by simp [h])

/-! ### Values -/

theorem reads_word (ws rest : List Char) : Reads (word ws (ws ++ rest)) () rest := by
  induction ws with
  | nil =>
    show Reads (word [] rest) () rest
    rw [word]
    exact ⟨_, rfl, rfl, rfl⟩
  | cons w ws ih =>
    obtain ⟨t, ht, hvalue, hrest⟩ := ih
    rw [List.cons_append, word, if_pos rfl, ht]
    exact ⟨_, rfl, rfl, hrest⟩

theorem value_null (h : skipSpace s = ['n', 'u', 'l', 'l'] ++ rest) :
    Reads (value depth s) .null rest := by
  obtain ⟨lt, hnext⟩ := exists_next h
  obtain ⟨t, ht, -, hrest⟩ := reads_word ['u', 'l', 'l'] rest
  rw [value, hnext]
  exact ⟨_, congrArg (Except.map _) ht, rfl, hrest⟩

theorem value_bool (b : Bool) (h : skipSpace s = writtenBool b ++ rest) :
    Reads (value depth s) (.bool b) rest := by
  cases b with
  | true =>
    obtain ⟨lt, hnext⟩ := exists_next h
    obtain ⟨t, ht, -, hrest⟩ := reads_word ['r', 'u', 'e'] rest
    rw [value, hnext]
    exact ⟨_, congrArg (Except.map _) ht, rfl, hrest⟩
  | false =>
    obtain ⟨lt, hnext⟩ := exists_next h
    obtain ⟨t, ht, -, hrest⟩ := reads_word ['a', 'l', 's', 'e'] rest
    rw [value, hnext]
    exact ⟨_, congrArg (Except.map _) ht, rfl, hrest⟩

theorem value_string {r cs : List Char} (h : skipSpace s = '"' :: r)
    (hbody : Reads (stringBody r) cs rest) :
    Reads (value depth s) (.string (String.ofList cs)) rest := by
  obtain ⟨lt, hnext⟩ := exists_next h
  obtain ⟨t, ht, rfl, rfl⟩ := hbody
  rw [value, hnext]
  exact ⟨_, congrArg (Except.map _) ht, rfl, rfl⟩

theorem value_negative {r : List Char} {n : Number} (h : skipSpace s = '-' :: r)
    (hn : Reads (number true r) n rest) : Reads (value depth s) (.number n) rest := by
  obtain ⟨lt, hnext⟩ := exists_next h
  obtain ⟨t, ht, rfl, rfl⟩ := hn
  rw [value, hnext]
  exact ⟨_, congrArg (Except.map _) ht, rfl, rfl⟩

theorem value_number {c : Char} {r : List Char} {n : Number} (h : skipSpace s = c :: r)
    (hc : c.isDigit = true) (hn : Reads (number false (c :: r)) n rest) :
    Reads (value depth s) (.number n) rest := by
  obtain ⟨lt, hnext⟩ := exists_next h
  obtain ⟨t, ht, rfl, rfl⟩ := hn
  have hne : ∀ d, d.isDigit = false → c ≠ d := fun _ => Text.ne_of_isDigit hc
  rw [value, hnext]
  split
  · rename_i heq; cases heq
  · rename_i heq; cases heq; exact absurd rfl (hne 'n' (by decide))
  · rename_i heq; cases heq; exact absurd rfl (hne 't' (by decide))
  · rename_i heq; cases heq; exact absurd rfl (hne 'f' (by decide))
  · rename_i heq; cases heq; exact absurd rfl (hne '"' (by decide))
  · rename_i heq; cases heq; exact absurd rfl (hne '-' (by decide))
  · rename_i heq; cases heq; exact absurd rfl (hne '[' (by decide))
  · rename_i heq; cases heq; exact absurd rfl (hne '{' (by decide))
  · rename_i heq
    cases heq
    rw [if_pos hc]
    exact ⟨_, congrArg (Except.map _) ht, rfl, rfl⟩

theorem value_array {r : List Char} {vs : List Value} (hdepth : 0 < depth)
    (h : skipSpace s = '[' :: r) (hitems : Reads (items depth r) vs rest) :
    Reads (value (depth + 1) s) (.array vs) rest := by
  obtain ⟨lt, hnext⟩ := exists_next h
  obtain ⟨t, ht, rfl, rfl⟩ := hitems
  rw [value, hnext]
  simp only [if_neg (show ¬ depth + 1 ≤ 1 by omega), Nat.add_sub_cancel, ht]
  exact ⟨_, rfl, rfl, rfl⟩

theorem value_object {r : List Char} {ms : List (String × Value)} (hdepth : 0 < depth)
    (h : skipSpace s = '{' :: r) (hmembers : Reads (members depth r) ms rest) :
    Reads (value (depth + 1) s) (.ofMembers ms) rest := by
  obtain ⟨lt, hnext⟩ := exists_next h
  obtain ⟨t, ht, rfl, rfl⟩ := hmembers
  rw [value, hnext]
  simp only [if_neg (show ¬ depth + 1 ≤ 1 by omega), Nat.add_sub_cancel, ht]
  exact ⟨_, rfl, rfl, rfl⟩

/-- A value does not begin as a list ends. -/
theorem exists_next_of_value {v : Value} (h : Reads (value depth s) v rest) :
    ∃ c r, skipSpace s = c :: r ∧ c ≠ ']' := by
  obtain ⟨t, ht, -, -⟩ := h
  rw [value] at ht
  cases hs : skipSpace s with
  | nil =>
    rw [next_eq_ended.2 hs] at ht
    cases ht
  | cons c r =>
    obtain ⟨lt, hnext⟩ := exists_next hs
    refine ⟨c, r, rfl, ?_⟩
    rintro rfl
    rw [hnext] at ht
    cases ht

/-! ### Lists -/

theorem moreItems_last {more : List Char} {v : Value} (hv : Reads (value depth s) v more)
    (h : skipSpace more = ']' :: rest) : Reads (moreItems depth s) [v] rest := by
  obtain ⟨t, ht, rfl, rfl⟩ := hv
  obtain ⟨lt, hnext⟩ := Taken.exists_next h
  rw [moreItems, ht]
  simp only [hnext]
  exact ⟨_, rfl, rfl, rfl⟩

theorem exists_next_of_moreItems {vs : List Value} (h : Reads (moreItems depth s) vs rest) :
    ∃ c r, skipSpace s = c :: r ∧ c ≠ ']' := by
  obtain ⟨t, ht, -, -⟩ := h
  rw [moreItems] at ht
  cases hv : value depth s with
  | error f =>
    rw [hv] at ht
    cases ht
  | ok v => exact exists_next_of_value ⟨v, hv, rfl, rfl⟩

theorem moreItems_cons {more r : List Char} {v : Value} {vs : List Value}
    (hv : Reads (value depth s) v more) (h : skipSpace more = ',' :: r)
    (hmore : Reads (moreItems depth r) vs rest) : Reads (moreItems depth s) (v :: vs) rest := by
  obtain ⟨c, r', hr, hc⟩ := exists_next_of_moreItems hmore
  obtain ⟨lt', hnext'⟩ := exists_next hr
  obtain ⟨t, ht, rfl, rfl⟩ := hv
  obtain ⟨u, hu, rfl, rfl⟩ := hmore
  obtain ⟨lt, hnext⟩ := Taken.exists_next h
  rw [moreItems, ht]
  simp only [hnext, hnext']
  split
  · rename_i heq; cases heq
  · rename_i heq; cases heq; exact absurd rfl hc
  · rw [hu]
    exact ⟨_, rfl, rfl, rfl⟩

theorem items_nil (h : skipSpace s = ']' :: rest) : Reads (items depth s) [] rest := by
  obtain ⟨lt, hnext⟩ := exists_next h
  rw [items, hnext]
  exact ⟨_, rfl, rfl, rfl⟩

theorem items_more {vs : List Value} (hmore : Reads (moreItems depth s) vs rest) :
    Reads (items depth s) vs rest := by
  obtain ⟨c, r, hs, hc⟩ := exists_next_of_moreItems hmore
  obtain ⟨lt, hnext⟩ := exists_next hs
  rw [items, hnext]
  split
  · rename_i heq; cases heq
  · rename_i heq; cases heq; exact absurd rfl hc
  · exact hmore

/-! ### Objects -/

theorem moreMembers_last {name colon q more : List Char} {v : Value}
    (hname : Reads (stringBody s) name colon) (hcolon : skipSpace colon = ':' :: q)
    (hv : Reads (value depth q) v more) (h : skipSpace more = '}' :: rest) :
    Reads (moreMembers depth s) [(String.ofList name, v)] rest := by
  obtain ⟨k, hk, rfl, rfl⟩ := hname
  obtain ⟨lt, hnext⟩ := Taken.exists_next hcolon
  obtain ⟨t, ht, rfl, rfl⟩ := hv
  obtain ⟨lt', hnext'⟩ := Taken.exists_next h
  rw [moreMembers, hk]
  simp only [hnext, ht, hnext']
  exact ⟨_, rfl, rfl, rfl⟩

theorem moreMembers_cons {name colon q more r p : List Char} {v : Value}
    {ms : List (String × Value)} (hname : Reads (stringBody s) name colon)
    (hcolon : skipSpace colon = ':' :: q) (hv : Reads (value depth q) v more)
    (h : skipSpace more = ',' :: r) (hquote : skipSpace r = '"' :: p)
    (hmore : Reads (moreMembers depth p) ms rest) :
    Reads (moreMembers depth s) ((String.ofList name, v) :: ms) rest := by
  obtain ⟨k, hk, rfl, rfl⟩ := hname
  obtain ⟨lt, hnext⟩ := Taken.exists_next hcolon
  obtain ⟨t, ht, rfl, rfl⟩ := hv
  obtain ⟨lt', hnext'⟩ := Taken.exists_next h
  obtain ⟨lt'', hnext''⟩ := exists_next hquote
  obtain ⟨u, hu, rfl, rfl⟩ := hmore
  rw [moreMembers, hk]
  simp only [hnext, ht, hnext', hnext'', hu]
  exact ⟨_, rfl, rfl, rfl⟩

theorem members_nil (h : skipSpace s = '}' :: rest) : Reads (members depth s) [] rest := by
  obtain ⟨lt, hnext⟩ := exists_next h
  rw [members, hnext]
  exact ⟨_, rfl, rfl, rfl⟩

theorem members_more {r : List Char} {ms : List (String × Value)} (h : skipSpace s = '"' :: r)
    (hmore : Reads (moreMembers depth r) ms rest) : Reads (members depth s) ms rest := by
  obtain ⟨lt, hnext⟩ := exists_next h
  obtain ⟨t, ht, rfl, rfl⟩ := hmore
  rw [members, hnext]
  simp only [ht]
  exact ⟨_, rfl, rfl, rfl⟩

/-! ### Whole texts -/

/-- A text is what its value is if nothing but space stands behind the value. -/
theorem read_of_reads {text : String} {v : Value}
    (h : Reads (value depthLimit text.toList) v rest) (hrest : skipSpace rest = []) :
    read text = .ok v := by
  obtain ⟨t, ht, rfl, rfl⟩ := h
  rw [read, readWith, ht]
  simp only [endOfText, hrest]

end Compliance.Json
