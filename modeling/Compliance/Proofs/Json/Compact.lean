import Compliance.Proofs.Json.Reading

/-!
Reading back a value from its text on one line. What is read is the value itself but for the members
of its objects: they come in the order of their names, and of several of one name the last counts.
-/

namespace Compliance.Json

mutual

def Value.asRead : Value → Value
  | .null => .null
  | .bool b => .bool b
  | .number n => .number n
  | .string s => .string s
  | .array vs => .array (itemsAsRead vs)
  | .object ms => .ofMembers (membersAsRead ms)

def itemsAsRead : List Value → List Value
  | [] => []
  | v :: vs => v.asRead :: itemsAsRead vs

def membersAsRead : List (String × Value) → List (String × Value)
  | [] => []
  | (k, v) :: ms => (k, v.asRead) :: membersAsRead ms

end

/-- The value has no double in it, its whole numbers are in the range of words, and its lists and
objects are nested less deeply than a number of levels. -/
inductive Value.Fits : Nat → Value → Prop
  | null (depth : Nat) : Fits depth .null
  | bool (depth : Nat) (b : Bool) : Fits depth (.bool b)
  | number (depth : Nat) {n : Number} (word : n.IsWord) : Fits depth (.number n)
  | string (depth : Nat) (s : String) : Fits depth (.string s)
  | array {depth : Nat} {vs : List Value} (more : 0 < depth) (items : ∀ v ∈ vs, Fits depth v) :
      Fits (depth + 1) (.array vs)
  | object {depth : Nat} {ms : List (String × Value)} (more : 0 < depth)
      (members : ∀ m ∈ ms, Fits depth m.2) : Fits (depth + 1) (.object ms)

/-- At some level, whatever may stand behind a value, it is read back from its text. -/
def Value.IsReadBack (depth : Nat) (v : Value) : Prop :=
  ∀ rest, EndsNumber rest → Reads (value depth (compactList v ++ rest)) v.asRead rest

theorem itemsAsRead_eq_map (vs : List Value) : itemsAsRead vs = vs.map Value.asRead := by
  induction vs with
  | nil => rw [itemsAsRead, List.map_nil]
  | cons v vs ih => rw [itemsAsRead, ih, List.map_cons]

theorem membersAsRead_eq_map (ms : List (String × Value)) :
    membersAsRead ms = ms.map fun m => (m.1, m.2.asRead) := by
  induction ms with
  | nil => rw [membersAsRead, List.map_nil]
  | cons m ms ih => rw [membersAsRead, ih, List.map_cons]

variable {depth : Nat}

/-- What stands behind an element of a list or a member of an object. -/
theorem endsNumber_cons {c : Char} (h : c ∈ [',', ']', '}']) (cs : List Char) :
    EndsNumber (c :: cs) := by
  simp only [List.mem_cons, List.not_mem_nil, or_false] at h
  rcases h with rfl | rfl | rfl <;> exact ⟨by decide, by decide, by decide, by decide⟩

/-! ### Strings and numbers -/

theorem writtenString_append (s : String) (rest : List Char) :
    writtenString s ++ rest = '"' :: (s.toList.flatMap writtenChar ++ '"' :: rest) := by
  rw [writtenString, List.cons_append, List.append_assoc, List.singleton_append]

theorem isReadBack_string (s : String) : (Value.string s).IsReadBack depth := by
  intro rest _
  have hread : Reads (value depth (writtenString s ++ rest))
      (.string (String.ofList s.toList)) rest := by
    rw [writtenString_append]
    exact value_string (skipSpace_cons (by decide) _) (stringBody_written s.toList rest)
  rwa [String.ofList_toList] at hread

/-- A number is read where it stands next. -/
theorem value_isWord {s rest : List Char} {n : Number} (h : n.IsWord)
    (hs : skipSpace s = n.text.toList ++ rest) (hrest : EndsNumber rest) :
    Reads (value depth s) (.number n) rest := by
  cases n with
  | float x => exact h.elim
  | integer n =>
    obtain ⟨hlow, hhigh⟩ := h
    have hsize : UInt64.size = significandBound := rfl
    change skipSpace s = (toString n).toList ++ rest at hs
    rw [Int.toString_eq_repr, Int.repr_eq_if] at hs
    by_cases hn : 0 ≤ n
    · have hread := number_toDigits false (show n.toNat < significandBound by omega) hrest
      obtain ⟨c, cs, hc, hdigit, -⟩ := (Text.isDigits_toDigits n.toNat).exists_cons
      rw [if_pos hn, Nat.toList_repr, hc] at hs
      rw [hc] at hread
      have hvalue : wholeNumber false n.toNat = .integer n := by
        rw [wholeNumber, if_neg (by decide), Int.toNat_of_nonneg hn]
      rw [hvalue] at hread
      exact value_number hs hdigit hread
    · have hread := number_toDigits true (show (-n).toNat < significandBound by omega) hrest
      have hvalue : wholeNumber true (-n).toNat = .integer n := by
        rw [wholeNumber, if_pos rfl, if_pos (by omega), Int.toNat_of_nonneg (by omega), Int.neg_neg]
      rw [hvalue] at hread
      rw [if_neg hn, String.toList_append, Nat.toList_repr] at hs
      exact value_negative hs hread

/-- A number does not begin with space. -/
theorem skipSpace_number {n : Number} (h : n.IsWord) (rest : List Char) :
    skipSpace (n.text.toList ++ rest) = n.text.toList ++ rest := by
  cases n with
  | float x => exact h.elim
  | integer n =>
    show skipSpace ((toString n).toList ++ rest) = (toString n).toList ++ rest
    rw [Int.toString_eq_repr, Int.repr_eq_if]
    by_cases hn : 0 ≤ n
    · obtain ⟨c, cs, hc, hdigit, -⟩ := (Text.isDigits_toDigits n.toNat).exists_cons
      rw [if_pos hn, Nat.toList_repr, hc]
      exact skipSpace_cons (isSpace_of_isDigit hdigit) _
    · rw [if_neg hn, String.toList_append]
      exact skipSpace_cons (by decide) _

theorem isReadBack_number {n : Number} (h : n.IsWord) : (Value.number n).IsReadBack depth :=
  fun rest hrest => value_isWord h (skipSpace_number h rest) hrest

/-! ### Lists -/

theorem isReadBack_items {vs : List Value} (hne : vs ≠ [])
    (h : ∀ v ∈ vs, v.IsReadBack depth) (rest : List Char) :
    Reads (moreItems depth (compactItems vs ++ ']' :: rest)) (itemsAsRead vs) rest := by
  -- What is written behind an element decides the rule: a bracket, or a comma and the others.
  induction vs with
  | nil => exact absurd rfl hne
  | cons v vs ih =>
    obtain ⟨hv, hvs⟩ := List.forall_mem_cons.1 h
    cases vs with
    | nil =>
      exact moreItems_last (hv _ (endsNumber_cons (by decide) rest)) (skipSpace_cons (by decide) _)
    | cons w ws =>
      have hmore := ih (List.cons_ne_nil w ws) hvs
      have hfirst := hv (',' :: (compactItems (w :: ws) ++ ']' :: rest))
        (endsNumber_cons (by decide) _)
      have hread := moreItems_cons hfirst (skipSpace_cons (by decide) _) hmore
      rwa [← List.cons_append, ← List.append_assoc] at hread

theorem isReadBack_array {vs : List Value} (hdepth : 0 < depth)
    (h : ∀ v ∈ vs, v.IsReadBack depth) : (Value.array vs).IsReadBack (depth + 1) := by
  intro rest _
  have hitems : Reads (items depth (compactItems vs ++ ']' :: rest)) (itemsAsRead vs) rest := by
    by_cases hne : vs = []
    · rw [hne]
      exact items_nil (skipSpace_cons (by decide) rest)
    · exact items_more (isReadBack_items hne h rest)
  have htext : compactList (.array vs) ++ rest = '[' :: (compactItems vs ++ ']' :: rest) := by
    rw [compactList, List.cons_append, List.append_assoc, List.singleton_append]
  rw [htext]
  exact value_array hdepth (skipSpace_cons (by decide) _) hitems

/-! ### Objects -/

theorem isReadBack_members {ms : List (String × Value)} (hne : ms ≠ [])
    (h : ∀ m ∈ ms, m.2.IsReadBack depth) (rest : List Char) :
    ∃ r, compactMembers ms ++ '}' :: rest = '"' :: r ∧
      Reads (moreMembers depth r) (membersAsRead ms) rest := by
  induction ms with
  | nil => exact absurd rfl hne
  | cons m ms ih =>
    obtain ⟨hv, hms⟩ := List.forall_mem_cons.1 h
    obtain ⟨k, v⟩ := m
    cases ms with
    | nil =>
      have hname := stringBody_written k.toList (':' :: (compactList v ++ '}' :: rest))
      have hread := moreMembers_last hname (skipSpace_cons (by decide) _)
        (hv _ (endsNumber_cons (by decide) rest)) (skipSpace_cons (by decide) _)
      rw [String.ofList_toList] at hread
      refine ⟨_, ?_, hread⟩
      rw [compactMembers, List.append_assoc, writtenString_append]
      rfl
    | cons n ns =>
      obtain ⟨r, hr, hmore⟩ := ih (List.cons_ne_nil n ns) hms
      have hname := stringBody_written k.toList
        (':' :: (compactList v ++ ',' :: (compactMembers (n :: ns) ++ '}' :: rest)))
      have hread := moreMembers_cons hname (skipSpace_cons (by decide) _)
        (hv _ (endsNumber_cons (by decide) _)) (skipSpace_cons (by decide) _)
        (by rw [hr]; exact skipSpace_cons (by decide) r) hmore
      rw [String.ofList_toList] at hread
      refine ⟨_, ?_, hread⟩
      rw [compactMembers, List.append_assoc, writtenString_append]
      · simp only [List.cons_append, List.append_assoc]
      · exact List.cons_ne_nil n ns

theorem isReadBack_object {ms : List (String × Value)} (hdepth : 0 < depth)
    (h : ∀ m ∈ ms, m.2.IsReadBack depth) : (Value.object ms).IsReadBack (depth + 1) := by
  intro rest _
  have hmembers : Reads (members depth (compactMembers ms ++ '}' :: rest)) (membersAsRead ms)
      rest := by
    by_cases hne : ms = []
    · rw [hne]
      exact members_nil (skipSpace_cons (by decide) rest)
    · obtain ⟨r, hr, hread⟩ := isReadBack_members hne h rest
      rw [hr]
      exact members_more (skipSpace_cons (by decide) r) hread
  have htext : compactList (.object ms) ++ rest = '{' :: (compactMembers ms ++ '}' :: rest) := by
    rw [compactList, List.cons_append, List.append_assoc, List.singleton_append]
  rw [htext]
  exact value_object hdepth (skipSpace_cons (by decide) _) hmembers

theorem Value.fits_ofStrings (hdepth : 0 < depth) (ms : List (String × String)) :
    (Value.ofStrings ms).Fits (depth + 1) := by
  refine .object hdepth fun m hm => ?_
  obtain ⟨n, _, rfl⟩ := List.mem_map.1 hm
  exact .string depth n.2

theorem Value.asRead_ofStrings (ms : List (String × String)) :
    (Value.ofStrings ms).asRead = .ofMembers (ms.map fun m => (m.1, .string m.2)) := by
  rw [Value.ofStrings, Value.asRead, membersAsRead_eq_map, List.map_map]
  rfl

/-! ### All values -/

theorem Value.Fits.isReadBack {v : Value} (h : v.Fits depth) : v.IsReadBack depth := by
  induction h with
  | null depth => exact fun rest _ => value_null (skipSpace_cons (by decide) _)
  | bool depth b =>
    intro rest _
    refine value_bool b ?_
    cases b <;> exact skipSpace_cons (by decide) _
  | number depth word => exact isReadBack_number word
  | string depth s => exact isReadBack_string s
  | array more _ ih => exact isReadBack_array more ih
  | object more _ ih => exact isReadBack_object more ih

/-- A value is read back from its text on one line. -/
theorem read_compact {v : Value} (h : v.Fits depthLimit) : read v.compact = .ok v.asRead := by
  have hread := h.isReadBack [] trivial
  rw [List.append_nil] at hread
  have htext : Reads (value depthLimit v.compact.toList) v.asRead [] := by
    rwa [Value.compact, String.toList_ofList]
  exact read_of_reads htext rfl

end Compliance.Json
