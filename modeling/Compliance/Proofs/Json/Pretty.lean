import Compliance.Proofs.Json.Skipping

/-!
Reading back a value from its text over several lines. Each element and each member stands behind a
line break of its own, and space in front of what stands next is passed over, so the same value is
read as from the text on one line.
-/

namespace Compliance.Json

variable {depth : Nat}

/-- At some level, and on whatever level it is written, a value is read back from its text over
several lines, whatever space stands in front of it. -/
def Value.IsLaidOut (depth : Nat) (v : Value) : Prop :=
  ∀ (level : Nat) (a rest : List Char), IsSpace a → EndsNumber rest →
    Reads (value depth (a ++ (prettyList level v ++ rest))) v.asRead rest

/-! ### Line breaks -/

theorem isSpace_newLine (level : Nat) : IsSpace (newLine level) := by
  intro c hc
  rcases List.mem_cons.1 hc with rfl | hc
  · rfl
  · rw [List.eq_of_mem_replicate hc]
    rfl

/-- What stands behind the last element of a list or the last member of an object. -/
theorem endsNumber_newLine (level : Nat) {c : Char} (h : c ∈ [',', ']', '}']) (cs : List Char) :
    EndsNumber (newLine level ++ c :: cs) :=
  (isSpace_newLine level).endsNumber_append (endsNumber_cons h cs)

/-! ### Lists -/

theorem isLaidOut_items {vs : List Value} (hne : vs ≠ []) (h : ∀ v ∈ vs, v.IsLaidOut depth)
    (level inner : Nat) (rest : List Char) :
    Reads (moreItems depth (prettyItems inner vs ++ (newLine level ++ ']' :: rest)))
      (itemsAsRead vs) rest := by
  -- What is written behind an element decides the rule: a bracket, or a comma and the others.
  induction vs with
  | nil => exact absurd rfl hne
  | cons v vs ih =>
    obtain ⟨hv, hvs⟩ := List.forall_mem_cons.1 h
    cases vs with
    | nil =>
      have hlast := hv inner (newLine inner) (newLine level ++ ']' :: rest) (isSpace_newLine inner)
        (endsNumber_newLine level (by decide) rest)
      rw [prettyItems, List.append_assoc]
      exact moreItems_last hlast (skipSpace_append_cons (isSpace_newLine level) (by decide) rest)
    | cons w ws =>
      have hmore := ih (List.cons_ne_nil w ws) hvs
      have hfirst := hv inner (newLine inner)
        (',' :: (prettyItems inner (w :: ws) ++ (newLine level ++ ']' :: rest)))
        (isSpace_newLine inner) (endsNumber_cons (by decide) _)
      have htext : prettyItems inner (v :: w :: ws) ++ (newLine level ++ ']' :: rest) =
          newLine inner ++ (prettyList inner v ++
            ',' :: (prettyItems inner (w :: ws) ++ (newLine level ++ ']' :: rest))) := by
        rw [prettyItems, List.append_assoc, List.append_assoc, List.cons_append]
        exact List.cons_ne_nil w ws
      rw [htext]
      exact moreItems_cons hfirst (skipSpace_cons (by decide) _) hmore

theorem isLaidOut_array {vs : List Value} (hdepth : 0 < depth)
    (h : ∀ v ∈ vs, v.IsLaidOut depth) : (Value.array vs).IsLaidOut (depth + 1) := by
  intro level a rest ha _
  rw [Value.asRead]
  cases vs with
  | nil =>
    refine value_array hdepth (skipSpace_append_cons ha (by decide) _) ?_
    exact items_nil (skipSpace_cons (by decide) rest)
  | cons v vs =>
    have hitems := isLaidOut_items (List.cons_ne_nil v vs) h level (level + 1) rest
    have htext : prettyList level (.array (v :: vs)) ++ rest =
        '[' :: (prettyItems (level + 1) (v :: vs) ++ (newLine level ++ ']' :: rest)) := by
      rw [prettyList]
      simp only [List.cons_append, List.append_assoc, List.nil_append]
    rw [htext]
    exact value_array hdepth (skipSpace_append_cons ha (by decide) _) (items_more hitems)

/-! ### Objects -/

theorem isLaidOut_members {ms : List (String × Value)} (hne : ms ≠ [])
    (h : ∀ m ∈ ms, m.2.IsLaidOut depth) (level inner : Nat) (rest : List Char) :
    ∃ r, prettyMembers inner ms ++ (newLine level ++ '}' :: rest) = newLine inner ++ '"' :: r ∧
      Reads (moreMembers depth r) (membersAsRead ms) rest := by
  have hspace : IsSpace [' '] := by
    intro c hc
    rw [List.mem_singleton.1 hc]
    rfl
  induction ms with
  | nil => exact absurd rfl hne
  | cons m ms ih =>
    obtain ⟨hv, hms⟩ := List.forall_mem_cons.1 h
    obtain ⟨k, v⟩ := m
    cases ms with
    | nil =>
      have hname := stringBody_written k.toList
        (':' :: ([' '] ++ (prettyList inner v ++ (newLine level ++ '}' :: rest))))
      have hlast := hv inner [' '] (newLine level ++ '}' :: rest) hspace
        (endsNumber_newLine level (by decide) rest)
      have hread := moreMembers_last hname (skipSpace_cons (by decide) _) hlast
        (skipSpace_append_cons (isSpace_newLine level) (by decide) rest)
      rw [String.ofList_toList] at hread
      refine ⟨_, ?_, hread⟩
      rw [prettyMembers, List.append_assoc, List.append_assoc, writtenString_append]
      rfl
    | cons n ns =>
      obtain ⟨r, hr, hmore⟩ := ih (List.cons_ne_nil n ns) hms
      have hname := stringBody_written k.toList (':' :: ([' '] ++ (prettyList inner v ++
        ',' :: (prettyMembers inner (n :: ns) ++ (newLine level ++ '}' :: rest)))))
      have hquote : skipSpace (prettyMembers inner (n :: ns) ++ (newLine level ++ '}' :: rest)) =
          '"' :: r := by
        rw [hr]
        exact skipSpace_append_cons (isSpace_newLine inner) (by decide) r
      have hread := moreMembers_cons hname (skipSpace_cons (by decide) _)
        (hv inner [' '] _ hspace (endsNumber_cons (by decide) _)) (skipSpace_cons (by decide) _)
        hquote hmore
      rw [String.ofList_toList] at hread
      refine ⟨_, ?_, hread⟩
      rw [prettyMembers, List.append_assoc, List.append_assoc, writtenString_append]
      · simp only [List.cons_append, List.append_assoc, List.nil_append]
      · exact List.cons_ne_nil n ns

theorem isLaidOut_object {ms : List (String × Value)} (hdepth : 0 < depth)
    (h : ∀ m ∈ ms, m.2.IsLaidOut depth) : (Value.object ms).IsLaidOut (depth + 1) := by
  intro level a rest ha _
  rw [Value.asRead]
  cases ms with
  | nil =>
    refine value_object hdepth (skipSpace_append_cons ha (by decide) _) ?_
    exact members_nil (skipSpace_cons (by decide) rest)
  | cons m ms =>
    obtain ⟨r, hr, hread⟩ := isLaidOut_members (List.cons_ne_nil m ms) h level (level + 1) rest
    have htext : prettyList level (.object (m :: ms)) ++ rest =
        '{' :: (prettyMembers (level + 1) (m :: ms) ++ (newLine level ++ '}' :: rest)) := by
      rw [prettyList]
      simp only [List.cons_append, List.append_assoc, List.nil_append]
    rw [htext, hr]
    exact value_object hdepth (skipSpace_append_cons ha (by decide) _)
      (members_more (skipSpace_append_cons (isSpace_newLine (level + 1)) (by decide) r) hread)

/-! ### All values -/

theorem Value.Fits.isLaidOut {v : Value} (h : v.Fits depth) : v.IsLaidOut depth := by
  induction h with
  | null depth => exact fun _ _ _ ha _ => value_null (skipSpace_append_cons ha (by decide) _)
  | bool depth b =>
    intro level a rest ha _
    refine value_bool b ?_
    cases b <;> exact skipSpace_append_cons ha (by decide) _
  | number depth word =>
    intro level a rest ha hrest
    exact value_isWord word ((skipSpace_append ha _).trans (skipSpace_number word rest)) hrest
  | string depth s =>
    intro level a rest ha _
    have hread : Reads (value depth (a ++ (writtenString s ++ rest)))
        (.string (String.ofList s.toList)) rest := by
      rw [writtenString_append]
      exact value_string (skipSpace_append_cons ha (by decide) _)
        (stringBody_written s.toList rest)
    rwa [String.ofList_toList] at hread
  | array more _ ih => exact isLaidOut_array more ih
  | object more _ ih => exact isLaidOut_object more ih

/-- A value is read back from its text over several lines. -/
theorem read_pretty {v : Value} (h : v.Fits depthLimit) : read v.pretty = .ok v.asRead := by
  have hread := h.isLaidOut 0 [] [] nofun trivial
  rw [List.append_nil, List.nil_append] at hread
  have htext : Reads (value depthLimit v.pretty.toList) v.asRead [] := by
    rwa [Value.pretty, String.toList_ofList]
  exact read_of_reads htext rfl

end Compliance.Json
