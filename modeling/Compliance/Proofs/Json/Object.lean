import Compliance.Json.Value
import Mathlib.Data.String.Basic

/-!
Objects as they are read. Their members stand in the order of their names, each name once, and of
several members of one name in a text the last one counts.
-/

namespace Compliance.Json.Value

variable {name k : String} {v w : Value} {ms ns : List (String × Value)}

theorem string?_eq_some {s : String} : v.string? = some s ↔ v = .string s := by
  cases v with
  | string t => exact ⟨fun h => by rw [Option.some.inj h], fun h => by cases h; rfl⟩
  | _ => exact ⟨nofun, nofun⟩

/-! ### Putting in a member -/

theorem insertMember_of_lt (h : name < k) (v w : Value) (ms : List (String × Value)) :
    insertMember name v ((k, w) :: ms) = (name, v) :: (k, w) :: ms := by
  rw [insertMember, if_pos h]

theorem insertMember_same (k : String) (v w : Value) (ms : List (String × Value)) :
    insertMember k v ((k, w) :: ms) = (k, v) :: ms := by
  rw [insertMember, if_neg (lt_irrefl k), if_pos rfl]

theorem insertMember_of_gt (h : k < name) (v w : Value) (ms : List (String × Value)) :
    insertMember name v ((k, w) :: ms) = (k, w) :: insertMember name v ms := by
  rw [insertMember, if_neg (lt_asymm h), if_neg h.ne']

theorem lookup_cons_ite (k name : String) (v : Value) (ms : List (String × Value)) :
    ((name, v) :: ms).lookup k = if k = name then some v else ms.lookup k := by
  by_cases hk : k = name
  · rw [hk, List.lookup_cons_self, if_pos rfl]
  · rw [List.lookup_cons, beq_eq_false_iff_ne.2 hk, if_neg hk]

theorem lookup_eq_none : ms.lookup k = none ↔ k ∉ ms.map Prod.fst := by
  rw [List.lookup_eq_none_iff, List.mem_map, not_exists]
  refine forall_congr' fun m => ?_
  rw [bne_iff_ne, not_and]
  exact imp_congr_right fun _ => ne_comm

/-- A member that is put in is found under its name, and no other one is touched. -/
theorem lookup_insertMember (name k : String) (v : Value) (ms : List (String × Value)) :
    (insertMember name v ms).lookup k = if k = name then some v else ms.lookup k := by
  induction ms with
  | nil => exact lookup_cons_ite k name v []
  | cons m ms ih =>
    obtain ⟨j, u⟩ := m
    rcases lt_trichotomy name j with hlt | rfl | hgt
    · rw [insertMember_of_lt hlt, lookup_cons_ite]
    · rw [insertMember_same, lookup_cons_ite, lookup_cons_ite]
      by_cases hk : k = name
      · rw [if_pos hk, if_pos hk]
      · rw [if_neg hk, if_neg hk, if_neg hk]
    · rw [insertMember_of_gt hgt, lookup_cons_ite, lookup_cons_ite, ih]
      by_cases hk : k = name
      · subst hk
        rw [if_pos rfl, if_pos rfl, if_neg hgt.ne']
      · rw [if_neg hk, if_neg hk]

theorem mem_insertMember {m : String × Value} (h : m ∈ insertMember name v ms) :
    m = (name, v) ∨ m ∈ ms := by
  induction ms with
  | nil => exact .inl (List.mem_singleton.1 h)
  | cons m' ms ih =>
    obtain ⟨j, u⟩ := m'
    rcases lt_trichotomy name j with hlt | rfl | hgt
    · rw [insertMember_of_lt hlt] at h
      exact List.mem_cons.1 h
    · rw [insertMember_same] at h
      exact (List.mem_cons.1 h).imp_right (List.mem_cons_of_mem _)
    · rw [insertMember_of_gt hgt] at h
      rcases List.mem_cons.1 h with rfl | h
      · exact .inr List.mem_cons_self
      · exact (ih h).imp_right (List.mem_cons_of_mem _)

/-- The order in which two members of different names are put in makes no difference. -/
theorem insertMember_comm (h : name ≠ k) (v w : Value) (ms : List (String × Value)) :
    insertMember name v (insertMember k w ms) = insertMember k w (insertMember name v ms) := by
  induction ms with
  | nil =>
    rcases h.lt_or_gt with hlt | hgt
    · exact (insertMember_of_lt hlt v w []).trans (insertMember_of_gt hlt w v []).symm
    · exact (insertMember_of_gt hgt v w []).trans (insertMember_of_lt hgt w v []).symm
  | cons m ms ih =>
    obtain ⟨j, u⟩ := m
    rcases lt_trichotomy name j with hname | hname | hname <;>
      rcases lt_trichotomy k j with hk | hk | hk
    · rcases h.lt_or_gt with hlt | hgt
      · rw [insertMember_of_lt hk, insertMember_of_lt hlt, insertMember_of_lt hname,
          insertMember_of_gt hlt, insertMember_of_lt hk]
      · rw [insertMember_of_lt hk, insertMember_of_gt hgt, insertMember_of_lt hname,
          insertMember_of_lt hgt]
    · subst hk
      rw [insertMember_same, insertMember_of_lt hname, insertMember_of_lt hname,
        insertMember_of_gt hname, insertMember_same]
    · rw [insertMember_of_gt hk, insertMember_of_lt hname, insertMember_of_lt hname,
        insertMember_of_gt (hname.trans hk), insertMember_of_gt hk]
    · subst hname
      rw [insertMember_of_lt hk, insertMember_of_gt hk, insertMember_same, insertMember_of_lt hk]
    · exact absurd (hname.trans hk.symm) h
    · subst hname
      rw [insertMember_of_gt hk, insertMember_same, insertMember_same, insertMember_of_gt hk]
    · rw [insertMember_of_lt hk, insertMember_of_gt (hk.trans hname), insertMember_of_gt hname,
        insertMember_of_lt hk]
    · subst hk
      rw [insertMember_same, insertMember_of_gt hname, insertMember_of_gt hname,
        insertMember_same]
    · rw [insertMember_of_gt hk, insertMember_of_gt hname, insertMember_of_gt hname,
        insertMember_of_gt hk, ih]

/-- A new member is put in between others. -/
theorem exists_insertMember (h : name ∉ ms.map Prod.fst) :
    ∃ before behind, ms = before ++ behind ∧
      ∀ v, insertMember name v ms = before ++ (name, v) :: behind := by
  induction ms with
  | nil => exact ⟨[], [], rfl, fun v => rfl⟩
  | cons m ms ih =>
    obtain ⟨j, u⟩ := m
    rw [List.map_cons, List.mem_cons, not_or] at h
    rcases Ne.lt_or_gt h.1 with hlt | hgt
    · exact ⟨[], (j, u) :: ms, rfl, fun v => insertMember_of_lt hlt v u ms⟩
    · obtain ⟨before, behind, rfl, hins⟩ := ih h.2
      exact ⟨(j, u) :: before, behind, rfl, fun v => by
        rw [insertMember_of_gt hgt, hins, List.cons_append]⟩

/-! ### Putting in all members -/

def putIn (ms ns : List (String × Value)) : List (String × Value) :=
  ns.foldl (fun ms m => insertMember m.1 m.2 ms) ms

theorem ofMembers_eq (ms : List (String × Value)) : ofMembers ms = .object (putIn [] ms) := rfl

/-- Of several members of one name the last one is found, of those put in before those that were
there. -/
theorem lookup_putIn (k : String) (ms ns : List (String × Value)) :
    (putIn ms ns).lookup k = (ns.reverse.lookup k).or (ms.lookup k) := by
  induction ns generalizing ms with
  | nil => rfl
  | cons n ns ih =>
    obtain ⟨j, u⟩ := n
    have hstep : putIn ms ((j, u) :: ns) = putIn (insertMember j u ms) ns := rfl
    rw [hstep, ih, lookup_insertMember, List.reverse_cons, List.lookup_append, Option.or_assoc,
      lookup_cons_ite]
    by_cases hk : k = j
    · rw [if_pos hk, if_pos hk, Option.some_or]
    · rw [if_neg hk, if_neg hk, List.lookup_nil, Option.none_or]

theorem member?_ofMembers (k : String) (ms : List (String × Value)) :
    (ofMembers ms).member? k = ms.reverse.lookup k :=
  (lookup_putIn k [] ms).trans (Option.or_none)

/-- There is no member but those that are put in. -/
theorem not_mem_putIn (h : name ∉ ns.map Prod.fst) : name ∉ (putIn [] ns).map Prod.fst := by
  have hreverse : name ∉ ns.reverse.map Prod.fst := by
    rwa [List.map_reverse, List.mem_reverse]
  rw [← lookup_eq_none, lookup_putIn, lookup_eq_none.2 hreverse]
  rfl

/-- A member that no later one replaces can be put in at the end. -/
theorem putIn_insertMember (h : name ∉ ns.map Prod.fst) (v : Value)
    (ms : List (String × Value)) :
    putIn (insertMember name v ms) ns = insertMember name v (putIn ms ns) := by
  induction ns generalizing ms with
  | nil => rfl
  | cons n ns ih =>
    rw [List.map_cons, List.mem_cons, not_or] at h
    show putIn (insertMember n.1 n.2 (insertMember name v ms)) ns =
      insertMember name v (putIn (insertMember n.1 n.2 ms) ns)
    rw [insertMember_comm (Ne.symm h.1), ih h.2]

theorem ofMembers_append_cons (h : name ∉ ns.map Prod.fst) (v : Value)
    (ms : List (String × Value)) :
    ofMembers (ms ++ (name, v) :: ns) = .object (insertMember name v (putIn [] (ms ++ ns))) := by
  have hsplit : ∀ ps, putIn [] (ms ++ ps) = putIn (putIn [] ms) ps := fun ps =>
    List.foldl_append
  rw [ofMembers_eq, hsplit, hsplit, ← putIn_insertMember h]
  rfl

/-! ### The order of the members -/

def IsSorted (ms : List (String × Value)) : Prop := ms.Pairwise fun m n => m.1 < n.1

theorem IsSorted.insertMember (h : IsSorted ms) (name : String) (v : Value) :
    IsSorted (insertMember name v ms) := by
  induction ms with
  | nil => exact List.pairwise_singleton _ _
  | cons m ms ih =>
    obtain ⟨j, u⟩ := m
    obtain ⟨hfirst, hmore⟩ := List.pairwise_cons.1 h
    rcases lt_trichotomy name j with hlt | rfl | hgt
    · rw [insertMember_of_lt hlt]
      refine List.pairwise_cons.2 ⟨fun n hn => ?_, h⟩
      rcases List.mem_cons.1 hn with rfl | hn
      · exact hlt
      · exact hlt.trans (hfirst n hn)
    · rw [insertMember_same]
      exact List.pairwise_cons.2 ⟨hfirst, hmore⟩
    · rw [insertMember_of_gt hgt]
      refine List.pairwise_cons.2 ⟨fun n hn => ?_, ih hmore⟩
      rcases mem_insertMember hn with rfl | hn
      · exact hgt
      · exact hfirst n hn

theorem IsSorted.putIn (h : IsSorted ms) (ns : List (String × Value)) : IsSorted (putIn ms ns) := by
  induction ns generalizing ms with
  | nil => exact h
  | cons n ns ih => exact ih (h.insertMember n.1 n.2)

/-- A member that is found is the only one of its name. -/
theorem IsSorted.exists_alone (h : IsSorted ms) (hv : ms.lookup name = some v) :
    ∃ before behind, ms = before ++ (name, v) :: behind ∧
      name ∉ (before ++ behind).map Prod.fst := by
  obtain ⟨before, behind, rfl, hbefore⟩ := List.lookup_eq_some_iff.1 hv
  refine ⟨before, behind, rfl, fun hmem => ?_⟩
  obtain ⟨m, hm, hname⟩ := List.mem_map.1 hmem
  rcases List.mem_append.1 hm with hm | hm
  · exact absurd hname.symm (by simpa using hbefore m hm)
  · have hlt : name < m.1 :=
      (List.pairwise_cons.1 (List.pairwise_append.1 h).2.1).1 m hm
    exact hlt.ne' hname

/-! ### Setting a member anew -/

theorem replaceMember_alone {before behind : List (String × Value)}
    (h : name ∉ (before ++ behind).map Prod.fst) (v w : Value) :
    (object (before ++ (name, v) :: behind)).replaceMember name w =
      object (before ++ (name, w) :: behind) := by
  have hsame : ∀ ns : List (String × Value), name ∉ ns.map Prod.fst →
      (ns.map fun m => if m.1 = name then (m.1, w) else m) = ns := fun ns hns => by
    refine (List.map_congr_left fun m hm => ?_).trans (List.map_id ns)
    exact if_neg fun hname => hns (List.mem_map.2 ⟨m, hm, hname⟩)
  rw [List.map_append, List.mem_append, not_or] at h
  rw [replaceMember, List.map_append, List.map_cons, if_pos rfl, hsame before h.1,
    hsame behind h.2]

theorem replaceMember_insertMember (h : name ∉ ms.map Prod.fst) (v w : Value) :
    (object (insertMember name v ms)).replaceMember name w = object (insertMember name w ms) := by
  obtain ⟨before, behind, rfl, hins⟩ := exists_insertMember h
  rw [hins, hins, replaceMember_alone h]

end Compliance.Json.Value
