import Compliance.Proofs.Json.Compact
import Compliance.Proofs.Json.Numeral

/-!
What passes over a value against the grammar: it passes over every value, to any depth, and over
nothing else. Each way a list or an object can go on is read off its loop once, and holds in both
directions; the values are then one induction over the length of the text and one over the grammar.
-/

namespace Compliance.Json

variable {s rest : List Char}

/-! ### Space -/

/-- What stands next stands there behind space. -/
theorem exists_space {r : List Char} {c : Char} (h : skipSpace s = c :: r) :
    ∃ a, IsSpace a ∧ s = a ++ c :: r := by
  refine ⟨s.takeWhile isSpace, fun d hd => List.mem_takeWhile_imp hd, ?_⟩
  rw [← h, skipSpace, List.takeWhile_append_dropWhile]

theorem skipSpace_append {a : List Char} (ha : IsSpace a) (s : List Char) :
    skipSpace (a ++ s) = skipSpace s :=
  List.dropWhile_append_of_pos ha

theorem skipSpace_append_cons {a : List Char} {c : Char} (ha : IsSpace a) (hc : isSpace c = false)
    (r : List Char) : skipSpace (a ++ c :: r) = c :: r := by
  rw [skipSpace_append ha, skipSpace_cons hc]

theorem skipSpace_eq_nil : skipSpace s = [] ↔ IsSpace s := by
  rw [skipSpace, List.dropWhile_eq_nil_iff]
  rfl

theorem IsSpace.endsNumber_append {b : List Char} (hb : IsSpace b) (h : EndsNumber s) :
    EndsNumber (b ++ s) := by
  cases b with
  | nil => exact h
  | cons c cs =>
    have hc : isSpace c = true := (List.forall_mem_cons.1 hb).1
    have hne : ∀ d, isSpace d = false → c ≠ d := fun d hd heq => by simp [← heq, hc] at hd
    refine ⟨?_, hne '.' (by decide), hne 'e' (by decide), hne 'E' (by decide)⟩
    exact Bool.eq_false_iff.2 fun hdigit => by simp [isSpace_of_isDigit hdigit] at hc

theorem Taken.next_eq_char {α : Type} {t : Taken α s} {r : List Char} {c : Char}
    {lt : r.length < s.length} (h : t.next = .char c r lt) : skipSpace t.rest = c :: r := by
  cases hr : skipSpace t.rest with
  | nil =>
    rw [Taken.next, next_eq_ended.2 hr] at h
    cases h
  | cons d q =>
    obtain ⟨lt', hnext⟩ := Taken.exists_next hr
    rw [hnext] at h
    cases h
    rfl

/-- A whole text is what a reader takes of it with nothing but space behind. -/
theorem readWith_eq_ok {α : Type} {reader : Reader α} {a : α} :
    readWith reader s = .ok a ↔ ∃ rest, Reads (reader s) a rest ∧ IsSpace rest := by
  rw [readWith]
  constructor
  · intro h
    split at h
    · cases h
    · rename_i t ht
      rw [endOfText] at h
      split at h
      · cases h
      · rename_i hend
        split at hend
        · rename_i hrest
          cases hend
          cases h
          exact ⟨t.rest, ⟨t, ht, rfl, rfl⟩, skipSpace_eq_nil.1 hrest⟩
        · cases hend
  · rintro ⟨_, ⟨t, ht, rfl, rfl⟩, hrest⟩
    rw [ht]
    simp only [endOfText, skipSpace_eq_nil.2 hrest]

/-! ### Loops -/

theorem reads_skipMoreItems : Reads (skipMoreItems s) () rest ↔
    ∃ more, Reads (skipValue s) () more ∧ (skipSpace more = ']' :: rest ∨
      ∃ r, skipSpace more = ',' :: r ∧ Reads (skipMoreItems r) () rest) := by
  rw [skipMoreItems]
  constructor
  · intro h
    split at h
    · exact absurd h not_reads_error
    · rename_i v hv
      refine ⟨v.rest, ⟨v, hv, rfl, rfl⟩, ?_⟩
      split at h
      · exact absurd h not_reads_error
      · rename_i hnext
        obtain ⟨-, rfl⟩ := reads_ok.1 h
        exact .inl (Taken.next_eq_char hnext)
      · rename_i hnext
        exact .inr ⟨_, Taken.next_eq_char hnext, h.of_map fun _ => rfl⟩
      · exact absurd h not_reads_error
  · rintro ⟨more, ⟨v, hv, -, rfl⟩, hnext | ⟨r, hnext, h⟩⟩
    · obtain ⟨lt, hnext⟩ := Taken.exists_next hnext
      rw [hv]
      simp only [hnext]
      exact ⟨_, rfl, rfl, rfl⟩
    · obtain ⟨lt, hnext⟩ := Taken.exists_next hnext
      rw [hv]
      simp only [hnext]
      exact h.map fun _ => rfl

theorem reads_skipMoreMembers : Reads (skipMoreMembers s) () rest ↔
    ∃ p colon q more, skipSpace s = '"' :: p ∧ Reads (skipString p) () colon ∧
      skipSpace colon = ':' :: q ∧ Reads (skipValue q) () more ∧ (skipSpace more = '}' :: rest ∨
        ∃ r, skipSpace more = ',' :: r ∧ Reads (skipMoreMembers r) () rest) := by
  rw [skipMoreMembers]
  constructor
  · intro h
    split at h
    · exact absurd h not_reads_error
    · rename_i hquote
      split at h
      · exact absurd h not_reads_error
      · rename_i k hk
        split at h
        · exact absurd h not_reads_error
        · rename_i hcolon
          split at h
          · exact absurd h not_reads_error
          · rename_i v hv
            refine ⟨_, k.rest, _, v.rest, next_eq_char.1 hquote, ⟨k, hk, rfl, rfl⟩,
              Taken.next_eq_char hcolon, ⟨v, hv, rfl, rfl⟩, ?_⟩
            split at h
            · exact absurd h not_reads_error
            · rename_i hnext
              obtain ⟨-, rfl⟩ := reads_ok.1 h
              exact .inl (Taken.next_eq_char hnext)
            · rename_i hnext
              exact .inr ⟨_, Taken.next_eq_char hnext, h.of_map fun _ => rfl⟩
            · exact absurd h not_reads_error
        · exact absurd h not_reads_error
    · exact absurd h not_reads_error
  · rintro ⟨p, colon, q, more, hquote, ⟨k, hk, -, rfl⟩, hcolon, ⟨v, hv, -, rfl⟩, hmore⟩
    obtain ⟨lt, hquote⟩ := exists_next hquote
    obtain ⟨lt', hcolon⟩ := Taken.exists_next hcolon
    rw [hquote]
    rcases hmore with hnext | ⟨r, hnext, h⟩
    · obtain ⟨lt'', hnext⟩ := Taken.exists_next hnext
      simp only [hk, hcolon, hv, hnext]
      exact ⟨_, rfl, rfl, rfl⟩
    · obtain ⟨lt'', hnext⟩ := Taken.exists_next hnext
      simp only [hk, hcolon, hv, hnext]
      exact h.map fun _ => rfl

/-- A value that is passed over does not begin as a list ends. -/
theorem exists_next_of_skipValue (h : Reads (skipValue s) () rest) :
    ∃ c r, skipSpace s = c :: r ∧ c ≠ ']' := by
  rw [skipValue] at h
  cases hs : skipSpace s with
  | nil =>
    rw [next_eq_ended.2 hs] at h
    exact absurd h not_reads_error
  | cons c r =>
    obtain ⟨lt, hnext⟩ := exists_next hs
    refine ⟨c, r, rfl, ?_⟩
    rintro rfl
    rw [hnext] at h
    exact absurd h not_reads_error

theorem reads_skipItems : Reads (skipItems s) () rest ↔
    skipSpace s = ']' :: rest ∨ Reads (skipMoreItems s) () rest := by
  rw [skipItems]
  constructor
  · intro h
    split at h
    · exact absurd h not_reads_error
    · rename_i hnext
      obtain ⟨-, rfl⟩ := reads_ok.1 h
      exact .inl (next_eq_char.1 hnext)
    · exact .inr h
  · rintro (hnext | h)
    · obtain ⟨lt, hnext⟩ := exists_next hnext
      rw [hnext]
      exact ⟨_, rfl, rfl, rfl⟩
    · obtain ⟨more, hvalue, -⟩ := reads_skipMoreItems.1 h
      obtain ⟨c, r, hs, hc⟩ := exists_next_of_skipValue hvalue
      obtain ⟨lt, hnext⟩ := exists_next hs
      rw [hnext]
      split
      · rename_i heq; cases heq
      · rename_i heq; cases heq; exact absurd rfl hc
      · exact h

theorem reads_skipMembers : Reads (skipMembers s) () rest ↔
    skipSpace s = '}' :: rest ∨ Reads (skipMoreMembers s) () rest := by
  rw [skipMembers]
  constructor
  · intro h
    split at h
    · exact absurd h not_reads_error
    · rename_i hnext
      obtain ⟨-, rfl⟩ := reads_ok.1 h
      exact .inl (next_eq_char.1 hnext)
    · exact .inr h
  · rintro (hnext | h)
    · obtain ⟨lt, hnext⟩ := exists_next hnext
      rw [hnext]
      exact ⟨_, rfl, rfl, rfl⟩
    · obtain ⟨p, colon, q, more, hquote, -⟩ := reads_skipMoreMembers.1 h
      obtain ⟨lt, hnext⟩ := exists_next hquote
      simp only [hnext]
      exact h

/-! ### Nothing but values -/

def IsPassed (s rest : List Char) : Prop :=
  ∃ a v, IsSpace a ∧ IsValue v ∧ s = a ++ (v ++ rest)

theorem exists_of_skipMoreItems
    (hvalue : ∀ t more, t.length ≤ s.length → Reads (skipValue t) () more → IsPassed t more)
    (h : Reads (skipMoreItems s) () rest) :
    ∃ ps body, s = body ++ ']' :: rest ∧ Separated ps body ∧ ∀ p ∈ ps, IsValue p := by
  -- The loop goes on behind a comma, where the text is shorter.
  induction hn : s.length using Nat.strongRecOn generalizing s with
  | ind n ih =>
    subst hn
    obtain ⟨more, hv, hmore⟩ := reads_skipMoreItems.1 h
    obtain ⟨a, v, ha, hisValue, rfl⟩ := hvalue s more (Nat.le_refl _) hv
    rcases hmore with hclose | ⟨r, hcomma, hr⟩
    · obtain ⟨b, hb, rfl⟩ := exists_space hclose
      refine ⟨[v], a ++ (v ++ b), by simp, .last ha hb, ?_⟩
      rintro p hp
      rwa [List.mem_singleton.1 hp]
    · obtain ⟨b, hb, rfl⟩ := exists_space hcomma
      have hlt : r.length < (a ++ (v ++ (b ++ ',' :: r))).length := by
        simp only [List.length_append, List.length_cons]
        omega
      obtain ⟨ps, body, rfl, hps, hvalues⟩ :=
        ih _ hlt (fun t q ht => hvalue t q (Nat.le_trans ht (Nat.le_of_lt hlt))) hr rfl
      exact ⟨v :: ps, a ++ (v ++ (b ++ ',' :: body)), by simp, .cons ha hb hps,
        List.forall_mem_cons.2 ⟨hisValue, hvalues⟩⟩

theorem exists_of_skipMoreMembers
    (hvalue : ∀ t more, t.length ≤ s.length → Reads (skipValue t) () more → IsPassed t more)
    (h : Reads (skipMoreMembers s) () rest) :
    ∃ (ms : List Member) (body : List Char), s = body ++ '}' :: rest ∧
      Separated (ms.map Member.text) body ∧
      (∀ m ∈ ms, IsBody m.name) ∧ ∀ m ∈ ms, IsValue m.value := by
  induction hn : s.length using Nat.strongRecOn generalizing s with
  | ind n ih =>
    subst hn
    obtain ⟨p, colon, q, more, hquote, hname, hcolon, hv, hmore⟩ := reads_skipMoreMembers.1 h
    obtain ⟨a, ha, rfl⟩ := exists_space hquote
    obtain ⟨name, rfl, hbody⟩ := reads_skipString.1 hname
    obtain ⟨before, hbefore, rfl⟩ := exists_space hcolon
    obtain ⟨behind, v, hbehind, hisValue, rfl⟩ := hvalue q more (by simp; omega) hv
    let m : Member := ⟨name, before, behind, v, hbefore, hbehind⟩
    rcases hmore with hclose | ⟨r, hcomma, hr⟩
    · obtain ⟨b, hb, rfl⟩ := exists_space hclose
      refine ⟨[m], a ++ (m.text ++ b), by simp [m, Member.text, quote], .last ha hb, ?_, ?_⟩
      · rintro _ hm
        rwa [List.mem_singleton.1 hm]
      · rintro _ hm
        rwa [List.mem_singleton.1 hm]
    · obtain ⟨b, hb, rfl⟩ := exists_space hcomma
      have hlt : r.length < (a ++ '"' :: (name ++ '"' :: (before ++ ':' ::
          (behind ++ (v ++ (b ++ ',' :: r)))))).length := by
        simp only [List.length_append, List.length_cons]
        omega
      obtain ⟨ms, body, rfl, hms, hnames, hvalues⟩ :=
        ih _ hlt (fun t q ht => hvalue t q (Nat.le_trans ht (Nat.le_of_lt hlt))) hr rfl
      exact ⟨m :: ms, a ++ (m.text ++ (b ++ ',' :: body)), by simp [m, Member.text, quote],
        .cons ha hb hms, List.forall_mem_cons.2 ⟨hbody, hnames⟩,
        List.forall_mem_cons.2 ⟨hisValue, hvalues⟩⟩

theorem reads_word_iff {ws : List Char} : Reads (word ws s) () rest ↔ s = ws ++ rest := by
  constructor
  · intro h
    fun_induction word ws s with
    | case1 s =>
      obtain ⟨-, rfl⟩ := reads_ok.1 h
      rfl
    | case2 => exact absurd h not_reads_error
    | case3 w ws cs ih =>
      rw [ih (h.of_map fun _ => rfl)]
      rfl
    | case4 => exact absurd h not_reads_error
  · rintro rfl
    exact reads_word ws rest

/-- What is passed over is a value. -/
theorem isPassed_of_skipValue (h : Reads (skipValue s) () rest) : IsPassed s rest := by
  induction hn : s.length using Nat.strongRecOn generalizing s rest with
  | ind n ih =>
    subst hn
    rw [skipValue] at h
    split at h
    · exact absurd h not_reads_error
    · rename_i hnext
      obtain ⟨a, ha, rfl⟩ := exists_space (next_eq_char.1 hnext)
      obtain rfl := reads_word_iff.1 (h.of_map fun _ => rfl)
      exact ⟨a, _, ha, .null, rfl⟩
    · rename_i hnext
      obtain ⟨a, ha, rfl⟩ := exists_space (next_eq_char.1 hnext)
      obtain rfl := reads_word_iff.1 (h.of_map fun _ => rfl)
      exact ⟨a, _, ha, .true, rfl⟩
    · rename_i hnext
      obtain ⟨a, ha, rfl⟩ := exists_space (next_eq_char.1 hnext)
      obtain rfl := reads_word_iff.1 (h.of_map fun _ => rfl)
      exact ⟨a, _, ha, .false, rfl⟩
    · rename_i hnext
      obtain ⟨a, ha, rfl⟩ := exists_space (next_eq_char.1 hnext)
      obtain ⟨body, rfl, hbody⟩ := reads_skipString.1 (h.of_map fun _ => rfl)
      exact ⟨a, _, ha, .string hbody, by simp [quote]⟩
    · rename_i hnext
      obtain ⟨a, ha, rfl⟩ := exists_space (next_eq_char.1 hnext)
      obtain ⟨digits, rfl, hdigits⟩ := exists_of_skipNumber (h.of_map fun _ => rfl)
      exact ⟨a, _, ha, .negative hdigits, rfl⟩
    · rename_i r lt hnext
      obtain ⟨a, ha, rfl⟩ := exists_space (next_eq_char.1 hnext)
      rcases reads_skipItems.1 (h.of_map fun _ => rfl) with hclose | hmore
      · obtain ⟨b, hb, rfl⟩ := exists_space hclose
        exact ⟨a, _, ha, @IsValue.list [] b (by simp) (.nil hb), by simp⟩
      · obtain ⟨ps, body, rfl, hps, hvalues⟩ := exists_of_skipMoreItems
          (fun t more ht hread => ih _ (Nat.lt_of_le_of_lt ht lt) hread rfl) hmore
        exact ⟨a, _, ha, .list hvalues (.parts hps), by simp⟩
    · rename_i r lt hnext
      obtain ⟨a, ha, rfl⟩ := exists_space (next_eq_char.1 hnext)
      rcases reads_skipMembers.1 (h.of_map fun _ => rfl) with hclose | hmore
      · obtain ⟨b, hb, rfl⟩ := exists_space hclose
        exact ⟨a, _, ha, @IsValue.object [] b (by simp) (by simp) (.nil hb), by simp⟩
      · obtain ⟨ms, body, rfl, hms, hnames, hvalues⟩ := exists_of_skipMoreMembers
          (fun t more ht hread => ih _ (Nat.lt_of_le_of_lt ht lt) hread rfl) hmore
        exact ⟨a, _, ha, .object hnames hvalues (.parts hms), by simp⟩
    · rename_i c r lt _ _ _ _ _ _ _ hnext
      obtain ⟨a, ha, rfl⟩ := exists_space (next_eq_char.1 hnext)
      split at h
      · obtain ⟨digits, hr, hdigits⟩ := exists_of_skipNumber (h.of_map fun _ => rfl)
        exact ⟨a, digits, ha, .number hdigits, by rw [hr]⟩
      · exact absurd h not_reads_error

/-! ### Every value -/

theorem skipValue_null (h : skipSpace s = ['n', 'u', 'l', 'l'] ++ rest) :
    Reads (skipValue s) () rest := by
  obtain ⟨lt, hnext⟩ := exists_next h
  rw [skipValue, hnext]
  exact (reads_word ['u', 'l', 'l'] rest).map fun _ => rfl

theorem skipValue_true (h : skipSpace s = ['t', 'r', 'u', 'e'] ++ rest) :
    Reads (skipValue s) () rest := by
  obtain ⟨lt, hnext⟩ := exists_next h
  rw [skipValue, hnext]
  exact (reads_word ['r', 'u', 'e'] rest).map fun _ => rfl

theorem skipValue_false (h : skipSpace s = ['f', 'a', 'l', 's', 'e'] ++ rest) :
    Reads (skipValue s) () rest := by
  obtain ⟨lt, hnext⟩ := exists_next h
  rw [skipValue, hnext]
  exact (reads_word ['a', 'l', 's', 'e'] rest).map fun _ => rfl

theorem skipValue_string {r : List Char} (h : skipSpace s = '"' :: r)
    (hread : Reads (skipString r) () rest) : Reads (skipValue s) () rest := by
  obtain ⟨lt, hnext⟩ := exists_next h
  rw [skipValue, hnext]
  exact hread.map fun _ => rfl

theorem skipValue_negative {r : List Char} (h : skipSpace s = '-' :: r)
    (hread : Reads (skipNumber r) () rest) : Reads (skipValue s) () rest := by
  obtain ⟨lt, hnext⟩ := exists_next h
  rw [skipValue, hnext]
  exact hread.map fun _ => rfl

theorem skipValue_number {c : Char} {r : List Char} (h : skipSpace s = c :: r)
    (hc : c.isDigit = true) (hread : Reads (skipNumber (c :: r)) () rest) :
    Reads (skipValue s) () rest := by
  obtain ⟨lt, hnext⟩ := exists_next h
  have hne : ∀ d, d.isDigit = false → c ≠ d := fun _ => Text.ne_of_isDigit hc
  rw [skipValue, hnext]
  split
  · rename_i heq; cases heq
  · rename_i heq; cases heq; exact absurd rfl (hne 'n' (by decide))
  · rename_i heq; cases heq; exact absurd rfl (hne 't' (by decide))
  · rename_i heq; cases heq; exact absurd rfl (hne 'f' (by decide))
  · rename_i heq; cases heq; exact absurd rfl (hne '"' (by decide))
  · rename_i heq; cases heq; exact absurd rfl (hne '-' (by decide))
  · rename_i heq; cases heq; exact absurd rfl (hne '[' (by decide))
  · rename_i heq; cases heq; exact absurd rfl (hne '{' (by decide))
  · rename_i heq
    cases heq
    rw [if_pos hc]
    exact hread.map fun _ => rfl

theorem skipValue_list {r : List Char} (h : skipSpace s = '[' :: r)
    (hread : Reads (skipItems r) () rest) : Reads (skipValue s) () rest := by
  obtain ⟨lt, hnext⟩ := exists_next h
  rw [skipValue, hnext]
  exact hread.map fun _ => rfl

theorem skipValue_object {r : List Char} (h : skipSpace s = '{' :: r)
    (hread : Reads (skipMembers r) () rest) : Reads (skipValue s) () rest := by
  obtain ⟨lt, hnext⟩ := exists_next h
  rw [skipValue, hnext]
  exact hread.map fun _ => rfl

/-- The text is passed over behind any space, whatever ends it. -/
def IsSkipped (v : List Char) : Prop :=
  ∀ a rest, IsSpace a → EndsNumber rest → Reads (skipValue (a ++ (v ++ rest))) () rest

theorem skipMoreItems_of_separated {ps : List (List Char)} {body : List Char}
    (h : Separated ps body) (hps : ∀ p ∈ ps, IsSkipped p) (rest : List Char) :
    Reads (skipMoreItems (body ++ ']' :: rest)) () rest := by
  induction h with
  | @last a p b ha hb =>
    have hends : EndsNumber (b ++ ']' :: rest) :=
      hb.endsNumber_append (endsNumber_cons (by decide) rest)
    rw [List.append_assoc, List.append_assoc]
    exact reads_skipMoreItems.2 ⟨_, hps p (List.mem_singleton_self p) a _ ha hends,
      .inl (skipSpace_append_cons hb (by decide) rest)⟩
  | @cons a p b s ps ha hb _ ih =>
    have hends : EndsNumber (b ++ ',' :: (s ++ ']' :: rest)) :=
      hb.endsNumber_append (endsNumber_cons (by decide) _)
    obtain ⟨hp, hps⟩ := List.forall_mem_cons.1 hps
    rw [List.append_assoc, List.append_assoc, List.append_assoc, List.cons_append]
    exact reads_skipMoreItems.2 ⟨_, hp a _ ha hends,
      .inr ⟨_, skipSpace_append_cons hb (by decide) _, ih hps⟩⟩

/-- A member is passed over, and the loop goes on as what stands behind the member says. -/
theorem skipMoreMembers_member {m : Member} {a more : List Char} (ha : IsSpace a)
    (hname : IsBody m.name) (hvalue : IsSkipped m.value) (hmore : EndsNumber more)
    (hnext : skipSpace more = '}' :: rest ∨
      ∃ r, skipSpace more = ',' :: r ∧ Reads (skipMoreMembers r) () rest) :
    Reads (skipMoreMembers (a ++ (m.text ++ more))) () rest := by
  rw [m.text_append]
  exact reads_skipMoreMembers.2 ⟨_, _, _, more, skipSpace_append_cons ha (by decide) _,
    reads_skipString.2 ⟨m.name, rfl, hname⟩, skipSpace_append_cons m.spaceBefore (by decide) _,
    hvalue m.behind more m.spaceBehind hmore, hnext⟩

theorem skipMoreMembers_of_separated {ms : List Member} {body : List Char}
    (h : Separated (ms.map Member.text) body) (hnames : ∀ m ∈ ms, IsBody m.name)
    (hvalues : ∀ m ∈ ms, IsSkipped m.value) (rest : List Char) :
    Reads (skipMoreMembers (body ++ '}' :: rest)) () rest := by
  generalize hps : ms.map Member.text = ps at h
  induction h generalizing ms with
  | @last a p b ha hb =>
    obtain ⟨m, rfl, rfl⟩ := List.map_eq_singleton_iff.1 hps
    rw [List.append_assoc, List.append_assoc]
    exact skipMoreMembers_member ha (hnames m (List.mem_singleton_self m))
      (hvalues m (List.mem_singleton_self m))
      (hb.endsNumber_append (endsNumber_cons (by decide) rest))
      (.inl (skipSpace_append_cons hb (by decide) rest))
  | @cons a p b s ps ha hb _ ih =>
    obtain ⟨m, ms, rfl, rfl, rfl⟩ := List.map_eq_cons_iff.1 hps
    obtain ⟨hname, hnames⟩ := List.forall_mem_cons.1 hnames
    obtain ⟨hvalue, hvalues⟩ := List.forall_mem_cons.1 hvalues
    rw [List.append_assoc, List.append_assoc, List.append_assoc, List.cons_append]
    exact skipMoreMembers_member ha hname hvalue
      (hb.endsNumber_append (endsNumber_cons (by decide) _))
      (.inr ⟨_, skipSpace_append_cons hb (by decide) _, ih hnames hvalues rfl⟩)

/-- Every value is passed over. -/
theorem isSkipped_of_isValue {v : List Char} (h : IsValue v) : IsSkipped v := by
  intro a rest ha hrest
  induction h generalizing a rest with
  | null => exact skipValue_null (skipSpace_append_cons ha (by decide) _)
  | true => exact skipValue_true (skipSpace_append_cons ha (by decide) _)
  | false => exact skipValue_false (skipSpace_append_cons ha (by decide) _)
  | @string s hs =>
    rw [quote_append]
    exact skipValue_string (skipSpace_append_cons ha (by decide) _)
      (reads_skipString.2 ⟨s, rfl, hs⟩)
  | number hn =>
    obtain ⟨c, cs, rfl, hc⟩ := hn.exists_digit
    exact skipValue_number (skipSpace_append_cons ha (isSpace_of_isDigit hc) _) hc
      (skipNumber_append hn hrest)
  | negative hn =>
    exact skipValue_negative (skipSpace_append_cons ha (by decide) _) (skipNumber_append hn hrest)
  | @list ps s _ hs ih =>
    rw [List.cons_append, List.append_assoc, List.singleton_append]
    refine skipValue_list (skipSpace_append_cons ha (by decide) _) ?_
    cases hs with
    | nil hs => exact reads_skipItems.2 (.inl (skipSpace_append_cons hs (by decide) rest))
    | parts hs => exact reads_skipItems.2 (.inr (skipMoreItems_of_separated hs ih rest))
  | @object ms s names _ hs ih =>
    rw [List.cons_append, List.append_assoc, List.singleton_append]
    refine skipValue_object (skipSpace_append_cons ha (by decide) _) ?_
    generalize hps : ms.map Member.text = ps at hs
    cases hs with
    | nil hs => exact reads_skipMembers.2 (.inl (skipSpace_append_cons hs (by decide) rest))
    | parts hs =>
      subst hps
      exact reads_skipMembers.2 (.inr (skipMoreMembers_of_separated hs names ih rest))

end Compliance.Json
