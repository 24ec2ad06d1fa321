import Compliance.Proofs.Json.Literal
import Compliance.Proofs.Json.Skipping

/-!
What a text of JSON says. The grammar is that of values, with the value that each of its forms
stands for and with the limits of the reader: how deep lists and objects may nest, how large a number
may be, and that a string spells characters. A text is read exactly if it says something, and then
as what it says, so that no text says two things.
-/

namespace Compliance.Json

/-- A text says a value, with lists and objects nested up to a number of levels. -/
inductive Says : Nat → List Char → Value → Prop
  | null {levels : Nat} : Says levels ['n', 'u', 'l', 'l'] .null
  | true {levels : Nat} : Says levels ['t', 'r', 'u', 'e'] (.bool true)
  | false {levels : Nat} : Says levels ['f', 'a', 'l', 's', 'e'] (.bool false)
  | string {levels : Nat} {s : List Char} {text : String} (h : Quoted s text) :
      Says levels s (.string text)
  | number {levels : Nat} {s : List Char} {n : Number} (h : NumberSays false s n) :
      Says levels s (.number n)
  | negative {levels : Nat} {s : List Char} {n : Number} (h : NumberSays true s n) :
      Says levels ('-' :: s) (.number n)
  | list {levels : Nat} {ps : List (List Char × Value)} {s : List Char}
      (values : ∀ p ∈ ps, Says levels p.1 p.2) (h : Listed (ps.map Prod.fst) s) :
      Says (levels + 1) ('[' :: (s ++ [']'])) (.array (ps.map Prod.snd))
  | object {levels : Nat} {es : List (Member × (String × Value))} {s : List Char}
      (names : ∀ e ∈ es, Quoted (quote e.1.name) e.2.1)
      (values : ∀ e ∈ es, Says levels e.1.value e.2.2)
      (h : Listed (es.map fun e => e.1.text) s) :
      Says (levels + 1) ('{' :: (s ++ ['}'])) (.ofMembers (es.map Prod.snd))

/-- A text is JSON and has a value: it says the value within the limits, with space around it. -/
def IsText (s : List Char) (v : Value) : Prop :=
  ∃ a t b, IsSpace a ∧ IsSpace b ∧ Says (depthLimit - 1) t v ∧ s = a ++ (t ++ b)

theorem quoted_quote {s : List Char} {text : String} :
    Quoted (quote s) text ↔ ∃ cs, Spelled s cs ∧ text = String.ofList cs := by
  constructor
  · intro h
    generalize ht : quote s = t at h
    obtain ⟨hcs⟩ := h
    obtain rfl := quote_inj.1 ht
    exact ⟨_, hcs, rfl⟩
  · rintro ⟨cs, hcs, rfl⟩
    exact .mk hcs

/-- Every text can be spelled. -/
theorem exists_quoted (text : String) : ∃ s, Quoted (quote s) text := by
  have hreads := stringBody_written text.toList []
  obtain ⟨body, -, hspelled⟩ := reads_stringBody.1 hreads
  refine ⟨body, ?_⟩
  have hquoted := Quoted.mk hspelled
  rwa [String.ofList_toList] at hquoted

/-- What says a value is one. -/
theorem Says.isValue {levels : Nat} {s : List Char} {v : Value} (h : Says levels s v) :
    IsValue s := by
  induction h with
  | null => exact .null
  | true => exact .true
  | false => exact .false
  | string h => exact h.isValue
  | number h => exact .number h.isNumber
  | negative h => exact .negative h.isNumber
  | list values h ih =>
    refine .list (fun p hp => ?_) h
    obtain ⟨q, hq, rfl⟩ := List.mem_map.1 hp
    exact ih q hq
  | @object levels es s names values h ih =>
    have htexts : es.map (fun e => e.1.text) = (es.map Prod.fst).map Member.text := by
      rw [List.map_map]
      rfl
    refine .object (fun m hm => ?_) (fun m hm => ?_) (htexts ▸ h)
    · obtain ⟨e, he, rfl⟩ := List.mem_map.1 hm
      obtain ⟨cs, hcs, -⟩ := quoted_quote.1 (names e he)
      exact hcs.isBody
    · obtain ⟨e, he, rfl⟩ := List.mem_map.1 hm
      exact ih e he

/-! ### What the loops take -/

variable {s rest : List Char} {depth levels : Nat}

theorem exists_of_moreItems {vs : List Value} (h : Reads (moreItems depth s) vs rest) :
    ∃ v more, Reads (value depth s) v more ∧ (skipSpace more = ']' :: rest ∧ vs = [v] ∨
      ∃ r ws, skipSpace more = ',' :: r ∧ Reads (moreItems depth r) ws rest ∧ vs = v :: ws) := by
  rw [moreItems] at h
  split at h
  · exact absurd h not_reads_error
  · rename_i v hv
    refine ⟨v.value, v.rest, ⟨v, hv, rfl, rfl⟩, ?_⟩
    split at h
    · exact absurd h not_reads_error
    · rename_i hnext
      obtain ⟨rfl, rfl⟩ := reads_ok.1 h
      exact .inl ⟨Taken.next_eq_char hnext, rfl⟩
    · rename_i r lt hnext
      split at h
      · exact absurd h not_reads_error
      · exact absurd h not_reads_error
      · split at h
        · exact absurd h not_reads_error
        · rename_i t ht
          obtain ⟨rfl, rfl⟩ := reads_ok.1 h
          exact .inr ⟨r, t.value, Taken.next_eq_char hnext, ⟨t, ht, rfl, rfl⟩, rfl⟩
    · exact absurd h not_reads_error

theorem exists_of_items {vs : List Value} (h : Reads (items depth s) vs rest) :
    skipSpace s = ']' :: rest ∧ vs = [] ∨ Reads (moreItems depth s) vs rest := by
  rw [items] at h
  split at h
  · exact absurd h not_reads_error
  · rename_i hnext
    obtain ⟨rfl, rfl⟩ := reads_ok.1 h
    exact .inl ⟨next_eq_char.1 hnext, rfl⟩
  · exact .inr h

theorem exists_of_moreMembers {ms : List (String × Value)}
    (h : Reads (moreMembers depth s) ms rest) :
    ∃ name colon q v more, Reads (stringBody s) name colon ∧ skipSpace colon = ':' :: q ∧
      Reads (value depth q) v more ∧
        (skipSpace more = '}' :: rest ∧ ms = [(String.ofList name, v)] ∨
          ∃ r p ns, skipSpace more = ',' :: r ∧ skipSpace r = '"' :: p ∧
            Reads (moreMembers depth p) ns rest ∧ ms = (String.ofList name, v) :: ns) := by
  rw [moreMembers] at h
  split at h
  · exact absurd h not_reads_error
  · rename_i k hk
    split at h
    · exact absurd h not_reads_error
    · rename_i hcolon
      split at h
      · exact absurd h not_reads_error
      · rename_i v hv
        refine ⟨k.value, k.rest, _, v.value, v.rest, ⟨k, hk, rfl, rfl⟩, Taken.next_eq_char hcolon,
          ⟨v, hv, rfl, rfl⟩, ?_⟩
        split at h
        · exact absurd h not_reads_error
        · rename_i hnext
          obtain ⟨rfl, rfl⟩ := reads_ok.1 h
          exact .inl ⟨Taken.next_eq_char hnext, rfl⟩
        · rename_i r hr hnext
          split at h
          · exact absurd h not_reads_error
          · rename_i p hp hquote
            split at h
            · exact absurd h not_reads_error
            · rename_i t ht
              obtain ⟨rfl, rfl⟩ := reads_ok.1 h
              exact .inr ⟨r, p, t.value, Taken.next_eq_char hnext, next_eq_char.1 hquote,
                ⟨t, ht, rfl, rfl⟩, rfl⟩
          · exact absurd h not_reads_error
          · exact absurd h not_reads_error
        · exact absurd h not_reads_error
    · exact absurd h not_reads_error

theorem exists_of_members {ms : List (String × Value)} (h : Reads (members depth s) ms rest) :
    skipSpace s = '}' :: rest ∧ ms = [] ∨
      ∃ r, skipSpace s = '"' :: r ∧ Reads (moreMembers depth r) ms rest := by
  rw [members] at h
  split at h
  · exact absurd h not_reads_error
  · rename_i hnext
    obtain ⟨rfl, rfl⟩ := reads_ok.1 h
    exact .inl ⟨next_eq_char.1 hnext, rfl⟩
  · rename_i r lt hnext
    split at h
    · exact absurd h not_reads_error
    · rename_i t ht
      obtain ⟨rfl, rfl⟩ := reads_ok.1 h
      exact .inr ⟨r, next_eq_char.1 hnext, t, ht, rfl, rfl⟩
  · exact absurd h not_reads_error

/-! ### What a value begins with -/

theorem reads_map_of {α β : Type} {r : List Char} {x : Except Fault (Taken α r)} {g : α → β}
    {f : Taken α r → Taken β s} {b : β} (h : Reads (x.map f) b rest)
    (hf : ∀ t, (f t).value = g t.value ∧ (f t).rest = t.rest) :
    ∃ a, Reads x a rest ∧ b = g a := by
  obtain ⟨u, hu, rfl, rfl⟩ := h
  obtain ⟨t, rfl, rfl⟩ := map_eq_ok.1 hu
  exact ⟨t.value, ⟨t, rfl, rfl, (hf t).2.symm⟩, (hf t).1⟩

/-- What is read of a value, once it is known what stands next. -/
inductive Begins : Nat → Char → List Char → Value → List Char → Prop
  | null {depth : Nat} {r rest : List Char} (h : Reads (word ['u', 'l', 'l'] r) () rest) :
      Begins depth 'n' r .null rest
  | true {depth : Nat} {r rest : List Char} (h : Reads (word ['r', 'u', 'e'] r) () rest) :
      Begins depth 't' r (.bool true) rest
  | false {depth : Nat} {r rest : List Char} (h : Reads (word ['a', 'l', 's', 'e'] r) () rest) :
      Begins depth 'f' r (.bool false) rest
  | string {depth : Nat} {r rest cs : List Char} (h : Reads (stringBody r) cs rest) :
      Begins depth '"' r (.string (String.ofList cs)) rest
  | negative {depth : Nat} {r rest : List Char} {n : Number} (h : Reads (number true r) n rest) :
      Begins depth '-' r (.number n) rest
  | number {depth : Nat} {c : Char} {r rest : List Char} {n : Number} (hc : c.isDigit = true)
      (h : Reads (number false (c :: r)) n rest) : Begins depth c r (.number n) rest
  | list {inner : Nat} {r rest : List Char} {vs : List Value}
      (h : Reads (items (inner + 1) r) vs rest) : Begins (inner + 2) '[' r (.array vs) rest
  | object {inner : Nat} {r rest : List Char} {ms : List (String × Value)}
      (h : Reads (members (inner + 1) r) ms rest) :
      Begins (inner + 2) '{' r (.ofMembers ms) rest

theorem begins_of_value {v : Value} (h : Reads (value depth s) v rest) :
    ∃ c r, skipSpace s = c :: r ∧ Begins depth c r v rest := by
  rw [value] at h
  split at h
  · exact absurd h not_reads_error
  · rename_i hnext
    obtain ⟨_, hword, rfl⟩ := reads_map_of (g := fun _ => .null) h fun _ => ⟨rfl, rfl⟩
    exact ⟨_, _, next_eq_char.1 hnext, .null hword⟩
  · rename_i hnext
    obtain ⟨_, hword, rfl⟩ := reads_map_of (g := fun _ => .bool true) h fun _ => ⟨rfl, rfl⟩
    exact ⟨_, _, next_eq_char.1 hnext, .true hword⟩
  · rename_i hnext
    obtain ⟨_, hword, rfl⟩ := reads_map_of (g := fun _ => .bool false) h fun _ => ⟨rfl, rfl⟩
    exact ⟨_, _, next_eq_char.1 hnext, .false hword⟩
  · rename_i hnext
    obtain ⟨cs, hbody, rfl⟩ :=
      reads_map_of (g := fun cs => .string (String.ofList cs)) h fun _ => ⟨rfl, rfl⟩
    exact ⟨_, _, next_eq_char.1 hnext, .string hbody⟩
  · rename_i hnext
    obtain ⟨n, hnumber, rfl⟩ := reads_map_of (g := .number) h fun _ => ⟨rfl, rfl⟩
    exact ⟨_, _, next_eq_char.1 hnext, .negative hnumber⟩
  · rename_i hnext
    split at h
    · exact absurd h not_reads_error
    · obtain ⟨inner, rfl⟩ : ∃ inner, depth = inner + 2 := ⟨depth - 2, by omega⟩
      split at h
      · exact absurd h not_reads_error
      · rename_i t ht
        obtain ⟨rfl, rfl⟩ := reads_ok.1 h
        exact ⟨_, _, next_eq_char.1 hnext, .list ⟨t, ht, rfl, rfl⟩⟩
  · rename_i hnext
    split at h
    · exact absurd h not_reads_error
    · obtain ⟨inner, rfl⟩ : ∃ inner, depth = inner + 2 := ⟨depth - 2, by omega⟩
      split at h
      · exact absurd h not_reads_error
      · rename_i t ht
        obtain ⟨rfl, rfl⟩ := reads_ok.1 h
        exact ⟨_, _, next_eq_char.1 hnext, .object ⟨t, ht, rfl, rfl⟩⟩
  · rename_i hnext
    split at h
    · rename_i hc
      obtain ⟨n, hnumber, rfl⟩ := reads_map_of (g := .number) h fun _ => ⟨rfl, rfl⟩
      exact ⟨_, _, next_eq_char.1 hnext, .number hc hnumber⟩
    · exact absurd h not_reads_error

/-! ### Nothing but what is said -/

def IsSaid (levels : Nat) (s : List Char) (v : Value) (rest : List Char) : Prop :=
  ∃ a t, IsSpace a ∧ Says levels t v ∧ s = a ++ (t ++ rest)

theorem exists_said_items {vs : List Value}
    (hvalue : ∀ t v more, t.length ≤ s.length → Reads (value depth t) v more →
      IsSaid levels t v more)
    (h : Reads (moreItems depth s) vs rest) :
    ∃ (ps : List (List Char × Value)) (body : List Char), s = body ++ ']' :: rest ∧
      Separated (ps.map Prod.fst) body ∧ (∀ p ∈ ps, Says levels p.1 p.2) ∧
      vs = ps.map Prod.snd := by
  -- The loop goes on behind a comma, where the text is shorter.
  induction hn : s.length using Nat.strongRecOn generalizing s vs with
  | ind n ih =>
    subst hn
    obtain ⟨v, more, hv, hmore⟩ := exists_of_moreItems h
    obtain ⟨a, t, ha, hsaid, rfl⟩ := hvalue s v more (Nat.le_refl _) hv
    rcases hmore with ⟨hclose, rfl⟩ | ⟨r, ws, hcomma, hr, rfl⟩
    · obtain ⟨b, hb, rfl⟩ := exists_space hclose
      refine ⟨[(t, v)], a ++ (t ++ b), by simp, .last ha hb, ?_, rfl⟩
      rintro p hp
      rwa [List.mem_singleton.1 hp]
    · obtain ⟨b, hb, rfl⟩ := exists_space hcomma
      have hlt : r.length < (a ++ (t ++ (b ++ ',' :: r))).length := by
        simp only [List.length_append, List.length_cons]
        omega
      obtain ⟨ps, body, rfl, hps, hvalues, rfl⟩ :=
        ih _ hlt (fun u w q hu => hvalue u w q (Nat.le_trans hu (Nat.le_of_lt hlt))) hr rfl
      exact ⟨(t, v) :: ps, a ++ (t ++ (b ++ ',' :: body)), by simp, .cons ha hb hps,
        List.forall_mem_cons.2 ⟨hsaid, hvalues⟩, rfl⟩

theorem exists_said_members {ms : List (String × Value)} {p a : List Char} (ha : IsSpace a)
    (hvalue : ∀ t v more, t.length ≤ p.length → Reads (value depth t) v more →
      IsSaid levels t v more)
    (h : Reads (moreMembers depth p) ms rest) :
    ∃ (es : List (Member × (String × Value))) (body : List Char),
      a ++ '"' :: p = body ++ '}' :: rest ∧ Separated (es.map fun e => e.1.text) body ∧
      (∀ e ∈ es, Quoted (quote e.1.name) e.2.1) ∧ (∀ e ∈ es, Says levels e.1.value e.2.2) ∧
      ms = es.map Prod.snd := by
  induction hn : p.length using Nat.strongRecOn generalizing p a ms with
  | ind n ih =>
    subst hn
    obtain ⟨name, colon, q, v, more, hname, hcolon, hv, hmore⟩ := exists_of_moreMembers h
    obtain ⟨raw, rfl, hspelled⟩ := reads_stringBody.1 hname
    obtain ⟨before, hbefore, rfl⟩ := exists_space hcolon
    obtain ⟨behind, t, hbehind, hsaid, rfl⟩ := hvalue q v more (by simp; omega) hv
    let m : Member := ⟨raw, before, behind, t, hbefore, hbehind⟩
    have hquoted : Quoted (quote m.name) (String.ofList name) := .mk hspelled
    rcases hmore with ⟨hclose, rfl⟩ | ⟨r, p', ns, hcomma, hquote, hr, rfl⟩
    · obtain ⟨b, hb, rfl⟩ := exists_space hclose
      refine ⟨[(m, String.ofList name, v)], a ++ (m.text ++ b),
        by simp [m, Member.text, quote], .last ha hb, ?_, ?_, rfl⟩
      · rintro e he
        rwa [List.mem_singleton.1 he]
      · rintro e he
        rwa [List.mem_singleton.1 he]
    · obtain ⟨b, hb, rfl⟩ := exists_space hcomma
      obtain ⟨a', ha', rfl⟩ := exists_space hquote
      have hlt : p'.length < (raw ++ '"' :: (before ++ ':' ::
          (behind ++ (t ++ (b ++ ',' :: (a' ++ '"' :: p')))))).length := by
        simp only [List.length_append, List.length_cons]
        omega
      obtain ⟨es, body, hbody, hes, hnames, hvalues, rfl⟩ :=
        ih _ hlt ha' (fun u w q hu => hvalue u w q (Nat.le_trans hu (Nat.le_of_lt hlt))) hr rfl
      refine ⟨(m, String.ofList name, v) :: es, a ++ (m.text ++ (b ++ ',' :: body)), ?_,
        .cons ha hb hes, List.forall_mem_cons.2 ⟨hquoted, hnames⟩,
        List.forall_mem_cons.2 ⟨hsaid, hvalues⟩, rfl⟩
      rw [hbody]
      simp [m, Member.text, quote]

/-- What is read is said. -/
theorem isSaid_of_value {v : Value} (h : Reads (value (levels + 1) s) v rest) :
    IsSaid levels s v rest := by
  induction hn : s.length using Nat.strongRecOn generalizing s v rest levels with
  | ind n ih =>
    subst hn
    obtain ⟨c, r, hnext, hbegins⟩ := begins_of_value h
    have hlt : r.length < s.length := length_lt_of_skipSpace hnext
    obtain ⟨a, ha, rfl⟩ := exists_space hnext
    generalize hdepth : levels + 1 = depth at hbegins
    cases hbegins with
    | null hword =>
      obtain rfl := reads_word_iff.1 hword
      exact ⟨a, _, ha, .null, rfl⟩
    | true hword =>
      obtain rfl := reads_word_iff.1 hword
      exact ⟨a, _, ha, .true, rfl⟩
    | false hword =>
      obtain rfl := reads_word_iff.1 hword
      exact ⟨a, _, ha, .false, rfl⟩
    | string hbody =>
      obtain ⟨body, rfl, hspelled⟩ := reads_stringBody.1 hbody
      exact ⟨a, _, ha, .string (.mk hspelled), by simp [quote]⟩
    | negative hnumber =>
      obtain ⟨t, rfl, hsaid⟩ := exists_of_number hnumber
      exact ⟨a, _, ha, .negative hsaid, rfl⟩
    | number hc hnumber =>
      obtain ⟨t, ht, hsaid⟩ := exists_of_number hnumber
      exact ⟨a, t, ha, .number hsaid, by rw [ht]⟩
    | @list inner _ vs _ hitems =>
      obtain rfl : levels = inner + 1 := Nat.succ.inj hdepth
      rcases exists_of_items hitems with ⟨hclose, rfl⟩ | hmore
      · obtain ⟨b, hb, rfl⟩ := exists_space hclose
        exact ⟨a, _, ha, @Says.list inner [] b (by simp) (.nil hb), by simp⟩
      · obtain ⟨ps, body, rfl, hps, hvalues, rfl⟩ := exists_said_items
          (fun u w q hu hread => ih _ (Nat.lt_of_le_of_lt hu hlt) hread rfl) hmore
        exact ⟨a, _, ha, .list hvalues (.parts hps), by simp⟩
    | @object inner _ ms _ hmembers =>
      obtain rfl : levels = inner + 1 := Nat.succ.inj hdepth
      rcases exists_of_members hmembers with ⟨hclose, rfl⟩ | ⟨q, hquote, hmore⟩
      · obtain ⟨b, hb, rfl⟩ := exists_space hclose
        exact ⟨a, _, ha, @Says.object inner [] b (by simp) (by simp) (.nil hb), by simp⟩
      · have hlt' : q.length < r.length := length_lt_of_skipSpace hquote
        obtain ⟨a', ha', rfl⟩ := exists_space hquote
        obtain ⟨es, body, hbody, hes, hnames, hvalues, rfl⟩ := exists_said_members ha'
          (fun u w p hu hread =>
            ih _ (Nat.lt_of_le_of_lt hu (Nat.lt_trans hlt' hlt)) hread rfl) hmore
        refine ⟨a, _, ha, .object hnames hvalues (.parts hes), ?_⟩
        rw [hbody]
        simp

/-! ### All that is said -/

def IsRead (levels : Nat) (t : List Char) (v : Value) : Prop :=
  ∀ a rest, IsSpace a → EndsNumber rest → Reads (value (levels + 1) (a ++ (t ++ rest))) v rest

theorem moreItems_of_separated {ps : List (List Char × Value)} {body : List Char}
    (h : Separated (ps.map Prod.fst) body) (hps : ∀ p ∈ ps, IsRead levels p.1 p.2)
    (rest : List Char) :
    Reads (moreItems (levels + 1) (body ++ ']' :: rest)) (ps.map Prod.snd) rest := by
  generalize hts : ps.map Prod.fst = ts at h
  induction h generalizing ps with
  | @last a t b ha hb =>
    obtain ⟨p, rfl, rfl⟩ := List.map_eq_singleton_iff.1 hts
    have hends : EndsNumber (b ++ ']' :: rest) :=
      hb.endsNumber_append (endsNumber_cons (by decide) rest)
    rw [List.append_assoc, List.append_assoc]
    exact moreItems_last (hps p (List.mem_singleton_self p) a _ ha hends)
      (skipSpace_append_cons hb (by decide) rest)
  | @cons a t b s ts ha hb _ ih =>
    obtain ⟨p, ps, rfl, rfl, rfl⟩ := List.map_eq_cons_iff.1 hts
    have hends : EndsNumber (b ++ ',' :: (s ++ ']' :: rest)) :=
      hb.endsNumber_append (endsNumber_cons (by decide) _)
    obtain ⟨hp, hps⟩ := List.forall_mem_cons.1 hps
    rw [List.append_assoc, List.append_assoc, List.append_assoc, List.cons_append]
    exact moreItems_cons (hp a _ ha hends) (skipSpace_append_cons hb (by decide) _) (ih hps rfl)

/-- Behind space, the members of an object begin with the quote of a name. -/
theorem moreMembers_of_separated {es : List (Member × (String × Value))} {body : List Char}
    (h : Separated (es.map fun e => e.1.text) body)
    (hnames : ∀ e ∈ es, Quoted (quote e.1.name) e.2.1)
    (hvalues : ∀ e ∈ es, IsRead levels e.1.value e.2.2) (rest : List Char) :
    ∃ p, skipSpace (body ++ '}' :: rest) = '"' :: p ∧
      Reads (moreMembers (levels + 1) p) (es.map Prod.snd) rest := by
  generalize hts : (es.map fun e => e.1.text) = ts at h
  induction h generalizing es with
  | @last a t b ha hb =>
    obtain ⟨⟨m, name, v⟩, rfl, rfl⟩ := List.map_eq_singleton_iff.1 hts
    have hends : EndsNumber (b ++ '}' :: rest) :=
      hb.endsNumber_append (endsNumber_cons (by decide) rest)
    obtain ⟨cs, hspelled, rfl⟩ := quoted_quote.1 (hnames _ (List.mem_singleton_self _))
    rw [List.append_assoc, List.append_assoc, m.text_append]
    exact ⟨_, skipSpace_append_cons ha (by decide) _,
      moreMembers_last (reads_stringBody.2 ⟨m.name, rfl, hspelled⟩)
        (skipSpace_append_cons m.spaceBefore (by decide) _)
        (hvalues _ (List.mem_singleton_self _) m.behind _ m.spaceBehind hends)
        (skipSpace_append_cons hb (by decide) rest)⟩
  | @cons a t b s ts ha hb _ ih =>
    obtain ⟨⟨m, name, v⟩, es, rfl, rfl, rfl⟩ := List.map_eq_cons_iff.1 hts
    have hends : EndsNumber (b ++ ',' :: (s ++ '}' :: rest)) :=
      hb.endsNumber_append (endsNumber_cons (by decide) _)
    obtain ⟨hname, hothers⟩ := List.forall_mem_cons.1 hnames
    obtain ⟨hvalue, hrests⟩ := List.forall_mem_cons.1 hvalues
    obtain ⟨p, hquote, hmore⟩ := ih hothers hrests rfl
    obtain ⟨cs, hspelled, rfl⟩ := quoted_quote.1 hname
    rw [List.append_assoc, List.append_assoc, List.append_assoc, List.cons_append, m.text_append]
    exact ⟨_, skipSpace_append_cons ha (by decide) _,
      moreMembers_cons (reads_stringBody.2 ⟨m.name, rfl, hspelled⟩)
        (skipSpace_append_cons m.spaceBefore (by decide) _)
        (hvalue m.behind _ m.spaceBehind hends) (skipSpace_append_cons hb (by decide) _) hquote
        hmore⟩

theorem isRead_of_says {t : List Char} {v : Value} (h : Says levels t v) : IsRead levels t v := by
  intro a rest ha hrest
  induction h generalizing a rest with
  | null => exact value_null (skipSpace_append_cons ha (by decide) _)
  | true => exact value_bool true (skipSpace_append_cons ha (by decide) _)
  | false => exact value_bool false (skipSpace_append_cons ha (by decide) _)
  | string h =>
    obtain ⟨hspelled⟩ := h
    rw [quote_append]
    exact value_string (skipSpace_append_cons ha (by decide) _)
      (reads_stringBody.2 ⟨_, rfl, hspelled⟩)
  | number h =>
    obtain ⟨c, cs, rfl, hc⟩ := h.isNumber.exists_digit
    exact value_number (skipSpace_append_cons ha (isSpace_of_isDigit hc) _) hc
      (number_said h hrest)
  | negative h =>
    exact value_negative (skipSpace_append_cons ha (by decide) _) (number_said h hrest)
  | @list inner ps s _ hs ih =>
    rw [List.cons_append, List.append_assoc, List.singleton_append]
    refine value_array (Nat.succ_pos inner) (skipSpace_append_cons ha (by decide) _) ?_
    generalize hts : ps.map Prod.fst = ts at hs
    cases hs with
    | nil hs =>
      obtain rfl := List.map_eq_nil_iff.1 hts
      exact items_nil (skipSpace_append_cons hs (by decide) rest)
    | parts hs =>
      subst hts
      exact items_more (moreItems_of_separated hs ih rest)
  | @object inner es s names _ hs ih =>
    rw [List.cons_append, List.append_assoc, List.singleton_append]
    refine value_object (Nat.succ_pos inner) (skipSpace_append_cons ha (by decide) _) ?_
    generalize hts : es.map (fun e => e.1.text) = ts at hs
    cases hs with
    | nil hs =>
      obtain rfl := List.map_eq_nil_iff.1 hts
      exact members_nil (skipSpace_append_cons hs (by decide) rest)
    | parts hs =>
      subst hts
      obtain ⟨p, hquote, hmore⟩ := moreMembers_of_separated hs names ih rest
      exact members_more hquote hmore

/-! ### Whole texts -/

/-- A text is read exactly if it is JSON, and then as its value. -/
theorem read_eq_ok {text : String} {v : Value} : read text = .ok v ↔ IsText text.toList v := by
  rw [read, readWith_eq_ok]
  constructor
  · rintro ⟨b, hread, hb⟩
    obtain ⟨a, t, ha, hsaid, htext⟩ := isSaid_of_value hread
    exact ⟨a, t, b, ha, hb, hsaid, htext⟩
  · rintro ⟨a, t, b, ha, hb, hsaid, htext⟩
    have hends : EndsNumber b := by
      have hend : EndsNumber (b ++ []) := hb.endsNumber_append trivial
      rwa [List.append_nil] at hend
    rw [htext]
    exact ⟨b, isRead_of_says hsaid a b ha hends, hb⟩

/-- A text has one value. -/
theorem IsText.unique {s : List Char} {v w : Value} (hv : IsText s v) (hw : IsText s w) :
    v = w := by
  rw [← String.toList_ofList (l := s)] at hv hw
  exact Except.ok.inj ((read_eq_ok.2 hv).symm.trans (read_eq_ok.2 hw))

end Compliance.Json
