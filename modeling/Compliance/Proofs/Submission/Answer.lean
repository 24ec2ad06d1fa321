import Compliance.Proofs.Json.Object
import Compliance.Proofs.Json.Saying
import Compliance.Proofs.Run.Submission

/-!
Reading the answer to a form. An answer that is no JSON is refused. Of any other the member `data`
is replaced by what it says if it is a text of JSON by itself, and nothing else is touched: what the
member says is taken as it is, with whatever texts of JSON there are in it.
-/

namespace Compliance.Submission

open Json

/-! ### One level deeper -/

/-- What becomes of a value: its member `data` is replaced by the value of its text if there is one,
or else all is left. -/
inductive Expands : Value → Value → Prop
  | data {before behind : List (String × Value)} {text : String} {v : Value}
      (alone : "data" ∉ (before ++ behind).map Prod.fst) (h : IsText text.toList v) :
      Expands (.object (before ++ ("data", .string text) :: behind))
        (.object (before ++ ("data", v) :: behind))
  | same {v : Value} (h : ∀ text w, v.member? "data" = some (.string text) →
      ¬ IsText text.toList w) : Expands v v

def IsOrdered : Value → Prop
  | .object ms => Value.IsSorted ms
  | _ => True

theorem isOrdered_of_isText {s : List Char} {v : Value} (h : IsText s v) : IsOrdered v := by
  obtain ⟨a, t, b, -, -, hsaid, -⟩ := h
  cases hsaid with
  | object => exact Value.IsSorted.putIn List.Pairwise.nil _
  | _ => trivial

theorem expandData_of_data {v w : Value} {text : String}
    (h : v.member? "data" = some (.string text)) (hw : IsText text.toList w) :
    expandData v = v.replaceMember "data" w := by
  have hbind : (v.member? "data").bind (·.string?) = some text := by
    rw [h]
    rfl
  unfold expandData
  rw [hbind]
  dsimp only
  rw [read_eq_ok.2 hw]

/-- A member that is no text, or a text that is no JSON, is left. -/
theorem expandData_of_not_text {v : Value}
    (h : ∀ text w, v.member? "data" = some (.string text) → ¬ IsText text.toList w) :
    expandData v = v := by
  unfold expandData
  split
  · rfl
  · rename_i text hbind
    obtain ⟨u, hmember, htext⟩ := Option.bind_eq_some_iff.1 hbind
    obtain rfl := Value.string?_eq_some.1 htext
    split
    · rename_i w hw
      exact absurd (read_eq_ok.1 hw) (h text w hmember)
    · rfl

theorem member?_alone {name : String} {before behind : List (String × Value)}
    (h : name ∉ (before ++ behind).map Prod.fst) (v : Value) :
    (Value.object (before ++ (name, v) :: behind)).member? name = some v := by
  rw [List.map_append, List.mem_append, not_or] at h
  refine List.lookup_eq_some_iff.2 ⟨before, behind, rfl, fun m hm => ?_⟩
  exact bne_iff_ne.2 fun hname => h.1 (List.mem_map.2 ⟨m, hm, hname.symm⟩)

theorem eq_expandData {v w : Value} (h : Expands v w) : w = expandData v := by
  cases h with
  | data alone htext =>
    rw [expandData_of_data (member?_alone alone _) htext, Value.replaceMember_alone alone]
  | same h => exact (expandData_of_not_text h).symm

/-- A value that was read is expanded in one way. -/
theorem expands_expandData {v : Value} (hv : IsOrdered v) : Expands v (expandData v) := by
  by_cases h : ∃ text w, v.member? "data" = some (.string text) ∧ IsText text.toList w
  · obtain ⟨text, w, hmember, htext⟩ := h
    rw [expandData_of_data hmember htext]
    cases v with
    | object ms =>
      obtain ⟨before, behind, rfl, halone⟩ := Value.IsSorted.exists_alone hv hmember
      rw [Value.replaceMember_alone halone]
      exact .data halone htext
    | _ => cases hmember
  · have hnone : ∀ text w, v.member? "data" = some (.string text) → ¬ IsText text.toList w :=
      fun text w hmember htext => h ⟨text, w, hmember, htext⟩
    rw [expandData_of_not_text hnone]
    exact .same hnone

theorem readAnswer_eq_ok {body : String} {w : Value} :
    readAnswer body = .ok w ↔ ∃ v, IsText body.toList v ∧ Expands v w := by
  rw [readAnswer, map_eq_ok]
  constructor
  · rintro ⟨v, hread, rfl⟩
    have htext := read_eq_ok.1 hread
    exact ⟨v, htext, expands_expandData (isOrdered_of_isText htext)⟩
  · rintro ⟨v, htext, hexpands⟩
    exact ⟨v, read_eq_ok.2 htext, (eq_expandData hexpands).symm⟩

theorem readAnswer_eq_error {body : String} :
    (∃ e, readAnswer body = .error e) ↔ ¬ ∃ v, IsText body.toList v := by
  constructor
  · rintro ⟨e, herror⟩ ⟨v, htext⟩
    rw [readAnswer, read_eq_ok.2 htext] at herror
    cases herror
  · intro hnone
    cases hread : Json.read body with
    | ok v => exact absurd ⟨v, read_eq_ok.1 hread⟩ hnone
    | error e => exact ⟨e, by rw [readAnswer, hread]; rfl⟩

/-! ### Objects with the member and without -/

def IsObject (s : List Char) (es : List (Member × (String × Value))) : Prop :=
  ∃ a body b, IsSpace a ∧ IsSpace b ∧ (∀ e ∈ es, Quoted (quote e.1.name) e.2.1) ∧
    (∀ e ∈ es, Says (depthLimit - 2) e.1.value e.2.2) ∧
    Listed (es.map fun e => e.1.text) body ∧ s = a ++ '{' :: (body ++ '}' :: b)

theorem IsObject.isText {s : List Char} {es : List (Member × (String × Value))}
    (h : IsObject s es) : IsText s (.ofMembers (es.map Prod.snd)) := by
  obtain ⟨a, body, b, ha, hb, hnames, hvalues, hlisted, rfl⟩ := h
  exact ⟨a, '{' :: (body ++ ['}']), b, ha, hb, .object hnames hvalues hlisted, by simp⟩

/-- Every text whose value is an object is one, and of several members of one name the value has
the last. -/
theorem exists_members {s : List Char} {ms : List (String × Value)} (h : IsText s (.object ms)) :
    ∃ es, IsObject s es ∧ ∀ name, ms.lookup name = (es.map Prod.snd).reverse.lookup name := by
  obtain ⟨a, t, b, ha, hb, hsaid, rfl⟩ := h
  generalize hv : Value.object ms = v at hsaid
  generalize hlevels : depthLimit - 1 = levels at hsaid
  cases hsaid with
  | @object inner es body hnames hvalues hlisted =>
    obtain rfl : inner = depthLimit - 2 := by
      simp only [depthLimit] at hlevels ⊢
      omega
    cases hv
    exact ⟨es, ⟨a, body, b, ha, hb, hnames, hvalues, hlisted, by simp⟩,
      fun name => Value.member?_ofMembers name _⟩
  | _ => cases hv

/-- A member that is a text can be added to every object, at every place. -/
theorem exists_isObject_add {s : List Char} {es fs : List (Member × (String × Value))}
    (h : IsObject s (es ++ fs)) (name text : String) :
    ∃ m s', IsObject s' (es ++ (m, (name, .string text)) :: fs) := by
  obtain ⟨a, body, b, ha, hb, hnames, hvalues, -, -⟩ := h
  rw [List.forall_mem_append] at hnames hvalues
  obtain ⟨n, hname⟩ := exists_quoted name
  obtain ⟨q, hvalue⟩ := exists_quoted text
  let m : Member := ⟨n, [], [], quote q, nofun, nofun⟩
  obtain ⟨body', hlisted⟩ :=
    exists_listed ((es ++ (m, (name, .string text)) :: fs).map fun e => e.1.text)
  refine ⟨m, _, a, body', b, ha, hb, ?_, ?_, hlisted, rfl⟩
  · exact List.forall_mem_append.2 ⟨hnames.1, List.forall_mem_cons.2 ⟨hname, hnames.2⟩⟩
  · exact List.forall_mem_append.2 ⟨hvalues.1, List.forall_mem_cons.2 ⟨.string hvalue, hvalues.2⟩⟩

/-- With a text of JSON for its member `data` an object is read as without that member, and with the
value of the text in its place. -/
theorem readAnswer_with_data {o text : String} {es fs : List (Member × (String × Value))}
    {t : Value} (ho : IsObject o.toList (es ++ fs))
    (hnone : "data" ∉ (es ++ fs).map fun e => e.2.1) (ht : IsText text.toList t) :
    ∃ ms, readAnswer o = .ok (.object ms) ∧
      ∀ m (o' : String), IsObject o'.toList (es ++ (m, ("data", .string text)) :: fs) →
        readAnswer o' = .ok (.object (Value.insertMember "data" t ms)) := by
  have hnames : (es ++ fs).map (fun e => e.2.1) = ((es ++ fs).map Prod.snd).map Prod.fst := by
    rw [List.map_map]
    rfl
  rw [hnames] at hnone
  have hbehind : "data" ∉ (fs.map Prod.snd).map Prod.fst := fun hmem =>
    hnone (by rw [List.map_append, List.map_append]; exact List.mem_append_right _ hmem)
  have hfresh := Value.not_mem_putIn hnone
  have hlookup : ∀ v, (Value.object (Value.insertMember "data" v
      (Value.putIn [] ((es ++ fs).map Prod.snd)))).member? "data" = some v := fun v =>
    (Value.lookup_insertMember "data" "data" v _).trans (if_pos rfl)
  refine ⟨Value.putIn [] ((es ++ fs).map Prod.snd), readAnswer_eq_ok.2 ⟨_, ho.isText, ?_⟩,
    fun m o' ho' => ?_⟩
  · refine .same fun text' w hmember => ?_
    cases hmember.symm.trans (Value.lookup_eq_none.2 hfresh)
  · have hvalue : Value.ofMembers ((es ++ (m, ("data", .string text)) :: fs).map Prod.snd) =
        .object (Value.insertMember "data" (.string text)
          (Value.putIn [] ((es ++ fs).map Prod.snd))) := by
      rw [List.map_append, List.map_cons, Value.ofMembers_append_cons hbehind, List.map_append]
    have htext := ho'.isText
    rw [hvalue] at htext
    rw [readAnswer, read_eq_ok.2 htext]
    refine congrArg Except.ok ?_
    rw [expandData_of_data (hlookup _) ht, Value.replaceMember_insertMember hfresh]

/-! ### The answer to a form -/

/-- What comes of a form whose answer has a body is a complaint about that body exactly if it is no
JSON. -/
theorem answerOf_eq_malformed {address body : String} {response : Http.Response}
    (h : response.text = .ok body) :
    (∃ e, Run.answerOf address (.ok response) = .error (.of (.answerMalformed e))) ↔
      ¬ ∃ v, IsText body.toList v := by
  rw [← readAnswer_eq_error]
  simp only [Run.answerOf, h]
  cases readAnswer body with
  | error e => exact iff_of_true ⟨e, rfl⟩ ⟨e, rfl⟩
  | ok w =>
    refine iff_of_false ?_ ?_
    · rintro ⟨e, he⟩
      cases he
    · rintro ⟨e, he⟩
      cases he

/-- An answer is refused exactly if it is no JSON, and then the form fails for that reason. Any other
is read as its value, of which the member `data`, the last one of that name, is replaced by the value
of its text if that is JSON by itself; nothing else is replaced, neither in the answer nor in what
the member says. -/
theorem answer_expanded (body : String) :
    ((∃ e, readAnswer body = .error e) ↔ ¬ ∃ v, IsText body.toList v) ∧
      (∀ w, readAnswer body = .ok w ↔ ∃ v, IsText body.toList v ∧ Expands v w) ∧
      (∀ ms, IsText body.toList (.object ms) → ∃ es, IsObject body.toList es ∧
        ∀ name, ms.lookup name = (es.map Prod.snd).reverse.lookup name) ∧
      (∀ es fs text t, IsObject body.toList (es ++ fs) →
        "data" ∉ (es ++ fs).map (fun e => e.2.1) → IsText text.toList t →
          (∃ m s, IsObject s (es ++ (m, ("data", .string text)) :: fs)) ∧
          ∃ ms, readAnswer body = .ok (.object ms) ∧
            ∀ m (body' : String), IsObject body'.toList (es ++ (m, ("data", .string text)) :: fs) →
              readAnswer body' = .ok (.object (Value.insertMember "data" t ms))) ∧
      ∀ client address form events answer, (submit client address form).Ends events answer →
        ∃ sent outcome, (client.send (draft address form)).Ends sent outcome ∧
          ∀ response, outcome = .ok response → response.text = .ok body →
            ((∃ e, answer = .error (.of (.answerMalformed e))) ↔
              ¬ ∃ v, IsText body.toList v) := by
  refine ⟨readAnswer_eq_error, fun w => readAnswer_eq_ok,
    fun ms hms => exists_members hms,
    fun es fs text t ho hnone ht =>
      ⟨exists_isObject_add ho "data" text, readAnswer_with_data ho hnone ht⟩, ?_⟩
  intro client address form events answer h
  obtain ⟨sent, outcome, hsent, -, rfl⟩ := Run.ends_submit h
  refine ⟨sent, outcome, hsent, ?_⟩
  rintro response rfl htext
  exact answerOf_eq_malformed htext

def nestedAnswer : String :=
  "\x7b\"data\": \"\\u007b\\\"data\\\": \\\"[1]\\\" \x7d\", \"x\": \"[2]\"\x7d"

/-- Only the member itself is expanded: a text of JSON in what it says is left, and so is one in
another member. -/
theorem answer_expanded_once :
    ∃ v w, IsText nestedAnswer.toList v ∧ Expands v w ∧
      (v.member? "data").bind (·.string?) = some "\x7b\"data\": \"[1]\" \x7d" ∧
      ((w.member? "data").bind (·.member? "data")).bind (·.string?) = some "[1]" ∧
      (w.member? "x").bind (·.string?) = some "[2]" := by
  have hread : (readAnswer nestedAnswer).toOption.map (fun w =>
      (((w.member? "data").bind (·.member? "data")).bind (·.string?),
        (w.member? "x").bind (·.string?))) = some (some "[1]", some "[2]") := by
    decide +kernel
  have hvalue : (Json.read nestedAnswer).toOption.bind (fun v =>
      (v.member? "data").bind (·.string?)) = some "\x7b\"data\": \"[1]\" \x7d" := by
    decide +kernel
  obtain ⟨w, hw, hparts⟩ := Option.map_eq_some_iff.1 hread
  obtain ⟨hdata, hother⟩ := Prod.mk.inj hparts
  obtain ⟨v, hv, hexpands⟩ := ((answer_expanded _).2.1 w).1 (toOption_eq_some.1 hw)
  rw [toOption_eq_some.2 (read_eq_ok.2 hv)] at hvalue
  exact ⟨v, w, hv, hexpands, hvalue, hdata, hother⟩

end Compliance.Submission
