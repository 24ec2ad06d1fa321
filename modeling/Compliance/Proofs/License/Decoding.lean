import Compliance.License.Report
import Compliance.Proofs.Json.Object
import Compliance.Proofs.Json.Pretty

/-!
Reports taken back from their text. An entry and its outcome are written into one object, so what is
read must tell the outcome by the members alone: its word says which of the four it is, and with the
word goes the one member in which the outcome keeps its status or its reason. A decoder that looks at
nothing but the members finds every report again.
-/

namespace Compliance

/-! ### Decoding -/

def Json.Value.natural? : Json.Value → Option Nat
  | .number (.integer n) => if 0 ≤ n then some n.toNat else none
  | _ => none

@[simp] theorem Json.Value.natural?_integer (n : Nat) :
    (Json.Value.number (.integer n)).natural? = some n := by
  rw [natural?, if_pos (Int.natCast_nonneg n), Int.toNat_natCast]

namespace License

def Outcome.ofJson? (v : Json.Value) : Option Outcome := do
  let word ← (← v.member? "status").string?
  if word = "retrieved" then
    return .retrieved
  else if word = "on_disk" then
    return .onDisk (← (← v.member? "http_status").natural?)
  else if word = "missing" then
    return .missing (← (← v.member? "http_status").natural?)
  else if word = "failed" then
    return .failed (← (← v.member? "error").string?)
  else none

def Entry.ofJson? (v : Json.Value) : Option Entry := do
  return {
    root := ← (← v.member? "module").string?
    owner := ← (← v.member? "owner").string?
    name := ← (← v.member? "name").string?
    outcome := ← Outcome.ofJson? v }

def Report.ofJson? (v : Json.Value) : Option Report :=
  match v.member? "entries" with
  | some (.array items) => (items.mapM Entry.ofJson?).map Report.mk
  | _ => none

def Report.ofText? (text : String) : Option Report :=
  (Json.read text).toOption.bind Report.ofJson?

/-! ### What is read -/

def Outcome.status? : Outcome → Option Nat
  | .retrieved => none
  | .onDisk status => some status
  | .missing status => some status
  | .failed _ => none

def Report.HasShortStatuses (r : Report) : Prop :=
  ∀ e ∈ r.entries, ∀ status ∈ e.outcome.status?, status < 2 ^ 16

/-- The object that is read for an entry, with its members in the order of their names. -/
def Entry.asRead (e : Entry) : Json.Value :=
  match e.outcome with
  | .retrieved => .object [("module", .string e.root), ("name", .string e.name),
      ("owner", .string e.owner), ("status", .string "retrieved")]
  | .onDisk status => .object [("http_status", .number (.integer status)),
      ("module", .string e.root), ("name", .string e.name), ("owner", .string e.owner),
      ("status", .string "on_disk")]
  | .missing status => .object [("http_status", .number (.integer status)),
      ("module", .string e.root), ("name", .string e.name), ("owner", .string e.owner),
      ("status", .string "missing")]
  | .failed reason => .object [("error", .string reason), ("module", .string e.root),
      ("name", .string e.name), ("owner", .string e.owner), ("status", .string "failed")]

def Report.asRead (r : Report) : Json.Value :=
  .object [("entries", .array (r.entries.map Entry.asRead))]

/-- The members of an entry and those of its outcome, as they are written into one object. -/
def Entry.members (e : Entry) : List (String × Json.Value) :=
  [("module", .string e.root), ("owner", .string e.owner), ("name", .string e.name)] ++
    e.outcome.members

theorem Entry.json_eq (e : Entry) : e.json = .object e.members := rfl

/-- No member of the outcome has the name of one of the entry. -/
theorem Entry.nodup_members (e : Entry) : (e.members.map Prod.fst).Nodup := by
  obtain ⟨root, owner, name, outcome⟩ := e
  cases outcome <;> simp [Entry.members, Outcome.members]

theorem Entry.asRead_json (e : Entry) : e.json.asRead = e.asRead := by
  obtain ⟨root, owner, name, outcome⟩ := e
  cases outcome <;>
    simp only [Entry.json, Entry.asRead, Outcome.members, Outcome.tag, List.cons_append,
      List.nil_append, Json.Value.asRead, Json.membersAsRead, Json.Value.ofMembers,
      Json.Value.insertMember, List.foldl_cons, List.foldl_nil, String.reduceLT, String.reduceEq,
      if_true, if_false]

theorem Report.asRead_json (r : Report) : r.json.asRead = r.asRead := by
  have hentry : Json.Value.asRead ∘ Entry.json = Entry.asRead := funext Entry.asRead_json
  rw [Report.json, Json.Value.asRead, Json.membersAsRead_eq_map]
  simp only [Json.Value.asRead, Json.itemsAsRead_eq_map, List.map_map, List.map_cons, List.map_nil,
    hentry]
  rfl

/-- A status of sixteen bits is well within the range of whole numbers. -/
theorem isWord_status {status : Nat} (h : status < 2 ^ 16) :
    (Json.Number.integer status).IsWord := by
  have hsize : (2 : Int) ^ 16 ≤ UInt64.size := by decide
  refine ⟨?_, ?_⟩ <;> omega

theorem Outcome.fits_members {o : Outcome} (h : ∀ status ∈ o.status?, status < 2 ^ 16)
    (depth : Nat) : ∀ m ∈ o.members, m.2.Fits depth := by
  intro m hm
  rcases List.mem_cons.1 hm with rfl | hm
  · exact .string depth _
  · cases o with
    | retrieved => cases hm
    | onDisk status =>
      obtain rfl := List.mem_singleton.1 hm
      exact .number depth (isWord_status (h status rfl))
    | missing status =>
      obtain rfl := List.mem_singleton.1 hm
      exact .number depth (isWord_status (h status rfl))
    | failed reason =>
      obtain rfl := List.mem_singleton.1 hm
      exact .string depth reason

theorem Report.fits_json {r : Report} (h : r.HasShortStatuses) : r.json.Fits Json.depthLimit := by
  -- Three levels are taken: the report, its list of entries and an entry.
  have hentry : ∀ v ∈ r.entries.map Entry.json, v.Fits 126 := by
    intro v hv
    obtain ⟨e, he, rfl⟩ := List.mem_map.1 hv
    refine .object (by decide) fun m hm => ?_
    rcases List.mem_append.1 hm with hm | hm
    · simp only [List.mem_cons, List.not_mem_nil, or_false] at hm
      rcases hm with rfl | rfl | rfl <;> exact .string 125 _
    · exact Outcome.fits_members (h e he) 125 m hm
  refine .object (by decide) fun m hm => ?_
  obtain rfl := List.mem_singleton.1 hm
  exact .array (by decide) hentry

/-- The text of a report says the report. -/
theorem Report.read_pretty {r : Report} (h : r.HasShortStatuses) :
    Json.read r.json.pretty = .ok r.asRead := by
  rw [Json.read_pretty (fits_json h), asRead_json]

/-! ### Decoding what is read -/

theorem Entry.ofJson?_asRead (e : Entry) : Entry.ofJson? e.asRead = some e := by
  obtain ⟨root, owner, name, outcome⟩ := e
  cases outcome <;>
    simp [Entry.ofJson?, Entry.asRead, Outcome.ofJson?, Json.Value.member?, Json.Value.string?,
      Json.Value.lookup_cons_ite]

theorem mapM_ofJson?_asRead (es : List Entry) :
    (es.map Entry.asRead).mapM Entry.ofJson? = some es := by
  induction es with
  | nil => rfl
  | cons e es ih =>
    rw [List.map_cons, List.mapM_cons, Entry.ofJson?_asRead, ih]
    rfl

theorem Report.ofJson?_asRead (r : Report) : Report.ofJson? r.asRead = some r := by
  have hentries : r.asRead.member? "entries" = some (.array (r.entries.map Entry.asRead)) := rfl
  rw [ofJson?, hentries]
  show ((r.entries.map Entry.asRead).mapM Entry.ofJson?).map Report.mk = some r
  rw [mapM_ofJson?_asRead]
  rfl

/-- Decoding undoes encoding. -/
theorem Report.ofText?_pretty {r : Report} (h : r.HasShortStatuses) :
    Report.ofText? r.json.pretty = some r := by
  rw [ofText?, read_pretty h]
  exact ofJson?_asRead r

/-- Different reports never have the same text. -/
theorem Report.pretty_inj {r r' : Report} (h : r.HasShortStatuses) (h' : r'.HasShortStatuses)
    (heq : r'.json.pretty = r.json.pretty) : r' = r := by
  have hdecoded := ofText?_pretty h'
  rw [heq, ofText?_pretty h] at hdecoded
  exact (Option.some.inj hdecoded).symm

/-- The word of an object that is read tells if its license is resolved. -/
theorem Entry.isResolved_iff_word (e : Entry) : e.outcome.isResolved = true ↔
    e.asRead.member? "status" = some (.string "retrieved") ∨
      e.asRead.member? "status" = some (.string "on_disk") := by
  obtain ⟨root, owner, name, outcome⟩ := e
  cases outcome <;>
    simp [Entry.asRead, Outcome.isResolved, Json.Value.member?, Json.Value.lookup_cons_ite]

end License

end Compliance
