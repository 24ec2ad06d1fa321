import Compliance.Proofs.GitHub.Asking
import Compliance.Proofs.Http.Form
import Compliance.Proofs.Json.Compact
import Compliance.Submission.Answer
import Compliance.Submission.Library

/-!
What a form says to the server that gets it. Its body is read as the pairs that were written into it,
and the text of the last pair as the payload, whatever characters the tokens and the names of the
libraries are made of.
-/

namespace Compliance.Submission

/-! ### The payload -/

theorem fits_payload (p : Payload) : (Json.Value.array [p.json]).Fits Json.depthLimit := by
  -- Four levels are taken: the list, the payload, its list of libraries and a library.
  have hlibraries : ∀ v ∈ p.libraries.map Library.json, v.Fits 125 := by
    intro v hv
    obtain ⟨l, _, rfl⟩ := List.mem_map.1 hv
    exact Json.Value.fits_ofStrings (by decide) l.fields
  have hpayload : p.json.Fits 127 := by
    refine .object (by decide) fun m hm => ?_
    rcases List.mem_cons.1 hm with rfl | hm
    · exact .string 126 p.projectToken
    · obtain rfl := List.mem_singleton.1 hm
      exact .array (by decide) hlibraries
  refine .array (by decide) fun v hv => ?_
  obtain rfl := List.mem_singleton.1 hv
  exact hpayload

/-- A library is read as its eight fields, in the order of their names. -/
theorem asRead_library (l : Library) : l.json.asRead = .ofStrings
    [("artifactId", l.coordinates.name),
      ("coordinates", l.coordinates.owner ++ ":" ++ l.coordinates.name ++ ":" ++ l.version),
      ("dependencyType", "SOURCE_LIBRARY"), ("filename", l.coordinates.name ++ "-" ++ l.version),
      ("groupId", l.coordinates.owner), ("name", l.coordinates.name), ("sha1", ""),
      ("version", l.version)] := by
  rw [Library.json, Json.Value.asRead_ofStrings]
  simp only [Library.fields, Library.fileName, Library.identifier, Json.Value.ofStrings,
    Json.Value.ofMembers, Json.Value.insertMember, List.map_cons, List.map_nil, List.foldl_cons,
    List.foldl_nil, String.reduceLT, String.reduceEq, if_true, if_false]

theorem asRead_payload (p : Payload) : p.json.asRead = .object
    [("dependencies", .array (p.libraries.map fun l => l.json.asRead)),
      ("projectToken", .string p.projectToken)] := by
  rw [Payload.json, Json.Value.asRead, Json.membersAsRead_eq_map]
  simp only [Json.Value.asRead, Json.itemsAsRead_eq_map, Json.Value.ofMembers,
    Json.Value.insertMember, List.map_cons, List.map_nil, List.foldl_cons, List.foldl_nil,
    String.reduceLT, String.reduceEq, if_true, if_false, List.map_map]
  rfl

/-! ### The request -/

def Posts (body : String) (q : Http.Request) : Prop := q.method = .post → q.body = body

/-- A redirect is followed with the body there was or with a request that only reads. -/
theorem Posts.onward {body : String} {q : Http.Request} (h : Posts body q) (status : Http.Status)
    (url : Http.Url) : Posts body (q.onward status url) := by
  unfold Posts Http.Request.onward
  dsimp only
  split
  · intro hpost
    cases hpost
  · exact h

theorem talks_submit (client : Http.Client) (address : String) (pairs : List (String × String)) :
    (submit client address pairs).Talks (Posts (Http.Form.encode pairs)) := by
  have hsend : (client.send (draft address pairs)).Talks (Posts (Http.Form.encode pairs)) :=
    Http.talks_send (fun _ status url h => h.onward status url)
      fun _ hq _ => (Http.method_of_request hq).2
  refine hsend.bind fun outcome => ?_
  cases outcome with
  | error e => trivial
  | ok response =>
    dsimp only
    split
    · trivial
    · split <;> trivial

/-- What is posted for a form, and what a server that takes the body apart finds in it. -/
structure Legible (p : Payload) (tokens : Tokens) (time : Int) (address body diff : String) :
    Prop where
  /-- The request that is made of the form is a post with this body. -/
  made : ∀ settings q, (draft address (form p tokens time)).request settings = .ok q →
    q.method = .post ∧ q.body = body
  /-- Whatever is answered, no other body is posted. -/
  posted : ∀ client, (submit client address (form p tokens time)).Talks (Posts body)
  /-- The body holds eight pairs, the tokens among them as they were given. -/
  pairs : Http.Form.decode body = [("type", "UPDATE"), ("agent", "generic"),
    ("agentVersion", "2.4.1"), ("pluginVersion", "1.0"), ("token", tokens.organisation),
    ("product", tokens.product), ("timeStamp", toString time), ("diff", diff)]
  /-- The last one is a list with one object in it, which holds the token of the project and one
  object with eight texts for each library. -/
  payload : Json.read diff = .ok (.array [.object
    [("dependencies", .array (p.libraries.map fun l => .ofStrings
      [("artifactId", l.coordinates.name),
        ("coordinates", l.coordinates.owner ++ ":" ++ l.coordinates.name ++ ":" ++ l.version),
        ("dependencyType", "SOURCE_LIBRARY"),
        ("filename", l.coordinates.name ++ "-" ++ l.version),
        ("groupId", l.coordinates.owner), ("name", l.coordinates.name), ("sha1", ""),
        ("version", l.version)])),
      ("projectToken", .string p.projectToken)]])

/-- Nothing is lost or added on the way through the two layers of escapes, whatever characters the
tokens and the libraries are made of. -/
theorem form_legible (p : Payload) (tokens : Tokens) (time : Int) (address : String) :
    ∃ diff, Legible p tokens time address (draft address (form p tokens time)).body diff := by
  have hdiff : Json.read (Json.Value.array [p.json]).compact = .ok (.array [p.json.asRead]) := by
    rw [Json.read_compact (fits_payload p)]
    simp only [Json.Value.asRead, Json.itemsAsRead]
  refine ⟨(Json.Value.array [p.json]).compact, ?_, ?_, ?_, ?_⟩
  · intro settings q hq
    exact Http.method_of_request hq
  · exact fun client => talks_submit client address (form p tokens time)
  · exact Http.Form.decode_encode (form p tokens time)
  · simp only [hdiff, asRead_payload, asRead_library]

end Compliance.Submission
