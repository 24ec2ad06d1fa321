import Compliance.Proofs.Http.Url
import Compliance.Proofs.Work.Alike

/-!
Sending requests that are alike. If alike requests have one URL, and where an answer points
elsewhere are followed by alike requests, then two clients that send drafts of such requests take
the same steps: all that they decide on is the URL and what comes back.
-/

namespace Compliance.Http

variable {R : Request → Request → Prop}

/-! ### Requests that are made of drafts -/

/-- Two requests that are alike, or the one reason for which there is neither. -/
inductive MadeAlike (R : Request → Request → Prop) :
    Except Error Request → Except Error Request → Prop
  | unmade (e : Error) : MadeAlike R (.error e) (.error e)
  | made {q q' : Request} (h : R q q') : MadeAlike R (.ok q) (.ok q')

theorem MadeAlike.bind {α : Type} {x : Except Error α} {f g : α → Except Error Request}
    (h : ∀ a, x = .ok a → MadeAlike R (f a) (g a)) : MadeAlike R (x >>= f) (x >>= g) := by
  cases x with
  | error e => exact .unmade e
  | ok a => exact h a rfl

/-- A check that both of them have to pass. -/
theorem MadeAlike.check {c : Prop} [Decidable c] {e : Error} {f g : Unit → Except Error Request}
    (h : MadeAlike R (f ()) (g ())) :
    MadeAlike R (if c then throw e >>= f else f ()) (if c then throw e >>= g else g ()) := by
  by_cases hc : c
  · rw [if_pos hc, if_pos hc]
    exact .unmade e
  · rw [if_neg hc, if_neg hc]
    exact h

def Draft.sentHeaders (d : Draft) (settings : Settings) : List (String × String) :=
  withDefault "accept" "*/*" (withDefault "user-agent" settings.userAgent d.headers)

/-- Drafts for one address, whose headers are both in order or both not. -/
theorem madeAlike_request {d d' : Draft} {settings : Settings} (haddress : d.address = d'.address)
    (hvalid : (d.headers.all fun h => isHeaderValue h.2) =
      d'.headers.all fun h => isHeaderValue h.2)
    (h : ∀ u, Url.parse d.address = .ok u →
      R ⟨d.method, u.withoutUser, d.sentHeaders settings, d.body, settings.timeout⟩
        ⟨d'.method, u.withoutUser, d'.sentHeaders settings, d'.body, settings.timeout⟩) :
    MadeAlike R (d.request settings) (d'.request settings) := by
  unfold Draft.request
  rw [← haddress, ← hvalid]
  refine .bind fun u hu => .check (.check (.bind fun v hv => ?_))
  obtain ⟨rfl, -⟩ := Url.asked_eq_ok hv
  exact .made (h u (mapError_eq_ok.1 hu))

/-! ### Sending them -/

structure StaysAlike (R : Request → Request → Prop) : Prop where
  url_eq : ∀ q q', R q q' → q.url = q'.url
  onward : ∀ q q' status url, R q q' → R (q.onward status url) (q'.onward status url)

theorem alike_follow (hR : StaysAlike R) (n : Nat) {q q' : Request} (hq : R q q') :
    (q.follow n).Alike R (q'.follow n) := by
  induction n generalizing q q' with
  | zero =>
    unfold Request.follow
    rw [← hR.url_eq q q' hq]
    refine .send hq fun r => ?_
    cases r with
    | lost loss => exact .done _
    | answer r =>
      simp only [Job.bind]
      split <;> exact .done _
  | succ n ih =>
    unfold Request.follow
    rw [← hR.url_eq q q' hq]
    refine .send hq fun r => ?_
    cases r with
    | lost loss => exact .done _
    | answer r =>
      simp only [Job.bind]
      split
      · exact .done _
      · split
        · exact ih (hR.onward q q' _ _ hq)
        · exact .done _

theorem alike_send (hR : StaysAlike R) (c : Client) {d d' : Draft}
    (h : MadeAlike R (d.request c.settings) (d'.request c.settings)) :
    (c.send d).Alike R (c.send d') := by
  unfold Client.send
  generalize d.request c.settings = x at h
  generalize d'.request c.settings = y at h
  cases h with
  | unmade e => exact .done _
  | made hq => exact alike_follow hR redirectLimit hq

theorem alike_retrying {base : Duration} {once once' : Job Outcome} (h : once.Alike R once')
    (n left : Nat) : (retrying base once n left).Alike R (retrying base once' n left) := by
  induction left generalizing n with
  | zero => exact h
  | succ left ih =>
    unfold retrying
    refine h.bind fun x => ?_
    split
    · exact .note _ (.pause _ (ih (n + 1)))
    · exact .done _

theorem alike_sendWithRetry (hR : StaysAlike R) (c : Client) {d d' : Draft}
    (h : MadeAlike R (d.request c.settings) (d'.request c.settings)) :
    (c.sendWithRetry d).Alike R (c.sendWithRetry d') :=
  alike_retrying (alike_send hR c h) 0 c.settings.retries

end Compliance.Http
