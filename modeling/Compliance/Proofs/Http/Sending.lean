import Compliance.Http.Client
import Compliance.Proofs.Work.Talk

/-!
What goes over the network when a request is sent: a chain of requests, each after the first one
where the answer before it pointed, and with retries several such chains, of which only the last one
counts.
-/

namespace Compliance.Http

/-- One request with the redirects that are followed from it, at most as many as the number says,
and what comes of it. -/
inductive Hops : Nat → Request → List Event → Outcome → Prop
  | lost (n : Nat) (q : Request) (loss : Loss) :
      Hops n q [.sent q (.lost loss)] (.error (.unanswered q.url.text loss))
  | final (n : Nat) {q : Request} {r : Response} (here : r.next? q.url = none) :
      Hops n q [.sent q (.answer r)] (.ok r)
  | exhausted {q : Request} {r : Response} {url : Url} (there : r.next? q.url = some url) :
      Hops 0 q [.sent q (.answer r)] (.error (.tooManyRedirects q.url.text))
  | barred {n : Nat} {q : Request} {r : Response} {url : Url} {e : Error}
      (there : r.next? q.url = some url) (unasked : url.asked = .error e) :
      Hops (n + 1) q [.sent q (.answer r)] (.error e)
  | onward {n : Nat} {q : Request} {r : Response} {url url' : Url} {es : List Event} {x : Outcome}
      (there : r.next? q.url = some url) (asked : url.asked = .ok url')
      (rest : Hops n (q.onward r.status url') es x) :
      Hops (n + 1) q (.sent q (.answer r) :: es) x

theorem hops_of_ends {n : Nat} {q : Request} {es : List Event} {x : Outcome}
    (h : (q.follow n).Ends es x) : Hops n q es x := by
  induction n generalizing q es with
  | zero =>
    unfold Request.follow at h
    obtain ⟨r, fs, rfl, hr⟩ := Job.ends_send.1 h
    cases r with
    | lost loss =>
      obtain ⟨rfl, rfl⟩ := Job.ends_done.1 hr
      exact .lost 0 q loss
    | answer r =>
      simp only [Job.bind] at hr
      split at hr
      · rename_i hnext
        obtain ⟨rfl, rfl⟩ := Job.ends_done.1 hr
        exact .final 0 hnext
      · rename_i hnext
        obtain ⟨rfl, rfl⟩ := Job.ends_done.1 hr
        exact .exhausted hnext
  | succ n ih =>
    unfold Request.follow at h
    obtain ⟨r, fs, rfl, hr⟩ := Job.ends_send.1 h
    cases r with
    | lost loss =>
      obtain ⟨rfl, rfl⟩ := Job.ends_done.1 hr
      exact .lost (n + 1) q loss
    | answer r =>
      simp only [Job.bind] at hr
      split at hr
      · rename_i hnext
        obtain ⟨rfl, rfl⟩ := Job.ends_done.1 hr
        exact .final (n + 1) hnext
      · rename_i hnext
        split at hr
        · rename_i hasked
          exact .onward hnext hasked (ih hr)
        · rename_i hasked
          obtain ⟨rfl, rfl⟩ := Job.ends_done.1 hr
          exact .barred hnext hasked

/-- One attempt at a draft: nothing is sent if no request can be made of it. -/
inductive Attempt (settings : Settings) (d : Draft) : List Event → Outcome → Prop
  | unmade {e : Error} (h : d.request settings = .error e) : Attempt settings d [] (.error e)
  | made {q : Request} {es : List Event} {x : Outcome} (h : d.request settings = .ok q)
      (hops : Hops redirectLimit q es x) : Attempt settings d es x

theorem attempt_of_ends {c : Client} {d : Draft} {es : List Event} {x : Outcome}
    (h : (c.send d).Ends es x) : Attempt c.settings d es x := by
  unfold Client.send at h
  split at h
  · rename_i e he
    obtain ⟨rfl, rfl⟩ := Job.ends_done.1 h
    exact .unmade he
  · rename_i q hq
    exact .made hq (hops_of_ends h)

/-- Attempts of which each but the last one failed in a way that may pass: `n` is the number of the
first one, and `left` says how many may follow it. -/
inductive Attempts (base : Duration) (once : Job Outcome) :
    Nat → Nat → List Event → Outcome → Prop
  | last {n : Nat} {es : List Event} {x : Outcome} (h : once.Ends es x) :
      Attempts base once n 0 es x
  | settled {n left : Nat} {es : List Event} {x : Outcome} (h : once.Ends es x)
      (hx : isTransient x = false) : Attempts base once n (left + 1) es x
  | again {n left : Nat} {es fs : List Event} {x y : Outcome} (h : once.Ends es y)
      (hy : isTransient y = true) (rest : Attempts base once (n + 1) left fs x) :
      Attempts base once n (left + 1)
        (es ++ .noted (retryNotice n (backoff base n) y) :: .paused (backoff base n) :: fs) x

theorem attempts_of_ends {base : Duration} {once : Job Outcome} {n left : Nat} {es : List Event}
    {x : Outcome} (h : (retrying base once n left).Ends es x) :
    Attempts base once n left es x := by
  induction left generalizing n es with
  | zero => exact .last h
  | succ left ih =>
    unfold retrying at h
    obtain ⟨fs, y, gs, rfl, hy, hrest⟩ := Job.ends_bind.1 h
    by_cases ht : isTransient y = true
    · simp only [ht, if_true] at hrest
      obtain ⟨_, rfl, hpause⟩ := Job.ends_note.1 hrest
      obtain ⟨_, rfl, hnext⟩ := Job.ends_pause.1 hpause
      exact .again hy ht (ih hnext)
    · simp only [ht] at hrest
      obtain ⟨rfl, rfl⟩ := Job.ends_done.1 hrest
      simpa using Attempts.settled hy (by simpa using ht)

/-! ### The answer that counts is the last one -/

def lastReply? (es : List Event) : Option Reply := (Event.exchanges es).getLast?.map (·.2)

theorem lastReply?_append_of_some (es : List Event) {fs : List Event} {r : Reply}
    (h : lastReply? fs = some r) : lastReply? (es ++ fs) = some r := by
  unfold lastReply? at h ⊢
  obtain ⟨p, hp, rfl⟩ := Option.map_eq_some_iff.1 h
  simp [List.getLast?_append, hp]

theorem lastReply?_append_of_nil (es : List Event) {fs : List Event}
    (h : Event.exchanges fs = []) : lastReply? (es ++ fs) = lastReply? es := by
  simp [lastReply?, h]

theorem Hops.lastReply? {n : Nat} {q : Request} {es : List Event} {r : Response}
    (h : Hops n q es (.ok r)) : lastReply? es = some (.answer r) := by
  generalize hx : (Except.ok r : Outcome) = x at h
  induction h with
  | lost => cases hx
  | final =>
    cases hx
    rfl
  | exhausted => cases hx
  | barred => cases hx
  | onward _ _ _ ih => exact lastReply?_append_of_some [_] (ih hx)

theorem Attempt.lastReply? {settings : Settings} {d : Draft} {es : List Event} {r : Response}
    (h : Attempt settings d es (.ok r)) : lastReply? es = some (.answer r) := by
  cases h with
  | made _ hops => exact hops.lastReply?

theorem Attempts.lastReply? {base : Duration} {once : Job Outcome} {n left : Nat}
    {es : List Event} {r : Response}
    (honce : ∀ fs, once.Ends fs (.ok r) → lastReply? fs = some (.answer r))
    (h : Attempts base once n left es (.ok r)) : lastReply? es = some (.answer r) := by
  generalize hx : (Except.ok r : Outcome) = x at h
  induction h with
  | last h => exact honce _ (hx ▸ h)
  | settled h => exact honce _ (hx ▸ h)
  | again _ _ _ ih =>
    exact lastReply?_append_of_some _ (lastReply?_append_of_some [_, _] (ih hx))

/-- The answer that comes of sending with retries is the last one that came back. -/
theorem lastReply?_sendWithRetry {c : Client} {d : Draft} {es : List Event} {r : Response}
    (h : (c.sendWithRetry d).Ends es (.ok r)) : lastReply? es = some (.answer r) :=
  (attempts_of_ends h).lastReply? fun _ hfs => (attempt_of_ends hfs).lastReply?

/-! ### Sending touches no file -/

section

variable {P : Request → Prop}

theorem talks_follow (hP : ∀ q status url, P q → P (Request.onward q status url)) {q : Request}
    (hq : P q) (n : Nat) : (q.follow n).Talks P := by
  induction n generalizing q with
  | zero =>
    unfold Request.follow
    refine ⟨hq, fun r => ?_⟩
    cases r with
    | lost loss => trivial
    | answer r =>
      simp only [Job.bind]
      split <;> trivial
  | succ n ih =>
    unfold Request.follow
    refine ⟨hq, fun r => ?_⟩
    cases r with
    | lost loss => trivial
    | answer r =>
      simp only [Job.bind]
      split
      · trivial
      · split
        · exact ih (hP q _ _ hq)
        · trivial

theorem talks_send (hP : ∀ q status url, P q → P (Request.onward q status url)) {c : Client}
    {d : Draft} (hd : ∀ q, d.request c.settings = .ok q → P q) : (c.send d).Talks P := by
  unfold Client.send
  split
  · trivial
  · rename_i q hq
    exact talks_follow hP (hd q hq) redirectLimit

theorem talks_retrying {base : Duration} {once : Job Outcome} (h : once.Talks P) (n left : Nat) :
    (retrying base once n left).Talks P := by
  induction left generalizing n with
  | zero => exact h
  | succ left ih =>
    unfold retrying
    refine h.bind fun y => ?_
    split
    · exact ih (n + 1)
    · trivial

theorem talks_sendWithRetry (hP : ∀ q status url, P q → P (Request.onward q status url))
    {c : Client} {d : Draft} (hd : ∀ q, d.request c.settings = .ok q → P q) :
    (c.sendWithRetry d).Talks P :=
  talks_retrying (talks_send hP hd) 0 c.settings.retries

end

end Compliance.Http
