import Compliance.Proofs.Except
import Compliance.Proofs.Http.Sending
import Mathlib.Algebra.Ring.Nat

/-!
How often a request is sent. One attempt after another is made until one of them has an outcome that
will not pass, or until no repetition is left. What counts is the last attempt, and between two of
them there is one notice and one pause. The attempts are taken from an endless sequence of attempts
that could be made, so that nothing is assumed of what the servers do.
-/

namespace Compliance

namespace Event

def pause? : Event → Option Duration
  | .paused d => some d
  | _ => none

def pauses (es : List Event) : List Duration := es.filterMap pause?

@[simp] theorem pauses_append (es fs : List Event) : pauses (es ++ fs) = pauses es ++ pauses fs :=
  List.filterMap_append

end Event

/-- A job that goes on with nothing is the job itself. -/
theorem Job.bind_done {α : Type} (j : Job α) : j.bind .done = j := by
  induction j with
  | done a => rfl
  | send q next ih => exact congrArg (Job.send q) (funext ih)
  | note n next ih => exact congrArg (Job.note n) ih
  | pause d next ih => exact congrArg (Job.pause d) ih
  | write path text next ih => exact congrArg (Job.write path text) (funext ih)
  | look path next ih => exact congrArg (Job.look path) (funext ih)

namespace Http

/-- An outcome that may be another one the next time: the server fails, does not listen, or says
nothing in time. -/
inductive MayPass : Outcome → Prop
  | failing {r : Response} (low : 500 ≤ r.status) (high : r.status < 600) : MayPass (.ok r)
  | unconnected (url : String) (fault : Host.Fault) :
      MayPass (.error (.unanswered url (.unconnected fault)))
  | silent (url : String) : MayPass (.error (.unanswered url .timedOut))

theorem isTransient_iff {x : Outcome} : isTransient x = true ↔ MayPass x := by
  constructor
  · intro h
    match x with
    | .ok r =>
      have hstatus : 500 ≤ r.status ∧ r.status < 600 := by
        simpa [isTransient, Status.isServerError] using h
      exact .failing hstatus.1 hstatus.2
    | .error (.unanswered url (.unconnected fault)) => exact .unconnected url fault
    | .error (.unanswered url .timedOut) => exact .silent url
    | .error (.unanswered _ .closed) => cases h
    | .error (.malformedUrl _) => cases h
    | .error .malformedHeader => cases h
    | .error (.schemeNotAllowed _) => cases h
    | .error (.unsendable _) => cases h
    | .error (.tooManyRedirects _) => cases h
    | .error .bodyCutShort => cases h
  · intro h
    cases h with
    | failing low high => simp [isTransient, Status.isServerError, low, high]
    | unconnected => rfl
    | silent => rfl

/-! ### Endless attempts -/

/-- What each of endlessly many attempts would do, and what would come of it. -/
structure Attempting (once : Job Outcome) where
  events : Nat → List Event
  outcome : Nat → Outcome
  ends : ∀ n, once.Ends (events n) (outcome n)

namespace Attempting

variable {once : Job Outcome}

def always {es : List Event} {x : Outcome} (h : once.Ends es x) : Attempting once :=
  ⟨fun _ => es, fun _ => x, fun _ => h⟩

def cons {es : List Event} {x : Outcome} (h : once.Ends es x) (a : Attempting once) :
    Attempting once where
  events n := n.casesOn es a.events
  outcome n := n.casesOn x a.outcome
  ends n := by
    cases n with
    | zero => exact h
    | succ n => exact a.ends n

def tail (a : Attempting once) : Attempting once :=
  ⟨fun n => a.events (n + 1), fun n => a.outcome (n + 1), fun n => a.ends (n + 1)⟩

/-- The number of the attempt that counts: the first one whose outcome will not pass, or the limit
if there is none before it. Attempts are counted from zero, so this many are repeated. -/
def last (a : Attempting once) (limit : Nat) : Nat :=
  ((List.range limit).find? fun n => !isTransient (a.outcome n)).getD limit

/-- The events of an attempt that is repeated: there is a notice and a pause behind it. The first
attempt has the number `start`. -/
def round (a : Attempting once) (base : Duration) (start i : Nat) : List Event :=
  a.events i ++ [.noted (retryNotice (start + i) (backoff base (start + i)) (a.outcome i)),
    .paused (backoff base (start + i))]

def repeated (a : Attempting once) (base : Duration) (start n : Nat) : List Event :=
  (List.range n).flatMap (a.round base start)

theorem last_succ_of_transient {a : Attempting once} (h : isTransient (a.outcome 0) = true)
    (limit : Nat) : a.last (limit + 1) = a.tail.last limit + 1 := by
  have hfind : (List.range (limit + 1)).find? (fun n => !isTransient (a.outcome n)) =
      ((List.range limit).find? fun n => !isTransient (a.tail.outcome n)).map (· + 1) := by
    rw [List.range_succ_eq_map, List.find?_cons, h, List.find?_map]
    rfl
  unfold last
  rw [hfind]
  cases (List.range limit).find? fun n => !isTransient (a.tail.outcome n) <;> rfl

theorem last_succ_of_settled {a : Attempting once} (h : isTransient (a.outcome 0) = false)
    (limit : Nat) : a.last (limit + 1) = 0 := by
  unfold last
  rw [List.range_succ_eq_map, List.find?_cons, h]
  rfl

theorem repeated_succ (a : Attempting once) (base : Duration) (start n : Nat) :
    a.repeated base start (n + 1) = a.events 0 ++
      .noted (retryNotice start (backoff base start) (a.outcome 0)) ::
        .paused (backoff base start) :: a.tail.repeated base (start + 1) n := by
  have hshift : (a.round base start ∘ Nat.succ) = a.tail.round base (start + 1) := by
    funext i
    have hnumber : start + (i + 1) = start + 1 + i := by omega
    simp only [Function.comp_apply, round, tail, Nat.succ_eq_add_one, hnumber]
  unfold repeated
  rw [List.range_succ_eq_map, List.flatMap_cons, List.flatMap_map]
  change a.round base start 0 ++ List.flatMap (a.round base start ∘ Nat.succ) _ = _
  rw [hshift, round, List.append_assoc]
  rfl

/-! ### The attempts of a loop -/

/-- Attempts are the beginning of endless ones. -/
theorem exists_of_attempts {base : Duration} {start limit : Nat} {es : List Event} {x : Outcome}
    (h : Attempts base once start limit es x) :
    ∃ a : Attempting once, es = a.repeated base start (a.last limit) ++ a.events (a.last limit) ∧
      x = a.outcome (a.last limit) := by
  -- Nothing is known of attempts after the last one, so the same is made of them for ever.
  induction h with
  | last h => exact ⟨always h, rfl, rfl⟩
  | @settled start limit es x h hx =>
    have hlast : (always h).last (limit + 1) = 0 := last_succ_of_settled hx limit
    exact ⟨always h, by rw [hlast]; rfl, by rw [hlast]; rfl⟩
  | @again start limit es fs x y h hy rest ih =>
    obtain ⟨a, hfs, hx⟩ := ih
    have hlast : (cons h a).last (limit + 1) = a.last limit + 1 :=
      last_succ_of_transient (a := cons h a) hy limit
    refine ⟨cons h a, ?_, ?_⟩
    · rw [hlast, repeated_succ, List.append_assoc, hfs]
      rfl
    · rw [hlast, hx]
      rfl

/-- Endless attempts begin with those of the loop. -/
theorem attempts (a : Attempting once) (base : Duration) (start limit : Nat) :
    Attempts base once start limit
      (a.repeated base start (a.last limit) ++ a.events (a.last limit))
      (a.outcome (a.last limit)) := by
  induction limit generalizing a start with
  | zero => exact .last (a.ends 0)
  | succ limit ih =>
    cases h : isTransient (a.outcome 0) with
    | true =>
      rw [last_succ_of_transient h, repeated_succ, List.append_assoc]
      exact .again (a.ends 0) h (ih a.tail (start + 1))
    | false =>
      rw [last_succ_of_settled h]
      exact .settled (a.ends 0) h

/-- No attempt before the one that counts has an outcome that stays, and it is within the limit. -/
theorem last_le_and_transient (a : Attempting once) (limit : Nat) :
    a.last limit ≤ limit ∧ ∀ i < a.last limit, isTransient (a.outcome i) = true := by
  induction limit generalizing a with
  | zero => exact ⟨Nat.le_refl 0, fun i hi => absurd hi (Nat.not_lt_zero i)⟩
  | succ limit ih =>
    cases h : isTransient (a.outcome 0) with
    | true =>
      rw [last_succ_of_transient h]
      obtain ⟨hle, htransient⟩ := ih a.tail
      refine ⟨by omega, fun i hi => ?_⟩
      cases i with
      | zero => exact h
      | succ i => exact htransient i (by omega)
    | false =>
      rw [last_succ_of_settled h]
      exact ⟨by omega, fun i hi => absurd hi (Nat.not_lt_zero i)⟩

/-- If repetitions are left, the attempt that counts has an outcome that stays. -/
theorem settled_of_last_lt {a : Attempting once} {limit : Nat} (h : a.last limit < limit) :
    isTransient (a.outcome (a.last limit)) = false := by
  induction limit generalizing a with
  | zero => exact absurd h (Nat.not_lt_zero _)
  | succ limit ih =>
    cases h0 : isTransient (a.outcome 0) with
    | true =>
      rw [last_succ_of_transient h0] at h ⊢
      exact ih (a := a.tail) (by omega)
    | false =>
      rw [last_succ_of_settled h0]
      exact h0

/-- What is picked out of the events of repeated attempts is picked out of each of them. -/
theorem filterMap_repeated {γ : Type} (a : Attempting once) (base : Duration) (n : Nat)
    (pick : Event → Option γ) :
    (a.repeated base 0 n).filterMap pick =
      (List.range n).flatMap fun i => (a.events i).filterMap pick ++
        [.noted (retryNotice i (backoff base i) (a.outcome i)), .paused (backoff base i)].filterMap
          pick := by
  unfold repeated
  rw [List.filterMap_flatMap]
  simp only [round, List.filterMap_append, Nat.zero_add]

/-- Attempts that note nothing leave one notice for each that is repeated. -/
theorem notices_repeated {a : Attempting once} (h : ∀ i, Event.notices (a.events i) = [])
    (base : Duration) (n : Nat) :
    Event.notices (a.repeated base 0 n) =
      (List.range n).map fun i => retryNotice i (backoff base i) (a.outcome i) := by
  have hevents (i : Nat) : (a.events i).filterMap Event.notice? = [] := h i
  rw [Event.notices, filterMap_repeated, List.map_eq_flatMap]
  simp only [hevents, List.nil_append]
  rfl

/-- Attempts that wait for nothing leave one pause for each that is repeated. -/
theorem pauses_repeated {a : Attempting once} (h : ∀ i, Event.pauses (a.events i) = [])
    (base : Duration) (n : Nat) :
    Event.pauses (a.repeated base 0 n) = (List.range n).map (backoff base) := by
  have hevents (i : Nat) : (a.events i).filterMap Event.pause? = [] := h i
  rw [Event.pauses, filterMap_repeated, List.map_eq_flatMap]
  simp only [hevents, List.nil_append]
  rfl

/-- What is sent is sent by the attempts. -/
theorem exchanges_repeated (a : Attempting once) (base : Duration) (n : Nat) :
    Event.exchanges (a.repeated base 0 n) =
      (List.range n).flatMap fun i => Event.exchanges (a.events i) := by
  rw [Event.exchanges, filterMap_repeated]
  show (List.range n).flatMap (fun i => Event.exchanges (a.events i) ++ []) = _
  simp only [List.append_nil]

end Attempting

/-! ### What is noted and how long is waited -/

theorem level_retryNotice (attempt : Nat) (pause : Duration) (x : Outcome) :
    (retryNotice attempt pause x).level = .warn := by
  cases x <;> rfl

theorem nanos_backoff_le (base : Duration) (attempt : Nat) :
    (backoff base attempt).nanos ≤ (Duration.ofSeconds 10).nanos :=
  Nat.min_le_right _ _

/-- No number of pauses takes longer than as many of ten seconds. -/
theorem sum_backoff_le (base : Duration) (n : Nat) :
    (((List.range n).map (backoff base)).map Duration.nanos).sum ≤
      n * (Duration.ofSeconds 10).nanos := by
  induction n with
  | zero => exact Nat.zero_le _
  | succ n ih =>
    have hlast : (backoff base n).nanos ≤ (Duration.ofSeconds 10).nanos := nanos_backoff_le base n
    simp only [List.range_succ, List.map_append, List.sum_append, List.map_cons, List.map_nil,
      List.sum_cons, List.sum_nil, Nat.add_zero, Nat.succ_mul]
    omega

/-- One attempt only sends. -/
theorem Hops.notices_eq {n : Nat} {q : Request} {es : List Event} {x : Outcome}
    (h : Hops n q es x) : Event.notices es = [] ∧ Event.pauses es = [] := by
  induction h with
  | onward _ _ _ ih => exact ih
  | _ => exact ⟨rfl, rfl⟩

theorem Attempt.notices_eq {settings : Settings} {d : Draft} {es : List Event} {x : Outcome}
    (h : Attempt settings d es x) : Event.notices es = [] ∧ Event.pauses es = [] := by
  cases h with
  | unmade => exact ⟨rfl, rfl⟩
  | made _ hops => exact hops.notices_eq

/-! ### Ends of the loop -/

theorem ends_of_attempts {base : Duration} {once : Job Outcome} {n left : Nat} {es : List Event}
    {x : Outcome} (h : Attempts base once n left es x) :
    (retrying base once n left).Ends es x := by
  induction h with
  | last h => exact h
  | @settled n left es x h hx =>
    unfold retrying
    refine Job.ends_bind.2 ⟨es, x, [], (List.append_nil es).symm, h, ?_⟩
    rw [hx]
    exact .nil _
  | @again n left es fs x y h hy _ ih =>
    unfold retrying
    refine Job.ends_bind.2 ⟨es, y, _, rfl, h, ?_⟩
    rw [hy]
    exact .cons (.note _ _) (.cons (.pause _ _) ih)

/-- Of endless attempts that could be made those up to number `k` are made, where `k` is the first
one whose outcome will not pass, or the limit. -/
structure Resent {once : Job Outcome} (base : Duration) (limit : Nat) (a : Attempting once)
    (k : Nat) (es : List Event) : Prop where
  within : k ≤ limit
  passing : ∀ i < k, MayPass (a.outcome i)
  settled : k < limit → ¬ MayPass (a.outcome k)
  /-- Behind each attempt but the last there is a notice and then a pause. -/
  events : es = a.repeated base 0 k ++ a.events k
  exchanges : Event.exchanges es =
    (List.range (k + 1)).flatMap fun i => Event.exchanges (a.events i)
  notices : Event.notices es =
    (List.range k).map fun i => retryNotice i (backoff base i) (a.outcome i)
  warnings : ∀ n ∈ Event.notices es, n.level = .warn
  pauses : Event.pauses es = (List.range k).map (backoff base)
  /-- No pause is longer than ten seconds. -/
  patience : ((Event.pauses es).map Duration.nanos).sum ≤ k * (Duration.ofSeconds 10).nanos

theorem Attempting.resent {once : Job Outcome} (a : Attempting once)
    (hsilent : ∀ i, Event.notices (a.events i) = [] ∧ Event.pauses (a.events i) = [])
    (base : Duration) (limit : Nat) :
    Resent base limit a (a.last limit)
      (a.repeated base 0 (a.last limit) ++ a.events (a.last limit)) := by
  obtain ⟨hle, htransient⟩ := a.last_le_and_transient limit
  generalize hk : a.last limit = k at hle htransient
  have hnotices : Event.notices (a.repeated base 0 k ++ a.events k) =
      (List.range k).map fun i => retryNotice i (backoff base i) (a.outcome i) := by
    rw [Event.notices_append, (hsilent k).1, List.append_nil,
      notices_repeated fun i => (hsilent i).1]
  have hpauses : Event.pauses (a.repeated base 0 k ++ a.events k) =
      (List.range k).map (backoff base) := by
    rw [Event.pauses_append, (hsilent k).2, List.append_nil,
      pauses_repeated fun i => (hsilent i).2]
  refine
    { within := hle
      passing := fun i hi => isTransient_iff.1 (htransient i hi)
      settled := fun hlt hpass => ?_
      events := rfl
      exchanges := ?_
      notices := hnotices
      warnings := fun n hn => ?_
      pauses := hpauses
      patience := ?_ }
  · subst hk
    have hstays := settled_of_last_lt hlt
    rw [isTransient_iff.2 hpass] at hstays
    cases hstays
  · rw [Event.exchanges_append, exchanges_repeated, List.range_succ, List.flatMap_append]
    simp only [List.flatMap_cons, List.flatMap_nil, List.append_nil]
  · rw [hnotices] at hn
    obtain ⟨i, _, rfl⟩ := List.mem_map.1 hn
    exact level_retryNotice i _ _
  · rw [hpauses]
    exact sum_backoff_le base k

/-! ### The number of an attempt in a word -/

/-- Below a limit of 32 bits there is room for one more. -/
theorem toNat_add_one_of_lt {number limit : UInt32} (h : number < limit) :
    (number + 1).toNat = number.toNat + 1 := by
  have hnumber : number.toNat < limit.toNat := UInt32.lt_iff_toNat_lt.1 h
  have hlimit : limit.toNat < 2 ^ 32 := limit.toNat_lt
  rw [UInt32.toNat_add]
  show (number.toNat + 1) % 2 ^ 32 = number.toNat + 1
  exact Nat.mod_eq_of_lt (by omega)

/-- Attempts whose number is kept in a word of 32 bits. The number is compared with the limit before
one is added to it. -/
def counting (base : Duration) (once : Job Outcome) (limit number : UInt32) : Job Outcome :=
  once.bind fun outcome =>
    if h : isTransient outcome = true ∧ number < limit then
      .note (retryNotice number.toNat (backoff base number.toNat) outcome) <|
        .pause (backoff base number.toNat) <| counting base once limit (number + 1)
    else .done outcome
termination_by limit.toNat - number.toNat
decreasing_by
  have hnext : (number + 1).toNat = number.toNat + 1 := toNat_add_one_of_lt h.2
  have hlt : number.toNat < limit.toNat := UInt32.lt_iff_toNat_lt.1 h.2
  omega

/-- The word does not run over, even where the limit is the largest one: what the attempts do is
what they do with a number that has no bound. -/
theorem counting_eq {base : Duration} {once : Job Outcome} {limit number : UInt32} {left : Nat}
    (h : limit.toNat = number.toNat + left) :
    counting base once limit number = retrying base once number.toNat left := by
  -- As long as something is left the number is below the limit, and so is there room for one more.
  induction left generalizing number with
  | zero =>
    have hend : ¬ number < limit := by
      rw [UInt32.lt_iff_toNat_lt]
      omega
    unfold counting
    simp only [hend, and_false, dite_false]
    exact once.bind_done
  | succ left ih =>
    have hroom : number < limit := by
      rw [UInt32.lt_iff_toNat_lt]
      omega
    have hnext : (number + 1).toNat = number.toNat + 1 := toNat_add_one_of_lt hroom
    have hrest : counting base once limit (number + 1) =
        retrying base once (number.toNat + 1) left := by
      rw [ih (by omega), hnext]
    unfold counting retrying
    refine congrArg once.bind (funext fun outcome => ?_)
    cases hx : isTransient outcome with
    | true =>
      simp only [hroom, and_self, dite_true, if_true, hrest]
      rfl
    | false =>
      simp only [Bool.false_eq_true, false_and, dite_false, if_false]
      rfl

/-! ### Sending with retries -/

/-- Where a client comes to an end with a request, it has made attempts up to the one that counts. -/
theorem resent_of_ends {c : Client} {d : Draft} {es : List Event} {x : Outcome}
    (h : (c.sendWithRetry d).Ends es x) : ∃ (a : Attempting (c.send d)) (k : Nat),
      x = a.outcome k ∧ Resent c.settings.retryDelay c.settings.retries a k es := by
  obtain ⟨a, rfl, hx⟩ := Attempting.exists_of_attempts (attempts_of_ends h)
  have hsilent (i : Nat) : Event.notices (a.events i) = [] ∧ Event.pauses (a.events i) = [] :=
    (attempt_of_ends (a.ends i)).notices_eq
  exact ⟨a, _, hx, a.resent hsilent _ _⟩

/-- A request is sent again as long as it may come out otherwise, up to the limit, whatever the
attempts come to; what counts is the last attempt. Each sequence of attempts is met by some end of
the job, each end comes of such a sequence, and every world brings the job to an end. -/
theorem sendWithRetry_resent (c : Client) (d : Draft) (limit : UInt32)
    (h : c.settings.retries = limit.toNat) :
    (∀ a : Attempting (c.send d), ∃ k es,
      (c.sendWithRetry d).Ends es (a.outcome k) ∧
        Resent c.settings.retryDelay limit.toNat a k es) ∧
    (∀ es x, (c.sendWithRetry d).Ends es x → ∃ (a : Attempting (c.send d)) (k : Nat),
      x = a.outcome k ∧ Resent c.settings.retryDelay limit.toNat a k es) ∧
    (∀ w : World, ∃ es x, (c.sendWithRetry d).Ends es x ∧ w.BringsAll es ∧
      (c.sendWithRetry d).run w = (x, w.afterAll es)) ∧
    counting c.settings.retryDelay (c.send d) limit 0 = c.sendWithRetry d := by
  have hsilent (a : Attempting (c.send d)) (i : Nat) :
      Event.notices (a.events i) = [] ∧ Event.pauses (a.events i) = [] :=
    (attempt_of_ends (a.ends i)).notices_eq
  rw [← h]
  refine ⟨fun a => ?_, fun es x hends => resent_of_ends hends, fun w => ?_, ?_⟩
  · have hends := ends_of_attempts (a.attempts c.settings.retryDelay 0 c.settings.retries)
    exact ⟨_, _, hends, a.resent (hsilent a) _ _⟩
  · obtain ⟨es, hends, hbrings, hafter⟩ := (c.sendWithRetry d).run_ends w
    exact ⟨es, _, hends, hbrings, by rw [hafter]⟩
  · exact counting_eq (by rw [UInt32.toNat_zero, Nat.zero_add, h])

/-- A server that never answers in time is asked `2 ^ 32` times if as many repetitions are allowed as
a word can count. -/
theorem sendWithRetry_resent_untiring :
    let c : Client := ⟨{ Settings.standard with retries := 4294967295 }⟩
    let d : Draft := ⟨.get, "http://[::1]/", [], ""⟩
    c.settings.retries = (4294967295 : UInt32).toNat ∧
      ∃ es x, (c.sendWithRetry d).Ends es x ∧
        x = .error (.unanswered "http://[::1]/" .timedOut) ∧
        Event.notices es = (List.range 4294967295).map fun i =>
          retryNotice i (backoff c.settings.retryDelay i) x := by
  intro c d
  have hlimit : 4294967295 = (4294967295 : UInt32).toNat := by decide
  refine ⟨hlimit, ?_⟩
  obtain ⟨q, hq, hurl⟩ : ∃ q, d.request c.settings = .ok q ∧ q.url.text = "http://[::1]/" := by
    have htext : (d.request c.settings).toOption.map (·.url.text) = some "http://[::1]/" := by
      decide +kernel
    obtain ⟨q, hq, hurl⟩ := Option.map_eq_some_iff.1 htext
    exact ⟨q, toOption_eq_some.1 hq, hurl⟩
  have honce : (c.send d).Ends [.sent q (.lost .timedOut)]
      (.error (.unanswered q.url.text .timedOut)) := by
    unfold Client.send
    rw [hq]
    exact .cons (.send q _ (.lost .timedOut)) (.nil _)
  rw [hurl] at honce
  obtain ⟨k, es, hends, hresent⟩ :=
    (sendWithRetry_resent c d 4294967295 hlimit).1 (.always honce)
  rw [← hlimit] at hresent
  have hlast : ¬ k < 4294967295 := fun hlt => hresent.settled hlt (.silent _)
  have hk : k = 4294967295 := Nat.le_antisymm hresent.within (Nat.le_of_not_lt hlast)
  refine ⟨es, _, hends, rfl, ?_⟩
  rw [← hk]
  exact hresent.notices

end Http

end Compliance
