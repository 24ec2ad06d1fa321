import Compliance.CommandLine.Options
import Compliance.Proofs.Http.Retrying

/-!
How long the pauses are. The power of two is cut down to a word of 32 bits and the product to the
longest span, and both stay hidden below the longest pause, unless the base is one nanosecond or
two. A machine that keeps a span in two words computes the same pauses, and none of its steps runs
over.
-/

namespace Compliance

/-! ### Words -/

def wide? (n : Nat) : Option UInt64 := if n < UInt64.size then some (.ofNat n) else none

def narrow? (n : Nat) : Option UInt32 := if n < UInt32.size then some (.ofNat n) else none

theorem exists_wide {n : Nat} (h : n < UInt64.size) : ∃ w, wide? n = some w ∧ w.toNat = n :=
  ⟨.ofNat n, if_pos h, Nat.mod_eq_of_lt h⟩

theorem exists_narrow {n : Nat} (h : n < UInt32.size) : ∃ w, narrow? n = some w ∧ w.toNat = n :=
  ⟨.ofNat n, if_pos h, Nat.mod_eq_of_lt h⟩

theorem wide?_of_le {n : Nat} (h : UInt64.size ≤ n) : wide? n = none :=
  if_neg (Nat.not_lt.2 h)

namespace Duration

theorem eq_of_nanos {d e : Duration} (h : d.nanos = e.nanos) : d = e := by
  cases d
  cases e
  exact congrArg mk h

@[simp] theorem nanos_times (d : Duration) (n : Nat) :
    (d.times n).nanos = min (d.nanos * n) longest.nanos := rfl

@[simp] theorem nanos_shorter (d e : Duration) :
    (d.shorter e).nanos = min d.nanos e.nanos := rfl

theorem nanos_longest : longest.nanos = (UInt64.size - 1) * second + (second - 1) := by decide

/-- No span is longer than the longest one. -/
theorem le_longest {seconds part : Nat} (hseconds : seconds ≤ UInt64.size - 1)
    (hpart : part < second) : seconds * second + part ≤ longest.nanos := by
  rw [nanos_longest]
  exact Nat.add_le_add (Nat.mul_le_mul_right _ hseconds) (Nat.le_pred_of_lt hpart)

theorem longest_le {seconds : Nat} (hseconds : UInt64.size ≤ seconds) (part : Nat) :
    longest.nanos ≤ seconds * second + part := by
  have hmul : UInt64.size * second ≤ seconds * second := Nat.mul_le_mul_right _ hseconds
  have hlongest : longest.nanos ≤ UInt64.size * second := Nat.sub_le _ 1
  omega

end Duration

/-! ### Spans in words -/

/-- A span as a machine keeps it: whole seconds, and the nanoseconds of another one. -/
structure Span where
  seconds : UInt64
  part : UInt32
  isPart : part.toNat < Duration.second

namespace Span

def duration (s : Span) : Duration := ⟨s.seconds.toNat * Duration.second + s.part.toNat⟩

theorem nanos_duration (s : Span) :
    s.duration.nanos = s.seconds.toNat * Duration.second + s.part.toNat := rfl

def make? (seconds : UInt64) (part : UInt32) : Option Span :=
  if h : part.toNat < Duration.second then some ⟨seconds, part, h⟩ else none

def ofMillis? (millis : UInt64) : Option Span := do
  let part ← narrow? ((millis.toNat % 1000) * 1000000)
  make? (millis / 1000) part

def longest : Span := ⟨18446744073709551615, 999999999, by decide⟩

def ofSeconds (n : UInt64) : Span := ⟨n, 0, by decide⟩

/-- The seconds of a multiple, if they fit into a word: those of the multiplied seconds, and those
that the multiplied nanoseconds amount to. -/
def secondsOfTimes? (s : Span) (n : UInt32) (carry : UInt64) : Option UInt64 := do
  let seconds ← wide? (s.seconds.toNat * n.toNat)
  wide? (seconds.toNat + carry.toNat)

/-- A multiple of a span, or the longest span if the seconds do not fit. There is no result where a
step runs over: the multiplied nanoseconds have to fit into a word, and what is left of them has to
be less than a second. -/
def times? (s : Span) (n : UInt32) : Option Span := do
  let product ← wide? (s.part.toNat * n.toNat)
  match s.secondsOfTimes? n (product / 1000000000) with
  | none => return longest
  | some seconds => make? seconds (product % 1000000000).toUInt32

def shorter (s t : Span) : Span :=
  if s.seconds < t.seconds ∨ s.seconds = t.seconds ∧ s.part ≤ t.part then s else t

def backoff? (base : Span) (attempt : UInt32) : Option Span := do
  let power ← narrow? (Http.doublings attempt.toNat)
  let pause ← base.times? power
  return pause.shorter (ofSeconds 10)

theorem exists_make (seconds : UInt64) {part : UInt32} (h : part.toNat < Duration.second) :
    ∃ s, make? seconds part = some s ∧
      s.duration.nanos = seconds.toNat * Duration.second + part.toNat :=
  ⟨⟨seconds, part, h⟩, dif_pos h, rfl⟩

theorem exists_ofMillis (millis : UInt64) :
    ∃ s, ofMillis? millis = some s ∧ s.duration = .ofMillis millis.toNat := by
  obtain ⟨part, hpart, hvalue⟩ := exists_narrow (n := (millis.toNat % 1000) * 1000000)
    (by have := Nat.mod_lt millis.toNat (show 1000 > 0 by decide); unfold UInt32.size; omega)
  have hlt : part.toNat < Duration.second := by
    unfold Duration.second
    omega
  obtain ⟨s, hs, hnanos⟩ := exists_make (millis / 1000) hlt
  refine ⟨s, ?_, ?_⟩
  · rw [ofMillis?, hpart]
    exact hs
  · have hseconds : (millis / 1000).toNat = millis.toNat / 1000 := UInt64.toNat_div millis 1000
    have htotal : s.duration.nanos = millis.toNat * 1000000 := by
      rw [hnanos, hseconds, hvalue, Duration.second]
      omega
    exact congrArg Duration.mk htotal

/-- The seconds of a multiple are those of the product in whole numbers. -/
theorem secondsOfTimes_cases (s : Span) (n : UInt32) (carry : UInt64) :
    (s.seconds.toNat * n.toNat + carry.toNat < UInt64.size ∧
      ∃ w, s.secondsOfTimes? n carry = some w ∧
        w.toNat = s.seconds.toNat * n.toNat + carry.toNat) ∨
      (UInt64.size ≤ s.seconds.toNat * n.toNat + carry.toNat ∧
        s.secondsOfTimes? n carry = none) := by
  rcases Nat.lt_or_ge (s.seconds.toNat * n.toNat) UInt64.size with hfits | hlarge
  · obtain ⟨seconds, hseconds, hvalue⟩ := exists_wide hfits
    have hsum : s.secondsOfTimes? n carry = wide? (s.seconds.toNat * n.toNat + carry.toNat) := by
      rw [secondsOfTimes?, hseconds, ← hvalue]
      rfl
    rw [hsum]
    rcases Nat.lt_or_ge (s.seconds.toNat * n.toNat + carry.toNat) UInt64.size with hlt | hge
    · exact .inl ⟨hlt, exists_wide hlt⟩
    · exact .inr ⟨hge, wide?_of_le hge⟩
  · refine .inr ⟨Nat.le_trans hlarge (Nat.le_add_right _ _), ?_⟩
    rw [secondsOfTimes?, wide?_of_le hlarge]
    rfl

/-- No step of a multiplication runs over, and it gives the multiple that the span has. -/
theorem exists_times (s : Span) (n : UInt32) :
    ∃ t, s.times? n = some t ∧ t.duration = s.duration.times n.toNat := by
  have hpart : s.part.toNat ≤ 999999999 := Nat.le_pred_of_lt s.isPart
  have hn : n.toNat ≤ 4294967295 := Nat.le_pred_of_lt n.toNat_lt
  have hproduct : s.part.toNat * n.toNat ≤ 999999999 * 4294967295 := Nat.mul_le_mul hpart hn
  obtain ⟨product, hwide, hvalue⟩ := exists_wide (n := s.part.toNat * n.toNat)
    (Nat.lt_of_le_of_lt hproduct (by decide))
  have hcarry : (product / 1000000000).toNat = product.toNat / Duration.second :=
    UInt64.toNat_div product 1000000000
  have hrest : (product % 1000000000).toUInt32.toNat = product.toNat % Duration.second := by
    rw [UInt64.toNat_toUInt32, UInt64.toNat_mod]
    exact Nat.mod_eq_of_lt (Nat.lt_trans (Nat.mod_lt _ (by decide)) (by decide))
  have hless : product.toNat % Duration.second < Duration.second := Nat.mod_lt _ (by decide)
  -- The multiple in nanoseconds: the carried seconds are those of the multiplied nanoseconds.
  have hnanos : s.duration.nanos * n.toNat =
      (s.seconds.toNat * n.toNat + product.toNat / Duration.second) * Duration.second +
        product.toNat % Duration.second := by
    rw [Nat.add_mul, Nat.add_assoc, Nat.div_add_mod', hvalue, nanos_duration, Nat.add_mul,
      Nat.mul_right_comm]
  rw [times?, hwide]
  rcases s.secondsOfTimes_cases n (product / 1000000000) with
    ⟨hlt, seconds, hseconds, hsum⟩ | ⟨hge, hnone⟩
  · obtain ⟨t, ht, htotal⟩ := exists_make seconds (hrest ▸ hless)
    refine ⟨t, by simpa only [Option.bind_eq_bind, Option.bind_some, hseconds] using ht, ?_⟩
    rw [hcarry] at hlt hsum
    refine Duration.eq_of_nanos ?_
    rw [Duration.nanos_times, htotal, hsum, hrest, hnanos, Nat.min_eq_left]
    exact Duration.le_longest (Nat.le_pred_of_lt hlt) hless
  · refine ⟨longest, by simp only [Option.bind_eq_bind, Option.bind_some, hnone]; rfl, ?_⟩
    rw [hcarry] at hge
    refine Duration.eq_of_nanos ?_
    rw [Duration.nanos_times, hnanos, Nat.min_eq_right]
    · rfl
    · exact Duration.longest_le hge _

/-- Spans are compared as their nanoseconds are. -/
theorem nanos_le_iff (s t : Span) : s.duration.nanos ≤ t.duration.nanos ↔
    s.seconds < t.seconds ∨ s.seconds = t.seconds ∧ s.part ≤ t.part := by
  have hs : s.part.toNat < 1000000000 := s.isPart
  have ht : t.part.toNat < 1000000000 := t.isPart
  rw [nanos_duration, nanos_duration, UInt64.lt_iff_toNat_lt, UInt32.le_iff_toNat_le,
    ← UInt64.toNat_inj, Duration.second]
  omega

theorem duration_shorter (s t : Span) :
    (s.shorter t).duration = s.duration.shorter t.duration := by
  refine Duration.eq_of_nanos ?_
  rw [shorter, Duration.nanos_shorter]
  by_cases h : s.seconds < t.seconds ∨ s.seconds = t.seconds ∧ s.part ≤ t.part
  · rw [if_pos h, Nat.min_eq_left ((nanos_le_iff s t).2 h)]
  · rw [if_neg h, Nat.min_eq_right (Nat.le_of_not_le fun hle => h ((nanos_le_iff s t).1 hle))]

end Span

namespace Http

/-! ### Pauses -/

theorem doublings_eq (attempt : Nat) : doublings attempt = min (2 ^ attempt) 4294967295 := by
  rw [doublings]
  by_cases h : attempt < 32
  · have hpower : 2 ^ attempt ≤ 2 ^ 31 := Nat.pow_le_pow_right (by decide) (by omega)
    rw [if_pos h, Nat.min_eq_left (Nat.le_trans hpower (by decide))]
    rfl
  · have hpower : 2 ^ 32 ≤ 2 ^ attempt := Nat.pow_le_pow_right (by decide) (by omega)
    rw [if_neg h, Nat.min_eq_right (Nat.le_trans (by decide) hpower)]
    rfl

theorem doublings_mono {m n : Nat} (h : m ≤ n) : doublings m ≤ doublings n := by
  have hpower : 2 ^ m ≤ 2 ^ n := Nat.pow_le_pow_right (by decide) h
  rw [doublings_eq, doublings_eq]
  omega

/-- What a pause comes to: the longest span is far beyond the longest pause, so that only the power
of two is still seen to be cut down. -/
theorem nanos_backoff (base : Duration) (attempt : Nat) :
    (backoff base attempt).nanos =
      min (base.nanos * min (2 ^ attempt) 4294967295) (Duration.ofSeconds 10).nanos := by
  have hlongest : (Duration.ofSeconds 10).nanos ≤ Duration.longest.nanos := by decide
  rw [backoff, Duration.nanos_shorter, Duration.nanos_times, doublings_eq, longestPause,
    Nat.min_assoc, Nat.min_eq_right hlongest]

/-- Where the power of two is cut down, three nanoseconds are already multiplied beyond the longest
pause. -/
theorem nanos_backoff_eq {base : Duration} (h : base.nanos = 0 ∨ 3 ≤ base.nanos) (attempt : Nat) :
    (backoff base attempt).nanos =
      min (Duration.ofSeconds 10).nanos (base.nanos * 2 ^ attempt) := by
  rw [nanos_backoff, Nat.min_comm]
  rcases h with hzero | hthree
  · rw [hzero, Nat.zero_mul, Nat.zero_mul]
  rcases Nat.le_total (2 ^ attempt) 4294967295 with hsmall | hlarge
  · rw [Nat.min_eq_left hsmall]
  · have hcut : (Duration.ofSeconds 10).nanos ≤ base.nanos * 4294967295 :=
      Nat.le_trans (by decide : (Duration.ofSeconds 10).nanos ≤ 3 * 4294967295)
        (Nat.mul_le_mul_right _ hthree)
    have hwhole : (Duration.ofSeconds 10).nanos ≤ base.nanos * 2 ^ attempt :=
      Nat.le_trans hcut (Nat.mul_le_mul_left _ hlarge)
    rw [Nat.min_eq_right hlarge, Nat.min_eq_left hcut, Nat.min_eq_left hwhole]

/-- One nanosecond or two are not multiplied beyond the longest pause by the largest word. -/
theorem nanos_backoff_ne {base : Duration} (h : base.nanos = 1 ∨ base.nanos = 2) :
    (backoff base 34).nanos ≠ min (Duration.ofSeconds 10).nanos (base.nanos * 2 ^ 34) := by
  rw [nanos_backoff]
  rcases h with h | h <;> rw [h] <;> decide

theorem nanos_backoff_mono {base base' : Duration} {m n : Nat} (hbase : base.nanos ≤ base'.nanos)
    (h : m ≤ n) : (backoff base m).nanos ≤ (backoff base' n).nanos := by
  have hpower := doublings_mono h
  rw [doublings_eq, doublings_eq] at hpower
  have hmul := Nat.mul_le_mul hbase hpower
  rw [nanos_backoff, nanos_backoff]
  exact Nat.le_min.2 ⟨Nat.le_trans (Nat.min_le_left _ _) hmul, Nat.min_le_right _ _⟩

/-- The machine computes a pause without a step that runs over. -/
theorem exists_backoff (base : Span) (attempt : UInt32) :
    ∃ pause, base.backoff? attempt = some pause ∧
      pause.duration = backoff base.duration attempt.toNat := by
  obtain ⟨power, hpower, hvalue⟩ := exists_narrow (n := doublings attempt.toNat) (by
    rw [doublings_eq]
    exact Nat.lt_of_le_of_lt (Nat.min_le_right _ _) (by decide))
  obtain ⟨multiple, hmultiple, htimes⟩ := base.exists_times power
  refine ⟨multiple.shorter (.ofSeconds 10), ?_, ?_⟩
  · simp only [Span.backoff?, hpower, Option.bind_eq_bind, Option.bind_some, hmultiple]
    rfl
  · rw [Span.duration_shorter, htimes, hvalue]
    rfl

end Http

namespace CommandLine

/-- The pause that is asked for on a command line is a number of milliseconds in a word. -/
theorem exists_retryDelay (values : Values) : ∃ millis : UInt64,
    (Common.ofValues values).settings.retryDelay = .ofMillis millis.toNat := by
  have hlt : (Common.ofValues values).retryDelayMillis < UInt64.size := by
    show numberOr values "retry-delay-ms" UInt64.size false 500 < UInt64.size
    rw [numberOr]
    cases hn : (values.lookup "retry-delay-ms").bind (number? UInt64.size false) with
    | none => decide
    | some n =>
      obtain ⟨text, -, hnumber⟩ := Option.bind_eq_some_iff.1 hn
      exact of_decide_eq_true (Option.filter_eq_some_iff.1 hnumber).2
  exact ⟨.ofNat (Common.ofValues values).retryDelayMillis,
    congrArg Duration.ofMillis (Nat.mod_eq_of_lt hlt).symm⟩

end CommandLine

namespace Http

/-- Pauses double from one attempt to the next until they reach ten seconds. This is exact for every
base but one nanosecond and two, hence for all that can be asked for, although the power of two and
the product are cut down; and for every base the pause is within ten seconds and grows with the base
and the attempt. A machine that keeps spans in words has a result at each step, the same one. -/
theorem backoff_exact :
    (∀ (base : Span) (attempt : UInt32), ∃ pause, base.backoff? attempt = some pause ∧
      pause.duration = backoff base.duration attempt.toNat) ∧
    (∀ base : Span, (∀ attempt : UInt32, (backoff base.duration attempt.toNat).nanos =
        min (Duration.ofSeconds 10).nanos (base.duration.nanos * 2 ^ attempt.toNat)) ↔
      base.duration.nanos = 0 ∨ 3 ≤ base.duration.nanos) ∧
    (∀ values : CommandLine.Values, ∃ (millis : UInt64) (base : Span),
      (CommandLine.Common.ofValues values).settings.retryDelay = base.duration ∧
      Span.ofMillis? millis = some base ∧ base.duration = .ofMillis millis.toNat ∧
      (base.duration.nanos = 0 ∨ 3 ≤ base.duration.nanos)) ∧
    (∀ (base : Span) (attempt : UInt32),
      (backoff base.duration attempt.toNat).nanos ≤ (Duration.ofSeconds 10).nanos) ∧
    ∀ (base base' : Span) (attempt attempt' : UInt32),
      base.duration.nanos ≤ base'.duration.nanos → attempt ≤ attempt' →
        (backoff base.duration attempt.toNat).nanos ≤
          (backoff base'.duration attempt'.toNat).nanos := by
  refine ⟨exists_backoff, fun base => ⟨fun hexact => ?_, fun h attempt => ?_⟩, fun values => ?_,
    fun base attempt => nanos_backoff_le _ _, fun base base' attempt attempt' hbase hattempt =>
      nanos_backoff_mono hbase (UInt32.le_iff_toNat_le.1 hattempt)⟩
  · by_contra hsmall
    exact nanos_backoff_ne (by omega) (hexact 34)
  · exact nanos_backoff_eq h attempt.toNat
  · obtain ⟨millis, hmillis⟩ := CommandLine.exists_retryDelay values
    obtain ⟨base, hbase, hduration⟩ := Span.exists_ofMillis millis
    refine ⟨millis, base, hmillis.trans hduration.symm, hbase, hduration, ?_⟩
    have hnanos : base.duration.nanos = millis.toNat * 1000000 :=
      congrArg Duration.nanos hduration
    omega

/-- Three nanoseconds are doubled thirty-one times without loss, and no attempt before has a longer
pause. -/
theorem backoff_exact_three :
    let base : Span := ⟨0, 3, by decide⟩
    3 ≤ base.duration.nanos ∧ (backoff base.duration 31).nanos = 6442450944 ∧
      ∀ attempt ≤ (31 : UInt32), (backoff base.duration attempt.toNat).nanos ≤ 6442450944 := by
  intro base
  have hthree : 3 ≤ base.duration.nanos := by decide
  have hlast : (backoff base.duration 31).nanos = 6442450944 :=
    ((backoff_exact.2.1 base).2 (.inr hthree) 31).trans (by decide)
  refine ⟨hthree, hlast, fun attempt hattempt => ?_⟩
  rw [← hlast]
  exact backoff_exact.2.2.2.2 base base attempt 31 (Nat.le_refl _) hattempt

end Http

end Compliance
