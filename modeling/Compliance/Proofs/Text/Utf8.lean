import Compliance.Text.Utf8

/-!
Reading back the bytes of a text. Each character is written as one to four bytes, of which the first
tells how many there are and within which range the second one lies; so what was written is found
again, whatever follows it.
-/

namespace Compliance.Text

/-! ### Bytes as numbers -/

theorem toNat_ofNat_of_lt {n : Nat} (h : n < 256) : (UInt8.ofNat n).toNat = n := by
  rw [UInt8.toNat_ofNat']
  exact Nat.mod_eq_of_lt h

theorem le_ofNat_iff {n : Nat} (h : n < 256) (b : UInt8) : b ≤ UInt8.ofNat n ↔ b.toNat ≤ n := by
  rw [UInt8.le_iff_toNat_le, toNat_ofNat_of_lt h]

theorem ofNat_le_iff {n : Nat} (h : n < 256) (b : UInt8) : UInt8.ofNat n ≤ b ↔ n ≤ b.toNat := by
  rw [UInt8.le_iff_toNat_le, toNat_ofNat_of_lt h]

theorem ofNat_eq_iff {n : Nat} (h : n < 256) (b : UInt8) : UInt8.ofNat n = b ↔ n = b.toNat := by
  rw [← UInt8.toNat_inj, toNat_ofNat_of_lt h]

/-- What a first byte tells, by its number. -/
theorem leadRange_ofNat {n : Nat} (h : n < 256) : leadRange (UInt8.ofNat n) =
    if 0xC2 ≤ n ∧ n ≤ 0xDF then some (1, 0x80, 0xBF)
    else if n = 0xE0 then some (2, 0xA0, 0xBF)
    else if n = 0xED then some (2, 0x80, 0x9F)
    else if 0xE1 ≤ n ∧ n ≤ 0xEF then some (2, 0x80, 0xBF)
    else if n = 0xF0 then some (3, 0x90, 0xBF)
    else if 0xF1 ≤ n ∧ n ≤ 0xF3 then some (3, 0x80, 0xBF)
    else if n = 0xF4 then some (3, 0x80, 0x8F)
    else none := by
  simp only [leadRange, Bool.and_eq_true, decide_eq_true_eq, beq_iff_eq, le_ofNat_iff h,
    ofNat_le_iff h, ofNat_eq_iff h]
  rfl

/-- A byte within the range is taken. -/
theorem takeTails_cons {n x : Nat} {low high : UInt8} (hx : x < 256) (hlow : low.toNat ≤ x)
    (hhigh : x ≤ high.toNat) (bits : Nat) (bs : List UInt8) :
    takeTails (n + 1) low high bits (UInt8.ofNat x :: bs) =
      ((takeTails n 0x80 0xBF (bits * 64 + x % 64) bs).1,
        (takeTails n 0x80 0xBF (bits * 64 + x % 64) bs).2.1 + 1,
        (takeTails n 0x80 0xBF (bits * 64 + x % 64) bs).2.2) := by
  have hrange : low ≤ UInt8.ofNat x ∧ UInt8.ofNat x ≤ high :=
    ⟨(le_ofNat_iff hx low).2 hlow, (ofNat_le_iff hx high).2 hhigh⟩
  rw [takeTails, if_pos (by simpa using hrange), toNat_ofNat_of_lt hx]

/-! ### The bytes of one character -/

theorem firstChar_one {v : Nat} (h : v < 0x80) (rest : List UInt8) :
    firstChar (UInt8.ofNat v) rest = (Char.ofNat v, 0) := by
  have hsmall : UInt8.ofNat v < 0x80 := by
    rw [UInt8.lt_iff_toNat_lt, toNat_ofNat_of_lt (by omega)]
    exact h
  rw [firstChar, if_pos hsmall, toNat_ofNat_of_lt (by omega)]

/-- A first byte and those that it asks for. -/
theorem firstChar_of_lead {x n bits taken : Nat} {low high : UInt8} {bs : List UInt8}
    (hx : 0x80 ≤ x ∧ x < 256) (hlead : leadRange (UInt8.ofNat x) = some (n, low, high))
    (htails : takeTails n low high (leadBits n (UInt8.ofNat x)) bs = (bits, taken, true)) :
    firstChar (UInt8.ofNat x) bs = (Char.ofNat bits, taken) := by
  have hlarge : ¬ UInt8.ofNat x < 0x80 := by
    rw [UInt8.lt_iff_toNat_lt, toNat_ofNat_of_lt hx.2]
    show ¬ x < 0x80
    omega
  simp only [firstChar, if_neg hlarge, hlead, htails]

theorem takeTails_one {x bits : Nat} {low high : UInt8} (hx : x < 256) (hlow : low.toNat ≤ x)
    (hhigh : x ≤ high.toNat) (rest : List UInt8) :
    takeTails 1 low high bits (UInt8.ofNat x :: rest) = (bits * 64 + x % 64, 1, true) := by
  rw [takeTails_cons hx hlow hhigh, takeTails]

theorem takeTails_two {x y bits : Nat} {low high : UInt8} (hx : x < 256) (hlow : low.toNat ≤ x)
    (hhigh : x ≤ high.toNat) (hy : 0x80 ≤ y ∧ y ≤ 0xBF) (rest : List UInt8) :
    takeTails 2 low high bits (UInt8.ofNat x :: UInt8.ofNat y :: rest) =
      ((bits * 64 + x % 64) * 64 + y % 64, 2, true) := by
  rw [takeTails_cons hx hlow hhigh, takeTails_one (by omega) hy.1 hy.2]

theorem takeTails_three {x y z bits : Nat} {low high : UInt8} (hx : x < 256)
    (hlow : low.toNat ≤ x) (hhigh : x ≤ high.toNat) (hy : 0x80 ≤ y ∧ y ≤ 0xBF)
    (hz : 0x80 ≤ z ∧ z ≤ 0xBF) (rest : List UInt8) :
    takeTails 3 low high bits (UInt8.ofNat x :: UInt8.ofNat y :: UInt8.ofNat z :: rest) =
      (((bits * 64 + x % 64) * 64 + y % 64) * 64 + z % 64, 3, true) := by
  rw [takeTails_cons hx hlow hhigh, takeTails_two (by omega) hy.1 hy.2 hz]

theorem firstChar_two {v : Nat} (hlow : 0x80 ≤ v) (hhigh : v ≤ 0x7FF) (rest : List UInt8) :
    firstChar (UInt8.ofNat (v / 64 % 32 + 0xC0)) (UInt8.ofNat (v % 64 + 0x80) :: rest) =
      (Char.ofNat v, 1) := by
  have hlead : leadRange (UInt8.ofNat (v / 64 % 32 + 0xC0)) = some (1, 0x80, 0xBF) := by
    rw [leadRange_ofNat (by omega), if_pos (by omega)]
  refine firstChar_of_lead (by omega) hlead ?_
  have hbits : (v / 64 % 32 + 0xC0) % 32 * 64 + (v % 64 + 0x80) % 64 = v := by omega
  rw [leadBits, toNat_ofNat_of_lt (by omega), takeTails_one (by omega) ?_ ?_, hbits]
  · show 0x80 ≤ v % 64 + 0x80
    omega
  · show v % 64 + 0x80 ≤ 0xBF
    omega

/-- The range of the second of three bytes leaves out what takes fewer bytes and the surrogates. -/
theorem firstChar_three {v : Nat} (hlow : 0x800 ≤ v) (hhigh : v ≤ 0xFFFF)
    (hvalid : v < 0xD800 ∨ 0xDFFF < v) (rest : List UInt8) :
    firstChar (UInt8.ofNat (v / 4096 % 16 + 0xE0))
      (UInt8.ofNat (v / 64 % 64 + 0x80) :: UInt8.ofNat (v % 64 + 0x80) :: rest) =
        (Char.ofNat v, 2) := by
  obtain ⟨low, high, hlead, hsecond⟩ : ∃ low high : UInt8,
      leadRange (UInt8.ofNat (v / 4096 % 16 + 0xE0)) = some (2, low, high) ∧
        low.toNat ≤ v / 64 % 64 + 0x80 ∧ v / 64 % 64 + 0x80 ≤ high.toNat := by
    rw [leadRange_ofNat (by omega), if_neg (by omega)]
    by_cases hfirst : v / 4096 % 16 + 0xE0 = 0xE0
    · refine ⟨0xA0, 0xBF, by rw [if_pos hfirst], ?_, ?_⟩
      · show 0xA0 ≤ v / 64 % 64 + 0x80
        omega
      · show v / 64 % 64 + 0x80 ≤ 0xBF
        omega
    · rw [if_neg hfirst]
      by_cases hlast : v / 4096 % 16 + 0xE0 = 0xED
      · refine ⟨0x80, 0x9F, by rw [if_pos hlast], ?_, ?_⟩
        · show 0x80 ≤ v / 64 % 64 + 0x80
          omega
        · show v / 64 % 64 + 0x80 ≤ 0x9F
          omega
      · refine ⟨0x80, 0xBF, by rw [if_neg hlast, if_pos (by omega)], ?_, ?_⟩
        · show 0x80 ≤ v / 64 % 64 + 0x80
          omega
        · show v / 64 % 64 + 0x80 ≤ 0xBF
          omega
  refine firstChar_of_lead (by omega) hlead ?_
  have hbits : ((v / 4096 % 16 + 0xE0) % 16 * 64 + (v / 64 % 64 + 0x80) % 64) * 64 +
      (v % 64 + 0x80) % 64 = v := by omega
  rw [leadBits, toNat_ofNat_of_lt (by omega),
    takeTails_two (by omega) hsecond.1 hsecond.2 (by omega), hbits]

/-- The range of the second of four bytes leaves out what takes fewer bytes and what is too large. -/
theorem firstChar_four {v : Nat} (hlow : 0x10000 ≤ v) (hhigh : v ≤ 0x10FFFF) (rest : List UInt8) :
    firstChar (UInt8.ofNat (v / 262144 % 8 + 0xF0))
      (UInt8.ofNat (v / 4096 % 64 + 0x80) :: UInt8.ofNat (v / 64 % 64 + 0x80) ::
        UInt8.ofNat (v % 64 + 0x80) :: rest) = (Char.ofNat v, 3) := by
  obtain ⟨low, high, hlead, hsecond⟩ : ∃ low high : UInt8,
      leadRange (UInt8.ofNat (v / 262144 % 8 + 0xF0)) = some (3, low, high) ∧
        low.toNat ≤ v / 4096 % 64 + 0x80 ∧ v / 4096 % 64 + 0x80 ≤ high.toNat := by
    rw [leadRange_ofNat (by omega), if_neg (by omega), if_neg (by omega), if_neg (by omega),
      if_neg (by omega)]
    by_cases hfirst : v / 262144 % 8 + 0xF0 = 0xF0
    · refine ⟨0x90, 0xBF, by rw [if_pos hfirst], ?_, ?_⟩
      · show 0x90 ≤ v / 4096 % 64 + 0x80
        omega
      · show v / 4096 % 64 + 0x80 ≤ 0xBF
        omega
    · rw [if_neg hfirst]
      by_cases hmiddle : v / 262144 % 8 + 0xF0 ≤ 0xF3
      · refine ⟨0x80, 0xBF, by rw [if_pos (by omega)], ?_, ?_⟩
        · show 0x80 ≤ v / 4096 % 64 + 0x80
          omega
        · show v / 4096 % 64 + 0x80 ≤ 0xBF
          omega
      · refine ⟨0x80, 0x8F, by rw [if_neg (by omega), if_pos (by omega)], ?_, ?_⟩
        · show 0x80 ≤ v / 4096 % 64 + 0x80
          omega
        · show v / 4096 % 64 + 0x80 ≤ 0x8F
          omega
  refine firstChar_of_lead (by omega) hlead ?_
  have hbits : (((v / 262144 % 8 + 0xF0) % 8 * 64 + (v / 4096 % 64 + 0x80) % 64) * 64 +
      (v / 64 % 64 + 0x80) % 64) * 64 + (v % 64 + 0x80) % 64 = v := by omega
  rw [leadBits, toNat_ofNat_of_lt (by omega),
    takeTails_three (by omega) hsecond.1 hsecond.2 (by omega) (by omega), hbits]
  · simp
  · simp

/-- The bytes of a character are read as that character, whatever follows them. -/
theorem firstChar_utf8EncodeChar (c : Char) (rest : List UInt8) :
    ∃ b bs, String.utf8EncodeChar c = b :: bs ∧ firstChar b (bs ++ rest) = (c, bs.length) := by
  have hvalid : c.val.toNat < 0xD800 ∨ 0xDFFF < c.val.toNat ∧ c.val.toNat < 0x110000 := c.valid
  have hchar : Char.ofNat c.val.toNat = c := Char.ofNat_toNat c
  unfold String.utf8EncodeChar
  generalize c.val.toNat = v at hvalid hchar
  rw [← hchar]
  simp only
  by_cases hone : v ≤ 0x7F
  · rw [if_pos hone]
    exact ⟨_, _, rfl, firstChar_one (by omega) _⟩
  · rw [if_neg hone]
    by_cases htwo : v ≤ 0x7FF
    · rw [if_pos htwo]
      exact ⟨_, _, rfl, firstChar_two (by omega) htwo rest⟩
    · rw [if_neg htwo]
      by_cases hthree : v ≤ 0xFFFF
      · rw [if_pos hthree]
        exact ⟨_, _, rfl, firstChar_three (by omega) hthree (by omega) rest⟩
      · rw [if_neg hthree]
        exact ⟨_, _, rfl, firstChar_four (by omega) (by omega) rest⟩

/-! ### The bytes of a text -/

theorem bytesOf_cons (c : Char) (cs : List Char) :
    bytesOf (c :: cs) = String.utf8EncodeChar c ++ bytesOf cs := rfl

/-- The bytes of a text are read as that text. -/
theorem decodeBytes_bytesOf (cs : List Char) : decodeBytes (bytesOf cs) = cs := by
  induction cs with
  | nil => rw [bytesOf, List.flatMap_nil, decodeBytes]
  | cons c cs ih =>
    obtain ⟨b, bs, hbytes, hfirst⟩ := firstChar_utf8EncodeChar c (bytesOf cs)
    rw [bytesOf_cons, hbytes, List.cons_append, decodeBytes, hfirst, List.drop_left, ih]

theorem textOfBytes_bytesOf (s : String) : textOfBytes (bytesOf s.toList) = s := by
  rw [textOfBytes, decodeBytes_bytesOf, String.ofList_toList]

end Compliance.Text
