import Compliance.Http.Percent
import Compliance.Proofs.Text.Pieces
import Compliance.Proofs.Text.Utf8

/-!
Reading back a form. What stands for a byte is read as that byte, whatever follows it, and it holds
neither of the signs that divide a form; so the pairs of a form are found again, whatever text they
are made of.
-/

namespace Compliance.Http

/-! ### One byte -/

theorem hexValue?_upperHex : ∀ n < 16, hexValue? (upperHex n) = some n := by decide

/-- The digits are neither signs of a form nor what stands for a space. -/
theorem upperHex_ne : ∀ n < 16, upperHex n ≠ '&' ∧ upperHex n ≠ '=' ∧ upperHex n ≠ '+' := by
  decide

theorem toNat_ofNat_of_ascii {n : Nat} (h : n < 0x80) : (Char.ofNat n).toNat = n := by
  have hvalid : n.isValidChar := .inl (by omega)
  rw [Char.ofNat, dif_pos hvalid]
  rfl

/-- An ASCII character has itself as its only byte. -/
theorem bytesOf_ofNat {n : Nat} (h : n < 0x80) : Text.bytesOf [Char.ofNat n] = [UInt8.ofNat n] := by
  have hvalue : (Char.ofNat n).val.toNat = n := toNat_ofNat_of_ascii h
  rw [Text.bytesOf, List.flatMap_cons, List.flatMap_nil, List.append_nil, String.utf8EncodeChar]
  simp only [hvalue]
  rw [if_pos (by omega)]

/-- A character that is no percent sign stands for its own bytes. -/
theorem percentBytes_cons {c : Char} (h : c ≠ '%') (rest : List Char) :
    percentBytes (c :: rest) = Text.bytesOf [c] ++ percentBytes rest := by
  rw [percentBytes]
  rintro a b more rfl
  exact absurd rfl h

theorem percentBytes_percentByte (b : UInt8) (rest : List Char) :
    percentBytes (percentByte b ++ rest) = b :: percentBytes rest := by
  have hb : b.toNat < 256 := b.toNat_lt
  have hhigh : hexValue? (upperHex (b.toNat / 16)) = some (b.toNat / 16) :=
    hexValue?_upperHex _ (by omega)
  have hlow : hexValue? (upperHex (b.toNat % 16)) = some (b.toNat % 16) :=
    hexValue?_upperHex _ (by omega)
  have hsum : UInt8.ofNat (16 * (b.toNat / 16) + b.toNat % 16) = b := by
    rw [Nat.div_add_mod, UInt8.ofNat_toNat]
  show percentBytes ('%' :: upperHex (b.toNat / 16) :: upperHex (b.toNat % 16) :: rest) = _
  rw [percentBytes]
  simp only [hhigh, hlow, hsum]

namespace Form

def fromPlus (c : Char) : Char := if c = '+' then ' ' else c

/-- A byte that stands for itself is ASCII, and none of the signs of a form. -/
theorem ne_of_isKept {b : UInt8} (h : isKept b = true) : b.toNat < 0x80 ∧ b.toNat ≠ 0x25 ∧
    b.toNat ≠ 0x26 ∧ b.toNat ≠ 0x2B ∧ b.toNat ≠ 0x3D := by
  have hrange : (0x30 ≤ b.toNat ∧ b.toNat ≤ 0x39) ∨ (0x41 ≤ b.toNat ∧ b.toNat ≤ 0x5A) ∨
      (0x61 ≤ b.toNat ∧ b.toNat ≤ 0x7A) ∨ b.toNat = 0x2A ∨ b.toNat = 0x2D ∨ b.toNat = 0x2E ∨
        b.toNat = 0x5F := by
    simpa [isKept, isAlphanumeric, UInt8.le_iff_toNat_le, ← UInt8.toNat_inj, or_assoc] using h
  omega

/-- A byte that stands for itself, as a character. -/
theorem char_ne_of_isKept {b : UInt8} (h : isKept b = true) {c : Char}
    (hc : c = '%' ∨ c = '&' ∨ c = '+' ∨ c = '=') : Char.ofNat b.toNat ≠ c := by
  obtain ⟨hascii, hpercent, hand, hplus, hequals⟩ := ne_of_isKept h
  intro heq
  have hnat : b.toNat = c.toNat := by rw [← heq, toNat_ofNat_of_ascii hascii]
  rcases hc with rfl | rfl | rfl | rfl
  · exact hpercent hnat
  · exact hand hnat
  · exact hplus hnat
  · exact hequals hnat

/-- What stands for a byte is read as that byte, whatever follows it. -/
theorem percentBytes_encodeByte (b : UInt8) (rest : List Char) :
    percentBytes ((encodeByte b).map fromPlus ++ rest) = b :: percentBytes rest := by
  unfold encodeByte
  by_cases hspace : b = 0x20
  · rw [if_pos hspace, hspace]
    show percentBytes (' ' :: rest) = _
    rw [percentBytes_cons (by decide)]
    rfl
  · rw [if_neg hspace]
    by_cases hkept : isKept b = true
    · have hplus : Char.ofNat b.toNat ≠ '+' := char_ne_of_isKept hkept (by simp)
      have hpercent : Char.ofNat b.toNat ≠ '%' := char_ne_of_isKept hkept (by simp)
      rw [if_pos hkept, List.map_singleton, fromPlus, if_neg hplus, List.singleton_append,
        percentBytes_cons hpercent, bytesOf_ofNat (ne_of_isKept hkept).1, UInt8.ofNat_toNat]
      rfl
    · have hb : b.toNat < 256 := b.toNat_lt
      have hsame : (percentByte b).map fromPlus = percentByte b := by
        have hhigh : upperHex (b.toNat / 16) ≠ '+' := (upperHex_ne _ (by omega)).2.2
        have hlow : upperHex (b.toNat % 16) ≠ '+' := (upperHex_ne _ (by omega)).2.2
        simp [percentByte, fromPlus, hhigh, hlow]
      rw [if_neg hkept, hsame, percentBytes_percentByte]

/-- Nothing that stands for a byte divides a form. -/
theorem ne_of_mem_encodeByte {b : UInt8} {c : Char} (h : c ∈ encodeByte b) :
    c ≠ '&' ∧ c ≠ '=' := by
  unfold encodeByte at h
  by_cases hspace : b = 0x20
  · rw [if_pos hspace] at h
    obtain rfl := List.mem_singleton.1 h
    decide
  · rw [if_neg hspace] at h
    by_cases hkept : isKept b = true
    · rw [if_pos hkept] at h
      obtain rfl := List.mem_singleton.1 h
      exact ⟨char_ne_of_isKept hkept (by simp), char_ne_of_isKept hkept (by simp)⟩
    · have hb : b.toNat < 256 := b.toNat_lt
      have hhigh := upperHex_ne (b.toNat / 16) (by omega)
      have hlow := upperHex_ne (b.toNat % 16) (by omega)
      rw [if_neg hkept] at h
      simp only [percentByte, List.mem_cons, List.not_mem_nil, or_false] at h
      rcases h with rfl | rfl | rfl
      · decide
      · exact ⟨hhigh.1, hhigh.2.1⟩
      · exact ⟨hlow.1, hlow.2.1⟩

/-! ### Texts and pairs -/

theorem percentBytes_encoded (bs : List UInt8) :
    percentBytes ((bs.flatMap encodeByte).map fromPlus) = bs := by
  induction bs with
  | nil => rw [List.flatMap_nil, List.map_nil, percentBytes]
  | cons b bs ih => rw [List.flatMap_cons, List.map_append, percentBytes_encodeByte, ih]

/-- A text is read as it was before it was written into a form. -/
theorem decodeText_encodeText (s : String) : decodeText (encodeText s) = s := by
  show Text.textOfBytes (percentBytes ((encodeText s).map fromPlus)) = s
  rw [encodeText, percentBytes_encoded, Text.textOfBytes_bytesOf]

theorem ne_of_mem_encodeText {s : String} {c : Char} (h : c ∈ encodeText s) :
    c ≠ '&' ∧ c ≠ '=' := by
  obtain ⟨b, _, hc⟩ := List.mem_flatMap.1 h
  exact ne_of_mem_encodeByte hc

theorem decodePair_encodePair (p : String × String) : decodePair (encodePair p) = p := by
  have hname : ∀ c ∈ encodeText p.1, decide (c ≠ '=') = true := fun c hc =>
    decide_eq_true (ne_of_mem_encodeText hc).2
  have htake : (encodePair p).takeWhile (fun c => decide (c ≠ '=')) = encodeText p.1 := by
    rw [encodePair, List.takeWhile_append_of_pos hname]
    simp
  have hdrop : (encodePair p).dropWhile (fun c => decide (c ≠ '=')) =
      '=' :: encodeText p.2 := by
    rw [encodePair, List.dropWhile_append_of_pos hname]
    simp
  rw [decodePair, htake, hdrop, List.drop_succ_cons, List.drop_zero, decodeText_encodeText,
    decodeText_encodeText]

theorem ne_of_mem_encodePair {p : String × String} {c : Char} (h : c ∈ encodePair p) :
    c ≠ '&' := by
  rcases List.mem_append.1 h with h | h
  · exact (ne_of_mem_encodeText h).1
  · rcases List.mem_cons.1 h with rfl | h
    · decide
    · exact (ne_of_mem_encodeText h).1

/-- The pairs of a form are read as they were before they were written. -/
theorem decode_encode (pairs : List (String × String)) : decode (encode pairs) = pairs := by
  have hpieces : (Text.pieces (· == '&') (encode pairs).toList).filter (· ≠ []) =
      pairs.map encodePair := by
    rw [encode, String.toList_ofList]
    by_cases hnone : pairs = []
    · rw [hnone]
      rfl
    · have hsome : pairs.map encodePair ≠ [] := fun h => hnone (List.map_eq_nil_iff.1 h)
      rw [Text.pieces_intercalate (by rfl) hsome]
      · -- No piece is empty, since each holds an equals sign.
        refine List.filter_eq_self.2 fun cs hcs => ?_
        obtain ⟨p, _, rfl⟩ := List.mem_map.1 hcs
        simp [encodePair]
      · intro cs hcs c hc
        obtain ⟨p, _, rfl⟩ := List.mem_map.1 hcs
        simpa using ne_of_mem_encodePair hc
  rw [decode, hpieces, List.map_map]
  calc
    pairs.map (decodePair ∘ encodePair) = pairs.map id :=
      List.map_congr_left fun p _ => decodePair_encodePair p
    _ = pairs := List.map_id pairs

end Form

end Compliance.Http
