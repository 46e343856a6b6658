import CheckedText.Proofs.InvalidCharacter

/-!
# Why an identifier is refused

The characters are looked at first, then the number of symbols, then the checksum. In terms of the
bit string that the symbols write, the checksum is the number in the first 32 bits, and what it
protects are the whole bytes after them; seven symbols are the least that reach so far.
-/

namespace CheckedText

theorem Bits.value_append (a b : Bits) : value (a ++ b) = value a * 2 ^ b.length + value b := by
  induction a with
  | nil => simp [value]
  | cons x a ih =>
    rw [List.cons_append, value, ih, value, List.length_append, Nat.pow_add, Nat.add_mul,
      Nat.mul_assoc, Nat.add_assoc]

namespace Identifier

open Base32 (Symbol Legible spelling blobBits symbolBits)

/-- The number in the first 32 bits of a bit string, and the blob of the whole bytes that follow. -/
structure Holds (bits : Bits) (expected : UInt32) (payload : Blob) : Prop where
  long : 32 ≤ bits.length
  expected : expected.toNat = Bits.value (bits.take 32)
  payload : blobBits payload = (bits.drop 32).take (8 * ((bits.length - 32) / 8))

theorem holds_take_iff {bits : Bits} {expected : UInt32} {payload : Blob} :
    Holds (bits.take (8 * (bits.length / 8))) expected payload ↔ Holds bits expected payload := by
  by_cases hlong : 32 ≤ bits.length
  · have hwhole : (bits.take (8 * (bits.length / 8))).length = 8 * (bits.length / 8) :=
      List.length_take_of_le (Nat.mul_div_le _ _)
    have hcount : 8 * ((8 * (bits.length / 8) - 32) / 8) = 8 * ((bits.length - 32) / 8) := by
      omega
    have htake : (bits.take (8 * (bits.length / 8))).take 32 = bits.take 32 := by
      rw [List.take_take, Nat.min_eq_left (by omega)]
    have hdrop : ((bits.take (8 * (bits.length / 8))).drop 32).take (8 * ((bits.length - 32) / 8)) =
        (bits.drop 32).take (8 * ((bits.length - 32) / 8)) := by
      rw [List.drop_take, List.take_take, Nat.min_eq_left (by omega)]
    constructor
    · rintro ⟨-, hexpected, hpayload⟩
      rw [hwhole, hcount, hdrop] at hpayload
      exact ⟨hlong, htake ▸ hexpected, hpayload⟩
    · rintro ⟨-, hexpected, hpayload⟩
      refine ⟨by omega, htake ▸ hexpected, ?_⟩
      rw [hwhole, hcount, hdrop, hpayload]
  · constructor
    · rintro ⟨h, -, -⟩
      rw [List.length_take] at h
      omega
    · intro h
      exact absurd h.long hlong

theorem holds_bytes_iff {vs : List Symbol} {expected : UInt32} {payload : Blob} :
    Holds (blobBits (Base32.bytes vs)) expected payload ↔
      Holds (symbolBits vs) expected payload := by
  rw [Base32.blobBits_bytes, ← Base32.length_symbolBits]
  exact holds_take_iff

theorem toNat_ofBytes_eq_value (a b c d : UInt8) :
    (Crc32.ofBytes a b c d).toNat = Bits.value (blobBits [a, b, c, d]) := by
  have hbyte (x : UInt8) : Bits.value (Bits.ofNat 8 x.toNat) = x.toNat :=
    Bits.value_ofNat_of_lt x.toNat_lt
  simp only [blobBits, List.flatMap_cons, List.flatMap_nil, Bits.value_append, hbyte,
    List.length_append, Bits.length_ofNat, List.length_nil, Bits.value]
  rw [Crc32.toNat_ofBytes]
  omega

theorem split_cases (raw : Blob) :
    (raw.length < 4 ∧ split raw = .error (.truncated raw.length 4)) ∨
      ∃ a b c d rest, raw = a :: b :: c :: d :: rest ∧
        split raw = .ok (Crc32.ofBytes a b c d, rest) := by
  match raw with
  | a :: b :: c :: d :: rest => exact .inr ⟨a, b, c, d, rest, rfl, rfl⟩
  | [] | [_] | [_, _] | [_, _, _] => exact .inl ⟨by simp, rfl⟩

theorem split_eq_ok_iff {raw payload : Blob} {expected : UInt32} :
    split raw = .ok (expected, payload) ↔ Holds (blobBits raw) expected payload := by
  rcases split_cases raw with ⟨hshort, hsplit⟩ | ⟨a, b, c, d, rest, rfl, hsplit⟩
  · rw [hsplit]
    constructor
    · intro h
      cases h
    · intro h
      have hlong := h.long
      rw [Base32.length_blobBits] at hlong
      omega
  · have hbits : blobBits (a :: b :: c :: d :: rest) = blobBits [a, b, c, d] ++ blobBits rest :=
      Base32.blobBits_append [a, b, c, d] rest
    have hfront : (blobBits [a, b, c, d]).length = 32 := Base32.length_blobBits _
    have hrest : ((blobBits [a, b, c, d] ++ blobBits rest).length - 32) / 8 = rest.length := by
      rw [List.length_append, hfront, Base32.length_blobBits]
      omega
    rw [hsplit]
    constructor
    · intro h
      cases h
      refine ⟨by simp; omega, ?_, ?_⟩
      · rw [hbits, List.take_left' hfront, toNat_ofBytes_eq_value]
      · rw [hbits, List.drop_left' hfront, hrest, ← Base32.length_blobBits, List.take_length]
    · rintro ⟨-, hexpected, hpayload⟩
      rw [hbits, List.take_left' hfront, ← toNat_ofBytes_eq_value] at hexpected
      rw [hbits, List.drop_left' hfront, hrest, ← Base32.length_blobBits, List.take_length]
        at hpayload
      rw [UInt32.toNat_inj.mp hexpected, Base32.blobBits_injective hpayload]

theorem decode_eq_character_iff_firstAt {t : Text} {i : Nat} {c : Char} :
    decode t = .error (.character ⟨c, i⟩) ↔ FirstAt (¬ Legible ·) t i c := by
  rw [decode_eq_character_iff, ← Base32.readSymbols_eq_error_iff]
  exact Except.map_eq_error_iff

theorem verify_of_split {raw payload : Blob} {expected : UInt32}
    (h : split raw = .ok (expected, payload)) :
    verify raw = if expected = Crc32.checksum payload then .ok payload
      else .error (.mismatch expected (Crc32.checksum payload)) := by
  rw [verify, h]
  rfl

theorem verify_of_short {raw : Blob} (h : raw.length < 4) :
    verify raw = .error (.truncated raw.length 4) := by
  rcases split_cases raw with ⟨-, hsplit⟩ | ⟨a, b, c, d, rest, rfl, -⟩
  · rw [verify, hsplit]
    rfl
  · simp only [List.length_cons] at h
    omega

theorem exists_split {raw : Blob} (h : 4 ≤ raw.length) :
    ∃ expected payload, split raw = .ok (expected, payload) := by
  rcases split_cases raw with ⟨hshort, -⟩ | ⟨a, b, c, d, rest, -, hsplit⟩
  · omega
  · exact ⟨_, rest, hsplit⟩

theorem verify_eq_truncated_iff {raw : Blob} {length required : Nat} :
    verify raw = .error (.truncated length required) ↔
      raw.length < 4 ∧ length = raw.length ∧ required = 4 := by
  by_cases hshort : raw.length < 4
  · rw [verify_of_short hshort]
    simp [hshort, eq_comm]
  · obtain ⟨expected, payload, hsplit⟩ := exists_split (Nat.le_of_not_lt hshort)
    rw [verify_of_split hsplit]
    split <;> simp [hshort]

theorem verify_eq_mismatch_iff {raw : Blob} {expected actual : UInt32} :
    verify raw = .error (.mismatch expected actual) ↔
      expected ≠ actual ∧
        ∃ payload, split raw = .ok (expected, payload) ∧ actual = Crc32.checksum payload := by
  constructor
  · intro h
    by_cases hshort : raw.length < 4
    · rw [verify_of_short hshort] at h
      cases h
    · obtain ⟨found, payload, hsplit⟩ := exists_split (Nat.le_of_not_lt hshort)
      rw [verify_of_split hsplit] at h
      split at h
      case isTrue => cases h
      case isFalse hne =>
        cases h
        exact ⟨hne, payload, hsplit, rfl⟩
  · rintro ⟨hne, payload, hsplit, rfl⟩
    rw [verify_of_split hsplit, if_neg hne]

theorem verify_eq_ok_iff_split {raw payload : Blob} :
    verify raw = .ok payload ↔ split raw = .ok (Crc32.checksum payload, payload) := by
  constructor
  · intro h
    rw [verify_eq_ok_iff.mp h]
    have hread : Crc32.ofBytes _ _ _ _ = Crc32.checksum payload := Crc32.toBytes_eq_iff.mp rfl
    exact congrArg (fun r => Except.ok (r, payload)) hread
  · intro h
    rw [verify_of_split h, if_pos rfl]

/-- The characters have all been looked at before anything else can be wrong. -/
theorem decode_eq_iff_verify {t : Text} {r : Except Fault Blob}
    (hr : ∀ e, r ≠ .error (.character e)) :
    decode t = r ↔
      ∃ vs, spelling t = vs.map Symbol.char ∧ verify (Base32.bytes vs) = r := by
  constructor
  · intro h
    rcases Base32.spelled_or_firstAt t with ⟨vs, hvs⟩ | ⟨i, c, hfirst⟩
    · exact ⟨vs, hvs, decode_of_spelling hvs ▸ h⟩
    · exact absurd (h.symm.trans (decode_eq_character_iff_firstAt.mpr hfirst)) (hr _)
  · rintro ⟨vs, hvs, h⟩
    rw [decode_of_spelling hvs, h]

/-- The checksum and the blob that the symbols of a text write. -/
def Carries (t : Text) (expected : UInt32) (payload : Blob) : Prop :=
  ∃ vs, spelling t = vs.map Symbol.char ∧ Holds (symbolBits vs) expected payload

theorem carries_iff_split {t : Text} {expected : UInt32} {payload : Blob} :
    Carries t expected payload ↔
      ∃ vs, spelling t = vs.map Symbol.char ∧
        split (Base32.bytes vs) = .ok (expected, payload) := by
  simp only [Carries, split_eq_ok_iff, holds_bytes_iff]

theorem exists_carries_iff {t : Text} :
    (∃ expected payload, Carries t expected payload) ↔
      (∀ c ∈ t, Legible c) ∧ 6 < (spelling t).length := by
  constructor
  · rintro ⟨expected, payload, vs, hvs, hholds⟩
    have hlong := hholds.long
    rw [Base32.length_symbolBits] at hlong
    refine ⟨Base32.exists_spelling_iff_legible.mp ⟨vs, hvs⟩, ?_⟩
    rw [hvs, List.length_map]
    omega
  · rintro ⟨hall, hlong⟩
    obtain ⟨vs, hvs⟩ := Base32.exists_spelling_iff_legible.mpr hall
    rw [hvs, List.length_map] at hlong
    obtain ⟨expected, payload, hsplit⟩ : ∃ expected payload, split (Base32.bytes vs) = _ :=
      exists_split (by rw [Base32.length_bytes]; omega)
    exact ⟨expected, payload, carries_iff_split.mpr ⟨vs, hvs, hsplit⟩⟩

theorem decode_eq_truncated_iff {t : Text} {length required : Nat} :
    decode t = .error (.truncated length required) ↔
      (∀ c ∈ t, Legible c) ∧ (spelling t).length ≤ 6 ∧
        length = 5 * (spelling t).length / 8 ∧ required = 4 := by
  rw [decode_eq_iff_verify (by simp), ← Base32.exists_spelling_iff_legible]
  constructor
  · rintro ⟨vs, hvs, h⟩
    obtain ⟨hshort, hlength, hrequired⟩ := verify_eq_truncated_iff.mp h
    rw [Base32.length_bytes] at hshort hlength
    refine ⟨⟨vs, hvs⟩, ?_⟩
    rw [hvs, List.length_map]
    exact ⟨by omega, hlength, hrequired⟩
  · rintro ⟨⟨vs, hvs⟩, hfew, hlength, hrequired⟩
    rw [hvs, List.length_map] at hfew hlength
    refine ⟨vs, hvs, verify_eq_truncated_iff.mpr ?_⟩
    rw [Base32.length_bytes]
    exact ⟨by omega, hlength, hrequired⟩

theorem decode_eq_mismatch_iff {t : Text} {expected actual : UInt32} :
    decode t = .error (.mismatch expected actual) ↔
      expected ≠ actual ∧
        ∃ payload, Carries t expected payload ∧ actual = Crc32.checksum payload := by
  rw [decode_eq_iff_verify (by simp)]
  simp only [verify_eq_mismatch_iff, carries_iff_split]
  constructor
  · rintro ⟨vs, hvs, hne, payload, hsplit, hactual⟩
    exact ⟨hne, payload, ⟨vs, hvs, hsplit⟩, hactual⟩
  · rintro ⟨hne, payload, ⟨vs, hvs, hsplit⟩, hactual⟩
    exact ⟨vs, hvs, hne, payload, hsplit, hactual⟩

theorem decode_eq_ok_iff_carries {t : Text} {payload : Blob} :
    decode t = .ok payload ↔ Carries t (Crc32.checksum payload) payload := by
  rw [decode_eq_iff_verify (by simp)]
  simp only [verify_eq_ok_iff_split, carries_iff_split]

/-- What decoding gives for any text: the first character that cannot be read is reported whatever
else is wrong, then too few symbols are, then a checksum that is not that of the blob. -/
theorem decode_outcomes (t : Text) :
    ((∃ e, decode t = .error (.character e)) ↔ ∃ c ∈ t, ¬ Legible c) ∧
    (∀ i c, decode t = .error (.character ⟨c, i⟩) ↔ FirstAt (¬ Legible ·) t i c) ∧
    (∀ length required, decode t = .error (.truncated length required) ↔
      (∀ c ∈ t, Legible c) ∧ (spelling t).length ≤ 6 ∧
        length = 5 * (spelling t).length / 8 ∧ required = 4) ∧
    ((∃ expected payload, Carries t expected payload) ↔
      (∀ c ∈ t, Legible c) ∧ 6 < (spelling t).length) ∧
    (∀ expected actual, decode t = .error (.mismatch expected actual) ↔
      expected ≠ actual ∧
        ∃ payload, Carries t expected payload ∧ actual = Crc32.checksum payload) ∧
    ∀ payload, decode t = .ok payload ↔ Carries t (Crc32.checksum payload) payload := by
  refine ⟨?_, fun i c => decode_eq_character_iff_firstAt, fun length required =>
    decode_eq_truncated_iff, exists_carries_iff, fun expected actual => decode_eq_mismatch_iff,
    fun payload => decode_eq_ok_iff_carries⟩
  constructor
  · rintro ⟨⟨c, i⟩, h⟩
    obtain ⟨before, after, rfl, -, hc, -⟩ :=
      firstAt_iff_append.mp (decode_eq_character_iff_firstAt.mp h)
    exact ⟨c, by simp, hc⟩
  · intro h
    obtain ⟨i, c, hfirst⟩ := exists_firstAt h
    exact ⟨_, decode_eq_character_iff_firstAt.mpr hfirst⟩

end Identifier

end CheckedText
