import CheckedText.Text.Bytes

/-!
# Reading back UTF-8

What a text becomes as bytes is read back as the same text. The bounds that the first byte puts on
the second one hold for every character, since a character is no surrogate and no larger than the
last code point.
-/

namespace CheckedText.Utf8

theorem toNat_ofNat {n : Nat} (h : n < 256) : (UInt8.ofNat n).toNat = n :=
  UInt8.toNat_ofNat_of_lt' h

theorem not_lt_of_toNat_le {a b : UInt8} (h : a.toNat ≤ b.toNat) : ¬ b < a :=
  UInt8.not_lt.mpr (UInt8.le_iff_toNat_le.mpr h)

theorem lead?_two {b : UInt8} (hlow : 0xC2 ≤ b.toNat) (hhigh : b.toNat < 0xE0) :
    lead? b = some ⟨b, 1, b.toNat % 32, 1, 0x80, 0xBF⟩ := by
  rw [lead?, if_neg, if_pos]
  · exact UInt8.lt_iff_toNat_lt.mpr hhigh
  · exact not_lt_of_toNat_le hlow

theorem lead?_three {b : UInt8} (hlow : 0xE0 ≤ b.toNat) (hhigh : b.toNat < 0xF0) :
    lead? b = some ⟨b, 1, b.toNat % 16, 2, if b = 0xE0 then 0xA0 else 0x80,
      if b = 0xED then 0x9F else 0xBF⟩ := by
  rw [lead?, if_neg, if_neg, if_pos]
  · exact UInt8.lt_iff_toNat_lt.mpr hhigh
  · exact not_lt_of_toNat_le hlow
  · exact not_lt_of_toNat_le (Nat.le_trans (by decide) hlow)

theorem lead?_four {b : UInt8} (hlow : 0xF0 ≤ b.toNat) (hhigh : b.toNat < 0xF5) :
    lead? b = some ⟨b, 1, b.toNat % 8, 3, if b = 0xF0 then 0x90 else 0x80,
      if b = 0xF4 then 0x8F else 0xBF⟩ := by
  rw [lead?, if_neg, if_neg, if_neg, if_pos]
  · exact UInt8.lt_iff_toNat_lt.mpr hhigh
  · exact not_lt_of_toNat_le hlow
  · exact not_lt_of_toNat_le (Nat.le_trans (by decide) hlow)
  · exact not_lt_of_toNat_le (Nat.le_trans (by decide) hlow)

theorem decodeFrom_ascii (start : Nat) {b : UInt8} (h : b.toNat < 0x80) (rest : Blob) :
    decodeFrom start none (b :: rest) =
      (decodeFrom (start + 1) none rest).map (Char.ofNat b.toNat :: ·) := by
  rw [decodeFrom, if_pos]
  exact UInt8.lt_iff_toNat_lt.mpr h

theorem decodeFrom_lead (start : Nat) {b : UInt8} {p : Part} (h : 0x80 ≤ b.toNat)
    (hp : lead? b = some p) (rest : Blob) :
    decodeFrom start none (b :: rest) = decodeFrom start (some p) rest := by
  rw [decodeFrom, if_neg, hp]
  exact not_lt_of_toNat_le h

def Part.Takes (p : Part) (b : UInt8) : Prop :=
  p.low.toNat ≤ b.toNat ∧ b.toNat ≤ p.high.toNat

theorem Part.takes_iff {p : Part} {b : UInt8} :
    (p.low ≤ b && b ≤ p.high) = true ↔ p.Takes b := by
  simp [Part.Takes, UInt8.le_iff_toNat_le]

theorem decodeFrom_more (start : Nat) {p : Part} {b : UInt8} (hb : p.Takes b)
    (h : 1 < p.needed) (rest : Blob) :
    decodeFrom start (some p) (b :: rest) = decodeFrom start (some (p.extend b)) rest := by
  have hneeded : ¬ (p.extend b).needed = 0 := by simp only [Part.extend]; omega
  rw [decodeFrom, if_pos (Part.takes_iff.mpr hb), if_neg hneeded]

theorem decodeFrom_last (start : Nat) {p : Part} {b : UInt8} (hb : p.Takes b)
    (h : p.needed = 1) (rest : Blob) :
    decodeFrom start (some p) (b :: rest) =
      (decodeFrom (start + (p.length + 1)) none rest).map
        (Char.ofNat (p.value * 64 + b.toNat % 64) :: ·) := by
  have hneeded : (p.extend b).needed = 0 := by simp only [Part.extend]; omega
  rw [decodeFrom, if_pos (Part.takes_iff.mpr hb), if_pos hneeded]
  rfl

theorem decodeFrom_two (start : Nat) {b₁ b₂ : UInt8} (hlow : 0xC2 ≤ b₁.toNat)
    (hhigh : b₁.toNat < 0xE0) (h₂ : 0x80 ≤ b₂.toNat ∧ b₂.toNat ≤ 0xBF) (rest : Blob) :
    decodeFrom start none (b₁ :: b₂ :: rest) =
      (decodeFrom (start + 2) none rest).map
        (Char.ofNat (b₁.toNat % 32 * 64 + b₂.toNat % 64) :: ·) := by
  rw [decodeFrom_lead start (by omega) (lead?_two hlow hhigh)]
  refine decodeFrom_last start ?_ rfl rest
  exact h₂

theorem decodeFrom_three (start : Nat) {b₁ b₂ b₃ : UInt8} (hlow : 0xE0 ≤ b₁.toNat)
    (hhigh : b₁.toNat < 0xF0) (h₂ : 0x80 ≤ b₂.toNat ∧ b₂.toNat ≤ 0xBF)
    (hshort : b₁.toNat = 0xE0 → 0xA0 ≤ b₂.toNat) (hsurrogate : b₁.toNat = 0xED → b₂.toNat ≤ 0x9F)
    (h₃ : 0x80 ≤ b₃.toNat ∧ b₃.toNat ≤ 0xBF) (rest : Blob) :
    decodeFrom start none (b₁ :: b₂ :: b₃ :: rest) =
      (decodeFrom (start + 3) none rest).map
        (Char.ofNat ((b₁.toNat % 16 * 64 + b₂.toNat % 64) * 64 + b₃.toNat % 64) :: ·) := by
  rw [decodeFrom_lead start (by omega) (lead?_three hlow hhigh), decodeFrom_more start]
  · refine decodeFrom_last start ?_ rfl rest
    exact h₃
  · constructor
    · show (if b₁ = 0xE0 then (0xA0 : UInt8) else 0x80).toNat ≤ b₂.toNat
      split
      case isTrue h => exact hshort (congrArg UInt8.toNat h)
      case isFalse => exact h₂.1
    · show b₂.toNat ≤ (if b₁ = 0xED then (0x9F : UInt8) else 0xBF).toNat
      split
      case isTrue h => exact hsurrogate (congrArg UInt8.toNat h)
      case isFalse => exact h₂.2
  · exact Nat.lt_succ_self 1

theorem decodeFrom_four (start : Nat) {b₁ b₂ b₃ b₄ : UInt8} (hlow : 0xF0 ≤ b₁.toNat)
    (hhigh : b₁.toNat < 0xF5) (h₂ : 0x80 ≤ b₂.toNat ∧ b₂.toNat ≤ 0xBF)
    (hshort : b₁.toNat = 0xF0 → 0x90 ≤ b₂.toNat) (hpast : b₁.toNat = 0xF4 → b₂.toNat ≤ 0x8F)
    (h₃ : 0x80 ≤ b₃.toNat ∧ b₃.toNat ≤ 0xBF) (h₄ : 0x80 ≤ b₄.toNat ∧ b₄.toNat ≤ 0xBF)
    (rest : Blob) :
    decodeFrom start none (b₁ :: b₂ :: b₃ :: b₄ :: rest) =
      (decodeFrom (start + 4) none rest).map
        (Char.ofNat (((b₁.toNat % 8 * 64 + b₂.toNat % 64) * 64 + b₃.toNat % 64) * 64
          + b₄.toNat % 64) :: ·) := by
  rw [decodeFrom_lead start (by omega) (lead?_four hlow hhigh), decodeFrom_more start,
    decodeFrom_more start]
  · refine decodeFrom_last start ?_ rfl rest
    exact h₄
  · exact h₃
  · exact Nat.lt_succ_self 1
  · constructor
    · show (if b₁ = 0xF0 then (0x90 : UInt8) else 0x80).toNat ≤ b₂.toNat
      split
      case isTrue h => exact hshort (congrArg UInt8.toNat h)
      case isFalse => exact h₂.1
    · show b₂.toNat ≤ (if b₁ = 0xF4 then (0x8F : UInt8) else 0xBF).toNat
      split
      case isTrue h => exact hpast (congrArg UInt8.toNat h)
      case isFalse => exact h₂.2
  · exact Nat.lt_succ_of_lt (Nat.lt_succ_self 1)

theorem toNat_valid (c : Char) : c.toNat < 0xD800 ∨ 0xDFFF < c.toNat ∧ c.toNat < 0x110000 :=
  c.valid

theorem ofNat_eq_of_toNat_eq {n : Nat} {c : Char} (h : n = c.toNat) : Char.ofNat n = c := by
  rw [h, Char.ofNat_toNat]

theorem decodeFrom_encodeChar (start : Nat) (c : Char) (rest : Blob) :
    decodeFrom start none (String.utf8EncodeChar c ++ rest) =
      (decodeFrom (start + (String.utf8EncodeChar c).length) none rest).map (c :: ·) := by
  have hvalid := toNat_valid c
  have htail (n : Nat) := toNat_ofNat (n := n % 0x40 + 0x80) (by omega)
  fun_cases String.utf8EncodeChar c with
  | case1 v h =>
    have hv : v = c.toNat := rfl
    clear_value v
    subst hv
    have hb := toNat_ofNat (n := c.toNat) (by omega)
    rw [List.cons_append, decodeFrom_ascii start (by omega), hb, ofNat_eq_of_toNat_eq rfl]
    rfl
  | case2 v h₁ h₂ =>
    have hv : v = c.toNat := rfl
    clear_value v
    subst hv
    have hb := toNat_ofNat (n := c.toNat / 64 % 0x20 + 0xc0) (by omega)
    have ht := htail c.toNat
    refine (decodeFrom_two start (by omega) (by omega) (by omega) rest).trans ?_
    rw [ofNat_eq_of_toNat_eq (c := c) (by omega)]
    rfl
  | case3 v h₁ h₂ h₃ =>
    have hv : v = c.toNat := rfl
    clear_value v
    subst hv
    have hb := toNat_ofNat (n := c.toNat / 4096 % 0x10 + 0xe0) (by omega)
    have ht₁ := htail (c.toNat / 64)
    have ht₂ := htail c.toNat
    refine (decodeFrom_three start (by omega) (by omega) (by omega) (by omega) (by omega) (by omega)
      rest).trans ?_
    rw [ofNat_eq_of_toNat_eq (c := c) (by omega)]
    rfl
  | case4 v h₁ h₂ h₃ =>
    have hv : v = c.toNat := rfl
    clear_value v
    subst hv
    have hb := toNat_ofNat (n := c.toNat / 262144 % 0x08 + 0xf0) (by omega)
    have ht₁ := htail (c.toNat / 4096)
    have ht₂ := htail (c.toNat / 64)
    have ht₃ := htail c.toNat
    refine (decodeFrom_four start (by omega) (by omega) (by omega) (by omega) (by omega) (by omega)
      (by omega) rest).trans ?_
    rw [ofNat_eq_of_toNat_eq (c := c) (by omega)]
    rfl

theorem decodeFrom_encode (start : Nat) (t : Text) : decodeFrom start none (encode t) = .ok t := by
  induction t generalizing start with
  | nil => rfl
  | cons c t ih =>
    rw [encode, List.flatMap_cons, decodeFrom_encodeChar, ← encode, ih]
    rfl

theorem decode_encode (t : Text) : decode (encode t) = .ok t :=
  decodeFrom_encode 0 t

theorem encode_injective : Function.Injective encode := by
  intro t t' h
  have ht := decode_encode t
  rw [h, decode_encode] at ht
  exact (Except.ok.inj ht).symm

end CheckedText.Utf8
