import CheckedText.Proofs.CanonicalText
import CheckedText.Proofs.CrcRegister

/-!
# The language of identifiers

Which texts are read as the identifier of a blob. All of them spell the symbols that encoding gives
up to the last one; what is free is case, hyphens, the bits of the last symbol that are dropped,
and one more symbol if these leave room for it.
-/

namespace CheckedText.Base32

theorem take_symbolBits_eq_iff {vs ws : List Symbol} {n p : Nat} {v w : Symbol}
    (hv : vs[n]? = some v) (hw : ws[n]? = some w) (hp : p ≤ 5) :
    (symbolBits vs).take (5 * n + (5 - p)) = (symbolBits ws).take (5 * n + (5 - p)) ↔
      vs.take n = ws.take n ∧ v.val >>> p = w.val >>> p := by
  have hhigh {us : List Symbol} {u : Symbol} (hu : us[n]? = some u) :
      ((symbolBits us).drop (5 * n)).take (5 - p) = Bits.ofNat (5 - p) (u.val >>> p) := by
    have hsplit := Bits.ofNat_add (5 - p) p u.val
    rw [Nat.sub_add_cancel hp] at hsplit
    obtain ⟨hn, rfl⟩ := List.getElem?_eq_some_iff.mp hu
    rw [drop_symbolBits, List.drop_eq_getElem_cons hn, symbolBits_cons, hsplit, List.append_assoc,
      List.take_left' (Bits.length_ofNat _ _)]
  have hlt (u : Symbol) : u.val >>> p < 2 ^ (5 - p) := by
    rw [Nat.shiftRight_eq_div_pow, Nat.div_lt_iff_lt_mul (Nat.two_pow_pos p), ← Nat.pow_add,
      Nat.sub_add_cancel hp]
    exact u.isLt
  obtain ⟨hvn, -⟩ := List.getElem?_eq_some_iff.mp hv
  obtain ⟨hwn, -⟩ := List.getElem?_eq_some_iff.mp hw
  rw [List.take_add, List.take_add, hhigh hv, hhigh hw, take_symbolBits, take_symbolBits]
  constructor
  · intro h
    obtain ⟨hfirst, hlast⟩ := List.append_inj h (by simp; omega)
    exact ⟨symbolBits_injective hfirst, Bits.ofNat_injective (hlt v) (hlt w) hlast⟩
  · rintro ⟨hfirst, hlast⟩
    rw [hfirst, hlast]

def paddingLength (n : Nat) : Nat :=
  5 * encodedLength n - 8 * n

theorem bytes_eq_iff_symbols (vs : List Symbol) {data : Blob} (hpos : data ≠ []) :
    bytes vs = data ↔
      (vs.length = encodedLength data.length ∨
        vs.length = encodedLength data.length + 1 ∧ paddingLength data.length ≤ 2) ∧
      vs.take (encodedLength data.length - 1) =
        (symbols data).take (encodedLength data.length - 1) ∧
      ∃ v w, vs[encodedLength data.length - 1]? = some v ∧
        (symbols data)[encodedLength data.length - 1]? = some w ∧
        v.val >>> paddingLength data.length = w.val >>> paddingLength data.length := by
  -- Symbols hold a blob that is not empty if they are as many as encoding gives, or one more where
  -- the padding leaves room, and differ from these at most in the padding and after it.
  have hlen : 0 < data.length := List.length_pos_iff.mpr hpos
  have hroom : 5 * vs.length / 8 = data.length ↔
      vs.length = encodedLength data.length ∨
        vs.length = encodedLength data.length + 1 ∧ paddingLength data.length ≤ 2 := by
    unfold paddingLength encodedLength
    omega
  have hbits : 8 * data.length =
      5 * (encodedLength data.length - 1) + (5 - paddingLength data.length) := by
    unfold paddingLength encodedLength
    omega
  have hpad : paddingLength data.length ≤ 5 := by
    unfold paddingLength encodedLength
    omega
  have hone : 0 < encodedLength data.length := by
    unfold encodedLength
    omega
  have hw : (symbols data)[encodedLength data.length - 1]? =
      some ((symbols data).get ⟨encodedLength data.length - 1, by simp; omega⟩) :=
    List.getElem?_eq_getElem _
  rw [bytes_eq_iff, ← take_symbols_bits, hroom, hbits]
  refine and_congr_right fun hcount => ?_
  have hv : vs[encodedLength data.length - 1]? =
      some (vs.get ⟨encodedLength data.length - 1, by omega⟩) := List.getElem?_eq_getElem _
  rw [take_symbolBits_eq_iff hv hw hpad]
  refine and_congr_right fun _ => ⟨fun h => ⟨_, _, hv, hw, h⟩, ?_⟩
  rintro ⟨v, w, hv', hw', h⟩
  rw [hv, Option.some.injEq] at hv'
  rw [hw, Option.some.injEq] at hw'
  rw [hv', hw', h]

end CheckedText.Base32

namespace CheckedText.Identifier

open Base32 (Symbol alphabet spelling encodedLength paddingLength)

theorem length_checksumBytes (data : Blob) : (Crc32.checksumBytes data).length = 4 := rfl

theorem verify_cons (a b c d : UInt8) (rest : Blob) :
    verify (a :: b :: c :: d :: rest) =
      if Crc32.ofBytes a b c d = Crc32.checksum rest then .ok rest
      else .error (.mismatch (Crc32.ofBytes a b c d) (Crc32.checksum rest)) := rfl

theorem verify_eq_ok_iff {raw data : Blob} :
    verify raw = .ok data ↔ raw = Crc32.checksumBytes data ++ data := by
  constructor
  · intro h
    match raw with
    | a :: b :: c :: d :: rest =>
      rw [verify_cons] at h
      split at h
      case isTrue hcrc =>
        cases h
        rw [Crc32.checksumBytes, Crc32.toBytes_eq_iff.mpr hcrc]
        rfl
      case isFalse hcrc => cases h
    | [] | [_] | [_, _] | [_, _, _] => cases h
  · rintro rfl
    exact (verify_cons _ _ _ _ _).trans (if_pos (Crc32.toBytes_eq_iff.mp rfl))

theorem decode_of_spelling {t : Text} {vs : List Symbol} (h : spelling t = vs.map Symbol.char) :
    decode t = verify (Base32.bytes vs) := by
  rw [decode, Base32.decode_eq_ok_iff.mpr ⟨vs, h, rfl⟩]
  rfl

theorem decode_eq_ok_iff {t : Text} {data : Blob} :
    decode t = .ok data ↔
      ∃ vs, spelling t = vs.map Symbol.char ∧
        Base32.bytes vs = Crc32.checksumBytes data ++ data := by
  constructor
  · intro h
    obtain ⟨raw, hraw, hdata⟩ := Except.bind_eq_ok_iff.mp h
    obtain ⟨vs, hvs, rfl⟩ := Base32.decode_eq_ok_iff.mp (Except.mapError_eq_ok_iff.mp hraw)
    exact ⟨vs, hvs, verify_eq_ok_iff.mp hdata⟩
  · rintro ⟨vs, hvs, hraw⟩
    rw [decode_of_spelling hvs, verify_eq_ok_iff, hraw]

theorem decode_encode (data : Blob) : decode (encode data) = .ok data :=
  decode_eq_ok_iff.mpr ⟨_, Base32.spelling_encode _, Base32.bytes_symbols _⟩

/-- The identifiers of a blob: hyphens and symbols in either case that spell, up to the padding
of the last symbol, what encoding gives, with one more symbol if the padding is at most two bits. -/
theorem decode_eq_ok_iff_spelling (t : Text) (data : Blob) :
    let count := encodedLength (4 + data.length)
    let padding := 5 * count - 8 * (4 + data.length)
    decode t = .ok data ↔
      (∀ c ∈ t, c = '-' ∨ c ∈ alphabet ∨ c ∈ alphabet.map Char.toLower) ∧
      ((spelling t).length = count ∨ (spelling t).length = count + 1 ∧ padding ≤ 2) ∧
      (spelling t).take (count - 1) = (encode data).take (count - 1) ∧
      ∃ v w : Symbol, (spelling t)[count - 1]? = some v.char ∧
        (encode data)[count - 1]? = some w.char ∧ v.val >>> padding = w.val >>> padding := by
  intro count padding
  have hlen : (Crc32.checksumBytes data ++ data).length = 4 + data.length := by
    rw [List.length_append, length_checksumBytes]
  have hpos : Crc32.checksumBytes data ++ data ≠ [] := List.cons_ne_nil _ _
  have hsymbols (vs : List Symbol) := Base32.bytes_eq_iff_symbols vs hpos
  rw [hlen] at hsymbols
  have hchars : (∀ c ∈ t, c = '-' ∨ c ∈ alphabet ∨ c ∈ alphabet.map Char.toLower) ↔
      ∃ vs : List Symbol, spelling t = vs.map Symbol.char := by
    simp only [Base32.exists_spelling_iff, Base32.isSymbol_iff_mem]
    rfl
  constructor
  · intro h
    obtain ⟨vs, hspell, hraw⟩ := decode_eq_ok_iff.mp h
    obtain ⟨hcount, htake, v, w, hv, hw, hhigh⟩ := (hsymbols vs).mp hraw
    refine ⟨hchars.mpr ⟨vs, hspell⟩, ?_, ?_, v, w, ?_, ?_, hhigh⟩
    · rw [hspell, List.length_map]
      exact hcount
    · rw [hspell]
      exact Base32.take_map_char_eq_iff.mpr htake
    · rw [hspell]
      exact Base32.getElem?_map_char_eq_iff.mpr hv
    · exact Base32.getElem?_map_char_eq_iff.mpr hw
  · rintro ⟨ht, hcount, htake, v, w, hv, hw, hhigh⟩
    obtain ⟨vs, hspell⟩ := hchars.mp ht
    rw [hspell] at hcount htake hv
    rw [List.length_map] at hcount
    refine decode_eq_ok_iff.mpr ⟨vs, hspell, (hsymbols vs).mpr ⟨hcount, ?_, v, w, ?_, ?_, hhigh⟩⟩
    · exact Base32.take_map_char_eq_iff.mp htake
    · exact Base32.getElem?_map_char_eq_iff.mp hv
    · exact Base32.getElem?_map_char_eq_iff.mp hw

end CheckedText.Identifier
