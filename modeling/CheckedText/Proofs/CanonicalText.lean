import CheckedText.Proofs.SymbolText
import Mathlib.Algebra.Order.Floor.Div

/-!
# Canonical texts

Encoding and decoding undo each other, one way on every blob and the other way on canonical texts:
those whose dropped bits are zero and too few to be a symbol of their own.

Each symbol is a group of the bit string of the blob, counted from its start, and so is each byte of
the bit string of the symbols. Encoding first extends the bit string to a whole number of groups.
-/

namespace CheckedText.Base32

theorem spelling_encode (data : Blob) : spelling (encode data) = (symbols data).map Symbol.char :=
  spelling_map_letter false _

theorem isSymbol_of_mem_encode {data : Blob} {c : Char} (hc : c ∈ encode data) :
    isSymbol c = true := by
  obtain ⟨v, -, rfl⟩ := List.mem_map.mp hc
  exact isSymbol_letter false v

theorem map_toUpper_encode (data : Blob) : (encode data).map Char.toUpper = encode data := by
  rw [← spelling_eq_map_toUpper fun _ hc => isSymbol_of_mem_encode hc, spelling_encode]
  rfl

theorem decode_encode (data : Blob) : decode (encode data) = .ok data :=
  decode_eq_ok_iff.mpr ⟨symbols data, spelling_encode data, bytes_symbols data⟩

theorem zeroPadded_symbols (data : Blob) : zeroPadded (symbols data) = true := by
  obtain ⟨k, hk, hbits⟩ := symbols_bits data
  have hlen := congrArg List.length hbits
  simp only [length_symbolBits, List.length_append, length_blobBits, List.length_replicate] at hlen
  have hdrop : 8 * (5 * (symbols data).length / 8) = (blobBits data).length := by
    rw [length_blobBits]
    omega
  rw [zeroPadded_iff, hdrop, hbits, List.drop_left]
  congr 1
  omega

theorem hasCanonicalPadding_encode (data : Blob) : hasCanonicalPadding (encode data) = .ok true :=
  hasCanonicalPadding_eq_ok_iff.mpr
    ⟨symbols data, spelling_encode data, zeroPadded_symbols data⟩

theorem symbols_bytes_iff (vs : List Symbol) :
    symbols (bytes vs) = vs ↔ zeroPadded vs = true ∧ 5 * vs.length % 8 < 5 := by
  obtain ⟨k, hk, hbits⟩ := symbols_bits (bytes vs)
  have hsplit := List.take_append_drop (8 * (5 * vs.length / 8)) (symbolBits vs)
  rw [← blobBits_bytes] at hsplit
  constructor
  · intro h
    rw [h, ← hsplit, List.append_cancel_left_eq] at hbits
    have hlen := congrArg List.length hbits
    rw [List.length_drop, length_symbolBits, List.length_replicate] at hlen
    have hrest : 5 * vs.length % 8 = k := by omega
    refine ⟨?_, by omega⟩
    rw [zeroPadded_iff, hrest]
    exact hbits
  · rintro ⟨hzero, hfew⟩
    rw [zeroPadded_iff] at hzero
    rw [hzero] at hsplit
    apply symbolBits_injective
    rw [hbits, ← hsplit]
    -- Both fill the same bytes up to a whole number of symbols with fewer than five zeros.
    have hleft := congrArg List.length hbits
    have hright := congrArg List.length hsplit
    simp only [List.length_append, List.length_replicate, length_symbolBits, length_blobBits,
      length_bytes] at hleft hright
    congr 2
    omega

theorem encode_bytes {vs : List Symbol} (hzero : zeroPadded vs = true)
    (hfew : 5 * vs.length % 8 < 5) : encode (bytes vs) = vs.map Symbol.char := by
  rw [encode, (symbols_bytes_iff vs).mpr ⟨hzero, hfew⟩]

/-- Decoding undoes encoding. Encoding undoes decoding, up to case and hyphens, on just those
texts whose dropped bits are zero and fewer than five. -/
theorem encode_decode_inverse_iff_canonical :
    (∀ data : Blob, decode (encode data) = .ok data ∧
      hasCanonicalPadding (encode data) = .ok true) ∧
    ∀ (t : Text) (data : Blob), decode t = .ok data →
      (encode data = spelling t ↔
        hasCanonicalPadding t = .ok true ∧ 5 * (t.filter (· ≠ separator)).length % 8 < 5) := by
  refine ⟨fun data => ⟨decode_encode data, hasCanonicalPadding_encode data⟩, ?_⟩
  intro t data hdecode
  obtain ⟨vs, hspell, rfl⟩ := decode_eq_ok_iff.mp hdecode
  have hlen : (t.filter (· ≠ separator)).length = vs.length := by
    rw [← length_spelling, hspell, List.length_map]
  have hpad : hasCanonicalPadding t = .ok true ↔ zeroPadded vs = true := by
    rw [hasCanonicalPadding, readSymbols, readFrom_eq_ok_iff.mpr hspell]
    simp [Except.map]
  rw [hspell, hlen, hpad, ← symbols_bytes_iff, encode]
  exact List.map_inj_right fun _ _ h => char_injective h

theorem encode_decode_inverse_iff_canonical_either_way :
    (decode "m-Y".toList = .ok [0x66] ∧ encode [0x66] = spelling "m-Y".toList) ∧
      decode "mz".toList = .ok [0x66] ∧ encode [0x66] ≠ spelling "mz".toList := by
  have hmy : decode "m-Y".toList = .ok [0x66] := rfl
  have hmz : decode "mz".toList = .ok [0x66] := rfl
  refine ⟨⟨hmy, ?_⟩, hmz, ?_⟩
  · exact (encode_decode_inverse_iff_canonical.2 _ _ hmy).mpr ⟨rfl, by decide⟩
  · intro h
    have hpad := ((encode_decode_inverse_iff_canonical.2 _ _ hmz).mp h).1
    exact absurd (show Except.ok false = Except.ok true from hpad) (by simp)

theorem value_group_symbolBits {vs : List Symbol} {i : Nat} {v : Symbol} (hv : vs[i]? = some v) :
    Bits.value (Bits.group 5 i (symbolBits vs)) = v.val := by
  rw [symbolBits, Bits.group_flatMap_uniform (fun _ => Bits.length_ofNat 5 _) hv,
    Bits.value_ofNat_of_lt v.isLt]

theorem value_group_blobBits {data : Blob} {k : Nat} {b : UInt8} (hb : data[k]? = some b) :
    Bits.value (Bits.group 8 k (blobBits data)) = b.toNat := by
  rw [blobBits, Bits.group_flatMap_uniform (fun _ => Bits.length_ofNat 8 _) hb,
    Bits.value_ofNat_of_lt b.toNat_lt]

theorem some_char_eq_getElem? (v : Symbol) : some v.char = alphabet[v.val]? :=
  (List.getElem?_eq_getElem (by rw [alphabet_length]; exact v.isLt)).symm

theorem bytes_getElem? {vs : List Symbol} {k : Nat} (hk : k < (bytes vs).length) :
    (bytes vs)[k]?.map UInt8.toNat = some (Bits.value (Bits.group 8 k (symbolBits vs))) := by
  have hb : (bytes vs)[k]? = some (bytes vs)[k] := List.getElem?_eq_getElem hk
  have hgroup := value_group_blobBits hb
  rw [length_bytes] at hk
  rw [blobBits_bytes, Bits.group_take (by omega)] at hgroup
  rw [hb, Option.map_some, hgroup]

theorem mem_alphabet_of_mem_encode {data : Blob} {c : Char} (hc : c ∈ encode data) :
    c ∈ alphabet := by
  obtain ⟨v, -, rfl⟩ := List.mem_map.mp hc
  exact char_mem_alphabet v

theorem isLeast_padding {bits : Bits} {k : Nat} (hk : k < 5)
    (h : 5 ∣ (bits ++ List.replicate k false).length) :
    IsLeast {k | 5 ∣ (bits ++ List.replicate k false).length} k := by
  refine ⟨h, fun m hm => ?_⟩
  have hm : 5 ∣ (bits ++ List.replicate m false).length := hm
  rw [List.length_append, List.length_replicate] at h hm
  omega

/-- The symbols of a blob are the groups of five of its bits, the last one filled up with as few
zeros as possible. -/
theorem encode_eq_groups (data : Blob) :
    (∃ k, IsLeast {k | 5 ∣ (blobBits data ++ List.replicate k false).length} k ∧
      ∀ i < (encode data).length, (encode data)[i]? =
        alphabet[Bits.value (Bits.group 5 i (blobBits data ++ List.replicate k false))]?) ∧
    encodedLength? data.length = some (encode data).length ∧
    (encode data).length = 8 * data.length ⌈/⌉ 5 ∧
    ∀ c ∈ encode data, c ∈ alphabet := by
  obtain ⟨k, hk, hbits⟩ := symbols_bits data
  have hlength : (encode data).length = encodedLength data.length := by
    rw [encode, List.length_map, length_symbols]
  refine ⟨⟨k, ?_, ?_⟩, ?_, ?_, fun c hc => mem_alphabet_of_mem_encode hc⟩
  · refine isLeast_padding hk ⟨(symbols data).length, ?_⟩
    rw [← hbits, length_symbolBits]
  · intro i hi
    rw [encode, List.length_map] at hi
    have hv : (symbols data)[i]? = some (symbols data)[i] := List.getElem?_eq_getElem hi
    rw [← hbits, value_group_symbolBits hv, encode, List.getElem?_map, hv, ← some_char_eq_getElem?]
    rfl
  · rw [hlength]
    rfl
  · rw [hlength, encodedLength, Nat.ceilDiv_eq_add_pred_div, Nat.mul_comm]
    rfl

theorem encode_eq_groups_zero_filled :
    (encode [0x66, 0x6f]).length = 4 ∧ (encode [0x66, 0x6f])[3]? = some 'Q' := by
  obtain ⟨⟨k, hk, hsymbols⟩, hlength, -, -⟩ := encode_eq_groups [0x66, 0x6f]
  have hfour : (encode [0x66, 0x6f]).length = 4 := (Option.some.inj hlength).symm
  have hzeros : k = 4 := hk.unique (isLeast_padding (by decide) (by decide))
  subst hzeros
  exact ⟨hfour, hsymbols 3 (by omega)⟩

end CheckedText.Base32
