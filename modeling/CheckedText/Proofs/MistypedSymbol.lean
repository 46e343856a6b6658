import CheckedText.Proofs.MistypedRun
import Mathlib.Data.List.Iterate

/-!
# One mistyped symbol

A wrong symbol lies within the checksum or within the blob, but for the seventh one: its first two
bits are the lowest of the checksum and the other three the highest of the first byte. A change of
these three bits goes through the register as it is shifted once for each bit of the blob, and for
blobs of up to 256 bytes it never comes out as a change of two lowest bits.
-/

namespace CheckedText.Crc32

theorem four_le_of_mem_iterate : ∀ k ∈ [1, 2, 3, 4, 5, 6, 7],
    ∀ n ∈ List.iterate shiftNat^[8] (32 * k) 257, 4 ≤ n := by
  decide +kernel

theorem four_le_iterate_shift {r : UInt32} {k n : Nat} (hr : r.toNat = 32 * k) (hpos : 0 < k)
    (hk : k < 8) (hn : n ≤ 256) : 4 ≤ (shift^[8 * n] r).toNat := by
  have hmem : k ∈ [1, 2, 3, 4, 5, 6, 7] := by
    simp only [List.mem_cons, List.not_mem_nil, or_false]
    omega
  refine four_le_of_mem_iterate k hmem _ (List.mem_iterate.mpr ⟨n, by omega, ?_⟩)
  rw [toNat_iterate_shift_eq, hr, Function.iterate_mul]

theorem checksum_cons_xor (b d : UInt8) (y : Blob) :
    checksum ((b ^^^ d) :: y) = checksum (b :: y) ^^^ shift^[8 * (b :: y).length] d.toUInt32 := by
  have hfirst : update ones (b ^^^ d) = update (ones ^^^ d.toUInt32) b := by
    rw [update_eq, update_eq, UInt8.toUInt32_xor, UInt32.xor_assoc, UInt32.xor_comm d.toUInt32]
  have hrun : ((b ^^^ d) :: y).foldl update ones = (b :: y).foldl update (ones ^^^ d.toUInt32) :=
    congrArg (y.foldl update) hfirst
  rw [checksum, hrun, foldl_update_xor, checksum, UInt32.xor_assoc, UInt32.xor_assoc,
    UInt32.xor_comm ones]

/-- A change of the three highest bits of the first byte changes more of the checksum than its two
lowest bits. -/
theorem first_byte_eq {b c : UInt8} {y : Blob} (hsize : (b :: y).length ≤ 256)
    (hlow : b.toNat % 32 = c.toNat % 32)
    (hhigh : (checksum (b :: y)).toNat / 4 = (checksum (c :: y)).toNat / 4) : b = c := by
  have hchange : c = b ^^^ (b ^^^ c) := by
    rw [← UInt8.xor_assoc, UInt8.xor_self, UInt8.zero_xor]
  have hdvd : (b ^^^ c).toNat % 32 = 0 := by
    rw [UInt8.toNat_xor, show 32 = 2 ^ 5 from rfl, Nat.xor_mod_two_pow]
    exact hlow ▸ Nat.xor_self _
  have hsmall : (shift^[8 * (b :: y).length] (b ^^^ c).toUInt32).toNat / 4 = 0 := by
    have hsum := checksum_cons_xor b (b ^^^ c) y
    rw [← hchange] at hsum
    have hdiff : shift^[8 * (b :: y).length] (b ^^^ c).toUInt32 =
        checksum (b :: y) ^^^ checksum (c :: y) := by
      rw [hsum, ← UInt32.xor_assoc, UInt32.xor_self, UInt32.zero_xor]
    rw [hdiff, UInt32.toNat_xor, show 4 = 2 ^ 2 from rfl, Nat.xor_div_two_pow]
    exact hhigh ▸ Nat.xor_self _
  have hlt := (b ^^^ c).toNat_lt
  have hzero : (b ^^^ c).toNat / 32 = 0 := by
    by_contra hpos
    have h := four_le_iterate_shift (r := (b ^^^ c).toUInt32) (k := (b ^^^ c).toNat / 32)
      (by rw [UInt8.toNat_toUInt32]; omega) (by omega) (by omega) hsize
    omega
  have hsame : b ^^^ c = 0 := UInt8.toNat_inj.mp (show (b ^^^ c).toNat = 0 by omega)
  exact UInt8.xor_eq_zero_iff.mp hsame

end CheckedText.Crc32

namespace CheckedText.Base32

theorem take_blobBits_bytes {vs ws : List Symbol} {k : Nat} (hlen : vs.length = ws.length)
    (h : vs.take k = ws.take k) :
    (blobBits (bytes vs)).take (5 * k) = (blobBits (bytes ws)).take (5 * k) := by
  rw [blobBits_bytes, blobBits_bytes, hlen, List.take_take, List.take_take, Nat.min_comm,
    ← List.take_take, ← List.take_take, take_symbolBits, take_symbolBits, h]

theorem drop_blobBits_bytes {vs ws : List Symbol} {k : Nat} (hlen : vs.length = ws.length)
    (h : vs.drop k = ws.drop k) :
    (blobBits (bytes vs)).drop (5 * k) = (blobBits (bytes ws)).drop (5 * k) := by
  rw [blobBits_bytes, blobBits_bytes, hlen, List.drop_take, List.drop_take, drop_symbolBits,
    drop_symbolBits, h]

theorem blobBits_around (a b c d e : UInt8) (rest : Blob) :
    (blobBits (a :: b :: c :: d :: e :: rest)).take 30 =
      blobBits [a, b, c] ++ Bits.ofNat 6 (d.toNat >>> 2) ∧
    (blobBits (a :: b :: c :: d :: e :: rest)).drop 35 =
      Bits.ofNat 5 e.toNat ++ blobBits rest := by
  have hd := Bits.ofNat_add 6 2 d.toNat
  have he := Bits.ofNat_add 3 5 e.toNat
  have hbits : blobBits (a :: b :: c :: d :: e :: rest) =
      (blobBits [a, b, c] ++ Bits.ofNat 6 (d.toNat >>> 2)) ++
        ((Bits.ofNat 2 d.toNat ++ Bits.ofNat 3 (e.toNat >>> 5)) ++
          (Bits.ofNat 5 e.toNat ++ blobBits rest)) := by
    simp only [blobBits_cons, hd, he, List.append_assoc]
    rfl
  constructor
  · rw [hbits, List.take_left' (by simp)]
  · rw [hbits, ← List.append_assoc, List.drop_left' (by simp)]

theorem eq_around {a b c d e a' b' c' d' e' : UInt8} {rest rest' : Blob}
    (htake : (blobBits (a' :: b' :: c' :: d' :: e' :: rest')).take 30 =
      (blobBits (a :: b :: c :: d :: e :: rest)).take 30)
    (hdrop : (blobBits (a' :: b' :: c' :: d' :: e' :: rest')).drop 35 =
      (blobBits (a :: b :: c :: d :: e :: rest)).drop 35) :
    (a' = a ∧ b' = b ∧ c' = c ∧ rest' = rest) ∧
      d'.toNat / 4 = d.toNat / 4 ∧ e'.toNat % 32 = e.toNat % 32 := by
  rw [(blobBits_around a b c d e rest).1, (blobBits_around a' b' c' d' e' rest').1] at htake
  rw [(blobBits_around a b c d e rest).2, (blobBits_around a' b' c' d' e' rest').2] at hdrop
  obtain ⟨hfirst, hlow⟩ := List.append_inj htake (by simp)
  obtain ⟨hhigh, hrest⟩ := List.append_inj hdrop (by simp)
  obtain ⟨ha, hb, hc⟩ : a' = a ∧ b' = b ∧ c' = c := by simpa using blobBits_injective hfirst
  have hd := Bits.ofNat_eq_iff.mp hlow
  have hlt := d.toNat_lt
  have hlt' := d'.toNat_lt
  rw [Nat.shiftRight_eq_div_pow, Nat.shiftRight_eq_div_pow] at hd
  exact ⟨⟨ha, hb, hc, blobBits_injective hrest⟩, by omega, Bits.ofNat_eq_iff.mp hhigh⟩

theorem spelling_set_encode (data : Blob) (i : Nat) {c : Char} {v : Symbol}
    (hv : c.toUpper = v.char) :
    spelling ((encode data).set i c) = ((symbols data).set i v).map Symbol.char := by
  have hsymbols : ∀ d ∈ (encode data).set i c, isSymbol d = true := by
    intro d hd
    rcases List.mem_or_eq_of_mem_set hd with hmem | rfl
    · exact isSymbol_of_mem_encode hmem
    · exact isSymbol_iff.mpr ⟨v, hv⟩
  rw [spelling_eq_map_toUpper hsymbols, List.map_set, map_toUpper_encode, hv, encode, List.map_set]

end CheckedText.Base32

namespace CheckedText.Identifier

open Base32 (blobBits)

theorem exists_five_bytes {raw : Blob} {n : Nat} (h : raw.length = n + 5) :
    ∃ a b c d e rest, raw = a :: b :: c :: d :: e :: rest := by
  match raw, h with
  | a :: b :: c :: d :: e :: rest, _ => exact ⟨a, b, c, d, e, rest, rfl⟩

theorem verify_changed_seventh {raw data : Blob} (hsize : data.length ≤ 256)
    (hlen : raw.length = (Crc32.checksumBytes data ++ data).length)
    (htake : (blobBits raw).take 30 = (blobBits (Crc32.checksumBytes data ++ data)).take 30)
    (hdrop : (blobBits raw).drop 35 = (blobBits (Crc32.checksumBytes data ++ data)).drop 35)
    (hne : raw ≠ Crc32.checksumBytes data ++ data) : Mismatched (verify raw) := by
  cases data with
  | nil =>
    refine verify_changed_checksum hlen ?_ hne
    rw [List.drop_of_length_le (by rw [hlen]; rfl)]
    rfl
  | cons e rest =>
    obtain ⟨a', b', c', d', e', rest', rfl⟩ := exists_five_bytes hlen
    obtain ⟨a, b, c, d, hsum⟩ : ∃ a b c d, Crc32.checksumBytes (e :: rest) = [a, b, c, d] :=
      ⟨_, _, _, _, rfl⟩
    have hread : Crc32.ofBytes a b c d = Crc32.checksum (e :: rest) :=
      Crc32.toBytes_eq_iff.mp hsum
    rw [hsum] at htake hdrop hne
    obtain ⟨⟨rfl, rfl, rfl, rfl⟩, hd, he⟩ := Base32.eq_around htake hdrop
    have hmismatch : Crc32.ofBytes a' b' c' d' ≠ Crc32.checksum (e' :: rest') := by
      intro hsame
      have hread' := congrArg UInt32.toNat hread
      have hsame' := congrArg UInt32.toNat hsame
      rw [Crc32.toNat_ofBytes] at hread' hsame'
      -- The two checksums agree but for two bits, so that the blobs agree; then the checksums do.
      obtain rfl : e' = e := Crc32.first_byte_eq hsize he (by omega)
      have hd' : d' = d := UInt8.toNat_inj.mp (by omega)
      exact hne (by rw [hd']; rfl)
    exact ⟨_, _, hmismatch, (verify_cons a' b' c' d' _).trans (if_neg hmismatch)⟩

/-- One symbol of an identifier of up to 256 bytes that is replaced by another one, in either case,
is noticed by the checksum if it changes any byte. -/
theorem mistyped_symbol_mismatched (data : Blob) (hsize : data.length ≤ 256) (i : Nat) (c : Char)
    (hc : Base32.isSymbol c = true)
    (hbytes : Base32.decode ((encode data).set i c) ≠ Base32.decode (encode data)) :
    Mismatched (decode ((encode data).set i c)) := by
  obtain ⟨v, hv⟩ := Base32.isSymbol_iff.mp hc
  have hspell := Base32.spelling_set_encode (Crc32.checksumBytes data ++ data) i hv
  have hraw := Base32.bytes_symbols (Crc32.checksumBytes data ++ data)
  generalize Base32.symbols (Crc32.checksumBytes data ++ data) = ws at hspell hraw
  have hcount : (ws.set i v).length = ws.length := List.length_set
  have hlength :
      (Base32.bytes (ws.set i v)).length = (Crc32.checksumBytes data ++ data).length := by
    rw [← hraw, Base32.length_bytes, Base32.length_bytes, hcount]
  have hne : Base32.bytes (ws.set i v) ≠ Crc32.checksumBytes data ++ data := by
    intro he
    rw [encode, Base32.decode_encode] at hbytes
    exact hbytes (Base32.decode_eq_ok_iff.mpr ⟨_, hspell, he⟩)
  rw [encode, decode_of_spelling hspell]
  rcases Nat.lt_trichotomy i 6 with hlt | rfl | hgt
  · -- The first six symbols lie in the checksum.
    have hdrop := Base32.drop_bytes_eq (m := 4) hcount (by decide) (List.drop_set_of_lt hlt)
    rw [hraw] at hdrop
    exact verify_changed_checksum hlength hdrop hne
  · have htake := Base32.take_blobBits_bytes hcount (List.take_set_of_le (Nat.le_refl 6))
    have hdrop := Base32.drop_blobBits_bytes hcount (List.drop_set_of_lt (Nat.lt_succ_self 6))
    rw [hraw] at htake hdrop
    exact verify_changed_seventh hsize hlength htake hdrop hne
  · -- Every later symbol lies in the four bytes from the one in which it starts.
    have htake := Base32.take_bytes_eq (m := 5 * i / 8) hcount (by omega)
      (List.take_set_of_le (Nat.le_refl i))
    have hdrop := Base32.drop_bytes_eq (m := 5 * i / 8 + 4) hcount (by omega)
      (List.drop_set_of_lt (Nat.lt_succ_self i))
    rw [hraw] at htake hdrop
    exact verify_changed_block (by omega) hlength htake hdrop hne

theorem mistyped_symbol_mismatched_inside : Mismatched (decode "GYIKNBaIMVWGY3Y".toList) := by
  have h := mistyped_symbol_mismatched [0x68, 0x65, 0x6c, 0x6c, 0x6f] (by decide) 6 'a' (by decide)
  rw [encode_hello] at h
  exact h fun he => absurd (congrArg Except.toOption he) (by decide)

end CheckedText.Identifier
