import CheckedText.Proofs.IdentifierLanguage

/-!
# Mistyped runs

Five symbols in a row lie within four bytes in a row, and a change of four bytes changes the
checksum of what they are in. The first six symbols lie within the checksum itself. So a run of
wrong symbols in either place makes the checksum and the blob disagree, however long the blob is.
-/

namespace CheckedText.Base32

theorem take_bytes_eq {vs ws : List Symbol} {k m : Nat} (hlen : vs.length = ws.length)
    (hm : 8 * m ≤ 5 * k) (h : vs.take k = ws.take k) : (bytes vs).take m = (bytes ws).take m := by
  have hbits : (symbolBits vs).take (8 * m) = (symbolBits ws).take (8 * m) := by
    have hk := congrArg (List.take (8 * m)) (congrArg symbolBits h)
    rwa [← take_symbolBits, ← take_symbolBits, List.take_take, List.take_take,
      Nat.min_eq_left hm] at hk
  apply blobBits_injective
  rw [← take_blobBits, ← take_blobBits, blobBits_bytes, blobBits_bytes, hlen, List.take_take,
    List.take_take, Nat.min_comm, ← List.take_take, ← List.take_take, hbits]

theorem drop_bytes_eq {vs ws : List Symbol} {k m : Nat} (hlen : vs.length = ws.length)
    (hm : 5 * k ≤ 8 * m) (h : vs.drop k = ws.drop k) : (bytes vs).drop m = (bytes ws).drop m := by
  have hbits : (symbolBits vs).drop (8 * m) = (symbolBits ws).drop (8 * m) := by
    have hk := congrArg (List.drop (8 * m - 5 * k)) (congrArg symbolBits h)
    rwa [← drop_symbolBits, ← drop_symbolBits, List.drop_drop, List.drop_drop,
      Nat.add_sub_cancel' hm] at hk
  apply blobBits_injective
  rw [← drop_blobBits, ← drop_blobBits, blobBits_bytes, blobBits_bytes, hlen, List.drop_take,
    List.drop_take, hbits]

end CheckedText.Base32

namespace CheckedText.Identifier

open Base32 (Symbol spelling)

def Mismatched (r : Except Fault Blob) : Prop :=
  ∃ expected actual, expected ≠ actual ∧ r = .error (.mismatch expected actual)

theorem verify_mismatched {sum rest : Blob} (hsum : sum.length = 4)
    (h : sum ≠ Crc32.checksumBytes rest) : Mismatched (verify (sum ++ rest)) := by
  match sum, hsum with
  | [a, b, c, d], _ =>
    have hne : Crc32.ofBytes a b c d ≠ Crc32.checksum rest := fun he =>
      h (Crc32.toBytes_eq_iff.mpr he).symm
    exact ⟨_, _, hne, (verify_cons a b c d rest).trans (if_neg hne)⟩

theorem verify_changed_checksum {raw data : Blob}
    (hlen : raw.length = (Crc32.checksumBytes data ++ data).length)
    (hdrop : raw.drop 4 = (Crc32.checksumBytes data ++ data).drop 4)
    (hne : raw ≠ Crc32.checksumBytes data ++ data) : Mismatched (verify raw) := by
  have hrest : raw.drop 4 = data := hdrop
  have hsum : (raw.take 4).length = 4 := by
    rw [List.length_append, length_checksumBytes] at hlen
    rw [List.length_take]
    omega
  rw [← List.take_append_drop 4 raw, hrest] at hne ⊢
  exact verify_mismatched hsum fun he => hne (by rw [he])

theorem verify_changed_block {raw data : Blob} {m : Nat} (hm : 4 ≤ m)
    (hlen : raw.length = (Crc32.checksumBytes data ++ data).length)
    (htake : raw.take m = (Crc32.checksumBytes data ++ data).take m)
    (hdrop : raw.drop (m + 4) = (Crc32.checksumBytes data ++ data).drop (m + 4))
    (hne : raw ≠ Crc32.checksumBytes data ++ data) : Mismatched (verify raw) := by
  have hsum : raw.take 4 = Crc32.checksumBytes data := by
    have h4 := congrArg (List.take 4) htake
    rwa [List.take_take, List.take_take, Nat.min_eq_left hm,
      List.take_left' (length_checksumBytes data)] at h4
  have hcount : (raw.drop 4).length = data.length := by
    rw [List.length_drop, hlen, List.length_append, length_checksumBytes]
    omega
  have hbefore : (raw.drop 4).take (m - 4) = data.take (m - 4) := by
    have h4 := congrArg (List.drop 4) htake
    rwa [List.drop_take, List.drop_take] at h4
  have hafter : (raw.drop 4).drop (m - 4 + 4) = data.drop (m - 4 + 4) := by
    rw [Nat.sub_add_cancel hm, List.drop_drop, Nat.add_comm 4 m, hdrop, Nat.add_comm m 4,
      ← List.drop_drop]
    rfl
  rw [← List.take_append_drop 4 raw, hsum] at hne ⊢
  refine verify_mismatched rfl fun he => hne ?_
  rw [Crc32.eq_of_checksum_eq (m - 4) hcount hbefore hafter (Crc32.toBytes_injective he).symm]

theorem take_eq_of_changes_from {s s' : Text} {k : Nat} (h : ∀ i, s'[i]? ≠ s[i]? → k ≤ i) :
    s'.take k = s.take k := by
  apply List.ext_getElem?
  intro i
  rw [List.getElem?_take, List.getElem?_take]
  split
  case isTrue hi => exact Decidable.byContradiction fun hne => absurd (h i hne) (by omega)
  case isFalse => rfl

theorem drop_eq_of_changes_below {s s' : Text} {k : Nat} (h : ∀ i, s'[i]? ≠ s[i]? → i < k) :
    s'.drop k = s.drop k := by
  apply List.ext_getElem?
  intro i
  rw [List.getElem?_drop, List.getElem?_drop]
  exact Decidable.byContradiction fun hne => absurd (h _ hne) (by omega)

/-- Any number of wrong symbols among the first six, or a run of up to five wrong ones from the
eighth on, is noticed by the checksum if it changes any byte, in whatever case the text is written
and wherever hyphens are put. -/
theorem mistyped_run_mismatched (data : Blob) (s' : Text)
    (hsymbols : ∀ c ∈ s', Base32.isSymbol c = true)
    (hlen : s'.length = (encode data).length)
    (hrun : (∀ i, s'[i]? ≠ (encode data)[i]? → i ≤ 5) ∨
      ∃ k, 7 ≤ k ∧ ∀ i, s'[i]? ≠ (encode data)[i]? → k ≤ i ∧ i < k + 5)
    (hbytes : Base32.decode s' ≠ Base32.decode (encode data)) :
    Mismatched (decode s') ∧ ∀ t, spelling t = spelling s' → Mismatched (decode t) := by
  obtain ⟨vs, hspell⟩ := Base32.exists_spelling_iff.mpr fun c hc => .inr (hsymbols c hc)
  suffices hmismatched : Mismatched (verify (Base32.bytes vs)) by
    refine ⟨?_, fun t ht => ?_⟩
    · rwa [decode_of_spelling hspell]
    · rwa [decode_of_spelling (ht.trans hspell)]
  have hupper : s'.map Char.toUpper = vs.map Symbol.char := by
    rw [← Base32.spelling_eq_map_toUpper hsymbols, hspell]
  -- A symbol in lower case may differ where its value does not, never the other way round.
  have hchange {i : Nat} (hi : (vs.map Symbol.char)[i]? ≠ (encode data)[i]?) :
      s'[i]? ≠ (encode data)[i]? := by
    intro he
    apply hi
    rw [← hupper, List.getElem?_map, he, ← List.getElem?_map, encode, Base32.map_toUpper_encode]
  have hraw := Base32.bytes_symbols (Crc32.checksumBytes data ++ data)
  have hcount : vs.length = (Base32.symbols (Crc32.checksumBytes data ++ data)).length := by
    have hvs := congrArg List.length hupper
    rw [List.length_map, List.length_map] at hvs
    rw [← hvs, hlen, encode, Base32.encode, List.length_map]
  have hlength := congrArg (fun n => 5 * n / 8) hcount
  simp only [← Base32.length_bytes, hraw] at hlength
  have hne : Base32.bytes vs ≠ Crc32.checksumBytes data ++ data := by
    intro he
    rw [encode, Base32.decode_encode] at hbytes
    exact hbytes (Base32.decode_eq_ok_iff.mpr ⟨vs, hspell, he⟩)
  rcases hrun with hfirst | ⟨k, hk, hrun⟩
  · have hafter := drop_eq_of_changes_below (k := 6) fun i hi =>
      Nat.lt_succ_of_le (hfirst i (hchange hi))
    have hdrop := Base32.drop_bytes_eq (m := 4) hcount (by decide)
      (Base32.drop_map_char_eq_iff.mp hafter)
    rw [hraw] at hdrop
    exact verify_changed_checksum hlength hdrop hne
  · -- Symbol `k` starts in byte `5 * k / 8`, and symbol `k + 4` ends in the third byte after it.
    have hbefore := take_eq_of_changes_from fun i hi => (hrun i (hchange hi)).1
    have hafter := drop_eq_of_changes_below fun i hi => (hrun i (hchange hi)).2
    have htake := Base32.take_bytes_eq (m := 5 * k / 8) hcount (by omega)
      (Base32.take_map_char_eq_iff.mp hbefore)
    have hdrop := Base32.drop_bytes_eq (m := 5 * k / 8 + 4) hcount (by omega)
      (Base32.drop_map_char_eq_iff.mp hafter)
    rw [hraw] at htake hdrop
    exact verify_changed_block (by omega) hlength htake hdrop hne

theorem changes_of_lt_length {s s' : Text} (hlen : s'.length = s.length) {P : Nat → Prop}
    (h : ∀ i < s.length, s'[i]? ≠ s[i]? → P i) : ∀ i, s'[i]? ≠ s[i]? → P i := by
  intro i hi
  rcases Nat.lt_or_ge i s.length with hlt | hge
  · exact h i hlt hi
  · exact absurd (by rw [List.getElem?_eq_none hge, List.getElem?_eq_none (hlen ▸ hge)]) hi

theorem encode_hello : encode [0x68, 0x65, 0x6c, 0x6c, 0x6f] = "GYIKNBTIMVWGY3Y".toList := by
  have hraw : Base32.bytes [6, 24, 8, 10, 13, 1, 19, 8, 12, 21, 22, 6, 24, 27, 24] =
      Crc32.checksumBytes [0x68, 0x65, 0x6c, 0x6c, 0x6f] ++ [0x68, 0x65, 0x6c, 0x6c, 0x6f] := by
    decide +kernel
  rw [encode, ← hraw, Base32.encode_bytes (by decide) (by decide)]
  rfl

theorem mistyped_run_mismatched_front_and_inside :
    Mismatched (decode "aaaaa-atimv-wgy3y".toList) ∧
      Mismatched (decode "gyikn-btiaa-aaa3y".toList) := by
  have hs := encode_hello
  constructor
  · refine (mistyped_run_mismatched [0x68, 0x65, 0x6c, 0x6c, 0x6f] "aaAAAATIMVWGY3Y".toList
      (List.all_eq_true.mp (by decide)) (by rw [hs]; decide) (.inl ?_) ?_).2 _ (by decide)
    · rw [hs]
      exact changes_of_lt_length (by decide) (by decide)
    · rw [hs]
      exact fun h => absurd (congrArg Except.toOption h) (by decide)
  · refine (mistyped_run_mismatched [0x68, 0x65, 0x6c, 0x6c, 0x6f] "GYIKNBTIAAAAA3Y".toList
      (List.all_eq_true.mp (by decide)) (by rw [hs]; decide) (.inr ⟨8, by decide, ?_⟩) ?_).2 _
      (by decide)
    · rw [hs]
      exact changes_of_lt_length (by decide) (by decide)
    · rw [hs]
      exact fun h => absurd (congrArg Except.toOption h) (by decide)

end CheckedText.Identifier
