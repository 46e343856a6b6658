import CheckedText.Proofs.CrcRegister
import Mathlib.Data.Finite.Defs
import Mathlib.Data.Fintype.EquivFin
import Mathlib.Data.Set.Function
import Mathlib.Data.LawfulXor.Basic

/-!
# Parts of a blob and its checksum

The table is linear in exclusive or, and so are the update of the register and the run over a
blob. The checksum itself is not: the register starts with ones, and ones are added at its end.
They cancel in pairs, so the checksum of three combined blobs is the combination of their
checksums.

The register takes only finitely many values, so a shift that loses nothing also reaches every one
of them. Four bytes fill the register, whatever it held before. Hence a block of four bytes with
anything before and after it gives each checksum exactly once.

An update drops the low byte of the register and adds an entry of the table to the rest of it. The
rest does not reach the highest byte, and no two entries agree there: so the highest byte tells
which entry was added, and this entry tells the register before the update. Hence what the bytes
after a blob do to its checksum can be undone, and two blobs have the same checksum if they have
the same one with these bytes after them.
-/

namespace CheckedText.Crc32

def combine (a b : Blob) : Blob :=
  List.zipWith (· ^^^ ·) a b

theorem length_combine {a b : Blob} (h : a.length = b.length) :
    (combine a b).length = b.length := by
  simp [combine, h]

theorem entry_eq (i : UInt8) : entry i = shift^[8] i.toUInt32 := rfl

theorem entry_xor (i j : UInt8) : entry (i ^^^ j) = entry i ^^^ entry j := by
  simp only [entry_eq, UInt8.toUInt32_xor, iterate_shift_xor]

theorem update_xor (r s : UInt32) (b c : UInt8) :
    update (r ^^^ s) (b ^^^ c) = update r b ^^^ update s c := by
  have hindex : (r ^^^ s).toUInt8 ^^^ (b ^^^ c) = (r.toUInt8 ^^^ b) ^^^ (s.toUInt8 ^^^ c) := by
    rw [UInt32.toUInt8_xor]
    ac_rfl
  simp only [update, hindex, entry_xor, UInt32.shiftRight_xor]
  ac_rfl

theorem foldl_update_combine {a b : Blob} (h : a.length = b.length) (r s : UInt32) :
    (combine a b).foldl update (r ^^^ s) = a.foldl update r ^^^ b.foldl update s := by
  induction a generalizing b r s with
  | nil =>
    obtain rfl : b = [] := List.length_eq_zero_iff.mp h.symm
    simp [combine]
  | cons x a ih =>
    cases b with
    | nil => simp at h
    | cons y b =>
      have hrest : a.length = b.length := by simpa using h
      change (combine a b).foldl update (update (r ^^^ s) (x ^^^ y)) = _
      rw [update_xor]
      exact ih hrest (update r x) (update s y)

theorem foldl_update_combine_three {a b c : Blob} (hab : a.length = b.length)
    (hbc : b.length = c.length) (r s t : UInt32) :
    (combine (combine a b) c).foldl update (r ^^^ s ^^^ t) =
      a.foldl update r ^^^ b.foldl update s ^^^ c.foldl update t := by
  rw [foldl_update_combine ((length_combine hab).trans hbc), foldl_update_combine hab]

/-- For blobs of one length the checksum turns the exclusive or of three of them into that of their
checksums. -/
theorem checksum_combine {a b c : Blob} (hab : a.length = b.length) (hbc : b.length = c.length) :
    checksum (combine (combine a b) c) = checksum a ^^^ checksum b ^^^ checksum c := by
  have hones : ones ^^^ ones ^^^ ones = ones := by decide
  have hrun := foldl_update_combine_three hab hbc ones ones ones
  rw [hones] at hrun
  calc checksum (combine (combine a b) c)
    _ = a.foldl update ones ^^^ b.foldl update ones ^^^ c.foldl update ones ^^^
          (ones ^^^ ones ^^^ ones) := by rw [checksum, hrun, hones]
    _ = checksum a ^^^ checksum b ^^^ checksum c := by
      simp only [checksum]
      ac_rfl

theorem checksum_combine_equal_lengths :
    combine (combine [0x68, 0x69] [0x4f, 0x4b]) [0x6e, 0x6f] = [0x49, 0x4d] ∧
      checksum [0x49, 0x4d] =
        checksum [0x68, 0x69] ^^^ checksum [0x4f, 0x4b] ^^^ checksum [0x6e, 0x6f] :=
  ⟨by decide, checksum_combine (a := [0x68, 0x69]) (b := [0x4f, 0x4b]) (c := [0x6e, 0x6f])
    (by decide) (by decide)⟩

theorem finite_register : Finite UInt32 :=
  Finite.of_injective UInt32.toFin fun _ _ h => UInt32.toFin_inj.mp h

theorem shift_bijective : Function.Bijective shift :=
  have := finite_register
  Finite.injective_iff_bijective.mp shift_injective

theorem update_bijective (b : UInt8) : Function.Bijective fun r => update r b :=
  have := finite_register
  Finite.injective_iff_bijective.mp (update_injective b)

theorem exists_foldl_update (y : Blob) (t : UInt32) : ∃ r, y.foldl update r = t := by
  induction y with
  | nil => exact ⟨t, rfl⟩
  | cons b y ih =>
    obtain ⟨s, hs⟩ := ih
    obtain ⟨r, hr⟩ := (update_bijective b).surjective s
    exact ⟨r, (congrArg (y.foldl update) hr).trans hs⟩

def lowBytes : Nat → UInt32 → Blob
  | 0, _ => []
  | n + 1, r => r.toUInt8 :: lowBytes n (r >>> 8)

@[simp] theorem length_lowBytes (n : Nat) (r : UInt32) : (lowBytes n r).length = n := by
  induction n generalizing r with
  | zero => rfl
  | succ n ih => rw [lowBytes, List.length_cons, ih]

theorem word_lowBytes {n : Nat} {r : UInt32} (h : r.toNat < 2 ^ (8 * n)) :
    word (lowBytes n r) = r := by
  induction n generalizing r with
  | zero =>
    apply UInt32.toNat_inj.mp
    exact (Nat.lt_one_iff.mp h).symm
  | succ n ih =>
    have hrest : (r >>> 8).toNat < 2 ^ (8 * n) := by
      rw [Nat.mul_succ, Nat.pow_add] at h
      rw [toNat_shiftRight_eight]
      omega
    rw [lowBytes, word, ih hrest, low_byte_xor_rest]

theorem exists_block (r t : UInt32) : ∃ w : Blob, w.length = 4 ∧ w.foldl update r = t := by
  obtain ⟨s, hs⟩ := (shift_bijective.iterate 32).surjective t
  have hword : word (lowBytes 4 (r ^^^ s)) = r ^^^ s := word_lowBytes (UInt32.toNat_lt _)
  refine ⟨lowBytes 4 (r ^^^ s), length_lowBytes 4 _, ?_⟩
  rw [foldl_update_block r (by simp), hword, ← UInt32.xor_assoc, UInt32.xor_self, UInt32.zero_xor,
    length_lowBytes]
  exact hs

theorem exists_block_checksum (x y : Blob) (t : UInt32) :
    ∃ w : Blob, w.length = 4 ∧ checksum (x ++ w ++ y) = t := by
  obtain ⟨r, hr⟩ := exists_foldl_update y (t ^^^ ones)
  obtain ⟨w, hlen, hw⟩ := exists_block (x.foldl update ones) r
  refine ⟨w, hlen, ?_⟩
  simp only [checksum, List.foldl_append, hw]
  rw [hr, UInt32.xor_assoc, UInt32.xor_self, UInt32.xor_zero]

/-- Between any two blobs, the blocks of four bytes and the checksums correspond to each other; and
blobs that differ in up to four bytes in a row differ in their checksums. -/
theorem checksum_block_bijOn (x y : Blob) :
    Set.BijOn (fun w : Blob => (checksum (x ++ w ++ y)).toNat) {w | w.length = 4}
      (Set.Iio (2 ^ 32)) ∧
    ∀ w w' : Blob, w.length = w'.length → w.length ≤ 4 → w ≠ w' →
      checksum (x ++ w ++ y) ≠ checksum (x ++ w' ++ y) := by
  refine ⟨⟨fun w _ => (checksum (x ++ w ++ y)).toNat_lt, ?_, ?_⟩, ?_⟩
  · intro w hw w' hw' h
    exact block_eq_of_checksum_eq (hw.trans hw'.symm) hw.le x y (UInt32.toNat_inj.mp h)
  · intro n hn
    obtain ⟨w, hlen, hw⟩ := exists_block_checksum x y (UInt32.ofNat n)
    refine ⟨w, hlen, ?_⟩
    change (checksum (x ++ w ++ y)).toNat = n
    rw [hw, UInt32.toNat_ofNat_of_lt' hn]
  · intro w w' hlen h4 hne h
    exact hne (block_eq_of_checksum_eq hlen h4 x y h)

theorem checksum_block_bijOn_inner_run :
    checksum [0x31, 0x32, 0x33, 0x34, 0x35] ≠ checksum [0x31, 0x42, 0x33, 0x44, 0x35] :=
  (checksum_block_bijOn [0x31] [0x35]).2 [0x32, 0x33, 0x34] [0x42, 0x33, 0x44] (by decide)
    (by decide) (by decide)

theorem high_byte_eq_zero_iff {r : UInt32} : r >>> 24 = 0 ↔ r.toNat < 2 ^ 24 := by
  have hhigh : (r >>> 24).toNat = r.toNat / 2 ^ 24 := toNat_shiftRight_of_lt r (by decide)
  rw [← UInt32.toNat_inj, hhigh, UInt32.toNat_zero]
  omega

/-- If the highest byte of an entry were zero, its bytes moved up would give this entry too; but
the lowest of them is zero then, and only one register gives it. -/
theorem eq_zero_of_high_byte_entry {i : UInt8} (h : entry i >>> 24 = 0) : i = 0 := by
  have hback : shift^[8] (entry i <<< 8) = shift^[8] i.toUInt32 := by
    rw [iterate_shift_shiftLeft (high_byte_eq_zero_iff.mp h), entry_eq]
  have hbyte := congrArg UInt32.toNat (shift_injective.iterate 8 hback)
  rw [toNat_shiftLeft_eight, UInt8.toNat_toUInt32] at hbyte
  have hi := i.toNat_lt
  exact UInt8.toNat_inj.mp (by rw [UInt8.toNat_zero]; omega)

theorem high_byte_entry_injective : Function.Injective fun i => entry i >>> 24 := by
  intro i j h
  have hsum : entry (i ^^^ j) >>> 24 = 0 := by
    rw [entry_xor, UInt32.shiftRight_xor]
    exact xor_eq_zero_iff.mpr h
  exact xor_eq_zero_iff.mp (eq_zero_of_high_byte_entry hsum)

theorem high_byte_update (r : UInt32) (b : UInt8) :
    update r b >>> 24 = entry (r.toUInt8 ^^^ b) >>> 24 := by
  have hrest : r >>> 8 >>> 24 = 0 := by
    have hlt := r.toNat_lt
    rw [high_byte_eq_zero_iff, toNat_shiftRight_eight]
    omega
  rw [update, UInt32.shiftRight_xor, hrest, zero_xor]

theorem exists_added_entry (s : UInt32) : ∃ i, ∀ j, entry j >>> 24 = s >>> 24 ↔ j = i := by
  -- Any byte would do: every register is the one after an update.
  obtain ⟨r, rfl⟩ := (update_bijective 0).surjective s
  refine ⟨r.toUInt8 ^^^ 0, fun j => ?_⟩
  rw [high_byte_update]
  exact high_byte_entry_injective.eq_iff

theorem update_eq_iff {s : UInt32} {i : UInt8} (hi : entry i >>> 24 = s >>> 24) (r : UInt32)
    (b : UInt8) : update r b = s ↔ r.toUInt8 = i ^^^ b ∧ r >>> 8 = s ^^^ entry i := by
  constructor
  · rintro rfl
    obtain rfl : r.toUInt8 ^^^ b = i :=
      high_byte_entry_injective ((high_byte_update r b).symm.trans hi.symm)
    exact ⟨(xor_cancel_right _ _).symm, (xor_cancel_right _ _).symm⟩
  · rintro ⟨hlow, hrest⟩
    rw [update, hlow, hrest, xor_cancel_right, xor_cancel_right]

theorem checksum_append_eq_iff (x x' y : Blob) :
    checksum (x ++ y) = checksum (x' ++ y) ↔ checksum x = checksum x' := by
  simp only [checksum, UInt32.xor_left_inj, List.foldl_append]
  exact (foldl_update_injective y).eq_iff

/-- Two blobs, of whatever lengths, have the same checksum exactly if they have the same one with
the same bytes after them. Every byte takes the registers one to one onto themselves, and the
register before it is found from the register after it: one entry has its highest byte, the index
of this entry with the byte added is the low byte, and what the entry was added to is the rest. -/
theorem checksum_append_cancel :
    (∀ x x' y : Blob, checksum (x ++ y) = checksum (x' ++ y) ↔ checksum x = checksum x') ∧
    (∀ b : UInt8, Function.Bijective fun r => update r b) ∧
    ∀ s : UInt32, ∃ i, (∀ j, entry j >>> 24 = s >>> 24 ↔ j = i) ∧
      ∀ r b, update r b = s ↔ r.toUInt8 = i ^^^ b ∧ r >>> 8 = s ^^^ entry i := by
  refine ⟨checksum_append_eq_iff, update_bijective, fun s => ?_⟩
  obtain ⟨i, hi⟩ := exists_added_entry s
  exact ⟨i, hi, update_eq_iff ((hi i).mpr rfl)⟩

example : checksum [0x9D, 0x0A, 0xD9, 0x6D] = checksum [] := by decide

end CheckedText.Crc32
