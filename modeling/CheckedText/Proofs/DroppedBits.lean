import CheckedText.Proofs.CanonicalText
import Mathlib.Data.List.DropRight

/-!
# Dropped bits

The reader cuts off bytes as it goes and ends with the bits after the last one still pending. The
padding check never holds these bits on their own: it keeps a window of the last eight and counts
modulo eight. Both look at the same bits in the end, so the check fails exactly if the reader ends
with something pending that is not zero.
-/

namespace CheckedText.Base32

namespace Pending

theorem push_bits_lt {p : Pending} {width v : Nat} (hp : p.bits < 2 ^ p.count)
    (hv : v < 2 ^ width) : (p.push width v).bits < 2 ^ (p.push width v).count := by
  simp only [push]
  apply Nat.or_lt_two_pow
  · rw [Nat.shiftLeft_eq, Nat.pow_add]
    exact Nat.mul_lt_mul_of_pos_right hp (Nat.two_pow_pos width)
  · exact Nat.lt_of_lt_of_le hv (Nat.pow_le_pow_right (by decide) (by omega))

theorem drainByte_bits_lt {p : Pending} (hp : p.bits < 2 ^ p.count) :
    p.drainByte.2.bits < 2 ^ p.drainByte.2.count := by
  unfold drainByte
  split
  · exact Nat.mod_lt _ (Nat.two_pow_pos _)
  · exact hp

theorem toBits_eq_replicate_iff {p : Pending} (hp : p.bits < 2 ^ p.count) :
    p.toBits = List.replicate p.count false ↔ p.bits = 0 := by
  rw [toBits, Bits.ofNat_eq_replicate_iff, Nat.mod_eq_of_lt hp]

end Pending

def readStep (s : Blob × Pending) (v : Symbol) : Blob × Pending :=
  (s.1 ++ (s.2.push 5 v.val).drainByte.1, (s.2.push 5 v.val).drainByte.2)

def readAll (vs : List Symbol) : Blob × Pending :=
  vs.foldl readStep ([], .empty)

theorem foldl_readStep_fst (s : Blob × Pending) (vs : List Symbol) :
    (vs.foldl readStep s).1 = s.1 ++ bytesFrom s.2 vs := by
  induction vs generalizing s with
  | nil => simp [bytesFrom]
  | cons v vs ih => simp [ih, readStep, bytesFrom]

theorem readAll_fst (vs : List Symbol) : (readAll vs).1 = bytes vs := by
  simp [readAll, foldl_readStep_fst, bytes]

/-- Where the bits of the symbols are that the reader has seen: in its bytes and in the pending
bits, which are fewer than a byte and have nothing above them. -/
structure Accounts (s : Blob × Pending) (vs : List Symbol) : Prop where
  bits : blobBits s.1 ++ s.2.toBits = symbolBits vs
  count_lt : s.2.count < 8
  bits_lt : s.2.bits < 2 ^ s.2.count

theorem accounts_empty : Accounts ([], .empty) [] := by
  constructor <;> decide

theorem Accounts.step {s : Blob × Pending} {vs : List Symbol} (h : Accounts s vs) (v : Symbol) :
    Accounts (readStep s v) (vs ++ [v]) := by
  have hlt : (s.2.push 5 v.val).count < 16 := by
    have hcount := h.count_lt
    simp only [Pending.push]
    omega
  obtain ⟨hdrain, hcount⟩ := (s.2.push 5 v.val).drainByte_spec hlt
  refine ⟨?_, hcount, Pending.drainByte_bits_lt (Pending.push_bits_lt h.bits_lt v.isLt)⟩
  have hv : Bits.ofNat 5 v.val = symbolBits [v] := by simp [symbolBits]
  simp only [readStep]
  rw [blobBits_append, List.append_assoc, hdrain, s.2.push_toBits 5 v.isLt, ← List.append_assoc,
    h.bits, hv, symbolBits_append]

theorem Accounts.run {s : Blob × Pending} {vs : List Symbol} (h : Accounts s vs)
    (ws : List Symbol) : Accounts (ws.foldl readStep s) (vs ++ ws) := by
  induction ws generalizing s vs with
  | nil => simpa using h
  | cons w ws ih => simpa using ih (h.step w)

theorem accounts_readAll (vs : List Symbol) : Accounts (readAll vs) vs := by
  simpa [readAll] using accounts_empty.run vs

/-- The bits after the last whole byte. -/
def droppedBits (vs : List Symbol) : Bits :=
  (symbolBits vs).rtake (5 * vs.length % 8)

theorem droppedBits_eq_drop (vs : List Symbol) :
    droppedBits vs = (symbolBits vs).drop (8 * (5 * vs.length / 8)) := by
  rw [droppedBits, List.rtake, length_symbolBits]
  congr 1
  omega

theorem length_droppedBits (vs : List Symbol) : (droppedBits vs).length = 5 * vs.length % 8 := by
  simp only [droppedBits_eq_drop, List.length_drop, length_symbolBits]
  omega

theorem toBits_readAll (vs : List Symbol) : (readAll vs).2.toBits = droppedBits vs := by
  have hbits := (accounts_readAll vs).bits
  rw [readAll_fst] at hbits
  rw [droppedBits_eq_drop, ← hbits, List.drop_left' (by simp)]

theorem all_dropped_iff (vs : List Symbol) :
    (∀ b ∈ droppedBits vs, b = false) ↔
      droppedBits vs = List.replicate (5 * vs.length % 8) false := by
  simp [List.eq_replicate_iff, length_droppedBits]

theorem zeroPadded_iff_dropped (vs : List Symbol) :
    zeroPadded vs = true ↔ ∀ b ∈ droppedBits vs, b = false := by
  rw [zeroPadded_iff, all_dropped_iff, droppedBits_eq_drop]

theorem zeroPadded_iff_readAll (vs : List Symbol) :
    zeroPadded vs = true ↔ (readAll vs).2.bits = 0 := by
  have hcount : (readAll vs).2.count = 5 * vs.length % 8 := by
    rw [← Pending.length_toBits, toBits_readAll, length_droppedBits]
  rw [zeroPadded_iff_dropped, all_dropped_iff, ← toBits_readAll, ← hcount,
    Pending.toBits_eq_replicate_iff (accounts_readAll vs).bits_lt]

end CheckedText.Base32
