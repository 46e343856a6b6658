import Mathlib.Logic.Relation
import CheckedText.Proofs.DroppedBits

/-!
# The points of the two loops

Writing takes in a byte and cuts off symbols until fewer than five bits are left; reading takes in a
symbol and cuts off at most one byte. At every point of these loops the pending bits are few: their
number is below a fixed limit and nothing stands above them. What was written so far and what is
still to come make up the result, so nothing is held back.
-/

namespace CheckedText.Base32

namespace Pending

variable {p : Pending} {limit width v : Nat}

/-- Fewer bits than the limit, and nothing above them. -/
structure Small (limit : Nat) (p : Pending) : Prop where
  count_lt : p.count < limit
  bits_lt : p.bits < 2 ^ p.count

theorem small_empty (h : 0 < limit) : empty.Small limit :=
  ⟨h, by decide⟩

theorem Small.push (h : p.Small limit) (hv : v < 2 ^ width) :
    (p.push width v).Small (limit + width) := by
  have hcount := h.count_lt
  refine ⟨?_, push_bits_lt h.bits_lt hv⟩
  simp only [Pending.push]
  omega

theorem small_drop (hpos : 0 < limit) (hcount : p.count < limit + width) :
    (p.drop width).Small limit := by
  refine ⟨?_, Nat.mod_lt _ (Nat.two_pow_pos _)⟩
  simp only [Pending.drop]
  omega

theorem Small.bits_lt_two_pow (h : p.Small (limit + 1)) : p.bits < 2 ^ limit :=
  Nat.lt_of_lt_of_le h.bits_lt (Nat.pow_le_pow_right (by decide) (Nat.le_of_lt_succ h.count_lt))

theorem Small.shiftRight_lt (h : p.Small limit) (hwidth : width ≤ p.count) :
    p.bits >>> (p.count - width) < 2 ^ width := by
  -- The oldest bits need no mask.
  rw [Nat.shiftRight_eq_div_pow]
  refine Nat.div_lt_of_lt_mul ?_
  rw [← Nat.pow_add, Nat.sub_add_cancel hwidth]
  exact h.bits_lt

theorem Small.shiftLeft_lt (h : p.Small limit) (hwidth : p.count ≤ width) :
    p.bits <<< (width - p.count) < 2 ^ width := by
  have hpow : 2 ^ width = 2 ^ p.count * 2 ^ (width - p.count) := by
    rw [← Nat.pow_add, Nat.add_sub_cancel' hwidth]
  rw [Nat.shiftLeft_eq, hpow]
  exact Nat.mul_lt_mul_of_pos_right h.bits_lt (Nat.two_pow_pos _)

theorem drainSymbols_of_le (h : 5 ≤ p.count) :
    p.drainSymbols =
      (Fin.ofNat 32 (p.front 5) :: (p.drop 5).drainSymbols.1, (p.drop 5).drainSymbols.2) := by
  rw [drainSymbols, if_pos h]

theorem drainSymbols_of_lt (h : p.count < 5) : p.drainSymbols = ([], p) := by
  rw [drainSymbols, if_neg (Nat.not_le_of_lt h)]

theorem small_drainSymbols (h : p.bits < 2 ^ p.count) : p.drainSymbols.2.Small 5 := by
  fun_induction Pending.drainSymbols p with
  | case1 p hp rest ih => exact ih (Nat.mod_lt _ (Nat.two_pow_pos _))
  | case2 p hp => exact ⟨Nat.lt_of_not_le hp, h⟩

theorem Small.drainByte (h : p.Small 13) : p.drainByte.2.Small 8 := by
  have hcount := h.count_lt
  refine ⟨?_, drainByte_bits_lt h.bits_lt⟩
  rw [Pending.drainByte]
  split
  case isTrue hbyte =>
    simp only [Pending.drop]
    omega
  case isFalse hbyte => exact Nat.lt_of_not_le hbyte

end Pending

/-- A point of a loop that takes in items of one kind and writes items of another: the pending bits,
whether an item was just taken in, what was written, and what is still to be taken in. -/
structure Point (α β : Type) where
  pending : Pending
  inside : Bool
  written : List β
  rest : List α

def Point.start {α β : Type} (items : List α) : Point α β :=
  ⟨.empty, false, [], items⟩

namespace Writer

inductive Step : Point UInt8 Symbol → Point UInt8 Symbol → Prop
  | take {p : Pending} {out : List Symbol} (b : UInt8) (rest : Blob) :
      Step ⟨p, false, out, b :: rest⟩ ⟨p.push 8 b.toNat, true, out, rest⟩
  | cut {p : Pending} {out : List Symbol} {rest : Blob} (h : 5 ≤ p.count) :
      Step ⟨p, true, out, rest⟩ ⟨p.drop 5, true, out ++ [Fin.ofNat 32 (p.front 5)], rest⟩
  | close {p : Pending} {out : List Symbol} {rest : Blob} (h : p.count < 5) :
      Step ⟨p, true, out, rest⟩ ⟨p, false, out, rest⟩

abbrev Reaches := Relation.ReflTransGen Step

def remaining (w : Point UInt8 Symbol) : List Symbol :=
  if w.inside then w.pending.drainSymbols.1 ++ symbolsFrom w.pending.drainSymbols.2 w.rest
  else symbolsFrom w.pending w.rest

/-- The pending bits are few, fewer still between two bytes, and no symbol is lost. -/
structure Sound (data : Blob) (w : Point UInt8 Symbol) : Prop where
  small : w.pending.Small 13
  few : w.inside = false → w.pending.count < 5
  yields : w.written ++ remaining w = symbols data

variable {data : Blob} {w w' : Point UInt8 Symbol}

theorem sound_start (data : Blob) : Sound data (.start data) :=
  ⟨Pending.small_empty (by decide), fun _ => Nat.zero_lt_succ _, rfl⟩

theorem Sound.step (h : Sound data w) (hstep : Step w w') : Sound data w' := by
  obtain ⟨hsmall, hfew, hyields⟩ := h
  cases hstep with
  | @take p out b rest =>
    have hbefore : p.Small 5 := ⟨hfew rfl, hsmall.bits_lt⟩
    have hb : b.toNat < 2 ^ 8 := b.toNat_lt
    exact ⟨hbefore.push hb, by simp, hyields⟩
  | @cut p out rest hcount =>
    have hlt : p.count < 13 := hsmall.count_lt
    refine ⟨Pending.small_drop (by decide) (Nat.lt_add_right 5 hlt), by simp, ?_⟩
    rw [← hyields]
    simp [remaining, Pending.drainSymbols_of_le hcount]
  | @close p out rest hcount =>
    refine ⟨hsmall, fun _ => hcount, ?_⟩
    rw [← hyields]
    simp [remaining, Pending.drainSymbols_of_lt hcount]

theorem Sound.run (h : Sound data w) (hreaches : Reaches w w') : Sound data w' := by
  induction hreaches with
  | refl => exact h
  | tail _ hstep ih => exact ih.step hstep

theorem reaches_drained (p : Pending) (out : List Symbol) (rest : Blob) :
    Reaches ⟨p, true, out, rest⟩ ⟨p.drainSymbols.2, false, out ++ p.drainSymbols.1, rest⟩ := by
  fun_induction Pending.drainSymbols p generalizing out with
  | case1 p hp rest' ih =>
    refine .head (.cut hp) ?_
    simpa using ih (out ++ [Fin.ofNat 32 (p.front 5)])
  | case2 p hp => simpa using Relation.ReflTransGen.single (.close (Nat.lt_of_not_le hp))

theorem exists_reaches (p : Pending) (out : List Symbol) (data rest : Blob) :
    ∃ q written, Reaches ⟨p, false, out, data ++ rest⟩ ⟨q, false, written, rest⟩ := by
  induction data generalizing p out with
  | nil => exact ⟨p, out, .refl⟩
  | cons b data ih =>
    obtain ⟨q, written, hrest⟩ := ih (p.push 8 b.toNat).drainSymbols.2
      (out ++ (p.push 8 b.toNat).drainSymbols.1)
    exact ⟨q, written, .head (.take b _) ((reaches_drained _ out _).trans hrest)⟩

end Writer

namespace Reader

inductive Step : Point Symbol UInt8 → Point Symbol UInt8 → Prop
  | take {p : Pending} {out : Blob} (v : Symbol) (rest : List Symbol) :
      Step ⟨p, false, out, v :: rest⟩ ⟨p.push 5 v.val, true, out, rest⟩
  | cut {p : Pending} {out : Blob} {rest : List Symbol} (h : 8 ≤ p.count) :
      Step ⟨p, true, out, rest⟩ ⟨p.drop 8, false, out ++ [UInt8.ofNat (p.front 8)], rest⟩
  | close {p : Pending} {out : Blob} {rest : List Symbol} (h : p.count < 8) :
      Step ⟨p, true, out, rest⟩ ⟨p, false, out, rest⟩

abbrev Reaches := Relation.ReflTransGen Step

def remaining (r : Point Symbol UInt8) : Blob :=
  if r.inside then r.pending.drainByte.1 ++ bytesFrom r.pending.drainByte.2 r.rest
  else bytesFrom r.pending r.rest

structure Sound (vs : List Symbol) (r : Point Symbol UInt8) : Prop where
  small : r.pending.Small 13
  few : r.inside = false → r.pending.count < 8
  yields : r.written ++ remaining r = bytes vs

variable {vs : List Symbol} {r r' : Point Symbol UInt8}

theorem sound_start (vs : List Symbol) : Sound vs (.start vs) :=
  ⟨Pending.small_empty (by decide), fun _ => Nat.zero_lt_succ _, rfl⟩

theorem Sound.step (h : Sound vs r) (hstep : Step r r') : Sound vs r' := by
  -- One byte at most can be cut off, since fewer than thirteen bits are pending.
  obtain ⟨hsmall, hfew, hyields⟩ := h
  cases hstep with
  | @take p out v rest =>
    have hbefore : p.Small 8 := ⟨hfew rfl, hsmall.bits_lt⟩
    have hv : v.val < 2 ^ 5 := v.isLt
    exact ⟨hbefore.push hv, by simp, hyields⟩
  | @cut p out rest hcount =>
    have hlt : p.count < 13 := hsmall.count_lt
    have hleft : (p.drop 8).count < 8 := by
      simp only [Pending.drop]
      omega
    refine ⟨Pending.small_drop (by decide) (Nat.lt_add_right 8 hlt), fun _ => hleft, ?_⟩
    rw [← hyields]
    simp [remaining, Pending.drainByte, hcount]
  | @close p out rest hcount =>
    refine ⟨hsmall, fun _ => hcount, ?_⟩
    rw [← hyields]
    simp [remaining, Pending.drainByte, Nat.not_le_of_lt hcount]

theorem Sound.run (h : Sound vs r) (hreaches : Reaches r r') : Sound vs r' := by
  induction hreaches with
  | refl => exact h
  | tail _ hstep ih => exact ih.step hstep

theorem exists_reaches (p : Pending) (out : Blob) (vs rest : List Symbol) :
    ∃ q written, Reaches ⟨p, false, out, vs ++ rest⟩ ⟨q, false, written, rest⟩ := by
  induction vs generalizing p out with
  | nil => exact ⟨p, out, .refl⟩
  | cons v vs ih =>
    by_cases hcount : 8 ≤ (p.push 5 v.val).count
    · obtain ⟨q, written, hrest⟩ := ih _ _
      exact ⟨q, written, .head (.take v _) (.head (.cut hcount) hrest)⟩
    · obtain ⟨q, written, hrest⟩ := ih _ out
      exact ⟨q, written, .head (.take v _) (.head (.close (Nat.lt_of_not_le hcount)) hrest)⟩

end Reader

end CheckedText.Base32
