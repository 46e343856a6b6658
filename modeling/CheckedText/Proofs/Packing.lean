import CheckedText.Proofs.BitString

/-!
# What the codec does to the bit string

Pending bits are a short bit string. Every step of the codec moves bits from its input through the
pending ones to its output, so nothing is lost or changed on the way: the symbols of a blob carry
its bits and fewer than five zeros, and the bytes of symbols carry their bits up to the last whole
byte. The padding check looks at just those bits that are left over.
-/

namespace CheckedText.Base32

namespace Pending

def toBits (p : Pending) : Bits :=
  Bits.ofNat p.count p.bits

@[simp] theorem length_toBits (p : Pending) : p.toBits.length = p.count :=
  Bits.length_ofNat _ _

theorem push_toBits (p : Pending) (width : Nat) {v : Nat} (hv : v < 2 ^ width) :
    (p.push width v).toBits = p.toBits ++ Bits.ofNat width v :=
  Bits.ofNat_push p.count width p.bits hv

theorem front_drop_toBits (p : Pending) {width : Nat} (h : width ≤ p.count) :
    Bits.ofNat width (p.front width) ++ (p.drop width).toBits = p.toBits := by
  have hsplit := Bits.ofNat_add width (p.count - width) p.bits
  rw [Nat.add_sub_cancel' h] at hsplit
  have hfront : Bits.ofNat width (p.front width) =
      Bits.ofNat width (p.bits >>> (p.count - width)) :=
    Bits.ofNat_mod width _
  have hdrop : (p.drop width).toBits = Bits.ofNat (p.count - width) p.bits :=
    Bits.ofNat_mod (p.count - width) p.bits
  rw [hfront, hdrop, ← hsplit, toBits]

theorem drainSymbols_spec (p : Pending) :
    symbolBits p.drainSymbols.1 ++ p.drainSymbols.2.toBits = p.toBits ∧
      p.drainSymbols.2.count < 5 := by
  fun_induction drainSymbols p with
  | case1 p hp rest ih =>
    obtain ⟨hbits, hcount⟩ := ih
    refine ⟨?_, hcount⟩
    have hhead : Bits.ofNat 5 (Fin.ofNat 32 (p.front 5)).val = Bits.ofNat 5 (p.front 5) :=
      Bits.ofNat_mod 5 (p.front 5)
    rw [symbolBits_cons, hhead, List.append_assoc, hbits, front_drop_toBits p hp]
  | case2 p hp => exact ⟨rfl, Nat.lt_of_not_le hp⟩

theorem lastSymbol_bits (p : Pending) (hp : p.count < 5) :
    ∃ k < 5, symbolBits p.lastSymbol = p.toBits ++ List.replicate k false := by
  by_cases h : p.count = 0
  · refine ⟨0, by decide, ?_⟩
    simp [lastSymbol, h, toBits, Bits.ofNat, symbolBits]
  · refine ⟨5 - p.count, by omega, ?_⟩
    have hpush := Bits.ofNat_push (v := 0) p.count (5 - p.count) p.bits
      (Nat.two_pow_pos _)
    rw [Nat.add_sub_cancel' (Nat.le_of_lt hp), Nat.or_zero, Bits.ofNat_zero] at hpush
    have hone : symbolBits p.lastSymbol = Bits.ofNat 5 (p.bits <<< (5 - p.count) % 2 ^ 5) := by
      simp only [lastSymbol, h, if_false, symbolBits_cons]
      exact List.append_nil _
    rw [hone, Bits.ofNat_mod, hpush, toBits]

theorem drainByte_spec (p : Pending) (hp : p.count < 16) :
    blobBits p.drainByte.1 ++ p.drainByte.2.toBits = p.toBits ∧ p.drainByte.2.count < 8 := by
  unfold drainByte
  split
  case isTrue h =>
    have hbyte : Bits.ofNat 8 (UInt8.ofNat (p.front 8)).toNat = Bits.ofNat 8 (p.front 8) :=
      Bits.ofNat_mod 8 (p.front 8)
    refine ⟨?_, by simp only [drop]; omega⟩
    rw [blobBits_cons, hbyte, List.append_assoc]
    exact front_drop_toBits p h
  case isFalse h => exact ⟨rfl, Nat.lt_of_not_le h⟩

end Pending

theorem symbolsFrom_bits (p : Pending) (hp : p.count < 5) (data : Blob) :
    ∃ k < 5, symbolBits (symbolsFrom p data) =
      p.toBits ++ blobBits data ++ List.replicate k false := by
  induction data generalizing p with
  | nil =>
    obtain ⟨k, hk, hbits⟩ := p.lastSymbol_bits hp
    exact ⟨k, hk, by simpa [symbolsFrom, blobBits] using hbits⟩
  | cons b data ih =>
    have hpush := p.push_toBits 8 b.toNat_lt
    obtain ⟨hbits, hcount⟩ := (p.push 8 b.toNat).drainSymbols_spec
    obtain ⟨k, hk, htail⟩ := ih _ hcount
    refine ⟨k, hk, ?_⟩
    rw [symbolsFrom, symbolBits_append, htail, ← List.append_assoc, ← List.append_assoc, hbits,
      hpush, blobBits_cons]
    simp only [List.append_assoc]

/-- The symbols of a blob carry its bits and the fewest zeros that fill up a symbol. -/
theorem symbols_bits (data : Blob) :
    ∃ k < 5, symbolBits (symbols data) = blobBits data ++ List.replicate k false :=
  symbolsFrom_bits .empty (by decide) data

@[simp] theorem length_symbols (data : Blob) :
    (symbols data).length = encodedLength data.length := by
  obtain ⟨k, hk, hbits⟩ := symbols_bits data
  have hlen := congrArg List.length hbits
  simp only [length_symbolBits, List.length_append, length_blobBits, List.length_replicate] at hlen
  unfold encodedLength
  omega

theorem take_symbols_bits (data : Blob) :
    (symbolBits (symbols data)).take (8 * data.length) = blobBits data := by
  obtain ⟨k, -, hbits⟩ := symbols_bits data
  rw [hbits, ← length_blobBits, List.take_left]

theorem bytesFrom_bits (p : Pending) (hp : p.count < 8) (vs : List Symbol) :
    ∃ rest : Bits, rest.length < 8 ∧
      blobBits (bytesFrom p vs) ++ rest = p.toBits ++ symbolBits vs := by
  induction vs generalizing p with
  | nil => exact ⟨p.toBits, by simpa using hp, by simp [bytesFrom, blobBits, symbolBits]⟩
  | cons v vs ih =>
    have hpush := p.push_toBits 5 v.isLt
    have hlt : (p.push 5 v.val).count < 16 := by simp only [Pending.push]; omega
    obtain ⟨hbits, hcount⟩ := (p.push 5 v.val).drainByte_spec hlt
    obtain ⟨rest, hrest, htail⟩ := ih _ hcount
    refine ⟨rest, hrest, ?_⟩
    rw [bytesFrom, blobBits_append, List.append_assoc, htail, ← List.append_assoc, hbits, hpush,
      symbolBits_cons, List.append_assoc]

theorem bytes_bits (vs : List Symbol) :
    ∃ rest : Bits, rest.length < 8 ∧ blobBits (bytes vs) ++ rest = symbolBits vs :=
  bytesFrom_bits .empty (by decide) vs

@[simp] theorem length_bytes (vs : List Symbol) : (bytes vs).length = 5 * vs.length / 8 := by
  obtain ⟨rest, hrest, hbits⟩ := bytes_bits vs
  have hlen := congrArg List.length hbits
  simp only [List.length_append, length_blobBits, length_symbolBits] at hlen
  omega

theorem blobBits_bytes (vs : List Symbol) :
    blobBits (bytes vs) = (symbolBits vs).take (8 * (5 * vs.length / 8)) := by
  obtain ⟨rest, -, hbits⟩ := bytes_bits vs
  rw [← hbits, ← length_bytes, ← length_blobBits, List.take_left]

theorem bytes_eq_iff {vs : List Symbol} {data : Blob} :
    bytes vs = data ↔
      5 * vs.length / 8 = data.length ∧ (symbolBits vs).take (8 * data.length) = blobBits data := by
  constructor
  · rintro rfl
    rw [length_bytes, blobBits_bytes]
    exact ⟨rfl, rfl⟩
  · rintro ⟨hlen, hbits⟩
    apply blobBits_injective
    rw [blobBits_bytes, hlen, hbits]

theorem bytes_symbols (data : Blob) : bytes (symbols data) = data := by
  refine bytes_eq_iff.mpr ⟨?_, take_symbols_bits data⟩
  rw [length_symbols, encodedLength]
  omega

/-- What the padding check has seen: the last eight bits, zeros standing in before the first. -/
def PaddingWindow (p : Pending) (vs : List Symbol) : Prop :=
  Bits.ofNat 8 p.bits = (List.replicate 8 false ++ symbolBits vs).drop (5 * vs.length) ∧
    p.count = 5 * vs.length % 8

theorem paddingWindow_step {p : Pending} {vs : List Symbol} (h : PaddingWindow p vs)
    (v : Symbol) : PaddingWindow (paddingStep p v) (vs ++ [v]) := by
  obtain ⟨hbits, hcount⟩ := h
  constructor
  · have hpush := Bits.ofNat_push 8 5 p.bits v.isLt
    have hlow := Bits.ofNat_add 5 8 (p.bits <<< 5 ||| v.val)
    have hlast : Bits.ofNat 8 (paddingStep p v).bits =
        (Bits.ofNat 8 p.bits ++ Bits.ofNat 5 v.val).drop 5 := by
      rw [← hpush, show 8 + 5 = 5 + 8 from rfl, hlow, List.drop_left' (Bits.length_ofNat _ _)]
      exact Bits.ofNat_mod 8 _
    have hle : 5 * vs.length ≤ (List.replicate 8 false ++ symbolBits vs).length := by
      rw [List.length_append, length_symbolBits]
      omega
    have hv : Bits.ofNat 5 v.val = symbolBits [v] := (List.append_nil _).symm
    rw [hlast, hbits, hv, ← List.drop_append_of_le_length hle, List.drop_drop, List.append_assoc,
      ← symbolBits_append, List.length_append, List.length_singleton, Nat.mul_succ]
  · simp only [paddingStep, hcount, List.length_append, List.length_singleton]
    omega

theorem paddingWindow_run {p : Pending} {vs : List Symbol} (h : PaddingWindow p vs)
    (ws : List Symbol) : PaddingWindow (ws.foldl paddingStep p) (vs ++ ws) := by
  induction ws generalizing p vs with
  | nil => simpa using h
  | cons w ws ih => simpa using ih (paddingWindow_step h w)

theorem zeroPadded_iff (vs : List Symbol) :
    zeroPadded vs = true ↔
      (symbolBits vs).drop (8 * (5 * vs.length / 8)) =
        List.replicate (5 * vs.length % 8) false := by
  have hstart : PaddingWindow .empty [] := ⟨rfl, rfl⟩
  obtain ⟨hbits, hcount⟩ := paddingWindow_run hstart vs
  rw [List.nil_append] at hbits hcount
  have hsplit := Bits.ofNat_add (8 - 5 * vs.length % 8) (5 * vs.length % 8)
    (vs.foldl paddingStep .empty).bits
  rw [Nat.sub_add_cancel (by omega), hbits] at hsplit
  have hrest := congrArg (List.drop (8 - 5 * vs.length % 8)) hsplit
  rw [List.drop_left' (Bits.length_ofNat _ _), List.drop_drop, List.drop_append,
    List.drop_eq_nil_of_le (by simp; omega), List.nil_append, List.length_replicate,
    show 5 * vs.length + (8 - 5 * vs.length % 8) - 8 = 8 * (5 * vs.length / 8) by omega] at hrest
  rw [hrest, Bits.ofNat_eq_replicate_iff]
  simp only [zeroPadded, hcount, beq_iff_eq]
  rfl

end CheckedText.Base32
