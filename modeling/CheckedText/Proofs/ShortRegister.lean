import CheckedText.Proofs.LoopPoints

/-!
# A short register

The pending bits are held in a number without bound, and the loops never need more than twelve of
its places. A register of twelve bits or more, which loses what is shifted past its end, therefore
writes the same symbols and reads the same bytes.
-/

namespace CheckedText.Base32

/-- Pending bits in a register of fixed size. -/
structure Register (size : Nat) where
  word : BitVec size
  count : Nat

namespace Register

variable {size : Nat}

def empty : Register size :=
  ⟨0, 0⟩

def mask (size n : Nat) : BitVec size :=
  BitVec.ofNat size (2 ^ n - 1)

def push (r : Register size) (width value : Nat) : Register size :=
  ⟨r.word <<< width ||| BitVec.ofNat size value, r.count + width⟩

def front (r : Register size) (width : Nat) : Nat :=
  (r.word >>> (r.count - width) &&& mask size width).toNat

def drop (r : Register size) (width : Nat) : Register size :=
  ⟨r.word &&& mask size (r.count - width), r.count - width⟩

def drainSymbols (r : Register size) : List Symbol × Register size :=
  if 5 ≤ r.count then
    let rest := drainSymbols (r.drop 5)
    (Fin.ofNat 32 (r.front 5) :: rest.1, rest.2)
  else ([], r)
termination_by r.count
decreasing_by simp only [drop]; omega

def lastSymbol (r : Register size) : List Symbol :=
  if r.count = 0 then []
  else [Fin.ofNat 32 (r.word <<< (5 - r.count) &&& mask size 5).toNat]

def drainByte (r : Register size) : List UInt8 × Register size :=
  if 8 ≤ r.count then ([UInt8.ofNat (r.front 8)], r.drop 8) else ([], r)

def symbolsFrom (r : Register size) : Blob → List Symbol
  | [] => r.lastSymbol
  | b :: rest =>
    let (out, q) := (r.push 8 b.toNat).drainSymbols
    out ++ symbolsFrom q rest

def encode (size : Nat) (data : Blob) : Text :=
  (symbolsFrom (empty : Register size) data).map Symbol.char

def bytesFrom (r : Register size) : List Symbol → Blob
  | [] => []
  | v :: rest =>
    let (out, q) := (r.push 5 v.val).drainByte
    out ++ bytesFrom q rest

def decode (size : Nat) (t : Text) : Except InvalidCharacter Blob :=
  (readSymbols t).map (bytesFrom (empty : Register size))

def pending (r : Register size) : Pending :=
  ⟨r.word.toNat, r.count⟩

theorem toNat_and_mask (x : BitVec size) {n : Nat} (h : n ≤ size) :
    (x &&& mask size n).toNat = x.toNat % 2 ^ n := by
  have hpow : 2 ^ n ≤ 2 ^ size := Nat.pow_le_pow_right (by decide) h
  have hpos := Nat.two_pow_pos n
  have hmask : (mask size n).toNat = 2 ^ n - 1 := by
    rw [mask, BitVec.toNat_ofNat, Nat.mod_eq_of_lt (by omega)]
  rw [BitVec.toNat_and, hmask, Nat.and_two_pow_sub_one_eq_mod]

theorem pending_empty : (empty : Register size).pending = .empty := by
  simp [pending, empty, Pending.empty]

theorem small_empty {limit : Nat} (h : 0 < limit) :
    (empty : Register size).pending.Small limit := by
  rw [pending_empty]
  exact Pending.small_empty h

theorem pending_push {r : Register size} {width v : Nat} (hbits : r.pending.bits < 2 ^ r.count)
    (hv : v < 2 ^ width) (hroom : r.count + width ≤ size) :
    (r.push width v).pending = r.pending.push width v := by
  -- Nothing is lost as long as the bits have room.
  have hlt : (r.pending.push width v).bits < 2 ^ size :=
    Nat.lt_of_lt_of_le (Pending.push_bits_lt hbits hv) (Nat.pow_le_pow_right (by decide) hroom)
  simp only [Pending.push, pending] at hlt
  simp only [pending, push, Pending.push, BitVec.toNat_or, BitVec.toNat_shiftLeft,
    BitVec.toNat_ofNat]
  rw [← Nat.or_mod_two_pow, Nat.mod_eq_of_lt hlt]

theorem front_eq {r : Register size} {width : Nat} (hwidth : width ≤ size) :
    r.front width = r.pending.front width := by
  rw [front, toNat_and_mask _ hwidth, BitVec.toNat_ushiftRight]
  rfl

theorem pending_drop {r : Register size} {width : Nat} (hcount : r.count ≤ size) :
    (r.drop width).pending = r.pending.drop width := by
  have hwidth : r.count - width ≤ size := by omega
  rw [pending, drop, toNat_and_mask _ hwidth]
  rfl

theorem lastSymbol_eq {r : Register size} (hsmall : r.pending.Small 5) (hsize : 5 ≤ size) :
    r.lastSymbol = r.pending.lastSymbol := by
  have hshift := hsmall.shiftLeft_lt (Nat.le_of_lt hsmall.count_lt)
  have hpow : 2 ^ 5 ≤ 2 ^ size := Nat.pow_le_pow_right (by decide) hsize
  have hword : (r.word <<< (5 - r.count)).toNat = r.word.toNat <<< (5 - r.count) := by
    rw [BitVec.toNat_shiftLeft]
    exact Nat.mod_eq_of_lt (Nat.lt_of_lt_of_le hshift hpow)
  have hlast :
      (r.word <<< (5 - r.count) &&& mask size 5).toNat = r.word.toNat <<< (5 - r.count) := by
    rw [toNat_and_mask _ hsize, hword]
    exact Nat.mod_eq_of_lt hshift
  rw [lastSymbol, hlast]
  rfl

theorem drainSymbols_eq {r : Register size} (hsize : 5 ≤ size) (hcount : r.count ≤ size) :
    r.drainSymbols.1 = r.pending.drainSymbols.1 ∧
      r.drainSymbols.2.pending = r.pending.drainSymbols.2 := by
  fun_induction drainSymbols r with
  | case1 r hr rest ih =>
    obtain ⟨hout, hrest⟩ := ih (by simp only [drop]; omega)
    rw [pending_drop hcount] at hout hrest
    rw [Pending.drainSymbols_of_le hr, ← front_eq hsize]
    exact ⟨congrArg _ hout, hrest⟩
  | case2 r hr =>
    rw [Pending.drainSymbols_of_lt (Nat.lt_of_not_le hr)]
    exact ⟨rfl, rfl⟩

theorem drainByte_eq {r : Register size} (hsize : 8 ≤ size) (hcount : r.count ≤ size) :
    r.drainByte.1 = r.pending.drainByte.1 ∧ r.drainByte.2.pending = r.pending.drainByte.2 := by
  by_cases hr : 8 ≤ r.count
  · have hpending : 8 ≤ r.pending.count := hr
    simp [drainByte, Pending.drainByte, hr, hpending, front_eq hsize, pending_drop hcount]
  · have hpending : ¬ 8 ≤ r.pending.count := hr
    simp [drainByte, Pending.drainByte, hr, hpending]

theorem symbolsFrom_eq {r : Register size} (hsize : 12 ≤ size) (hsmall : r.pending.Small 5)
    (data : Blob) : symbolsFrom r data = Base32.symbolsFrom r.pending data := by
  induction data generalizing r with
  | nil => exact lastSymbol_eq hsmall (by omega)
  | cons b data ih =>
    have hcount : r.count < 5 := hsmall.count_lt
    have hb : b.toNat < 2 ^ 8 := b.toNat_lt
    have hpush : (r.push 8 b.toNat).pending = r.pending.push 8 b.toNat :=
      pending_push hsmall.bits_lt hb (by omega)
    obtain ⟨hout, hrest⟩ : (r.push 8 b.toNat).drainSymbols.1 = _ ∧ _ :=
      drainSymbols_eq (by omega) (by simp only [push]; omega)
    rw [hpush] at hout hrest
    have hdrained : (r.push 8 b.toNat).drainSymbols.2.pending.Small 5 :=
      hrest ▸ Pending.small_drainSymbols (hsmall.push hb).bits_lt
    simp only [symbolsFrom, Base32.symbolsFrom]
    rw [hout, ih hdrained, hrest]

theorem bytesFrom_eq {r : Register size} (hsize : 12 ≤ size) (hsmall : r.pending.Small 8)
    (vs : List Symbol) : bytesFrom r vs = Base32.bytesFrom r.pending vs := by
  induction vs generalizing r with
  | nil => rfl
  | cons v vs ih =>
    have hcount : r.count < 8 := hsmall.count_lt
    have hv : v.val < 2 ^ 5 := v.isLt
    have hpush : (r.push 5 v.val).pending = r.pending.push 5 v.val :=
      pending_push hsmall.bits_lt hv (by omega)
    obtain ⟨hout, hrest⟩ : (r.push 5 v.val).drainByte.1 = _ ∧ _ :=
      drainByte_eq (by omega) (by simp only [push]; omega)
    rw [hpush] at hout hrest
    have hdrained : (r.push 5 v.val).drainByte.2.pending.Small 8 :=
      hrest ▸ (hsmall.push hv).drainByte
    simp only [bytesFrom, Base32.bytesFrom]
    rw [hout, ih hdrained, hrest]

theorem encode_eq (hsize : 12 ≤ size) (data : Blob) : encode size data = Base32.encode data := by
  rw [encode, symbolsFrom_eq hsize (small_empty (by decide)), pending_empty]
  rfl

theorem decode_eq (hsize : 12 ≤ size) (t : Text) : decode size t = Base32.decode t := by
  have hbytes : bytesFrom (empty : Register size) = bytes := by
    funext vs
    rw [bytesFrom_eq hsize (small_empty (by decide)), pending_empty]
    rfl
  rw [decode, hbytes]
  rfl

end Register

/-- At every point of the writing loop and, for every text that can be read, of the reading loop,
the pending bits are below `2 ^ 12` with nothing above their number. Between items fewer than a
symbol or fewer than a byte are left, so that no shift goes the wrong way and every symbol and byte
is in range without a mask. Each loop gets to every place between two items, and goes on from there
with the bits that are pending; twelve places of a register are enough for both. -/
theorem accumulators_stay_small :
    (∀ data w, Writer.Reaches (.start data) w →
      w.pending.bits < 2 ^ 12 ∧ w.pending.bits < 2 ^ w.pending.count ∧
        (w.inside = false → w.pending.count < 5) ∧
        (5 ≤ w.pending.count → w.pending.bits >>> (w.pending.count - 5) < 32) ∧
        (w.inside = false → w.pending.bits <<< (5 - w.pending.count) < 32) ∧
        w.written ++ Writer.remaining w = symbols data) ∧
    (∀ data rest, ∃ p written, Writer.Reaches (.start (data ++ rest)) ⟨p, false, written, rest⟩ ∧
      symbols (data ++ rest) = written ++ symbolsFrom p rest) ∧
    (∀ t data, decode t = .ok data → ∃ vs, readSymbols t = .ok vs ∧
      (∀ r, Reader.Reaches (.start vs) r →
        r.pending.bits < 2 ^ 12 ∧ r.pending.bits < 2 ^ r.pending.count ∧
          (r.inside = false → r.pending.count < 8) ∧
          (8 ≤ r.pending.count → r.pending.bits >>> (r.pending.count - 8) < 256) ∧
          r.written ++ Reader.remaining r = data) ∧
      ∀ us ws, vs = us ++ ws → ∃ p written,
        Reader.Reaches (.start vs) ⟨p, false, written, ws⟩ ∧ data = written ++ bytesFrom p ws) ∧
    ∀ size, 12 ≤ size →
      (∀ data, Register.encode size data = encode data) ∧
        ∀ t, Register.decode size t = decode t := by
  refine ⟨fun data w hreaches => ?_, fun data rest => ?_, fun t data ht => ?_,
    fun size hsize => ⟨Register.encode_eq hsize, Register.decode_eq hsize⟩⟩
  · have hsound := (Writer.sound_start data).run hreaches
    exact ⟨hsound.small.bits_lt_two_pow, hsound.small.bits_lt, hsound.few,
      hsound.small.shiftRight_lt, fun h => hsound.small.shiftLeft_lt (hsound.few h).le,
      hsound.yields⟩
  · obtain ⟨p, written, hreaches⟩ := Writer.exists_reaches .empty [] data rest
    exact ⟨p, written, hreaches, ((Writer.sound_start _).run hreaches).yields.symm⟩
  · obtain ⟨vs, hvs, rfl⟩ := Except.map_eq_ok_iff.mp ht
    refine ⟨vs, hvs, fun r hreaches => ?_, ?_⟩
    · have hsound := (Reader.sound_start vs).run hreaches
      exact ⟨hsound.small.bits_lt_two_pow, hsound.small.bits_lt, hsound.few,
        hsound.small.shiftRight_lt, hsound.yields⟩
    · rintro us ws rfl
      obtain ⟨p, written, hreaches⟩ := Reader.exists_reaches .empty [] us ws
      exact ⟨p, written, hreaches, ((Reader.sound_start _).run hreaches).yields.symm⟩

theorem accumulators_stay_small_ones :
    (Writer.Reaches (.start [255, 255, 255, 255]) ⟨⟨4095, 12⟩, true, [31, 31, 31, 31], []⟩ ∧
      4095 < 2 ^ 12 ∧ 4095 >>> 7 < 32) ∧
    (decode "7777".toList = .ok [255, 255] ∧
      Reader.Reaches (.start [31, 31, 31, 31]) ⟨⟨4095, 12⟩, true, [255], []⟩ ∧
      4095 < 2 ^ 12 ∧ 4095 >>> 4 < 256) ∧
    Register.encode 16 [255, 255, 255, 255] = encode [255, 255, 255, 255] := by
  have hwrites : Writer.Reaches (.start [255, 255, 255, 255])
      ⟨⟨4095, 12⟩, true, [31, 31, 31, 31], []⟩ :=
    .head (.take 255 _) <| .head (.cut (by decide)) <| .head (.close (by decide)) <|
    .head (.take 255 _) <| .head (.cut (by decide)) <| .head (.cut (by decide)) <|
    .head (.close (by decide)) <| .head (.take 255 _) <| .head (.cut (by decide)) <|
    .head (.close (by decide)) <| .single (.take 255 _)
  have hreads : Reader.Reaches (.start [31, 31, 31, 31]) ⟨⟨4095, 12⟩, true, [255], []⟩ :=
    .head (.take 31 _) <| .head (.close (by decide)) <| .head (.take 31 _) <|
    .head (.cut (by decide)) <| .head (.take 31 _) <| .head (.close (by decide)) <|
    .single (.take 31 _)
  have hsymbols : readSymbols "7777".toList = .ok [31, 31, 31, 31] :=
    Except.toOption_eq_some_iff.mp (by decide +kernel +zetaReduce)
  have hdecode : decode "7777".toList = .ok [255, 255] :=
    Except.toOption_eq_some_iff.mp (by decide +kernel +zetaReduce)
  obtain ⟨hwriter, -, hreader, hregister⟩ := accumulators_stay_small
  obtain ⟨hwritten, -, -, hindex, -⟩ := hwriter _ _ hwrites
  obtain ⟨vs, hvs, hpoints, -⟩ := hreader _ _ hdecode
  obtain rfl : [31, 31, 31, 31] = vs := Except.ok.inj (hsymbols.symm.trans hvs)
  obtain ⟨hread, -, -, hbyte, -⟩ := hpoints _ hreads
  exact ⟨⟨hwrites, hwritten, hindex (by decide)⟩, ⟨hdecode, hreads, hread, hbyte (by decide)⟩,
    (hregister 16 (by decide)).1 _⟩

end CheckedText.Base32
