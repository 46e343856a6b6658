import CheckedText.Proofs.CrcDivision
import Mathlib.GroupTheory.OrderOfElement
import Mathlib.Tactic.NormNum.Prime

/-!
# Two flipped bits

A number stands for the remainder that a register with this number in it holds. Shifts and sums
of numbers stand for those of remainders, so powers of the variable can be computed by squaring.
The first `2 ^ 32 - 1` of them are all different, which is all that is possible: the generator is
primitive.

A flipped bit adds one power of the variable to the message, and which power it is tells the place
of the bit. Two of them cancel only if the powers agree up to the generator, which takes a message
of more bits than the variable has powers.
-/

open Polynomial

namespace CheckedText.Crc32

theorem held_injective : Function.Injective held := by
  intro r s h
  have hr := Bits.ofPolynomial_polynomial (Bits.lowFirst 32 r.toNat)
  have hs := Bits.ofPolynomial_polynomial (Bits.lowFirst 32 s.toNat)
  rw [Bits.length_lowFirst] at hr hs
  have hbits : Bits.lowFirst 32 r.toNat = Bits.lowFirst 32 s.toNat := by
    rw [← hr, ← hs]
    exact congrArg (Bits.ofPolynomial 32) h
  exact UInt32.toNat_inj.mp
    (Bits.ofNat_injective r.toNat_lt s.toNat_lt (List.reverse_injective hbits))

theorem residue_held_injective : Function.Injective fun r => residue (held r) := by
  intro r s h
  apply held_injective
  have hmod (r : UInt32) : held r %ₘ generator = held r :=
    (modByMonic_eq_self_iff generator_monic).mpr (held_degree_lt r)
  rw [← hmod r, ← hmod s]
  exact modByMonic_eq_of_dvd_sub generator_monic (AdjoinRoot.mk_eq_mk.mp h)

/-- A number stands for what a register with this number in it holds, up to the generator. -/
def StandsFor (n : Nat) (a : AdjoinRoot generator) : Prop :=
  ∃ r : UInt32, r.toNat = n ∧ residue (held r) = a

namespace StandsFor

variable {m n : Nat} {a b : AdjoinRoot generator}

theorem eq_iff (hm : StandsFor m a) (hn : StandsFor n b) : m = n ↔ a = b := by
  obtain ⟨r, rfl, rfl⟩ := hm
  obtain ⟨s, rfl, rfl⟩ := hn
  exact UInt32.toNat_inj.trans residue_held_injective.eq_iff.symm

theorem zero : StandsFor 0 0 := by
  have hbits : Bits.lowFirst 32 (0 : UInt32).toNat = List.replicate 32 false := by decide
  refine ⟨0, rfl, ?_⟩
  rw [held, hbits, Bits.polynomial_replicate_false, map_zero]

theorem xor (hm : StandsFor m a) (hn : StandsFor n b) : StandsFor (m ^^^ n) (a + b) := by
  obtain ⟨r, rfl, rfl⟩ := hm
  obtain ⟨s, rfl, rfl⟩ := hn
  exact ⟨r ^^^ s, UInt32.toNat_xor r s, by rw [held_xor, map_add]⟩

theorem shift (hn : StandsFor n a) : StandsFor (shiftNat n) (residue X * a) := by
  obtain ⟨r, rfl, rfl⟩ := hn
  have h := residue_iterate_shift 1 r
  rw [pow_one, map_mul] at h
  exact ⟨Crc32.shift r, toNat_shift r, h⟩

end StandsFor

def through (step : Nat → Bool → Nat) (n : Nat) : Bits → Nat
  | [] => n
  | bit :: bits =>
    match step n bit with
    | 0 => through step 0 bits
    | m + 1 => through step (m + 1) bits

theorem through_eq_foldl (step : Nat → Bool → Nat) (n : Nat) (bits : Bits) :
    through step n bits = bits.foldl step n := by
  induction bits generalizing n with
  | nil => rfl
  | cons bit bits ih =>
    rw [through, List.foldl_cons, ← ih]
    split
    case h_1 h => rw [h]
    case h_2 m h => rw [h]

def productStep (n : Nat) (m : Nat) (coefficient : Bool) : Nat :=
  shiftNat m ^^^ if coefficient then n else 0

def product (m n : Nat) : Nat :=
  through (productStep n) 0 (Bits.lowFirst 32 m)

theorem StandsFor.foldl_productStep {m n : Nat} {a b : AdjoinRoot generator}
    (hn : StandsFor n b) (hm : StandsFor m a) (bits : Bits) :
    StandsFor (bits.foldl (productStep n) m)
      (residue X ^ bits.length * a + residue bits.polynomial * b) := by
  induction bits generalizing m a with
  | nil => simpa [Bits.polynomial] using hm
  | cons c bits ih =>
    have hstep : StandsFor (productStep n m c) (residue X * a + if c then b else 0) := by
      cases c with
      | false => exact hm.shift.xor zero
      | true => exact hm.shift.xor hn
    have hsum : residue X ^ (c :: bits).length * a + residue (Bits.polynomial (c :: bits)) * b =
        residue X ^ bits.length * (residue X * a + if c then b else 0) +
          residue (Bits.polynomial bits) * b := by
      rw [List.length_cons, pow_succ, Bits.polynomial, map_add]
      cases c with
      | false => simp only [Bool.false_eq_true, if_false, map_zero]; ring
      | true => simp only [if_true, map_pow]; ring
    rw [List.foldl_cons, hsum]
    exact ih hstep

theorem StandsFor.product {m n : Nat} {a b : AdjoinRoot generator} (hm : StandsFor m a)
    (hn : StandsFor n b) : StandsFor (product m n) (a * b) := by
  have h := hn.foldl_productStep zero (Bits.lowFirst 32 m)
  obtain ⟨r, rfl, rfl⟩ := hm
  rwa [mul_zero, zero_add, ← through_eq_foldl] at h

def powerStep (n : Nat) (bit : Bool) : Nat :=
  if bit then shiftNat (product n n) else product n n

def unit : Nat :=
  0x80000000

def power (n : Nat) : Nat :=
  through powerStep unit (Bits.ofNat 32 n)

theorem standsFor_unit : StandsFor unit 1 := by
  have hbits : Bits.lowFirst 32 (0x80000000 : UInt32).toNat =
      List.replicate 31 false ++ [true] := by
    decide
  refine ⟨0x80000000, rfl, ?_⟩
  rw [held, hbits, Bits.polynomial_append, Bits.polynomial_replicate_false]
  simp [Bits.polynomial]

theorem StandsFor.powerStep {m n : Nat} (h : StandsFor m (residue X ^ n)) (bit : Bool) :
    StandsFor (powerStep m bit) (residue X ^ (2 * n + bit.toNat)) := by
  have hsquare := h.product h
  rw [← pow_add, ← two_mul] at hsquare
  cases bit with
  | false => exact hsquare
  | true =>
    have hnext := hsquare.shift
    rwa [← pow_succ'] at hnext

theorem StandsFor.foldl_powerStep {m n : Nat} (h : StandsFor m (residue X ^ n)) (bits : Bits) :
    StandsFor (bits.foldl Crc32.powerStep m) (residue X ^ (n * 2 ^ bits.length + bits.value)) := by
  induction bits generalizing m n with
  | nil => simpa [Bits.value] using h
  | cons b bits ih =>
    have hexponent : n * 2 ^ (b :: bits).length + Bits.value (b :: bits) =
        (2 * n + b.toNat) * 2 ^ bits.length + Bits.value bits := by
      rw [List.length_cons, Bits.value]
      ring
    rw [List.foldl_cons, hexponent]
    exact ih (h.powerStep b)

theorem standsFor_power {n : Nat} (h : n < 2 ^ 32) : StandsFor (power n) (residue X ^ n) := by
  have hunit : StandsFor unit (residue X ^ 0) := by
    rw [pow_zero]
    exact standsFor_unit
  have hpower := hunit.foldl_powerStep (Bits.ofNat 32 n)
  rwa [zero_mul, zero_add, Bits.value_ofNat_of_lt h, ← through_eq_foldl] at hpower

theorem power_last : power (2 ^ 32 - 1) = unit := by
  decide +kernel

theorem power_ne_unit : ∀ p ∈ [3, 5, 17, 257, 65537], power ((2 ^ 32 - 1) / p) ≠ unit := by
  decide +kernel

theorem mem_of_prime_dvd {p : Nat} (hp : p.Prime) (hdvd : p ∣ 2 ^ 32 - 1) :
    p ∈ [3, 5, 17, 257, 65537] := by
  have hfactors : 2 ^ 32 - 1 = 3 * 5 * 17 * 257 * 65537 := by norm_num
  rw [hfactors, hp.dvd_mul, hp.dvd_mul, hp.dvd_mul, hp.dvd_mul,
    Nat.prime_dvd_prime_iff_eq hp (by norm_num), Nat.prime_dvd_prime_iff_eq hp (by norm_num),
    Nat.prime_dvd_prime_iff_eq hp (by norm_num), Nat.prime_dvd_prime_iff_eq hp (by norm_num),
    Nat.prime_dvd_prime_iff_eq hp (by norm_num)] at hdvd
  simpa [or_assoc] using hdvd

/-- The generator is primitive. -/
theorem orderOf_variable : orderOf (residue X) = 2 ^ 32 - 1 := by
  have hone {n : Nat} (hn : n < 2 ^ 32) : power n = unit ↔ residue X ^ n = 1 :=
    (standsFor_power hn).eq_iff standsFor_unit
  refine orderOf_eq_of_pow_and_pow_div_prime (by norm_num) ?_ fun p hp hdvd => ?_
  · exact (hone (by norm_num)).mp power_last
  · have hlt : (2 ^ 32 - 1) / p < 2 ^ 32 :=
      lt_of_le_of_lt (Nat.div_le_self _ _) (by norm_num)
    rw [Ne, ← hone hlt]
    exact power_ne_unit p (mem_of_prime_dvd hp hdvd)

/-- Flips one bit of a blob. Eight bits belong to a byte, the lowest one first. -/
def flip (data : Blob) (p : Nat) : Blob :=
  data.modify (p / 8) (· ^^^ 1 <<< UInt8.ofNat (p % 8))

theorem length_flip (data : Blob) (p : Nat) : (flip data p).length = data.length :=
  List.length_modify ..

theorem lowFirst_one_shiftLeft : ∀ i < 8,
    Bits.lowFirst 8 ((1 : UInt8) <<< UInt8.ofNat i).toNat =
      List.replicate i false ++ true :: List.replicate (7 - i) false := by
  decide

theorem polynomial_flip_byte (b : UInt8) {i : Nat} (hi : i < 8) :
    (Bits.lowFirst 8 (b ^^^ 1 <<< UInt8.ofNat i).toNat).polynomial =
      (Bits.lowFirst 8 b.toNat).polynomial + X ^ (7 - i) := by
  rw [UInt8.toNat_xor, Bits.polynomial_lowFirst_xor, lowFirst_one_shiftLeft i hi,
    Bits.polynomial_append, Bits.polynomial_replicate_false, mul_zero, zero_add, Bits.polynomial,
    if_pos rfl, Bits.polynomial_replicate_false, List.length_replicate, add_zero]

theorem polynomial_messageBits_cons (b : UInt8) (data : Blob) :
    (messageBits (b :: data)).polynomial =
      X ^ (8 * data.length) * (Bits.lowFirst 8 b.toNat).polynomial +
        (messageBits data).polynomial := by
  rw [← length_messageBits, ← Bits.polynomial_append]
  rfl

theorem polynomial_flip {data : Blob} {p : Nat} (hp : p < 8 * data.length) :
    (messageBits (flip data p)).polynomial =
      (messageBits data).polynomial + X ^ (8 * data.length - 1 - p) := by
  induction data generalizing p with
  | nil => simp at hp
  | cons b data ih =>
    rw [List.length_cons] at hp ⊢
    rcases Nat.lt_or_ge p 8 with hlt | hge
    · -- The bit is in the first byte.
      have hflip : flip (b :: data) p = (b ^^^ 1 <<< UInt8.ofNat p) :: data := by
        rw [flip, Nat.div_eq_of_lt hlt, Nat.mod_eq_of_lt hlt]
        rfl
      have hplace : 8 * (data.length + 1) - 1 - p = 8 * data.length + (7 - p) := by omega
      rw [hflip, polynomial_messageBits_cons, polynomial_messageBits_cons,
        polynomial_flip_byte b hlt, hplace, pow_add]
      ring
    · have hflip : flip (b :: data) p = b :: flip data (p - 8) := by
        have hdiv : p / 8 = (p - 8) / 8 + 1 := by omega
        have hmod : p % 8 = (p - 8) % 8 := by omega
        rw [flip, hdiv, hmod]
        rfl
      have hplace : 8 * (data.length + 1) - 1 - p = 8 * data.length - 1 - (p - 8) := by omega
      rw [hflip, polynomial_messageBits_cons, ih (by omega), length_flip,
        polynomial_messageBits_cons, hplace, add_assoc]

theorem residue_eq_of_checksum_eq {data data' : Blob} (hlen : data.length = data'.length)
    (h : checksum data = checksum data') :
    residue (messageBits data).polynomial = residue (messageBits data').polynomial := by
  have hunit : IsUnit (residue X ^ 32) := by
    have hlast : residue X ^ (2 ^ 32 - 1) = 1 := orderOf_variable ▸ pow_orderOf_eq_one _
    exact (IsUnit.of_pow_eq_one hlast (by norm_num)).pow 32
  have hregister : data.foldl update ones = data'.foldl update ones :=
    (UInt32.xor_left_inj ones).mp h
  have hheld := congrArg (fun r => residue (held r)) hregister
  simp only [residue_foldl_update, hlen, map_add, add_right_inj, map_mul, map_pow] at hheld
  exact hunit.mul_left_cancel hheld

/-- In a blob of fewer than `2 ^ 29` bytes two flipped bits always change the checksum. -/
theorem checksum_flip_flip_ne (data : Blob) (hlen : data.length < 2 ^ 29) {p q : Nat}
    (hp : p < 8 * data.length) (hq : q < 8 * data.length) (hne : p ≠ q) :
    checksum (flip (flip data p) q) ≠ checksum data := by
  intro h
  have hresidue := residue_eq_of_checksum_eq (by rw [length_flip, length_flip]) h
  rw [polynomial_flip (by rwa [length_flip]), polynomial_flip hp, length_flip, add_assoc, map_add,
    add_eq_left, ← CharTwo.sub_eq_add, map_sub, sub_eq_zero, map_pow, map_pow] at hresidue
  have hplaces := pow_injOn_Iio_orderOf (x := residue X)
    (by rw [orderOf_variable, Set.mem_Iio]; omega) (by rw [orderOf_variable, Set.mem_Iio]; omega)
    hresidue
  omega

theorem checksum_flip_flip_ne_ends :
    flip (flip [0x61, 0x62] 0) 15 = [0x60, 0xe2] ∧
      checksum (flip (flip [0x61, 0x62] 0) 15) ≠ checksum [0x61, 0x62] :=
  ⟨by decide, checksum_flip_flip_ne [0x61, 0x62] (by decide) (by decide) (by decide) (by decide)⟩

end CheckedText.Crc32
