import CheckedText.Proofs.BitString
import Mathlib.Algebra.Polynomial.Monic
import Mathlib.Algebra.CharP.Two
import Mathlib.Algebra.Field.ZMod
import CheckedText.Proofs.CrcRegister
import Mathlib.RingTheory.AdjoinRoot

/-!
# The checksum as a remainder

A bit string stands for a polynomial over the field of two elements, its first bit for the highest
coefficient. Appending is multiplication by a power of the variable, exclusive or is addition, and
a complement adds the polynomial of a string of ones. A bit string is read back from the
coefficients.

The register holds a remainder with its highest coefficient in the lowest bit. A shift multiplies
it by the variable and takes the generator away if the degree became too high, so a run over a blob
leaves the remainder of the whole message. The ones at the start and at the end are complements of
the first bits of the message and of the bits of the remainder.
-/

open Polynomial

namespace CheckedText.Bits

noncomputable def polynomial : Bits → (ZMod 2)[X]
  | [] => 0
  | b :: bits => (if b then X ^ bits.length else 0) + polynomial bits

theorem polynomial_append (a b : Bits) :
    polynomial (a ++ b) = X ^ b.length * polynomial a + polynomial b := by
  induction a with
  | nil => simp [polynomial]
  | cons c a ih =>
    cases c with
    | false => simp [polynomial, ih]
    | true =>
      rw [List.cons_append, polynomial, ih, polynomial, if_pos rfl, if_pos rfl, List.length_append,
        pow_add]
      ring

@[simp] theorem polynomial_replicate_false (n : Nat) : polynomial (List.replicate n false) = 0 := by
  induction n with
  | zero => rfl
  | succ n ih => simp [List.replicate_succ, polynomial, ih]

theorem polynomial_zipWith_xor {a b : Bits} (h : a.length = b.length) :
    polynomial (List.zipWith xor a b) = polynomial a + polynomial b := by
  induction a generalizing b with
  | nil => simp [List.length_eq_zero_iff.mp h.symm, polynomial]
  | cons c a ih =>
    cases b with
    | nil => cases h
    | cons d b =>
      have hlen : a.length = b.length := Nat.succ_inj.mp h
      have hhead : (if (c ^^ d) = true then X ^ a.length else 0 : (ZMod 2)[X]) =
          (if c = true then X ^ a.length else 0) + if d = true then X ^ b.length else 0 := by
        rw [← hlen]
        cases c <;> cases d <;> simp [CharTwo.add_self_eq_zero]
      rw [List.zipWith_cons_cons, polynomial, List.length_zipWith, ← hlen, Nat.min_self, hhead,
        ih hlen, polynomial, polynomial, add_add_add_comm]

theorem map_not_eq_zipWith (bits : Bits) :
    bits.map (!·) = List.zipWith xor bits (List.replicate bits.length true) := by
  induction bits with
  | nil => rfl
  | cons b bits ih => simp [List.replicate_succ, ih]

theorem polynomial_map_not (bits : Bits) :
    polynomial (bits.map (!·)) =
      polynomial bits + polynomial (List.replicate bits.length true) := by
  rw [map_not_eq_zipWith, polynomial_zipWith_xor (by simp)]

theorem polynomial_complement_take {n : Nat} {bits : Bits} (h : n ≤ bits.length) :
    polynomial ((bits.take n).map (!·) ++ bits.drop n) =
      polynomial bits + X ^ (bits.length - n) * polynomial (List.replicate n true) := by
  have hcut : polynomial bits =
      X ^ (bits.length - n) * polynomial (bits.take n) + polynomial (bits.drop n) := by
    rw [← List.length_drop, ← polynomial_append, List.take_append_drop]
  rw [polynomial_append, polynomial_map_not, List.length_take, Nat.min_eq_left h, List.length_drop,
    hcut]
  ring

theorem degree_polynomial_lt (bits : Bits) : (polynomial bits).degree < bits.length := by
  induction bits with
  | nil => simp [polynomial]
  | cons b bits ih =>
    have hlt : (bits.length : WithBot Nat) < (b :: bits).length :=
      Nat.cast_lt.mpr (Nat.lt_succ_self _)
    refine (degree_add_le _ _).trans_lt (max_lt ?_ (ih.trans hlt))
    cases b with
    | false => simp
    | true => exact (degree_X_pow_le _).trans_lt hlt

theorem monic_polynomial_cons (bits : Bits) : (polynomial (true :: bits)).Monic :=
  monic_X_pow_add (degree_polynomial_lt bits)

theorem degree_polynomial_cons (bits : Bits) :
    (polynomial (true :: bits)).degree = bits.length := by
  rw [polynomial, if_pos rfl, degree_add_eq_left_of_degree_lt, degree_X_pow]
  rw [degree_X_pow]
  exact degree_polynomial_lt bits

noncomputable def ofPolynomial : Nat → (ZMod 2)[X] → Bits
  | 0, _ => []
  | width + 1, p => decide (p.coeff width = 1) :: ofPolynomial width p

theorem ofPolynomial_congr {width : Nat} {p q : (ZMod 2)[X]}
    (h : ∀ i < width, p.coeff i = q.coeff i) : ofPolynomial width p = ofPolynomial width q := by
  induction width with
  | zero => rfl
  | succ width ih =>
    rw [ofPolynomial, ofPolynomial, h width (Nat.lt_succ_self width),
      ih fun i hi => h i (Nat.lt_succ_of_lt hi)]

theorem ofPolynomial_polynomial (bits : Bits) :
    ofPolynomial bits.length (polynomial bits) = bits := by
  induction bits with
  | nil => rfl
  | cons b bits ih =>
    have hlead : (polynomial bits).coeff bits.length = 0 :=
      coeff_eq_zero_of_degree_lt (degree_polynomial_lt bits)
    rw [List.length_cons, ofPolynomial]
    congr 1
    · cases b <;> simp [polynomial, hlead]
    · rw [ofPolynomial_congr fun i hi => ?_, ih]
      have hne : i ≠ bits.length := Nat.ne_of_lt hi
      cases b <;> simp [polynomial, coeff_X_pow, hne]

end CheckedText.Bits

namespace CheckedText

namespace Bits

theorem ofNat_xor (width m n : Nat) :
    ofNat width (m ^^^ n) = List.zipWith xor (ofNat width m) (ofNat width n) := by
  induction width with
  | zero => rfl
  | succ width ih => rw [ofNat, ofNat, ofNat, Nat.testBit_xor, List.zipWith_cons_cons, ih]

def lowFirst (width n : Nat) : Bits :=
  (ofNat width n).reverse

@[simp] theorem length_lowFirst (width n : Nat) : (lowFirst width n).length = width := by
  rw [lowFirst, List.length_reverse, length_ofNat]

theorem lowFirst_succ_cons (width n : Nat) :
    lowFirst (width + 1) n = n.testBit 0 :: lowFirst width (n >>> 1) := by
  rw [lowFirst, ofNat_add, List.reverse_append]
  rfl

theorem lowFirst_succ_append (width n : Nat) :
    lowFirst (width + 1) n = lowFirst width n ++ [n.testBit width] := by
  rw [lowFirst, ofNat, List.reverse_cons]
  rfl

theorem lowFirst_add_of_lt {width n : Nat} (more : Nat) (h : n < 2 ^ width) :
    lowFirst (more + width) n = lowFirst width n ++ List.replicate more false := by
  have hzero : n >>> width = 0 := by rw [Nat.shiftRight_eq_div_pow, Nat.div_eq_of_lt h]
  rw [lowFirst, ofNat_add, hzero, ofNat_zero, List.reverse_append, List.reverse_replicate]
  rfl

theorem polynomial_lowFirst_xor (width m n : Nat) :
    polynomial (lowFirst width (m ^^^ n)) =
      polynomial (lowFirst width m) + polynomial (lowFirst width n) := by
  have hlen : (ofNat width m).length = (ofNat width n).length := by simp
  rw [lowFirst, ofNat_xor, List.reverse_zipWith hlen, polynomial_zipWith_xor (by simp)]
  rfl

end Bits

namespace Crc32

/-- The polynomial of degree 32 that messages are divided by. -/
noncomputable def generator : (ZMod 2)[X] :=
  (Bits.ofNat 33 0x104C11DB7).polynomial

theorem generator_eq : generator = Bits.polynomial (true :: Bits.lowFirst 32 polynomial.toNat) := by
  have hbits : Bits.ofNat 33 0x104C11DB7 = true :: Bits.lowFirst 32 polynomial.toNat := by decide
  rw [generator, hbits]

theorem generator_monic : generator.Monic := by
  rw [generator_eq]
  exact Bits.monic_polynomial_cons _

theorem generator_degree : generator.degree = 32 := by
  rw [generator_eq, Bits.degree_polynomial_cons, Bits.length_lowFirst]
  rfl

noncomputable def held (r : UInt32) : (ZMod 2)[X] :=
  (Bits.lowFirst 32 r.toNat).polynomial

theorem held_degree_lt (r : UInt32) : (held r).degree < generator.degree := by
  have h := Bits.degree_polynomial_lt (Bits.lowFirst 32 r.toNat)
  rw [Bits.length_lowFirst] at h
  rw [generator_degree]
  exact h

theorem held_xor (r s : UInt32) : held (r ^^^ s) = held r + held s := by
  rw [held, UInt32.toNat_xor, Bits.polynomial_lowFirst_xor]
  rfl

theorem generator_eq_add : generator = X ^ 32 + held polynomial := by
  rw [generator_eq, Bits.polynomial, if_pos rfl, Bits.length_lowFirst]
  rfl

theorem X_mul_held (r : UInt32) :
    X * held r = (if r.toNat.testBit 0 then X ^ 32 else 0) + held (r >>> 1) := by
  have htop : (r.toNat >>> 1).testBit 31 = false := by
    rw [Nat.testBit_shiftRight]
    exact Nat.testBit_lt_two_pow r.toNat_lt
  have hmoved : held (r >>> 1) = X * (Bits.lowFirst 31 (r.toNat >>> 1)).polynomial := by
    rw [held, UInt32.toNat_shiftRight]
    change (Bits.lowFirst (31 + 1) (r.toNat >>> 1)).polynomial = _
    rw [Bits.lowFirst_succ_append, htop, Bits.polynomial_append]
    simp [Bits.polynomial]
  have hheld : held r = (if r.toNat.testBit 0 then X ^ 31 else 0) +
      (Bits.lowFirst 31 (r.toNat >>> 1)).polynomial := by
    rw [held, Bits.lowFirst_succ_cons 31, Bits.polynomial, Bits.length_lowFirst]
  rw [hheld, hmoved, mul_add]
  split
  case isTrue => rw [← pow_succ']
  case isFalse => rw [mul_zero]

theorem held_shift (r : UInt32) :
    held (shift r) = X * held r + if r.toNat.testBit 0 then generator else 0 := by
  rw [X_mul_held, Nat.testBit_zero]
  rcases Nat.mod_two_eq_zero_or_one r.toNat with hr | hr
  · rw [shift_of_even hr]
    simp [hr]
  · rw [shift_of_odd hr, held_xor, generator_eq_add]
    simp only [hr, decide_true, if_true]
    rw [add_comm (X ^ 32) (held (r >>> 1)), add_assoc, ← add_assoc (X ^ 32),
      CharTwo.add_self_eq_zero, zero_add]

noncomputable def residue : (ZMod 2)[X] →+* AdjoinRoot generator :=
  AdjoinRoot.mk generator

theorem residue_iterate_shift (n : Nat) (r : UInt32) :
    residue (held (shift^[n] r)) = residue (X ^ n * held r) := by
  have hzero : residue generator = 0 := AdjoinRoot.mk_self
  have hstep (r : UInt32) : residue (held (shift r)) = residue (X * held r) := by
    rw [held_shift, map_add]
    split
    case isTrue => rw [hzero, add_zero]
    case isFalse => rw [map_zero, add_zero]
  induction n generalizing r with
  | zero => simp
  | succ n ih =>
    rw [Function.iterate_succ_apply, ih, map_mul, hstep, ← map_mul, ← mul_assoc, pow_succ]

def messageBits (data : Blob) : Bits :=
  data.flatMap fun b => Bits.lowFirst 8 b.toNat

theorem length_messageBits (data : Blob) : (messageBits data).length = 8 * data.length :=
  Bits.length_flatMap_uniform (fun _ => Bits.length_lowFirst 8 _) data

theorem held_byte (b : UInt8) :
    held b.toUInt32 = X ^ 24 * (Bits.lowFirst 8 b.toNat).polynomial := by
  rw [held, UInt8.toNat_toUInt32, Bits.lowFirst_add_of_lt 24 b.toNat_lt, Bits.polynomial_append,
    Bits.polynomial_replicate_false, List.length_replicate, add_zero]

theorem residue_update (r : UInt32) (b : UInt8) :
    residue (held (update r b)) =
      residue (X ^ 8 * held r + X ^ 32 * (Bits.lowFirst 8 b.toNat).polynomial) := by
  rw [update_eq, residue_iterate_shift, held_xor, held_byte, mul_add, ← mul_assoc, ← pow_add]

theorem residue_foldl_update (data : Blob) (r : UInt32) :
    residue (held (data.foldl update r)) =
      residue (X ^ (8 * data.length) * held r + X ^ 32 * (messageBits data).polynomial) := by
  induction data generalizing r with
  | nil => simp [messageBits, Bits.polynomial]
  | cons b data ih =>
    have hbits : messageBits (b :: data) = Bits.lowFirst 8 b.toNat ++ messageBits data := rfl
    rw [List.foldl_cons, ih, map_add, map_mul, residue_update, ← map_mul, ← map_add, hbits,
      Bits.polynomial_append, length_messageBits, List.length_cons]
    refine congrArg residue ?_
    ring

/-- The message that is divided: the bits of a blob and a zero for each bit of the remainder, with
the first 32 bits complemented. -/
def dividend (data : Blob) : Bits :=
  let bits := messageBits data ++ List.replicate 32 false
  (bits.take 32).map (!·) ++ bits.drop 32

theorem polynomial_dividend (data : Blob) :
    (dividend data).polynomial =
      X ^ (8 * data.length) * held ones + X ^ 32 * (messageBits data).polynomial := by
  have hones : Bits.polynomial (List.replicate 32 true) = held ones :=
    congrArg Bits.polynomial (by decide)
  have hlen : (messageBits data ++ List.replicate 32 false).length = 8 * data.length + 32 := by
    rw [List.length_append, length_messageBits, List.length_replicate]
  rw [dividend, Bits.polynomial_complement_take (by omega), hlen, Nat.add_sub_cancel, hones,
    Bits.polynomial_append, Bits.polynomial_replicate_false, List.length_replicate, add_zero,
    add_comm]

theorem held_eq_remainder (data : Blob) :
    held (data.foldl update ones) = (dividend data).polynomial %ₘ generator := by
  have hself := (modByMonic_eq_self_iff generator_monic).mpr
    (held_degree_lt (data.foldl update ones))
  have hres := residue_foldl_update data ones
  rw [← polynomial_dividend] at hres
  rw [← hself]
  exact modByMonic_eq_of_dvd_sub generator_monic (AdjoinRoot.mk_eq_mk.mp hres)

noncomputable def remainder (data : Blob) : Bits :=
  Bits.ofPolynomial 32 ((dividend data).polynomial %ₘ generator)

theorem remainder_eq (data : Blob) :
    remainder data = Bits.lowFirst 32 (data.foldl update ones).toNat := by
  have hread := Bits.ofPolynomial_polynomial (Bits.lowFirst 32 (data.foldl update ones).toNat)
  rw [Bits.length_lowFirst] at hread
  rw [remainder, ← held_eq_remainder, held, hread]

theorem ofNat_xor_ones (r : UInt32) :
    Bits.ofNat 32 (r ^^^ ones).toNat = (Bits.ofNat 32 r.toNat).map (!·) := by
  have hones : Bits.ofNat 32 ones.toNat = List.replicate 32 true := by decide
  rw [UInt32.toNat_xor, Bits.ofNat_xor, hones, Bits.map_not_eq_zipWith, Bits.length_ofNat]

theorem bigEndian_toBytes (r : UInt32) :
    (toBytes r).foldl (fun n b => 256 * n + b.toNat) 0 = r.toNat := by
  have hread : ofBytes (r >>> 24).toUInt8 (r >>> 16).toUInt8 (r >>> 8).toUInt8 r.toUInt8 = r :=
    toBytes_eq_iff.mp rfl
  have hsum := toNat_ofBytes (r >>> 24).toUInt8 (r >>> 16).toUInt8 (r >>> 8).toUInt8 r.toUInt8
  rw [hread] at hsum
  simp only [toBytes, List.foldl_cons, List.foldl_nil]
  omega

/-- The checksum is what is left of the message after division by the generator, with its bits in
the opposite order and complemented. It takes four bytes, which give it back. -/
theorem checksum_eq_remainder (data : Blob) :
    generator.Monic ∧ generator.degree = 32 ∧
    (checksum data).toNat = Bits.value ((remainder data).reverse.map (!·)) ∧
    (checksum data).toNat < 2 ^ 32 ∧
    (checksumBytes data).length = 4 ∧
    (checksumBytes data).foldl (fun n b => 256 * n + b.toNat) 0 = (checksum data).toNat := by
  refine ⟨generator_monic, generator_degree, ?_, (checksum data).toNat_lt, rfl,
    bigEndian_toBytes (checksum data)⟩
  have hbits : (remainder data).reverse.map (!·) = Bits.ofNat 32 (checksum data).toNat := by
    rw [remainder_eq, Bits.lowFirst, List.reverse_reverse, checksum, ofNat_xor_ones]
  rw [hbits, Bits.value_ofNat_of_lt (checksum data).toNat_lt]

end Crc32

end CheckedText
