import CheckedText.Base32
import Mathlib.Algebra.Group.Nat.Defs

/-!
# Bit strings

Numbers of a fixed width as bit strings, the most significant bit first, and blobs and symbols as
the bit strings that they stand for. Both codes are cuts of one bit string, so what the codec does
is said in terms of `take`, `drop` and `append`.
-/

namespace CheckedText

abbrev Bits := List Bool

namespace Bits

def ofNat : Nat → Nat → Bits
  | 0, _ => []
  | width + 1, n => n.testBit width :: ofNat width n

@[simp] theorem length_ofNat (width n : Nat) : (ofNat width n).length = width := by
  induction width with
  | zero => rfl
  | succ width ih => simp [ofNat, ih]

theorem ofNat_congr {width m n : Nat} (h : ∀ i < width, m.testBit i = n.testBit i) :
    ofNat width m = ofNat width n := by
  induction width with
  | zero => rfl
  | succ width ih =>
    simp only [ofNat, h width (Nat.lt_succ_self width)]
    rw [ih fun i hi => h i (by omega)]

theorem testBit_eq_of_ofNat_eq {width m n : Nat} (h : ofNat width m = ofNat width n) :
    ∀ i < width, m.testBit i = n.testBit i := by
  induction width with
  | zero => intro i hi; omega
  | succ width ih =>
    intro i hi
    simp only [ofNat, List.cons.injEq] at h
    obtain ⟨hhead, htail⟩ := h
    rcases Nat.lt_succ_iff_lt_or_eq.mp hi with hlt | rfl
    · exact ih htail i hlt
    · exact hhead

theorem ofNat_eq_iff {width m n : Nat} :
    ofNat width m = ofNat width n ↔ m % 2 ^ width = n % 2 ^ width := by
  constructor
  · intro h
    apply Nat.eq_of_testBit_eq
    intro i
    simp only [Nat.testBit_mod_two_pow]
    by_cases hi : i < width
    · rw [testBit_eq_of_ofNat_eq h i hi]
    · simp [hi]
  · intro h
    apply ofNat_congr
    intro i hi
    have hb := congrArg (·.testBit i) h
    simpa [Nat.testBit_mod_two_pow, hi] using hb

theorem ofNat_mod (width n : Nat) : ofNat width (n % 2 ^ width) = ofNat width n :=
  ofNat_eq_iff.mpr (Nat.mod_mod n (2 ^ width))

theorem ofNat_zero (width : Nat) : ofNat width 0 = List.replicate width false := by
  induction width with
  | zero => rfl
  | succ width ih => simp [ofNat, ih, List.replicate_succ]

theorem ofNat_eq_replicate_iff {width n : Nat} :
    ofNat width n = List.replicate width false ↔ n % 2 ^ width = 0 := by
  rw [← ofNat_zero, ofNat_eq_iff, Nat.zero_mod]

theorem ofNat_add (high low n : Nat) :
    ofNat (high + low) n = ofNat high (n >>> low) ++ ofNat low n := by
  induction high with
  | zero => simp [ofNat]
  | succ high ih =>
    rw [Nat.succ_add, ofNat, ofNat, ih, Nat.testBit_shiftRight, Nat.add_comm low high]
    rfl

theorem ofNat_push {v : Nat} (high low n : Nat) (hv : v < 2 ^ low) :
    ofNat (high + low) (n <<< low ||| v) = ofNat high n ++ ofNat low v := by
  rw [ofNat_add]
  congr 1
  · apply ofNat_congr
    intro i _
    have hz : v.testBit (low + i) = false :=
      Nat.testBit_lt_two_pow (Nat.lt_of_lt_of_le hv (Nat.pow_le_pow_right (by decide) (by omega)))
    simp [Nat.testBit_shiftRight, Nat.testBit_or, Nat.testBit_shiftLeft, hz]
  · apply ofNat_congr
    intro i hi
    have hlow : ¬ low ≤ i := by omega
    simp [Nat.testBit_or, Nat.testBit_shiftLeft, hlow]

theorem ofNat_injective {width m n : Nat} (hm : m < 2 ^ width) (hn : n < 2 ^ width)
    (h : ofNat width m = ofNat width n) : m = n := by
  have he := ofNat_eq_iff.mp h
  rwa [Nat.mod_eq_of_lt hm, Nat.mod_eq_of_lt hn] at he

def value : Bits → Nat
  | [] => 0
  | b :: bits => b.toNat * 2 ^ bits.length + value bits

theorem value_ofNat (width n : Nat) : value (ofNat width n) = n % 2 ^ width := by
  induction width with
  | zero => simp [ofNat, value, Nat.mod_one]
  | succ width ih =>
    rw [ofNat, value, ih, length_ofNat, Nat.mod_pow_succ, Nat.toNat_testBit, Nat.mul_comm,
      Nat.add_comm]

theorem value_ofNat_of_lt {width n : Nat} (h : n < 2 ^ width) : value (ofNat width n) = n := by
  rw [value_ofNat, Nat.mod_eq_of_lt h]

/-- Of the groups of `width` bits into which a bit string is cut, the one with index `i`. -/
def group (width i : Nat) (bits : Bits) : Bits :=
  (bits.drop (width * i)).take width

theorem group_take {width i n : Nat} (h : width * (i + 1) ≤ n) (bits : Bits) :
    group width i (bits.take n) = group width i bits := by
  rw [Nat.mul_succ] at h
  rw [group, group, List.drop_take, List.take_take, Nat.min_eq_left (by omega)]

end Bits

/-! Lists of items that all take the same number of bits. -/

namespace Bits

section Uniform

variable {α : Type} {width : Nat} {code : α → Bits} (hw : ∀ a, (code a).length = width)
include hw

theorem length_flatMap_uniform (l : List α) : (l.flatMap code).length = width * l.length := by
  induction l with
  | nil => rfl
  | cons a l ih => simp [hw, ih, Nat.mul_succ, Nat.add_comm]

theorem take_flatMap_uniform (l : List α) (k : Nat) :
    (l.flatMap code).take (width * k) = (l.take k).flatMap code := by
  induction l generalizing k with
  | nil => simp
  | cons a l ih =>
    cases k with
    | zero => simp
    | succ k =>
      have hk : width * (k + 1) = (code a).length + width * k := by rw [hw, Nat.mul_succ]; omega
      rw [List.flatMap_cons, hk, List.take_length_add_append, ih]
      rfl

theorem drop_flatMap_uniform (l : List α) (k : Nat) :
    (l.flatMap code).drop (width * k) = (l.drop k).flatMap code := by
  induction l generalizing k with
  | nil => simp
  | cons a l ih =>
    cases k with
    | zero => simp
    | succ k =>
      have hk : width * (k + 1) = (code a).length + width * k := by rw [hw, Nat.mul_succ]; omega
      rw [List.flatMap_cons, hk, List.drop_length_add_append, ih]
      rfl

theorem group_flatMap_uniform {l : List α} {i : Nat} {a : α} (ha : l[i]? = some a) :
    group width i (l.flatMap code) = code a := by
  obtain ⟨hi, rfl⟩ := List.getElem?_eq_some_iff.mp ha
  rw [group, drop_flatMap_uniform hw, List.drop_eq_getElem_cons hi, List.flatMap_cons,
    List.take_left' (hw _)]

theorem flatMap_uniform_injective (hpos : 0 < width) (hinj : Function.Injective code) :
    Function.Injective fun l : List α => l.flatMap code := by
  intro l
  induction l with
  | nil =>
    intro l' h
    have hl := congrArg List.length h
    simp only [length_flatMap_uniform hw, List.length_nil, Nat.mul_zero] at hl
    have hz : l'.length = 0 := (Nat.mul_eq_zero.mp hl.symm).resolve_left (by omega)
    exact (List.length_eq_zero_iff.mp hz).symm
  | cons a l ih =>
    intro l' h
    cases l' with
    | nil =>
      have hl := congrArg List.length h
      simp only [length_flatMap_uniform hw, List.length_cons, List.length_nil, Nat.mul_succ] at hl
      omega
    | cons b l' =>
      simp only [List.flatMap_cons] at h
      obtain ⟨hhead, htail⟩ := List.append_inj h (by rw [hw, hw])
      rw [hinj hhead, ih htail]

end Uniform

end Bits

namespace Base32

def blobBits (data : Blob) : Bits :=
  data.flatMap fun b => Bits.ofNat 8 b.toNat

def symbolBits (vs : List Symbol) : Bits :=
  vs.flatMap fun v => Bits.ofNat 5 v.val

@[simp] theorem length_blobBits (data : Blob) : (blobBits data).length = 8 * data.length :=
  Bits.length_flatMap_uniform (fun _ => Bits.length_ofNat 8 _) data

@[simp] theorem length_symbolBits (vs : List Symbol) : (symbolBits vs).length = 5 * vs.length :=
  Bits.length_flatMap_uniform (fun _ => Bits.length_ofNat 5 _) vs

@[simp] theorem blobBits_cons (b : UInt8) (data : Blob) :
    blobBits (b :: data) = Bits.ofNat 8 b.toNat ++ blobBits data := rfl

@[simp] theorem symbolBits_cons (v : Symbol) (vs : List Symbol) :
    symbolBits (v :: vs) = Bits.ofNat 5 v.val ++ symbolBits vs := rfl

theorem blobBits_append (a b : Blob) : blobBits (a ++ b) = blobBits a ++ blobBits b :=
  List.flatMap_append

theorem symbolBits_append (vs ws : List Symbol) :
    symbolBits (vs ++ ws) = symbolBits vs ++ symbolBits ws :=
  List.flatMap_append

theorem take_blobBits (data : Blob) (k : Nat) :
    (blobBits data).take (8 * k) = blobBits (data.take k) :=
  Bits.take_flatMap_uniform (fun _ => Bits.length_ofNat 8 _) data k

theorem take_symbolBits (vs : List Symbol) (k : Nat) :
    (symbolBits vs).take (5 * k) = symbolBits (vs.take k) :=
  Bits.take_flatMap_uniform (fun _ => Bits.length_ofNat 5 _) vs k

theorem drop_blobBits (data : Blob) (k : Nat) :
    (blobBits data).drop (8 * k) = blobBits (data.drop k) :=
  Bits.drop_flatMap_uniform (fun _ => Bits.length_ofNat 8 _) data k

theorem drop_symbolBits (vs : List Symbol) (k : Nat) :
    (symbolBits vs).drop (5 * k) = symbolBits (vs.drop k) :=
  Bits.drop_flatMap_uniform (fun _ => Bits.length_ofNat 5 _) vs k

theorem blobBits_injective : Function.Injective blobBits := by
  apply Bits.flatMap_uniform_injective (fun _ => Bits.length_ofNat 8 _) (by decide)
  intro a b h
  exact UInt8.toNat_inj.mp (Bits.ofNat_injective a.toNat_lt b.toNat_lt h)

theorem symbolBits_injective : Function.Injective symbolBits := by
  apply Bits.flatMap_uniform_injective (fun _ => Bits.length_ofNat 5 _) (by decide)
  intro v w h
  exact Fin.ext (Bits.ofNat_injective v.isLt w.isLt h)

end Base32

end CheckedText
