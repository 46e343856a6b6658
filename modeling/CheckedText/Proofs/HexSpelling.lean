import CheckedText.Command.Run
import CheckedText.Proofs.Except
import CheckedText.Proofs.Utf8Text

/-!
# Spellings in hexadecimal

A blob can be written in hexadecimal in many ways: with digits of either case, with blanks anywhere,
even inside a byte or inside the mark in front. Reading takes these spellings and nothing else. A
file is read as ASCII first, and what is not ASCII in it is no part of a spelling.
-/

namespace CheckedText

namespace Hex

def IsDigit (c : Char) (n : Nat) : Prop :=
  "0123456789abcdef".toList[n]? = some c ∨ "0123456789ABCDEF".toList[n]? = some c

theorem IsDigit.lt {c : Char} {n : Nat} (h : IsDigit c n) : n < 16 := by
  rcases h with h | h <;> exact (List.getElem?_eq_some_iff.mp h).1

theorem isDigit_ofNat :
    (∀ i < 10, IsDigit (Char.ofNat (48 + i)) (0 + i)) ∧
    (∀ i < 6, IsDigit (Char.ofNat (97 + i)) (10 + i)) ∧
    ∀ i < 6, IsDigit (Char.ofNat (65 + i)) (10 + i) := by
  unfold IsDigit
  decide

theorem isDigit_of_range {c : Char} {low first count : Nat}
    (h : ∀ i < count, IsDigit (Char.ofNat (low + i)) (first + i)) (hlow : low ≤ c.toNat)
    (hhigh : c.toNat < low + count) : IsDigit c (first + (c.toNat - low)) := by
  have hc := h (c.toNat - low) (by omega)
  rwa [Nat.add_sub_cancel' hlow, Char.ofNat_toNat] at hc

theorem bind_digitValue? : ∀ n < 16,
    "0123456789abcdef".toList[n]?.bind digitValue? = some n ∧
    "0123456789ABCDEF".toList[n]?.bind digitValue? = some n := by
  decide

theorem digitValue?_eq_some_iff {c : Char} {n : Nat} : digitValue? c = some n ↔ IsDigit c n := by
  constructor
  · intro h
    obtain ⟨hdecimal, hsmall, hcapital⟩ := isDigit_ofNat
    simp only [digitValue?, Bool.and_eq_true, decide_eq_true_eq] at h
    by_cases h₁ : '0' ≤ c ∧ c ≤ '9'
    · have hlow : 48 ≤ c.toNat := h₁.1
      have hhigh : c.toNat ≤ 57 := h₁.2
      have hc := isDigit_of_range hdecimal hlow (by omega)
      rw [if_pos h₁, Option.some.injEq] at h
      rwa [Nat.zero_add, h] at hc
    rw [if_neg h₁] at h
    by_cases h₂ : 'a' ≤ c ∧ c ≤ 'f'
    · have hlow : 97 ≤ c.toNat := h₂.1
      have hhigh : c.toNat ≤ 102 := h₂.2
      have hc := isDigit_of_range hsmall hlow (by omega)
      rw [if_pos h₂, Option.some.injEq] at h
      rwa [show 10 + (c.toNat - 97) = c.toNat - 87 by omega, h] at hc
    rw [if_neg h₂] at h
    by_cases h₃ : 'A' ≤ c ∧ c ≤ 'F'
    · have hlow : 65 ≤ c.toNat := h₃.1
      have hhigh : c.toNat ≤ 70 := h₃.2
      have hc := isDigit_of_range hcapital hlow (by omega)
      rw [if_pos h₃, Option.some.injEq] at h
      rwa [show 10 + (c.toNat - 65) = c.toNat - 55 by omega, h] at hc
    · simp [h₃] at h
  · intro h
    obtain ⟨hsmall, hcapital⟩ := bind_digitValue? n h.lt
    rcases h with h | h
    · rwa [h] at hsmall
    · rwa [h] at hcapital

def Spells (u : Text) (data : Blob) : Prop :=
  u.length = 2 * data.length ∧
    ∀ i b, data[i]? = some b →
      ∃ c d, u[2 * i]? = some c ∧ u[2 * i + 1]? = some d ∧
        IsDigit c (b.toNat / 16) ∧ IsDigit d (b.toNat % 16)

theorem spells_nil_iff {u : Text} : Spells u [] ↔ u = [] := by
  simp [Spells]

theorem spells_cons_iff {c d : Char} {u : Text} {b : UInt8} {data : Blob} :
    Spells (c :: d :: u) (b :: data) ↔
      IsDigit c (b.toNat / 16) ∧ IsDigit d (b.toNat % 16) ∧ Spells u data := by
  constructor
  · rintro ⟨hlength, hpairs⟩
    obtain ⟨c', d', hc, hd, hhigh, hlow⟩ := hpairs 0 b rfl
    obtain rfl : c = c' := Option.some.inj hc
    obtain rfl : d = d' := Option.some.inj hd
    refine ⟨hhigh, hlow, ?_, fun i b' hb' => hpairs (i + 1) b' hb'⟩
    simp only [List.length_cons] at hlength
    omega
  · rintro ⟨hhigh, hlow, hlength, hpairs⟩
    refine ⟨by simp only [List.length_cons, hlength]; omega, fun i b' hb' => ?_⟩
    cases i with
    | zero =>
      obtain rfl : b = b' := Option.some.inj hb'
      exact ⟨c, d, rfl, rfl, hhigh, hlow⟩
    | succ i => exact hpairs i b' hb'

theorem readPairs?_eq_some_iff {u : Text} {data : Blob} :
    readPairs? u = some data ↔ Spells u data := by
  fun_induction readPairs? u generalizing data with
  | case1 =>
    cases data with
    | nil => simp [spells_nil_iff]
    | cons b data => simp [Spells]
  | case2 c =>
    simp only [reduceCtorEq, false_iff]
    rintro ⟨hlength, -⟩
    simp only [List.length_singleton] at hlength
    omega
  | case3 c d rest ih =>
    cases data with
    | nil => simp [spells_nil_iff, Option.bind_eq_some_iff]
    | cons b data =>
      rw [spells_cons_iff, ← ih]
      simp only [Option.bind_eq_bind, Option.bind_eq_some_iff, Option.pure_def,
        Option.some.injEq, List.cons.injEq, digitValue?_eq_some_iff]
      constructor
      · rintro ⟨high, hhigh, low, hlow, more, hmore, rfl, rfl⟩
        have hhigh' := hhigh.lt
        have hlow' := hlow.lt
        rw [Utf8.toNat_ofNat (by omega), show (16 * high + low) / 16 = high by omega,
          show (16 * high + low) % 16 = low by omega]
        exact ⟨hhigh, hlow, hmore⟩
      · rintro ⟨hhigh, hlow, hmore⟩
        refine ⟨_, hhigh, _, hlow, data, hmore, ?_, rfl⟩
        rw [Nat.div_add_mod, UInt8.ofNat_toNat]

theorem isDigit_digit : ∀ n < 16, IsDigit (digit n) n := by
  unfold IsDigit
  decide

theorem spells_encode (data : Blob) : Spells (encode data) data := by
  induction data with
  | nil => exact spells_nil_iff.mpr rfl
  | cons b data ih =>
    have hbyte := b.toNat_lt
    exact spells_cons_iff.mpr
      ⟨isDigit_digit _ (by omega), isDigit_digit _ (by omega), ih⟩

theorem Spells.isDigit_of_mem {u : Text} {data : Blob} (h : Spells u data) {c : Char}
    (hc : c ∈ u) : ∃ n, IsDigit c n := by
  obtain ⟨hlength, hpairs⟩ := h
  obtain ⟨k, hk⟩ := List.getElem?_of_mem hc
  have hbound := (List.getElem?_eq_some_iff.mp hk).1
  obtain ⟨high, low, hhigh, hlow, hdigits⟩ :=
    hpairs (k / 2) _ (List.getElem?_eq_getElem (by omega))
  rcases Nat.mod_two_eq_zero_or_one k with hk' | hk'
  · rw [show 2 * (k / 2) = k by omega, hk, Option.some.injEq] at hhigh
    exact ⟨_, hhigh ▸ hdigits.1⟩
  · rw [show 2 * (k / 2) + 1 = k by omega, hk, Option.some.injEq] at hlow
    exact ⟨_, hlow ▸ hdigits.2⟩

def marks : List Text :=
  [[], ['0', 'x'], ['0', 'X']]

/-- The digits of a blob, with or without a mark in front and with blanks anywhere. -/
def IsSpelling (t : Text) (data : Blob) : Prop :=
  ∃ mark u, mark ∈ marks ∧ t.filter (!Text.isBlank ·) = mark ++ u ∧ Spells u data

theorem exists_mark (t : Text) : ∃ mark ∈ marks, t = mark ++ dropMark t := by
  fun_cases dropMark t with
  | case1 rest => exact ⟨['0', 'x'], by decide, rfl⟩
  | case2 rest => exact ⟨['0', 'X'], by decide, rfl⟩
  | case3 => exact ⟨[], by decide, rfl⟩

theorem Spells.not_mark {u : Text} {data : Blob} {c : Char} (h : Spells ('0' :: c :: u) data)
    (hc : digitValue? c = none) : False := by
  obtain ⟨n, hn⟩ := h.isDigit_of_mem (List.mem_cons_of_mem '0' List.mem_cons_self)
  rw [digitValue?_eq_some_iff.mpr hn] at hc
  cases hc

theorem Spells.dropMark_eq {u : Text} {data : Blob} (h : Spells u data) : dropMark u = u := by
  fun_cases dropMark u with
  | case1 rest => exact (h.not_mark (by decide)).elim
  | case2 rest => exact (h.not_mark (by decide)).elim
  | case3 => rfl

theorem read?_eq_some_iff {t : Text} {data : Blob} : read? t = some data ↔ IsSpelling t data := by
  rw [read?, readPairs?_eq_some_iff]
  constructor
  · intro h
    obtain ⟨mark, hmark, ht⟩ := exists_mark (Text.dropBlanks t)
    exact ⟨mark, _, hmark, ht, h⟩
  · rintro ⟨mark, u, hmark, ht, hu⟩
    rw [Text.dropBlanks, ht]
    simp only [marks, List.mem_cons, List.not_mem_nil, or_false] at hmark
    rcases hmark with rfl | rfl | rfl
    · rw [List.nil_append, hu.dropMark_eq]
      exact hu
    · exact hu
    · exact hu

theorem mem_mark {mark : Text} (hmark : mark ∈ marks) {c : Char} (hc : c ∈ mark) :
    c = '0' ∨ c = 'x' ∨ c = 'X' := by
  have hall : c ∈ marks.flatten := List.mem_flatten.mpr ⟨mark, hmark, hc⟩
  simp only [marks, List.flatten_cons, List.flatten_nil, List.nil_append, List.cons_append,
    List.mem_cons, List.not_mem_nil, or_false] at hall
  rcases hall with hc | hc | hc | hc <;> simp [hc]

theorem IsSpelling.mem_cases {t : Text} {data : Blob} (h : IsSpelling t data) {c : Char}
    (hc : c ∈ t) : Text.isBlank c = true ∨ c = 'x' ∨ c = 'X' ∨ ∃ n, IsDigit c n := by
  obtain ⟨mark, u, hmark, ht, hu⟩ := h
  by_cases hblank : Text.isBlank c = true
  · exact .inl hblank
  have hkept : c ∈ mark ++ u := by
    rw [← ht]
    exact List.mem_filter.mpr ⟨hc, by simpa using hblank⟩
  rcases List.mem_append.mp hkept with hc | hc
  · rcases mem_mark hmark hc with rfl | hc
    · exact .inr (.inr (.inr ⟨0, isDigit_digit 0 (by decide)⟩))
    · rcases hc with hc | hc
      · exact .inr (.inl hc)
      · exact .inr (.inr (.inl hc))
  · exact .inr (.inr (.inr (hu.isDigit_of_mem hc)))

theorem exists_digit_of_mem_encode {data : Blob} {c : Char} (hc : c ∈ encode data) :
    ∃ n < 16, digit n = c := by
  obtain ⟨b, -, hb⟩ := List.mem_flatMap.mp hc
  have hbyte := b.toNat_lt
  simp only [List.mem_cons, List.not_mem_nil, or_false] at hb
  rcases hb with rfl | rfl
  · exact ⟨_, by omega, rfl⟩
  · exact ⟨_, by omega, rfl⟩

theorem digit_not_blank : ∀ n < 16, Text.isBlank (digit n) = false := by decide

theorem isSpelling_encode (data : Blob) : IsSpelling (encode data) data := by
  refine ⟨[], encode data, List.mem_cons_self, List.filter_eq_self.mpr fun c hc => ?_,
    spells_encode data⟩
  obtain ⟨n, hn, rfl⟩ := exists_digit_of_mem_encode hc
  rw [digit_not_blank n hn, Bool.not_false]

end Hex

namespace Utf8

theorem encode_cons_ascii {c : Char} (hc : c.toNat < 0x80) (t : Text) :
    encode (c :: t) = UInt8.ofNat c.toNat :: encode t := by
  have hchar : String.utf8EncodeChar c = [UInt8.ofNat c.toNat] := if_pos (Nat.le_of_lt_succ hc)
  rw [encode, List.flatMap_cons, hchar, List.singleton_append, encode]

theorem decodeAscii_encode {t : Text} (h : ∀ c ∈ t, c.toNat < 0x80) :
    decodeAscii (encode t) = t := by
  induction t with
  | nil => rfl
  | cons c t ih =>
    rw [List.forall_mem_cons] at h
    have hc : (UInt8.ofNat c.toNat).toNat = c.toNat := toNat_ofNat (by omega)
    have hascii : UInt8.ofNat c.toNat < 0x80 := by
      rw [UInt8.lt_iff_toNat_lt, hc]
      exact h.1
    rw [encode_cons_ascii h.1, decodeAscii, List.map_cons, if_pos hascii, hc, Char.ofNat_toNat,
      ← decodeAscii, ih h.2]

end Utf8

namespace Surroundings

theorem readHex_eq_ok_iff {t : Text} {data : Blob} :
    readHex t = .ok data ↔ Hex.IsSpelling t data := by
  rw [← Hex.read?_eq_some_iff, readHex]
  cases Hex.read? t <;> simp

theorem readHex_of_not_isSpelling {t : Text} (h : ∀ data, ¬ Hex.IsSpelling t data) :
    readHex t = .error .inputNotHex := by
  cases ht : Hex.read? t with
  | none => rw [readHex, ht]
  | some data => exact absurd (Hex.read?_eq_some_iff.mp ht) (h data)

theorem readBlob_of_ascii {s : Surroundings} {stdin : Blob} {path t : Text}
    (ht : ∀ c ∈ t, c.toNat < 0x80) (hfile : s.readFile stdin path = .ok (Utf8.encode t)) :
    s.readBlob stdin none (some path) true = s.readBlob stdin (some t) none true := by
  simp only [readBlob, hfile]
  change readHex (Utf8.decodeAscii (Utf8.encode t)) = readHex t
  rw [Utf8.decodeAscii_encode ht]

theorem readBlob_of_not_ascii {s : Surroundings} {stdin raw : Blob} {path : Text} {b : UInt8}
    (hb : b ∈ raw) (hbyte : 0x80 ≤ b.toNat) (hfile : s.readFile stdin path = .ok raw) :
    s.readBlob stdin none (some path) true = .error .inputNotHex := by
  simp only [readBlob, hfile]
  change readHex (Utf8.decodeAscii raw) = .error .inputNotHex
  apply readHex_of_not_isSpelling
  intro data hdata
  have hreplaced : Char.ofNat 0xFFFD ∈ Utf8.decodeAscii raw := by
    refine List.mem_map.mpr ⟨b, hb, if_neg ?_⟩
    exact UInt8.not_lt.mpr (UInt8.le_iff_toNat_le.mpr hbyte)
  rcases hdata.mem_cases hreplaced with hc | hc | hc | ⟨n, hn⟩
  · revert hc
    decide
  · revert hc
    decide
  · revert hc
    decide
  · have hnone : Hex.digitValue? (Char.ofNat 0xFFFD) = none := by decide
    rw [Hex.digitValue?_eq_some_iff.mpr hn] at hnone
    cases hnone

/-- Reading in hexadecimal takes the spellings of a blob and nothing else. What is written is one of
them, and it makes no difference whether an ASCII text is given as an argument or in a file. A file
that is not ASCII is refused. -/
theorem readHex_iff_spelling :
    (∀ (t : Text) (data : Blob), readHex t = .ok data ↔ Hex.IsSpelling t data) ∧
    (∀ t : Text, (∀ data, ¬ Hex.IsSpelling t data) →
      ∃ f : Failure, readHex t = .error f ∧ f.family = .value ∧
        f.message = "input is not valid hex".toList) ∧
    (∀ data : Blob, readHex (Hex.encode data) = .ok data) ∧
    ∀ (s : Surroundings) (stdin : Blob) (path : Text),
      (∀ t : Text, (∀ c ∈ t, c.toNat < 0x80) → s.readFile stdin path = .ok (Utf8.encode t) →
        s.readBlob stdin none (some path) true = s.readBlob stdin (some t) none true) ∧
      ∀ raw : Blob, (∃ b ∈ raw, 0x80 ≤ b.toNat) → s.readFile stdin path = .ok raw →
        s.readBlob stdin none (some path) true = .error .inputNotHex := by
  refine ⟨fun t data => readHex_eq_ok_iff, fun t ht => ?_, fun data => ?_,
    fun s stdin path => ⟨fun t ht hfile => readBlob_of_ascii ht hfile, ?_⟩⟩
  · exact ⟨.inputNotHex, readHex_of_not_isSpelling ht, rfl, rfl⟩
  · exact readHex_eq_ok_iff.mpr (Hex.isSpelling_encode data)
  · rintro raw ⟨b, hb, hbyte⟩ hfile
    exact readBlob_of_not_ascii hb hbyte hfile

theorem readHex_iff_spelling_spaced :
    let tree : FileTree := ⟨[([['h']], .file (Utf8.encode "0 X4\ta\n".toList))], []⟩
    let s : Surroundings := ⟨tree, ⟨[], [], []⟩, .linux, ⟨.slash, []⟩, .plain⟩
    s.readBlob [] (some "0 X4\ta\n".toList) none true = .ok [0x4A] ∧
      s.readBlob [] none (some "/h".toList) true = .ok [0x4A] ∧
      readHex (Hex.encode [0x4A]) = .ok [0x4A] := by
  intro tree s
  have hargument : s.readBlob [] (some "0 X4\ta\n".toList) none true = .ok [0x4A] := by
    apply (readHex_iff_spelling.1 "0 X4\ta\n".toList [0x4A]).mpr
    exact ⟨['0', 'X'], ['4', 'a'], by decide, by decide, Hex.readPairs?_eq_some_iff.mp rfl⟩
  have hall : "0 X4\ta\n".toList.all (·.toNat < 0x80) = true := by decide
  have hascii : ∀ c ∈ "0 X4\ta\n".toList, c.toNat < 0x80 := fun c hc => by
    simpa using List.all_eq_true.mp hall c hc
  have hfile : s.readFile [] "/h".toList = .ok (Utf8.encode "0 X4\ta\n".toList) :=
    Except.toOption_eq_some_iff.mp (by decide +kernel +zetaReduce)
  obtain ⟨-, -, hencode, hroutes⟩ := readHex_iff_spelling
  exact ⟨hargument, by rw [(hroutes s [] _).1 _ hascii hfile, hargument], hencode _⟩

end Surroundings

end CheckedText
