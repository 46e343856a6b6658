import CheckedText.Proofs.Except
import CheckedText.Proofs.Packing

/-!
# Texts of symbols

A text is read for its spelling: what is left of it without hyphens and in capitals. The reader
takes exactly those texts that spell symbols, and gives these symbols.
-/

namespace CheckedText.Base32

/-- A text in capitals and without hyphens. -/
def spelling (t : Text) : Text :=
  (t.filter (· ≠ separator)).map Char.toUpper

@[simp] theorem spelling_nil : spelling [] = [] := rfl

theorem spelling_cons_separator (t : Text) : spelling (separator :: t) = spelling t := rfl

theorem spelling_cons {c : Char} (h : c ≠ separator) (t : Text) :
    spelling (c :: t) = c.toUpper :: spelling t := by
  simp [spelling, h]

theorem length_spelling (t : Text) : (spelling t).length = (t.filter (· ≠ separator)).length :=
  List.length_map _

theorem finIdxOf?_char : ∀ v : Symbol,
    (alphabet.finIdxOf? v.char).map (Fin.cast alphabet_length) = some v := by
  decide

theorem char_injective : Function.Injective Symbol.char := by
  intro v w h
  have hv := finIdxOf?_char v
  rw [h, finIdxOf?_char w] at hv
  exact (Option.some.inj hv).symm

theorem take_map_char_eq_iff {vs ws : List Symbol} {n : Nat} :
    (vs.map Symbol.char).take n = (ws.map Symbol.char).take n ↔ vs.take n = ws.take n := by
  rw [← List.map_take, ← List.map_take]
  exact List.map_inj_right fun _ _ h => char_injective h

theorem drop_map_char_eq_iff {vs ws : List Symbol} {n : Nat} :
    (vs.map Symbol.char).drop n = (ws.map Symbol.char).drop n ↔ vs.drop n = ws.drop n := by
  rw [← List.map_drop, ← List.map_drop]
  exact List.map_inj_right fun _ _ h => char_injective h

theorem getElem?_map_char_eq_iff {vs : List Symbol} {n : Nat} {v : Symbol} :
    (vs.map Symbol.char)[n]? = some v.char ↔ vs[n]? = some v := by
  rw [List.getElem?_map]
  constructor
  · intro h
    obtain ⟨w, hw, hchar⟩ := Option.map_eq_some_iff.mp h
    rw [hw, char_injective hchar]
  · intro h
    rw [h]
    rfl

theorem value?_eq_some_iff {c : Char} {v : Symbol} : value? c = some v ↔ c.toUpper = v.char := by
  constructor
  · intro h
    obtain ⟨i, hi, rfl⟩ := Option.map_eq_some_iff.mp h
    exact (List.finIdxOf?_eq_some_iff.mp hi).1.symm
  · intro h
    rw [value?, h, finIdxOf?_char]

def Symbol.letter (lowercase : Bool) (v : Symbol) : Char :=
  if lowercase then v.char.toLower else v.char

theorem toUpper_letter : ∀ (lowercase : Bool) (v : Symbol),
    (v.letter lowercase).toUpper = v.char := by
  decide

theorem letter_ne_separator : ∀ (lowercase : Bool) (v : Symbol),
    v.letter lowercase ≠ separator := by
  decide

theorem char_mem_alphabet (v : Symbol) : v.char ∈ alphabet :=
  List.get_mem _ _

theorem exists_char_of_mem {c : Char} (h : c ∈ alphabet) : ∃ v : Symbol, v.char = c := by
  obtain ⟨i, rfl⟩ := List.get_of_mem h
  exact ⟨i.cast alphabet_length, rfl⟩

theorem isSymbol_iff {c : Char} : isSymbol c = true ↔ ∃ v : Symbol, c.toUpper = v.char := by
  rw [isSymbol, Option.isSome_iff_exists]
  exact exists_congr fun v => value?_eq_some_iff

theorem toLower_toUpper_letter :
    ∀ n < 26, (Char.ofNat (97 + n)).toUpper.toLower = Char.ofNat (97 + n) := by
  decide

theorem toUpper_cases (c : Char) : c.toUpper = c ∨ c.toUpper.toLower = c := by
  by_cases h : 'a'.val ≤ c.val ∧ c.val ≤ 'z'.val
  · right
    have hlow : 97 ≤ c.toNat := h.1
    have hhigh : c.toNat ≤ 122 := h.2
    have hc := toLower_toUpper_letter (c.toNat - 97) (by omega)
    rwa [Nat.add_sub_cancel' hlow, Char.ofNat_toNat] at hc
  · exact .inl (dif_neg h)

theorem isSymbol_iff_mem {c : Char} :
    isSymbol c = true ↔ c ∈ alphabet ∨ c ∈ alphabet.map Char.toLower := by
  rw [isSymbol_iff]
  constructor
  · rintro ⟨v, hv⟩
    rcases toUpper_cases c with hc | hc
    · left
      rw [← hc, hv]
      exact char_mem_alphabet v
    · right
      rw [← hc, hv]
      exact List.mem_map_of_mem (char_mem_alphabet v)
  · rintro (hc | hc)
    · obtain ⟨v, rfl⟩ := exists_char_of_mem hc
      exact ⟨v, toUpper_letter false v⟩
    · obtain ⟨d, hd, rfl⟩ := List.mem_map.mp hc
      obtain ⟨v, rfl⟩ := exists_char_of_mem hd
      exact ⟨v, toUpper_letter true v⟩

theorem isSymbol_eq_false_iff {c : Char} :
    isSymbol c = false ↔ c ∉ alphabet ∧ c ∉ alphabet.map Char.toLower := by
  rw [← Bool.not_eq_true, isSymbol_iff_mem, not_or]

theorem exists_symbols {u : Text} (h : ∀ c ∈ u, c ∈ alphabet) :
    ∃ vs : List Symbol, u = vs.map Symbol.char := by
  induction u with
  | nil => exact ⟨[], rfl⟩
  | cons c u ih =>
    obtain ⟨v, hv⟩ := exists_char_of_mem (h c List.mem_cons_self)
    obtain ⟨vs, hvs⟩ := ih fun d hd => h d (List.mem_cons_of_mem c hd)
    exact ⟨v :: vs, by rw [List.map_cons, hv, hvs]⟩

theorem readFrom_eq_ok_iff {position : Nat} {t : Text} {vs : List Symbol} :
    readFrom position t = .ok vs ↔ spelling t = vs.map Symbol.char := by
  induction t generalizing position vs with
  | nil =>
    cases vs with
    | nil => exact ⟨fun _ => rfl, fun _ => rfl⟩
    | cons v vs => simp [readFrom]
  | cons c t ih =>
    by_cases hc : c = separator
    · subst hc
      rw [readFrom, if_pos rfl, ih, spelling_cons_separator]
    · rw [readFrom, if_neg hc, spelling_cons hc]
      cases hv : value? c with
      | none =>
        simp only [reduceCtorEq, false_iff]
        intro hs
        obtain ⟨v, vs, -, hhead, -⟩ := List.map_eq_cons_iff.mp hs.symm
        rw [value?_eq_some_iff.mpr hhead.symm] at hv
        cases hv
      | some v =>
        have hhead := value?_eq_some_iff.mp hv
        constructor
        · intro h
          obtain ⟨ws, hws, rfl⟩ := Except.map_eq_ok_iff.mp h
          rw [List.map_cons, hhead, ih.mp hws]
        · intro hs
          obtain ⟨w, ws, rfl, hw, htail⟩ := List.map_eq_cons_iff.mp hs.symm
          rw [hhead] at hw
          rw [ih.mpr htail.symm, char_injective hw]
          rfl

theorem map_readSymbols_eq_ok_iff {α : Type} {f : List Symbol → α} {t : Text} {a : α} :
    (readSymbols t).map f = .ok a ↔ ∃ vs, spelling t = vs.map Symbol.char ∧ f vs = a := by
  rw [Except.map_eq_ok_iff]
  exact exists_congr fun vs => and_congr_left fun _ => readFrom_eq_ok_iff

theorem decode_eq_ok_iff {t : Text} {data : Blob} :
    decode t = .ok data ↔ ∃ vs, spelling t = vs.map Symbol.char ∧ bytes vs = data :=
  map_readSymbols_eq_ok_iff

theorem hasCanonicalPadding_eq_ok_iff {t : Text} {b : Bool} :
    hasCanonicalPadding t = .ok b ↔ ∃ vs, spelling t = vs.map Symbol.char ∧ zeroPadded vs = b :=
  map_readSymbols_eq_ok_iff

theorem isSymbol_letter (lowercase : Bool) (v : Symbol) : isSymbol (v.letter lowercase) = true :=
  isSymbol_iff.mpr ⟨v, toUpper_letter lowercase v⟩

theorem spelling_eq_map_toUpper {t : Text} (h : ∀ c ∈ t, isSymbol c = true) :
    spelling t = t.map Char.toUpper := by
  have hkept : t.filter (· ≠ separator) = t := by
    apply List.filter_eq_self.mpr
    intro c hc
    have hne : c ≠ separator := fun he => absurd (he ▸ h c hc) (by decide)
    simpa using hne
  rw [spelling, hkept]

theorem spelling_map_letter (lowercase : Bool) (vs : List Symbol) :
    spelling (vs.map (Symbol.letter lowercase)) = vs.map Symbol.char := by
  induction vs with
  | nil => rfl
  | cons v vs ih =>
    rw [List.map_cons, spelling_cons (letter_ne_separator lowercase v), ih, toUpper_letter,
      List.map_cons]

theorem exists_spelling_iff {t : Text} :
    (∃ vs : List Symbol, spelling t = vs.map Symbol.char) ↔
      ∀ c ∈ t, c = separator ∨ isSymbol c = true := by
  constructor
  · rintro ⟨vs, hvs⟩ c hc
    by_cases hsep : c = separator
    · exact .inl hsep
    · have hmem : c.toUpper ∈ spelling t :=
        List.mem_map_of_mem (List.mem_filter.mpr ⟨hc, by simpa using hsep⟩)
      rw [hvs] at hmem
      obtain ⟨v, -, hv⟩ := List.mem_map.mp hmem
      exact .inr (isSymbol_iff.mpr ⟨v, hv.symm⟩)
  · intro h
    apply exists_symbols
    intro d hd
    obtain ⟨c, hc, rfl⟩ := List.mem_map.mp hd
    obtain ⟨hct, hne⟩ := List.mem_filter.mp hc
    obtain ⟨v, hv⟩ := isSymbol_iff.mp ((h c hct).resolve_left (by simpa using hne))
    rw [hv]
    exact char_mem_alphabet v

end CheckedText.Base32
