import CheckedText.Proofs.PrintedText

/-!
# What quoting shows

A quoted text holds the printable characters of the text and those that escapes are made of. None
of them is changed when it is printed, and a bracket is there only if the text has one.
-/

namespace CheckedText.Text

def escapeSymbols : Text :=
  "'\"\\nrtxuU0123456789abcdef".toList

theorem digitChar_mem_escapeSymbols : ∀ d < 16, Nat.digitChar d ∈ escapeSymbols := by decide

theorem mem_toDigits {base n : Nat} {c : Char} (hlow : 1 < base) (hhigh : base ≤ 16)
    (hc : c ∈ Nat.toDigits base n) : c ∈ escapeSymbols := by
  induction n using Nat.strongRecOn with
  | ind n ih =>
    rw [Nat.toDigits_eq_if hlow] at hc
    split at hc
    case isTrue hn =>
      rw [List.mem_singleton.mp hc]
      exact digitChar_mem_escapeSymbols n (Nat.lt_of_lt_of_le hn hhigh)
    case isFalse hn =>
      rcases List.mem_append.mp hc with hc | hc
      · exact ih (n / base) (Nat.div_lt_self (by omega) hlow) hc
      · rw [List.mem_singleton.mp hc]
        exact digitChar_mem_escapeSymbols _
          (Nat.lt_of_lt_of_le (Nat.mod_lt n (by omega)) hhigh)

theorem mem_decimal {n : Nat} {c : Char} (hc : c ∈ decimal n) : c ∈ escapeSymbols :=
  mem_toDigits (by decide) (by decide) hc

theorem mem_hexadecimal {width n : Nat} {c : Char} (hc : c ∈ hexadecimal width n) :
    c ∈ escapeSymbols := by
  rcases List.mem_append.mp hc with hc | hc
  · rw [List.eq_of_mem_replicate hc]
    decide
  · exact mem_toDigits (by decide) (by decide) hc

theorem mem_escapeCode {n : Nat} {c : Char} (hc : c ∈ escapeCode n) : c ∈ escapeSymbols := by
  have hescape {kind : Char} {width : Nat} (hkind : kind ∈ escapeSymbols)
      (hc : c ∈ '\\' :: kind :: hexadecimal width n) : c ∈ escapeSymbols := by
    rcases List.mem_cons.mp hc with rfl | hc
    · decide
    · rcases List.mem_cons.mp hc with rfl | hc
      · exact hkind
      · exact mem_hexadecimal hc
  unfold escapeCode at hc
  split at hc
  case isTrue => exact hescape (by decide) hc
  case isFalse =>
    split at hc
    case isTrue => exact hescape (by decide) hc
    case isFalse => exact hescape (by decide) hc

theorem quoteMark_mem (t : Text) : quoteMark t ∈ escapeSymbols := by
  unfold quoteMark
  split <;> decide

theorem mem_escapeChar {mark c d : Char} (hmark : mark ∈ escapeSymbols)
    (hd : d ∈ escapeChar mark c) : d = c ∧ isPrintable c = true ∨ d ∈ escapeSymbols := by
  have hpair {e : Char} (he : e ∈ escapeSymbols) (hd : d ∈ ['\\', e]) : d ∈ escapeSymbols := by
    rcases List.mem_cons.mp hd with rfl | hd
    · decide
    · rwa [List.mem_singleton.mp hd]
  unfold escapeChar at hd
  split at hd
  case isTrue hc =>
    right
    refine hpair ?_ hd
    rcases Bool.or_eq_true_iff.mp hc with hc | hc
    · rwa [of_decide_eq_true hc]
    · rw [of_decide_eq_true hc]
      decide
  split at hd
  case isTrue => exact .inr (hpair (by decide) hd)
  split at hd
  case isTrue => exact .inr (hpair (by decide) hd)
  split at hd
  case isTrue => exact .inr (hpair (by decide) hd)
  split at hd
  case isTrue hprintable => exact .inl ⟨List.mem_singleton.mp hd, hprintable⟩
  case isFalse => exact .inr (mem_escapeCode hd)

theorem mem_quote {t : Text} {d : Char} (hd : d ∈ quote t) :
    d ∈ t ∧ isPrintable d = true ∨ d ∈ escapeSymbols := by
  have hmark := quoteMark_mem t
  rw [quote, List.cons_append, List.mem_cons, List.mem_append, List.mem_singleton] at hd
  rcases hd with rfl | hd | rfl
  · exact .inr hmark
  · obtain ⟨c, hc, hd⟩ := List.mem_flatMap.mp hd
    rcases mem_escapeChar hmark hd with ⟨rfl, hprintable⟩ | hd
    · exact .inl ⟨hc, hprintable⟩
    · exact .inr hd
  · exact .inr hmark

theorem bracket_not_mem_quote {t : Text} (h : '[' ∉ t) : '[' ∉ quote t := by
  intro hmem
  rcases mem_quote hmem with hmem | hmem
  · exact h hmem.1
  · exact absurd hmem (by decide)

theorem toNat_of_isPrintable {c : Char} (h : isPrintable c = true) : 0x20 ≤ c.toNat := by
  unfold isPrintable at h
  split at h
  case isTrue => exact of_decide_eq_true (Bool.and_eq_true_iff.mp h).1
  case isFalse hascii => omega

end CheckedText.Text

namespace CheckedText.Console

theorem isKept_of_le {c : Char} (h : 0x20 ≤ c.toNat) : IsKept c := by
  have hne (d : Char) (hd : d.toNat < 0x20) : c ≠ d := fun he => by rw [he] at h; omega
  refine ⟨?_, hne '\t' (by decide), hne '\n' (by decide)⟩
  simp only [isDropped, Bool.or_eq_false_iff, decide_eq_false_iff_not]
  omega

theorem isKept_of_all {t : Text} (h : t.all (0x20 ≤ ·.toNat) = true) : ∀ c ∈ t, IsKept c :=
  fun c hc => isKept_of_le (of_decide_eq_true (List.all_eq_true.mp h c hc))

theorem isKept_of_mem_escapeSymbols {c : Char} (h : c ∈ Text.escapeSymbols) : IsKept c :=
  isKept_of_all (by decide) c h

theorem isKept_of_mem_quote {t : Text} {c : Char} (h : c ∈ Text.quote t) : IsKept c := by
  rcases Text.mem_quote h with ⟨-, hprintable⟩ | hescape
  · exact isKept_of_le (Text.toNat_of_isPrintable hprintable)
  · exact isKept_of_mem_escapeSymbols hescape

end CheckedText.Console
