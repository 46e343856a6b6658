import CheckedText.Command.Spelling
import CheckedText.Proofs.Except

/-!
# Formats that can be asked for

Whatever a configuration holds, a format that is read from it can be used: groups are not empty,
the separator cannot be taken for symbols, and lines have room. A line length on the command line
is a length or zero.
-/

namespace CheckedText

namespace Config

theorem groupSize_pos {v : Option Toml.Value} {n : Int} (h : groupSize v = .ok n) : 0 < n := by
  obtain ⟨m, -, hm⟩ := Except.bind_eq_ok_iff.mp h
  cases m with
  | none =>
    cases hm
    decide
  | some k =>
    dsimp only at hm
    split at hm
    case isTrue => cases hm
    case isFalse hpos =>
      cases hm
      omega

theorem lineLength_pos {v : Option Toml.Value} {n : Int} (h : lineLength v = .ok (some n)) :
    0 < n := by
  obtain ⟨m, -, hm⟩ := Except.bind_eq_ok_iff.mp h
  cases m with
  | none => cases hm
  | some k =>
    dsimp only at hm
    split at hm
    case isTrue => cases hm
    case isFalse hnotNegative =>
      split at hm
      case isTrue => cases hm
      case isFalse hne =>
        cases hm
        omega

theorem separator_not_symbol {field : Text} {v : Option Toml.Value} {t : Text}
    (h : separator field v = .ok t) : ∀ c ∈ t, Base32.isSymbol c = false := by
  unfold separator at h
  split at h
  case h_1 =>
    cases h
    intro c hc
    rw [List.mem_singleton.mp hc]
    decide
  case h_2 s =>
    split at h
    case isTrue => cases h
    case isFalse hany =>
      cases h
      simpa using hany
  case h_3 => cases h

end Config

/-- What the settings of a format promise to those who use it. -/
structure Format.Valid (f : Format) : Prop where
  groupSize_pos : 0 < f.groupSize
  separator_not_symbol : ∀ c ∈ f.separator, Base32.isSymbol c = false
  lineLength_pos : ∀ n, f.lineLength = some n → 0 < n

theorem Format.valid_of_ofTable {t : Toml.Table} {f : Format} (h : Format.ofTable t = .ok f) :
    f.Valid := by
  obtain ⟨size, hsize, h⟩ := Except.bind_eq_ok_iff.mp h
  obtain ⟨length, hlength, h⟩ := Except.bind_eq_ok_iff.mp h
  obtain ⟨separator, hseparator, h⟩ := Except.bind_eq_ok_iff.mp h
  obtain ⟨letterCase, -, h⟩ := Except.bind_eq_ok_iff.mp h
  obtain ⟨checksum, -, h⟩ := Except.bind_eq_ok_iff.mp h
  cases h
  constructor
  case groupSize_pos => exact Config.groupSize_pos hsize
  case separator_not_symbol => exact Config.separator_not_symbol hseparator
  case lineLength_pos =>
    rintro n rfl
    exact Config.lineLength_pos hlength

theorem lineLengthOption_nonneg {p : Options.Parsed} {n : Int}
    (h : lineLengthOption p = .ok (some n)) : 0 ≤ n := by
  unfold lineLengthOption at h
  split at h
  case h_1 => cases h
  case h_2 t _ =>
    split at h
    case h_1 => cases h
    case h_2 => cases h
    case h_3 m _ =>
      split at h
      case isTrue => cases h
      case isFalse hnotNegative =>
        cases h
        omega

theorem Encode.Options.lineLength_nonneg {p : Options.Parsed} {o : Encode.Options}
    (h : Encode.Options.ofParsed p = .ok o) : ∀ n, o.lineLength = some n → 0 ≤ n := by
  obtain ⟨length, hlength, h⟩ := Except.bind_eq_ok_iff.mp h
  obtain ⟨data, -, h⟩ := Except.bind_eq_ok_iff.mp h
  cases h
  rintro n rfl
  exact lineLengthOption_nonneg hlength

theorem Encode.lineLimit_nonneg {f : Format} {o : Encode.Options} (hf : f.Valid)
    (ho : ∀ n, o.lineLength = some n → 0 ≤ n) : 0 ≤ lineLimit f o := by
  unfold lineLimit
  cases hlength : o.lineLength with
  | some n => exact ho n hlength
  | none =>
    cases hdefault : f.lineLength with
    | none => decide
    | some n => exact Int.le_of_lt (hf.lineLength_pos n hdefault)

end CheckedText
