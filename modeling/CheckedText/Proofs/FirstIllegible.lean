import CheckedText.Proofs.CanonicalText
import Mathlib.Order.Nat

/-!
# Texts that cannot be read

A text is read from its start, so the first character that is neither a hyphen nor a symbol is the
one that is reported, with its place in the text. Every other text is read, and its bytes are
groups of the bits of its symbols.
-/

namespace CheckedText

/-- At an index there is a character with a property, and none stands before it. -/
def FirstAt (p : Char → Prop) (t : Text) (i : Nat) (c : Char) : Prop :=
  IsLeast {j | ∃ d, t[j]? = some d ∧ p d} i ∧ t[i]? = some c

section FirstAt

variable {p : Char → Prop} {t : Text} {i : Nat} {c : Char}

theorem firstAt_iff_append : FirstAt p t i c ↔
    ∃ before after, t = before ++ c :: after ∧ before.length = i ∧ p c ∧
      ∀ d ∈ before, ¬ p d := by
  constructor
  · rintro ⟨⟨⟨d, hd, hp⟩, hleast⟩, hc⟩
    obtain rfl : d = c := Option.some.inj (hd.symm.trans hc)
    obtain ⟨hi, rfl⟩ := List.getElem?_eq_some_iff.mp hc
    refine ⟨t.take i, t.drop (i + 1), ?_, List.length_take_of_le (Nat.le_of_lt hi), hp, ?_⟩
    · rw [← List.drop_eq_getElem_cons hi, List.take_append_drop]
    · intro e he hpe
      obtain ⟨j, hj⟩ := List.mem_iff_getElem?.mp he
      rw [List.getElem?_take] at hj
      split at hj
      case isTrue hlt => exact absurd (hleast ⟨e, hj, hpe⟩) (Nat.not_le.mpr hlt)
      case isFalse => cases hj
  · rintro ⟨before, after, rfl, rfl, hp, hbefore⟩
    have hc : (before ++ c :: after)[before.length]? = some c := by simp
    refine ⟨⟨⟨c, hc, hp⟩, ?_⟩, hc⟩
    rintro j ⟨d, hd, hpd⟩
    apply Nat.not_lt.mp
    intro hlt
    rw [List.getElem?_append_left hlt] at hd
    exact hbefore d (List.mem_of_getElem? hd) hpd

theorem exists_firstAt (h : ∃ c ∈ t, p c) : ∃ i c, FirstAt p t i c := by
  classical
  obtain ⟨c, hmem, hp⟩ := h
  obtain ⟨j, hj⟩ := List.mem_iff_getElem?.mp hmem
  have hsome : ∃ j d, t[j]? = some d ∧ p d := ⟨j, c, hj, hp⟩
  obtain ⟨d, hd, -⟩ := Nat.find_spec hsome
  exact ⟨Nat.find hsome, d, Nat.isLeast_find hsome, hd⟩

end FirstAt

namespace Base32

def Legible (c : Char) : Prop :=
  c = '-' ∨ c ∈ alphabet ∨ c ∈ alphabet.map Char.toLower

instance (c : Char) : Decidable (Legible c) :=
  inferInstanceAs (Decidable (_ ∨ _ ∨ _))

theorem legible_iff {c : Char} : Legible c ↔ c = separator ∨ isSymbol c = true := by
  rw [isSymbol_iff_mem]
  rfl

theorem readFrom_illegible {before after : Text} {c : Char} (position : Nat)
    (hbefore : ∀ d ∈ before, Legible d) (hc : ¬ Legible c) :
    readFrom position (before ++ c :: after) = .error ⟨c, position + before.length⟩ := by
  induction before generalizing position with
  | nil =>
    rw [legible_iff, not_or, isSymbol, Bool.not_eq_true, Option.isSome_eq_false_iff,
      Option.isNone_iff_eq_none] at hc
    rw [List.nil_append, readFrom, if_neg hc.1, hc.2]
    rfl
  | cons d before ih =>
    have hrest := ih (position + 1) fun e he => hbefore e (List.mem_cons_of_mem d he)
    rw [Nat.add_assoc, Nat.add_comm 1] at hrest
    rw [List.cons_append, readFrom, hrest]
    rcases legible_iff.mp (hbefore d List.mem_cons_self) with hd | hd
    · rw [if_pos hd]
      rfl
    · obtain ⟨v, hv⟩ := Option.isSome_iff_exists.mp hd
      split
      case isTrue => rfl
      case isFalse =>
        rw [hv]
        rfl

theorem readSymbols_of_firstAt {t : Text} {i : Nat} {c : Char}
    (h : FirstAt (¬ Legible ·) t i c) : readSymbols t = .error ⟨c, i⟩ := by
  obtain ⟨before, after, rfl, rfl, hc, hbefore⟩ := firstAt_iff_append.mp h
  have hlegible : ∀ d ∈ before, Legible d := fun d hd => Decidable.not_not.mp (hbefore d hd)
  rw [readSymbols, readFrom_illegible 0 hlegible hc, Nat.zero_add]

theorem exists_spelling_iff_legible {t : Text} :
    (∃ vs : List Symbol, spelling t = vs.map Symbol.char) ↔ ∀ c ∈ t, Legible c := by
  simp only [exists_spelling_iff, legible_iff]

theorem spelled_or_firstAt (t : Text) :
    (∃ vs : List Symbol, spelling t = vs.map Symbol.char) ∨
      ∃ i c, FirstAt (¬ Legible ·) t i c := by
  by_cases hall : ∀ c ∈ t, Legible c
  · exact .inl (exists_spelling_iff_legible.mpr hall)
  · exact .inr (exists_firstAt (by simpa using hall))

theorem readSymbols_eq_error_iff {t : Text} {c : Char} {i : Nat} :
    readSymbols t = .error ⟨c, i⟩ ↔ FirstAt (¬ Legible ·) t i c := by
  refine ⟨fun h => ?_, readSymbols_of_firstAt⟩
  rcases spelled_or_firstAt t with ⟨vs, hvs⟩ | ⟨j, d, hfirst⟩
  · rw [readSymbols, readFrom_eq_ok_iff.mpr hvs] at h
    cases h
  · rw [readSymbols_of_firstAt hfirst] at h
    cases h
    exact hfirst

theorem position_lt_length {t : Text} {e : InvalidCharacter} (h : readSymbols t = .error e) :
    e.position < t.length := by
  have hfirst := readSymbols_eq_error_iff.mp h
  exact (List.getElem?_eq_some_iff.mp hfirst.2).1

/-- A text with a character that cannot be read is refused for the first such character. Any other
text gives the whole bytes of the bits of its symbols. -/
theorem decode_eq_first_illegible_or_groups (t : Text) :
    ((∃ c ∈ t, ¬ Legible c) →
      ∃ i c, FirstAt (¬ Legible ·) t i c ∧ decode t = .error ⟨c, i⟩ ∧
        hasCanonicalPadding t = .error ⟨c, i⟩) ∧
    ((∀ c ∈ t, Legible c) →
      ∃ (vs : List Symbol) (data : Blob), spelling t = vs.map Symbol.char ∧
        decode t = .ok data ∧ data.length = 5 * vs.length / 8 ∧
        ∀ k < data.length, data[k]?.map UInt8.toNat =
          some (Bits.value (Bits.group 8 k (symbolBits vs)))) := by
  constructor
  · intro hsome
    obtain ⟨i, c, hfirst⟩ := exists_firstAt hsome
    refine ⟨i, c, hfirst, ?_, ?_⟩
    · rw [decode, readSymbols_of_firstAt hfirst]
      rfl
    · rw [hasCanonicalPadding, readSymbols_of_firstAt hfirst]
      rfl
  · intro hall
    obtain ⟨vs, hvs⟩ := exists_spelling_iff.mpr fun c hc => legible_iff.mp (hall c hc)
    exact ⟨vs, bytes vs, hvs, decode_eq_ok_iff.mpr ⟨vs, hvs, rfl⟩, length_bytes vs,
      fun k hk => bytes_getElem? hk⟩

theorem decode_reports_first_illegible_else_groups :
    (FirstAt (¬ Legible ·) "m-1z!".toList 2 '1' ∧ decode "m-1z!".toList = .error ⟨'1', 2⟩ ∧
      hasCanonicalPadding "m-1z!".toList = .error ⟨'1', 2⟩) ∧
    decode "m-Z".toList = .ok [0x66] ∧
      Bits.value (Bits.group 8 0 (symbolBits [12, 25])) = 0x66 := by
  constructor
  · obtain ⟨i, c, hfirst, hdecode, hpadding⟩ :=
      (decode_eq_first_illegible_or_groups "m-1z!".toList).1 ⟨'1', by decide, by decide⟩
    have hreport : decode "m-1z!".toList = .error ⟨'1', 2⟩ := rfl
    rw [hreport] at hdecode
    cases hdecode
    exact ⟨hfirst, hreport, hpadding⟩
  · have hall : "m-Z".toList.all (Legible ·) = true := by decide
    obtain ⟨vs, data, hspell, hdecode, hlength, hgroups⟩ :=
      (decode_eq_first_illegible_or_groups "m-Z".toList).2
        fun c hc => of_decide_eq_true (List.all_eq_true.mp hall c hc)
    obtain rfl : [12, 25] = vs :=
      (List.map_inj_right fun _ _ h => char_injective h).mp (show _ = _ from hspell)
    have hdata : decode "m-Z".toList = .ok [0x66] := rfl
    rw [hdata] at hdecode
    cases hdecode
    exact ⟨hdata, (Option.some.inj (hgroups 0 (by decide))).symm⟩

end Base32

end CheckedText
