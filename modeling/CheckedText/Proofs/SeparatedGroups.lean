import CheckedText.Proofs.EncodedText
import CheckedText.Proofs.InvalidCharacter

/-!
# Identifiers in groups

An identifier is read from the text as it stands, so between its groups only hyphens are passed
over. Any other separator is met right after the first group, and its first character that is not a
hyphen is refused. An identifier that fits into one group has no separator.
-/

namespace CheckedText.Grouping

open Base32 (Legible encodedLength letters)

theorem chunks_eq_singleton {size : Nat} {t : Text} (hne : t ≠ []) (hlen : t.length ≤ size) :
    chunks size t = [t] := by
  cases t with
  | nil => exact absurd rfl hne
  | cons c rest =>
    have hrest : rest.drop (size - 1) = [] := by
      apply List.drop_eq_nil_of_le
      simp only [List.length_cons] at hlen
      omega
    rw [chunks, List.take_of_length_le hlen, hrest, chunks]

theorem chunks_eq_cons_cons {size : Nat} {t : Text} (hsize : 0 < size) (hlen : size < t.length) :
    ∃ next more, chunks size t = t.take size :: next :: more := by
  cases t with
  | nil => simp at hlen
  | cons c rest =>
    cases hrest : rest.drop (size - 1) with
    | nil =>
      rw [List.drop_eq_nil_iff] at hrest
      simp only [List.length_cons] at hlen
      omega
    | cons d after => exact ⟨_, _, by rw [chunks, hrest, chunks]⟩

def identifierLetters (lowercase : Bool) (data : Blob) : Text :=
  letters lowercase (Crc32.checksumBytes data ++ data)

theorem length_identifierLetters (lowercase : Bool) (data : Blob) :
    (identifierLetters lowercase data).length = encodedLength (4 + data.length) := by
  simp [identifierLetters, letters, Identifier.length_checksumBytes]

theorem identifierLetters_ne_nil (lowercase : Bool) (data : Blob) :
    identifierLetters lowercase data ≠ [] := by
  apply List.ne_nil_of_length_pos
  rw [length_identifierLetters, encodedLength]
  omega

theorem legible_of_mem_identifierLetters {lowercase : Bool} {data : Blob} {c : Char}
    (hc : c ∈ identifierLetters lowercase data) : Legible c := by
  obtain ⟨v, -, rfl⟩ := List.mem_map.mp hc
  exact Base32.legible_iff.mpr (.inr (Base32.isSymbol_letter lowercase v))

theorem decode_of_filter {lowercase : Bool} {data : Blob} {t : Text}
    (h : t.filter (· ≠ Base32.separator) =
      (identifierLetters lowercase data).filter (· ≠ Base32.separator)) :
    Identifier.decode t = .ok data := by
  apply Identifier.decode_eq_ok_iff.mpr
  refine ⟨_, ?_, Base32.bytes_symbols _⟩
  rw [Base32.spelling, h]
  exact Base32.spelling_map_letter lowercase _

def formatted (size : Nat) (separator : Text) (lowercase : Bool) (data : Blob) : Text :=
  separator.intercalate (chunks size (identifierLetters lowercase data))

theorem format_eq {size : Int} {separator : Text} (hsize : 0 < size)
    (hsep : ∀ c ∈ separator, Base32.isSymbol c = false) (lowercase : Bool) (data : Blob) :
    format size separator lowercase data =
      .ok (formatted size.toNat separator lowercase data) := by
  rw [format, group_eq hsize hsep, Identifier.encode, Base32.cased_encode, formatted,
    identifierLetters]

section Reading

variable {size : Nat} {separator : Text} {lowercase : Bool} {data : Blob}

theorem decode_hyphenated (hsize : 0 < size) (hhyphens : ∀ c ∈ separator, c = '-') :
    Identifier.decode (formatted size separator lowercase data) = .ok data := by
  have hskipped : separator.filter (· ≠ Base32.separator) = [] := by
    apply List.filter_eq_nil_iff.mpr
    intro c hc
    simp [hhyphens c hc, Base32.separator]
  apply decode_of_filter
  rw [formatted, filter_intercalate hskipped, flatten_chunks hsize]

theorem decode_single_group (hfits : encodedLength (4 + data.length) ≤ size) :
    Identifier.decode (formatted size separator lowercase data) = .ok data := by
  rw [← length_identifierLetters lowercase] at hfits
  apply decode_of_filter
  rw [formatted, chunks_eq_singleton (identifierLetters_ne_nil lowercase data) hfits,
    List.intercalate_singleton]

theorem decode_separated (hsize : 0 < size) (hlong : size < encodedLength (4 + data.length))
    (hsep : ∀ c ∈ separator, Base32.isSymbol c = false) {j : Nat} {c : Char}
    (hfirst : FirstAt (· ≠ '-') separator j c) :
    Identifier.decode (formatted size separator lowercase data) =
      .error (.character ⟨c, size + j⟩) := by
  rw [← length_identifierLetters lowercase] at hlong
  obtain ⟨next, more, hchunks⟩ := chunks_eq_cons_cons hsize hlong
  obtain ⟨before, after, rfl, rfl, hc, hbefore⟩ := firstAt_iff_append.mp hfirst
  -- the refused character stands behind the first group and the hyphens in front of it
  let read := (identifierLetters lowercase data).take size ++ before
  have htext : formatted size (before ++ c :: after) lowercase data =
      read ++ c :: (after ++ (before ++ c :: after).intercalate (next :: more)) := by
    simp [formatted, hchunks, read]
  have hlegible : ∀ d ∈ read, Legible d := by
    intro d hd
    rcases List.mem_append.mp hd with hd | hd
    · exact legible_of_mem_identifierLetters (List.mem_of_mem_take hd)
    · exact .inl (Decidable.not_not.mp (hbefore d hd))
  have hillegible : ¬ Legible c := by
    rw [Base32.legible_iff, hsep c (by simp)]
    simpa [Base32.separator] using hc
  have hread : Base32.readSymbols (formatted size (before ++ c :: after) lowercase data) =
      .error ⟨c, size + before.length⟩ := by
    rw [htext, Base32.readSymbols, Base32.readFrom_illegible 0 hlegible hillegible]
    simp [read, Nat.le_of_lt hlong]
  rw [Identifier.decode_eq_character_iff, Base32.decode]
  exact Except.map_eq_error_iff.mpr hread

end Reading

/-- Reading takes back the groups of an identifier if there are only hyphens between them or there
is only one. Otherwise it stops at the first character of the first separator that is not a
hyphen. -/
theorem decode_format {size : Int} {separator : Text} (hsize : 0 < size)
    (hsep : ∀ c ∈ separator, c ∉ Base32.alphabet ∧ c ∉ Base32.alphabet.map Char.toLower)
    (lowercase : Bool) (data : Blob) :
    ∃ t, format size separator lowercase data = .ok t ∧
      ((∀ c ∈ separator, c = '-') ∨ encodedLength (4 + data.length) ≤ size →
        Identifier.decode t = .ok data) ∧
      (¬ ((∀ c ∈ separator, c = '-') ∨ encodedLength (4 + data.length) ≤ size) →
        ∃ j c, FirstAt (· ≠ '-') separator j c ∧
          Identifier.decode t = .error (.character ⟨c, size.toNat + j⟩)) := by
  have hsymbols : ∀ c ∈ separator, Base32.isSymbol c = false := by
    intro c hc
    rw [← Bool.not_eq_true, Base32.isSymbol_iff_mem, not_or]
    exact hsep c hc
  refine ⟨_, format_eq hsize hsymbols lowercase data, ?_, ?_⟩
  · rintro (hhyphens | hfits)
    · exact decode_hyphenated (by omega) hhyphens
    · exact decode_single_group (by omega)
  · intro hother
    rw [not_or] at hother
    obtain ⟨hhyphens, hlong⟩ := hother
    obtain ⟨j, c, hfirst⟩ := exists_firstAt (t := separator) (p := (· ≠ '-')) (by
      simpa using hhyphens)
    exact ⟨j, c, hfirst, decode_separated (by omega) (by omega) hsymbols hfirst⟩

theorem decode_format_dotted :
    (∃ t, format 6 "-.".toList true [] = .ok t ∧
      Identifier.decode t = .error (.character ⟨'.', 7⟩)) ∧
    (∃ t, format 7 "-.".toList true [] = .ok t ∧ Identifier.decode t = .ok []) ∧
    ∃ t, format 6 "--".toList true [] = .ok t ∧ Identifier.decode t = .ok [] := by
  have hdotted : ∀ c ∈ "-.".toList,
      c ∉ Base32.alphabet ∧ c ∉ Base32.alphabet.map Char.toLower :=
    List.forall_mem_cons.mpr ⟨by decide, List.forall_mem_singleton.mpr (by decide)⟩
  have hdouble : ∀ c ∈ "--".toList,
      c ∉ Base32.alphabet ∧ c ∉ Base32.alphabet.map Char.toLower :=
    List.forall_mem_cons.mpr ⟨by decide, List.forall_mem_singleton.mpr (by decide)⟩
  have hlength : encodedLength (4 + ([] : Blob).length) = 7 := by decide
  refine ⟨?_, ?_, ?_⟩
  · obtain ⟨t, ht, -, hrefused⟩ := decode_format (by decide : (0 : Int) < 6) hdotted true []
    obtain ⟨j, c, hfirst, hdecode⟩ := hrefused (by rw [hlength]; simp)
    have hdot : FirstAt (· ≠ '-') "-.".toList 1 '.' :=
      firstAt_iff_append.mpr ⟨['-'], [], rfl, rfl, by decide, by simp⟩
    obtain rfl : j = 1 := hfirst.1.unique hdot.1
    obtain rfl : c = '.' := Option.some.inj (hfirst.2.symm.trans hdot.2)
    exact ⟨t, ht, hdecode⟩
  · obtain ⟨t, ht, hread, -⟩ := decode_format (by decide : (0 : Int) < 7) hdotted true []
    exact ⟨t, ht, hread (.inr (by rw [hlength]; decide))⟩
  · obtain ⟨t, ht, hread, -⟩ := decode_format (by decide : (0 : Int) < 6) hdouble true []
    exact ⟨t, ht, hread (.inl (by simp))⟩

end CheckedText.Grouping
