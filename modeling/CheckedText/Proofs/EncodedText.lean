import CheckedText.Proofs.IdentifierLanguage
import CheckedText.Proofs.Layout
import CheckedText.Proofs.ValidFormat

/-!
# Encoded texts

The letters that stand for a blob are the same in every layout: a reader who leaves out the
decoration of the printed page has exactly these. From them the blob is read back.
-/

namespace CheckedText

namespace Base32

theorem letter_not_blank : ∀ (lowercase : Bool) (v : Symbol),
    Text.isBlank (v.letter lowercase) = false := by
  decide

theorem letter_not_dropped : ∀ (lowercase : Bool) (v : Symbol),
    Console.isDropped (v.letter lowercase) = false := by
  decide

theorem char_ascii : ∀ v : Symbol, v.char.toNat < 0x80 := by decide

def letters (lowercase : Bool) (data : Blob) : Text :=
  (symbols data).map (Symbol.letter lowercase)

theorem encode_eq_letters (data : Blob) : encode data = letters false data := rfl

theorem lower_encode (data : Blob) : Text.lower (encode data) = letters true data := by
  have hascii : ∀ c ∈ encode data, c.toNat < 0x80 := by
    intro c hc
    obtain ⟨v, -, rfl⟩ := List.mem_map.mp hc
    exact char_ascii v
  rw [Text.lower_ascii hascii, encode_eq_letters, letters, List.map_map]
  rfl

theorem cased_encode (lowercase : Bool) (data : Blob) :
    (if lowercase then Text.lower (encode data) else encode data) = letters lowercase data := by
  cases lowercase with
  | false => rfl
  | true => exact lower_encode data

theorem decode_letters (lowercase : Bool) (data : Blob) :
    decode (letters lowercase data) = .ok data :=
  decode_eq_ok_iff.mpr ⟨symbols data, spelling_map_letter lowercase _, bytes_symbols data⟩

theorem hasCanonicalPadding_letters (lowercase : Bool) (data : Blob) :
    hasCanonicalPadding (letters lowercase data) = .ok true :=
  hasCanonicalPadding_eq_ok_iff.mpr
    ⟨symbols data, spelling_map_letter lowercase _, zeroPadded_symbols data⟩

end Base32

namespace Console

def page (ls : List Text) : Text :=
  ls.flatMap fun l => shown l ++ ['\n']

theorem flatMap_line (ls : List Text) : ls.flatMap line = Utf8.encode (page ls) := by
  rw [page, Utf8.encode, List.flatMap_assoc]
  rfl

theorem filter_page {keep : Char → Bool} {ls : List Text} (hspace : keep ' ' = false)
    (htab : keep '\t' = false) (hbreak : keep '\n' = false)
    (hdropped : ∀ c ∈ ls.flatten, keep c = true → isDropped c = false) :
    (page ls).filter keep = ls.flatten.filter keep := by
  induction ls with
  | nil => rfl
  | cons l ls ih =>
    have hline := filter_shown hspace htab hbreak
      fun c hc => hdropped c (List.mem_append_left _ hc)
    have hlines := ih fun c hc => hdropped c (List.mem_append_right _ hc)
    rw [page] at hlines
    rw [page, List.flatMap_cons, List.filter_append, List.filter_append, hline, hlines,
      List.flatten_cons, List.filter_append]
    simp [hbreak]

end Console

namespace Encode

def hasChecksum (f : Format) (o : Options) : Bool :=
  !o.plain && usesChecksum f o

def isLower (f : Format) (o : Options) : Bool :=
  !o.plain && usesLower f o

def payload (f : Format) (o : Options) (data : Blob) : Blob :=
  if hasChecksum f o then Crc32.checksumBytes data ++ data else data

variable {f : Format} {o : Options}

def written (f : Format) (o : Options) (data : Blob) : Text :=
  Base32.letters (isLower f o) (payload f o data)

theorem symbols_eq_encode (hplain : o.plain = false) (data : Blob) :
    symbols f o data = Base32.encode (payload f o data) := by
  unfold symbols payload hasChecksum
  rw [hplain, Bool.not_false, Bool.true_and]
  split
  case isTrue => rfl
  case isFalse => rfl

theorem cased_symbols (hplain : o.plain = false) (data : Blob) :
    (if usesLower f o then Text.lower (symbols f o data) else symbols f o data) =
      written f o data := by
  rw [symbols_eq_encode hplain, Base32.cased_encode, written, isLower, hplain]
  rfl

theorem lines_plain (hplain : o.plain = true) (data : Blob) :
    lines f o data = .ok [written f o data] := by
  have hpayload : payload f o data = data := by simp [payload, hasChecksum, hplain]
  rw [lines, if_pos hplain, written, hpayload, isLower, hplain]
  rfl

theorem lines_spec (hf : f.Valid) (ho : ∀ n, o.lineLength = some n → 0 ≤ n) {keep : Char → Bool}
    (hsep : f.separator.filter keep = []) (data : Blob) :
    ∃ ls, lines f o data = .ok ls ∧ ls.flatten.filter keep = (written f o data).filter keep := by
  by_cases hplain : o.plain = true
  · exact ⟨_, lines_plain hplain data, by rw [List.flatten_singleton]⟩
  · have hcased := cased_symbols (f := f) (Bool.eq_false_iff.mpr hplain) data
    rw [lines, if_neg hplain]
    by_cases hgrouped : o.grouped = true
    · obtain ⟨g, hg⟩ := Grouping.group_isOk hf.groupSize_pos hf.separator_not_symbol
        (usesLower f o) (symbols f o data)
      have hkept := Grouping.filter_group hsep hg
      rw [hcased] at hkept
      have hnonneg := lineLimit_nonneg hf ho
      simp only [hgrouped, hg]
      by_cases hlimit : lineLimit f o = 0
      · exact ⟨[g], by simp [hlimit, bind, Except.bind, pure, Except.pure], by
          rw [List.flatten_singleton, hkept]⟩
      · obtain ⟨ls, hls⟩ := Grouping.wrap_isOk f.separator g (by omega : 0 < lineLimit f o)
        exact ⟨ls, by simp [hlimit, hls, bind, Except.bind], by
          rw [Grouping.filter_wrap hsep hls, hkept]⟩
    · rw [if_pos (by simpa using hgrouped), hcased]
      exact ⟨_, rfl, by rw [List.flatten_singleton]⟩

theorem mem_written {data : Blob} {c : Char} (hc : c ∈ written f o data) :
    ∃ v : Base32.Symbol, v.letter (isLower f o) = c := by
  obtain ⟨v, -, hv⟩ := List.mem_map.mp hc
  exact ⟨v, hv⟩

theorem written_not_decoration (hf : f.Valid) {data : Blob} {c : Char}
    (hc : c ∈ written f o data) : Decoration.isDecoration f.separator c = false := by
  obtain ⟨v, rfl⟩ := mem_written hc
  have hsep : v.letter (isLower f o) ∉ f.separator := fun hmem =>
    absurd (hf.separator_not_symbol _ hmem) (by rw [Base32.isSymbol_letter]; decide)
  rw [Decoration.isDecoration, Base32.letter_not_blank, Bool.false_or]
  simpa using hsep

theorem flatten_printed (ls : List Text) : (printed ls).flatten = ls.flatten := by
  unfold printed
  split
  case isTrue h => rw [h]; rfl
  case isFalse => rfl

theorem compact_page (hf : f.Valid) (ho : ∀ n, o.lineLength = some n → 0 ≤ n) (data : Blob) :
    ∃ ls, lines f o data = .ok ls ∧
      Decoration.compact f.separator (Console.page (printed ls)) = written f o data := by
  have hsep : f.separator.filter (!Decoration.isDecoration f.separator ·) = [] :=
    List.filter_eq_nil_iff.mpr fun c hc => by simp [Decoration.isDecoration, hc]
  have hblank {c : Char} (hc : Text.isBlank c = true) :
      (!Decoration.isDecoration f.separator c) = false := by
    rw [Decoration.isDecoration, hc]
    rfl
  obtain ⟨ls, hls, hkept⟩ := lines_spec hf ho hsep data
  have hletters : (written f o data).filter (!Decoration.isDecoration f.separator ·) =
      written f o data :=
    List.filter_eq_self.mpr fun c hc => by rw [written_not_decoration hf hc]; rfl
  rw [hletters] at hkept
  have hdropped : ∀ c ∈ (printed ls).flatten, (!Decoration.isDecoration f.separator c) = true →
      Console.isDropped c = false := by
    intro c hc hkeep
    rw [flatten_printed] at hc
    have hmem : c ∈ written f o data := by
      rw [← hkept]
      exact List.mem_filter.mpr ⟨hc, hkeep⟩
    obtain ⟨v, rfl⟩ := mem_written hmem
    exact Base32.letter_not_dropped _ v
  refine ⟨ls, hls, ?_⟩
  rw [Decoration.compact_eq_filter, Console.filter_page (hblank (by decide)) (hblank (by decide))
    (hblank (by decide)) hdropped, flatten_printed, hkept]

end Encode

namespace Decode

theorem blob_eq_ok_iff {f : Format} {o : Options} {t : Text} {data : Blob} {dropped : Bool} :
    blob f o t = .ok (data, dropped) ↔
      decodeCompact (verifies f o) (Decoration.compact f.separator t) = .ok data ∧
        Base32.hasCanonicalPadding (Decoration.compact f.separator t) = .ok (!dropped) := by
  constructor
  · intro h
    obtain ⟨raw, hraw, h⟩ := Except.bind_eq_ok_iff.mp (Except.mapError_eq_ok_iff.mp h)
    obtain ⟨canonical, hcanonical, h⟩ := Except.bind_eq_ok_iff.mp h
    cases h
    rw [Bool.not_not]
    exact ⟨hraw, Except.mapError_eq_ok_iff.mp hcanonical⟩
  · rintro ⟨hdata, hcanonical⟩
    refine Except.mapError_eq_ok_iff.mpr (Except.bind_eq_ok_iff.mpr ⟨data, hdata,
      Except.bind_eq_ok_iff.mpr ⟨!dropped, Except.mapError_eq_ok_iff.mpr hcanonical, ?_⟩⟩)
    rw [Bool.not_not]
    rfl

theorem blob_of_compact {f : Format} {o : Encode.Options} {o' : Options} {data : Blob} {t : Text}
    (hverify : verifies f o' = Encode.hasChecksum f o)
    (ht : Decoration.compact f.separator t = Encode.written f o data) :
    blob f o' t = .ok (data, false) := by
  have hraw := Base32.decode_letters (Encode.isLower f o) (Encode.payload f o data)
  rw [blob_eq_ok_iff, ht, hverify]
  refine ⟨?_, Base32.hasCanonicalPadding_letters _ _⟩
  unfold decodeCompact
  split
  case isTrue hsum =>
    rw [Identifier.decode, Encode.written, hraw, Encode.payload, if_pos hsum]
    exact Identifier.verify_eq_ok_iff.mpr rfl
  case isFalse hsum =>
    rw [Encode.written, hraw, Encode.payload, if_neg hsum]
    rfl

end Decode

end CheckedText
