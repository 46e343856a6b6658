import CheckedText.Proofs.CommandResults

/-!
# Decoding to a text

A blob that is the UTF-8 of a text can be printed as this text. It goes through the console, which
leaves some characters out and fills up tabs, so the bytes that arrive are those of the blob only if
the text has none of these. All other characters arrive in their order.
-/

namespace CheckedText

namespace Console

theorem line_eq_iff {t : Text} :
    Utf8.encode (shown t ++ ['\n']) = Utf8.encode t ++ [10] ↔
      ∀ c ∈ t, isDropped c = false ∧ c ≠ '\t' := by
  have hbytes : Utf8.encode t ++ [10] = Utf8.encode (t ++ ['\n']) := by
    rw [Utf8.encode, Utf8.encode, List.flatMap_append]
    rfl
  rw [hbytes, Utf8.encode_injective.eq_iff, List.append_cancel_right_eq, shown_eq_self_iff]

theorem isBlank_of_le {c : Char} (hlow : 9 ≤ c.toNat) (hhigh : c.toNat ≤ 13) :
    Text.isBlank c = true := by
  simp [Text.isBlank, Text.inRanges, Text.blankRanges, hlow, hhigh]

theorem isDropped_of_not_blank {c : Char} (h : ¬ Text.isBlank c = true) :
    isDropped c = (c.toNat = 7 || c.toNat = 8 : Bool) := by
  -- Of the characters that are left out only two are no blanks.
  have hvisible : ¬ (9 ≤ c.toNat ∧ c.toNat ≤ 13) := fun hc => h (isBlank_of_le hc.1 hc.2)
  unfold isDropped
  grind

theorem filter_not_blank_shown (t : Text) :
    (shown t).filter (!Text.isBlank ·) =
      t.filter fun c => !Text.isBlank c && !(c.toNat = 7 || c.toNat = 8) := by
  rw [filter_shown_eq (by decide) (by decide)]
  apply List.filter_congr
  intro c _
  by_cases hblank : Text.isBlank c = true
  · simp [hblank]
  · have htab : c ≠ '\t' := fun h => hblank (h ▸ by decide)
    simp [hblank, htab, isDropped_of_not_blank hblank]

end Console

namespace Decode

theorem ends_output_text {o : Options} {quiet : Bool} {t : Text} {before : Progress}
    (houtput : o.output = none) (hformat : o.format = .text) :
    Run.Ends (output o quiet (Utf8.encode t)) before (.ok ())
      { before with stdout := before.stdout ++ Utf8.encode (Console.shown t ++ ['\n']) } := by
  rw [output, houtput, hformat]
  exact Run.Ends.ofExcept_bind (Except.mapError_eq_ok_iff.mpr (Utf8.decode_encode t))
    (Run.ends_print t before)

theorem yields_of_invoke_encode {s : Session} {arguments rest : List Text}
    {g : CommandLine.Globals} {config : Config} {f : Format} {o : Encode.Options} {o' : Options}
    {stdin data : Blob} {t : Text} (hcalls : CommandLine.Calls arguments g .encode rest)
    (hload : s.surroundings.loadConfig g.config = .ok config) (hsame : config.format = f)
    (hasks : CommandLine.Asks .encode Encode.Options.ofParsed rest o)
    (hverify : Encode.hasChecksum f o = verifies f o')
    (hdata : s.surroundings.readBlob stdin o.data o.file o.hex = .ok data)
    (ht : (s.invoke arguments stdin).1.stdout = Utf8.encode t) : Yields f o' t data := by
  obtain ⟨page, hcompact, hinvoke⟩ := Session.invoke_encode hcalls hload hasks hdata
  rw [hinvoke] at ht
  obtain rfl : page = t := Utf8.encode_injective ht
  rw [hsame] at hcompact
  exact yields_of_blob (blob_of_compact hverify.symm hcompact)

end Decode

namespace Session

open CommandLine

variable {s : Session} {arguments rest : List Text} {g : Globals} {config : Config}
  {o : Decode.Options} {stdin : Blob} {t : Text}

/-- A text that decodes to the UTF-8 of another one is printed as the console shows that one, and
ends with a line break. This is the blob itself exactly if the text has neither tabs nor characters
that are left out. Whatever an encoding printed decodes to what was encoded. -/
theorem invoke_decode_prints_text (hcalls : Calls arguments g .decode rest)
    (hload : s.surroundings.loadConfig g.config = .ok config)
    (hasks : Asks .decode Decode.Options.ofParsed rest o) (hformat : o.format = .text)
    (houtput : o.output = none) (htext : s.surroundings.readText stdin o.text o.file = .ok t) :
    (∀ decoded : Text, Decode.Yields config.format o t (Utf8.encode decoded) →
      (∃ err, s.invoke arguments stdin =
        (⟨.ok 0, Utf8.encode (Console.shown decoded ++ ['\n']), err, []⟩,
          ⟨s.surroundings, g.consoles config⟩)) ∧
      ((s.invoke arguments stdin).1.stdout = Utf8.encode decoded ++ [10] ↔
        ∀ c ∈ decoded, Console.isDropped c = false ∧ c ≠ '\t') ∧
      (Console.shown decoded).filter (!Text.isBlank ·) =
        decoded.filter fun c => !Text.isBlank c && !(c.toNat = 7 || c.toNat = 8)) ∧
    ∀ (s' : Session) (arguments' rest' : List Text) (g' : Globals) (config' : Config)
      (o' : Encode.Options) (stdin' data : Blob),
      Calls arguments' g' .encode rest' →
      s'.surroundings.loadConfig g'.config = .ok config' → config'.format = config.format →
      Asks .encode Encode.Options.ofParsed rest' o' →
      Encode.hasChecksum config.format o' = Decode.verifies config.format o →
      s'.surroundings.readBlob stdin' o'.data o'.file o'.hex = .ok data →
      (s'.invoke arguments' stdin').1.stdout = Utf8.encode t →
      Decode.Yields config.format o t data := by
  constructor
  · intro decoded hyields
    obtain ⟨dropped, hblob⟩ := Decode.blob_of_yields hyields
    obtain ⟨err, -, hinvoke⟩ := invoke_decode hcalls hload hasks htext hblob
      fun p => Decode.ends_output_text houtput hformat
    refine ⟨⟨err, hinvoke⟩, ?_, Console.filter_not_blank_shown decoded⟩
    rw [hinvoke]
    exact Console.line_eq_iff
  · intro s' arguments' rest' g' config' o' stdin' data hcalls' hload' hsame hasks' hverify hdata ht
    exact Decode.yields_of_invoke_encode hcalls' hload' hsame hasks' hverify hdata ht

theorem invoke_decode_prints_text_lines :
    let outcome := ((configured [] []).invoke ["decode".toList, "--no-verify".toList,
      "--format=text".toList, "MEFGE".toList] []).1
    outcome.ending = .ok 0 ∧ outcome.stdout = Utf8.encode "a\nb\n".toList := by
  have hasks : Asks .decode Decode.Options.ofParsed
      ["--no-verify".toList, "--format=text".toList, "MEFGE".toList]
      ⟨some "MEFGE".toList, none, some false, .text, none⟩ :=
    ⟨_, rfl, rfl, rfl⟩
  have hyields : Decode.Yields standard.format ⟨some "MEFGE".toList, none, some false, .text, none⟩
      "MEFGE".toList (Utf8.encode "a\nb".toList) :=
    Except.toOption_eq_some_iff.mp (by decide +kernel)
  have hverbatim : "a\nb".toList.all (fun c => !Console.isDropped c && c ≠ '\t') = true := by
    decide
  obtain ⟨⟨err, hinvoke⟩, hprinted, -⟩ := (invoke_decode_prints_text (calls_decode _)
    loadConfig_standard hasks rfl rfl rfl).1 _ hyields
  refine ⟨by rw [hinvoke], (hprinted.mpr fun c hc => ?_).trans rfl⟩
  simpa using List.all_eq_true.mp hverbatim c hc

/-- A tab does not arrive: it is filled up with spaces. -/
theorem invoke_decode_fills_tab :
    let s := configured [] []
    Base32.decode "MEEWE".toList = .ok (Utf8.encode "a\tb".toList) ∧
    s.invoke ["decode".toList, "--no-verify".toList, "--format=text".toList, "MEEWE".toList] [] =
      (⟨.ok 0, Utf8.encode "a       b\n".toList, [], []⟩, s) := by
  intro s
  have hasks : Asks .decode Decode.Options.ofParsed
      ["--no-verify".toList, "--format=text".toList, "MEEWE".toList]
      ⟨some "MEEWE".toList, none, some false, .text, none⟩ :=
    ⟨_, rfl, rfl, rfl⟩
  have hblob : Decode.blob standard.format ⟨some "MEEWE".toList, none, some false, .text, none⟩
      "MEEWE".toList = .ok (Utf8.encode "a\tb".toList, false) :=
    Except.toOption_eq_some_iff.mp (by decide +kernel)
  have hshown : Console.shown "a\tb".toList = "a       b".toList := by decide +kernel
  refine ⟨Except.toOption_eq_some_iff.mp (by decide +kernel), ?_⟩
  obtain ⟨err, herr, hinvoke⟩ := invoke_decode (calls_decode _) loadConfig_standard hasks rfl hblob
    fun p => Decode.ends_output_text rfl rfl
  rw [hinvoke, herr rfl, hshown]
  rfl

end Session

end CheckedText
