import CheckedText.Proofs.Invocation
import CheckedText.Proofs.CommandRuns

/-!
# Formats that never fail

The layout of a text refuses groups without symbols, separators that could be read as symbols and
lines without room. A format that was read from a configuration gives it none of these, whatever
the options say, so a blob that was read can always be written.
-/

namespace CheckedText

namespace Config

theorem LetterCase.text_cases (c : LetterCase) :
    c.text = "lower".toList ∨ c.text = "upper".toList := by
  cases c with
  | lower => exact .inl rfl
  | upper => exact .inr rfl

end Config

namespace Encode

variable {f : Format} {o : Options}

theorem layout_isOk (hf : f.Valid) (ho : ∀ n, o.lineLength = some n → 0 ≤ n) (data : Blob) :
    ∃ g, Grouping.group f.groupSize f.separator (usesLower f o) (symbols f o data) = .ok g ∧
      (lineLimit f o ≠ 0 → ∃ ls, Grouping.wrap f.separator (lineLimit f o) g = .ok ls) := by
  obtain ⟨g, hg⟩ := Grouping.group_isOk hf.groupSize_pos hf.separator_not_symbol (usesLower f o)
    (symbols f o data)
  refine ⟨g, hg, fun hlimit => Grouping.wrap_isOk f.separator g ?_⟩
  have hnonneg := lineLimit_nonneg hf ho
  omega

theorem lines_isOk (hf : f.Valid) (ho : ∀ n, o.lineLength = some n → 0 ≤ n) (data : Blob) :
    ∃ ls, lines f o data = .ok ls := by
  obtain ⟨ls, hls, -⟩ := compact_page hf ho data
  exact ⟨ls, hls⟩

end Encode

/-- A format from a table has room for every group and line, and its separator has no symbols. So
both stages of the layout succeed for every blob, and once a blob was read its encoding ends with
exit code 0. -/
theorem Format.encode_isOk_of_ofTable {t : Toml.Table} {f : Format}
    (h : Format.ofTable t = .ok f) :
    0 < f.groupSize ∧
    (∀ c ∈ f.separator, c ∉ Base32.alphabet ∧ c ∉ Base32.alphabet.map Char.toLower) ∧
    (f.letterCase.text = "lower".toList ∨ f.letterCase.text = "upper".toList) ∧
    (f.lineLength = none ∨ ∃ n, f.lineLength = some n ∧ 0 < n) ∧
    (∀ (o : Encode.Options) (data : Blob), (∀ n, o.lineLength = some n → 0 ≤ n) →
      (∃ g, Grouping.group f.groupSize f.separator (Encode.usesLower f o)
          (Encode.symbols f o data) = .ok g ∧
        (Encode.lineLimit f o ≠ 0 →
          ∃ ls, Grouping.wrap f.separator (Encode.lineLimit f o) g = .ok ls)) ∧
      ∃ ls, Encode.lines f o data = .ok ls) ∧
    ∀ (s : Session) (arguments rest : List Text) (g : CommandLine.Globals) (config : Config)
      (o : Encode.Options) (stdin data : Blob),
      CommandLine.Calls arguments g .encode rest →
      s.surroundings.loadConfig g.config = .ok config → config.format = f →
      CommandLine.Asks .encode Encode.Options.ofParsed rest o →
      s.surroundings.readBlob stdin o.data o.file o.hex = .ok data →
      ∃ out, s.invoke arguments stdin =
        (⟨.ok 0, out, [], []⟩, ⟨s.surroundings, g.consoles config⟩) := by
  have hf := valid_of_ofTable h
  refine ⟨hf.groupSize_pos, ?_, f.letterCase.text_cases, ?_, ?_, ?_⟩
  · intro c hc
    rw [← not_or, ← Base32.isSymbol_iff_mem, Bool.not_eq_true]
    exact hf.separator_not_symbol c hc
  · cases hlength : f.lineLength with
    | none => exact .inl rfl
    | some n => exact .inr ⟨n, rfl, hf.lineLength_pos n hlength⟩
  · intro o data ho
    exact ⟨Encode.layout_isOk hf ho data, Encode.lines_isOk hf ho data⟩
  · intro s arguments rest g config o stdin data hcalls hload hformat hasks hdata
    have ho : ∀ n, o.lineLength = some n → 0 ≤ n := by
      obtain ⟨p, -, -, hread⟩ := hasks
      exact Encode.Options.lineLength_nonneg hread
    obtain ⟨ls, hls⟩ := Encode.lines_isOk hf ho data
    rw [← hformat] at hls
    have hrun : Run.Ends (Encode.run config o stdin)
        ⟨s.surroundings, g.consoles config, [], [], []⟩ (.ok none) _ := Encode.ends_run hdata hls
    exact ⟨_, Session.invoke_of_ends (hcalls.ends hload (CommandLine.ends_encode hasks rfl hrun))⟩

theorem Format.encode_isOk_of_ofTable_short_lines :
    let s := Session.configured "[format]\ngroup_size=' 4 '\nline_length=3".toList []
    ∃ out, s.invoke ["encode".toList, "hi".toList] [] = (⟨.ok 0, out, [], []⟩, s) := by
  intro s
  let config : Config :=
    ⟨⟨.slash, ["c".toList]⟩, ⟨4, ['-'], .lower, true, some 3⟩, ⟨false, false⟩⟩
  have hload : s.surroundings.loadConfig none = .ok config :=
    Session.loadConfig_configured (Except.toOption_eq_some_iff.mp (by decide +kernel))
  have hformat : Format.ofTable [("group_size".toList, .text " 4 ".toList),
      ("line_length".toList, .integer 3)] = .ok config.format :=
    Except.toOption_eq_some_iff.mp (by decide +kernel)
  have hasks : CommandLine.Asks .encode Encode.Options.ofParsed ["hi".toList]
      ⟨some "hi".toList, none, false, false, none, true, none, none⟩ :=
    ⟨_, rfl, rfl, rfl⟩
  obtain ⟨-, -, -, -, -, hinvoke⟩ := Format.encode_isOk_of_ofTable hformat
  exact hinvoke s _ _ _ config _ [] _ (CommandLine.calls_encode _) hload rfl hasks rfl

end CheckedText
