import CheckedText.Proofs.PaddingWarning

/-!
# From encoding to decoding

What encoding prints is taken back by decoding under the same format, whatever layout was asked
for and however the text is handed over, as long as the checksum is looked for when it is there.
-/

namespace CheckedText

namespace Session

open CommandLine

variable {s : Session} {arguments rest : List Text} {g : Globals} {config : Config}
  {stdin data : Blob} {o : Decode.Options} {t : Text}

theorem invoke_decode_to_file {path : Text} (hcalls : Calls arguments g .decode rest)
    (hload : s.surroundings.loadConfig g.config = .ok config)
    (hasks : Asks .decode Decode.Options.ofParsed rest o)
    (htext : s.surroundings.readText stdin o.text o.file = .ok t)
    (hblob : Decode.blob config.format o t = .ok (data, false)) (houtput : o.output = some path)
    (hwritable : s.surroundings.files.IsWritable path) (hpath : '[' ∉ path) :
    ∃ files err, files.read path = .ok data ∧ ¬ Decode.warningLine <+: err ∧
      ((g.context config).quiet = true → err = []) ∧
      s.invoke arguments stdin = (⟨.ok 0, [], err, []⟩,
        ⟨{ s.surroundings with files }, g.consoles config⟩) := by
  let before : Progress := ⟨s.surroundings, g.consoles config, [], [], []⟩
  have hwritable : before.surroundings.files.IsWritable path := hwritable
  obtain ⟨files, shown, -, hread, hshown, hends⟩ := Decode.ends_output_file houtput hwritable hpath
  have hrun : Run.Ends (Decode.run config o (g.context config).quiet stdin) before (.ok none) _ :=
    Decode.ends_run htext hblob hends
  refine ⟨files, _, hread, ?_, ?_,
    invoke_of_body hcalls hload (.decode hasks) (hrun.command g.debug)⟩
  · apply Decode.not_warningLine_isPrefix
    cases (g.context config).quiet with
    | true => exact Run.notWarning_nil
    | false => exact Decode.notWarning_notice hshown
  · intro hquiet
    rw [hquiet]
    rfl

end Session

end CheckedText
