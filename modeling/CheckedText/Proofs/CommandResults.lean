import CheckedText.Proofs.ReportedFailures

/-!
# What a command leaves on the console

A command that succeeds prints its result and changes nothing else. Encoding prints a page from
which the letters of the blob can be read, the checksum is one line, and decoding prints what the
output format makes of the blob, with a warning on the other console if bits were dropped.
-/

namespace CheckedText

theorem Surroundings.valid_of_loadConfig {s : Surroundings} {written : Option Text}
    {config : Config} (h : s.loadConfig written = .ok config) : config.format.Valid := by
  obtain ⟨path, -, h⟩ := Except.bind_eq_ok_iff.mp h
  obtain ⟨content, -, h⟩ := Except.bind_eq_ok_iff.mp h
  obtain ⟨t, -, h⟩ := Except.bind_eq_ok_iff.mp h
  obtain ⟨doc, -, h⟩ := Except.bind_eq_ok_iff.mp h
  obtain ⟨format, hformat, h⟩ := Except.bind_eq_ok_iff.mp (Except.mapError_eq_ok_iff.mp h)
  obtain ⟨interface, -, h⟩ := Except.bind_eq_ok_iff.mp h
  cases h
  exact Format.valid_of_ofTable hformat

namespace Checksum

theorem line_display (r : UInt32) :
    Console.line (Crc32.display r) = Utf8.encode (Crc32.display r ++ ['\n']) := by
  rw [Console.line, Console.shown_eq_self]
  intro c hc
  exact Console.isKept_of_mem_escapeSymbols (Text.mem_hexadecimal hc)

theorem ends_run {o : Options} {stdin data : Blob} {before : Progress}
    (hdata : before.surroundings.readBlob stdin o.data o.file o.hex = .ok data) :
    Run.Ends (run o stdin) before (.ok none) { before with
      stdout := before.stdout ++ Utf8.encode (Crc32.display (Crc32.checksum data) ++ ['\n']) } := by
  rw [← line_display]
  refine (Run.ends_surroundings before).bind (Run.Ends.ofExcept_bind hdata ?_)
  exact (Run.ends_print _ before).bind (Run.ends_pure none _)

end Checksum

namespace Decode

variable {f : Format} {o : Options} {t : Text} {data : Blob}

theorem blob_of_yields (h : Yields f o t data) : ∃ dropped, blob f o t = .ok (data, dropped) := by
  obtain ⟨vs, hvs, hbytes⟩ := Except.map_eq_ok_iff.mp h
  refine ⟨!Base32.zeroPadded vs, ?_⟩
  rw [blob_of_readSymbols hvs, hbytes]
  cases verifies f o with
  | true =>
    have hverified := Identifier.verify_eq_ok_iff.mpr (rfl : Crc32.checksumBytes data ++ data = _)
    simp only [if_true, hverified]
    rfl
  | false => rfl

def warningLine : Blob :=
  Utf8.encode ("Warning: ".toList ++ paddingWarning ++ ['\n'])

theorem line_paddingWarning (screen : Screen) :
    screen.line ("Warning: ".toList ++ paddingWarning) = warningLine := by
  have hkept : ∀ c ∈ "Warning: ".toList ++ paddingWarning, Console.IsKept c :=
    Console.isKept_of_all (by decide)
  have hroom : Text.room ("Warning: ".toList ++ paddingWarning) ≤ 80 := by decide
  rw [Screen.line_of_fits (Console.fits_of_isKept hkept (hroom.trans screen.eighty_le)),
    Console.line, Console.shown_eq_self hkept, warningLine]

theorem ends_warn (quiet : Bool) (before : Progress) :
    Run.Ends (Run.warn quiet paddingWarning) before (.ok ())
      { before with stderr := before.stderr ++ if quiet then [] else warningLine } := by
  cases quiet with
  | true => simpa [Run.warn] using Run.ends_pure () before
  | false =>
    simp only [Run.warn, Bool.false_eq_true, if_false,
      ← line_paddingWarning before.surroundings.screen]
    exact Run.ends_printMarkedErr (render_paddingWarning _)

theorem ends_run_printed {config : Config} {quiet : Bool} {stdin out : Blob} {dropped : Bool}
    {before : Progress} (htext : before.surroundings.readText stdin o.text o.file = .ok t)
    (hblob : blob config.format o t = .ok (data, dropped))
    (houtput : ∀ p : Progress, Run.Ends (output o quiet data) p (.ok ())
      { p with stdout := p.stdout ++ out }) :
    ∃ err, (dropped = false → err = []) ∧
      Run.Ends (run config o quiet stdin) before (.ok none)
        { before with stdout := before.stdout ++ out, stderr := before.stderr ++ err } := by
  cases dropped with
  | false =>
    refine ⟨[], fun _ => rfl, ?_⟩
    rw [List.append_nil]
    exact ends_run htext hblob (houtput before)
  | true =>
    refine ⟨if quiet then [] else warningLine, fun h => Bool.noConfusion h,
      ends_run_of_deliver htext ?_⟩
    rw [hblob]
    exact (ends_warn quiet before).bind ((houtput _).bind (Run.ends_pure none _))

end Decode

namespace Session

open CommandLine

variable {s : Session} {arguments rest : List Text} {g : Globals} {config : Config}
  {stdin data : Blob}

theorem invoke_encode {o : Encode.Options} (hcalls : Calls arguments g .encode rest)
    (hload : s.surroundings.loadConfig g.config = .ok config)
    (hasks : Asks .encode Encode.Options.ofParsed rest o)
    (hdata : s.surroundings.readBlob stdin o.data o.file o.hex = .ok data) :
    ∃ page, Decoration.compact config.format.separator page =
        Encode.written config.format o data ∧
      s.invoke arguments stdin =
        (⟨.ok 0, Utf8.encode page, [], []⟩, ⟨s.surroundings, g.consoles config⟩) := by
  have hlength : ∀ n, o.lineLength = some n → 0 ≤ n := by
    obtain ⟨p, -, -, ho⟩ := hasks
    exact Encode.Options.lineLength_nonneg ho
  obtain ⟨ls, hlines, hcompact⟩ :=
    Encode.compact_page (Surroundings.valid_of_loadConfig hload) hlength data
  have hrun : Run.Ends (Encode.run config o stdin) ⟨s.surroundings, g.consoles config, [], [], []⟩
      (.ok none) _ := Encode.ends_run hdata hlines
  exact ⟨_, hcompact, invoke_of_body hcalls hload (.encode hasks) (hrun.command g.debug)⟩

theorem invoke_checksum {o : Checksum.Options} (hcalls : Calls arguments g .checksum rest)
    (hload : s.surroundings.loadConfig g.config = .ok config)
    (hasks : Asks .checksum Checksum.Options.ofParsed rest o)
    (hdata : s.surroundings.readBlob stdin o.data o.file o.hex = .ok data) :
    s.invoke arguments stdin =
      (⟨.ok 0, Utf8.encode (Crc32.display (Crc32.checksum data) ++ ['\n']), [], []⟩,
        ⟨s.surroundings, g.consoles config⟩) := by
  have hrun : Run.Ends (Checksum.run o stdin) ⟨s.surroundings, g.consoles config, [], [], []⟩
      (.ok none) _ := Checksum.ends_run hdata
  exact invoke_of_body hcalls hload (.checksum hasks) (hrun.command g.debug)

theorem invoke_decode {o : Decode.Options} {t : Text} {dropped : Bool} {out : Blob}
    (hcalls : Calls arguments g .decode rest)
    (hload : s.surroundings.loadConfig g.config = .ok config)
    (hasks : Asks .decode Decode.Options.ofParsed rest o)
    (htext : s.surroundings.readText stdin o.text o.file = .ok t)
    (hblob : Decode.blob config.format o t = .ok (data, dropped))
    (houtput : ∀ p : Progress, Run.Ends (Decode.output o (g.context config).quiet data) p (.ok ())
      { p with stdout := p.stdout ++ out }) :
    ∃ err, (dropped = false → err = []) ∧
      s.invoke arguments stdin =
        (⟨.ok 0, out, err, []⟩, ⟨s.surroundings, g.consoles config⟩) := by
  let before : Progress := ⟨s.surroundings, g.consoles config, [], [], []⟩
  obtain ⟨err, herr, hrun⟩ : ∃ err, (dropped = false → err = []) ∧
      Run.Ends (Decode.run config o (g.context config).quiet stdin) before (.ok none) _ :=
    Decode.ends_run_printed htext hblob houtput
  exact ⟨err, herr, invoke_of_body hcalls hload (.decode hasks) (hrun.command g.debug)⟩

end Session

end CheckedText
