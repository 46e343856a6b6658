import CheckedText.Proofs.CommandResults

/-!
# One text in every layout

Grouping, line lengths and the separator change what stands between the letters of an encoded blob,
never the letters. The plain form is the one that takes nothing from the configuration: the same as
asking for no checksum, no groups and capitals.
-/

namespace CheckedText

namespace Encode

variable {f : Format} {o o' : Options}

theorem usesLower_iff :
    usesLower f o = true ↔ o.upper = some false ∨ o.upper = none ∧ f.letterCase = .lower := by
  unfold usesLower
  cases o.upper with
  | none => simp
  | some upper => cases upper <;> simp

theorem written_eq (hplain : o.plain = false) (data : Blob) :
    written f o data =
      let t := if o.checksum.getD f.checksum then Identifier.encode data else Base32.encode data
      if o.upper = some false ∨ o.upper = none ∧ f.letterCase = .lower then Text.lower t
      else t := by
  rw [← cased_symbols hplain]
  by_cases hlower : usesLower f o = true
  · rw [if_pos hlower, if_pos (usesLower_iff.mp hlower), symbols, usesChecksum]
  · rw [if_neg hlower, if_neg (mt usesLower_iff.mpr hlower), symbols, usesChecksum]

theorem lines_eq_capitals (hchecksum : o.checksum = some false) (hgrouped : o.grouped = false)
    (hupper : o.upper = some true) (data : Blob) :
    lines f o data = .ok [Base32.encode data] := by
  have hcapitals : usesLower f o = false := by simp [usesLower, hupper]
  have hbare : symbols f o data = Base32.encode data := by
    simp [symbols, usesChecksum, hchecksum]
  simp [lines, hgrouped, hcapitals, hbare]

theorem run_congr {config : Config} {stdin : Blob} (hdata : o'.data = o.data)
    (hfile : o'.file = o.file) (hhex : o'.hex = o.hex)
    (hlines : lines config.format o' = lines config.format o) :
    run config o' stdin = run config o stdin := by
  unfold run
  rw [hdata, hfile, hhex, hlines]

theorem run_plain_eq {config : Config} {stdin : Blob} (hplain : o.plain = true)
    (hchecksum : o'.checksum = some false) (hgrouped : o'.grouped = false)
    (hupper : o'.upper = some true) (hdata : o'.data = o.data) (hfile : o'.file = o.file)
    (hhex : o'.hex = o.hex) : run config o' stdin = run config o stdin := by
  apply run_congr hdata hfile hhex
  funext data
  rw [lines_eq_capitals hchecksum hgrouped hupper, lines, if_pos hplain]

end Encode

namespace Session

open CommandLine

variable {s : Session} {arguments rest : List Text} {g : Globals} {config : Config}
  {stdin : Blob}

/-- Without blanks and the characters of the separator, what encoding prints is the identifier or
the base32 text of the blob in the chosen case. The plain form is printed whenever no checksum, no
groups and capitals are asked for. -/
theorem invoke_encode_same_symbols {o : Encode.Options} (hcalls : Calls arguments g .encode rest)
    (hload : s.surroundings.loadConfig g.config = .ok config)
    (hasks : Asks .encode Encode.Options.ofParsed rest o) :
    (o.plain = false → ∀ data,
      s.surroundings.readBlob stdin o.data o.file o.hex = .ok data →
      ∃ page, s.invoke arguments stdin =
          (⟨.ok 0, Utf8.encode page, [], []⟩, ⟨s.surroundings, g.consoles config⟩) ∧
        page.filter (fun c => !(Text.isBlank c || config.format.separator.contains c)) =
          let t := if o.checksum.getD config.format.checksum then Identifier.encode data
            else Base32.encode data
          if o.upper = some false ∨ o.upper = none ∧ config.format.letterCase = .lower
          then Text.lower t else t) ∧
    (o.plain = true → ∀ (arguments' rest' : List Text) (o' : Encode.Options),
      Calls arguments' g .encode rest' → Asks .encode Encode.Options.ofParsed rest' o' →
      o'.data = o.data → o'.file = o.file → o'.hex = o.hex →
      o'.checksum = some false → o'.grouped = false → o'.upper = some true →
      s.invoke arguments' stdin = s.invoke arguments stdin) := by
  constructor
  · intro hplain data hdata
    obtain ⟨page, hcompact, hinvoke⟩ := invoke_encode hcalls hload hasks hdata
    rw [Decoration.compact_eq_filter, Encode.written_eq hplain] at hcompact
    exact ⟨page, hinvoke, hcompact⟩
  · intro hplain arguments' rest' o' hcalls' hasks' hdata hfile hhex hchecksum hgrouped hupper
    obtain ⟨result, after, hends⟩ := Run.exists_ends
      (Run.command g.debug (Encode.run config o stdin))
      ⟨s.surroundings, g.consoles config, [], [], []⟩
    rw [invoke_of_body hcalls hload (.encode hasks) hends]
    rw [← Encode.run_plain_eq hplain hchecksum hgrouped hupper hdata hfile hhex] at hends
    exact invoke_of_body hcalls' hload (.encode hasks') hends

theorem invoke_encode_same_symbols_on_short_lines :
    let s := configured "[format]\ngroup_size=3\nseparator='·'\nline_length=5".toList []
    (∃ page, (s.invoke ["encode".toList, "hi".toList] []).1.stdout = Utf8.encode page ∧
      page.filter (fun c => !(Text.isBlank c || ['·'].contains c)) = "3cjsvldine".toList) ∧
    s.invoke ["encode".toList, "--no-checksum".toList, "--no-grouped".toList, "--upper".toList,
        "hi".toList] [] =
      s.invoke ["encode".toList, "--lower".toList, "--plain".toList, "--checksum".toList,
        "hi".toList] [] := by
  intro s
  let config : Config :=
    ⟨⟨.slash, ["c".toList]⟩, ⟨3, ['·'], .lower, true, some 5⟩, ⟨false, false⟩⟩
  have hload : s.surroundings.loadConfig none = .ok config :=
    loadConfig_configured (Except.toOption_eq_some_iff.mp (by decide +kernel))
  constructor
  · have hasks : Asks .encode Encode.Options.ofParsed ["hi".toList]
        ⟨some "hi".toList, none, false, false, none, true, none, none⟩ :=
      ⟨_, rfl, rfl, rfl⟩
    have hletters : Text.lower (Identifier.encode [104, 105]) = "3cjsvldine".toList := by
      decide +kernel
    obtain ⟨page, hinvoke, hpage⟩ :=
      (invoke_encode_same_symbols (calls_encode _) hload hasks).1 rfl [104, 105] rfl
    refine ⟨page, by rw [hinvoke], ?_⟩
    rw [← hletters]
    exact hpage
  · have hasks : Asks .encode Encode.Options.ofParsed
        ["--lower".toList, "--plain".toList, "--checksum".toList, "hi".toList]
        ⟨some "hi".toList, none, false, true, some true, true, some false, none⟩ :=
      ⟨_, rfl, rfl, rfl⟩
    have hasks' : Asks .encode Encode.Options.ofParsed
        ["--no-checksum".toList, "--no-grouped".toList, "--upper".toList, "hi".toList]
        ⟨some "hi".toList, none, false, false, some false, false, some true, none⟩ :=
      ⟨_, rfl, rfl, rfl⟩
    exact (invoke_encode_same_symbols (calls_encode _) hload hasks).2 rfl _ _ _
      (calls_encode _) hasks' rfl rfl rfl rfl rfl rfl

end Session

end CheckedText
