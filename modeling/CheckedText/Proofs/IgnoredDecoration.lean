import CheckedText.Proofs.InvalidCharacter
import CheckedText.Proofs.RunContracts

/-!
# Texts that read the same

Blanks, hyphens, the characters of the separator and the case of letters carry nothing. Two texts
that are the same without them are decoded alike, and all that follows is alike as well. Only the
index of a character that cannot be read depends on what stands around it.
-/

namespace CheckedText

namespace Base32

def symbolsOf : Text → Except Char (List Symbol)
  | [] => .ok []
  | c :: rest =>
    match value? c with
    | none => .error c
    | some v => (symbolsOf rest).map (v :: ·)

theorem mapError_char_readFrom (position : Nat) (t : Text) :
    (readFrom position t).mapError InvalidCharacter.char =
      symbolsOf (t.filter (· ≠ separator)) := by
  induction t generalizing position with
  | nil => rfl
  | cons c t ih =>
    have hrest := ih (position + 1)
    by_cases hc : c = separator
    · rw [List.filter_cons_of_neg (by simp [hc]), readFrom, if_pos hc, hrest]
    · rw [List.filter_cons_of_pos (by simp [hc]), readFrom, if_neg hc, symbolsOf, ← hrest]
      cases value? c with
      | none => rfl
      | some v => cases readFrom (position + 1) t <;> rfl

theorem value?_toLower_capital : ∀ n < 26,
    (value? (Char.ofNat (65 + n))).isSome = true ∧
      value? (Char.ofNat (65 + n)).toLower = value? (Char.ofNat (65 + n)) := by
  decide

theorem toLower_cases (c : Char) :
    c.toLower = c ∨ (value? c).isSome = true ∧ value? c.toLower = value? c := by
  -- Every letter is a symbol, so a character that is none has no case.
  by_cases h : c.val ≥ 'A'.val ∧ c.val ≤ 'Z'.val
  · right
    have hlow : 65 ≤ c.toNat := h.1
    have hhigh : c.toNat ≤ 90 := h.2
    have hc := value?_toLower_capital (c.toNat - 65) (by omega)
    rwa [Nat.add_sub_cancel' hlow, Char.ofNat_toNat] at hc
  · exact .inl (dif_neg h)

theorem symbolsOf_foldAscii (t : Text) : symbolsOf (Text.foldAscii t) = symbolsOf t := by
  induction t with
  | nil => rfl
  | cons c t ih =>
    change symbolsOf (c.toLower :: Text.foldAscii t) = symbolsOf (c :: t)
    rw [symbolsOf, symbolsOf, ih]
    rcases toLower_cases c with hc | ⟨hsome, hc⟩
    · rw [hc]
    · obtain ⟨v, hv⟩ := Option.isSome_iff_exists.mp hsome
      rw [hc, hv]

end Base32

namespace Decode

/-- What is left of a text without all that carries nothing. -/
def essence (separator t : Text) : Text :=
  Text.foldAscii (t.filter fun c => !(Text.isBlank c || c = '-' || separator.contains c))

theorem mapError_char_readSymbols (separator t : Text) :
    (Base32.readSymbols (Decoration.compact separator t)).mapError
      Base32.InvalidCharacter.char = Base32.symbolsOf (essence separator t) := by
  rw [Base32.readSymbols, Base32.mapError_char_readFrom, essence, Base32.symbolsOf_foldAscii,
    Decoration.compact_eq_filter, List.filter_filter]
  congr 1
  apply List.filter_congr
  intro c _
  grind [Decoration.isDecoration, Base32.separator]

variable {f : Format} {o o' : Options} {t t' : Text}

theorem blob_of_readSymbols {vs : List Base32.Symbol}
    (h : Base32.readSymbols (Decoration.compact f.separator t) = .ok vs) :
    blob f o t = (if verifies f o then Identifier.verify (Base32.bytes vs)
      else .ok (Base32.bytes vs)).map (·, !Base32.zeroPadded vs) := by
  simp only [blob, decodeCompact, Identifier.decode, Base32.decode, Base32.hasCanonicalPadding, h]
  cases verifies f o with
  | false => rfl
  | true =>
    change Except.mapError _ (Identifier.verify (Base32.bytes vs) >>= _) =
      (Identifier.verify (Base32.bytes vs)).map _
    cases hverify : Identifier.verify (Base32.bytes vs) with
    | ok data => rfl
    | error e =>
      cases e with
      | character e => exact absurd hverify (Identifier.verify_ne_character _ e)
      | truncated => rfl
      | mismatch => rfl

theorem blob_of_illegible {e : Base32.InvalidCharacter}
    (h : Base32.readSymbols (Decoration.compact f.separator t) = .error e) :
    ∃ i, blob f o t = .error (.character ⟨e.char, i⟩) := by
  rw [blob, decodeCompact_eq_character_iff.mpr h]
  exact ⟨_, rfl⟩

theorem blob_eq_or_illegible (hverify : o'.verify = o.verify)
    (h : essence f.separator t = essence f.separator t') :
    blob f o' t' = blob f o t ∨
      ∃ c i i', blob f o t = .error (.character ⟨c, i⟩) ∧
        blob f o' t' = .error (.character ⟨c, i'⟩) := by
  have hread := mapError_char_readSymbols f.separator t
  have hread' := mapError_char_readSymbols f.separator t'
  rw [h, ← hread'] at hread
  cases hr : Base32.readSymbols (Decoration.compact f.separator t) with
  | ok vs =>
    rw [hr] at hread
    left
    rw [blob_of_readSymbols hr,
      blob_of_readSymbols (Except.mapError_eq_ok_iff.mp hread.symm), verifies, verifies, hverify]
  | error e =>
    rw [hr] at hread
    right
    cases hr' : Base32.readSymbols (Decoration.compact f.separator t') with
    | ok vs =>
      rw [hr'] at hread
      cases hread
    | error e' =>
      rw [hr'] at hread
      have hchar : e.char = e'.char := Except.error.inj hread
      obtain ⟨i, hi⟩ := blob_of_illegible (o := o) hr
      obtain ⟨i', hi'⟩ := blob_of_illegible (o := o') hr'
      exact ⟨e.char, i, i', hi, hchar ▸ hi'⟩

def deliver (o : Options) (quiet : Bool) (r : Except Identifier.Fault (Blob × Bool)) :
    Run (Option Int) := do
  let (data, dropped) ← Run.ofExcept (r.mapError .identifier)
  if dropped then Run.warn quiet paddingWarning
  output o quiet data
  return none

theorem deliver_congr (houtput : o'.output = o.output) (hformat : o'.format = o.format) :
    deliver o' = deliver o := by
  unfold deliver output
  rw [houtput, hformat]

variable {config : Config} {quiet : Bool} {stdin : Blob} {before after : Progress}
  {result : Except Failure (Option Int)}

theorem ends_run_of_deliver (htext : before.surroundings.readText stdin o.text o.file = .ok t)
    (h : Run.Ends (deliver o quiet (blob config.format o t)) before result after) :
    Run.Ends (run config o quiet stdin) before result after :=
  (Run.ends_surroundings before).bind (Run.Ends.ofExcept_bind htext h)

theorem ends_run_of_blob_error {e : Identifier.Fault}
    (htext : before.surroundings.readText stdin o.text o.file = .ok t)
    (hblob : blob config.format o t = .error e) :
    Run.Ends (run config o quiet stdin) before (.error (.identifier e)) before := by
  refine ends_run_of_deliver htext ?_
  rw [hblob]
  exact Run.Ends.bind_error rfl

end Decode

namespace Session

open CommandLine

variable {s : Session} {arguments rest : List Text} {g : Globals} {config : Config}
  {o : Decode.Options} {stdin : Blob}

/-- How a run ends that cannot read a character: the character is reported, or the failure is let
out. -/
def illegible (s : Session) (g : Globals) (config : Config) (e : Base32.InvalidCharacter) :
    Outcome × Session :=
  (if g.debug then ⟨.error (.identifier (.character e)), [], [], []⟩
    else ⟨.ok 2, [], s.surroundings.screen.line ("Error: ".toList ++ e.message), []⟩,
  ⟨s.surroundings, g.consoles config⟩)

theorem invoke_eq_illegible {e : Base32.InvalidCharacter} {t : Text}
    (hcalls : Calls arguments g .decode rest)
    (hload : s.surroundings.loadConfig g.config = .ok config)
    (hasks : Asks .decode Decode.Options.ofParsed rest o)
    (htext : s.surroundings.readText stdin o.text o.file = .ok t)
    (hblob : Decode.blob config.format o t = .error (.character e)) :
    s.invoke arguments stdin = s.illegible g config e := by
  have hrun : Run.Ends (Decode.run config o (g.context config).quiet stdin)
      ⟨s.surroundings, g.consoles config, [], [], []⟩ (.error (.identifier (.character e))) _ :=
    Decode.ends_run_of_blob_error htext hblob
  unfold illegible
  cases hdebug : g.debug with
  | false =>
    have hends := ends_decode_reported hasks rfl hdebug hrun rfl (Base32.render_errorLine _ e)
    rw [invoke_of_ends (hcalls.ends hload hends), List.nil_append]
    dsimp only
    rfl
  | true =>
    rw [invoke_of_ends (hcalls.ends hload (ends_decode_debug hasks rfl hdebug hrun))]
    rfl

/-- Two runs that decode texts of the same essence end in the same way, unless there is a character
that cannot be read: then both name this character, each at its own index. -/
theorem invoke_decode_ignores_decoration {arguments' rest' : List Text} {o' : Decode.Options}
    {stdin' : Blob} {t t' : Text} (hcalls : Calls arguments g .decode rest)
    (hcalls' : Calls arguments' g .decode rest')
    (hload : s.surroundings.loadConfig g.config = .ok config)
    (hasks : Asks .decode Decode.Options.ofParsed rest o)
    (hasks' : Asks .decode Decode.Options.ofParsed rest' o')
    (hoptions : o' = { o with text := o'.text, file := o'.file })
    (htext : s.surroundings.readText stdin o.text o.file = .ok t)
    (htext' : s.surroundings.readText stdin' o'.text o'.file = .ok t')
    (hsame : Decode.essence config.format.separator t =
      Decode.essence config.format.separator t') :
    s.invoke arguments' stdin' = s.invoke arguments stdin ∨
      ∃ c i i', s.invoke arguments stdin = s.illegible g config ⟨c, i⟩ ∧
        s.invoke arguments' stdin' = s.illegible g config ⟨c, i'⟩ := by
  have hverify : o'.verify = o.verify := by rw [hoptions]
  have houtput : o'.output = o.output := by rw [hoptions]
  have hformat : o'.format = o.format := by rw [hoptions]
  rcases Decode.blob_eq_or_illegible hverify hsame with hblob | ⟨c, i, i', hblob, hblob'⟩
  · left
    let before : Progress := ⟨s.surroundings, g.consoles config, [], [], []⟩
    obtain ⟨r, middle, hdeliver⟩ := Run.exists_ends
      (Decode.deliver o (g.context config).quiet (Decode.blob config.format o t)) before
    have hrun : Run.Ends (Decode.run config o (g.context config).quiet stdin) before r middle :=
      Decode.ends_run_of_deliver htext hdeliver
    have hrun' : Run.Ends (Decode.run config o' (g.context config).quiet stdin') before r
        middle := by
      refine Decode.ends_run_of_deliver htext' ?_
      rw [hblob, Decode.deliver_congr houtput hformat]
      exact hdeliver
    obtain ⟨result, after, hcommand⟩ := Run.exists_ends
      (Run.command (g.context config).debug
        (Decode.run config o (g.context config).quiet stdin)) before
    have hcommand' := Run.ends_command_congr hrun hrun' hcommand
    rw [invoke_of_ends (hcalls.ends hload (hasks.ends rfl hcommand)),
      invoke_of_ends (hcalls'.ends hload (hasks'.ends rfl hcommand'))]
  · right
    exact ⟨c, i, i', invoke_eq_illegible hcalls hload hasks htext hblob,
      invoke_eq_illegible hcalls' hload hasks' htext' hblob'⟩

theorem invoke_decode_ignores_decoration_across_sources :
    let s := configured "[format]\nseparator='='".toList []
    let outcome := (s.invoke ["decode".toList, "--no-verify".toList, "m =Y".toList] []).1
    let outcome' := (s.invoke ["decode".toList, "--no-verify".toList, "--file".toList, "-".toList]
      (Utf8.encode "M-y\n".toList)).1
    outcome.stdout = outcome'.stdout ∧ outcome.ending = outcome'.ending := by
  intro s
  let config : Config :=
    ⟨⟨.slash, ["c".toList]⟩, ⟨5, ['='], .lower, true, none⟩, ⟨false, false⟩⟩
  have hload : s.surroundings.loadConfig none = .ok config :=
    loadConfig_configured (Except.toOption_eq_some_iff.mp (by decide +kernel))
  have hasks : Asks .decode Decode.Options.ofParsed ["--no-verify".toList, "m =Y".toList]
      ⟨some "m =Y".toList, none, some false, .hex, none⟩ :=
    ⟨_, rfl, rfl, rfl⟩
  have hasks' : Asks .decode Decode.Options.ofParsed
      ["--no-verify".toList, "--file".toList, "-".toList]
      ⟨none, some "-".toList, some false, .hex, none⟩ :=
    ⟨_, rfl, rfl, rfl⟩
  have htext : s.surroundings.readText [] (some "m =Y".toList) none = .ok "m =Y".toList := rfl
  have htext' : s.surroundings.readText (Utf8.encode "M-y\n".toList) none (some "-".toList) =
      .ok "M-y\n".toList := rfl
  have hsame : Decode.essence ['='] "m =Y".toList = Decode.essence ['='] "M-y\n".toList := by
    decide
  rcases invoke_decode_ignores_decoration (calls_decode _) (calls_decode _) hload hasks hasks' rfl
    htext htext' hsame with h | ⟨c, i, i', h, h'⟩
  · rw [h]
    exact ⟨rfl, rfl⟩
  · rw [h, h']
    exact ⟨rfl, rfl⟩

end Session

end CheckedText
