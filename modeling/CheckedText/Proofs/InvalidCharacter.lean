import CheckedText.Proofs.FirstIllegible
import CheckedText.Proofs.FoldedLines
import CheckedText.Proofs.IdentifierLanguage
import CheckedText.Proofs.Invocation

/-!
# Reports of invalid characters

Decoding looks at a text without its decoration, but reports an invalid character at its index in
the text as given. The report is a plain line: what it quotes is neither taken for markup nor
changed by the console.
-/

namespace CheckedText

namespace Identifier

theorem verify_ne_character (raw : Blob) (e : Base32.InvalidCharacter) :
    verify raw ≠ .error (.character e) := by
  match raw with
  | a :: b :: c :: d :: rest =>
    rw [verify_cons]
    split <;> nofun
  | [] | [_] | [_, _] | [_, _, _] => nofun

theorem character_injective : Function.Injective Fault.character := fun _ _ h =>
  Fault.character.inj h

theorem decode_eq_character_iff {t : Text} {e : Base32.InvalidCharacter} :
    decode t = .error (.character e) ↔ Base32.decode t = .error e := by
  rw [← Except.mapError_eq_error_iff character_injective]
  constructor
  · intro h
    rcases Except.bind_eq_error_iff.mp h with h | ⟨raw, -, h⟩
    · exact h
    · exact absurd h (verify_ne_character raw e)
  · intro h
    exact Except.bind_eq_error_iff.mpr (.inl h)

end Identifier

namespace Decoration

variable {separator before after t : Text} {c : Char}

theorem length_positions (separator t : Text) :
    (positions separator t).length = (compact separator t).length := by
  rw [positions, compact, List.length_map, List.length_map]

theorem compact_append_cons (hc : isDecoration separator c = false) :
    compact separator (before ++ c :: after) =
      compact separator before ++ c :: compact separator after := by
  rw [compact_eq_filter, compact_eq_filter, compact_eq_filter, List.filter_append,
    List.filter_cons_of_pos (by simp [hc])]

theorem getElem?_positions (hc : isDecoration separator c = false) :
    (positions separator (before ++ c :: after))[(compact separator before).length]? =
      some before.length := by
  have hkept : kept separator (before ++ c :: after) = kept separator before ++
      (c, before.length) :: (after.zipIdx (before.length + 1)).filter
        fun p => !isDecoration separator p.1 := by
    rw [kept, List.zipIdx_append, List.filter_append, List.zipIdx_cons,
      List.filter_cons_of_pos (by simp [hc]), Nat.zero_add]
    rfl
  rw [positions, hkept, List.map_append, ← length_positions, positions,
    List.getElem?_append_right (Nat.le_refl _), Nat.sub_self]
  rfl

end Decoration

namespace Decode

def Readable (separator : Text) (c : Char) : Prop :=
  Text.isBlank c = true ∨ c ∈ separator ∨ Base32.Legible c

instance (separator : Text) (c : Char) : Decidable (Readable separator c) :=
  inferInstanceAs (Decidable (_ ∨ _ ∨ _))

theorem readable_iff {separator : Text} {c : Char} :
    Readable separator c ↔ Decoration.isDecoration separator c = true ∨ Base32.Legible c := by
  rw [Readable, ← or_assoc, Decoration.isDecoration, Bool.or_eq_true, List.contains_iff_mem]

variable {f : Format} {o : Options} {t : Text} {i : Nat} {c : Char}

theorem readSymbols_compact {separator : Text}
    (hfirst : FirstAt (¬ Readable separator ·) t i c) :
    ∃ k, Base32.readSymbols (Decoration.compact separator t) = .error ⟨c, k⟩ ∧
      (Decoration.positions separator t)[k]? = some i := by
  obtain ⟨before, after, rfl, rfl, hc, hbefore⟩ := firstAt_iff_append.mp hfirst
  rw [readable_iff, not_or, Bool.not_eq_true] at hc
  refine ⟨_, ?_, Decoration.getElem?_positions hc.1⟩
  rw [Decoration.compact_append_cons hc.1]
  apply Base32.readSymbols_of_firstAt
  refine firstAt_iff_append.mpr ⟨_, _, rfl, rfl, hc.2, ?_⟩
  intro d hd hillegible
  rw [Decoration.compact_eq_filter, List.mem_filter, Bool.not_eq_true'] at hd
  rcases readable_iff.mp (Decidable.not_not.mp (hbefore d hd.1)) with hdecoration | hlegible
  · rw [hd.2] at hdecoration
    cases hdecoration
  · exact hillegible hlegible

theorem decodeCompact_eq_character_iff {verify : Bool} {e : Base32.InvalidCharacter} :
    decodeCompact verify t = .error (.character e) ↔ Base32.readSymbols t = .error e := by
  have hdecode : Base32.decode t = .error e ↔ Base32.readSymbols t = .error e :=
    Except.map_eq_error_iff
  rw [← hdecode]
  cases verify with
  | true => exact Identifier.decode_eq_character_iff
  | false => exact Except.mapError_eq_error_iff Identifier.character_injective

theorem position_lt_length_positions {separator : Text} {verify : Bool}
    {e : Base32.InvalidCharacter}
    (h : decodeCompact verify (Decoration.compact separator t) = .error (.character e)) :
    e.position < (Decoration.positions separator t).length := by
  rw [Decoration.length_positions]
  exact Base32.position_lt_length (decodeCompact_eq_character_iff.mp h)

theorem blob_of_firstAt (hfirst : FirstAt (¬ Readable f.separator ·) t i c) :
    blob f o t = .error (.character ⟨c, i⟩) := by
  obtain ⟨k, hread, hplace⟩ := readSymbols_compact hfirst
  rw [blob, decodeCompact_eq_character_iff.mpr hread]
  change Except.error (relocate _ (.character ⟨c, k⟩)) = _
  rw [relocate, List.getD_eq_getElem?_getD, hplace, Option.getD_some]

theorem ends_run_of_firstAt {config : Config} {quiet : Bool} {stdin : Blob} {before : Progress}
    (htext : before.surroundings.readText stdin o.text o.file = .ok t)
    (hfirst : FirstAt (¬ Readable config.format.separator ·) t i c) :
    Run.Ends (run config o quiet stdin) before
      (.error (.identifier (.character ⟨c, i⟩))) before := by
  refine (Run.ends_surroundings before).bind (Run.Ends.ofExcept_bind htext ?_)
  rw [blob_of_firstAt hfirst]
  exact Run.Ends.bind_error rfl

end Decode

namespace Base32

theorem InvalidCharacter.message_eq (e : InvalidCharacter) :
    e.message = "invalid base32 character ".toList ++ Text.quote [e.char] ++
      " at position ".toList ++ Text.decimal e.position := rfl

theorem InvalidCharacter.isPlain_message (e : InvalidCharacter) : Markup.IsPlain e.message := by
  -- Of all characters only a bracket could be taken for markup, and no tag starts with a quote.
  have hdecimal : '[' ∉ Text.decimal e.position := fun hmem =>
    absurd (Text.mem_decimal hmem) (by decide)
  by_cases hbracket : e.char = '['
  · have hquote : Text.quote ['['] = ['\x27', '[', '\x27'] := by decide
    have hmessage : e.message = ("invalid base32 character ".toList ++ ['\x27']) ++
        '[' :: '\x27' :: (" at position ".toList ++ Text.decimal e.position) := by
      rw [InvalidCharacter.message_eq, hbracket, hquote]
      simp only [List.append_assoc, List.cons_append, List.nil_append]
    have hrest : '[' ∉ '\x27' :: (" at position ".toList ++ Text.decimal e.position) := by
      rw [List.mem_cons, List.mem_append, not_or, not_or]
      exact ⟨by decide, by decide, hdecimal⟩
    rw [hmessage]
    exact Markup.isPlain_bracket _ (by decide) (by decide) (by decide) hrest
  · have hquote : '[' ∉ Text.quote [e.char] :=
      Text.bracket_not_mem_quote fun hmem => hbracket (List.mem_singleton.mp hmem).symm
    apply Markup.isPlain_of_not_mem
    simp only [InvalidCharacter.message_eq, List.mem_append, not_or]
    exact ⟨⟨⟨by decide, hquote⟩, by decide⟩, hdecimal⟩

theorem InvalidCharacter.nameless_message (e : InvalidCharacter) : Markup.Nameless e.message := by
  -- Only the character itself can be a colon.
  have hdecimal : ':' ∉ Text.decimal e.position := fun hmem =>
    absurd (Text.mem_decimal hmem) (by decide)
  have hquote : (Text.quote [e.char]).count ':' ≤ 1 := by
    by_cases hcolon : e.char = ':'
    · rw [hcolon]
      decide
    · have hnot : ':' ∉ Text.quote [e.char] := by
        intro hmem
        rcases Text.mem_quote hmem with ⟨hmem, -⟩ | hmem
        · exact hcolon (List.mem_singleton.mp hmem).symm
        · exact absurd hmem (by decide)
      rw [List.count_eq_zero.mpr hnot]
      decide
  have hbefore : "invalid base32 character ".toList.count ':' = 0 := by decide
  have hbetween : " at position ".toList.count ':' = 0 := by decide
  apply Markup.nameless_of_count_le
  rw [InvalidCharacter.message_eq, List.count_append, List.count_append, List.count_append,
    hbefore, hbetween, List.count_eq_zero.mpr hdecimal]
  omega

theorem render_errorLine (screen : Screen) (e : InvalidCharacter) :
    screen.render (Run.errorLine (.identifier (.character e))) =
      .ok ("Error: ".toList ++ e.message) :=
  Run.render_errorLine_of_isPlain screen e.isPlain_message e.nameless_message

theorem isKept_message {e : InvalidCharacter} {c : Char}
    (hc : c ∈ "Error: ".toList ++ e.message) : Console.IsKept c := by
  simp only [InvalidCharacter.message_eq, List.mem_append] at hc
  rcases hc with hc | ((hc | hc) | hc) | hc
  · exact Console.isKept_of_all (by decide) c hc
  · exact Console.isKept_of_all (by decide) c hc
  · exact Console.isKept_of_mem_quote hc
  · exact Console.isKept_of_all (by decide) c hc
  · exact Console.isKept_of_mem_escapeSymbols (Text.mem_decimal hc)

theorem room_message {e : InvalidCharacter} (h : e.position < 10 ^ 20) :
    Text.room ("Error: ".toList ++ e.message) ≤ 80 := by
  -- With twenty digits the report has 77 columns at most.
  have hdecimal : Text.room (Text.decimal e.position) ≤ 20 := by
    rw [Text.room_of_escapeSymbols fun c => Text.mem_decimal]
    exact (Nat.length_toDigits_le_iff (by decide) (by decide)).mpr h
  have hquote := Text.room_quote_singleton e.char
  have hbefore : Text.room "invalid base32 character ".toList = 25 := by decide
  have hbetween : Text.room " at position ".toList = 13 := by decide
  have hlabel : Text.room "Error: ".toList = 7 := by decide
  rw [InvalidCharacter.message_eq]
  simp only [Text.room_append]
  omega

theorem line_message (screen : Screen) {e : InvalidCharacter} (h : e.position < 10 ^ 20) :
    screen.line ("Error: ".toList ++ e.message) =
      Utf8.encode ("Error: ".toList ++ e.message ++ ['\n']) := by
  have hfits : Console.Fits screen.width ("Error: ".toList ++ e.message) :=
    Console.fits_of_isKept (fun c => isKept_message)
      (Nat.le_trans (room_message h) screen.eighty_le)
  rw [Screen.line_of_fits hfits, Console.line, Console.shown_eq_self fun c => isKept_message]

end Base32

/-- The first character that cannot be read is reported where it stands in the text as given, and
nothing else happens. The line fits every screen unless the index has more than twenty digits. The
place of a reported position is always known. -/
theorem Session.invoke_decode_invalid_character {s : Session} {arguments rest : List Text}
    {g : CommandLine.Globals} {config : Config} {o : Decode.Options} {stdin : Blob} {t : Text}
    {i : Nat} {c : Char} (hcalls : CommandLine.Calls arguments g .decode rest)
    (hload : s.surroundings.loadConfig g.config = .ok config)
    (hasks : CommandLine.Asks .decode Decode.Options.ofParsed rest o)
    (htext : s.surroundings.readText stdin o.text o.file = .ok t)
    (hfirst : FirstAt (¬ Decode.Readable config.format.separator ·) t i c) :
    (g.debug = false → ∀ line : Text, line = "Error: invalid base32 character ".toList ++
        Text.quote [c] ++ " at position ".toList ++ Text.decimal i →
      s.invoke arguments stdin = (⟨.ok 2, [], s.surroundings.screen.line line, []⟩,
        ⟨s.surroundings, g.consoles config⟩) ∧
      (i < 10 ^ 20 → s.surroundings.screen.line line = Utf8.encode (line ++ ['\n']))) ∧
    (g.debug = true →
      s.invoke arguments stdin =
        (⟨.error (.identifier (.character ⟨c, i⟩)), [], [], []⟩,
        ⟨s.surroundings, g.consoles config⟩)) ∧
    ∀ (u : Text) (verify : Bool) (e : Base32.InvalidCharacter),
      Decode.decodeCompact verify (Decoration.compact config.format.separator u) =
        .error (.character e) →
      e.position < (Decoration.positions config.format.separator u).length := by
  let before : Progress := ⟨s.surroundings, g.consoles config, [], [], []⟩
  have hrun : Run.Ends (Decode.run config o (g.context config).quiet stdin) before
      (.error (.identifier (.character ⟨c, i⟩))) before :=
    Decode.ends_run_of_firstAt htext hfirst
  refine ⟨?_, ?_, fun u verify e => Decode.position_lt_length_positions⟩
  · intro hdebug line hline
    have hmessage : line = "Error: ".toList ++ Base32.InvalidCharacter.message ⟨c, i⟩ := hline
    have hends := CommandLine.ends_decode_reported hasks rfl hdebug hrun rfl
      (Base32.render_errorLine _ ⟨c, i⟩)
    rw [← hmessage] at hends
    refine ⟨invoke_of_ends (hcalls.ends hload hends), fun hposition => ?_⟩
    rw [hmessage]
    exact Base32.line_message _ hposition
  · intro hdebug
    have hends := CommandLine.ends_decode_debug hasks rfl hdebug hrun
    rw [invoke_of_ends (hcalls.ends hload hends)]

theorem Session.invoke_decode_invalid_character_bracket :
    let s := configured "[format]\nseparator='='".toList []
    s.invoke ["decode".toList, "m =[y".toList] [] =
      (⟨.ok 2, [], Utf8.encode "Error: invalid base32 character '[' at position 3\n".toList, []⟩,
        s) ∧
    s.invoke ["--debug".toList, "decode".toList, "m =[y".toList] [] =
      (⟨.error (.identifier (.character ⟨'[', 3⟩)), [], [], []⟩, s) := by
  intro s
  let config : Config :=
    ⟨⟨.slash, ["c".toList]⟩, ⟨5, ['='], .lower, true, none⟩, ⟨false, false⟩⟩
  have hload : s.surroundings.loadConfig none = .ok config :=
    loadConfig_configured (Except.toOption_eq_some_iff.mp (by decide +kernel))
  have hasks : CommandLine.Asks .decode Decode.Options.ofParsed ["m =[y".toList]
      ⟨some "m =[y".toList, none, none, .hex, none⟩ :=
    ⟨_, rfl, rfl, rfl⟩
  have hfirst : FirstAt (¬ Decode.Readable config.format.separator ·) "m =[y".toList 3 '[' := by
    have hall : "m =".toList.all (Decode.Readable ['='] ·) = true := by decide
    refine firstAt_iff_append.mpr ⟨"m =".toList, ['y'], rfl, rfl, ?_, fun d hd => ?_⟩
    · exact show ¬ Decode.Readable ['='] '[' by decide
    · exact Decidable.not_not.mpr (of_decide_eq_true (List.all_eq_true.mp hall d hd))
  have hdebug : CommandLine.Calls ["--debug".toList, "decode".toList, "m =[y".toList]
      ⟨none, true, false, false, false⟩ .decode ["m =[y".toList] :=
    ⟨_, _, rfl, rfl, rfl, rfl, rfl, rfl⟩
  constructor
  · obtain ⟨hinvoke, hline⟩ := (invoke_decode_invalid_character (CommandLine.calls_decode _) hload
      hasks rfl hfirst).1 rfl _ rfl
    rw [hinvoke, hline (by decide)]
    rfl
  · exact (invoke_decode_invalid_character hdebug hload hasks rfl hfirst).2.1 rfl

end CheckedText
