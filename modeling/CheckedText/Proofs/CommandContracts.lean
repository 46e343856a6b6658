import CheckedText.Proofs.ReportableFailures
import CheckedText.Proofs.CommandRuns
import CheckedText.Proofs.RunContracts

/-!
# What the commands can do

Encoding, the checksum and the settings leave the file tree alone. Decoding may write one file, once
its input was read and decoded. All of them fail only in ways that can be reported.
-/

namespace CheckedText

open Failure

variable {clear : Prop} {s : Surroundings} {stdin : Blob} {config : Config} {quiet : Bool}

namespace Encode

theorem stays_run {o : Options} :
    Run.Stays s (Reportable clear) (· = none) (run config o stdin) := by
  refine Run.meets_surroundings_bind (Run.meets_ofExcept_bind rfl ?_ fun data _ =>
    Run.meets_ofExcept_bind rfl ?_ fun ls _ => ?_)
  · exact fun f h => .inl (Surroundings.early_of_readBlob h)
  · exact fun f h => .inl (early_of_mapError (fun _ => rfl) h)
  · exact (Run.stays_forM_print _).bind fun _ _ => Run.meets_pure rfl rfl

end Encode

namespace Checksum

theorem stays_run {o : Options} : Run.Stays s (Reportable clear) (· = none) (run o stdin) := by
  refine Run.meets_surroundings_bind (Run.meets_ofExcept_bind rfl ?_ fun data _ => ?_)
  · exact fun f h => .inl (Surroundings.early_of_readBlob h)
  · exact (Run.stays_print _).bind fun _ _ => Run.meets_pure rfl rfl

end Checksum

namespace Decode

variable {o : Options}

def stored (s : Surroundings) (o : Options) (data : Blob) : Surroundings :=
  match o.output.filter (· ≠ []) with
  | none => s
  | some path =>
    match s.files.write path data with
    | .ok tree => { s with files := tree }
    | .error _ => s

/-- The surroundings that a decoding leaves behind: only what was read and decoded is stored. -/
def leftBehind (s : Surroundings) (config : Config) (o : Options) (stdin : Blob) : Surroundings :=
  match s.readText stdin o.text o.file with
  | .error _ => s
  | .ok t =>
    match blob config.format o t with
    | .error _ => s
    | .ok (data, _) => stored s o data

theorem render_paddingWarning (screen : Screen) :
    screen.render ("[yellow]Warning:[/yellow] ".toList ++ paddingWarning) =
      .ok ("Warning: ".toList ++ paddingWarning) := by
  have hplain : '[' ∉ ' ' :: paddingWarning := by
    have hwarning : '[' ∉ paddingWarning := Text.not_mem_literal (by decide)
    simp [hwarning]
  have hunnamed : Markup.Nameless (' ' :: paddingWarning) := by decide +kernel
  have hlabelled : screen.render ("[yellow]Warning:[/yellow] ".toList ++ paddingWarning) = _ :=
    Markup.render_labelled "yellow".toList "Warning".toList ⟨by decide, by decide, by decide⟩
      ⟨by decide, by decide, by decide⟩ rfl (fun _ => rfl) (by decide) (by decide)
      (' ' :: paddingWarning)
  rw [hlabelled, Markup.renderFrom_of_not_mem hplain]
  change Except.ok ("Warning:".toList ++ [' ' :: paddingWarning].flatMap _) = _
  rw [List.flatMap_singleton, Markup.replaceNames_of_nameless hunnamed]
  rfl

theorem stays_warn :
    Run.Stays s (fun _ => False) (fun _ => True) (Run.warn quiet paddingWarning) := by
  unfold Run.warn
  split
  · exact Run.meets_pure rfl trivial
  · refine Run.stays_printMarkedErr fun e he => ?_
    rw [render_paddingWarning] at he
    cases he

theorem meets_output {data : Blob}
    (houtput : clear → quiet = false → ∀ path ∈ o.output, '[' ∉ path) :
    Run.Meets s (· = stored s o data) (Reportable clear) (fun _ => True)
      (output o quiet data) := by
  unfold output stored
  cases hfilter : o.output.filter (· ≠ []) with
  | none =>
    cases o.format with
    | raw => exact Run.stays_writeOut data
    | hex => exact Run.stays_print _
    | text =>
      exact Run.meets_ofExcept_bind rfl
        (fun f h => .inl (early_of_mapError (fun _ => rfl) h)) fun t _ => Run.stays_print t
  | some path =>
    dsimp only
    refine Run.meets_surroundings_bind (Run.meets_ofExcept_cases (fun f hf => ⟨?_,
      .inl (Surroundings.early_of_files hf)⟩) fun files hfiles => ?_)
    · cases hwrite : s.files.write path data with
      | error e => rfl
      | ok files =>
        rw [hwrite] at hf
        cases hf
    · simp only [Except.mapError_eq_ok_iff.mp hfiles]
      refine Run.meets_setSurroundings.bind (fun _ ht => ht) ?_
      rintro _ t rfl -
      split
      · exact Run.meets_pure rfl trivial
      case isFalse hquiet =>
        have hpath (h : clear) : '[' ∉ path :=
          houtput h (by simpa using hquiet) path (Option.filter_eq_some_iff.mp hfilter).1
        exact Run.stays_printMarkedErr fun e =>
          reportable_markup fun h => render_notice s.screen (hpath h)

theorem meets_run (houtput : clear → quiet = false → ∀ path ∈ o.output, '[' ∉ path) :
    Run.Meets s (· = leftBehind s config o stdin) (Reportable clear) (· = none)
      (run config o quiet stdin) := by
  unfold leftBehind
  refine Run.meets_surroundings_bind (Run.meets_ofExcept_cases (fun f hf => ⟨?_,
    .inl (Surroundings.early_of_readText hf)⟩) fun t ht => ?_)
  · rw [hf]
  rw [ht]
  dsimp only
  refine Run.meets_ofExcept_cases (fun f hf => ⟨?_,
    .inl (early_of_mapError (fun _ => rfl) hf)⟩) ?_
  · cases hblob : blob config.format o t with
    | error e => rfl
    | ok decoded =>
      rw [hblob] at hf
      cases hf
  rintro ⟨data, dropped⟩ hblob
  have hdelivered : Run.Meets s (· = stored s o data) (Reportable clear) (· = none)
      (do output o quiet data; return none : Run (Option Int)) :=
    (meets_output houtput).bind (fun _ hu => hu) fun _ u hu _ => Run.meets_pure hu rfl
  simp only [Except.mapError_eq_ok_iff.mp hblob]
  cases dropped with
  | true => exact stays_warn.bind_sure fun _ _ => hdelivered
  | false => exact hdelivered

theorem leftBehind_cases (s : Surroundings) (config : Config) (o : Options) (stdin : Blob) :
    leftBehind s config o stdin = s ∨
      ∃ path t data dropped files, o.output = some path ∧ path ≠ [] ∧
        s.readText stdin o.text o.file = .ok t ∧
        blob config.format o t = .ok (data, dropped) ∧ s.files.write path data = .ok files ∧
        leftBehind s config o stdin = { s with files } := by
  unfold leftBehind
  cases htext : s.readText stdin o.text o.file with
  | error f => exact .inl rfl
  | ok t =>
    dsimp only
    cases hblob : blob config.format o t with
    | error e => exact .inl rfl
    | ok decoded =>
      obtain ⟨data, dropped⟩ := decoded
      unfold stored
      dsimp only
      cases hfilter : o.output.filter (· ≠ []) with
      | none => exact .inl rfl
      | some path =>
        obtain ⟨hsome, hpath⟩ := Option.filter_eq_some_iff.mp hfilter
        dsimp only
        cases hwrite : s.files.write path data with
        | error e => exact .inl rfl
        | ok files =>
          exact .inr ⟨path, t, data, dropped, files, hsome, by simpa using hpath, rfl, hblob,
            hwrite, rfl⟩

end Decode

theorem Text.not_mem_intercalate {c : Char} {separator : Text} {ls : List Text}
    (hseparator : c ∉ separator) (hls : ∀ l ∈ ls, c ∉ l) : c ∉ separator.intercalate ls := by
  induction ls with
  | nil => nofun
  | cons l ls ih =>
    have hl := hls l List.mem_cons_self
    have hrest := ih fun l hl => hls l (List.mem_cons_of_mem _ hl)
    cases ls with
    | nil => simpa using hl
    | cons k ls =>
      rw [List.intercalate_cons_cons]
      simp [hl, hseparator, hrest]

namespace Editor

variable {asked : Option Text}

theorem early_of_command {env : Environment} {f : Failure} (h : command env asked = .error f) :
    f.family.isReportedEarly = true := by
  unfold command at h
  dsimp only at h
  split at h
  · cases h
  · cases hsplit : Words.split (Text.strip (asked.getD (ofEnvironment env))) with
    | error e =>
      rw [hsplit] at h
      cases h
      rfl
    | ok words =>
      rw [hsplit] at h
      cases h

theorem render_announcement (screen : Screen) {path : Path} {words : Option (List Text)}
    (hpath : '[' ∉ path.text) (hwords : ∀ ws ∈ words, ∀ word ∈ ws, '[' ∉ word) :
    ∃ shown, screen.render (announcement path words) = .ok shown := by
  -- The literals hold parts of the tags, so they are cut where the tags end.
  have hopen : "[dim]Opening ".toList = "[dim]".toList ++ "Opening ".toList := rfl
  have hclose : "...[/dim]".toList = "...".toList ++ "[/dim]".toList := rfl
  cases words with
  | none =>
    have hbody : '[' ∉ "Opening ".toList ++ path.text ++ "...".toList := by simp [hpath]
    change ∃ shown, screen.render ("[dim]Opening ".toList ++ path.text ++ "...[/dim]".toList) = _
    rw [hopen, hclose]
    simpa only [List.append_assoc] using screen.render_dim hbody
  | some words =>
    have hjoined : '[' ∉ [' '].intercalate words :=
      Text.not_mem_intercalate (by decide) (hwords words rfl)
    have hbody : '[' ∉ "Opening ".toList ++ path.text ++ " with ".toList ++
        [' '].intercalate words ++ "...".toList := by simp [hpath, hjoined]
    change ∃ shown, screen.render ("[dim]Opening ".toList ++ path.text ++ " with ".toList ++
      [' '].intercalate words ++ "...[/dim]".toList) = _
    rw [hopen, hclose]
    simpa only [List.append_assoc] using screen.render_dim hbody

theorem stays_run {path : Path}
    (htarget : clear → quiet = false → ∀ target, s.expand path.text = .ok target →
      '[' ∉ target.text)
    (hwords : clear → quiet = false → ∀ words, command s.environment asked = .ok (some words) →
      ∀ word ∈ words, '[' ∉ word) :
    Run.Stays s (Reportable clear) (fun _ => True) (run path asked quiet) := by
  refine Run.meets_surroundings_bind (Run.meets_ofExcept_bind rfl
    (fun f h => .inl (Surroundings.early_of_expand h)) fun target hexpand => ?_)
  refine Run.meets_ofExcept_bind rfl
    (fun f h => .inl (Surroundings.early_of_files h)) fun present _ => ?_
  have hrest : Run.Stays s (Reportable clear) (fun _ => True) (do
      let words ← Run.ofExcept (command s.environment asked)
      if !quiet then Run.printMarked (announcement target words)
      Run.launch (launch target words) : Run Unit) := by
    refine Run.meets_ofExcept_bind rfl (fun f h => .inl (early_of_command h)) ?_
    intro words hcommand
    cases quiet with
    | true => exact Run.stays_launch _
    | false =>
      refine (Run.stays_printMarked fun e => reportable_markup fun h => ?_).bind
        fun _ _ => Run.stays_launch _
      refine render_announcement s.screen (htarget h rfl target hexpand) ?_
      rintro ws ⟨⟩
      exact hwords h rfl ws hcommand
  cases present with
  | true => exact hrest
  | false => exact Run.meets_throw rfl (.inl rfl)

end Editor

namespace Console

theorem cells_isOk (screen : Screen) {rows : List (Text × Text)} {pick : Text × Text → Text}
    (h : ∀ r ∈ rows, '[' ∉ pick r) :
    ∃ cells, (rows.mapM fun r => cell screen (pick r)) = .ok cells := by
  induction rows with
  | nil => exact ⟨[], rfl⟩
  | cons r rows ih =>
    obtain ⟨shown, hshown⟩ := screen.render_of_not_mem (h r List.mem_cons_self)
    obtain ⟨cells, hcells⟩ := ih fun r hr => h r (List.mem_cons_of_mem _ hr)
    rw [List.mapM_cons, cell, hshown]
    exact ⟨_, Except.bind_eq_ok_iff.mpr ⟨_, rfl, Except.bind_eq_ok_iff.mpr ⟨cells, hcells, rfl⟩⟩⟩

theorem table_isOk (screen : Screen) {rows : List (Text × Text)}
    (h : ∀ r ∈ rows, '[' ∉ r.1 ∧ '[' ∉ r.2) : ∃ t, table screen rows = .ok t := by
  obtain ⟨keys, hkeys⟩ := cells_isOk screen fun r hr => (h r hr).1
  obtain ⟨values, hvalues⟩ := cells_isOk screen fun r hr => (h r hr).2
  exact ⟨_, Except.bind_eq_ok_iff.mpr
    ⟨keys, hkeys, Except.bind_eq_ok_iff.mpr ⟨values, hvalues, rfl⟩⟩⟩

end Console

namespace Settings

variable {o : Options}

theorem showInteger_cases (n : Int) :
    (∃ t, showInteger n = .ok t ∧ '[' ∉ t) ∨ showInteger n = .error (.longInteger none) := by
  unfold showInteger
  split
  · exact .inr rfl
  · refine .inl ⟨_, rfl, ?_⟩
    cases n with
    | ofNat n => exact Text.bracket_not_mem_decimal n
    | negSucc n => simp [Text.signedDecimal, Text.bracket_not_mem_decimal]

theorem early_of_rows {f : Failure} (h : rows config = .error f) :
    f.family.isReportedEarly = true := by
  have hearly {n : Int} (h : showInteger n = .error f) : f.family.isReportedEarly = true := by
    rcases showInteger_cases n with ⟨t, ht, -⟩ | hlong
    · rw [ht] at h
      cases h
    · rw [hlong] at h
      cases h
      rfl
  rcases Except.bind_eq_error_iff.mp h with h | ⟨size, -, h⟩
  · exact hearly h
  rcases Except.bind_eq_error_iff.mp h with h | ⟨length, -, h⟩
  · exact hearly h
  · cases h

theorem not_mem_rows {rs : List (Text × Text)} (h : rows config = .ok rs)
    (hpath : '[' ∉ config.path.text) (hseparator : '[' ∉ config.format.separator) :
    ∀ r ∈ rs, '[' ∉ r.1 ∧ '[' ∉ r.2 := by
  have hinteger {n : Int} {t : Text} (h : showInteger n = .ok t) : '[' ∉ t := by
    rcases showInteger_cases n with ⟨u, hu, hnot⟩ | hlong
    · rw [hu] at h
      cases h
      exact hnot
    · rw [hlong] at h
      cases h
  obtain ⟨size, hsize, h⟩ := Except.bind_eq_ok_iff.mp h
  obtain ⟨length, hlength, h⟩ := Except.bind_eq_ok_iff.mp h
  cases h
  have hcase : '[' ∉ config.format.letterCase.text := by
    cases config.format.letterCase <;> decide
  have hboolean : ∀ b, '[' ∉ showBoolean b := by decide
  have hquoted := Text.bracket_not_mem_quote hseparator
  simp [hpath, hinteger hsize, hinteger hlength, hcase, hboolean, hquoted]

theorem render_hint (screen : Screen) : ∃ shown, screen.render hint = .ok shown := by
  have hhint : hint = "[dim]".toList ++
      "Hint: run `textid --init-config` to create a user config.".toList ++ "[/dim]".toList := by
    decide +kernel
  rw [hhint]
  exact screen.render_dim (Text.not_mem_literal (by decide))

theorem stays_showTable (hpath : clear → '[' ∉ config.path.text)
    (hseparator : clear → '[' ∉ config.format.separator) :
    Run.Stays s (Reportable clear) (fun _ => True) (showTable config quiet) := by
  refine Run.meets_ofExcept_bind rfl (fun f h => .inl (early_of_rows h)) fun rows hrows => ?_
  refine Run.meets_surroundings_bind (Run.meets_ofExcept_bind rfl ?_ fun t _ =>
    (Run.stays_writeOut _).bind fun _ _ => ?_)
  · cases htable : Console.table s.screen rows with
    | ok t => nofun
    | error e =>
      rintro f ⟨⟩
      refine .inr ⟨fun h => ?_, e, rfl⟩
      obtain ⟨t, ht⟩ := Console.table_isOk s.screen (not_mem_rows hrows (hpath h) (hseparator h))
      rw [ht] at htable
      cases htable
  · split
    · refine Run.meets_ofExcept_bind rfl
        (fun f h => .inl (Surroundings.early_of_lacksUserFile h)) fun lacks _ => ?_
      cases lacks with
      | true =>
        exact Run.stays_printMarkedErr fun e => reportable_markup fun _ => render_hint s.screen
      | false => exact Run.meets_pure rfl trivial
    · exact Run.meets_pure rfl trivial

/-- The texts from outside that the settings are shown with. -/
inductive Prints (s : Surroundings) (config : Config) (o : Options) (quiet : Bool) : Text → Prop
  | path (h : o.printPath = true ∨ (o.edit || o.editor.isSome) = false) :
      Prints s config o quiet config.path.text
  | separator (hpath : o.printPath = false) (hedit : (o.edit || o.editor.isSome) = false) :
      Prints s config o quiet config.format.separator
  | target {target : Path} (hpath : o.printPath = false)
      (hedit : (o.edit || o.editor.isSome) = true) (hquiet : quiet = false)
      (htarget : s.expand config.path.text = .ok target) : Prints s config o quiet target.text
  | word {words : List Text} {word : Text} (hpath : o.printPath = false)
      (hedit : (o.edit || o.editor.isSome) = true) (hquiet : quiet = false)
      (hwords : Editor.command s.environment o.editor = .ok (some words)) (hword : word ∈ words) :
      Prints s config o quiet word

theorem stays_run (hclear : clear → ∀ t, Prints s config o quiet t → '[' ∉ t) :
    Run.Stays s (Reportable clear) (· = none) (run config o quiet) := by
  have hreturn {x : Run Unit} (hx : Run.Stays s (Reportable clear) (fun _ => True) x) :
      Run.Stays s (Reportable clear) (· = none) (do x; return none : Run (Option Int)) :=
    hx.bind fun _ _ => Run.meets_pure rfl rfl
  unfold run
  split
  case isTrue hpath =>
    refine hreturn (Run.stays_printUncut fun e => reportable_markup fun h => ?_)
    exact s.screen.render_of_not_mem (hclear h _ (.path (.inl hpath)))
  case isFalse hpath =>
    have hpath : o.printPath = false := by simpa using hpath
    split
    case isTrue hedit =>
      refine hreturn (Editor.stays_run ?_ ?_)
      · exact fun h hquiet target htarget => hclear h _ (.target hpath hedit hquiet htarget)
      · exact fun h hquiet words hwords word hword =>
          hclear h _ (.word hpath hedit hquiet hwords hword)
    case isFalse hedit =>
      have hedit : (o.edit || o.editor.isSome) = false := by simpa using hedit
      exact hreturn (stays_showTable (fun h => hclear h _ (.path (.inr hedit)))
        fun h => hclear h _ (.separator hpath hedit))

end Settings

end CheckedText
