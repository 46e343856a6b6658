import CheckedText.Proofs.MarkedText
import CheckedText.Proofs.RunSteps

/-!
# From a failure to the end of an invocation

A failure passes through the steps that follow it and reaches the place where failures are
reported or let out. An invocation is followed from its arguments through the start to the command
that they call.
-/

namespace CheckedText

namespace Run

variable {α β : Type} {before middle after : Progress} {f : Failure}

theorem Ends.bind_error {x : Run α} {g : α → Run β} (hx : Ends x before (.error f) after) :
    Ends (x >>= g) before (.error f) after := by
  unfold Ends at hx ⊢
  rw [ExceptT.run_bind, StateT.run_bind, hx]
  rfl

theorem Ends.map_error {x : Run α} (g : α → β) (hx : Ends x before (.error f) after) :
    Ends (x.map g) before (.error f) after := by
  unfold Ends at hx ⊢
  change (g <$> x).run.run before = _
  rw [ExceptT.run_map, StateT.run_map, hx]
  rfl

theorem Ends.tryCatch_error {x : Run α} {handle : Failure → Run α} {result : Except Failure α}
    (hx : Ends x before (.error f) middle) (hhandle : Ends (handle f) middle result after) :
    Ends (MonadExcept.tryCatch x handle) before result after := by
  unfold Ends at hx hhandle ⊢
  rw [ExceptT.run_tryCatch, StateT.run_bind, hx]
  exact hhandle

theorem ends_command_reported {debug : Bool} {body : Run (Option Int)} {shown : Text}
    (hdebug : debug = false) (hbody : Ends body before (.error f) after)
    (hfamily : f.family.isReported = true)
    (hshown : after.surroundings.screen.render (errorLine f) = .ok shown) :
    Ends (command debug body) before (.ok failureCode)
      { after with stderr := after.stderr ++ after.surroundings.screen.line shown } := by
  refine (hbody.map_error _).tryCatch_error ?_
  rw [hfamily, hdebug]
  exact (ends_printMarkedErr hshown).bind (ends_pure failureCode _)

theorem ends_command_debug {debug : Bool} {body : Run (Option Int)} (hdebug : debug = true)
    (hbody : Ends body before (.error f) after) :
    Ends (command debug body) before (.error f) after := by
  refine (hbody.map_error _).tryCatch_error ?_
  rw [hdebug, Bool.not_true, Bool.and_false]
  rfl

theorem render_errorLine (screen : Screen) (f : Failure) :
    screen.render (errorLine f) =
      (Markup.renderFrom screen.complaint? 17 0 [] (' ' :: f.message)).map fun pieces =>
        "Error:".toList ++ pieces.flatMap (Markup.replaceNames screen.picture?) :=
  Markup.render_labelled "red".toList "Error".toList ⟨by decide, by decide, by decide⟩
    ⟨by decide, by decide, by decide⟩ rfl (fun _ => rfl) (by decide) (by decide) (' ' :: f.message)

theorem renderFrom_message {f : Failure} (hplain : Markup.IsPlain f.message)
    (complaint? : Text → Option Text) (position : Nat) :
    Markup.renderFrom complaint? position 0 [] (' ' :: f.message) = .ok [' ' :: f.message] := by
  refine Markup.renderFrom_of_isPlain (Markup.isPlain_cons_iff.mpr ⟨hplain, ?_, ?_⟩) (.inl rfl) _
  · exact fun he => absurd he (by decide)
  · exact fun he => absurd he (by decide)

theorem render_errorLine_of_isPlain (screen : Screen) {f : Failure}
    (hplain : Markup.IsPlain f.message) (hnames : Markup.Nameless f.message) :
    screen.render (errorLine f) = .ok ("Error: ".toList ++ f.message) := by
  rw [render_errorLine, renderFrom_message hplain]
  change Except.ok ("Error:".toList ++ [' ' :: f.message].flatMap _) = _
  rw [List.flatMap_singleton,
    Markup.replaceNames_of_nameless (Markup.nameless_cons (by decide) hnames)]
  rfl

end Run

namespace CommandLine

/-- Arguments that call a command: options that ask for nothing else, the name of the command, and
what is left for it. -/
def Calls (arguments : List Text) (g : Globals) (c : Command) (rest : List Text) : Prop :=
  ∃ p name, Options.parse globalOptions false arguments = .ok p ∧ answer? globalHelp p = none ∧
    p.arguments = name :: rest ∧ Command.read? name = some c ∧ g = .ofParsed p ∧
    g.initConfig = false

def Globals.context (g : Globals) (config : Config) : Context where
  config := some config
  debug := g.debug
  quiet := g.quiet || config.interface.quiet

def Globals.consoles (g : Globals) (config : Config) : Consoles where
  outNoColor := g.noColor || config.interface.noColor
  errNoColor := g.noColor || config.interface.noColor

variable {g : Globals} {config : Config} {c : Command} {arguments rest : List Text} {stdin : Blob}
  {before after : Progress} {result : Except Failure Int}

theorem ends_start (hinit : g.initConfig = false)
    (hload : before.surroundings.loadConfig g.config = .ok config) :
    Run.Ends (start g) before (.ok (.ready config))
      { before with consoles := ⟨g.noColor, g.noColor⟩ } := by
  refine Run.Ends.tryCatch ?_
  unfold startBody
  rw [hinit]
  exact Run.Ends.bind rfl ((Run.ends_surroundings _).bind
    (Run.Ends.ofExcept_bind hload (Run.ends_pure _ _)))

theorem Calls.ends (hcalls : Calls arguments g c rest)
    (hload : before.surroundings.loadConfig g.config = .ok config)
    (hcommand : Run.Ends (runCommand c (g.context config) rest stdin)
      { before with consoles := g.consoles config } result after) :
    Run.Ends (run arguments stdin) before result after := by
  obtain ⟨p, name, hparse, hanswer, harguments, hname, rfl, hinit⟩ := hcalls
  refine Run.Ends.ofExcept_bind (Except.mapError_eq_ok_iff.mpr hparse) ?_
  rw [hanswer, harguments]
  simp only [hname]
  refine (ends_start hinit hload).bind ?_
  unfold Globals.consoles at hcommand
  cases hcolor : config.interface.noColor with
  | true =>
    rw [hcolor, Bool.or_true] at hcommand
    simp only [hcolor]
    exact Run.Ends.bind rfl hcommand
  | false =>
    rw [hcolor, Bool.or_false] at hcommand
    simp only [hcolor]
    exact hcommand

variable {context : Context} {o : Decode.Options} {f : Failure}

theorem ends_decode_reported {shown : Text}
    (hasks : Asks .decode Decode.Options.ofParsed arguments o)
    (hconfig : context.config = some config) (hdebug : context.debug = false)
    (hrun : Run.Ends (Decode.run config o context.quiet stdin) before (.error f) after)
    (hfamily : f.family.isReported = true)
    (hshown : after.surroundings.screen.render (Run.errorLine f) = .ok shown) :
    Run.Ends (runCommand .decode context arguments stdin) before (.ok Run.failureCode)
      { after with stderr := after.stderr ++ after.surroundings.screen.line shown } :=
  hasks.ends rfl (Run.ends_command_reported hdebug
    (Run.Ends.ofExcept_bind (loaded_eq_ok hconfig) hrun) hfamily hshown)

theorem ends_decode_debug (hasks : Asks .decode Decode.Options.ofParsed arguments o)
    (hconfig : context.config = some config) (hdebug : context.debug = true)
    (hrun : Run.Ends (Decode.run config o context.quiet stdin) before (.error f) after) :
    Run.Ends (runCommand .decode context arguments stdin) before (.error f) after :=
  hasks.ends rfl (Run.ends_command_debug hdebug
    (Run.Ends.ofExcept_bind (loaded_eq_ok hconfig) hrun))

def Globals.unset : Globals :=
  ⟨none, false, false, false, false⟩

theorem calls_encode (rest : List Text) : Calls ("encode".toList :: rest) .unset .encode rest :=
  ⟨_, _, rfl, rfl, rfl, rfl, rfl, rfl⟩

theorem calls_decode (rest : List Text) : Calls ("decode".toList :: rest) .unset .decode rest :=
  ⟨_, _, rfl, rfl, rfl, rfl, rfl, rfl⟩

theorem calls_checksum (rest : List Text) :
    Calls ("checksum".toList :: rest) .unset .checksum rest :=
  ⟨_, _, rfl, rfl, rfl, rfl, rfl, rfl⟩

theorem calls_config (rest : List Text) : Calls ("config".toList :: rest) .unset .config rest :=
  ⟨_, _, rfl, rfl, rfl, rfl, rfl, rfl⟩

end CommandLine

namespace Session

theorem invoke_of_ends {s : Session} {arguments : List Text} {stdin : Blob}
    {result : Except Failure Int} {after : Progress}
    (h : Run.Ends (CommandLine.run arguments stdin) ⟨s.surroundings, s.consoles, [], [], []⟩
      result after) :
    s.invoke arguments stdin = (⟨result, after.stdout, after.stderr, after.launched⟩,
      ⟨after.surroundings, after.consoles⟩) := by
  unfold Run.Ends at h
  rw [invoke, h]

/-- A session for examples: the packaged configuration has this text, and there may be other
entries, but no configuration of the user. -/
def configured (content : Text) (others : List (Place × FileTree.Entry)) : Session where
  surroundings := ⟨⟨([['c']], .file (Utf8.encode content)) :: others, []⟩,
    ⟨[("HOME".toList, "/h".toList)], [], []⟩, .linux, ⟨.slash, [['c']]⟩, .plain⟩
  consoles := ⟨false, false⟩

theorem loadConfig_configured {content : Text} {config : Config}
    (h : Surroundings.parseConfig ⟨.slash, [['c']]⟩ (Utf8.encode content) = .ok config) :
    (configured content []).surroundings.loadConfig none = .ok config := by
  have hresolve : (configured content []).surroundings.resolve none = .ok ⟨.slash, [['c']]⟩ := rfl
  have hread : (configured content []).surroundings.files.read (Path.text ⟨.slash, [['c']]⟩) =
      .ok (Utf8.encode content) := rfl
  exact Except.bind_eq_ok_iff.mpr ⟨_, hresolve,
    Except.bind_eq_ok_iff.mpr ⟨_, Except.mapError_eq_ok_iff.mpr hread, h⟩⟩

def standard : Config :=
  ⟨⟨.slash, [['c']]⟩, ⟨5, ['-'], .lower, true, none⟩, ⟨false, false⟩⟩

theorem loadConfig_standard : (configured [] []).surroundings.loadConfig none = .ok standard :=
  loadConfig_configured (Except.toOption_eq_some_iff.mp (by decide +kernel))

end Session

end CheckedText
