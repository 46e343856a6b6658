import CheckedText.Proofs.InvocationEffects

/-!
# What becomes of a failure

A failure of the start or of a command ends the invocation with a line that shows its message. The
line goes through the markup and is cut to the screen, so the message is shown as it is if it has no
tags, no names between colons and no line that is too long. An invocation ends without an exit code
only if a text that it prints has a bracket.
-/

namespace CheckedText

namespace Run

variable {α : Type} {before after : Progress} {f : Failure}

theorem ends_report_cases {x : Run α} {debug : Bool} {isReported : Failure.Family → Bool}
    {ended : Int → α} (h : Ends (report debug isReported ended x) before (.error f) after) :
    ∃ e middle, Ends x before (.error e) middle := by
  obtain ⟨r, middle, hx⟩ := exists_ends x before
  cases r with
  | ok a => cases (Ends.unique hx.tryCatch h).1
  | error e => exact ⟨e, middle, hx⟩

theorem ends_command_cases {debug : Bool} {body : Run (Option Int)}
    (h : Ends (command debug body) before (.error f) after) :
    ∃ e middle, Ends body before (.error e) middle := by
  obtain ⟨e, middle, hmap⟩ := ends_report_cases h
  obtain ⟨r, hbody, hr⟩ := ends_map_cases hmap
  cases r with
  | ok code => cases hr
  | error e => exact ⟨e, middle, hbody⟩

end Run

namespace CommandLine

variable {g : Globals} {config : Config} {before after : Progress} {f : Failure}

theorem Answers.not_ends {x : Run Int} (h : Answers x) (hf : ∀ u, f ≠ .usage u) :
    ¬ Run.Ends x before (.error f) after := by
  have hmeets : Run.Meets before.surroundings (fun _ => True) (fun f => ∃ u, f = .usage u)
      Run.IsExitCode x :=
    h.meets trivial fun u => ⟨u, rfl⟩
  intro hends
  obtain ⟨u, hu⟩ := (hmeets before _ after rfl hends).2.1 f rfl
  exact hf u hu

theorem load_of_ends_start (h : Run.Ends (start g) before (.ok (.ready config)) after) :
    g.initConfig = false ∧ before.surroundings.loadConfig g.config = .ok config := by
  cases hinit : g.initConfig with
  | true =>
    have hgood := (meets_start hinit before _ after rfl h).2.2 _ rfl
    rcases hgood with hended | hended <;> cases hended
  | false =>
    have hgood := (stays_start hinit before _ after rfl h).2.2 _ rfl
    rcases hgood with hended | ⟨config', hready, hload⟩
    · cases hended
    · cases hready
      exact ⟨rfl, hload⟩

end CommandLine

namespace Session

open CommandLine

variable {s : Session} {arguments : List Text} {stdin : Blob} {f : Failure} {p : Progress}

/-- A failure that stops an invocation, and what was done until then. -/
inductive Stopped (s : Session) (arguments : List Text) (stdin : Blob) (f : Failure)
    (p : Progress) : Prop
  | start {g : Globals} {command : Option (Command × List Text)}
      (hstarts : Starts arguments g command)
      (hends : Run.Ends (startBody g) ⟨s.surroundings, s.consoles, [], [], []⟩ (.error f) p)
  | command {g : Globals} {c : Command} {rest : List Text} {config : Config}
      {body : Run (Option Int)} (hcalls : Calls arguments g c rest)
      (hload : s.surroundings.loadConfig g.config = .ok config)
      (hbody : Body config (g.context config).quiet stdin rest c body)
      (hends : Run.Ends body ⟨s.surroundings, g.consoles config, [], [], []⟩ (.error f) p)

/-- How an invocation ends that reports a failure, or fails to. -/
def reported (f : Failure) (p : Progress) : Outcome × Session :=
  match p.surroundings.screen.render (Run.errorLine f) with
  | .ok shown =>
    (⟨.ok 2, p.stdout, p.stderr ++ p.surroundings.screen.line shown, p.launched⟩,
      ⟨p.surroundings, p.consoles⟩)
  | .error e => (⟨.error (.markup e), p.stdout, p.stderr, p.launched⟩,
      ⟨p.surroundings, p.consoles⟩)

theorem reported_of_ok {shown : Text}
    (h : p.surroundings.screen.render (Run.errorLine f) = .ok shown) :
    reported f p =
      (⟨.ok 2, p.stdout, p.stderr ++ p.surroundings.screen.line shown, p.launched⟩,
        ⟨p.surroundings, p.consoles⟩) := by
  rw [reported, h]

theorem reported_of_error {e : Markup.Fault}
    (h : p.surroundings.screen.render (Run.errorLine f) = .error e) :
    reported f p = (⟨.error (.markup e), p.stdout, p.stderr, p.launched⟩,
      ⟨p.surroundings, p.consoles⟩) := by
  rw [reported, h]

/-- A failure that gets out goes back to one of the start or of a command. -/
theorem exists_stopped {result : Failure} {after : Progress} (hresult : ∀ u, result ≠ .usage u)
    (h : Run.Ends (run arguments stdin) ⟨s.surroundings, s.consoles, [], [], []⟩ (.error result)
      after) : ∃ f p, Stopped s arguments stdin f p := by
  rcases run_cases arguments stdin with hanswers | ⟨g, command, hstarts⟩
  · exact absurd h (hanswers.not_ends hresult)
  have hfrom := h
  rw [hstarts.run_eq] at hfrom
  rcases Run.ends_bind_cases hfrom with ⟨started, middle, hstart, hrest⟩ | ⟨e, hstart, -⟩
  · cases started with
    | ended code => cases (Run.Ends.unique (Run.ends_pure code middle) hrest).1
    | ready config =>
      obtain ⟨hinit, hload⟩ := load_of_ends_start hstart
      cases command with
      | none =>
        obtain ⟨shown, hshown⟩ := render_noCommandLine middle.surroundings.screen
        have hprinted : Run.Ends (Run.printMarkedErr noCommandLine >>= fun _ =>
            pure Run.failureCode) middle (.ok Run.failureCode) _ :=
          (Run.ends_printMarkedErr hshown).bind (Run.ends_pure _ _)
        cases (hprinted.unique hrest).1
      | some called =>
        have hcalls := calls_iff.mpr ⟨hstarts, hinit⟩
        obtain ⟨r, final, hcommand⟩ := Run.exists_ends
          (runCommand called.1 (g.context config) called.2 stdin)
          ⟨s.surroundings, g.consoles config, [], [], []⟩
        obtain ⟨rfl, -⟩ := (hcalls.ends hload hcommand).unique h
        rcases runCommand_cases called.1 g config called.2 stdin with hanswers | ⟨body, hbody, heq⟩
        · exact absurd hcommand (hanswers.not_ends hresult)
        · rw [heq] at hcommand
          obtain ⟨e, p, hends⟩ := Run.ends_command_cases hcommand
          exact ⟨e, p, .command hcalls hload hbody hends⟩
  · obtain ⟨f, p, hends⟩ := Run.ends_report_cases hstart
    exact ⟨f, p, .start hstarts hends⟩

/-- The texts from outside that an invocation prints with markup. -/
inductive Shows (s : Session) (arguments : List Text) (stdin : Blob) : Text → Prop
  | directory {g : Globals} {command : Option (Command × List Text)} {dir : Path}
      (hstarts : Starts arguments g command) (hinit : g.initConfig = true)
      (hquiet : g.quiet = false) (hdir : s.surroundings.userDirectory = .ok dir) :
      Shows s arguments stdin dir.text
  | command {g : Globals} {c : Command} {rest : List Text} {config : Config} {t : Text}
      (hcalls : Calls arguments g c rest)
      (hload : s.surroundings.loadConfig g.config = .ok config)
      (ht : Prints s.surroundings config (g.context config).quiet rest c t) :
      Shows s arguments stdin t
  | failure {f : Failure} {p : Progress} {t : Text} (hstopped : Stopped s arguments stdin f p)
      (ht : t ∈ f.texts) : Shows s arguments stdin t

theorem Stopped.reportable (h : Stopped s arguments stdin f p) :
    f.Reportable (∀ t, Shows s arguments stdin t → '[' ∉ t) := by
  cases h with
  | @start g _ hstarts hends =>
    cases hinit : g.initConfig with
    | true =>
      refine (meets_startBody hinit ?_ _ _ _ rfl hends).2.1 f rfl
      exact fun hclear hquiet dir hdir => hclear _ (.directory hstarts hinit hquiet hdir)
    | false => exact (stays_startBody hinit _ _ _ rfl hends).2.1 f rfl
  | command hcalls hload hbody hends =>
    refine (hbody.meets ?_ _ _ _ rfl hends).2.1 f rfl
    exact fun hclear t ht => hclear t (.command hcalls hload ht)

section Ends

variable {g : Globals} {result : Except Failure Int} {after : Progress}

theorem invoke_of_starts {command : Option (Command × List Text)}
    (hstarts : Starts arguments g command)
    (h : Run.Ends (runFrom g command stdin) ⟨s.surroundings, s.consoles, [], [], []⟩ result
      after) :
    s.invoke arguments stdin = (⟨result, after.stdout, after.stderr, after.launched⟩,
      ⟨after.surroundings, after.consoles⟩) := by
  rw [← hstarts.run_eq] at h
  exact invoke_of_ends h

theorem invoke_of_body {c : Command} {rest : List Text} {config : Config}
    {body : Run (Option Int)} (hcalls : Calls arguments g c rest)
    (hload : s.surroundings.loadConfig g.config = .ok config)
    (hbody : Body config (g.context config).quiet stdin rest c body)
    (h : Run.Ends (Run.command g.debug body) ⟨s.surroundings, g.consoles config, [], [], []⟩
      result after) :
    s.invoke arguments stdin = (⟨result, after.stdout, after.stderr, after.launched⟩,
      ⟨after.surroundings, after.consoles⟩) := by
  rw [← hbody.runCommand_eq] at h
  exact invoke_of_ends (hcalls.ends hload h)

end Ends

theorem Stopped.invoke_eq_reported (h : Stopped s arguments stdin f p)
    (hfamily : f.family.isReportedEarly = true) (hdebug : "--debug".toList ∉ arguments) :
    s.invoke arguments stdin = reported f p := by
  cases h with
  | @start g _ hstarts hends =>
    have hreported : (f.family.isReportedEarly && !g.debug) = true := by
      rw [hfamily, hstarts.debug_eq_false hdebug]
      rfl
    cases hrender : p.surroundings.screen.render (Run.errorLine f) with
    | ok shown =>
      have hstart : Run.Ends (CommandLine.start g) _ (.ok (.ended 2)) _ :=
        Run.ends_report_shown hends hreported hrender
      rw [reported_of_ok hrender]
      exact invoke_of_starts hstarts (hstart.bind (Run.ends_pure _ _))
    | error e =>
      have hstart : Run.Ends (CommandLine.start g) _ (.error (.markup e)) _ :=
        Run.ends_report_unshown hends hreported hrender
      rw [reported_of_error hrender]
      exact invoke_of_starts hstarts hstart.bind_error
  | @command g _ _ _ _ hcalls hload hbody hends =>
    have hreported : (f.family.isReported && !g.debug) = true := by
      rw [f.family.isReported_of_early hfamily, (calls_iff.mp hcalls).1.debug_eq_false hdebug]
      rfl
    cases hrender : p.surroundings.screen.render (Run.errorLine f) with
    | ok shown =>
      have hcommand : Run.Ends (Run.command g.debug _) _ (.ok 2) _ :=
        Run.ends_report_shown (hends.map_error _) hreported hrender
      rw [reported_of_ok hrender]
      exact invoke_of_body hcalls hload hbody hcommand
    | error e =>
      have hcommand : Run.Ends (Run.command g.debug _) _ (.error (.markup e)) _ :=
        Run.ends_report_unshown (hends.map_error _) hreported hrender
      rw [reported_of_error hrender]
      exact invoke_of_body hcalls hload hbody hcommand

theorem reported_of_isPlain (hplain : Markup.IsPlain f.message)
    (hnames : Markup.Nameless f.message)
    (hfits : Console.Fits p.surroundings.screen.width ("Error: ".toList ++ f.message)) :
    reported f p =
      (⟨.ok 2, p.stdout, p.stderr ++ Console.line ("Error: ".toList ++ f.message), p.launched⟩,
        ⟨p.surroundings, p.consoles⟩) := by
  rw [reported_of_ok (Run.render_errorLine_of_isPlain _ hplain hnames), Screen.line_of_fits hfits]

theorem stopped_encode_file {config : Config} {path : Text}
    (hload : s.surroundings.loadConfig none = .ok config)
    (hread : s.surroundings.readFile stdin path = .error f) :
    Stopped s ["encode".toList, "--file".toList, path] stdin f ⟨s.surroundings,
      ⟨config.interface.noColor, config.interface.noColor⟩, [], [], []⟩ := by
  have hasks : Asks .encode Encode.Options.ofParsed ["--file".toList, path]
      ⟨none, some path, false, false, none, true, none, none⟩ :=
    ⟨_, rfl, rfl, rfl⟩
  refine .command (calls_encode _) hload (.encode hasks) ((Run.ends_surroundings _).bind ?_)
  simp only [Surroundings.readBlob, hread]
  rfl

theorem Stopped.markup_of_not_early (h : Stopped s arguments stdin f p)
    (hfamily : f.family.isReportedEarly = false) :
    (∃ e, f = .markup e) ∧ ∃ t, Shows s arguments stdin t ∧ '[' ∈ t := by
  rcases h.reportable with hearly | ⟨hbracket, hmarkup⟩
  · rw [hfamily] at hearly
    cases hearly
  · exact ⟨hmarkup, by simpa using hbracket⟩

theorem Stopped.invoke_eq_escaped (h : Stopped s arguments stdin f p)
    (hfamily : f.family.isReportedEarly = false) :
    s.invoke arguments stdin = (⟨.error f, p.stdout, p.stderr, p.launched⟩,
      ⟨p.surroundings, p.consoles⟩) := by
  obtain ⟨⟨e, rfl⟩, -⟩ := h.markup_of_not_early hfamily
  cases h with
  | @start g _ hstarts hends =>
    have hout : ((Failure.markup e).family.isReportedEarly && !g.debug) = false := by
      rw [hfamily, Bool.false_and]
    have hstart : Run.Ends (CommandLine.start g) _ (.error (.markup e)) p :=
      Run.ends_report_out hends hout
    exact invoke_of_starts hstarts hstart.bind_error
  | @command g _ _ _ _ hcalls hload hbody hends =>
    have hout : ((Failure.markup e).family.isReported && !g.debug) = false := by
      cases e <;> first | rfl | cases hfamily
    have hcommand : Run.Ends (Run.command g.debug _) _ (.error (.markup e)) p :=
      Run.ends_report_out (hends.map_error _) hout
    exact invoke_of_body hcalls hload hbody hcommand

theorem exists_bracket_of_render_error {screen : Screen} {e : Markup.Fault}
    (h : screen.render (Run.errorLine f) = .error e) : ∃ t ∈ f.texts, '[' ∈ t := by
  by_contra hnone
  have hplain : Markup.IsPlain f.message :=
    Failure.isPlain_message fun t ht hmem => hnone ⟨t, ht, hmem⟩
  rw [Run.render_errorLine, Run.renderFrom_message hplain] at h
  cases h

theorem Stopped.ending_cases (h : Stopped s arguments stdin f p)
    (hdebug : "--debug".toList ∉ arguments) :
    (s.invoke arguments stdin).1.ending = .ok 2 ∨
      (∃ e, (s.invoke arguments stdin).1.ending = .error (.markup e)) ∧
        ∃ t, Shows s arguments stdin t ∧ '[' ∈ t := by
  cases hfamily : f.family.isReportedEarly with
  | true =>
    rw [h.invoke_eq_reported hfamily hdebug]
    cases hrender : p.surroundings.screen.render (Run.errorLine f) with
    | ok shown =>
      rw [reported_of_ok hrender]
      exact .inl rfl
    | error e =>
      obtain ⟨t, ht, hbracket⟩ := exists_bracket_of_render_error hrender
      rw [reported_of_error hrender]
      exact .inr ⟨⟨e, rfl⟩, t, .failure h ht, hbracket⟩
  | false =>
    obtain ⟨⟨e, rfl⟩, hshows⟩ := h.markup_of_not_early hfamily
    rw [h.invoke_eq_escaped hfamily]
    exact .inr ⟨⟨e, rfl⟩, hshows⟩

end Session

end CheckedText
