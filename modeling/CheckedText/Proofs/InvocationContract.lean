import CheckedText.Proofs.ChangedPlaces
import CheckedText.Proofs.CommandContracts
import CheckedText.Proofs.GivenOptions

/-!
# What an invocation can do

The contracts of the start and of the four commands make one for the whole command line. A failure
is let out only if the arguments ask for it, if they cannot be read, or if a text with brackets
cannot be printed.
-/

namespace CheckedText

open Failure

/-- Without `debug` only what could not be printed gets out. -/
def Failure.Escapes (debug : Bool) (f : Failure) : Prop :=
  debug = false → ∃ e, f = .markup e

theorem Failure.Family.isReported_of_early (family : Family)
    (h : family.isReportedEarly = true) : family.isReported = true := by
  revert h
  cases family <;> decide

namespace Run

variable {α β : Type} {clear : Prop} {s : Surroundings} {left : Surroundings → Prop}
  {allowed : Failure → Prop} {debug : Bool}

theorem meets_report {x : Run α} {isReported : Family → Bool} {ended : Int → α}
    {good good' : α → Prop} (hearly : ∀ family : Family, family.isReportedEarly = true →
      isReported family = true)
    (hx : Meets s left (Reportable clear) good x) (hgood : ∀ a, good a → good' a)
    (hended : good' (ended failureCode)) :
    Meets s left (Escapes debug) good' (report debug isReported ended x) := by
  refine Ensures.report hx ?_ ?_ ?_
  · rintro a t ⟨ht, -, ha⟩
    exact ⟨ht, nofun, fun b hb => hgood b (ha b hb)⟩
  · rintro f t ⟨ht, hf, -⟩ hout
    refine ⟨ht, fun e he hdebug => ?_, nofun⟩
    cases he
    rcases hf f rfl with hfamily | ⟨-, hmarkup⟩
    · rw [hearly _ hfamily, hdebug] at hout
      cases hout
    · exact hmarkup
  · rintro f t ⟨ht, -, -⟩ -
    cases t.screen.render (errorLine f) with
    | ok shown => exact ⟨ht, nofun, fun a ha => Except.ok.inj ha ▸ hended⟩
    | error e => exact ⟨ht, fun g hg _ => ⟨e, (Except.error.inj hg).symm⟩, nofun⟩

theorem Meets.map {x : Run α} {g : α → β} {good : α → Prop} {good' : β → Prop}
    (hx : Meets s left allowed good x) (hgood : ∀ a, good a → good' (g a)) :
    Meets s left allowed good' (x.map g) := by
  intro before result after hs hends
  obtain ⟨r, hr, rfl⟩ := ends_map_cases hends
  obtain ⟨hleft, herror, hok⟩ := hx before r after hs hr
  refine ⟨hleft, fun f hf => herror f (Except.map_eq_error_iff.mp hf), fun b hb => ?_⟩
  obtain ⟨a, ha, rfl⟩ := Except.map_eq_ok_iff.mp hb
  exact hgood a (hok a ha)

def IsExitCode (code : Int) : Prop :=
  code = 0 ∨ code = 2

theorem Meets.command {body : Run (Option Int)}
    (hbody : Meets s left (Reportable clear) (· = none) body) :
    Meets s left (Escapes debug) IsExitCode (Run.command debug body) :=
  meets_report Family.isReported_of_early
    (hbody.map fun _ hcode => hcode ▸ rfl) (fun _ hcode => .inl hcode)
    (.inr rfl)

end Run

namespace Decode

variable {s : Surroundings} {config : Config} {o : Options} {stdin : Blob}

/-- A text decodes to `data`, behind its checksum if that is looked for. -/
def Yields (f : Format) (o : Options) (t : Text) (data : Blob) : Prop :=
  Base32.decode (Decoration.compact f.separator t) =
    .ok ((if verifies f o then Crc32.checksumBytes data else []) ++ data)

theorem yields_of_blob {f : Format} {t : Text} {data : Blob} {dropped : Bool}
    (h : blob f o t = .ok (data, dropped)) : Yields f o t data := by
  obtain ⟨decoded, hdecoded, h⟩ := Except.bind_eq_ok_iff.mp (Except.mapError_eq_ok_iff.mp h)
  obtain ⟨canonical, -, h⟩ := Except.bind_eq_ok_iff.mp h
  cases h
  unfold decodeCompact at hdecoded
  unfold Yields
  split at hdecoded
  case isTrue hverify =>
    obtain ⟨raw, hraw, hverified⟩ := Except.bind_eq_ok_iff.mp hdecoded
    rw [if_pos hverify, ← Identifier.verify_eq_ok_iff.mp hverified]
    exact Except.mapError_eq_ok_iff.mp hraw
  case isFalse hverify =>
    rw [if_neg hverify]
    exact Except.mapError_eq_ok_iff.mp hdecoded

end Decode

namespace CommandLine

variable {clear : Prop} {s : Surroundings} {stdin : Blob} {config : Config} {g : Globals}
  {arguments rest : List Text}

/-- Arguments with which the program starts up and goes on with a command, if they name one. -/
def Starts (arguments : List Text) (g : Globals) (command : Option (Command × List Text)) : Prop :=
  ∃ p, Options.parse globalOptions false arguments = .ok p ∧ answer? globalHelp p = none ∧
    g = .ofParsed p ∧ (p.arguments = [] ∧ command = none ∨
      ∃ name c rest, p.arguments = name :: rest ∧ Command.read? name = some c ∧
        command = some (c, rest))

/-- A file tree that an invocation may leave behind. -/
inductive Changes (s : Surroundings) (arguments : List Text) (stdin : Blob) : FileTree → Prop
  | nothing : Changes s arguments stdin s.files
  | output {g : Globals} {rest : List Text} {config : Config} {o : Decode.Options}
      {path t : Text} {data : Blob} {files : FileTree} (hcalls : Calls arguments g .decode rest)
      (hload : s.loadConfig g.config = .ok config)
      (hasks : Asks .decode Decode.Options.ofParsed rest o) (houtput : o.output = some path)
      (hpath : path ≠ []) (htext : s.readText stdin o.text o.file = .ok t)
      (hyields : Decode.Yields config.format o t data) (hsets : s.files.Sets path data files) :
      Changes s arguments stdin files
  | install {g : Globals} {command : Option (Command × List Text)} {dir : Path}
      {files : FileTree} (hstarts : Starts arguments g command) (hinit : g.initConfig = true)
      (hdir : s.userDirectory = .ok dir) (hinstalls : s.Installs dir files) :
      Changes s arguments stdin files

theorem stays_printAll {allowed : Failure → Prop} (ls : List Text) :
    Run.Stays s allowed Run.IsExitCode (printAll ls) :=
  (Run.stays_forM_print ls).bind fun _ _ => Run.meets_pure rfl (.inl rfl)

/-- What a command does once its arguments are read. -/
inductive Body (config : Config) (quiet : Bool) (stdin : Blob) (arguments : List Text) :
    Command → Run (Option Int) → Prop
  | encode {o : Encode.Options} (hasks : Asks .encode Encode.Options.ofParsed arguments o) :
      Body config quiet stdin arguments .encode (Encode.run config o stdin)
  | decode {o : Decode.Options} (hasks : Asks .decode Decode.Options.ofParsed arguments o) :
      Body config quiet stdin arguments .decode (Decode.run config o quiet stdin)
  | checksum {o : Checksum.Options}
      (hasks : Asks .checksum Checksum.Options.ofParsed arguments o) :
      Body config quiet stdin arguments .checksum (Checksum.run o stdin)
  | config {o : Settings.Options} (hasks : Asks .config Settings.Options.ofParsed arguments o) :
      Body config quiet stdin arguments .config (Settings.run config o quiet)

theorem usage_ok_bind {α β : Type} (a : α) (x : α → Run β) : usage (.ok a) >>= x = x a := rfl

theorem usage_error_bind {α β : Type} (u : Usage) (x : α → Run β) :
    usage (.error u) >>= x = throw (.usage u) := rfl

/-- The arguments cannot be read, or they ask for a text. -/
def Answers (x : Run Int) : Prop :=
  (∃ u, x = throw (.usage u)) ∨ ∃ ls, x = printAll ls

section Asks

variable {α : Type} {c : Command} {context : Context} {read : Options.Parsed → Except Usage α}
  {body : α → Run Int} (hcommand : runCommand c context rest stdin = do
    let p ← usage (Options.parse c.options true rest)
    if let some ls := answer? (commandHelp c) p then printAll ls
    else body (← usage (read p)))
include hcommand

theorem Asks.runCommand_eq {o : α} (h : Asks c read rest o) :
    runCommand c context rest stdin = body o := by
  obtain ⟨p, hparse, hanswer, ho⟩ := h
  rw [hcommand, hparse, usage_ok_bind, hanswer, ho]
  rfl

theorem answers_or_asks :
    Answers (runCommand c context rest stdin) ∨ ∃ o, Asks c read rest o := by
  rw [hcommand]
  cases hparse : Options.parse c.options true rest with
  | error u => exact .inl (.inl ⟨u, usage_error_bind u _⟩)
  | ok p =>
    rw [usage_ok_bind]
    cases hanswer : answer? (commandHelp c) p with
    | some ls => exact .inl (.inr ⟨ls, rfl⟩)
    | none =>
      cases ho : read p with
      | error u => exact .inl (.inl ⟨u, usage_error_bind u _⟩)
      | ok o => exact .inr ⟨o, p, hparse, hanswer, ho⟩

end Asks

theorem Body.runCommand_eq {c : Command} {body : Run (Option Int)}
    (h : Body config (g.context config).quiet stdin rest c body) :
    runCommand c (g.context config) rest stdin = Run.command g.debug body := by
  cases h with
  | encode hasks => exact hasks.runCommand_eq rfl
  | decode hasks => exact hasks.runCommand_eq rfl
  | checksum hasks => exact hasks.runCommand_eq rfl
  | config hasks => exact hasks.runCommand_eq rfl

theorem runCommand_cases (c : Command) (g : Globals) (config : Config) (rest : List Text)
    (stdin : Blob) :
    Answers (runCommand c (g.context config) rest stdin) ∨
      ∃ body, Body config (g.context config).quiet stdin rest c body ∧
        runCommand c (g.context config) rest stdin = Run.command g.debug body := by
  have hbody {body : Run (Option Int)}
      (h : Body config (g.context config).quiet stdin rest c body) :
      ∃ body, Body config (g.context config).quiet stdin rest c body ∧
        runCommand c (g.context config) rest stdin = Run.command g.debug body :=
    ⟨body, h, h.runCommand_eq⟩
  cases c with
  | encode => exact (answers_or_asks rfl).imp_right fun ⟨_, hasks⟩ => hbody (.encode hasks)
  | decode => exact (answers_or_asks rfl).imp_right fun ⟨_, hasks⟩ => hbody (.decode hasks)
  | checksum => exact (answers_or_asks rfl).imp_right fun ⟨_, hasks⟩ => hbody (.checksum hasks)
  | config => exact (answers_or_asks rfl).imp_right fun ⟨_, hasks⟩ => hbody (.config hasks)

theorem Starts.run_eq {command : Option (Command × List Text)} (h : Starts arguments g command) :
    run arguments stdin = runFrom g command stdin := by
  obtain ⟨p, hparse, hanswer, rfl, hcommand⟩ := h
  rw [run, hparse, usage_ok_bind, hanswer]
  rcases hcommand with ⟨hnone, rfl⟩ | ⟨name, c, rest, hrest, hname, rfl⟩
  · rw [hnone]
  · rw [hrest]
    simp only [hname]

theorem answers_refuse (given : List Text) (name : Text) : Answers (refuse given name) := by
  rw [refuse]
  cases Options.parse globalOptions false given with
  | error u => exact .inl ⟨u, usage_error_bind u _⟩
  | ok p =>
    rw [usage_ok_bind]
    cases answer? globalHelp p with
    | some ls => exact .inr ⟨ls, rfl⟩
    | none => exact .inl ⟨_, rfl⟩

theorem run_cases (arguments : List Text) (stdin : Blob) :
    Answers (run arguments stdin) ∨ ∃ g command, Starts arguments g command := by
  rw [run]
  cases hparse : Options.parse globalOptions false arguments with
  | error u => exact .inl (.inl ⟨u, usage_error_bind u _⟩)
  | ok p =>
    rw [usage_ok_bind]
    cases hanswer : answer? globalHelp p with
    | some ls => exact .inl (.inr ⟨ls, rfl⟩)
    | none =>
      cases harguments : p.arguments with
      | nil => exact .inr ⟨_, none, p, hparse, hanswer, rfl, .inl ⟨harguments, rfl⟩⟩
      | cons name rest =>
        cases hname : Command.read? name with
        | none =>
          simp only [hname]
          exact .inl (answers_refuse _ _)
        | some c =>
          exact .inr ⟨_, some (c, rest), p, hparse, hanswer, rfl,
            .inr ⟨name, c, rest, harguments, hname, rfl⟩⟩

theorem Answers.meets {left : Surroundings → Prop} {allowed : Failure → Prop} {x : Run Int}
    (h : Answers x) (hleft : left s) (hallowed : ∀ u, allowed (.usage u)) :
    Run.Meets s left allowed Run.IsExitCode x := by
  rcases h with ⟨u, rfl⟩ | ⟨ls, rfl⟩
  · exact Run.meets_throw hleft (hallowed u)
  · exact (stays_printAll ls).meets hleft

def LeavesBehind (c : Command) (s : Surroundings) (config : Config) (rest : List Text)
    (stdin : Blob) (t : Surroundings) : Prop :=
  t = s ∨ c = .decode ∧
    ∃ o, Asks .decode Decode.Options.ofParsed rest o ∧ t = Decode.leftBehind s config o stdin

section Command

variable {c : Command}

/-- The texts from outside that a command prints with markup. -/
inductive Prints (s : Surroundings) (config : Config) (quiet : Bool) (arguments : List Text) :
    Command → Text → Prop
  | output {o : Decode.Options} {path : Text}
      (hasks : Asks .decode Decode.Options.ofParsed arguments o) (houtput : o.output = some path)
      (hquiet : quiet = false) : Prints s config quiet arguments .decode path
  | settings {o : Settings.Options} {t : Text}
      (hasks : Asks .config Settings.Options.ofParsed arguments o)
      (ht : Settings.Prints s config o quiet t) : Prints s config quiet arguments .config t

theorem Body.meets {quiet : Bool} {body : Run (Option Int)}
    (hclear : clear → ∀ t, Prints s config quiet rest c t → '[' ∉ t)
    (hbody : Body config quiet stdin rest c body) :
    Run.Meets s (LeavesBehind c s config rest stdin) (Reportable clear) (· = none) body := by
  cases hbody with
  | encode hasks => exact Encode.stays_run.meets (.inl rfl)
  | @decode o hasks =>
    have houtput (h : clear) (hquiet : quiet = false) : ∀ path ∈ o.output, '[' ∉ path :=
      fun path hpath => hclear h path (.output hasks hpath hquiet)
    exact (Decode.meets_run houtput).mono (fun t ht => .inr ⟨rfl, _, hasks, ht⟩) (fun _ hf => hf)
      fun _ hcode => hcode
  | checksum hasks => exact Checksum.stays_run.meets (.inl rfl)
  | config hasks =>
    exact (Settings.stays_run fun h t ht => hclear h t (.settings hasks ht)).meets (.inl rfl)

theorem meets_runCommand :
    Run.Meets s (LeavesBehind c s config rest stdin)
      (fun f => (∃ u, f = .usage u) ∨ f.Escapes g.debug) Run.IsExitCode
      (runCommand c (g.context config) rest stdin) := by
  rcases runCommand_cases c g config rest stdin with hanswers | ⟨body, hbody, heq⟩
  · exact hanswers.meets (.inl rfl) fun u => .inl ⟨u, rfl⟩
  · rw [heq]
    exact (hbody.meets False.elim).command.mono (fun _ ht => ht) (fun _ hf => .inr hf)
      fun _ hcode => hcode

end Command

theorem stays_startBody (hinit : g.initConfig = false) :
    Run.Stays s (Reportable clear)
      (fun start => ∃ config, start = .ready config ∧ s.loadConfig g.config = .ok config)
      (startBody g) := by
  unfold startBody
  rw [hinit]
  refine (Run.stays_setNoColor _).bind fun _ _ => Run.meets_surroundings_bind ?_
  exact Run.meets_ofExcept_bind rfl (fun f h => .inl (Surroundings.early_of_loadConfig h))
    fun config hload => Run.meets_pure rfl ⟨config, rfl, hload⟩

theorem stays_start (hinit : g.initConfig = false) :
    Run.Stays s (Escapes g.debug)
      (fun start => start = .ended 2 ∨
        ∃ config, start = .ready config ∧ s.loadConfig g.config = .ok config) (start g) := by
  have hbody : Run.Stays s (Reportable False) _ (startBody g) := stays_startBody hinit
  exact Run.meets_report (fun _ h => h) hbody (fun _ h => .inr h) (.inl rfl)

def Installed (s t : Surroundings) : Prop :=
  t = s ∨ ∃ dir files, s.userDirectory = .ok dir ∧ s.Installs dir files ∧ t = { s with files }

theorem meets_startBody (hinit : g.initConfig = true)
    (hclear : clear → g.quiet = false → ∀ dir, s.userDirectory = .ok dir → '[' ∉ dir.text) :
    Run.Meets s (Installed s) (Reportable clear) (· = .ended 0) (startBody g) := by
  unfold startBody
  rw [hinit]
  refine (Run.stays_setNoColor _).bind_meets (.inl rfl) fun _ _ => Run.meets_surroundings_bind ?_
  rcases s.install_cases with ⟨f, hdir, hinstall⟩ | ⟨dir, files, r, hdir, hinstall, hmade, hr⟩
  · rw [hinstall]
    refine Run.meets_setSurroundings.bind (fun t ht => .inl ht) ?_
    rintro _ t rfl -
    exact Run.meets_throw (.inl rfl) (.inl (Surroundings.early_of_userDirectory hdir))
  · rw [hinstall]
    have hleft : ∀ t, t = { s with files } → Installed s t :=
      fun t ht => .inr ⟨dir, files, hdir, hmade, ht⟩
    refine Run.meets_setSurroundings.bind hleft ?_
    rintro _ t rfl -
    rcases hr with rfl | rfl
    · cases hquiet : g.quiet with
      | true => exact Run.meets_pure (hleft _ rfl) rfl
      | false =>
        refine (Run.stays_printMarked fun e => reportable_markup fun h => ?_).bind_meets
          (hleft _ rfl) fun _ _ => Run.meets_pure (hleft _ rfl) rfl
        have hready : '[' ∉ "User config ready at ".toList ++ dir.text := by
          simp [hclear h hquiet dir hdir]
        exact Screen.render_of_not_mem _ hready
    · exact Run.meets_throw (hleft _ rfl) (.inl rfl)

theorem meets_start (hinit : g.initConfig = true) :
    Run.Meets s (Installed s) (Escapes g.debug)
      (fun start => start = .ended 0 ∨ start = .ended 2) (start g) :=
  Run.meets_report (fun _ h => h) (meets_startBody hinit False.elim) (fun _ h => .inl h) (.inr rfl)

theorem render_noCommandLine (screen : Screen) :
    ∃ shown, screen.render noCommandLine = .ok shown := by
  have hline : noCommandLine = Run.errorLine (.outside .other
      "No subcommand provided. Run `textid --help` for available commands.".toList) := by
    decide +kernel
  rw [hline]
  exact ⟨_, Run.render_errorLine_of_isPlain screen
    (Markup.isPlain_of_not_mem (Text.not_mem_literal (by decide)))
    (Markup.nameless_of_count_le (by decide))⟩

/-- Files are changed as the arguments say, and a failure gets out only if the arguments cannot be
read, if they ask for it, or if it could not be printed. -/
abbrev Behaves (s : Surroundings) (arguments : List Text) (stdin : Blob) (x : Run Int) : Prop :=
  Run.Meets s (fun t => ∃ files, t = { s with files } ∧ Changes s arguments stdin files)
    (fun f => (∃ u, f = .usage u) ∨ ("--debug".toList ∉ arguments → ∃ e, f = .markup e))
    Run.IsExitCode x

section Starts

variable {command : Option (Command × List Text)} (h : Starts arguments g command)
include h

theorem Starts.debug_eq_false (hdebug : "--debug".toList ∉ arguments) : g.debug = false := by
  obtain ⟨p, hparse, -, rfl, -⟩ := h
  exact CommandLine.debug_eq_false hparse hdebug

theorem Starts.escapes {f : Failure} (hf : f.Escapes g.debug) :
    (∃ u, f = .usage u) ∨ ("--debug".toList ∉ arguments → ∃ e, f = .markup e) :=
  .inr fun hdebug => hf (h.debug_eq_false hdebug)

end Starts

theorem starts_some_iff {c : Command} : Starts arguments g (some (c, rest)) ↔
    ∃ p name, Options.parse globalOptions false arguments = .ok p ∧ answer? globalHelp p = none ∧
      p.arguments = name :: rest ∧ Command.read? name = some c ∧ g = .ofParsed p := by
  constructor
  · rintro ⟨p, hparse, hanswer, hg, ⟨-, hnone⟩ | ⟨name, _, _, hrest, hname, hsome⟩⟩
    · cases hnone
    · cases hsome
      exact ⟨p, name, hparse, hanswer, hrest, hname, hg⟩
  · rintro ⟨p, name, hparse, hanswer, hrest, hname, hg⟩
    exact ⟨p, hparse, hanswer, hg, .inr ⟨name, c, rest, hrest, hname, rfl⟩⟩

theorem calls_iff {c : Command} : Calls arguments g c rest ↔
    Starts arguments g (some (c, rest)) ∧ g.initConfig = false := by
  rw [starts_some_iff]
  constructor
  · rintro ⟨p, name, hparse, hanswer, hrest, hname, hg, hinit⟩
    exact ⟨⟨p, name, hparse, hanswer, hrest, hname, hg⟩, hinit⟩
  · rintro ⟨⟨p, name, hparse, hanswer, hrest, hname, hg⟩, hinit⟩
    exact ⟨p, name, hparse, hanswer, hrest, hname, hg, hinit⟩

theorem behaves_install {command : Option (Command × List Text)}
    (hstarts : Starts arguments g command) (hinit : g.initConfig = true) :
    Behaves s arguments stdin (runFrom g command stdin) := by
  have hleft : ∀ t, Installed s t →
      ∃ files, t = { s with files } ∧ Changes s arguments stdin files := by
    rintro t (rfl | ⟨dir, files, hdir, hmade, rfl⟩)
    · exact ⟨_, rfl, .nothing⟩
    · exact ⟨files, rfl, .install hstarts hinit hdir hmade⟩
  refine ((meets_start hinit).mono (fun _ ht => ht) (fun _ => hstarts.escapes)
    fun _ h => h).bind hleft ?_
  rintro _ t ht (rfl | rfl)
  · exact Run.meets_pure (hleft t ht) (.inl rfl)
  · exact Run.meets_pure (hleft t ht) (.inr rfl)

theorem behaves_runCommand {c : Command} (hstarts : Starts arguments g (some (c, rest)))
    (hinit : g.initConfig = false) (hload : s.loadConfig g.config = .ok config) :
    Behaves s arguments stdin (runCommand c (g.context config) rest stdin) := by
  refine meets_runCommand.mono ?_ ?_ fun _ h => h
  · rintro t (rfl | ⟨rfl, o, hasks, rfl⟩)
    · exact ⟨_, rfl, .nothing⟩
    rcases Decode.leftBehind_cases s config o stdin with hsame | ⟨path, t, data, dropped, files,
      houtput, hpath, htext, hblob, hwrite, hleft⟩
    · exact ⟨s.files, hsame, .nothing⟩
    · exact ⟨files, hleft, .output (calls_iff.mpr ⟨hstarts, hinit⟩) hload hasks houtput hpath htext
        (Decode.yields_of_blob hblob) (FileTree.sets_of_write hwrite)⟩
  · exact fun f hf => hf.elim .inl hstarts.escapes

theorem behaves_runFrom {command : Option (Command × List Text)}
    (hstarts : Starts arguments g command) :
    Behaves s arguments stdin (runFrom g command stdin) := by
  have hsame : ∃ files, s = { s with files } ∧ Changes s arguments stdin files :=
    ⟨s.files, rfl, .nothing⟩
  cases hinit : g.initConfig with
  | true => exact behaves_install hstarts hinit
  | false =>
    have hstart := (stays_start (s := s) hinit).mono (fun _ ht => ht) (fun _ => hstarts.escapes)
      fun _ h => h
    refine Run.Stays.bind_meets hstart hsame ?_
    rintro _ (rfl | ⟨config, rfl, hload⟩)
    · exact Run.meets_pure hsame (.inr rfl)
    cases command with
    | none =>
      exact (Run.stays_printMarkedErr fun e _ => .inr fun _ => ⟨e, rfl⟩).bind_meets hsame
        fun _ _ => Run.meets_pure hsame (.inr rfl)
    | some called =>
      have hrun : Behaves s arguments stdin _ := behaves_runCommand hstarts hinit hload
      dsimp only
      split
      · exact (Run.stays_setNoColor true).bind_meets hsame fun _ _ => hrun
      · exact hrun

theorem behaves_run (s : Surroundings) (arguments : List Text) (stdin : Blob) :
    Behaves s arguments stdin (run arguments stdin) := by
  rcases run_cases arguments stdin with hanswers | ⟨g, command, hstarts⟩
  · exact hanswers.meets ⟨s.files, rfl, .nothing⟩ fun u => .inl ⟨u, rfl⟩
  · rw [hstarts.run_eq]
    exact behaves_runFrom hstarts

end CommandLine

end CheckedText
