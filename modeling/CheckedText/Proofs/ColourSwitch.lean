import CheckedText.Proofs.ReportedFailures
import CheckedText.Proofs.SparedParts

/-!
# The colour switch

The two consoles last from one invocation to the next, and so does their colour switch. An
invocation that starts up sets it anew on both: by its own flag, and if it comes to a command also
by the configuration that it has loaded. All other invocations leave it as it is. So after any
number of invocations the switch is what the last one that started up has made it, whatever went
before and whatever happened to the files and the environment in between.
-/

namespace CheckedText

section Commands

variable {config : Config} {quiet : Bool} {stdin : Blob}

theorem Encode.spares_run (o : Options) : Run.Spares Progress.consoles (run config o stdin) :=
  Run.spares_surroundings.bind fun _ => (Run.spares_ofExcept _).bind fun _ =>
    (Run.spares_ofExcept _).bind fun _ =>
      (Run.Spares.forM (Run.spares_print Run.isUnprinted_consoles)).bind fun _ =>
        Run.spares_pure none

theorem Checksum.spares_run (o : Options) : Run.Spares Progress.consoles (run o stdin) :=
  Run.spares_surroundings.bind fun _ => (Run.spares_ofExcept _).bind fun _ =>
    (Run.spares_print Run.isUnprinted_consoles _).bind fun _ => Run.spares_pure none

namespace Decode

theorem spares_output (o : Options) (data : Blob) :
    Run.Spares Progress.consoles (output o quiet data) := by
  unfold output
  split
  · refine Run.spares_surroundings.bind fun s => (Run.spares_ofExcept _).bind fun files => ?_
    refine (Run.spares_of_ends (Run.ends_setSurroundings _) fun _ => rfl).bind fun _ => ?_
    split
    · exact Run.spares_pure ()
    · exact Run.spares_printMarkedErr Run.isUnprinted_consoles _
  · exact Run.spares_writeOut Run.isUnprinted_consoles data
  · exact (Run.spares_ofExcept _).bind (Run.spares_print Run.isUnprinted_consoles)
  · exact Run.spares_print Run.isUnprinted_consoles _

theorem spares_run (o : Options) : Run.Spares Progress.consoles (run config o quiet stdin) := by
  refine Run.spares_surroundings.bind fun s => (Run.spares_ofExcept _).bind fun t =>
    (Run.spares_ofExcept _).bind fun decoded => ?_
  have hrest : Run.Spares Progress.consoles
      (output o quiet decoded.1 >>= fun _ => pure none : Run (Option Int)) :=
    (spares_output o _).bind fun _ => Run.spares_pure none
  dsimp only
  split
  · exact (Run.spares_warn Run.isUnprinted_consoles quiet _).bind fun _ => hrest
  · exact hrest

end Decode

theorem Editor.spares_run (path : Path) (asked : Option Text) :
    Run.Spares Progress.consoles (run path asked quiet) := by
  refine Run.spares_surroundings.bind fun s => (Run.spares_ofExcept _).bind fun target =>
    (Run.spares_ofExcept _).bind fun present => ?_
  have hlaunch (l : Launch) : Run.Spares Progress.consoles (Run.launch l) :=
    Run.spares_of_ends (Run.ends_launch l) fun _ => rfl
  have hrest : Run.Spares Progress.consoles (do
      let words ← Run.ofExcept (command s.environment asked)
      if !quiet then Run.printMarked (announcement target words)
      Run.launch (launch target words) : Run Unit) := by
    refine (Run.spares_ofExcept _).bind fun words => ?_
    split
    · exact (Run.spares_printMarked Run.isUnprinted_consoles _).bind fun _ => hlaunch _
    · exact hlaunch _
  cases present with
  | true => exact hrest
  | false => exact Run.spares_throw _

namespace Settings

theorem spares_showTable : Run.Spares Progress.consoles (showTable config quiet) := by
  refine (Run.spares_ofExcept _).bind fun rows => Run.spares_surroundings.bind fun s =>
    (Run.spares_ofExcept _).bind fun t =>
      (Run.spares_writeOut Run.isUnprinted_consoles _).bind fun _ => ?_
  split
  · refine (Run.spares_ofExcept _).bind fun lacks => ?_
    split
    · exact Run.spares_printMarkedErr Run.isUnprinted_consoles _
    · exact Run.spares_pure ()
  · exact Run.spares_pure ()

theorem spares_run (o : Options) : Run.Spares Progress.consoles (run config o quiet) := by
  unfold run
  split
  · exact (Run.spares_printUncut Run.isUnprinted_consoles _).bind fun _ => Run.spares_pure none
  · split
    · exact (Editor.spares_run _ _).bind fun _ => Run.spares_pure none
    · exact spares_showTable.bind fun _ => Run.spares_pure none

end Settings

end Commands

theorem Options.Parsed.isSome_flag? {p : Options.Parsed} {key : Text} {on : Bool}
    (h : .flag key on ∈ p.settings) : (p.flag? key).isSome = true := by
  obtain ⟨settings, arguments⟩ := p
  induction settings using List.reverseRecOn with
  | nil => cases h
  | append_singleton settings last ih =>
    rw [Parsed.flag?, List.foldl_concat]
    rcases List.mem_append.mp h with hmem | hmem
    · cases last with
      | value k v => exact ih hmem
      | flag k on' =>
        dsimp only
        split
        · rfl
        · exact ih hmem
    · cases List.mem_singleton.mp hmem
      simp

namespace CommandLine

variable {g : Globals} {before after : Progress}

def Gives (arguments : List Text) (key : Text) : Prop :=
  ∃ p, Options.parse globalOptions false arguments = .ok p ∧ .flag key true ∈ p.settings

theorem Starts.noColor_iff {arguments : List Text} {command : Option (Command × List Text)}
    (h : Starts arguments g command) : g.noColor = true ↔ Gives arguments "--no-color".toList := by
  obtain ⟨p, hparse, -, rfl, -⟩ := h
  have hon : ∀ s ∈ globalOptions, s.key = "--no-color".toList → s.kind ≠ .flag false := by decide
  change p.isOn "--no-color".toList = true ↔ _
  rw [Options.Parsed.isOn]
  constructor
  · intro hflag
    cases hread : p.flag? "--no-color".toList with
    | none =>
      rw [hread] at hflag
      cases hflag
    | some on =>
      rw [hread] at hflag
      exact ⟨p, hparse, p.mem_of_flag? (hread.trans (congrArg some hflag))⟩
  · rintro ⟨p', hparse', hmem⟩
    cases hparse.symm.trans hparse'
    obtain ⟨on, hread⟩ := Option.isSome_iff_exists.mp (p.isSome_flag? hmem)
    obtain ⟨_, -, name, hspelled, -⟩ := (Options.given_of_parse hparse).1 _ (p.mem_of_flag? hread)
    rw [hread]
    cases on with
    | true => rfl
    | false => exact absurd rfl (hon _ hspelled rfl)

theorem Answers.spares {x : Run Int} (h : Answers x) : Run.Spares Progress.consoles x := by
  rcases h with ⟨u, rfl⟩ | ⟨ls, rfl⟩
  · exact Run.spares_throw _
  · exact (Run.Spares.forM (Run.spares_print Run.isUnprinted_consoles)).bind fun _ =>
      Run.spares_pure 0

theorem spares_runCommand (c : Command) (g : Globals) (config : Config) (rest : List Text)
    (stdin : Blob) :
    Run.Spares Progress.consoles (runCommand c (g.context config) rest stdin) := by
  rcases runCommand_cases c g config rest stdin with hanswers | ⟨body, hbody, heq⟩
  · exact hanswers.spares
  · rw [heq]
    refine Run.Spares.command Run.isUnprinted_consoles ?_
    cases hbody with
    | encode => exact Encode.spares_run _
    | decode => exact Decode.spares_run _
    | checksum => exact Checksum.spares_run _
    | config => exact Settings.spares_run _

theorem consoles_of_start {result : Except Failure Start}
    (h : Run.Ends (start g) before result after) : after.consoles = ⟨g.noColor, g.noColor⟩ := by
  obtain ⟨r, middle, hbody, hsame, -⟩ := Run.ends_report_view Run.isUnprinted_consoles h
  have hset : Run.Ends (Run.setNoColor g.noColor) before (.ok ())
      { before with consoles := ⟨g.noColor, g.noColor⟩ } := rfl
  refine hsame.trans (Run.Spares.view_eq ?_ hset hbody)
  refine Run.spares_surroundings.bind fun s => ?_
  split
  · refine (Run.spares_of_ends (Run.ends_setSurroundings _) fun _ => rfl).bind fun _ =>
      (Run.spares_ofExcept _).bind fun dir => ?_
    split
    · exact (Run.spares_printMarked Run.isUnprinted_consoles _).bind fun _ => Run.spares_pure _
    · exact Run.spares_pure _
  · exact (Run.spares_ofExcept _).bind fun _ => Run.spares_pure _

end CommandLine

namespace Session

open CommandLine

variable {s : Session} {arguments rest : List Text} {stdin : Blob} {g : Globals} {c : Command}
  {command : Option (Command × List Text)} {config : Config}

theorem consoles_of_calls (hcalls : Calls arguments g c rest)
    (hload : s.surroundings.loadConfig g.config = .ok config) :
    (s.invoke arguments stdin).2.consoles = g.consoles config := by
  obtain ⟨result, after, hcommand⟩ := Run.exists_ends (runCommand c (g.context config) rest stdin)
    ⟨s.surroundings, g.consoles config, [], [], []⟩
  rw [invoke_of_ends (hcalls.ends hload hcommand)]
  exact spares_runCommand c g config rest stdin _ result after hcommand

/-- Everything ends with the start: the configuration is only installed, or it cannot be loaded, or
there is no command to go on with. -/
def EndsEarly (s : Surroundings) (g : Globals) (command : Option (Command × List Text)) : Prop :=
  g.initConfig = true ∨ (∃ f, s.loadConfig g.config = .error f) ∨ command = none

theorem consoles_of_endsEarly (hstarts : Starts arguments g command)
    (hearly : EndsEarly s.surroundings g command) :
    (s.invoke arguments stdin).2.consoles = ⟨g.noColor, g.noColor⟩ := by
  obtain ⟨result, after, hrun⟩ := Run.exists_ends (runFrom g command stdin)
    ⟨s.surroundings, s.consoles, [], [], []⟩
  rw [invoke_of_starts hstarts hrun]
  obtain ⟨started, middle, hstart⟩ := Run.exists_ends (start g)
    ⟨s.surroundings, s.consoles, [], [], []⟩
  have hconsoles := consoles_of_start hstart
  cases started with
  | error f =>
    obtain ⟨-, rfl⟩ := hstart.bind_error.unique hrun
    exact hconsoles
  | ok started =>
    refine (Run.Spares.view_eq ?_ hstart hrun).trans hconsoles
    cases started with
    | ended code => exact Run.spares_pure code
    | ready config =>
      obtain ⟨hinit, hload⟩ := load_of_ends_start hstart
      rcases hearly with hearly | ⟨f, hfailed⟩ | rfl
      · rw [hinit] at hearly
        cases hearly
      · cases hfailed.symm.trans hload
      · exact (Run.spares_printMarkedErr Run.isUnprinted_consoles _).bind fun _ =>
          Run.spares_pure _

theorem consoles_of_not_starts (h : ∀ g command, ¬ Starts arguments g command) :
    (s.invoke arguments stdin).2.consoles = s.consoles := by
  rcases run_cases arguments stdin with hanswers | ⟨g, command, hstarts⟩
  · obtain ⟨result, after, hends, hinvoke⟩ := s.exists_invoke arguments stdin
    rw [hinvoke]
    exact hanswers.spares _ result after hends
  · exact absurd hstarts (h g command)

/-- What an invocation does to the colour switch in some surroundings: it sets it, or it does not
start up. -/
inductive Switches (s : Surroundings) (arguments : List Text) : Option Bool → Prop
  | command {g : Globals} {c : Command} {rest : List Text} {config : Config}
      (hcalls : Calls arguments g c rest) (hload : s.loadConfig g.config = .ok config) :
      Switches s arguments (some (g.noColor || config.interface.noColor))
  | early {g : Globals} {command : Option (Command × List Text)}
      (hstarts : Starts arguments g command) (hearly : EndsEarly s g command) :
      Switches s arguments (some g.noColor)
  | untouched (h : ∀ g command, ¬ Starts arguments g command) : Switches s arguments none

theorem exists_switches (s : Surroundings) (arguments : List Text) :
    ∃ b, Switches s arguments b := by
  by_cases hstarts : ∃ g command, Starts arguments g command
  · obtain ⟨g, command, hstarts⟩ := hstarts
    by_cases hearly : EndsEarly s g command
    · exact ⟨_, .early hstarts hearly⟩
    · simp only [EndsEarly, not_or, not_exists] at hearly
      obtain ⟨hinit, hload, hcommand⟩ := hearly
      obtain ⟨⟨c, rest⟩, rfl⟩ := Option.ne_none_iff_exists'.mp hcommand
      cases hconfig : s.loadConfig g.config with
      | error f => exact absurd hconfig (hload f)
      | ok config =>
        exact ⟨_, .command (calls_iff.mpr ⟨hstarts, by simpa using hinit⟩) hconfig⟩
  · exact ⟨none, .untouched fun g command h => hstarts ⟨g, command, h⟩⟩

theorem Switches.consoles_eq {b : Option Bool} (h : Switches s.surroundings arguments b)
    (stdin : Blob) :
    (s.invoke arguments stdin).2.consoles = b.elim s.consoles fun b => ⟨b, b⟩ := by
  cases h with
  | command hcalls hload => exact consoles_of_calls hcalls hload
  | early hstarts hearly => exact consoles_of_endsEarly hstarts hearly
  | untouched h => exact consoles_of_not_starts h

theorem Switches.unique {t : Surroundings} {b b' : Option Bool} (h : Switches t arguments b)
    (h' : Switches t arguments b') : b = b' := by
  -- Consoles that differ would show whether anything was set, and what.
  have hb := h.consoles_eq (s := ⟨t, ⟨true, false⟩⟩) []
  rw [h'.consoles_eq] at hb
  cases b with
  | none =>
    cases b' with
    | none => rfl
    | some b' => cases b' <;> cases hb
  | some b =>
    cases b' with
    | none => cases b <;> cases hb
    | some b' =>
      cases hb
      rfl

/-- What happens in a process: an invocation, or anything to the files and the environment. -/
inductive Event where
  | invoke (arguments : List Text) (stdin : Blob)
  | change (new : Surroundings)

def next (s : Session) : Event → Session
  | .invoke arguments stdin => (s.invoke arguments stdin).2
  | .change new => { s with surroundings := new }

def after (s : Session) (events : List Event) : Session :=
  events.foldl next s

def NeverStarts (events : List Event) : Prop :=
  ∀ arguments stdin, .invoke arguments stdin ∈ events → ∀ g command, ¬ Starts arguments g command

theorem after_append (s : Session) (events more : List Event) :
    s.after (events ++ more) = (s.after events).after more :=
  List.foldl_append

theorem next_same {e : Event} (h : s.consoles.outNoColor = s.consoles.errNoColor) :
    (s.next e).consoles.outNoColor = (s.next e).consoles.errNoColor := by
  cases e with
  | change new => exact h
  | invoke arguments stdin =>
    obtain ⟨b, hb⟩ := exists_switches s.surroundings arguments
    rw [next, hb.consoles_eq]
    cases b with
    | none => exact h
    | some b => rfl

theorem after_same (h : s.consoles.outNoColor = s.consoles.errNoColor) (events : List Event) :
    (s.after events).consoles.outNoColor = (s.after events).consoles.errNoColor := by
  induction events generalizing s with
  | nil => exact h
  | cons e events ih => exact ih (next_same h)

theorem consoles_of_neverStarts {events : List Event} (h : NeverStarts events) :
    (s.after events).consoles = s.consoles := by
  induction events generalizing s with
  | nil => rfl
  | cons e events ih =>
    have hrest : NeverStarts events := fun arguments stdin hmem =>
      h arguments stdin (List.mem_cons_of_mem e hmem)
    refine (ih hrest).trans ?_
    cases e with
    | change new => rfl
    | invoke arguments stdin =>
      exact consoles_of_not_starts (h arguments stdin List.mem_cons_self)

/-- In a process whose consoles agree at first they always do. Every invocation sets the switch in
just one of the ways above, in the surroundings that it finds, and the flag counts if it is among
the options before the command. What was set stays until another invocation starts up. -/
theorem colour_switch_of_last_start (surroundings : Surroundings) (b : Bool)
    (events : List Event) :
    let s := Session.after ⟨surroundings, ⟨b, b⟩⟩ events
    s.consoles.outNoColor = s.consoles.errNoColor ∧
    ∀ arguments stdin,
      (∀ g command, Starts arguments g command →
        (g.noColor = true ↔ Gives arguments "--no-color".toList)) ∧
      ∃ set, Switches s.surroundings arguments set ∧
        (∀ other, Switches s.surroundings arguments other → other = set) ∧
        (s.invoke arguments stdin).2.consoles = set.elim s.consoles (fun b => ⟨b, b⟩) ∧
        ∀ later, NeverStarts later →
          (Session.after ⟨surroundings, ⟨b, b⟩⟩
            (events ++ .invoke arguments stdin :: later)).consoles =
              set.elim s.consoles fun b => ⟨b, b⟩ := by
  intro s
  refine ⟨after_same rfl events, fun arguments stdin =>
    ⟨fun g command hstarts => hstarts.noColor_iff, ?_⟩⟩
  obtain ⟨set, hset⟩ := exists_switches s.surroundings arguments
  refine ⟨set, hset, fun other hother => hother.unique hset, hset.consoles_eq stdin, ?_⟩
  intro later hlater
  rw [after_append]
  exact (consoles_of_neverStarts hlater).trans (hset.consoles_eq stdin)

theorem colour_switch_of_last_start_version :
    let t : Surroundings :=
      ⟨⟨[([['p']], .file [])], []⟩, ⟨[], [], []⟩, .linux, ⟨.slash, [['p']]⟩, .plain⟩
    let first : Event := .invoke ["--no-color".toList] []
    let second : Event := .invoke ["checksum".toList, "a".toList] []
    let version : Event := .invoke ["--version".toList] []
    (Session.after ⟨t, ⟨false, false⟩⟩ [first]).consoles = ⟨true, true⟩ ∧
    (Session.after ⟨t, ⟨false, false⟩⟩ [first, second, version]).consoles = ⟨false, false⟩ := by
  intro t first second version
  let s : Session := Session.after ⟨t, ⟨false, false⟩⟩ [first]
  have hload : s.surroundings.loadConfig none = .ok ⟨⟨.slash, [['p']]⟩,
      ⟨5, ['-'], .lower, true, none⟩, ⟨false, false⟩⟩ :=
    Except.toOption_eq_some_iff.mp (by decide +kernel +zetaReduce)
  have hcalls : Calls ["checksum".toList, "a".toList] ⟨none, false, false, false, false⟩
      .checksum ["a".toList] :=
    ⟨_, _, rfl, rfl, rfl, rfl, rfl, rfl⟩
  have hversion : NeverStarts [version] := by
    rintro arguments stdin hmem g command ⟨p, hparse, hanswer, -⟩
    have hevent : Event.invoke arguments stdin = .invoke ["--version".toList] [] :=
      List.mem_singleton.mp hmem
    cases hevent
    cases hparse
    cases hanswer
  refine ⟨by decide +kernel +zetaReduce, ?_⟩
  obtain ⟨-, hinvocations⟩ := colour_switch_of_last_start t false [first]
  obtain ⟨-, set, -, hunique, -, hlater⟩ :=
    hinvocations ["checksum".toList, "a".toList] []
  have hset := hunique _ (.command hcalls hload)
  have hafter := hlater [version] hversion
  rw [← hset] at hafter
  exact hafter

end Session

end CheckedText
