import CheckedText.Proofs.KeptEntries
import CheckedText.Proofs.ReportedFailures
import CheckedText.Proofs.SparedParts

/-!
# The configuration that is opened

The path of the configuration is expanded once when it is found, and once more when it is handed to
an editor. So the file that was loaded is opened only if expanding its path again leads back to it,
and it is opened then if nothing in the announcement can be taken for a tag. This is so if the path
names no variable and does not start at a home; a dollar sign or a home mark in the name of a file
or of the user's directory can lead to another file.
-/

namespace CheckedText

namespace Environment

theorem expandVariables_of_not_mem (env : Environment) {t : Text} (h : '$' ∉ t) :
    env.expandVariables t = t := by
  induction t with
  | nil => rw [expandVariables]
  | cons c t ih =>
    have hc : c ≠ '$' := (List.ne_of_not_mem_cons h).symm
    rw [expandVariables, if_neg hc, ih (List.not_mem_of_not_mem_cons h)]

theorem expandHome?_of_head (env : Environment) {p : Path} (hp : p.IsNormal)
    (h : p.text.head? ≠ some '~') : env.expandHome? p = some p := by
  unfold expandHome?
  split
  case h_1 first parts hroot hparts =>
    have hhead : p.text.head? = first.head? := by
      have hne : p.parts ≠ [] := by simp [hparts]
      rw [Path.text_of_ne_nil hne, hroot]
      exact (Path.head?_intercalate hp hparts).1
    rw [hhead] at h
    exact if_neg h
  case h_2 => rfl

end Environment

namespace Surroundings

variable {s : Surroundings} {written : Option Text} {config : Config} {p q : Path}

theorem fileOr_eq_ok {otherwise : Except Failure Path} (h : s.fileOr p otherwise = .ok q) :
    q = p ∨ otherwise = .ok q := by
  obtain ⟨isFile, -, h⟩ := Except.bind_eq_ok_iff.mp h
  cases isFile with
  | true =>
    cases h
    exact .inl rfl
  | false => exact .inr h

theorem isNormal_of_resolve (hpackaged : s.packaged.IsNormal) (h : s.resolve written = .ok p) :
    p.IsNormal := by
  cases hnamed : s.named? written with
  | some v =>
    rw [resolve_named hnamed] at h
    obtain ⟨named, hexpand, h⟩ := Except.bind_eq_ok_iff.mp h
    rcases fileOr_eq_ok h with rfl | hother
    · exact isNormal_of_expand hexpand
    · cases hother
  | none =>
    rw [resolve_unnamed hnamed] at h
    obtain ⟨user, huser, h⟩ := Except.bind_eq_ok_iff.mp h
    rcases fileOr_eq_ok h with rfl | hother
    · exact isNormal_of_userFile huser
    · cases hother
      exact hpackaged

theorem resolve_of_loadConfig (h : s.loadConfig written = .ok config) :
    s.resolve written = .ok config.path ∧
      ∃ content, s.files.read config.path.text = .ok content ∧
        parseConfig config.path content = .ok config := by
  obtain ⟨path, hresolve, h⟩ := Except.bind_eq_ok_iff.mp h
  obtain ⟨content, hread, h⟩ := Except.bind_eq_ok_iff.mp h
  obtain rfl := path_of_parseConfig h
  exact ⟨hresolve, content, Except.mapError_eq_ok_iff.mp hread, h⟩

theorem isPresent_of_loadConfig (h : s.loadConfig written = .ok config) :
    s.isPresent config.path = .ok true := by
  obtain ⟨-, content, hread, -⟩ := resolve_of_loadConfig h
  have hfind := FileTree.read_eq_ok_iff.mp hread
  exact Except.mapError_eq_ok_iff.mpr (FileTree.isPresent_eq_true_iff.mpr ⟨_, hfind⟩)

theorem expand_text (hp : p.IsNormal) (hdollar : '$' ∉ p.text) (hhome : p.text.head? ≠ some '~') :
    s.expand p.text = .ok p := by
  rw [expand, s.environment.expandVariables_of_not_mem hdollar, hp.ofText_text,
    s.environment.expandHome?_of_head hp hhome]

end Surroundings

namespace Editor

variable {s : Surroundings} {path target : Path} {asked : Option Text} {quiet : Bool}
  {words : Option (List Text)}

def Announces (screen : Screen) (quiet : Bool) (path : Path) (words : Option (List Text)) : Prop :=
  quiet = true ∨ ∃ shown, screen.render (announcement path words) = .ok shown

/-- Nothing is said before an editor is started, or only texts without a bracket. -/
def Unmarked (quiet : Bool) (path : Path) (words : Option (List Text)) : Prop :=
  quiet = true ∨ '[' ∉ path.text ∧ ∀ ws ∈ words, ∀ word ∈ ws, '[' ∉ word

theorem Unmarked.announces (h : Unmarked quiet path words) (screen : Screen) :
    Announces screen quiet path words :=
  h.imp_right fun ⟨hpath, hwords⟩ => render_announcement screen hpath hwords

/-- An editor is started: the path leads to something when it is expanded, the command can be cut
into words, and the start can be announced. -/
structure Opens (s : Surroundings) (path : Path) (asked : Option Text) (quiet : Bool)
    (target : Path) (words : Option (List Text)) : Prop where
  expand_eq : s.expand path.text = .ok target
  isPresent_eq : s.isPresent target = .ok true
  command_eq : command s.environment asked = .ok words
  announces : Announces s.screen quiet target words

theorem ends_run_of_opens (before : Progress)
    (h : Opens before.surroundings path asked quiet target words) :
    ∃ after, Run.Ends (run path asked quiet) before (.ok ()) after ∧
      after.launched = before.launched ++ [launch target words] := by
  obtain ⟨hexpand, hpresent, hcommand, hannounces⟩ := h
  cases quiet with
  | true =>
    refine ⟨_, (Run.ends_surroundings before).bind (Run.Ends.ofExcept_bind hexpand
      (Run.Ends.ofExcept_bind hpresent (Run.Ends.ofExcept_bind hcommand
        (Run.ends_launch _ before)))), rfl⟩
  | false =>
    obtain ⟨shown, hshown⟩ := hannounces.resolve_left Bool.false_ne_true
    refine ⟨_, (Run.ends_surroundings before).bind (Run.Ends.ofExcept_bind hexpand
      (Run.Ends.ofExcept_bind hpresent (Run.Ends.ofExcept_bind hcommand
        ((Run.ends_printMarked hshown).bind (Run.ends_launch _ _))))), rfl⟩

theorem ends_run_of_not_opens (before : Progress)
    (h : ∀ target words, ¬ Opens before.surroundings path asked quiet target words) :
    ∃ f, Run.Ends (run path asked quiet) before (.error f) before := by
  have hfails {α β : Type} {r : Except Failure α} {f : Failure} {g : α → Run β}
      (hr : r = .error f) : Run.Ends (Run.ofExcept r >>= g) before (.error f) before :=
    Run.Ends.bind_error (hr ▸ Run.ends_ofExcept r before)
  have hread := Run.ends_surroundings before
  cases hexpand : before.surroundings.expand path.text with
  | error f => exact ⟨f, hread.bind (hfails hexpand)⟩
  | ok target =>
    cases hpresent : before.surroundings.isPresent target with
    | error f => exact ⟨f, hread.bind (Run.Ends.ofExcept_bind hexpand (hfails hpresent))⟩
    | ok present =>
      cases present with
      | false =>
        exact ⟨.configNotFound target, hread.bind (Run.Ends.ofExcept_bind hexpand
          (Run.Ends.ofExcept_bind hpresent rfl))⟩
      | true =>
        cases hcommand : command before.surroundings.environment asked with
        | error f =>
          exact ⟨f, hread.bind (Run.Ends.ofExcept_bind hexpand
            (Run.Ends.ofExcept_bind hpresent (hfails hcommand)))⟩
        | ok words =>
          have hsilent : ¬ Announces before.surroundings.screen quiet target words :=
            fun hannounces => h target words ⟨hexpand, hpresent, hcommand, hannounces⟩
          cases quiet with
          | true => exact absurd (.inl rfl) hsilent
          | false =>
            cases hrender : before.surroundings.screen.render (announcement target words) with
            | ok shown => exact absurd (.inr ⟨shown, hrender⟩) hsilent
            | error e =>
              have hprinted : Run.Ends (Run.printMarked (announcement target words)) before
                  (.error (.markup e)) before :=
                (Run.ends_marked_error _ hrender).bind_error
              exact ⟨.markup e, hread.bind (Run.Ends.ofExcept_bind hexpand
                (Run.Ends.ofExcept_bind hpresent (Run.Ends.ofExcept_bind hcommand
                  hprinted.bind_error)))⟩

theorem launch_injective {path' : Path} (hpath : path.IsNormal) (hpath' : path'.IsNormal)
    (h : launch path words = launch path' words) : path = path' := by
  have htext : path.text = path'.text := by
    cases words with
    | none => exact Launch.opener.inj h
    | some words => simpa [launch] using h
  rw [← hpath.ofText_text, htext, hpath'.ofText_text]

end Editor

namespace Settings

variable {config : Config} {o : Options} {quiet : Bool} {before after : Progress}

theorem ends_run_edit {result : Except Failure Unit} (hprint : o.printPath = false)
    (hedit : (o.edit || o.editor.isSome) = true)
    (h : Run.Ends (Editor.run config.path o.editor quiet) before result after) :
    Run.Ends (run config o quiet) before (result.map fun _ => none) after := by
  unfold run
  rw [hprint, hedit]
  cases result with
  | ok _ => exact h.bind (Run.ends_pure none after)
  | error f => exact h.bind_error

end Settings

namespace Session

open CommandLine

variable {s : Session} {arguments rest : List Text} {g : Globals} {config : Config}
  {o : Settings.Options} {target : Path} {words : Option (List Text)}

section Edit

variable (stdin : Blob) (hcalls : Calls arguments g .config rest)
  (hload : s.surroundings.loadConfig g.config = .ok config)
  (hasks : Asks .config Settings.Options.ofParsed rest o) (hprint : o.printPath = false)
  (hedit : (o.edit || o.editor.isSome) = true)
include hcalls hload hasks hprint hedit

theorem exists_invoke_edit {result : Except Failure Unit} {middle : Progress}
    (h : Run.Ends (Editor.run config.path o.editor (g.context config).quiet)
      ⟨s.surroundings, g.consoles config, [], [], []⟩ result middle) :
    (s.invoke arguments stdin).1.launched = middle.launched ∧
      ∀ u, result = .ok u → (s.invoke arguments stdin).1.ending = .ok 0 := by
  have hbody := Settings.ends_run_edit hprint hedit h
  obtain ⟨ending, after, hcommand⟩ := Run.exists_ends
    (Run.command g.debug (Settings.run config o (g.context config).quiet))
    ⟨s.surroundings, g.consoles config, [], [], []⟩
  obtain ⟨r, last, hlast, hlaunched, hending⟩ :=
    Run.ends_command_view Run.isUnprinted_launched hcommand
  obtain ⟨rfl, rfl⟩ := hlast.unique hbody
  rw [invoke_of_body hcalls hload (.config hasks) hcommand]
  refine ⟨hlaunched, ?_⟩
  rintro u rfl
  exact hending none rfl

theorem launched_of_opens
    (h : Editor.Opens s.surroundings config.path o.editor (g.context config).quiet target words) :
    (s.invoke arguments stdin).1.launched = [Editor.launch target words] ∧
      (s.invoke arguments stdin).1.ending = .ok 0 := by
  obtain ⟨middle, hends, hlaunched⟩ := Editor.ends_run_of_opens
    ⟨s.surroundings, g.consoles config, [], [], []⟩ h
  obtain ⟨hinvoke, hending⟩ := exists_invoke_edit stdin hcalls hload hasks hprint hedit
    hends
  exact ⟨hinvoke.trans hlaunched, hending () rfl⟩

theorem launched_of_not_opens
    (h : ∀ target words, ¬ Editor.Opens s.surroundings config.path o.editor
      (g.context config).quiet target words) :
    (s.invoke arguments stdin).1.launched = [] := by
  obtain ⟨f, hends⟩ := Editor.ends_run_of_not_opens
    ⟨s.surroundings, g.consoles config, [], [], []⟩ h
  exact (exists_invoke_edit stdin hcalls hload hasks hprint hedit hends).1

theorem launched_cases
    (hwords : Editor.command s.surroundings.environment o.editor = .ok words) :
    (s.invoke arguments stdin).1.launched = [] ∨
      ∃ target, Editor.Opens s.surroundings config.path o.editor (g.context config).quiet target
          words ∧ (s.invoke arguments stdin).1.launched = [Editor.launch target words] := by
  by_cases hopens : ∃ target words', Editor.Opens s.surroundings config.path o.editor
    (g.context config).quiet target words'
  · obtain ⟨target, words', h⟩ := hopens
    cases h.command_eq.symm.trans hwords
    exact .inr ⟨target, h, (launched_of_opens stdin hcalls hload hasks hprint hedit h).1⟩
  · refine .inl (launched_of_not_opens stdin hcalls hload hasks hprint hedit ?_)
    exact fun target words' h => hopens ⟨target, words', h⟩

/-- At most one editor is started, with the path as it is when expanded again. It is the path of the
configuration that was loaded only if that is the same, and then it is started if there is no
bracket in what is said before. The path is the same when expanded again if it has no dollar sign
and no home mark in front. -/
theorem invoke_opens_loaded_config
    (hwords : Editor.command s.surroundings.environment o.editor = .ok words)
    (hpackaged : s.surroundings.packaged.IsNormal) :
    (∃ content, s.surroundings.files.read config.path.text = .ok content ∧
      Surroundings.parseConfig config.path content = .ok config) ∧
    ((s.invoke arguments stdin).1.launched = [] ∨
      ∃ target, s.surroundings.expand config.path.text = .ok target ∧
        (s.invoke arguments stdin).1.launched = [Editor.launch target words]) ∧
    ((s.invoke arguments stdin).1.launched = [Editor.launch config.path words] →
      s.surroundings.expand config.path.text = .ok config.path) ∧
    (s.surroundings.expand config.path.text = .ok config.path →
      Editor.Unmarked (g.context config).quiet config.path words →
      (s.invoke arguments stdin).1.launched = [Editor.launch config.path words] ∧
        (s.invoke arguments stdin).1.ending = .ok 0) ∧
    ('$' ∉ config.path.text → config.path.text.head? ≠ some '~' →
      s.surroundings.expand config.path.text = .ok config.path) := by
  obtain ⟨hresolve, hcontent⟩ := Surroundings.resolve_of_loadConfig hload
  have hnormal := Surroundings.isNormal_of_resolve hpackaged hresolve
  have hcases := launched_cases stdin hcalls hload hasks hprint hedit hwords
  refine ⟨hcontent, ?_, fun hlaunched => ?_, fun hexpand hunmarked => ?_,
    fun hdollar hhome => Surroundings.expand_text hnormal hdollar hhome⟩
  · exact hcases.imp_right fun ⟨target, h, hlaunched⟩ => ⟨target, h.expand_eq, hlaunched⟩
  · rw [hlaunched] at hcases
    rcases hcases with hnone | ⟨target, h, hlaunch⟩
    · cases hnone
    · have htarget := Surroundings.isNormal_of_expand h.expand_eq
      obtain rfl := Editor.launch_injective hnormal htarget (List.singleton_inj.mp hlaunch)
      exact h.expand_eq
  · exact launched_of_opens stdin hcalls hload hasks hprint hedit
      ⟨hexpand, Surroundings.isPresent_of_loadConfig hload, hwords, hunmarked.announces _⟩

end Edit

theorem invoke_opens_loaded_config_with_words :
    ((configured [] []).invoke ["config".toList, "--edit".toList, "-evi -R".toList] []).1.launched =
      [.command ["vi".toList, "-R".toList, "/c".toList]] := by
  let s := configured [] []
  have hasks : Asks .config Settings.Options.ofParsed ["--edit".toList, "-evi -R".toList]
      ⟨false, true, some "vi -R".toList⟩ :=
    ⟨_, rfl, rfl, rfl⟩
  have hwords : Editor.command s.surroundings.environment (some "vi -R".toList) =
      .ok (some ["vi".toList, "-R".toList]) :=
    Except.toOption_eq_some_iff.mp (by decide +kernel +zetaReduce)
  have hnormal : s.surroundings.packaged.IsNormal := Path.isNormal_ofText "/c".toList
  have hunmarked : Editor.Unmarked false standard.path (some ["vi".toList, "-R".toList]) :=
    .inr ⟨by decide +kernel, by simp⟩
  obtain ⟨-, -, -, hopens, hsame⟩ := invoke_opens_loaded_config [] (calls_config _)
    loadConfig_standard hasks rfl rfl hwords hnormal
  exact (hopens (hsame (by decide +kernel) (by decide +kernel)) hunmarked).1

/-- A variable that holds a reference is expanded once to find the configuration and twice to open
it, and a home mark in the user's directory is taken as it is in the one case and expanded in the
other. Each time there is another file at the place that is opened. -/
theorem invoke_opens_other_file :
    let s (bindings : List (Text × Text)) : Session := ⟨⟨⟨[(["$B".toList], .file []),
      ([['d']], .file []), ([['~']], .directory), ([['~'], "textid".toList], .directory),
      ([['~'], "textid".toList, "config.toml".toList], .file []), ([['h']], .directory),
      ([['h'], "textid".toList], .directory),
      ([['h'], "textid".toList, "config.toml".toList], .file [])], []⟩, ⟨bindings, [], []⟩, .linux,
      ⟨.slash, [['p']]⟩, .plain⟩, ⟨false, false⟩⟩
    let reference := s [(['A'], "$B".toList), (['B'], ['d'])]
    let home := s [("XDG_CONFIG_HOME".toList, ['~']), ("HOME".toList, "/h".toList)]
    let edit : List Text := ["--quiet".toList, "config".toList, "--edit".toList, "-evi".toList]
    (reference.surroundings.loadConfig (some "$A".toList)).map (·.path.text) = .ok "$B".toList ∧
    (reference.invoke ("--config=$A".toList :: edit) []).1.launched =
      [.command ["vi".toList, ['d']]] ∧
    (home.surroundings.loadConfig none).map (·.path.text) = .ok "~/textid/config.toml".toList ∧
    (home.invoke edit []).1.launched =
      [.command ["vi".toList, "/h/textid/config.toml".toList]] := by
  intro s reference home edit
  exact ⟨Except.toOption_eq_some_iff.mp (by decide +kernel +zetaReduce),
    by decide +kernel +zetaReduce, Except.toOption_eq_some_iff.mp (by decide +kernel +zetaReduce),
    by decide +kernel +zetaReduce⟩

end Session

end CheckedText
