import Mathlib.Data.List.Infix
import CheckedText.Proofs.ChangedPlaces

/-!
# The precedence of configurations

A value that names a configuration file settles the matter: that file is used, or there is a
failure. Without one the user's own file is used if it is there, and the packaged one if not. So a
file of lower precedence is of no consequence, whatever it holds. A path too long to be followed is
a failure of its own.
-/

namespace CheckedText

namespace FileTree

variable {tree : FileTree} {path : Text} {f : Fault}

def Overlong (path : Text) : Prop :=
  pathLimit ≤ (Utf8.encode path).length ∨
    ∃ step ∈ Path.pieces path, nameLimit < (Utf8.encode step).length

theorem route_error (h : tree.route path = .error f) :
    f.meansAbsent = true ∨ f = .nameTooLong ∧ Overlong path := by
  unfold route at h
  split at h
  case isTrue =>
    cases h
    exact .inl rfl
  case isFalse =>
    split at h
    case isTrue hlong =>
      cases h
      exact .inr ⟨rfl, .inl hlong⟩
    case isFalse =>
      split at h
      case isTrue =>
        cases h
        exact .inl rfl
      case isFalse => cases h

theorem name_error {dir : Place} {step : Text} (h : name dir step = .error f) :
    f = .nameTooLong ∧ nameLimit < (Utf8.encode step).length := by
  unfold name at h
  split at h
  case isTrue hlong =>
    cases h
    exact ⟨rfl, hlong⟩
  case isFalse => cases h

theorem walk_error {dir : Place} {steps : List Text} (h : tree.walk dir steps = .error f) :
    f.meansAbsent = true ∨
      f = .nameTooLong ∧ ∃ step ∈ steps, nameLimit < (Utf8.encode step).length := by
  induction steps generalizing dir with
  | nil => cases h
  | cons step steps ih =>
    have hrest (dir : Place) (h : tree.walk dir steps = .error f) : f.meansAbsent = true ∨
        f = .nameTooLong ∧ ∃ s ∈ step :: steps, nameLimit < (Utf8.encode s).length :=
      (ih h).imp_right fun ⟨hf, s, hs, hlong⟩ => ⟨hf, s, List.mem_cons_of_mem step hs, hlong⟩
    rw [walk] at h
    split at h
    case isTrue => exact hrest _ h
    case isFalse =>
      split at h
      case isTrue => exact hrest _ h
      case isFalse =>
        rcases Except.bind_eq_error_iff.mp h with h | ⟨place, -, h⟩
        · obtain ⟨hf, hlong⟩ := name_error h
          exact .inr ⟨hf, step, List.mem_cons_self, hlong⟩
        · split at h
          case h_1 =>
            cases h
            exact .inl rfl
          case h_2 =>
            cases h
            exact .inl rfl
          case h_3 => exact hrest _ h

theorem goal_error {r : Route} (h : tree.goal r = .error f) :
    f.meansAbsent = true ∨
      f = .nameTooLong ∧ ∃ step ∈ r.steps, nameLimit < (Utf8.encode step).length := by
  rcases Except.bind_eq_error_iff.mp h with h | ⟨dir, -, h⟩
  · exact (walk_error h).imp_right fun ⟨hf, step, hstep, hlong⟩ =>
      ⟨hf, step, List.mem_of_mem_dropLast hstep, hlong⟩
  · split at h
    case h_1 => cases h
    case h_2 step hstep =>
      split at h
      case isTrue => cases h
      case isFalse =>
        split at h
        case isTrue => cases h
        case isFalse =>
          rcases Except.bind_eq_error_iff.mp h with h | ⟨place, -, h⟩
          · obtain ⟨hf, hlong⟩ := name_error h
            exact .inr ⟨hf, step, List.mem_of_getLast? hstep, hlong⟩
          · cases h

theorem find_error (h : tree.find path = .error f) :
    f.meansAbsent = true ∨ f = .nameTooLong ∧ Overlong path := by
  rcases Except.bind_eq_error_iff.mp h with h | ⟨r, hroute, h⟩
  · exact route_error h
  · rcases Except.bind_eq_error_iff.mp h with h | ⟨g, -, h⟩
    · refine (goal_error h).imp_right fun ⟨hf, step, hstep, hlong⟩ => ⟨hf, .inr ⟨step, ?_, hlong⟩⟩
      rw [route_eq_ok hroute] at hstep
      exact (List.mem_filter.mp hstep).1
    · cases g with
      | directory => cases h
      | name place =>
        dsimp only at h
        split at h
        case h_1 =>
          cases h
          exact .inl rfl
        case h_2 => cases h
        case h_3 =>
          split at h
          case isTrue =>
            cases h
            exact .inl rfl
          case isFalse => cases h

theorem lookup_error (h : tree.lookup path = .error f) : f = .nameTooLong ∧ Overlong path := by
  unfold lookup at h
  split at h
  case h_1 => cases h
  case h_2 e hfind =>
    split at h
    case isTrue => cases h
    case isFalse habsent =>
      cases h
      exact (find_error hfind).resolve_left habsent

theorem read_of_lookup {content : Blob} (h : tree.lookup path = .ok (some (.file content))) :
    tree.read path = .ok content := by
  unfold lookup at h
  split at h
  case h_1 e hfind =>
    cases h
    rw [read, hfind]
    rfl
  case h_2 =>
    split at h <;> cases h

end FileTree

namespace Surroundings

open FileTree (Overlong)

variable {s : Surroundings} {written : Option Text} {p : Path}

/-- The value that names a configuration file: the argument, or else the variable. An empty one
names nothing. -/
def named? (s : Surroundings) (written : Option Text) : Option Text :=
  (written.filter (· ≠ [])).or (s.environment.getNonempty? configVariable)

/-- What comes of a place where a configuration is looked for: the file there is used, or it goes
on `otherwise` if there is none, or the path is too long to tell. -/
inductive Settles (s : Surroundings) (p : Path) (otherwise : Except Failure Config) :
    Except Failure Config → Prop where
  | file {content : Blob} (h : s.files.lookup p.text = .ok (some (.file content))) :
      Settles s p otherwise (parseConfig p content)
  | noFile {e : Option FileTree.Entry} (h : s.files.lookup p.text = .ok e)
      (hfile : ∀ content, e ≠ some (.file content)) : Settles s p otherwise otherwise
  | overlong (h : s.files.lookup p.text = .error .nameTooLong) (hlong : Overlong p.text) :
      Settles s p otherwise (.error (.files .nameTooLong p.text))

def loadFrom (s : Surroundings) (p : Path) : Except Failure Config := do
  parseConfig p (← (s.files.read p.text).mapError (.files · p.text))

theorem loadFrom_of_file {content : Blob}
    (h : s.files.lookup p.text = .ok (some (.file content))) :
    s.loadFrom p = parseConfig p content := by
  rw [loadFrom, FileTree.read_of_lookup h]
  rfl

theorem loadFrom_congr {files : FileTree} (h : files.read p.text = s.files.read p.text) :
    { s with files }.loadFrom p = s.loadFrom p := by
  unfold loadFrom
  dsimp only
  rw [h]

theorem loadConfig_eq (s : Surroundings) (written : Option Text) :
    s.loadConfig written = s.resolve written >>= s.loadFrom := rfl

def fileOr (s : Surroundings) (p : Path) (otherwise : Except Failure Path) :
    Except Failure Path := do
  if ← s.isFile p then return p else otherwise

theorem settles_fileOr (s : Surroundings) (p : Path) (otherwise : Except Failure Path) :
    Settles s p (otherwise >>= s.loadFrom) (s.fileOr p otherwise >>= s.loadFrom) := by
  have hcheck : s.isFile p = ((s.files.lookup p.text).map fun e =>
      (e.map FileTree.Entry.isFile).getD false).mapError (.files · p.text) := rfl
  cases h : s.files.lookup p.text with
  | error f =>
    obtain ⟨rfl, hlong⟩ := FileTree.lookup_error h
    rw [fileOr, hcheck, h]
    exact .overlong h hlong
  | ok e =>
    by_cases hfile : ∃ content, e = some (.file content)
    · obtain ⟨content, rfl⟩ := hfile
      have hload : s.fileOr p otherwise >>= s.loadFrom = parseConfig p content := by
        rw [fileOr, hcheck, h, ← loadFrom_of_file h]
        rfl
      rw [hload]
      exact .file h
    · have hother : s.fileOr p otherwise = otherwise := by
        rw [fileOr, hcheck, h]
        cases e with
        | none => rfl
        | some e =>
          cases e with
          | file content => exact absurd ⟨content, rfl⟩ hfile
          | directory => rfl
      rw [hother]
      exact .noFile h fun content he => hfile ⟨content, he⟩

theorem Settles.congr {s' : Surroundings} {otherwise otherwise' r r' : Except Failure Config}
    (h : Settles s p otherwise r) (h' : Settles s' p otherwise' r')
    (hsame : s'.files.lookup p.text = s.files.lookup p.text)
    (hother : (∀ content, s.files.lookup p.text ≠ .ok (some (.file content))) →
      otherwise' = otherwise) : r' = r := by
  cases h with
  | file h =>
    rw [h] at hsame
    cases h' with
    | file h' =>
      cases h'.symm.trans hsame
      rfl
    | noFile h' hfile => exact absurd (Except.ok.inj (h'.symm.trans hsame)) (hfile _)
    | overlong h' => cases h'.symm.trans hsame
  | noFile h hfile =>
    rw [h] at hsame
    cases h' with
    | file h' => exact absurd (Except.ok.inj (hsame.symm.trans h')) (hfile _)
    | noFile => exact hother fun content he => hfile content (Except.ok.inj (h.symm.trans he))
    | overlong h' => cases h'.symm.trans hsame
  | overlong h =>
    rw [h] at hsame
    cases h' with
    | file h' => cases h'.symm.trans hsame
    | noFile h' => cases h'.symm.trans hsame
    | overlong => rfl

theorem resolve_named {v : Text} (h : s.named? written = some v) :
    s.resolve written = s.expand v >>= fun p => s.fileOr p (.error (.configNotFound p)) := by
  unfold named? at h
  unfold resolve
  split
  case h_1 path hpath =>
    rw [hpath] at h
    cases h
    rfl
  case h_2 path hnone hpath =>
    rw [hnone, hpath] at h
    cases h
    rfl
  case h_3 hnone hnone' =>
    rw [hnone, hnone'] at h
    cases h

theorem resolve_unnamed (h : s.named? written = none) :
    s.resolve written = s.userFile >>= fun p => s.fileOr p (.ok s.packaged) := by
  obtain ⟨hargument, hvariable⟩ := Option.or_eq_none_iff.mp h
  unfold resolve
  rw [hargument, hvariable]
  rfl

theorem settles_named {v : Text} (hnamed : s.named? written = some v) (hp : s.expand v = .ok p) :
    Settles s p (.error (.configNotFound p)) (s.loadConfig written) := by
  rw [loadConfig_eq, resolve_named hnamed, hp]
  exact settles_fileOr s p (.error (.configNotFound p))

theorem settles_unnamed (hnamed : s.named? written = none) (hp : s.userFile = .ok p) :
    Settles s p (s.loadFrom s.packaged) (s.loadConfig written) := by
  rw [loadConfig_eq, resolve_unnamed hnamed, hp]
  exact settles_fileOr s p (.ok s.packaged)

theorem expand_error {v : Text} {e : Failure} (h : s.expand v = .error e) : e = .unknownHome := by
  unfold expand at h
  split at h
  case h_1 => cases h
  case h_2 =>
    cases h
    rfl

theorem userFile_error {e : Failure} (h : s.userFile = .error e) :
    s.platform = .darwin ∧ e = .unknownHome := by
  have h := Except.map_eq_error_iff.mp h
  unfold userDirectory at h
  split at h
  case h_1 => cases h
  case h_2 =>
    split at h
    case h_1 hplatform =>
      split at h
      case h_1 => cases h
      case h_2 =>
        cases h
        exact ⟨hplatform, rfl⟩
    case h_2 => cases h

theorem path_of_document {path : Path} {t : Toml.Table} {config : Config}
    (h : Config.ofDocument path t = .ok config) : config.path = path := by
  obtain ⟨format, -, h⟩ := Except.bind_eq_ok_iff.mp h
  obtain ⟨interface, -, h⟩ := Except.bind_eq_ok_iff.mp h
  cases h
  rfl

theorem path_of_parseConfig {content : Blob} {config : Config}
    (h : parseConfig p content = .ok config) : config.path = p := by
  obtain ⟨t, -, h⟩ := Except.bind_eq_ok_iff.mp h
  obtain ⟨doc, -, h⟩ := Except.bind_eq_ok_iff.mp h
  exact path_of_document (Except.mapError_eq_ok_iff.mp h)

theorem Settles.path_eq {e : Failure} {r : Except Failure Config} {config : Config}
    (h : Settles s p (.error e) r) (hr : r = .ok config) : config.path = p := by
  cases h with
  | file => exact path_of_parseConfig hr
  | noFile => cases hr
  | overlong => cases hr

theorem Settles.eq_of_overlong {otherwise r : Except Failure Config} (h : Settles s p otherwise r)
    (hlookup : s.files.lookup p.text = .error .nameTooLong) :
    r = .error (.files .nameTooLong p.text) := by
  cases h with
  | file h => cases hlookup.symm.trans h
  | noFile h => cases hlookup.symm.trans h
  | overlong => rfl

/-- Another file tree shows the same at the places where the configuration is looked for, down to
the first file that is used. -/
def SameSources (s : Surroundings) (written : Option Text) (files : FileTree) : Prop :=
  (∀ v p, s.named? written = some v → s.expand v = .ok p →
    files.lookup p.text = s.files.lookup p.text) ∧
  (∀ p, s.named? written = none → s.userFile = .ok p →
    files.lookup p.text = s.files.lookup p.text ∧
    ((∀ content, s.files.lookup p.text ≠ .ok (some (.file content))) →
      files.read s.packaged.text = s.files.read s.packaged.text))

theorem loadConfig_of_expand_error {v : Text} {e : Failure} (hnamed : s.named? written = some v)
    (h : s.expand v = .error e) : s.loadConfig written = .error e := by
  rw [loadConfig_eq, resolve_named hnamed, h]
  rfl

theorem loadConfig_of_userFile_error {e : Failure} (hnamed : s.named? written = none)
    (h : s.userFile = .error e) : s.loadConfig written = .error e := by
  rw [loadConfig_eq, resolve_unnamed hnamed, h]
  rfl

theorem SameSources.loadConfig_eq {files : FileTree} (h : s.SameSources written files) :
    { s with files }.loadConfig written = s.loadConfig written := by
  cases hnamed : s.named? written with
  | some v =>
    cases hp : s.expand v with
    | error e =>
      rw [loadConfig_of_expand_error hnamed hp]
      exact loadConfig_of_expand_error (s := { s with files }) hnamed hp
    | ok p =>
      have hsettles := settles_named (s := { s with files }) hnamed hp
      exact (settles_named hnamed hp).congr hsettles (h.1 v p hnamed hp) fun _ => rfl
  | none =>
    cases hp : s.userFile with
    | error e =>
      rw [loadConfig_of_userFile_error hnamed hp]
      exact loadConfig_of_userFile_error (s := { s with files }) hnamed hp
    | ok p =>
      obtain ⟨hsame, hpackaged⟩ := h.2 p hnamed hp
      have hsettles := settles_unnamed (s := { s with files }) hnamed hp
      refine (settles_unnamed hnamed hp).congr hsettles hsame fun hnone => ?_
      exact loadFrom_congr (hpackaged hnone)

/-- A named file is used or there is a failure; without a name the user's own file is used if there
is one, else the packaged one; the variable names a file as the argument does; and nothing that is
looked at later than the first file found matters. -/
theorem loadConfig_precedence (s : Surroundings) (written : Option Text) :
    (∀ v, s.named? written = some v →
      s.expand v = .error .unknownHome ∧ s.loadConfig written = .error .unknownHome ∨
      ∃ p, s.expand v = .ok p ∧
        Settles s p (.error (.configNotFound p)) (s.loadConfig written) ∧
        (Failure.configNotFound p).message = "config file not found: ".toList ++ p.text ∧
        ∀ config, s.loadConfig written = .ok config → config.path = p) ∧
    (s.named? written = none →
      s.platform = .darwin ∧ s.userFile = .error .unknownHome ∧
        s.loadConfig written = .error .unknownHome ∨
      ∃ p, s.userFile = .ok p ∧ Settles s p (s.loadFrom s.packaged) (s.loadConfig written)) ∧
    (∀ v, v ≠ [] → s.environment.get? configVariable = some v →
      s.resolve none = s.resolve (some v)) ∧
    ∀ files, s.SameSources written files →
      { s with files }.loadConfig written = s.loadConfig written := by
  refine ⟨fun v hnamed => ?_, fun hnamed => ?_, fun v hne hv => ?_, fun files h => h.loadConfig_eq⟩
  · cases hp : s.expand v with
    | error e =>
      obtain rfl := expand_error hp
      exact .inl ⟨rfl, loadConfig_of_expand_error hnamed hp⟩
    | ok p =>
      have hsettles := settles_named hnamed hp
      exact .inr ⟨p, rfl, hsettles, rfl, fun config => hsettles.path_eq⟩
  · cases hp : s.userFile with
    | error e =>
      obtain ⟨hplatform, rfl⟩ := userFile_error hp
      exact .inl ⟨hplatform, rfl, loadConfig_of_userFile_error hnamed hp⟩
    | ok p => exact .inr ⟨p, rfl, settles_unnamed hnamed hp⟩
  · have hvariable : s.named? none = some v := by
      simp [named?, Environment.getNonempty?, hv, hne]
    have hargument : s.named? (some v) = some v := by
      simp [named?, hne]
    rw [resolve_named hvariable, resolve_named hargument]

theorem loadConfig_precedence_missing :
    let environment : Environment :=
      ⟨[(configVariable, "/c".toList), (directoryVariable, "/x".toList)], [], []⟩
    let user : Place := ["x".toList, application, configName]
    let s : Surroundings := ⟨⟨[(user, .file []), (user.dropLast, .directory),
      (user.dropLast.dropLast, .directory)], []⟩, environment, .linux, ⟨.slash, [['p']]⟩, .plain⟩
    s.isFile ⟨.slash, user⟩ = .ok true ∧
    s.loadConfig none = .error (.configNotFound ⟨.slash, [['c']]⟩) ∧
    { s with files := ⟨[], []⟩ }.loadConfig none = s.loadConfig none := by
  intro environment user s
  have hexpand : s.expand "/c".toList = .ok ⟨.slash, [['c']]⟩ :=
    Except.toOption_eq_some_iff.mp (by decide +kernel +zetaReduce)
  have hlookup : s.files.lookup ['/', 'c'] = .ok none := rfl
  obtain ⟨hnamed, -, -, hsame⟩ := loadConfig_precedence s none
  refine ⟨rfl, ?_, hsame _ ⟨fun v p hv hp => ?_, nofun⟩⟩
  · obtain ⟨hfail, -⟩ | ⟨p, hp, hsettles, -⟩ := hnamed "/c".toList rfl
    · cases hexpand.symm.trans hfail
    · cases hexpand.symm.trans hp
      generalize s.loadConfig none = r at hsettles ⊢
      cases hsettles with
      | file h => cases hlookup.symm.trans h
      | noFile => rfl
      | overlong h => cases hlookup.symm.trans h
  · cases hv
    cases hexpand.symm.trans hp
    rfl

/-- A name of 256 characters is a failure of the file system, given as the argument or as the
directory of the user's own file, and so is an unknown home on one of the platforms. The packaged
file is there, but it is not used. -/
theorem loadConfig_overlong :
    let name : Text := List.replicate 256 'a'
    let files : FileTree := ⟨[([['p']], .file [])], []⟩
    let s : Surroundings := ⟨files, ⟨[], [], []⟩, .linux, ⟨.slash, [['p']]⟩, .plain⟩
    let s' : Surroundings :=
      ⟨files, ⟨[(directoryVariable, name)], [], []⟩, .linux, ⟨.slash, [['p']]⟩, .plain⟩
    s.loadConfig (some name) = .error (.files .nameTooLong name) ∧
    s'.loadConfig none = .error (.files .nameTooLong (name ++ "/textid/config.toml".toList)) ∧
    { s with platform := .darwin }.loadConfig none = .error .unknownHome := by
  intro name files s s'
  have hnamed : s.named? (some name) = some name := by decide +kernel +zetaReduce
  have hexpand : s.expand name = .ok ⟨.relative, [name]⟩ :=
    Except.toOption_eq_some_iff.mp (by decide +kernel +zetaReduce)
  have hunnamed : s'.named? none = none := rfl
  have huser : s'.userFile = .ok ⟨.relative, [name, application, configName]⟩ :=
    Except.toOption_eq_some_iff.mp (by decide +kernel +zetaReduce)
  refine ⟨?_, ?_, loadConfig_of_userFile_error rfl rfl⟩
  · have htext : Path.text ⟨.relative, [name]⟩ = name := by decide +kernel +zetaReduce
    have hload := (settles_named hnamed hexpand).eq_of_overlong (by decide +kernel +zetaReduce)
    rwa [htext] at hload
  · have htext : Path.text ⟨.relative, [name, application, configName]⟩ =
        name ++ "/textid/config.toml".toList := by decide +kernel +zetaReduce
    have hload := (settles_unnamed hunnamed huser).eq_of_overlong (by decide +kernel +zetaReduce)
    rwa [htext] at hload

end Surroundings

end CheckedText
