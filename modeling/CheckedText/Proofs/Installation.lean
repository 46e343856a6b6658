import CheckedText.Proofs.FewestLines
import CheckedText.Proofs.KeptEntries

/-!
# Installing the configuration

An installation keeps everything that is there, whether it succeeds or not. Once it has succeeded
something stands at the path of the user's configuration, and another installation changes nothing.
If the place was free, and no directory had to be made there on the way, then the packaged file was
copied to it and is what the user's configuration resolves to. So no file that the user wrote is
ever replaced, however often the configuration is installed.
-/

namespace CheckedText

namespace FileTree

variable {tree : FileTree} {p : Path} {name : Text} {e : Entry} {r : Route}

theorem steps_of_route (hp : p.IsNormal) (hname : Path.IsPart name)
    (h : tree.route (p.child name).text = .ok r) : r.steps = p.parts ++ [name] := by
  rw [route_eq_ok h]
  exact steps_of_text (hp.child hname) (by simp [Path.child])

theorem exists_text_child (p : Path) (name : Text) :
    ∃ front, (p.child name).text = front ++ name := by
  have hne : (p.child name).parts ≠ [] := by simp [Path.child]
  rw [Path.text_of_ne_nil hne]
  by_cases hparts : p.parts = []
  · exact ⟨p.root.text, by simp [Path.child, hparts]⟩
  · refine ⟨p.root.text ++ (['/'].intercalate p.parts ++ ['/']), ?_⟩
    rw [List.append_assoc, ← Grouping.intercalate_concat hparts]
    rfl

theorem not_slashed_of_route (hname : Path.IsPart name)
    (h : tree.route (p.child name).text = .ok r) : r.slashed = false := by
  obtain ⟨front, hfront⟩ := exists_text_child p name
  have hlast : (p.child name).text.getLast? ≠ some '/' := by
    rw [hfront, List.getLast?_append_of_ne_nil front hname.ne_nil]
    exact fun hlast => hname.not_mem (List.mem_of_getLast? hlast)
  rw [route_eq_ok h]
  simpa using hlast

theorem goal_of_last (tree : FileTree) {above : List Text} (hsteps : r.steps = above ++ [name])
    (hdot : name ≠ ['.']) (hparent : name ≠ ['.', '.']) :
    tree.goal r = tree.walk r.start above >>= fun dir => (FileTree.name dir name).map .name := by
  rw [goal, hsteps, List.dropLast_concat, List.getLast?_concat]
  simp only [if_neg hdot, if_neg hparent]
  rfl

theorem goal_child (hp : p.IsNormal) (hname : Path.IsPart name) (hparent : name ≠ ['.', '.'])
    (hroute : tree.route (p.child name).text = .ok r) {g : Goal} (hgoal : tree.goal r = .ok g) :
    g = .name (tree.placeOf (p.child name).text) := by
  have hlast := goal_of_last tree (steps_of_route hp hname hroute) hname.ne_dot hparent
  obtain ⟨dir, -, hplace⟩ := Except.bind_eq_ok_iff.mp (hlast.symm.trans hgoal)
  obtain ⟨place, -, rfl⟩ := Except.map_eq_ok_iff.mp hplace
  rw [goal_eq_placeOf hroute hgoal]

theorem get?_of_find_child (hp : p.IsNormal) (hname : Path.IsPart name)
    (hparent : name ≠ ['.', '.']) (h : tree.find (p.child name).text = .ok e) :
    tree.get? (tree.placeOf (p.child name).text) = some e := by
  obtain ⟨r, hroute, ⟨⟨dir, hgoal⟩, -⟩ | ⟨place, hgoal, hentry, -⟩⟩ := find_eq_ok_iff.mp h
  · cases goal_child hp hname hparent hroute hgoal
  · cases goal_child hp hname hparent hroute hgoal
    exact hentry

theorem Grounded.get?_of_absent (h : tree.Grounded) (hp : p.IsNormal) (hname : Path.IsPart name)
    (hparent : ['.', '.'] ∉ (p.child name).parts) (hroute : tree.route (p.child name).text = .ok r)
    (habsent : tree.isPresent (p.child name).text = .ok false) :
    tree.get? (tree.placeOf (p.child name).text) = none := by
  -- In a tree where every entry stands in a directory, nothing stands at the place of a path
  -- without steps to the parent if nothing is found there.
  have hplace := placeOf_text tree (hp.child hname) hparent
  have hstart : r.start = tree.startOf (p.child name) := by
    rw [route_eq_ok hroute]
    exact start_eq_startOf tree (hp.child hname)
  have hsteps := steps_of_route hp hname hroute
  have hdots : ['.', '.'] ∉ p.parts ∧ ['.', '.'] ≠ name := by
    simpa [Path.child] using hparent
  rw [hplace, ← hstart, show (p.child name).parts = p.parts ++ [name] from rfl, ← List.append_assoc]
  by_contra hentry
  obtain ⟨e, he⟩ := Option.ne_none_iff_exists'.mp hentry
  have hlast := goal_of_last tree hsteps hname.ne_dot (Ne.symm hdots.2)
  obtain ⟨f, hfind, hf⟩ := isPresent_eq_false_iff.mp habsent
  -- The way down is free, so it can only be that a name is too long, and that is not absence.
  have hlong : tree.goal r = .error .nameTooLong := by
    rcases h.walk (fun hmem => (hp _ hmem).ne_dot rfl) hdots.1 (List.cons_ne_nil name []) he
      with hwalk | hwalk
    · rw [hwalk] at hlast
      cases hnamed : FileTree.name (r.start ++ p.parts) name with
      | error g =>
        obtain ⟨rfl, -⟩ := name_error hnamed
        rw [hlast]
        exact Except.bind_eq_error_iff.mpr (.inr ⟨_, rfl, by rw [hnamed]; rfl⟩)
      | ok place =>
        obtain rfl := name_eq_ok hnamed
        have hgoal : tree.goal r = .ok (.name (r.start ++ p.parts ++ [name])) := by
          rw [hlast]
          exact Except.bind_eq_ok_iff.mpr ⟨_, rfl, by rw [hnamed]; rfl⟩
        have hfound := find_eq_ok_iff.mpr ⟨r, hroute, .inr ⟨_, hgoal, he,
          fun hslash => absurd hslash (by simp [not_slashed_of_route hname hroute])⟩⟩
        cases hfind.symm.trans hfound
    · rw [hlast, hwalk]
      rfl
  have hfind' : tree.find (p.child name).text = .error .nameTooLong :=
    Except.bind_eq_error_iff.mpr (.inr ⟨r, hroute, Except.bind_eq_error_iff.mpr (.inl hlong)⟩)
  cases hfind.symm.trans hfind'
  cases hf

theorem not_onWay_child (tree : FileTree) (hp : p.IsNormal) (hname : Path.IsPart name)
    (hparent : ['.', '.'] ∉ (p.child name).parts) :
    ¬ tree.OnWay p (tree.placeOf (p.child name).text) := by
  rintro ⟨parts, hparts, hplace⟩
  have habove : (Path.mk p.root parts).IsNormal := fun part hpart => hp part (hparts.subset hpart)
  have hdots : ['.', '.'] ∉ parts := fun hmem =>
    hparent (List.mem_append_left [name] (hparts.subset hmem))
  rw [placeOf_text tree (hp.child hname) hparent, placeOf_text tree habove hdots] at hplace
  have hlength := congrArg List.length (List.append_cancel_left hplace)
  have hle := hparts.length_le
  simp only [Path.child, List.length_append, List.length_singleton] at hlength
  omega

end FileTree

namespace Surroundings

open FileTree (Keeps)

variable {s : Surroundings} {dir p : Path} {files : FileTree}

theorem copyPackaged_of_present (h : s.files.isPresent p.text = .ok true) :
    s.copyPackaged p = .ok s.files := by
  rw [copyPackaged, h]
  rfl

theorem isPresent_of_copyPackaged (h : s.copyPackaged p = .ok files) :
    files.isPresent p.text = .ok true := by
  obtain ⟨present, hpresent, h⟩ := Except.bind_eq_ok_iff.mp h
  cases present with
  | true =>
    cases h
    exact hpresent
  | false =>
    obtain ⟨content, -, hwrite⟩ := Except.bind_eq_ok_iff.mp h
    exact FileTree.isPresent_eq_true_iff.mpr
      ⟨_, FileTree.read_eq_ok_iff.mp (FileTree.read_write hwrite)⟩

theorem keeps_of_copyPackaged (h : s.copyPackaged p = .ok files) :
    Keeps (fun _ => True) s.files files := by
  rcases copyPackaged_cases h with rfl | ⟨content, habsent, -, hwrite⟩
  · exact .refl _ _
  · have hfree := FileTree.get?_of_absent habsent hwrite
    have hkeeps := FileTree.keeps_of_write hwrite
    refine ⟨hkeeps.here_eq, hkeeps.directory, fun place e _ he => hkeeps.get?_eq place e ?_ he⟩
    rintro rfl
    rw [hfree] at he
    cases he

/-- An installation ends before anything is done, or with the directories alone, or with both the
directories and the file. -/
theorem install_steps (s : Surroundings) :
    (∃ f, s.install = (s, .error f)) ∨
      ∃ dir, s.userDirectory = .ok dir ∧
        (s.install = ({ s with files := (s.files.ensureDirectories dir).1 },
            .error (.configDirectory dir)) ∨
          ∃ made files, s.files.ensureDirectories dir = (made, .ok ()) ∧
            copyPackaged { s with files := made } (dir.child configName) = .ok files ∧
            s.install = ({ s with files }, .ok dir)) := by
  unfold install
  cases hdir : s.userDirectory with
  | error f => exact .inl ⟨f, rfl⟩
  | ok dir =>
    refine .inr ⟨dir, rfl, ?_⟩
    dsimp only
    split
    case h_1 made f hmade =>
      rw [hmade]
      exact .inl rfl
    case h_2 made hmade =>
      split
      case h_1 files hcopy => exact .inr ⟨made, files, hmade, hcopy, rfl⟩
      case h_2 =>
        rw [hmade]
        exact .inl rfl

theorem keeps_install (s : Surroundings) : Keeps (fun _ => True) s.files s.install.1.files := by
  rcases s.install_steps with ⟨f, h⟩ | ⟨dir, -, h | ⟨made, files, hmade, hcopy, h⟩⟩
  · rw [h]
    exact .refl _ _
  · rw [h]
    exact (s.files.adds_ensureDirectories dir).keeps
  · have hadds := s.files.adds_ensureDirectories dir
    rw [hmade] at hadds
    rw [h]
    exact hadds.keeps.trans (keeps_of_copyPackaged hcopy)

theorem install_of_ok (h : s.install.2 = .ok dir) :
    s.userDirectory = .ok dir ∧
      ∃ made files, s.files.ensureDirectories dir = (made, .ok ()) ∧
        copyPackaged { s with files := made } (dir.child configName) = .ok files ∧
        s.install = ({ s with files }, .ok dir) := by
  rcases s.install_steps with ⟨f, hs⟩ | ⟨dir', hdir, hs | ⟨made, files, hmade, hcopy, hs⟩⟩
  · rw [hs] at h
    cases h
  · rw [hs] at h
    cases h
  · obtain rfl : dir' = dir := by
      rw [hs] at h
      exact Except.ok.inj h
    exact ⟨hdir, made, files, hmade, hcopy, hs⟩

theorem userFile_of_userDirectory (h : s.userDirectory = .ok dir) :
    s.userFile = .ok (dir.child configName) := by
  rw [userFile, h]
  rfl

section Installed

variable (h : s.install.2 = .ok dir)
include h

theorem isPresent_install : s.install.1.files.isPresent (dir.child configName).text = .ok true := by
  obtain ⟨-, made, files, -, hcopy, hs⟩ := install_of_ok h
  rw [hs]
  exact isPresent_of_copyPackaged hcopy

theorem lacksUserFile_install : s.install.1.lacksUserFile = .ok false := by
  have hpresent := isPresent_install h
  obtain ⟨hdir, made, files, -, -, hs⟩ := install_of_ok h
  rw [hs] at hpresent ⊢
  have huser := userFile_of_userDirectory (s := { s with files }) hdir
  exact Except.bind_eq_ok_iff.mpr ⟨_, huser, Except.bind_eq_ok_iff.mpr
    ⟨true, Except.mapError_eq_ok_iff.mpr hpresent, rfl⟩⟩

theorem install_install : s.install.1.install = (s.install.1, .ok dir) := by
  have hpresent := isPresent_install h
  obtain ⟨hdir, made, files, hmade, hcopy, hs⟩ := install_of_ok h
  rw [hs] at hpresent ⊢
  have hfound : files.find dir.text = .ok .directory :=
    (keeps_of_copyPackaged hcopy).find (.inl rfl) (FileTree.find_of_ensureDirectories hmade)
  have hagain := copyPackaged_of_present (s := { s with files }) hpresent
  have hdir' : { s with files }.userDirectory = .ok dir := hdir
  rw [install, hdir']
  simp only [FileTree.ensureDirectories_of_find hfound, hagain]

theorem find_install_of_taken {e : FileTree.Entry}
    (he : s.files.get? (s.files.placeOf (dir.child configName).text) = some e) :
    s.install.1.files.find (dir.child configName).text = .ok e := by
  have hdir := isNormal_of_userDirectory (install_of_ok h).1
  have hkeeps := keeps_install s
  obtain ⟨found, hfound⟩ := FileTree.isPresent_eq_true_iff.mp (isPresent_install h)
  have hentry := FileTree.get?_of_find_child hdir isPart_configName (by decide) hfound
  rw [hkeeps.placeOf_eq, hkeeps.get?_eq _ e trivial he] at hentry
  cases hentry
  exact hfound

theorem read_install_of_free
    (hfree : s.files.get? (s.files.placeOf (dir.child configName).text) = none)
    (hway : ¬ s.files.OnWay dir (s.files.placeOf (dir.child configName).text)) :
    ∃ content, s.files.get? (s.files.placeOf s.packaged.text) = some (.file content) ∧
      s.install.1.files.read (dir.child configName).text = .ok content := by
  obtain ⟨hdir, made, files, hmade, hcopy, hs⟩ := install_of_ok h
  have hadds := s.files.adds_ensureDirectories dir
  rw [hmade] at hadds
  rw [hs]
  rcases copyPackaged_cases hcopy with rfl | ⟨content, -, hread, hwrite⟩
  · obtain ⟨e, hfound⟩ := FileTree.isPresent_eq_true_iff.mp (isPresent_of_copyPackaged hcopy)
    have hentry := FileTree.get?_of_find_child (isNormal_of_userDirectory hdir) isPart_configName
      (by decide) hfound
    rw [hadds.placeOf_eq] at hentry
    rcases hadds.get?_cases (s.files.placeOf (dir.child configName).text) with hsame | ⟨-, -, hon⟩
    · rw [hsame, hfree] at hentry
      cases hentry
    · exact absurd hon hway
  · have hpackaged := FileTree.get?_of_read hread
    rw [hadds.placeOf_eq] at hpackaged
    exact ⟨content, hadds.get?_file hpackaged, FileTree.read_write hwrite⟩

theorem resolve_install {content : Blob}
    (hvariable : s.environment.getNonempty? configVariable = none)
    (hread : s.install.1.files.read (dir.child configName).text = .ok content) :
    s.install.1.resolve none = .ok (dir.child configName) := by
  obtain ⟨hdir, made, files, -, -, hs⟩ := install_of_ok h
  rw [hs] at hread ⊢
  have hnamed : named? { s with files } none = none := hvariable
  have huser := userFile_of_userDirectory (s := { s with files }) hdir
  have hfile := FileTree.isFile_of_find (FileTree.read_eq_ok_iff.mp hread)
  rw [resolve_unnamed hnamed]
  exact Except.bind_eq_ok_iff.mpr ⟨_, huser, Except.bind_eq_ok_iff.mpr
    ⟨true, Except.mapError_eq_ok_iff.mpr hfile, rfl⟩⟩

end Installed

/-- What may happen around the program: its configuration is installed, the user writes a file, or
the environment becomes another one. -/
inductive Change where
  | install
  | write (path : Text) (content : Blob)
  | environment (new : Environment)

def change (s : Surroundings) : Change → Surroundings
  | .install => s.install.1
  | .write path content =>
    match s.files.write path content with
    | .ok files => { s with files }
    | .error _ => s
  | .environment new => { s with environment := new }

def changed (s : Surroundings) (changes : List Change) : Surroundings :=
  changes.foldl change s

def Untouched (s : Surroundings) (changes : List Change) (place : Place) : Prop :=
  ∀ path content, .write path content ∈ changes → s.files.placeOf path ≠ place

theorem keeps_change (s : Surroundings) (c : Change) :
    Keeps (s.Untouched [c]) s.files (s.change c).files := by
  cases c with
  | install => exact (keeps_install s).mono fun _ _ => trivial
  | environment new => exact .refl _ _
  | write path content =>
    rw [change]
    split
    case h_1 files hfiles =>
      refine (FileTree.keeps_of_write hfiles).mono fun place hplace => ?_
      exact (hplace path content List.mem_cons_self).symm
    case h_2 => exact .refl _ _

theorem keeps_changed (s : Surroundings) (changes : List Change) :
    Keeps (s.Untouched changes) s.files (s.changed changes).files := by
  induction changes generalizing s with
  | nil => exact .refl _ _
  | cons c changes ih =>
    have hstep := keeps_change s c
    have hfirst : Keeps (s.Untouched (c :: changes)) s.files (s.change c).files := by
      refine hstep.mono fun place hplace path content hmem => ?_
      exact hplace path content (List.mem_singleton.mp hmem ▸ List.mem_cons_self)
    refine hfirst.trans ((ih (s.change c)).mono fun place hplace path content hmem => ?_)
    rw [hstep.placeOf_eq]
    exact hplace path content (List.mem_cons_of_mem c hmem)

theorem read_changed {earlier later : List Change} {path : Text} {content : Blob}
    (hwrite : (s.changed earlier).files.write path content = .ok files)
    (hlater : s.Untouched later (s.files.placeOf path)) :
    (s.changed (earlier ++ .write path content :: later)).files.read path = .ok content := by
  let written : Surroundings := { s.changed earlier with files }
  have hsame : s.changed (earlier ++ .write path content :: later) = written.changed later := by
    rw [changed, List.foldl_append, List.foldl_cons]
    congr 1
    change (s.changed earlier).change (.write path content) = written
    rw [change, hwrite]
  have hplace (q : Text) : files.placeOf q = s.files.placeOf q :=
    ((FileTree.keeps_of_write hwrite).placeOf_eq q).trans ((keeps_changed s earlier).placeOf_eq q)
  rw [hsame]
  refine (keeps_changed written later).read ?_ (FileTree.read_write hwrite)
  intro q data hmem
  rw [hplace, hplace]
  exact hlater q data hmem

/-- The packaged file is what the user's configuration holds after an installation, and what is
resolved to if no other file is named. -/
def Provides (s : Surroundings) (p : Path) : Prop :=
  ∃ content, s.files.get? (s.files.placeOf s.packaged.text) = some (.file content) ∧
    s.install.1.files.read p.text = .ok content ∧
    (s.environment.getNonempty? configVariable = none → s.install.1.resolve none = .ok p)

theorem provides_of_free (h : s.install.2 = .ok dir)
    (hfree : s.files.get? (s.files.placeOf (dir.child configName).text) = none)
    (hway : ¬ s.files.OnWay dir (s.files.placeOf (dir.child configName).text)) :
    s.Provides (dir.child configName) := by
  obtain ⟨content, hpackaged, hread⟩ := read_install_of_free h hfree hway
  exact ⟨content, hpackaged, hread, fun hvariable => resolve_install h hvariable hread⟩

theorem provides_of_lacking (h : s.install.2 = .ok dir) (hgrounded : s.files.Grounded)
    (hparent : ['.', '.'] ∉ dir.parts) (hlacks : s.lacksUserFile = .ok true) :
    s.Provides (dir.child configName) := by
  -- Without steps to the parent it is enough that nothing was found at the path.
  have huser := (install_of_ok h).1
  have hdir := isNormal_of_userDirectory huser
  have hdots : ['.', '.'] ∉ (dir.child configName).parts := by
    have hne : ['.', '.'] ≠ configName := by decide
    simp [Path.child, hparent, hne]
  have habsent : s.files.isPresent (dir.child configName).text = .ok false := by
    obtain ⟨p, hp, hlacks⟩ := Except.bind_eq_ok_iff.mp hlacks
    cases (userFile_of_userDirectory huser).symm.trans hp
    obtain ⟨present, hpresent, hlacks⟩ := Except.bind_eq_ok_iff.mp hlacks
    cases present with
    | true => cases hlacks
    | false => exact Except.mapError_eq_ok_iff.mp hpresent
  obtain ⟨e, hfound⟩ := FileTree.isPresent_eq_true_iff.mp (isPresent_install h)
  obtain ⟨r, hroute, -⟩ := FileTree.find_eq_ok_iff.mp hfound
  rw [(keeps_install s).route_eq] at hroute
  exact provides_of_free h (hgrounded.get?_of_absent hdir isPart_configName hdots hroute habsent)
    (FileTree.not_onWay_child s.files hdir isPart_configName hdots)

/-- Whether it succeeds or not, an installation keeps every file and every directory. After one that
succeeds the user's configuration is not lacking and a second one changes nothing. The configuration
is what stood at its place before, or else the packaged file, unless a directory had to be made at
that place on the way. Whatever the user writes is replaced by nobody else. -/
theorem install_replaces_nothing (s : Surroundings) :
    (∀ place e, s.files.get? place = some e → s.install.1.files.get? place = some e) ∧
    (∀ path e, s.files.find path = .ok e → s.install.1.files.find path = .ok e) ∧
    (∀ dir, s.install.2 = .ok dir →
      s.userFile = .ok (dir.child configName) ∧ s.install.1.lacksUserFile = .ok false ∧
      s.install.1.install = (s.install.1, .ok dir) ∧
      (∀ e, s.files.get? (s.files.placeOf (dir.child configName).text) = some e →
        s.install.1.files.find (dir.child configName).text = .ok e) ∧
      (s.files.get? (s.files.placeOf (dir.child configName).text) = none →
        ¬ s.files.OnWay dir (s.files.placeOf (dir.child configName).text) →
        s.Provides (dir.child configName)) ∧
      (s.files.Grounded → ['.', '.'] ∉ dir.parts → s.lacksUserFile = .ok true →
        s.Provides (dir.child configName))) ∧
    ∀ earlier later path content files,
      (s.changed earlier).files.write path content = .ok files →
      s.Untouched later (s.files.placeOf path) →
      (s.changed (earlier ++ .write path content :: later)).files.read path = .ok content := by
  have hkeeps := keeps_install s
  refine ⟨fun place e => hkeeps.get?_eq place e trivial, fun path e => hkeeps.find (.inr trivial),
    fun dir h => ?_, fun earlier later path content files => read_changed⟩
  exact ⟨userFile_of_userDirectory (install_of_ok h).1, lacksUserFile_install h, install_install h,
    fun e => find_install_of_taken h, provides_of_free h, provides_of_lacking h⟩

theorem install_replaces_nothing_twice :
    let s : Surroundings := ⟨⟨[([['p']], .file [1])], []⟩,
      ⟨[(directoryVariable, "/x".toList)], [], []⟩, .linux, ⟨.slash, [['p']]⟩, .plain⟩
    let path : Text := "/x/textid/config.toml".toList
    s.lacksUserFile = .ok true ∧ s.install.2 = .ok ⟨.slash, ["x".toList, application]⟩ ∧
    s.install.1.files.read path = .ok [1] ∧
    (s.changed [.install, .write path [2], .install]).files.read path = .ok [2] := by
  intro s path
  have hlacks : s.lacksUserFile = .ok true :=
    Except.toOption_eq_some_iff.mp (by decide +kernel +zetaReduce)
  have hinstall : s.install.2 = .ok ⟨.slash, ["x".toList, application]⟩ :=
    Except.toOption_eq_some_iff.mp (by decide +kernel +zetaReduce)
  have hgrounded : s.files.Grounded := FileTree.grounded_of_entries (by decide +kernel)
  have hpath : ((Path.mk .slash ["x".toList, application]).child configName).text = path := by
    decide +kernel +zetaReduce
  obtain ⟨files, hfiles⟩ := Option.isSome_iff_exists.mp
    (show ((s.changed [.install]).files.write path [2]).toOption.isSome = true by
      decide +kernel +zetaReduce)
  obtain ⟨-, -, hinstalled, hwritten⟩ := install_replaces_nothing s
  obtain ⟨-, -, -, -, -, hprovides⟩ := hinstalled _ hinstall
  obtain ⟨content, hpackaged, hread, -⟩ := hprovides hgrounded (by decide) hlacks
  have hcontent : s.files.get? (s.files.placeOf s.packaged.text) = some (.file [1]) := by
    decide +kernel +zetaReduce
  refine ⟨hlacks, hinstall, ?_, ?_⟩
  · cases hcontent.symm.trans hpackaged
    rwa [hpath] at hread
  · exact hwritten [.install] [.install] path [2] files (Except.toOption_eq_some_iff.mp hfiles)
      fun _ _ hmem => by simp at hmem

/-- Steps to the parent can lead back to the place where the file would be. A directory that had to
be made on the way may stand there then, or a file that could not be reached before: nothing is
found at the path, the installation succeeds, and the packaged file is not copied. -/
theorem install_finds_place_taken :
    let environment (home : String) : Environment :=
      ⟨[(directoryVariable, home.toList)], [], []⟩
    let s : Surroundings := ⟨⟨[([['p']], .file [1])], []⟩,
      environment "x/textid/config.toml/../..", .linux, ⟨.slash, [['p']]⟩, .plain⟩
    let s' : Surroundings := ⟨⟨[([['p']], .file [1]), ([application], .directory),
      ([application, configName], .file [2])], []⟩, environment "a/..", .linux,
      ⟨.slash, [['p']]⟩, .plain⟩
    let path : Text := "x/textid/config.toml/../../textid/config.toml".toList
    let path' : Text := "a/../textid/config.toml".toList
    s.userFile.map Path.text = .ok path ∧ s.lacksUserFile = .ok true ∧
    s.files.get? (s.files.placeOf path) = none ∧
    s.install.2.map Path.text = .ok "x/textid/config.toml/../../textid".toList ∧
    s.install.1.files.find path = .ok .directory ∧ s.install.1.resolve none = .ok s.packaged ∧
    s'.userFile.map Path.text = .ok path' ∧ s'.lacksUserFile = .ok true ∧
    s'.install.2.map Path.text = .ok "a/../textid".toList ∧
    s'.install.1.files.read path' = .ok [2] := by
  intro environment s s' path path'
  have hok {ε α : Type} {x : Except ε α} {a : α} : x.toOption = some a → x = .ok a :=
    Except.toOption_eq_some_iff.mp
  refine ⟨hok ?_, hok ?_, ?_, hok ?_, hok ?_, hok ?_, hok ?_, hok ?_, hok ?_, hok ?_⟩ <;>
    decide +kernel +zetaReduce

end Surroundings

end CheckedText
