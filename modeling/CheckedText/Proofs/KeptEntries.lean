import CheckedText.Proofs.ConfigPrecedence
import CheckedText.Proofs.PathText

/-!
# Entries that are kept

A path that leads somewhere still leads there when the directories are kept and the entry at its end
is. Making directories keeps everything, and writing a file keeps all but the one place. Once the
directories of a path were made, it leads to a directory, and making them again changes nothing.
-/

namespace CheckedText.FileTree

variable {tree middle after : FileTree} {kept : Place → Prop} {place : Place} {path : Text}

/-- Every directory is there in the other tree, and so is all that is at the places that `kept`
has. -/
structure Keeps (kept : Place → Prop) (tree after : FileTree) : Prop where
  here_eq : after.here = tree.here
  directory : ∀ place, tree.get? place = some .directory → after.get? place = some .directory
  get?_eq : ∀ place e, kept place → tree.get? place = some e → after.get? place = some e

theorem Keeps.refl (kept : Place → Prop) (tree : FileTree) : Keeps kept tree tree :=
  ⟨rfl, fun _ h => h, fun _ _ _ h => h⟩

theorem Keeps.trans (h : Keeps kept tree middle) (h' : Keeps kept middle after) :
    Keeps kept tree after where
  here_eq := h'.here_eq.trans h.here_eq
  directory place hplace := h'.directory place (h.directory place hplace)
  get?_eq place e hkept hplace := h'.get?_eq place e hkept (h.get?_eq place e hkept hplace)

theorem Keeps.mono {fewer : Place → Prop} (h : Keeps kept tree after)
    (hfewer : ∀ place, fewer place → kept place) : Keeps fewer tree after where
  here_eq := h.here_eq
  directory := h.directory
  get?_eq place e hplace := h.get?_eq place e (hfewer place hplace)

theorem Keeps.placeOf_eq (h : Keeps kept tree after) (path : Text) :
    after.placeOf path = tree.placeOf path := by
  rw [placeOf, placeOf, h.here_eq]

theorem Keeps.route_eq (h : Keeps kept tree after) (path : Text) :
    after.route path = tree.route path := by
  rw [route, route, h.here_eq]

theorem walk_cons {dir next : Place} {step : Text} {steps : List Text} (hdot : step ≠ ['.'])
    (hparent : step ≠ ['.', '.']) (hname : name dir step = .ok next)
    (hnext : tree.get? next = some .directory) :
    tree.walk dir (step :: steps) = tree.walk next steps := by
  rw [FileTree.walk, if_neg hdot, if_neg hparent, hname]
  simp only [bind, Except.bind, hnext]

theorem Keeps.walk {dir goal : Place} {steps : List Text} (h : Keeps kept tree after)
    (hwalk : tree.walk dir steps = .ok goal) : after.walk dir steps = .ok goal := by
  induction steps generalizing dir with
  | nil => exact hwalk
  | cons step steps ih =>
    rw [FileTree.walk] at hwalk
    split at hwalk
    case isTrue hdot =>
      rw [FileTree.walk, if_pos hdot]
      exact ih hwalk
    case isFalse hdot =>
      split at hwalk
      case isTrue hparent =>
        rw [FileTree.walk, if_neg hdot, if_pos hparent]
        exact ih hwalk
      case isFalse hparent =>
        obtain ⟨next, hnext, hwalk⟩ := Except.bind_eq_ok_iff.mp hwalk
        split at hwalk
        case h_1 => cases hwalk
        case h_2 => cases hwalk
        case h_3 hdirectory =>
          rw [walk_cons hdot hparent hnext (h.directory next hdirectory)]
          exact ih hwalk

theorem Keeps.goal {r : Route} {g : Goal} (h : Keeps kept tree after)
    (hgoal : tree.goal r = .ok g) : after.goal r = .ok g := by
  obtain ⟨dir, hdir, hgoal⟩ := Except.bind_eq_ok_iff.mp hgoal
  exact Except.bind_eq_ok_iff.mpr ⟨dir, h.walk hdir, hgoal⟩

/-- What is found at a path: a directory that the path names by its steps alone, or the entry at the
place of its last name. -/
theorem find_eq_ok_iff {e : Entry} : tree.find path = .ok e ↔
    ∃ r, tree.route path = .ok r ∧
      ((∃ dir, tree.goal r = .ok (.directory dir)) ∧ e = .directory ∨
        ∃ place, tree.goal r = .ok (.name place) ∧ tree.get? place = some e ∧
          (r.slashed = true → e = .directory)) := by
  constructor
  · intro h
    obtain ⟨r, hroute, h⟩ := Except.bind_eq_ok_iff.mp h
    obtain ⟨g, hgoal, h⟩ := Except.bind_eq_ok_iff.mp h
    refine ⟨r, hroute, ?_⟩
    cases g with
    | directory dir =>
      cases h
      exact .inl ⟨⟨dir, hgoal⟩, rfl⟩
    | name place =>
      refine .inr ⟨place, hgoal, ?_⟩
      dsimp only at h
      split at h
      case h_1 => cases h
      case h_2 hentry =>
        cases h
        exact ⟨hentry, fun _ => rfl⟩
      case h_3 content hentry =>
        split at h
        case isTrue => cases h
        case isFalse hslashed =>
          cases h
          exact ⟨hentry, fun hslash => absurd hslash hslashed⟩
  · rintro ⟨r, hroute, ⟨⟨dir, hgoal⟩, rfl⟩ | ⟨place, hgoal, hentry, hslashed⟩⟩
    · exact Except.bind_eq_ok_iff.mpr ⟨r, hroute, Except.bind_eq_ok_iff.mpr ⟨_, hgoal, rfl⟩⟩
    · refine Except.bind_eq_ok_iff.mpr ⟨r, hroute, Except.bind_eq_ok_iff.mpr ⟨_, hgoal, ?_⟩⟩
      simp only [hentry]
      cases e with
      | directory => rfl
      | file content =>
        have hopen : ¬ r.slashed = true := fun hslash => by cases hslashed hslash
        exact if_neg hopen

theorem Keeps.find {e : Entry} (h : Keeps kept tree after)
    (hkept : e = .directory ∨ kept (tree.placeOf path)) (hfind : tree.find path = .ok e) :
    after.find path = .ok e := by
  obtain ⟨r, hroute, hcases⟩ := find_eq_ok_iff.mp hfind
  refine find_eq_ok_iff.mpr ⟨r, (h.route_eq path).trans hroute, ?_⟩
  rcases hcases with ⟨⟨dir, hgoal⟩, he⟩ | ⟨place, hgoal, hentry, hslashed⟩
  · exact .inl ⟨⟨dir, h.goal hgoal⟩, he⟩
  · refine .inr ⟨place, h.goal hgoal, ?_, hslashed⟩
    rcases hkept with rfl | hkept
    · exact h.directory place hentry
    · rw [← goal_eq_placeOf hroute hgoal] at hkept
      exact h.get?_eq place e hkept hentry

theorem read_eq_ok_iff {content : Blob} :
    tree.read path = .ok content ↔ tree.find path = .ok (.file content) := by
  constructor
  · intro h
    obtain ⟨e, hfind, h⟩ := Except.bind_eq_ok_iff.mp h
    cases e with
    | file content =>
      cases h
      exact hfind
    | directory => cases h
  · exact fun h => Except.bind_eq_ok_iff.mpr ⟨_, h, rfl⟩

theorem Keeps.read {content : Blob} (h : Keeps kept tree after)
    (hkept : kept (tree.placeOf path)) (hread : tree.read path = .ok content) :
    after.read path = .ok content :=
  read_eq_ok_iff.mpr (h.find (.inr hkept) (read_eq_ok_iff.mp hread))

theorem Adds.keeps {way : Place → Prop} (h : Adds way tree after) :
    Keeps (fun _ => True) tree after := by
  have hall (place : Place) (e : Entry) (he : tree.get? place = some e) :
      after.get? place = some e := by
    rcases h.get?_cases place with hsame | ⟨hnone, -⟩
    · rw [hsame, he]
    · rw [he] at hnone
      cases hnone
  exact ⟨h.here_eq, fun place => hall place .directory, fun place e _ => hall place e⟩

theorem keeps_of_write {content : Blob} (h : tree.write path content = .ok after) :
    Keeps (· ≠ tree.placeOf path) tree after := by
  obtain ⟨r, place, hroute, -, hgoal, hfree, rfl⟩ := write_eq_ok_iff.mp h
  rw [← goal_eq_placeOf hroute hgoal]
  refine ⟨rfl, fun other hother => ?_, fun other e hne hother => ?_⟩
  · have hne : other ≠ place := fun he => hfree (he ▸ hother)
    rw [get?_put_of_ne tree hne, hother]
  · rw [get?_put_of_ne tree hne, hother]

theorem isPresent_eq_true_iff : tree.isPresent path = .ok true ↔ ∃ e, tree.find path = .ok e := by
  unfold isPresent lookup
  cases tree.find path with
  | ok e => exact ⟨fun _ => ⟨e, rfl⟩, fun _ => rfl⟩
  | error f =>
    refine ⟨fun h => ?_, nofun⟩
    dsimp only at h
    split at h <;> cases h

theorem isPresent_eq_false_iff :
    tree.isPresent path = .ok false ↔ ∃ f, tree.find path = .error f ∧ f.meansAbsent = true := by
  unfold isPresent lookup
  cases tree.find path with
  | ok e => exact ⟨nofun, nofun⟩
  | error f =>
    dsimp only
    split
    case isTrue hf => exact ⟨fun _ => ⟨f, rfl, hf⟩, fun _ => rfl⟩
    case isFalse hf =>
      refine ⟨nofun, ?_⟩
      rintro ⟨g, ⟨⟩, hg⟩
      exact absurd hg hf

theorem isFile_of_find {content : Blob} (h : tree.find path = .ok (.file content)) :
    tree.isFile path = .ok true := by
  rw [isFile, lookup, h]
  rfl

section Directories

theorem isDirectory_iff : tree.isDirectory path = true ↔ tree.find path = .ok .directory := by
  unfold isDirectory
  split
  case h_1 h => exact ⟨fun _ => h, fun _ => rfl⟩
  case h_2 h => exact ⟨nofun, fun hfind => absurd hfind h⟩

theorem find_of_makeDirectory (h : tree.makeDirectory path = .ok after) :
    after.find path = .ok .directory := by
  have hkeeps := (adds_of_makeDirectory h).keeps
  obtain ⟨r, hroute, h⟩ := Except.bind_eq_ok_iff.mp h
  obtain ⟨g, hgoal, h⟩ := Except.bind_eq_ok_iff.mp h
  cases g with
  | directory => cases h
  | name place =>
    dsimp only at h
    split at h
    case isTrue => cases h
    case isFalse =>
      cases h
      exact find_eq_ok_iff.mpr ⟨r, (hkeeps.route_eq path).trans hroute, .inr ⟨place,
        hkeeps.goal hgoal, get?_put_self tree (ne_nil_of_goal_eq_name hgoal) _, fun _ => rfl⟩⟩

theorem makeDirectory_of_find {e : Entry} (h : tree.find path = .ok e) :
    tree.makeDirectory path = .error .exists := by
  obtain ⟨r, hroute, ⟨⟨dir, hgoal⟩, -⟩ | ⟨place, hgoal, hentry, -⟩⟩ := find_eq_ok_iff.mp h
  · exact Except.bind_eq_error_iff.mpr (.inr ⟨r, hroute,
      Except.bind_eq_error_iff.mpr (.inr ⟨_, hgoal, rfl⟩)⟩)
  · refine Except.bind_eq_error_iff.mpr (.inr ⟨r, hroute,
      Except.bind_eq_error_iff.mpr (.inr ⟨_, hgoal, ?_⟩)⟩)
    exact if_pos (by simp [hentry])

theorem find_of_ensureDirectory (h : tree.ensureDirectory path = .ok after) :
    after.find path = .ok .directory := by
  unfold ensureDirectory at h
  split at h
  case h_1 hmade =>
    cases h
    exact find_of_makeDirectory hmade
  case h_2 =>
    split at h
    case isTrue hdirectory =>
      cases h
      exact isDirectory_iff.mp hdirectory
    case isFalse => cases h

theorem ensureDirectory_of_find (h : tree.find path = .ok .directory) :
    tree.ensureDirectory path = .ok tree := by
  unfold ensureDirectory
  rw [makeDirectory_of_find h]
  exact if_pos (isDirectory_iff.mpr h)

theorem find_root (tree : FileTree) (root : Path.Root) :
    tree.find (Path.text ⟨root, []⟩) = .ok .directory := by
  cases root <;> rfl

theorem find_of_ensureFrom {root : Path.Root} {parts : List Text}
    (h : tree.ensureFrom root parts = (after, .ok ())) :
    after.find (Path.text ⟨root, parts.reverse⟩) = .ok .directory := by
  cases parts with
  | nil => exact find_root after root
  | cons part above =>
    rw [ensureFrom] at h
    split at h
    case h_1 made hmade =>
      cases h
      exact find_of_makeDirectory hmade
    case h_2 =>
      split at h
      case h_1 => cases h
      case h_2 =>
        split at h
        case h_1 done hdone =>
          cases h
          exact find_of_ensureDirectory hdone
        case h_2 => cases h
    case h_3 =>
      split at h
      case isTrue hdirectory =>
        cases h
        exact isDirectory_iff.mp hdirectory
      case isFalse => cases h

theorem find_of_ensureDirectories {p : Path} (h : tree.ensureDirectories p = (after, .ok ())) :
    after.find p.text = .ok .directory := by
  have hfind := find_of_ensureFrom h
  rwa [List.reverse_reverse] at hfind

theorem ensureDirectories_of_find {p : Path} (h : tree.find p.text = .ok .directory) :
    tree.ensureDirectories p = (tree, .ok ()) := by
  -- The directory itself is tried first, so nothing above it is looked at.
  unfold ensureDirectories
  cases hparts : p.parts.reverse with
  | nil =>
    rw [ensureFrom, ensureDirectory_of_find (find_root tree p.root)]
    rfl
  | cons part above =>
    have hpath : Path.mk p.root (part :: above).reverse = p := by
      rw [← hparts, List.reverse_reverse]
    rw [ensureFrom, hpath, makeDirectory_of_find h]
    simp only [isDirectory_iff.mpr h, if_true]

end Directories

/-- Every entry stands in a directory. -/
def Grounded (tree : FileTree) : Prop :=
  ∀ dir name e, tree.get? (dir ++ [name]) = some e → tree.get? dir = some .directory

theorem grounded_of_entries
    (h : tree.entries.all (fun entry => tree.get? entry.1.dropLast = some .directory) = true) :
    tree.Grounded := by
  intro dir name e hentry
  have hne : dir ++ [name] ≠ [] := by simp
  rw [get?, if_neg hne] at hentry
  obtain ⟨before, behind, hentries, -⟩ := List.lookup_eq_some_iff.mp hentry
  have hmem : (dir ++ [name], e) ∈ tree.entries := by simp [hentries]
  simpa using List.all_eq_true.mp h _ hmem

theorem Grounded.above (h : tree.Grounded) {dir : Place} {steps : List Text} {e : Entry}
    (hentry : tree.get? (dir ++ steps) = some e) (hsteps : steps ≠ []) :
    tree.get? dir = some .directory := by
  induction steps using List.reverseRecOn generalizing e with
  | nil => exact absurd rfl hsteps
  | append_singleton steps last ih =>
    rw [← List.append_assoc] at hentry
    have hdir := h _ _ _ hentry
    cases steps with
    | nil => rwa [List.append_nil] at hdir
    | cons step steps => exact ih hdir (List.cons_ne_nil step steps)

theorem Grounded.walk (h : tree.Grounded) {dir : Place} {steps below : List Text} {e : Entry}
    (hdot : ['.'] ∉ steps) (hparent : ['.', '.'] ∉ steps) (hbelow : below ≠ [])
    (hentry : tree.get? (dir ++ steps ++ below) = some e) :
    tree.walk dir steps = .ok (dir ++ steps) ∨ tree.walk dir steps = .error .nameTooLong := by
  induction steps generalizing dir with
  | nil =>
    rw [List.append_nil]
    exact .inl rfl
  | cons step steps ih =>
    have hstep : step ≠ ['.'] := (List.ne_of_not_mem_cons hdot).symm
    have hstep' : step ≠ ['.', '.'] := (List.ne_of_not_mem_cons hparent).symm
    cases hname : name dir step with
    | error f =>
      obtain ⟨rfl, -⟩ := name_error hname
      rw [FileTree.walk, if_neg hstep, if_neg hstep', hname]
      exact .inr rfl
    | ok next =>
      obtain rfl := name_eq_ok hname
      rw [List.append_cons dir step steps] at hentry ⊢
      have hdirectory : tree.get? (dir ++ [step]) = some .directory := by
        rw [List.append_assoc] at hentry
        exact h.above hentry (List.append_ne_nil_of_right_ne_nil steps hbelow)
      rw [walk_cons hstep hstep' hname hdirectory]
      exact ih (List.not_mem_of_not_mem_cons hdot) (List.not_mem_of_not_mem_cons hparent) hentry

end CheckedText.FileTree
