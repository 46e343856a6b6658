import CheckedText.Config.Loading
import CheckedText.Proofs.WrittenFile

/-!
# Changed places

Writing a file changes the one place that its path leads to, and making a directory adds one where
nothing was. An installation makes directories on the way to the user's own and at most one file;
what was there before stays as it was.
-/

namespace CheckedText

namespace FileTree

variable {tree after : FileTree} {place : Place} {path : Text}

def follow (dir : Place) (step : Text) : Place :=
  if step = ['.'] then dir else if step = ['.', '.'] then dir.dropLast else dir ++ [step]

def placeOf (tree : FileTree) (path : Text) : Place :=
  ((Path.pieces path).filter (· ≠ [])).foldl follow
    (if path.head? = some '/' then [] else tree.here)

theorem name_eq_ok {dir : Place} {step : Text} (h : name dir step = .ok place) :
    place = dir ++ [step] := by
  unfold name at h
  split at h
  · cases h
  · cases h
    rfl

theorem walk_eq_foldl {dir goal : Place} {steps : List Text} (h : tree.walk dir steps = .ok goal) :
    goal = steps.foldl follow dir := by
  induction steps generalizing dir with
  | nil =>
    cases h
    rfl
  | cons step steps ih =>
    rw [List.foldl_cons, follow]
    rw [walk] at h
    split at h
    case isTrue hdot =>
      rw [if_pos hdot]
      exact ih h
    case isFalse hdot =>
      rw [if_neg hdot]
      split at h
      case isTrue hparent =>
        rw [if_pos hparent]
        exact ih h
      case isFalse hparent =>
        obtain ⟨next, hnext, h⟩ := Except.bind_eq_ok_iff.mp h
        rw [if_neg hparent, ← name_eq_ok hnext]
        split at h
        case h_1 => cases h
        case h_2 => cases h
        case h_3 => exact ih h

theorem goal_eq_foldl {r : Route} (h : tree.goal r = .ok (.name place)) :
    place = r.steps.foldl follow r.start := by
  obtain ⟨dir, hdir, h⟩ := Except.bind_eq_ok_iff.mp h
  split at h
  case h_1 => cases h
  case h_2 step hstep =>
    obtain ⟨above, habove⟩ := List.getLast?_eq_some_iff.mp hstep
    split at h
    case isTrue => cases h
    case isFalse hdot =>
      split at h
      case isTrue => cases h
      case isFalse hparent =>
        obtain ⟨named, hnamed, h⟩ := Except.bind_eq_ok_iff.mp h
        cases h
        rw [habove, List.dropLast_concat] at hdir
        rw [habove, List.foldl_append, ← walk_eq_foldl hdir, name_eq_ok hnamed, List.foldl_cons,
          follow, if_neg hdot, if_neg hparent]
        rfl

theorem route_eq_ok {r : Route} (h : tree.route path = .ok r) :
    r = ⟨if path.head? = some '/' then [] else tree.here, (Path.pieces path).filter (· ≠ []),
      path.getLast? = some '/'⟩ := by
  unfold route at h
  split at h
  · cases h
  · split at h
    · cases h
    · split at h
      · cases h
      · cases h
        rfl

theorem goal_eq_placeOf {r : Route} (hroute : tree.route path = .ok r)
    (hgoal : tree.goal r = .ok (.name place)) : place = tree.placeOf path := by
  rw [goal_eq_foldl hgoal, route_eq_ok hroute]
  rfl

/-- One file was set, and everything else is as before. -/
def Sets (tree : FileTree) (path : Text) (content : Blob) (after : FileTree) : Prop :=
  after.get? (tree.placeOf path) = some (.file content) ∧
    ∀ place, place ≠ tree.placeOf path → after.get? place = tree.get? place

theorem sets_of_write {content : Blob} (h : tree.write path content = .ok after) :
    tree.Sets path content after := by
  obtain ⟨r, place, hroute, -, hgoal, -, rfl⟩ := write_eq_ok_iff.mp h
  rw [Sets, ← goal_eq_placeOf hroute hgoal]
  exact ⟨get?_put_self tree (ne_nil_of_goal_eq_name hgoal) _,
    fun other hother => get?_put_of_ne tree hother _⟩

theorem get?_of_read {content : Blob} (h : tree.read path = .ok content) :
    tree.get? (tree.placeOf path) = some (.file content) := by
  obtain ⟨e, hfind, h⟩ := Except.bind_eq_ok_iff.mp h
  cases e with
  | directory => cases h
  | file =>
    cases h
    obtain ⟨r, hroute, hfind⟩ := Except.bind_eq_ok_iff.mp hfind
    obtain ⟨g, hgoal, hfind⟩ := Except.bind_eq_ok_iff.mp hfind
    cases g with
    | directory => cases hfind
    | name place =>
      rw [← goal_eq_placeOf hroute hgoal]
      dsimp only at hfind
      cases hentry : tree.get? place with
      | none =>
        rw [hentry] at hfind
        cases hfind
      | some e =>
        rw [hentry] at hfind
        cases e with
        | directory => cases hfind
        | file =>
          dsimp only at hfind
          split at hfind
          · cases hfind
          · cases hfind
            rfl

theorem get?_of_absent {content : Blob} (habsent : tree.isPresent path = .ok false)
    (h : tree.write path content = .ok after) : tree.get? (tree.placeOf path) = none := by
  obtain ⟨r, place, hroute, hslashed, hgoal, hfree, -⟩ := write_eq_ok_iff.mp h
  rw [← goal_eq_placeOf hroute hgoal]
  cases hentry : tree.get? place with
  | none => rfl
  | some e =>
    cases e with
    | directory => exact absurd hentry hfree
    | file old =>
      have hfind : tree.find path = .ok (.file old) := by
        refine Except.bind_eq_ok_iff.mpr ⟨r, hroute, Except.bind_eq_ok_iff.mpr
          ⟨.name place, hgoal, ?_⟩⟩
        simp only [hentry, hslashed]
        rfl
      rw [isPresent, lookup, hfind] at habsent
      cases habsent

/-- Nothing was changed but that directories were added, all at places that `way` has. -/
structure Adds (way : Place → Prop) (tree after : FileTree) : Prop where
  here_eq : after.here = tree.here
  get?_cases : ∀ place, after.get? place = tree.get? place ∨
    tree.get? place = none ∧ after.get? place = some .directory ∧ way place

section Adds

variable {way : Place → Prop} {middle : FileTree}

theorem Adds.refl (way : Place → Prop) (tree : FileTree) : Adds way tree tree :=
  ⟨rfl, fun _ => .inl rfl⟩

theorem Adds.mono {wider : Place → Prop} (h : Adds way tree after)
    (hway : ∀ place, way place → wider place) : Adds wider tree after := by
  refine ⟨h.here_eq, fun place => ?_⟩
  rcases h.get?_cases place with hsame | ⟨hnone, hnew, hplace⟩
  · exact .inl hsame
  · exact .inr ⟨hnone, hnew, hway place hplace⟩

theorem Adds.trans (h : Adds way tree middle) (h' : Adds way middle after) :
    Adds way tree after := by
  refine ⟨h'.here_eq.trans h.here_eq, fun place => ?_⟩
  rcases h.get?_cases place with hsame | ⟨hnone, hnew, hplace⟩
  · rw [← hsame]
    exact h'.get?_cases place
  · rcases h'.get?_cases place with hsame' | ⟨hnone', -⟩
    · exact .inr ⟨hnone, hsame'.trans hnew, hplace⟩
    · rw [hnew] at hnone'
      cases hnone'

theorem Adds.get?_file {content : Blob} (h : Adds way tree after)
    (hfile : after.get? place = some (.file content)) : tree.get? place = some (.file content) := by
  rcases h.get?_cases place with hsame | ⟨-, hnew, -⟩
  · rw [← hsame, hfile]
  · rw [hnew] at hfile
    cases hfile

theorem Adds.get?_none (h : Adds way tree after) (hnone : after.get? place = none) :
    tree.get? place = none := by
  rcases h.get?_cases place with hsame | ⟨hbefore, -⟩
  · rw [← hsame, hnone]
  · exact hbefore

theorem Adds.placeOf_eq (h : Adds way tree after) (path : Text) :
    after.placeOf path = tree.placeOf path := by
  rw [placeOf, placeOf, h.here_eq]

theorem adds_of_makeDirectory (h : tree.makeDirectory path = .ok after) :
    Adds (· = tree.placeOf path) tree after := by
  obtain ⟨r, hroute, h⟩ := Except.bind_eq_ok_iff.mp h
  obtain ⟨g, hgoal, h⟩ := Except.bind_eq_ok_iff.mp h
  cases g with
  | directory => cases h
  | name place =>
    dsimp only at h
    split at h
    case isTrue => cases h
    case isFalse hfree =>
      cases h
      refine ⟨rfl, fun other => ?_⟩
      by_cases hother : other = place
      · subst hother
        exact .inr ⟨by simpa using hfree, get?_put_self tree (ne_nil_of_goal_eq_name hgoal) _,
          goal_eq_placeOf hroute hgoal⟩
      · exact .inl (get?_put_of_ne tree hother _)

theorem adds_of_ensureDirectory (h : tree.ensureDirectory path = .ok after) :
    Adds (· = tree.placeOf path) tree after := by
  unfold ensureDirectory at h
  split at h
  case h_1 new hnew =>
    cases h
    exact adds_of_makeDirectory hnew
  case h_2 =>
    split at h
    · cases h
      exact .refl _ tree
    · cases h

end Adds

/-- The places that one comes by when a path is followed. -/
def OnWay (tree : FileTree) (p : Path) (place : Place) : Prop :=
  ∃ parts, parts <+: p.parts ∧ place = tree.placeOf (Path.text ⟨p.root, parts⟩)

/-- Each directory that is made is on the way. The induction is on the path from its end, since the
directory itself is tried before those above it. -/
theorem adds_ensureFrom (tree : FileTree) (root : Path.Root) (parts : List Text) :
    Adds (OnWay tree ⟨root, parts.reverse⟩) tree (tree.ensureFrom root parts).1 := by
  induction parts with
  | nil => exact .refl _ tree
  | cons part above ih =>
    have hself : ∀ place, place = tree.placeOf (Path.text ⟨root, (part :: above).reverse⟩) →
        OnWay tree ⟨root, (part :: above).reverse⟩ place :=
      fun place hplace => ⟨_, List.prefix_rfl, hplace⟩
    have habove : Adds (OnWay tree ⟨root, (part :: above).reverse⟩) tree
        (tree.ensureFrom root above).1 := by
      refine ih.mono ?_
      rintro place ⟨parts, hparts, hplace⟩
      rw [List.reverse_cons]
      exact ⟨parts, hparts.trans (List.prefix_append _ _), hplace⟩
    rw [ensureFrom]
    split
    case h_1 new hnew => exact (adds_of_makeDirectory hnew).mono hself
    case h_2 =>
      split
      case h_1 new f hnew =>
        rw [hnew] at habove
        exact habove
      case h_2 new hnew =>
        rw [hnew] at habove
        split
        case h_1 done hdone =>
          have hlast := adds_of_ensureDirectory hdone
          rw [habove.placeOf_eq] at hlast
          exact habove.trans (hlast.mono hself)
        case h_2 => exact habove
    case h_3 => exact .refl _ tree

theorem adds_ensureDirectories (tree : FileTree) (p : Path) :
    Adds (OnWay tree p) tree (tree.ensureDirectories p).1 := by
  have h := adds_ensureFrom tree p.root p.parts.reverse
  rwa [List.reverse_reverse] at h

end FileTree

namespace Surroundings

variable {s : Surroundings}

/-- Directories were added on the way to the user's directory, and perhaps a copy of the packaged
file as the user's configuration. Nothing that was there is changed. -/
def Installs (s : Surroundings) (dir : Path) (after : FileTree) : Prop :=
  ∀ place, after.get? place = s.files.get? place ∨
    s.files.get? place = none ∧
      (after.get? place = some .directory ∧ s.files.OnWay dir place ∨
        place = s.files.placeOf (dir.child configName).text ∧
          ∃ content, s.files.get? (s.files.placeOf s.packaged.text) = some (.file content) ∧
            after.get? place = some (.file content))

theorem copyPackaged_cases {p : Path} {files : FileTree} (h : s.copyPackaged p = .ok files) :
    files = s.files ∨
      ∃ content, s.files.isPresent p.text = .ok false ∧
        s.files.read s.packaged.text = .ok content ∧
        s.files.write p.text content = .ok files := by
  obtain ⟨present, hpresent, h⟩ := Except.bind_eq_ok_iff.mp h
  cases present with
  | true =>
    cases h
    exact .inl rfl
  | false =>
    obtain ⟨content, hcontent, h⟩ := Except.bind_eq_ok_iff.mp h
    exact .inr ⟨content, hpresent, hcontent, h⟩

theorem installs_of_adds {dir : Path} {files : FileTree}
    (h : FileTree.Adds (s.files.OnWay dir) s.files files) : s.Installs dir files := by
  intro place
  rcases h.get?_cases place with hsame | ⟨hnone, hnew, hway⟩
  · exact .inl hsame
  · exact .inr ⟨hnone, .inl ⟨hnew, hway⟩⟩

theorem installs_of_copyPackaged {dir : Path} {made files : FileTree}
    (hmade : FileTree.Adds (s.files.OnWay dir) s.files made)
    (hcopy : copyPackaged { s with files := made } (dir.child configName) = .ok files) :
    s.Installs dir files := by
  rcases copyPackaged_cases hcopy with rfl | ⟨content, habsent, hread, hwrite⟩
  · exact installs_of_adds hmade
  · have hfree := FileTree.get?_of_absent habsent hwrite
    have hpackaged := FileTree.get?_of_read hread
    obtain ⟨hset, hothers⟩ := FileTree.sets_of_write hwrite
    rw [hmade.placeOf_eq] at hset hothers hfree hpackaged
    intro place
    by_cases hplace : place = s.files.placeOf (dir.child configName).text
    · subst hplace
      exact .inr ⟨hmade.get?_none hfree,
        .inr ⟨rfl, content, hmade.get?_file hpackaged, hset⟩⟩
    · rw [hothers place hplace]
      exact installs_of_adds hmade place

/-- An installation finds no directory for the user, or does its part and fails, if at all, because
the directory cannot be made. -/
theorem install_cases (s : Surroundings) :
    (∃ f, s.userDirectory = .error f ∧ s.install = (s, .error f)) ∨
      ∃ dir files result, s.userDirectory = .ok dir ∧ s.install = ({ s with files }, result) ∧
        s.Installs dir files ∧ (result = .ok dir ∨ result = .error (.configDirectory dir)) := by
  unfold install
  cases hdir : s.userDirectory with
  | error f => exact .inl ⟨f, rfl, rfl⟩
  | ok dir =>
    right
    have hmade := s.files.adds_ensureDirectories dir
    dsimp only
    split
    case h_1 files f hfiles =>
      rw [hfiles] at hmade
      exact ⟨dir, files, _, rfl, rfl, installs_of_adds hmade, .inr rfl⟩
    case h_2 files hfiles =>
      rw [hfiles] at hmade
      split
      case h_1 copied hcopied =>
        exact ⟨dir, copied, _, rfl, rfl, installs_of_copyPackaged hmade hcopied, .inl rfl⟩
      case h_2 =>
        exact ⟨dir, files, _, rfl, rfl, installs_of_adds hmade, .inr rfl⟩

end Surroundings

end CheckedText
