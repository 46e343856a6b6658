import CheckedText.Files.Tree
import CheckedText.Proofs.Except

/-!
# Files that were written

Whether a file can be written does not depend on what is written. A file that was written is read
back, since the way to it leads through directories and these are as before.
-/

namespace CheckedText.FileTree

variable {tree after : FileTree} {place : Place} {path : Text}

theorem get?_put_self (tree : FileTree) (hplace : place ≠ []) (e : Entry) :
    (tree.put place e).get? place = some e := by
  have hgone : (tree.entries.filter (·.1 ≠ place)).lookup place = none := by
    rw [List.lookup_eq_none_iff]
    intro entry hentry
    have hne : entry.1 ≠ place := by simpa using (List.mem_filter.mp hentry).2
    simpa using hne.symm
  rw [get?, if_neg hplace, put, List.lookup_append, hgone]
  simp

theorem get?_put_of_ne (tree : FileTree) {other : Place} (hne : other ≠ place) (e : Entry) :
    (tree.put place e).get? other = tree.get? other := by
  have hkept (entries : List (Place × Entry)) :
      (entries.filter (·.1 ≠ place)).lookup other = entries.lookup other := by
    induction entries with
    | nil => rfl
    | cons entry entries ih =>
      by_cases hentry : entry.1 = place
      · have hother : (other == entry.1) = false := by simpa [hentry] using hne
        rw [List.filter_cons_of_neg (by simpa using hentry), ih, List.lookup_cons, hother]
      · rw [List.filter_cons_of_pos (by simpa using hentry), List.lookup_cons, List.lookup_cons, ih]
  have hlast : List.lookup other [(place, e)] = none := by simp [hne]
  rw [get?, get?, put, List.lookup_append, hkept, hlast, Option.or_none]

theorem walk_put {dir goal : Place} {steps : List Text} (e : Entry)
    (hplace : tree.get? place ≠ some .directory) (h : tree.walk dir steps = .ok goal) :
    (tree.put place e).walk dir steps = .ok goal := by
  induction steps generalizing dir with
  | nil => exact h
  | cons step steps ih =>
    rw [walk] at h ⊢
    split at h
    case isTrue hdot =>
      rw [if_pos hdot]
      exact ih h
    case isFalse hdot =>
      rw [if_neg hdot]
      split at h
      case isTrue hparent =>
        rw [if_pos hparent]
        exact ih h
      case isFalse hparent =>
        obtain ⟨next, hnext, h⟩ := Except.bind_eq_ok_iff.mp h
        rw [if_neg hparent, hnext]
        split at h
        case h_1 => cases h
        case h_2 => cases h
        case h_3 hdirectory =>
          have hne : next ≠ place := fun he => hplace (he ▸ hdirectory)
          have hsame := get?_put_of_ne tree hne e
          rw [hdirectory] at hsame
          exact Except.bind_eq_ok_iff.mpr ⟨next, rfl, by rw [hsame]; exact ih h⟩

theorem goal_put {r : Route} {g : Goal} (e : Entry) (hplace : tree.get? place ≠ some .directory)
    (h : tree.goal r = .ok g) : (tree.put place e).goal r = .ok g := by
  obtain ⟨dir, hdir, h⟩ := Except.bind_eq_ok_iff.mp h
  exact Except.bind_eq_ok_iff.mpr ⟨dir, walk_put e hplace hdir, h⟩

theorem ne_nil_of_goal_eq_name {r : Route} (h : tree.goal r = .ok (.name place)) : place ≠ [] := by
  obtain ⟨dir, -, h⟩ := Except.bind_eq_ok_iff.mp h
  split at h
  case h_1 => cases h
  case h_2 step _ =>
    split at h
    case isTrue => cases h
    case isFalse =>
      split at h
      case isTrue => cases h
      case isFalse =>
        obtain ⟨named, hnamed, h⟩ := Except.bind_eq_ok_iff.mp h
        cases h
        unfold name at hnamed
        split at hnamed
        case isTrue => cases hnamed
        case isFalse =>
          cases hnamed
          simp

theorem write_eq_ok_iff {content : Blob} : tree.write path content = .ok after ↔
    ∃ r place, tree.route path = .ok r ∧ r.slashed = false ∧ tree.goal r = .ok (.name place) ∧
      tree.get? place ≠ some .directory ∧ after = tree.put place (.file content) := by
  constructor
  · intro h
    obtain ⟨r, hroute, h⟩ := Except.bind_eq_ok_iff.mp h
    obtain ⟨dir, -, h⟩ := Except.bind_eq_ok_iff.mp h
    split at h
    case isTrue => cases h
    case isFalse hslashed =>
      obtain ⟨g, hgoal, h⟩ := Except.bind_eq_ok_iff.mp h
      split at h
      case h_1 => cases h
      case h_2 place =>
        split at h
        case isTrue => cases h
        case isFalse hfree =>
          cases h
          exact ⟨r, place, hroute, by simpa using hslashed, hgoal, hfree, rfl⟩
  · rintro ⟨r, place, hroute, hslashed, hgoal, hfree, rfl⟩
    obtain ⟨dir, hdir, -⟩ := Except.bind_eq_ok_iff.mp hgoal
    refine Except.bind_eq_ok_iff.mpr ⟨r, hroute, Except.bind_eq_ok_iff.mpr ⟨dir, hdir, ?_⟩⟩
    rw [hslashed, if_neg Bool.false_ne_true]
    exact Except.bind_eq_ok_iff.mpr ⟨.name place, hgoal, if_neg hfree⟩

def IsWritable (tree : FileTree) (path : Text) : Prop :=
  ∃ after, tree.write path [] = .ok after

theorem IsWritable.write (h : tree.IsWritable path) (content : Blob) :
    ∃ after, tree.write path content = .ok after := by
  obtain ⟨_, hempty⟩ := h
  obtain ⟨r, place, hroute, hslashed, hgoal, hfree, -⟩ := write_eq_ok_iff.mp hempty
  exact ⟨_, write_eq_ok_iff.mpr ⟨r, place, hroute, hslashed, hgoal, hfree, rfl⟩⟩

theorem IsWritable.ne_nil (h : tree.IsWritable path) : path ≠ [] := by
  rintro rfl
  obtain ⟨after, h⟩ := h
  cases h

theorem read_write {content : Blob} (h : tree.write path content = .ok after) :
    after.read path = .ok content := by
  obtain ⟨r, place, hroute, hslashed, hgoal, hfree, rfl⟩ := write_eq_ok_iff.mp h
  have hfind : (tree.put place (.file content)).find path = .ok (.file content) := by
    refine Except.bind_eq_ok_iff.mpr ⟨r, hroute, Except.bind_eq_ok_iff.mpr
      ⟨.name place, goal_put _ hfree hgoal, ?_⟩⟩
    simp only [get?_put_self tree (ne_nil_of_goal_eq_name hgoal), hslashed]
    rfl
  exact Except.bind_eq_ok_iff.mpr ⟨.file content, hfind, rfl⟩

end CheckedText.FileTree
