import Mathlib.Data.List.Infix
import CheckedText.Proofs.ChangedPlaces

/-!
# Paths and their texts

The parts of a path in normal form are names without slashes, so they are read back from its text.
Every path that is read from a text is in normal form, and so are the paths made from it. Without
steps to the parent such a path leads straight down, to the place that its parts spell.
-/

namespace CheckedText

namespace Path

variable {p : Path} {t : Text}

structure IsPart (t : Text) : Prop where
  ne_nil : t ≠ []
  ne_dot : t ≠ ['.']
  not_mem : '/' ∉ t

def IsNormal (p : Path) : Prop :=
  ∀ part ∈ p.parts, IsPart part

theorem pieces_ne_nil (t : Text) : pieces t ≠ [] := by
  cases t with
  | nil => simp [pieces]
  | cons c t =>
    rw [pieces]
    split
    · simp
    · split <;> simp

theorem slash_not_mem_of_mem_pieces {piece : Text} (h : piece ∈ pieces t) : '/' ∉ piece := by
  induction t generalizing piece with
  | nil =>
    rw [pieces, List.mem_singleton] at h
    simp [h]
  | cons c t ih =>
    rw [pieces] at h
    split at h
    case isTrue =>
      rcases List.mem_cons.mp h with rfl | h
      · simp
      · exact ih h
    case isFalse hc =>
      cases hrest : pieces t with
      | nil => exact absurd hrest (pieces_ne_nil t)
      | cons first rest =>
        rw [hrest] at h ih
        rcases List.mem_cons.mp h with rfl | h
        · simp [Ne.symm hc, ih List.mem_cons_self]
        · exact ih (List.mem_cons_of_mem first h)

theorem isNormal_ofText (t : Text) : (ofText t).IsNormal := by
  intro part hpart
  obtain ⟨hpiece, hkept⟩ := List.mem_filter.mp hpart
  simp only [ne_eq, Bool.and_eq_true, decide_eq_true_eq] at hkept
  exact ⟨hkept.1, hkept.2, slash_not_mem_of_mem_pieces hpiece⟩

theorem IsNormal.child {name : Text} (h : p.IsNormal) (hname : IsPart name) :
    (p.child name).IsNormal := by
  intro part hpart
  rcases List.mem_append.mp hpart with hpart | hpart
  · exact h part hpart
  · exact List.mem_singleton.mp hpart ▸ hname

theorem pieces_append_slash (h : '/' ∉ t) (rest : Text) :
    pieces (t ++ '/' :: rest) = t :: pieces rest := by
  induction t with
  | nil => simp [pieces]
  | cons c t ih =>
    have hc : c ≠ '/' := fun hc => h (hc ▸ List.mem_cons_self)
    rw [List.cons_append, pieces, if_neg hc, ih fun hmem => h (List.mem_cons_of_mem c hmem)]

theorem pieces_of_not_mem (h : '/' ∉ t) : pieces t = [t] := by
  induction t with
  | nil => rfl
  | cons c t ih =>
    have hc : c ≠ '/' := fun hc => h (hc ▸ List.mem_cons_self)
    rw [pieces, if_neg hc, ih fun hmem => h (List.mem_cons_of_mem c hmem)]

theorem pieces_intercalate {parts : List Text} (hne : parts ≠ [])
    (h : ∀ part ∈ parts, '/' ∉ part) : pieces (['/'].intercalate parts) = parts := by
  induction parts with
  | nil => exact absurd rfl hne
  | cons part parts ih =>
    have hpart := h part List.mem_cons_self
    cases parts with
    | nil => simpa using pieces_of_not_mem hpart
    | cons next parts =>
      rw [List.intercalate_cons_cons, List.append_assoc, List.singleton_append,
        pieces_append_slash hpart, ih (List.cons_ne_nil next parts)
          fun part hmem => h part (List.mem_cons_of_mem _ hmem)]

theorem pieces_root_append (root : Root) (t : Text) :
    ∃ n, pieces (root.text ++ t) = List.replicate n [] ++ pieces t := by
  cases root with
  | relative => exact ⟨0, rfl⟩
  | slash => exact ⟨1, rfl⟩
  | doubleSlash => exact ⟨2, rfl⟩

theorem filter_pieces_root_append (root : Root) (t : Text) {keeps : Text → Bool}
    (hkeeps : keeps [] = false) :
    (pieces (root.text ++ t)).filter keeps = (pieces t).filter keeps := by
  obtain ⟨n, hn⟩ := pieces_root_append root t
  rw [hn, List.filter_append, List.filter_replicate_of_neg (by simp [hkeeps]), List.nil_append]

theorem text_of_ne_nil (h : p.parts ≠ []) : p.text = p.root.text ++ ['/'].intercalate p.parts := by
  simp [text, h]

theorem IsNormal.filter_pieces_text (hp : p.IsNormal) (hne : p.parts ≠ []) {keeps : Text → Bool}
    (hempty : keeps [] = false) (hkeeps : ∀ part, IsPart part → keeps part = true) :
    (pieces p.text).filter keeps = p.parts := by
  rw [text_of_ne_nil hne, filter_pieces_root_append _ _ hempty,
    pieces_intercalate hne fun part hpart => (hp part hpart).not_mem,
    List.filter_eq_self.mpr fun part hpart => hkeeps part (hp part hpart)]

theorem head?_intercalate (hp : p.IsNormal) {part : Text} {parts : List Text}
    (hparts : p.parts = part :: parts) :
    (['/'].intercalate p.parts).head? = part.head? ∧ part.head? ≠ some '/' := by
  have hpart := hp part (hparts ▸ List.mem_cons_self)
  obtain ⟨c, rest, rfl⟩ := List.exists_cons_of_ne_nil hpart.ne_nil
  have hc : c ≠ '/' := fun hc => hpart.not_mem (hc ▸ List.mem_cons_self)
  rw [hparts]
  cases parts with
  | nil => simpa using hc
  | cons next parts => simpa [List.intercalate_cons_cons] using hc

theorem rootOf_append {t : Text} (root : Root) (h : t.head? ≠ some '/') :
    rootOf (root.text ++ t) = root := by
  cases t with
  | nil => cases root <;> rfl
  | cons c t =>
    have hc : c ≠ '/' := by simpa using h
    cases root <;> simp [rootOf, Root.text, hc]

theorem IsNormal.rootOf_text (hp : p.IsNormal) : rootOf p.text = p.root := by
  obtain ⟨root, parts⟩ := p
  cases parts with
  | nil => cases root <;> rfl
  | cons part parts =>
    rw [text_of_ne_nil (List.cons_ne_nil part parts)]
    obtain ⟨hhead, hpart⟩ := head?_intercalate hp (rfl : _ = part :: parts)
    exact rootOf_append root (hhead ▸ hpart)

theorem IsNormal.ofText_text (hp : p.IsNormal) : ofText p.text = p := by
  have hparts : (pieces p.text).filter (fun part => part ≠ [] && part ≠ ['.']) = p.parts := by
    by_cases hne : p.parts = []
    · obtain ⟨root, parts⟩ := p
      cases hne
      cases root <;> rfl
    · refine hp.filter_pieces_text hne rfl fun part hpart => ?_
      simp [hpart.ne_nil, hpart.ne_dot]
  rw [ofText, hp.rootOf_text, hparts]

end Path

namespace Surroundings

variable {s : Surroundings} {p : Path}

theorem isPart_application : Path.IsPart application :=
  ⟨by decide, by decide, by decide⟩

theorem isPart_configName : Path.IsPart configName :=
  ⟨by decide, by decide, by decide⟩

theorem isNormal_of_expandHome? {env : Environment} {home : Path} (hp : p.IsNormal)
    (h : env.expandHome? p = some home) : home.IsNormal := by
  unfold Environment.expandHome? at h
  split at h
  case h_1 first parts hroot hparts =>
    split at h
    case isTrue =>
      dsimp only at h
      split at h
      case isTrue => cases h
      case isFalse =>
        cases h
        intro part hpart
        rcases List.mem_append.mp hpart with hpart | hpart
        · exact Path.isNormal_ofText _ part hpart
        · exact hp part (hparts ▸ List.mem_cons_of_mem first hpart)
    case isFalse =>
      cases h
      exact hp
  case h_2 =>
    cases h
    exact hp

theorem isNormal_of_expand {written : Text} (h : s.expand written = .ok p) : p.IsNormal := by
  unfold expand at h
  split at h
  case h_1 home hhome =>
    cases h
    exact isNormal_of_expandHome? (Path.isNormal_ofText _) hhome
  case h_2 => cases h

theorem isNormal_of_userDirectory (h : s.userDirectory = .ok p) : p.IsNormal := by
  unfold userDirectory at h
  split at h
  case h_1 =>
    cases h
    exact (Path.isNormal_ofText _).child isPart_application
  case h_2 =>
    split at h
    case h_1 =>
      split at h
      case h_1 home hhome =>
        cases h
        have hconfig : Path.IsPart ".config".toList := ⟨by decide, by decide, by decide⟩
        exact ((isNormal_of_expandHome? (Path.isNormal_ofText _) hhome).child hconfig).child
          isPart_application
      case h_2 => cases h
    case h_2 =>
      cases h
      exact (Path.isNormal_ofText _).child isPart_application

theorem isNormal_of_userFile (h : s.userFile = .ok p) : p.IsNormal := by
  obtain ⟨dir, hdir, rfl⟩ := Except.map_eq_ok_iff.mp h
  exact (isNormal_of_userDirectory hdir).child isPart_configName

end Surroundings

namespace FileTree

variable {p : Path}

def startOf (tree : FileTree) (p : Path) : Place :=
  if p.root = .relative then tree.here else []

theorem foldl_follow {steps : List Text} (hdot : ['.'] ∉ steps) (hparent : ['.', '.'] ∉ steps)
    (dir : Place) : steps.foldl follow dir = dir ++ steps := by
  induction steps generalizing dir with
  | nil => simp
  | cons step steps ih =>
    have hstep : step ≠ ['.'] := (List.ne_of_not_mem_cons hdot).symm
    have hstep' : step ≠ ['.', '.'] := (List.ne_of_not_mem_cons hparent).symm
    rw [List.foldl_cons, ih (List.not_mem_of_not_mem_cons hdot)
      (List.not_mem_of_not_mem_cons hparent), follow, if_neg hstep, if_neg hstep',
      List.append_assoc, List.singleton_append]

theorem head?_text_eq_slash_iff (hp : p.IsNormal) :
    p.text.head? = some '/' ↔ p.root ≠ .relative := by
  obtain ⟨root, parts⟩ := p
  cases root with
  | slash => simp [Path.text, Path.Root.text]
  | doubleSlash => simp [Path.text, Path.Root.text]
  | relative =>
    cases parts with
    | nil => simp [Path.text]
    | cons part parts =>
      rw [Path.text_of_ne_nil (List.cons_ne_nil part parts)]
      obtain ⟨hhead, hpart⟩ := Path.head?_intercalate hp (rfl : _ = part :: parts)
      simpa [Path.Root.text, hhead] using hpart

theorem start_eq_startOf (tree : FileTree) (hp : p.IsNormal) :
    (if p.text.head? = some '/' then [] else tree.here) = tree.startOf p := by
  unfold startOf
  by_cases hroot : p.root = .relative
  · rw [if_pos hroot, if_neg fun hhead => (head?_text_eq_slash_iff hp).mp hhead hroot]
  · rw [if_neg hroot, if_pos ((head?_text_eq_slash_iff hp).mpr hroot)]

theorem steps_of_text (hp : p.IsNormal) (hne : p.parts ≠ []) :
    (Path.pieces p.text).filter (· ≠ []) = p.parts :=
  hp.filter_pieces_text hne rfl fun part hpart => by simp [hpart.ne_nil]

theorem placeOf_text (tree : FileTree) (hp : p.IsNormal) (hparent : ['.', '.'] ∉ p.parts) :
    tree.placeOf p.text = tree.startOf p ++ p.parts := by
  rw [placeOf, start_eq_startOf tree hp]
  by_cases hne : p.parts = []
  · obtain ⟨root, parts⟩ := p
    cases hne
    cases root <;> simp [Path.text, Path.Root.text, Path.pieces, follow]
  · rw [steps_of_text hp hne]
    exact foldl_follow (fun hmem => (hp _ hmem).ne_dot rfl) hparent _

end FileTree

end CheckedText
