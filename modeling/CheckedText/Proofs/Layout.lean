import CheckedText.Proofs.PrintedText
import CheckedText.Proofs.SymbolText

/-!
# What the layout keeps

Cutting a text into groups and filling lines with them moves no character: separators and line
ends come in between, and separators at line ends go away again. For a reader who passes over the
characters of the separator the text is the same.
-/

namespace CheckedText.Text

theorem lowerFrom_ascii (before : Text) {t : Text} (h : ∀ c ∈ t, c.toNat < 0x80) :
    lowerFrom before t = t.map Char.toLower := by
  induction t generalizing before with
  | nil => rfl
  | cons c t ih =>
    have hc := h c List.mem_cons_self
    have hsigma : c ≠ 'Σ' := fun he => absurd (he ▸ hc) (by decide)
    rw [lowerFrom, ih (c :: before) fun d hd => h d (List.mem_cons_of_mem c hd), if_neg hsigma,
      lowerChar, if_pos hc]
    rfl

theorem lower_ascii {t : Text} (h : ∀ c ∈ t, c.toNat < 0x80) : lower t = t.map Char.toLower :=
  lowerFrom_ascii [] h

end CheckedText.Text

namespace CheckedText.Grouping

theorem flatten_chunks {size : Nat} (h : 0 < size) (t : Text) : (chunks size t).flatten = t := by
  fun_induction chunks size t with
  | case1 => rfl
  | case2 c rest ih =>
    obtain ⟨n, rfl⟩ := Nat.exists_eq_succ_of_ne_zero (Nat.ne_of_gt h)
    rw [List.flatten_cons, ih]
    exact List.take_append_drop (n + 1) (c :: rest)

theorem append_drop_of_isPrefixOf {separator : Text} (hne : separator ≠ []) {c : Char} {rest : Text}
    (hfront : separator.isPrefixOf (c :: rest) = true) :
    separator ++ rest.drop (separator.length - 1) = c :: rest := by
  obtain ⟨d, tail, rfl⟩ := List.exists_cons_of_ne_nil hne
  obtain ⟨after, hafter⟩ := List.isPrefixOf_iff_prefix.mp hfront
  obtain ⟨rfl, rfl⟩ := List.cons.inj hafter
  simp

section Reader

variable {keep : Char → Bool} {separator : Text} (hsep : separator.filter keep = [])
include hsep

theorem filter_splitOn (hne : separator ≠ []) (t : Text) :
    (splitOn separator t).flatten.filter keep = t.filter keep := by
  fun_induction splitOn separator t with
  | case1 => rfl
  | case2 c rest hprefix ih =>
    rw [List.flatten_cons, List.nil_append, ih, ← append_drop_of_isPrefixOf hne hprefix,
      List.filter_append, hsep, List.nil_append]
  | case3 c rest hprefix hnil ih =>
    rw [hnil] at ih
    rw [List.flatten_singleton, List.filter_cons, List.filter_cons, ← ih]
    rfl
  | case4 c rest hprefix g gs hcons ih =>
    rw [hcons] at ih
    rw [List.flatten_cons, List.cons_append, List.filter_cons, List.filter_cons, ← ih,
      List.flatten_cons]

theorem filter_groups (t : Text) : (groups separator t).flatten.filter keep = t.filter keep := by
  by_cases h : separator = []
  · simp [groups, h]
  · rw [groups, if_neg h, filter_splitOn hsep h]

theorem filter_fill (limit : Int) (current : Text) (gs : List Text) :
    (fill separator limit current gs).flatten.filter keep =
      current.filter keep ++ gs.flatten.filter keep := by
  fun_induction fill separator limit current gs with
  | case1 => rfl
  | case2 current h => simp
  | case3 g gs ih => rw [ih, List.flatten_cons, List.filter_append]; rfl
  | case4 current g gs h extended hlong ih =>
    rw [List.flatten_cons, List.filter_append, ih, List.flatten_cons, List.filter_append]
  | case5 current g gs h extended hfits ih =>
    rw [ih, List.filter_append, List.filter_append, hsep, List.append_nil, List.flatten_cons,
      List.filter_append, List.append_assoc]

theorem filter_wrap {limit : Int} {t : Text} {ls : List Text}
    (h : wrap separator limit t = .ok ls) :
    ls.flatten.filter keep = t.filter keep := by
  unfold wrap at h
  split at h
  case isTrue => cases h
  case isFalse =>
    split at h
    case isTrue ht =>
      cases h
      rw [ht]
      rfl
    case isFalse =>
      cases h
      rw [filter_fill hsep, filter_groups hsep]
      rfl

theorem filter_group {size : Int} {lowercase : Bool} {t g : Text}
    (h : group size separator lowercase t = .ok g) :
    g.filter keep = (if lowercase then Text.lower t else t).filter keep := by
  unfold group at h
  split at h
  case isTrue => cases h
  case isFalse hsize =>
    split at h
    case isTrue => cases h
    case isFalse =>
      cases h
      rw [filter_intercalate hsep, flatten_chunks (by omega)]

end Reader

theorem group_eq {size : Int} {separator : Text} (hsize : 0 < size)
    (hsep : ∀ c ∈ separator, Base32.isSymbol c = false) (lowercase : Bool) (t : Text) :
    group size separator lowercase t =
      .ok (separator.intercalate (chunks size.toNat (if lowercase then Text.lower t else t))) := by
  have hany : ¬ separator.any Base32.isSymbol = true := by simpa using hsep
  rw [group, if_neg (Int.not_le.mpr hsize), if_neg hany]

theorem group_isOk {size : Int} {separator : Text} (hsize : 0 < size)
    (hsep : ∀ c ∈ separator, Base32.isSymbol c = false) (lowercase : Bool) (t : Text) :
    ∃ g, group size separator lowercase t = .ok g :=
  ⟨_, group_eq hsize hsep lowercase t⟩

theorem wrap_isOk (separator t : Text) {limit : Int} (h : 0 < limit) :
    ∃ ls, wrap separator limit t = .ok ls := by
  rw [wrap, if_neg (Int.not_le.mpr h)]
  split
  case isTrue => exact ⟨_, rfl⟩
  case isFalse => exact ⟨_, rfl⟩

end CheckedText.Grouping
