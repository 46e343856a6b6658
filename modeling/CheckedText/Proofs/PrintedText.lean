import CheckedText.Console.Line
import CheckedText.Grouping

/-!
# What printing keeps

A printed text differs from the text in white space and in the characters that are left out. So a
reader who looks only at other characters sees the same ones in the same order, and exactly the
texts without tabs and such characters are printed as they are.
-/

namespace CheckedText

theorem filter_intercalate {keep : Char → Bool} {separator : Text}
    (h : separator.filter keep = []) (ls : List Text) :
    (separator.intercalate ls).filter keep = ls.flatten.filter keep := by
  induction ls with
  | nil => rfl
  | cons l ls ih =>
    cases ls with
    | nil => simp
    | cons l' ls =>
      rw [List.intercalate_cons_cons, List.filter_append, List.filter_append, h, ih,
        List.append_nil, ← List.filter_append]
      rfl

namespace Console

theorem flatten_splitAt (p : Char → Bool) (t : Text) :
    (splitAt p t).flatten = t.filter (!p ·) := by
  fun_induction splitAt p t with
  | case1 => rfl
  | case2 c rest hc ih => simp [hc, ih]
  | case3 c rest hc hnil ih => simp [hc, ← ih, hnil]
  | case4 c rest hc l ls hcons ih => simp [hc, ← ih, hcons]

theorem splitAt_eq_singleton {p : Char → Bool} {t : Text} (h : ∀ c ∈ t, p c = false) :
    splitAt p t = [t] := by
  induction t with
  | nil => rfl
  | cons c t ih =>
    rw [splitAt, ih fun d hd => h d (List.mem_cons_of_mem c hd)]
    simp [h c List.mem_cons_self]

theorem filter_fillTabs {keep : Char → Bool} (hspace : keep ' ' = false) (column : Nat)
    (parts : List Text) : (fillTabs column parts).filter keep = parts.flatten.filter keep := by
  fun_induction fillTabs column parts with
  | case1 => rfl
  | case2 column part => simp
  | case3 column part parts hne spaced stop ih =>
    simp [spaced, ih, hspace]

theorem filter_expandTabs {keep : Char → Bool} (hspace : keep ' ' = false) (t : Text) :
    (expandTabs t).filter keep = t.filter fun c => keep c && c ≠ '\t' := by
  rw [expandTabs, filter_fillTabs hspace, flatten_splitAt, List.filter_filter]
  apply List.filter_congr
  intro c _
  simp

theorem filter_shown_eq {keep : Char → Bool} (hspace : keep ' ' = false)
    (hbreak : keep '\n' = false) (t : Text) :
    (shown t).filter keep = t.filter fun c => keep c && c ≠ '\t' && !isDropped c := by
  have hlines (ls : List Text) : (ls.map expandTabs).flatten.filter keep =
      ls.flatten.filter fun c => keep c && c ≠ '\t' := by
    induction ls with
    | nil => rfl
    | cons l ls ih =>
      rw [List.map_cons, List.flatten_cons, List.filter_append, filter_expandTabs hspace, ih,
        List.flatten_cons, List.filter_append]
  rw [shown, filter_intercalate (by simp [hbreak]), textLines, hlines, flatten_splitAt,
    List.filter_filter, List.filter_filter]
  apply List.filter_congr
  intro c _
  by_cases hc : c = '\n'
  · simp [hc, hbreak]
  · simp [hc]

theorem filter_shown {keep : Char → Bool} {t : Text} (hspace : keep ' ' = false)
    (htab : keep '\t' = false) (hbreak : keep '\n' = false)
    (hdropped : ∀ c ∈ t, keep c = true → isDropped c = false) :
    (shown t).filter keep = t.filter keep := by
  rw [filter_shown_eq hspace hbreak]
  apply List.filter_congr
  intro c hc
  by_cases hk : keep c = true
  · have hne : c ≠ '\t' := fun h => by rw [h, htab] at hk; cases hk
    simp [hk, hne, hdropped c hc hk]
  · simp [hk]

theorem splitAt_ne_nil (p : Char → Bool) (t : Text) : splitAt p t ≠ [] := by
  cases t with
  | nil => simp [splitAt]
  | cons c rest =>
    rw [splitAt]
    split
    · simp
    · split <;> simp

theorem intercalate_splitAt (d : Char) (t : Text) : [d].intercalate (splitAt (· = d) t) = t := by
  fun_induction splitAt (· = d) t with
  | case1 => rfl
  | case2 c rest hc ih =>
    obtain rfl : c = d := by simpa using hc
    cases hparts : splitAt (· = c) rest with
    | nil => exact absurd hparts (splitAt_ne_nil _ rest)
    | cons l ls => rw [hparts] at ih; simp [List.intercalate_cons_cons, ih]
  | case3 c rest hc hnil ih => exact absurd hnil (splitAt_ne_nil _ rest)
  | case4 c rest hc l ls hcons ih =>
    rw [hcons] at ih
    cases ls with
    | nil => simpa using ih
    | cons l' ls => simpa [List.intercalate_cons_cons] using ih

theorem expandTabs_eq_self {t : Text} (h : ∀ c ∈ t, c ≠ '\t') : expandTabs t = t := by
  rw [expandTabs, splitAt_eq_singleton fun c hc => by simp [h c hc], fillTabs]

theorem mem_of_mem_splitAt {p : Char → Bool} {t l : Text} (hl : l ∈ splitAt p t) {c : Char}
    (hc : c ∈ l) : c ∈ t := by
  have hflat : c ∈ (splitAt p t).flatten := List.mem_flatten.mpr ⟨l, hl, hc⟩
  rw [flatten_splitAt] at hflat
  exact (List.mem_filter.mp hflat).1

theorem shown_eq_self_iff {t : Text} :
    shown t = t ↔ ∀ c ∈ t, isDropped c = false ∧ c ≠ '\t' := by
  constructor
  · intro h c hc
    have hfilter : (shown t).filter (fun d => isDropped d || d = '\t') = _ :=
      filter_shown_eq rfl rfl t
    have hnone :
        t.filter (fun d => (isDropped d || d = '\t') && d ≠ '\t' && !isDropped d) = [] := by
      apply List.filter_eq_nil_iff.mpr
      intro d _
      cases isDropped d <;> simp
    rw [hnone, h, List.filter_eq_nil_iff] at hfilter
    simpa using hfilter c hc
  · intro h
    have hkept : t.filter (!isDropped ·) = t :=
      List.filter_eq_self.mpr fun c hc => by simp [(h c hc).1]
    have hlines : ∀ l ∈ splitAt (· = '\n') t, expandTabs l = id l := fun l hl =>
      expandTabs_eq_self fun c hc => (h c (mem_of_mem_splitAt hl hc)).2
    rw [shown, textLines, hkept, List.map_congr_left hlines, List.map_id, intercalate_splitAt]

def IsKept (c : Char) : Prop :=
  isDropped c = false ∧ c ≠ '\t' ∧ c ≠ '\n'

theorem textLines_eq_self {t : Text} (h : ∀ c ∈ t, IsKept c) : textLines t = [t] := by
  have hkept : t.filter (!isDropped ·) = t :=
    List.filter_eq_self.mpr fun c hc => by simp [(h c hc).1]
  have hline : splitAt (· = '\n') t = [t] :=
    splitAt_eq_singleton fun c hc => by simp [(h c hc).2.2]
  rw [textLines, hkept, hline, List.map_singleton, expandTabs_eq_self fun c hc => (h c hc).2.1]

theorem shown_eq_self {t : Text} (h : ∀ c ∈ t, IsKept c) : shown t = t :=
  shown_eq_self_iff.mpr fun c hc => ⟨(h c hc).1, (h c hc).2.1⟩

end Console

namespace Decoration

theorem compact_eq_filter (separator t : Text) :
    compact separator t = t.filter (!isDecoration separator ·) := by
  have hpositions := congrArg (List.filter (!isDecoration separator ·)) (List.zipIdx_map_fst 0 t)
  rw [List.filter_map] at hpositions
  exact hpositions

end Decoration

end CheckedText
