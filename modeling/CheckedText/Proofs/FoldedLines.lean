import Mathlib.Algebra.GroupWithZero.Nat
import Mathlib.Data.List.TakeWhile
import CheckedText.Console.Screen
import CheckedText.Proofs.QuotedText

/-!
# Lines that are cut and lines that are not

The columns of a text need not add up, since a character may be widened by one that follows. They
never exceed its room, which does, so a line with room on the screen is printed in one piece.
However a line is cut, it starts with its first character, unless that is blank or has no column.
-/

namespace CheckedText

namespace Text

/-- An upper bound of the columns and of the length that adds up. -/
def room (t : Text) : Nat :=
  (t.map fun c => max 1 (charColumns c)).sum

@[simp] theorem room_nil : room [] = 0 := rfl

@[simp] theorem room_cons (c : Char) (t : Text) :
    room (c :: t) = max 1 (charColumns c) + room t := by
  simp [room]

@[simp] theorem room_append (t u : Text) : room (t ++ u) = room t + room u := by
  simp [room]

theorem length_le_room (t : Text) : t.length ≤ room t := by
  induction t with
  | nil => exact Nat.le_refl 0
  | cons c t ih =>
    rw [List.length_cons, room_cons]
    omega

theorem room_of_narrow {t : Text} (h : ∀ c ∈ t, charColumns c ≤ 1) : room t = t.length := by
  induction t with
  | nil => rfl
  | cons c t ih =>
    have hc := h c List.mem_cons_self
    rw [room_cons, ih fun d hd => h d (List.mem_cons_of_mem c hd), List.length_cons]
    omega

theorem room_of_escapeSymbols {t : Text} (h : ∀ c ∈ t, c ∈ escapeSymbols) : room t = t.length := by
  have hnarrow : escapeSymbols.all (charColumns · ≤ 1) = true := by decide
  exact room_of_narrow fun c hc => of_decide_eq_true (List.all_eq_true.mp hnarrow c (h c hc))

theorem charColumns_le (c : Char) : charColumns c ≤ 2 := by
  grind [charColumns]

theorem length_hexadecimal (width : Nat) {n : Nat} (hwidth : 0 < width) (h : n < 16 ^ width) :
    (hexadecimal width n).length = width := by
  have hdigits := (Nat.length_toDigits_le_iff (b := 16) (by decide) hwidth).mpr h
  rw [hexadecimal, List.length_leftpad]
  omega

theorem length_escapeCode {n : Nat} (h : n < 16 ^ 8) : (escapeCode n).length ≤ 10 := by
  unfold escapeCode
  split
  case isTrue hn => simp [length_hexadecimal 2 (by decide) hn]
  case isFalse =>
    split
    case isTrue hn => simp [length_hexadecimal 4 (by decide) hn]
    case isFalse => simp [length_hexadecimal 8 (by decide) h]

theorem room_escapeChar (mark c : Char) : room (escapeChar mark c) ≤ 10 := by
  unfold escapeChar
  split
  case isTrue =>
    have hcolumns := charColumns_le c
    have hbackslash : charColumns '\\' = 1 := by decide
    simp only [room_cons, room_nil, hbackslash]
    omega
  split
  case isTrue => decide
  split
  case isTrue => decide
  split
  case isTrue => decide
  split
  case isTrue =>
    have hcolumns := charColumns_le c
    simp only [room_cons, room_nil]
    omega
  case isFalse =>
    rw [room_of_escapeSymbols fun d => mem_escapeCode]
    have hvalid : c.toNat.isValidChar := c.valid
    exact length_escapeCode (by unfold Nat.isValidChar at hvalid; omega)

theorem room_quote_singleton (c : Char) : room (quote [c]) ≤ 12 := by
  have hmark : room [quoteMark [c]] = 1 :=
    room_of_escapeSymbols (List.forall_mem_singleton.mpr (quoteMark_mem [c]))
  have hchar := room_escapeChar (quoteMark [c]) c
  have hquote : quote [c] = [quoteMark [c]] ++ escapeChar (quoteMark [c]) c ++ [quoteMark [c]] := by
    simp [quote]
  rw [hquote, room_append, room_append, hmark]
  omega

theorem room_le_of_prefix {t u : Text} (h : t <+: u) : room t ≤ room u := by
  obtain ⟨rest, rfl⟩ := h
  rw [room_append]
  omega

theorem widening_le (last : Option Char) : widening last ≤ 1 := by
  unfold widening
  split <;> decide

theorem columnsAfter_le_room (last : Option Char) (t : Text) : columnsAfter last t ≤ room t := by
  fun_induction columnsAfter last t with
  | case1 => exact Nat.zero_le _
  | case2 => exact Nat.zero_le _
  | case3 last d more ih =>
    simp only [room_cons]
    omega
  | case4 last rest _ ih =>
    have hwidening := widening_le last
    rw [room_cons]
    omega
  | case5 last c rest _ _ _ ih =>
    rw [room_cons]
    omega
  | case6 last c rest _ _ _ ih =>
    rw [room_cons]
    omega

theorem columns_le_room (t : Text) : columns t ≤ room t :=
  columnsAfter_le_room none t

theorem attach_append {before : List Cluster} (hbefore : before ≠ []) (done : List Cluster)
    (t : Text) (added : Nat) : attach (before ++ done) t added = attach before t added ++ done := by
  cases before with
  | nil => exact absurd rfl hbefore
  | cons k ks => rfl

theorem attach_ne_nil (before : List Cluster) (t : Text) (added : Nat) :
    attach before t added ≠ [] := by
  cases before <;> nofun

theorem clustersAfter_append (before : List Cluster) (hbefore : before ≠ [])
    (done : List Cluster) (last : Option Char) (t : Text) :
    clustersAfter (before ++ done) last t = done.reverse ++ clustersAfter before last t := by
  have hboth : decide (before ++ done ≠ []) = decide (before ≠ []) := by simp [hbefore]
  fun_induction clustersAfter before last t with
  | case1 before last => rw [clustersAfter, List.reverse_append]
  | case2 before last c hjoined =>
    rw [clustersAfter, hboth, if_pos hjoined, attach_append hbefore, List.reverse_append]
  | case3 before last c hjoined d more ih =>
    rw [clustersAfter, hboth, if_pos hjoined, attach_append hbefore]
    exact ih (attach_ne_nil before _ _) (by simp [attach_ne_nil])
  | case4 before last rest hjoined ih =>
    -- The patterns overlap, so from here on the equations ask for more than is known.
    rw [clustersAfter.eq_def]
    dsimp only
    rw [hboth, if_neg hjoined, if_pos rfl, attach_append hbefore]
    exact ih (attach_ne_nil before _ _) (by simp [attach_ne_nil])
  | case5 before last c rest hjoined hselector hzero ih =>
    rw [clustersAfter.eq_def]
    dsimp only
    rw [hboth, if_neg hjoined, if_neg hselector, if_pos hzero, attach_append hbefore]
    exact ih (attach_ne_nil before _ _) (by simp [attach_ne_nil])
  | case6 before last c rest hjoined hselector hzero ih =>
    rw [clustersAfter.eq_def]
    dsimp only
    rw [hboth, if_neg hjoined, if_neg hselector, if_neg hzero]
    exact ih nofun (by simp)

theorem clustersAfter_singleton (k : Cluster) (last : Option Char) (t : Text) :
    ∃ added columns ks, clustersAfter [k] last t = ⟨k.text ++ added, columns⟩ :: ks ∧
      columns ≤ k.columns + widening last := by
  generalize hbefore : [k] = before
  fun_induction clustersAfter before last t generalizing k with
  | case1 before last =>
    subst hbefore
    exact ⟨[], k.columns, [], by simp, by omega⟩
  | case2 before last c hjoined =>
    subst hbefore
    exact ⟨[c], k.columns, [], rfl, by omega⟩
  | case3 before last c hjoined d more ih =>
    subst hbefore
    obtain ⟨added, columns, ks, heq, hle⟩ := ih ⟨k.text ++ [c, d], k.columns⟩ rfl
    exact ⟨[c, d] ++ added, columns, ks, by rw [heq, List.append_assoc], hle⟩
  | case4 before last rest hjoined ih =>
    subst hbefore
    obtain ⟨added, columns, ks, heq, hle⟩ :=
      ih ⟨k.text ++ [emojiSelector], k.columns + widening last⟩ rfl
    refine ⟨emojiSelector :: added, columns, ks, by rw [heq]; simp, ?_⟩
    unfold widening at hle ⊢
    split at hle <;> simp_all
  | case5 before last c rest hjoined hselector hzero ih =>
    subst hbefore
    obtain ⟨added, columns, ks, heq, hle⟩ := ih ⟨k.text ++ [c], k.columns⟩ rfl
    exact ⟨c :: added, columns, ks, by rw [heq]; simp, hle⟩
  | case6 before last c rest hjoined hselector hzero ih =>
    subst hbefore
    have happend := clustersAfter_append [⟨[c], charColumns c⟩] nofun [k] (some c) rest
    exact ⟨[], k.columns, _, by simpa using happend, by omega⟩

theorem clusters_cons {c : Char} (hc : charColumns c ≠ 0) (t : Text) :
    ∃ added columns ks, clusters (c :: t) = ⟨c :: added, columns⟩ :: ks ∧ columns ≤ 3 := by
  have hselector : c ≠ emojiSelector := by
    rintro rfl
    exact hc (by decide)
  have hstart : clusters (c :: t) = clustersAfter [⟨[c], charColumns c⟩] (some c) t := by
    rw [clusters, clustersAfter.eq_def]
    simp [hselector, hc]
  obtain ⟨added, columns, ks, heq, hle⟩ :=
    clustersAfter_singleton ⟨[c], charColumns c⟩ (some c) t
  refine ⟨added, columns, ks, hstart.trans heq, Nat.le_trans hle ?_⟩
  exact Nat.add_le_add (charColumns_le c) (widening_le (some c))

end Text

namespace Console

variable {width : Nat} {t : Text} {c : Char}

theorem flatten_cutAfterBlanks (t : Text) : (cutAfterBlanks t).flatten = t := by
  fun_induction cutAfterBlanks t with
  | case1 => rfl
  | case2 c => rfl
  | case3 c d rest hnil ih =>
    rw [hnil] at ih
    cases ih
  | case4 c d rest w ws hcut hblank ih =>
    rw [hcut] at ih
    rw [List.flatten_cons, ih]
    rfl
  | case5 c d rest w ws hcut hblank ih =>
    rw [hcut] at ih
    rw [List.flatten_cons, List.cons_append, ← List.flatten_cons, ih]

theorem flatten_lineWords (t : Text) : lineWords t = [] ∨ (lineWords t).flatten = t := by
  have hflatten := flatten_cutAfterBlanks t
  unfold lineWords
  split
  case h_1 => exact .inl rfl
  case h_2 w hcut =>
    rw [hcut] at hflatten
    split
    · exact .inl rfl
    · exact .inr hflatten
  case h_3 w v ws hcut =>
    rw [hcut] at hflatten
    right
    split
    · simpa using hflatten
    · exact hflatten

theorem dropLastBlanks_isPrefix (t : Text) : dropLastBlanks t <+: t := by
  have h := List.dropWhile_suffix (l := t.reverse) Text.isBlank
  rw [← List.reverse_prefix, List.reverse_reverse] at h
  exact h

theorem foldl_place_of_room (current : Text) (filled : Nat) (ws : List Text)
    (hfilled : filled ≤ Text.room current) (hroom : Text.room (current ++ ws.flatten) ≤ width) :
    ∃ n, ws.foldl (Fold.place width) ⟨[], current, filled⟩ = ⟨[], current ++ ws.flatten, n⟩ := by
  induction ws generalizing current filled with
  | nil => exact ⟨filled, by simp⟩
  | cons w ws ih =>
    rw [List.flatten_cons, ← List.append_assoc] at hroom ⊢
    have hword := Text.columns_le_room w
    have hneeded := Nat.le_trans (Text.columns_le_room (dropLastBlanks w))
      (Text.room_le_of_prefix (dropLastBlanks_isPrefix w))
    simp only [Text.room_append] at hroom
    have hplace : Fold.place width ⟨[], current, filled⟩ w =
        ⟨[], current ++ w, filled + Text.columns w⟩ := by
      unfold Fold.place
      dsimp only
      rw [if_pos (by omega)]
    rw [List.foldl_cons, hplace]
    exact ih _ _ (by rw [Text.room_append]; omega) (by simp only [Text.room_append]; omega)

theorem foldLine_of_room (h : Text.room t ≤ width) : foldLine width t = [t] := by
  have hlines : (if lineWords t = [] then [t]
      else ((lineWords t).foldl (Fold.place width) .start).finished ++
        [((lineWords t).foldl (Fold.place width) .start).current]) = [t] := by
    split
    case isTrue => rfl
    case isFalse hne =>
      have hflatten := (flatten_lineWords t).resolve_left hne
      have hroom : Text.room ([] ++ (lineWords t).flatten) ≤ width := by
        rw [List.nil_append, hflatten]
        exact h
      obtain ⟨n, hfold⟩ := foldl_place_of_room [] 0 (lineWords t) (Nat.zero_le _) hroom
      rw [List.nil_append, hflatten] at hfold
      rw [show Fold.start = ⟨[], [], 0⟩ from rfl, hfold]
      rfl
  have htrim : trimTo width t = t := by
    have hlength := Nat.le_trans (Text.length_le_room t) h
    rw [trimTo, Nat.sub_eq_zero_of_le hlength, Nat.min_zero, Nat.sub_zero, List.take_length]
  have hcrop : cropTo width t = t :=
    if_neg (Nat.not_lt.mpr (Nat.le_trans (Text.columns_le_room t) h))
  rw [foldLine, hlines, List.map_singleton, htrim, hcrop]

/-- Every line has room. -/
def Fits (width : Nat) (t : Text) : Prop :=
  ∀ l ∈ textLines t, Text.room l ≤ width

instance (width : Nat) (t : Text) : Decidable (Fits width t) :=
  inferInstanceAs (Decidable (∀ l ∈ textLines t, Text.room l ≤ width))

theorem fits_of_isKept (hkept : ∀ c ∈ t, IsKept c) (h : Text.room t ≤ width) : Fits width t := by
  unfold Fits
  rw [textLines_eq_self hkept]
  exact List.forall_mem_singleton.mpr h

theorem flatMap_foldLine_of_room {ls : List Text} (h : ∀ l ∈ ls, Text.room l ≤ width) :
    ls.flatMap (foldLine width) = ls := by
  induction ls with
  | nil => rfl
  | cons l ls ih =>
    rw [List.flatMap_cons, foldLine_of_room (h l List.mem_cons_self),
      ih fun l hl => h l (List.mem_cons_of_mem _ hl)]
    rfl

theorem wrapped_of_fits (h : Fits width t) : wrapped width t = shown t :=
  congrArg (['\n'].intercalate ·) (flatMap_foldLine_of_room h)

def Begins (c : Char) (ls : List Text) : Prop :=
  ∃ l rest, ls = (c :: l) :: rest

theorem chop_eq_cons (width : Nat) (piece : Text) (filled : Nat) (ks : List Text.Cluster) :
    ∃ added rest, chop width piece filled ks = (piece ++ added) :: rest := by
  induction ks generalizing piece filled with
  | nil => exact ⟨[], [], by simp [chop]⟩
  | cons k ks ih =>
    rw [chop]
    split
    · exact ⟨[], chop width k.text k.columns ks, by simp⟩
    · obtain ⟨added, rest, hchop⟩ := ih (piece ++ k.text) (filled + k.columns)
      exact ⟨k.text ++ added, rest, by rw [hchop, List.append_assoc]⟩

namespace Fold

def lines (f : Fold) : List Text :=
  f.finished ++ [f.current]

variable {f : Fold}

theorem lines_onNewLine (h : Begins c f.lines) (piece : Text) :
    (f.onNewLine piece).lines = f.lines ++ [piece] := by
  unfold onNewLine
  split
  case isTrue hempty =>
    obtain ⟨l, rest, hlines⟩ := h
    simp_all [lines]
  case isFalse => simp [lines]

theorem begins_onNewLine (h : Begins c f.lines) (piece : Text) :
    Begins c (f.onNewLine piece).lines := by
  rw [lines_onNewLine h]
  obtain ⟨l, rest, hlines⟩ := h
  exact ⟨l, rest ++ [piece], by rw [hlines]; rfl⟩

theorem begins_foldl_onNewLine (h : Begins c f.lines) (pieces : List Text) :
    Begins c (pieces.foldl onNewLine f).lines := by
  induction pieces generalizing f with
  | nil => exact h
  | cons piece pieces ih => exact ih (begins_onNewLine h piece)

theorem begins_place (h : Begins c f.lines) (word : Text) :
    Begins c (place width f word).lines := by
  unfold place
  dsimp only
  split
  · obtain ⟨l, rest, hlines⟩ := h
    unfold lines at hlines ⊢
    cases hfinished : f.finished with
    | nil =>
      rw [hfinished] at hlines
      have hcurrent : f.current = c :: l := (List.cons.inj hlines).1
      exact ⟨l ++ word, [], by rw [hcurrent]; rfl⟩
    | cons first finished =>
      rw [hfinished] at hlines
      cases hlines
      exact ⟨l, _, rfl⟩
  · split
    · exact begins_foldl_onNewLine h _
    · exact begins_onNewLine h word

theorem begins_foldl_place (h : Begins c f.lines) (ws : List Text) :
    Begins c (ws.foldl (place width) f).lines := by
  induction ws generalizing f with
  | nil => exact h
  | cons w ws ih => exact ih (begins_place h w)

theorem begins_place_start (hwidth : 3 ≤ width) (hc : Text.charColumns c ≠ 0) (w : Text) :
    Begins c (place width start (c :: w)).lines := by
  unfold place
  dsimp only
  split
  · exact ⟨w, [], rfl⟩
  · split
    · obtain ⟨added, columns, ks, hclusters, hcolumns⟩ := Text.clusters_cons hc w
      obtain ⟨more, pieces, hchop⟩ := chop_eq_cons width (c :: added) (0 + columns) ks
      rw [hclusters, chop, if_neg (by dsimp only; omega), List.nil_append, hchop, List.foldl_cons]
      exact begins_foldl_onNewLine ⟨added ++ more, [], rfl⟩ pieces
    · exact ⟨w, [], rfl⟩

end Fold

theorem lineWords_cons (hblank : Text.isBlank c = false) (t : Text) :
    ∃ w ws, lineWords (c :: t) = (c :: w) :: ws := by
  have hcut : ∃ w ws, cutAfterBlanks (c :: t) = (c :: w) :: ws := by
    cases t with
    | nil => exact ⟨[], [], rfl⟩
    | cons d rest =>
      rw [cutAfterBlanks]
      split
      · exact ⟨[], [], rfl⟩
      · rw [hblank]
        exact ⟨_, _, rfl⟩
  obtain ⟨w, ws, hcut⟩ := hcut
  refine ⟨w, ws, ?_⟩
  cases ws with
  | nil => simp [lineWords, hcut, hblank]
  | cons v ws => simp [lineWords, hcut, hblank]

theorem trimTo_cons (width : Nat) (hblank : Text.isBlank c = false) (t : Text) :
    ∃ u, trimTo width (c :: t) = c :: u := by
  have hkept : 0 < (dropLastBlanks (c :: t)).length := by
    rw [List.length_pos_iff, dropLastBlanks, ne_eq, List.reverse_eq_nil_iff,
      List.dropWhile_eq_nil_iff]
    intro hall
    have hc := hall c (by simp)
    rw [hblank] at hc
    cases hc
  have hprefix := (dropLastBlanks_isPrefix (c :: t)).length_le
  obtain ⟨n, hn⟩ := Nat.exists_eq_succ_of_ne_zero
    (n := (c :: t).length - min ((c :: t).length - (dropLastBlanks (c :: t)).length)
      ((c :: t).length - width)) (by omega)
  rw [trimTo, hn]
  exact ⟨t.take n, rfl⟩

theorem cropTo_cons (hwidth : 3 ≤ width) (hc : Text.charColumns c ≠ 0) (t : Text) :
    ∃ u, cropTo width (c :: t) = c :: u := by
  unfold cropTo
  split
  · obtain ⟨added, columns, ks, hclusters, hcolumns⟩ := Text.clusters_cons hc t
    have hfront : front width (c :: t) = c :: (added ++ front.go (width - columns) ks) := by
      rw [front, if_neg (by omega), hclusters, front.go, if_pos (by dsimp only; omega)]
      rfl
    rw [hfront]
    exact ⟨_, rfl⟩
  · exact ⟨t, rfl⟩

theorem begins_foldLine (hwidth : 3 ≤ width) (hblank : Text.isBlank c = false)
    (hc : Text.charColumns c ≠ 0) (t : Text) : Begins c (foldLine width (c :: t)) := by
  obtain ⟨w, ws, hwords⟩ := lineWords_cons hblank t
  obtain ⟨l, rest, hlines⟩ :=
    Fold.begins_foldl_place (Fold.begins_place_start hwidth hc w) ws
  obtain ⟨l', htrim⟩ := trimTo_cons width hblank l
  obtain ⟨l'', hcrop⟩ := cropTo_cons hwidth hc l'
  refine ⟨l'', rest.map fun l => cropTo width (trimTo width l), ?_⟩
  rw [foldLine, hwords, if_neg (List.cons_ne_nil _ _), List.foldl_cons]
  unfold Fold.lines at hlines
  rw [hlines, List.map_cons, htrim, hcrop]

theorem splitAt_cons_of_false {p : Char → Bool} (hc : p c = false) (t : Text) :
    ∃ l ls, splitAt p (c :: t) = (c :: l) :: ls := by
  rw [splitAt, hc]
  cases splitAt p t with
  | nil => exact ⟨[], [], by simp⟩
  | cons l ls => exact ⟨l, ls, by simp⟩

theorem expandTabs_cons (hc : c ≠ '\t') (t : Text) : ∃ u, expandTabs (c :: t) = c :: u := by
  obtain ⟨l, ls, hparts⟩ := splitAt_cons_of_false (p := (· = '\t')) (by simpa using hc) t
  rw [expandTabs, hparts]
  cases ls with
  | nil => exact ⟨l, rfl⟩
  | cons l' ls => exact ⟨_, rfl⟩

theorem begins_textLines (hc : IsKept c) (t : Text) : Begins c (textLines (c :: t)) := by
  obtain ⟨hdropped, htab, hbreak⟩ := hc
  have hfilter : (c :: t).filter (!isDropped ·) = c :: t.filter (!isDropped ·) := by
    simp [hdropped]
  obtain ⟨l, ls, hlines⟩ := splitAt_cons_of_false (p := (· = '\n')) (by simpa using hbreak)
    (t.filter (!isDropped ·))
  obtain ⟨u, hu⟩ := expandTabs_cons htab l
  rw [textLines, hfilter, hlines, List.map_cons, hu]
  exact ⟨u, _, rfl⟩

theorem wrapped_cons (hwidth : 3 ≤ width) (hkept : IsKept c) (hblank : Text.isBlank c = false)
    (hc : Text.charColumns c ≠ 0) (t : Text) : ∃ u, wrapped width (c :: t) = c :: u := by
  obtain ⟨l, ls, hlines⟩ := begins_textLines hkept t
  obtain ⟨l', ls', hfolded⟩ := begins_foldLine hwidth hblank hc l
  rw [wrapped, hlines, List.flatMap_cons, hfolded, List.cons_append]
  cases ls' ++ ls.flatMap (foldLine width) with
  | nil => exact ⟨l', by simp⟩
  | cons first rest => exact ⟨_, by rw [List.intercalate_cons_cons]; rfl⟩

end Console

namespace Screen

theorem line_of_fits {s : Screen} {t : Text} (h : Console.Fits s.width t) :
    s.line t = Console.line t := by
  rw [line, Console.wrapped_of_fits h, Console.line]

theorem head?_line (s : Screen) {c : Char} {b : UInt8} (hkept : Console.IsKept c)
    (hblank : Text.isBlank c = false) (hc : Text.charColumns c ≠ 0)
    (hb : String.utf8EncodeChar c = [b]) (t : Text) : (s.line (c :: t)).head? = some b := by
  have hwidth : 3 ≤ s.width := Nat.le_trans (by decide) s.eighty_le
  obtain ⟨u, hu⟩ := Console.wrapped_cons hwidth hkept hblank hc t
  simp [line, hu, Utf8.encode, hb]

end Screen

end CheckedText
