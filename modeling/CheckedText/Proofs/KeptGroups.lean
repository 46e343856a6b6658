import CheckedText.Proofs.SplitGroups

/-!
# Groups on lines

A line is a run of neighbouring groups. Between two runs nothing is left out but empty groups: a
line that is still empty takes the next group as it is, so empty groups at its start go away. Since
a run of groups is found again by splitting, the lines hold the groups of the text, each once and
in their order.
-/

namespace CheckedText.Grouping

/-- Runs of neighbouring groups, between which only empty groups are left out. -/
inductive Cut : List Text → List (List Text) → Prop
  | nil : Cut [] []
  | skip {gs : List Text} {runs : List (List Text)} (h : Cut gs runs) : Cut ([] :: gs) runs
  | take {gs : List Text} {runs : List (List Text)} (run : List Text) (h : Cut gs runs) :
      Cut (run ++ gs) (run :: runs)

namespace Cut

variable {gs : List Text} {runs : List (List Text)}

theorem isInfix (h : Cut gs runs) {run : List Text} (hrun : run ∈ runs) : run <:+: gs := by
  induction h with
  | nil => simp at hrun
  | skip h ih => exact (ih hrun).trans (List.suffix_cons _ _).isInfix
  | take first h ih =>
    rcases List.mem_cons.mp hrun with rfl | hrun
    · exact (List.prefix_append _ _).isInfix
    · exact (ih hrun).trans (List.suffix_append _ _).isInfix

theorem filter_flatten (h : Cut gs runs) :
    runs.flatten.filter (· ≠ []) = gs.filter (· ≠ []) := by
  induction h with
  | nil => rfl
  | skip h ih => simpa using ih
  | take run h ih => rw [List.flatten_cons, List.filter_append, List.filter_append, ih]

theorem flatten_eq (h : Cut gs runs) (hgs : ∀ g ∈ gs, g ≠ []) : runs.flatten = gs := by
  induction h with
  | nil => rfl
  | skip h ih => exact absurd rfl (hgs [] List.mem_cons_self)
  | take run h ih => rw [List.flatten_cons, ih fun g hg => hgs g (List.mem_append_right run hg)]

end Cut

variable {separator : Text} {limit : Int}

def OnLines (separator : Text) (gs ls : List Text) : Prop :=
  ∃ runs, Cut gs runs ∧ runs.map separator.intercalate = ls ∧ ∀ line ∈ ls, line ≠ []

theorem onLines_nil (separator : Text) : OnLines separator [] [] :=
  ⟨[], .nil, rfl, by simp⟩

theorem OnLines.skip {gs ls : List Text} (h : OnLines separator gs ls) :
    OnLines separator ([] :: gs) ls := by
  obtain ⟨runs, hcut, hls, hlines⟩ := h
  exact ⟨runs, hcut.skip, hls, hlines⟩

theorem OnLines.take {run gs ls : List Text} (hline : separator.intercalate run ≠ [])
    (h : OnLines separator gs ls) :
    OnLines separator (run ++ gs) (separator.intercalate run :: ls) := by
  obtain ⟨runs, hcut, rfl, hlines⟩ := h
  exact ⟨run :: runs, hcut.take run, rfl, List.forall_mem_cons.mpr ⟨hline, hlines⟩⟩

theorem onLines_fill (gs : List Text) {run : List Text}
    (hrun : run = [] ∨ separator.intercalate run ≠ []) :
    OnLines separator (run ++ gs) (fill separator limit (separator.intercalate run) gs) := by
  induction gs generalizing run with
  | nil =>
    by_cases hnil : run = []
    · rw [hnil, List.intercalate_nil, fill, if_pos rfl]
      exact onLines_nil separator
    · have hline := hrun.resolve_left hnil
      rw [fill_nil hline]
      exact (onLines_nil separator).take hline
  | cons g gs ih =>
    have hstart : OnLines separator (g :: gs) (fill separator limit g gs) := by
      by_cases hg : g = []
      · rw [hg]
        exact (ih (.inl rfl)).skip
      · have hline : separator.intercalate [g] ≠ [] := by simpa using hg
        simpa using ih (.inr hline)
    by_cases hnil : run = []
    · rw [hnil, List.intercalate_nil, fill, if_pos rfl]
      exact hstart
    · have hline := hrun.resolve_left hnil
      by_cases hlong : limit < (separator.intercalate run ++ separator ++ g).length
      · rw [fill_of_long hline hlong]
        exact hstart.take hline
      · have hmore : separator.intercalate (run ++ [g]) ≠ [] := by
          simp [intercalate_concat hnil, hline]
        rw [fill_of_fits hline (Int.not_lt.mp hlong), ← intercalate_concat hnil]
        simpa using ih (.inr hmore)

theorem exists_wrap (hne : separator ≠ []) (hlimit : 0 < limit) (t : Text) :
    ∃ ls, wrap separator limit t = .ok ls ∧ OnLines separator (groups separator t) ls := by
  refine ⟨fill separator limit [] (groups separator t), ?_, onLines_fill _ (.inl rfl)⟩
  rw [wrap, if_neg (Int.not_le.mpr hlimit)]
  by_cases ht : t = []
  · rw [if_pos ht, ht, groups, if_neg hne, splitOn, fill, if_pos rfl, fill, if_pos rfl]
  · rw [if_neg ht]

theorem intercalate_map_intercalate {runs : List (List Text)} (hruns : ∀ run ∈ runs, run ≠ []) :
    separator.intercalate (runs.map separator.intercalate) =
      separator.intercalate runs.flatten := by
  induction runs with
  | nil => rfl
  | cons run runs ih =>
    rw [List.forall_mem_cons] at hruns
    cases runs with
    | nil => simp
    | cons next more =>
      have hrest : (next :: more).flatten ≠ [] := by simp [hruns.2 next List.mem_cons_self]
      rw [List.flatten_cons, intercalate_append hruns.1 hrest, ← ih hruns.2, List.map_cons,
        List.intercalate_cons_of_ne_nil (by simp)]

theorem flatMap_groups_lines (hne : separator ≠ []) {gs : List Text} {runs : List (List Text)}
    (hgs : IsSplit separator gs) (hcut : Cut gs runs) (hruns : ∀ run ∈ runs, run ≠ []) :
    (runs.map separator.intercalate).flatMap (groups separator) = runs.flatten := by
  have hline : ∀ run ∈ runs, groups separator (separator.intercalate run) = run := by
    intro run hrun
    have hrun' := hgs.of_isInfix (hruns run hrun) (hcut.isInfix hrun)
    exact (groups_eq_iff hne).mpr ⟨hrun', rfl⟩
  rw [List.flatMap_map, List.flatMap_def, List.map_congr_left hline, List.map_id']

theorem decode_lines {t : Text} {ls : List Text} (hls : wrap defaultSeparator limit t = .ok ls)
    {data : Blob} (hdata : Base32.decode t = .ok data) : Base32.decode ls.flatten = .ok data := by
  have hspelling : Base32.spelling ls.flatten = Base32.spelling t := by
    rw [Base32.spelling, filter_wrap (by decide) hls, Base32.spelling]
  rw [Base32.decode_eq_ok_iff, hspelling]
  exact Base32.decode_eq_ok_iff.mp hdata

/-- The lines of a text hold its groups, each once and in their order, and only empty groups are
lost. -/
theorem wrap_keeps_groups {separator : Text} (hne : separator ≠ []) {limit : Int}
    (hlimit : 0 < limit) (t : Text) :
    ∃ ls, wrap separator limit t = .ok ls ∧
      (ls.flatMap (groups separator)).filter (· ≠ []) =
        (groups separator t).filter (· ≠ []) ∧
      (∀ line ∈ ls, line ≠ []) ∧
      ((∀ g ∈ groups separator t, g ≠ []) → separator.intercalate ls = t) ∧
      (separator = defaultSeparator →
        ∀ data, Base32.decode t = .ok data → Base32.decode ls.flatten = .ok data) := by
  obtain ⟨ls, hwrap, runs, hcut, rfl, hlines⟩ := exists_wrap hne hlimit t
  obtain ⟨hsplit, hjoin⟩ := (groups_eq_iff hne).mp (rfl : groups separator t = _)
  have hruns : ∀ run ∈ runs, run ≠ [] := by
    rintro run hrun rfl
    exact hlines _ (List.mem_map_of_mem hrun) rfl
  refine ⟨_, hwrap, ?_, hlines, fun hgs => ?_, ?_⟩
  · rw [flatMap_groups_lines hne hsplit hcut hruns, hcut.filter_flatten]
  · rw [intercalate_map_intercalate hruns, hcut.flatten_eq hgs, hjoin]
  · rintro rfl data hdata
    exact decode_lines hwrap hdata

theorem wrap_keeps_groups_dashes :
    wrap "--".toList 4 "---a----b".toList = .ok ["-a--".toList, "b".toList] ∧
    (["-a--".toList, "b".toList].flatMap (groups "--".toList)).filter (· ≠ []) =
      (groups "--".toList "---a----b".toList).filter (· ≠ []) ∧
    ∃ ls, wrap defaultSeparator 4 "my-fa-".toList = .ok ls ∧
      Base32.decode ls.flatten = Base32.decode "my-fa-".toList := by
  have hlines : wrap "--".toList 4 "---a----b".toList = .ok ["-a--".toList, "b".toList] :=
    Except.toOption_eq_some_iff.mp (by decide +kernel)
  have hdecode : Base32.decode "my-fa-".toList = .ok [0x66, 0x0a] :=
    Except.toOption_eq_some_iff.mp (by decide +kernel)
  obtain ⟨ls, hls, hkept, -⟩ :=
    wrap_keeps_groups (by decide : "--".toList ≠ []) (by decide : (0 : Int) < 4) "---a----b".toList
  obtain ⟨ls', hls', -, -, -, hread⟩ :=
    wrap_keeps_groups (by decide : defaultSeparator ≠ []) (by decide : (0 : Int) < 4)
      "my-fa-".toList
  rw [hlines, Except.ok.injEq] at hls
  rw [← hls] at hkept
  exact ⟨hlines, hkept, ls', hls', by rw [hdecode, hread rfl _ hdecode]⟩

end CheckedText.Grouping
