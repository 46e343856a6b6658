import CheckedText.Proofs.Layout

/-!
# The fewest lines

A line takes groups as long as they fit, so a line that is too long is a single group. Among all
ways to lay the groups out this gives the fewest lines: a shorter line under way never leads to more
lines, and whatever the line under way is, one line more is always enough.
-/

namespace CheckedText.Grouping

/-! What the groups of a text are. -/

section Groups

variable {separator : Text}

theorem prefix_intercalate (g : Text) (gs : List Text) : g <+: separator.intercalate (g :: gs) := by
  cases gs <;> simp

theorem intercalate_splitOn (hne : separator ≠ []) (t : Text) :
    splitOn separator t ≠ [] ∧ separator.intercalate (splitOn separator t) = t := by
  fun_induction splitOn separator t with
  | case1 => simp
  | case2 c rest hprefix ih =>
    refine ⟨List.cons_ne_nil _ _, ?_⟩
    rw [List.intercalate_cons_of_ne_nil ih.1, ih.2, List.nil_append,
      append_drop_of_isPrefixOf hne hprefix]
  | case3 c rest hprefix hnil ih => exact absurd hnil ih.1
  | case4 c rest hprefix g gs hcons ih =>
    rw [hcons] at ih
    refine ⟨List.cons_ne_nil _ _, ?_⟩
    rw [List.intercalate_cons_cons_left, ih.2]

theorem not_isInfix_of_mem_splitOn (hne : separator ≠ []) {t g : Text}
    (hg : g ∈ splitOn separator t) : ¬ separator <:+: g := by
  fun_induction splitOn separator t generalizing g with
  | case1 => simp_all
  | case2 c rest hprefix ih =>
    rcases List.mem_cons.mp hg with rfl | hg
    · simpa using hne
    · exact ih hg
  | case3 c rest hprefix hnil ih => exact absurd hnil (intercalate_splitOn hne rest).1
  | case4 c rest hprefix first gs hcons ih =>
    rw [hcons] at ih
    rcases List.mem_cons.mp hg with rfl | hg
    · rw [List.infix_cons_iff, not_or]
      refine ⟨fun hfirst => hprefix ?_, ih List.mem_cons_self⟩
      -- what stands in front of the first separator stands in front of the rest
      have hrest : first <+: rest := by
        rw [← (intercalate_splitOn hne rest).2, hcons]
        exact prefix_intercalate first gs
      rw [List.isPrefixOf_iff_prefix]
      exact hfirst.trans (List.cons_prefix_cons.mpr ⟨rfl, hrest⟩)
    · exact ih (List.mem_cons_of_mem first hg)

theorem intercalate_groups (separator t : Text) :
    separator.intercalate (groups separator t) = t := by
  by_cases hne : separator = []
  · simp [groups, hne]
  · rw [groups, if_neg hne]
    exact (intercalate_splitOn hne t).2

theorem not_isInfix_of_mem_groups (hne : separator ≠ []) {t g : Text}
    (hg : g ∈ groups separator t) : ¬ separator <:+: g := by
  rw [groups, if_neg hne] at hg
  exact not_isInfix_of_mem_splitOn hne hg

end Groups

/-- Groups that may share a line: at least one, and if they are more the line is within the
limit. -/
def Admits (separator : Text) (limit : Int) (run : List Text) : Prop :=
  run ≠ [] ∧ ((separator.intercalate run).length ≤ limit ∨ run.length = 1)

structure IsLayout (separator : Text) (limit : Int) (gs : List Text) (runs : List (List Text)) :
    Prop where
  flatten : runs.flatten = gs
  admits : ∀ run ∈ runs, Admits separator limit run

variable {separator : Text} {limit : Int}

theorem length_le_or_mem_of_mem_fill {current line : Text} {gs all : List Text}
    (hcurrent : current = [] ∨ current.length ≤ limit ∨ current ∈ all) (hgs : ∀ g ∈ gs, g ∈ all)
    (hline : line ∈ fill separator limit current gs) : line.length ≤ limit ∨ line ∈ all := by
  fun_induction fill separator limit current gs with
  | case1 => simp at hline
  | case2 current hne =>
    rw [List.mem_singleton.mp hline]
    exact hcurrent.resolve_left hne
  | case3 g gs ih =>
    rw [List.forall_mem_cons] at hgs
    exact ih (.inr (.inr hgs.1)) hgs.2 hline
  | case4 current g gs hne extended hlong ih =>
    rw [List.forall_mem_cons] at hgs
    rcases List.mem_cons.mp hline with rfl | hline
    · exact hcurrent.resolve_left hne
    · exact ih (.inr (.inr hgs.1)) hgs.2 hline
  | case5 current g gs hne extended hfits ih =>
    rw [List.forall_mem_cons] at hgs
    exact ih (.inr (.inl (Int.not_lt.mp hfits))) hgs.2 hline

section Count

variable {x y g : Text} {gs : List Text}

theorem fill_nil (hx : x ≠ []) : fill separator limit x [] = [x] := by
  rw [fill, if_neg hx]

theorem fill_of_long (hx : x ≠ []) (hlong : limit < (x ++ separator ++ g).length) :
    fill separator limit x (g :: gs) = x :: fill separator limit g gs := by
  rw [fill, if_neg hx, if_pos hlong]

theorem fill_of_fits (hx : x ≠ []) (hfits : (x ++ separator ++ g).length ≤ limit) :
    fill separator limit x (g :: gs) = fill separator limit (x ++ separator ++ g) gs := by
  rw [fill, if_neg hx, if_neg (Int.not_lt.mpr hfits)]

/-- A shorter line under way leads to no more lines than a longer one, and any two lead to numbers
of lines that differ by one at most. -/
theorem length_fill_le (hgs : ∀ g ∈ gs, g ≠ []) (hx : x ≠ []) (hy : y ≠ []) :
    (x.length ≤ y.length →
      (fill separator limit x gs).length ≤ (fill separator limit y gs).length) ∧
    (fill separator limit x gs).length ≤ (fill separator limit y gs).length + 1 := by
  induction gs generalizing x y with
  | nil => simp [fill_nil hx, fill_nil hy]
  | cons g gs ih =>
    rw [List.forall_mem_cons] at hgs
    obtain ⟨hg, hgs⟩ := hgs
    have hext {z : Text} (hz : z ≠ []) : z ++ separator ++ g ≠ [] := by simp [hz]
    by_cases hxlong : limit < (x ++ separator ++ g).length <;>
      by_cases hylong : limit < (y ++ separator ++ g).length
    · rw [fill_of_long hx hxlong, fill_of_long hy hylong]
      simp
    · -- `x` is finished and `g` starts anew, which is no longer than what `y` has become
      rw [fill_of_long hx hxlong, fill_of_fits hy (Int.not_lt.mp hylong)]
      have hshort := (ih hgs hg (hext hy)).1 (by simp only [List.length_append]; omega)
      simp only [List.length_append, List.length_cons] at hxlong hylong ⊢
      exact ⟨fun h => by omega, by omega⟩
    · rw [fill_of_fits hx (Int.not_lt.mp hxlong), fill_of_long hy hylong]
      have hone := (ih hgs (hext hx) hg).2
      simp only [List.length_cons]
      exact ⟨fun _ => hone, by omega⟩
    · rw [fill_of_fits hx (Int.not_lt.mp hxlong), fill_of_fits hy (Int.not_lt.mp hylong)]
      have hboth := ih hgs (hext hx) (hext hy)
      exact ⟨fun h => hboth.1 (by simpa using h), hboth.2⟩

theorem fill_append {run rest : List Text} (hx : x ≠ [])
    (hfits : run = [] ∨ (separator.intercalate (x :: run)).length ≤ limit) :
    fill separator limit x (run ++ rest) =
      fill separator limit (separator.intercalate (x :: run)) rest := by
  induction run generalizing x with
  | nil => simp
  | cons g run ih =>
    have hjoin : separator.intercalate (x :: g :: run) =
        separator.intercalate ((x ++ separator ++ g) :: run) := by
      cases run <;> simp
    replace hfits := hfits.resolve_left (List.cons_ne_nil g run)
    rw [hjoin] at hfits ⊢
    rw [List.cons_append, fill_of_fits hx, ih (by simp [hx]) (.inr hfits)]
    cases run with
    | nil => simpa using hfits
    | cons g' run =>
      simp only [List.intercalate_cons_cons, List.length_append] at hfits ⊢
      omega

theorem intercalate_ne_nil (hg : g ≠ []) : separator.intercalate (g :: gs) ≠ [] := by
  cases gs <;> simp [hg]

theorem fill_run {run rest : List Text} (hg : g ≠ []) (hrun : Admits separator limit (g :: run)) :
    fill separator limit g (run ++ rest) =
      fill separator limit (separator.intercalate (g :: run)) rest := by
  apply fill_append hg
  rcases hrun.2 with hfits | hone
  · exact .inr hfits
  · exact .inl (List.length_eq_zero_iff.mp (Nat.succ.inj hone))

theorem length_fill_cons_le (hgs : ∀ h ∈ g :: gs, h ≠ []) (hx : x ≠ []) :
    (fill separator limit x (g :: gs)).length ≤ (fill separator limit g gs).length + 1 := by
  rw [List.forall_mem_cons] at hgs
  by_cases hlong : limit < (x ++ separator ++ g).length
  · rw [fill_of_long hx hlong]
    exact Nat.le_refl _
  · rw [fill_of_fits hx (Int.not_lt.mp hlong)]
    exact (length_fill_le hgs.2 (by simp [hx]) hgs.1).2

theorem length_fill_flatten_le {runs : List (List Text)} (hx : x ≠ [])
    (hgs : ∀ g ∈ runs.flatten, g ≠ []) (hruns : ∀ run ∈ runs, Admits separator limit run) :
    (fill separator limit x runs.flatten).length ≤ runs.length + 1 := by
  induction runs generalizing x with
  | nil => simp [fill_nil hx]
  | cons run rest ih =>
    rw [List.forall_mem_cons] at hruns
    obtain ⟨hrun, hrest⟩ := hruns
    obtain ⟨g, run, rfl⟩ := List.exists_cons_of_ne_nil hrun.1
    rw [List.flatten_cons, List.cons_append] at hgs ⊢
    have hg : g ≠ [] := hgs g List.mem_cons_self
    have hline : separator.intercalate (g :: run) ≠ [] := intercalate_ne_nil hg
    have hlast := ih hline (fun h hh => hgs h (by simp [hh])) hrest
    calc (fill separator limit x (g :: (run ++ rest.flatten))).length
        ≤ (fill separator limit g (run ++ rest.flatten)).length + 1 := length_fill_cons_le hgs hx
      _ = (fill separator limit (separator.intercalate (g :: run)) rest.flatten).length + 1 := by
        rw [fill_run hg hrun]
      _ ≤ rest.length + 1 + 1 := Nat.succ_le_succ hlast

theorem length_fill_le_of_isLayout {runs : List (List Text)} (hgs : ∀ g ∈ gs, g ≠ [])
    (hlayout : IsLayout separator limit gs runs) :
    (fill separator limit [] gs).length ≤ runs.length := by
  obtain ⟨rfl, hruns⟩ := hlayout
  cases runs with
  | nil => simp [fill]
  | cons run rest =>
    rw [List.forall_mem_cons] at hruns
    obtain ⟨g, run, rfl⟩ := List.exists_cons_of_ne_nil hruns.1.1
    rw [List.flatten_cons, List.cons_append] at hgs ⊢
    have hg : g ≠ [] := hgs g List.mem_cons_self
    rw [fill, if_pos rfl, fill_run hg hruns.1]
    exact length_fill_flatten_le (intercalate_ne_nil hg) (fun h hh => hgs h (by simp [hh])) hruns.2

end Count

theorem intercalate_append {run rest : List Text} (hrun : run ≠ []) (hrest : rest ≠ []) :
    separator.intercalate (run ++ rest) =
      separator.intercalate run ++ separator ++ separator.intercalate rest := by
  induction run with
  | nil => exact absurd rfl hrun
  | cons g run ih =>
    cases run with
    | nil => simp [List.intercalate_cons_of_ne_nil hrest]
    | cons g' run =>
      have hmore := ih (List.cons_ne_nil g' run)
      simp only [List.cons_append] at hmore ⊢
      simp only [List.intercalate_cons_cons, hmore, List.append_assoc]

theorem intercalate_concat {run : List Text} (hrun : run ≠ []) (g : Text) :
    separator.intercalate (run ++ [g]) = separator.intercalate run ++ separator ++ g := by
  rw [intercalate_append hrun (List.cons_ne_nil g []), List.intercalate_singleton]

theorem exists_isLayout_fill {run gs : List Text} (hne : ∀ g ∈ run ++ gs, g ≠ [])
    (hrun : Admits separator limit run) :
    ∃ runs, IsLayout separator limit (run ++ gs) runs ∧
      fill separator limit (separator.intercalate run) gs = runs.map separator.intercalate := by
  have hline : separator.intercalate run ≠ [] := by
    obtain ⟨g, run, rfl⟩ := List.exists_cons_of_ne_nil hrun.1
    exact intercalate_ne_nil (hne g (by simp))
  induction gs generalizing run with
  | nil => exact ⟨[run], ⟨by simp, by simpa using hrun⟩, by simp [fill_nil hline]⟩
  | cons g gs ih =>
    by_cases hlong : limit < (separator.intercalate run ++ separator ++ g).length
    · obtain ⟨runs, hlayout, hlines⟩ : ∃ runs, IsLayout separator limit ([g] ++ gs) runs ∧ _ :=
        ih (fun h hh => hne h (List.mem_append_right run hh)) ⟨by simp, .inr rfl⟩
          (by simpa using hne g (by simp))
      refine ⟨run :: runs, ⟨?_, ?_⟩, ?_⟩
      · rw [List.flatten_cons, hlayout.flatten, List.singleton_append]
      · exact List.forall_mem_cons.mpr ⟨hrun, hlayout.admits⟩
      · rw [List.intercalate_singleton] at hlines
        rw [fill_of_long hline hlong, hlines, List.map_cons]
    · have hfits := Int.not_lt.mp hlong
      rw [fill_of_fits hline hfits, ← intercalate_concat hrun.1]
      rw [← intercalate_concat hrun.1] at hfits
      rw [← List.singleton_append, ← List.append_assoc] at hne ⊢
      refine ih hne ⟨by simp, .inl hfits⟩ ?_
      simp [intercalate_concat hrun.1, hline]

theorem exists_isLayout_fill_nil {gs : List Text} (hne : ∀ g ∈ gs, g ≠ []) :
    ∃ runs, IsLayout separator limit gs runs ∧
      fill separator limit [] gs = runs.map separator.intercalate := by
  cases gs with
  | nil => exact ⟨[], ⟨rfl, by simp⟩, by simp [fill]⟩
  | cons g gs =>
    rw [fill, if_pos rfl, ← List.singleton_append]
    have hlines : ∃ runs, IsLayout separator limit ([g] ++ gs) runs ∧ _ :=
      exists_isLayout_fill hne ⟨by simp, .inr rfl⟩
    rwa [List.intercalate_singleton] at hlines

/-- The lines of a text are within the limit or single groups, and as few as any layout needs. -/
theorem wrap_fewest_lines (separator t : Text) {limit : Int} (hlimit : 0 < limit) :
    separator.intercalate (groups separator t) = t ∧
    (separator ≠ [] → ∀ g ∈ groups separator t, ¬ separator <:+: g) ∧
    ∃ ls, wrap separator limit t = .ok ls ∧
      (∀ line ∈ ls, line.length ≤ limit ∨ line ∈ groups separator t) ∧
      ((∀ g ∈ groups separator t, g ≠ []) →
        (∃ runs, IsLayout separator limit (groups separator t) runs ∧
          ls = runs.map separator.intercalate) ∧
        ∀ runs, IsLayout separator limit (groups separator t) runs → ls.length ≤ runs.length) := by
  refine ⟨intercalate_groups separator t, fun hne g hg => not_isInfix_of_mem_groups hne hg, ?_⟩
  rw [wrap, if_neg (Int.not_le.mpr hlimit)]
  by_cases ht : t = []
  · refine ⟨[], if_pos ht, by simp, fun hgs => ?_⟩
    have hempty : [] ∈ groups separator t := by
      rw [ht, groups, splitOn]
      simp
    exact absurd rfl (hgs [] hempty)
  · refine ⟨_, if_neg ht, fun line hline => ?_, fun hgs => ⟨exists_isLayout_fill_nil hgs,
      fun runs => length_fill_le_of_isLayout hgs⟩⟩
    exact length_le_or_mem_of_mem_fill (.inl rfl) (fun g hg => hg) hline

theorem wrap_fewest_lines_long_group :
    wrap ['-'] 5 "ab-cdefgh-k-l-m".toList =
      .ok ["ab".toList, "cdefgh".toList, "k-l-m".toList] ∧
    ∀ runs, IsLayout ['-'] 5 ["ab".toList, "cdefgh".toList, ['k'], ['l'], ['m']] runs →
      3 ≤ runs.length := by
  have hgroups : groups ['-'] "ab-cdefgh-k-l-m".toList =
      ["ab".toList, "cdefgh".toList, ['k'], ['l'], ['m']] := by decide +kernel
  have hlines : wrap ['-'] 5 "ab-cdefgh-k-l-m".toList =
      .ok ["ab".toList, "cdefgh".toList, "k-l-m".toList] :=
    Except.toOption_eq_some_iff.mp (by decide +kernel)
  obtain ⟨-, -, ls, hls, -, hfewest⟩ :=
    wrap_fewest_lines ['-'] "ab-cdefgh-k-l-m".toList (by decide : (0 : Int) < 5)
  rw [hlines] at hls
  cases hls
  rw [hgroups] at hfewest
  exact ⟨hlines, (hfewest (by simp)).2⟩

end CheckedText.Grouping
