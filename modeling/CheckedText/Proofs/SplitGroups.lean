import CheckedText.Proofs.EncodedText
import CheckedText.Proofs.FewestLines
import Mathlib.Algebra.Order.Floor.Div

/-!
# Which groups a text is split into

A text is split at the first separator, then at the first one behind it, and so on. A separator may
overlap itself, so it is not enough that no group has one inside: none may begin in a group and end
in the separator that follows. Groups with these two properties are found again when they are
joined, and so is every run of them. The groups of a text of symbols have both.
-/

namespace CheckedText

namespace Base32

theorem exists_letter_of_isSymbol {c : Char} (h : isSymbol c = true) :
    ∃ (lowercase : Bool) (v : Symbol), v.letter lowercase = c := by
  rcases isSymbol_iff_mem.mp h with hc | hc
  · obtain ⟨v, rfl⟩ := exists_char_of_mem hc
    exact ⟨false, v, rfl⟩
  · obtain ⟨d, hd, rfl⟩ := List.mem_map.mp hc
    obtain ⟨v, rfl⟩ := exists_char_of_mem hd
    exact ⟨true, v, rfl⟩

theorem letter_ascii : ∀ (lowercase : Bool) (v : Symbol), (v.letter lowercase).toNat < 0x80 := by
  decide

theorem toLower_letter : ∀ (lowercase : Bool) (v : Symbol),
    (v.letter lowercase).toLower = v.letter true := by
  decide

theorem isSymbol_toLower {c : Char} (h : isSymbol c = true) : isSymbol c.toLower = true := by
  obtain ⟨lowercase, v, rfl⟩ := exists_letter_of_isSymbol h
  rw [toLower_letter]
  exact isSymbol_letter true v

theorem lower_symbols {x : Text} (h : ∀ c ∈ x, isSymbol c = true) :
    Text.lower x = Text.foldAscii x := by
  apply Text.lower_ascii
  intro c hc
  obtain ⟨lowercase, v, rfl⟩ := exists_letter_of_isSymbol (h c hc)
  exact letter_ascii lowercase v

theorem isSymbol_of_mem_cased {x : Text} (h : ∀ c ∈ x, isSymbol c = true) {lowercase : Bool}
    {c : Char} (hc : c ∈ if lowercase then Text.foldAscii x else x) : isSymbol c = true := by
  cases lowercase with
  | false => exact h c hc
  | true =>
    obtain ⟨d, hd, rfl⟩ := List.mem_map.mp hc
    exact isSymbol_toLower (h d hd)

end Base32

namespace Grouping

/-- In the group with a separator behind it there is no other separator. -/
def ClosedBy (separator g : Text) : Prop :=
  ∀ before after, g ++ separator = before ++ separator ++ after → after = []

variable {separator : Text}

theorem closedBy_nil (separator : Text) : ClosedBy separator [] := by
  intro before after h
  have hlength := congrArg List.length h
  simp only [List.nil_append, List.length_append] at hlength
  exact List.length_eq_zero_iff.mp (by omega)

theorem ClosedBy.tail {c : Char} {g : Text} (h : ClosedBy separator (c :: g)) :
    ClosedBy separator g := by
  intro before after hg
  apply h (c :: before) after
  simp [hg]

theorem ClosedBy.not_isPrefix {c : Char} {g : Text} (h : ClosedBy separator (c :: g))
    (rest : Text) : ¬ separator <+: c :: (g ++ separator ++ rest) := by
  intro hfront
  have hinside : separator <+: c :: (g ++ separator) := by
    apply List.prefix_of_prefix_length_le hfront
    · simp
    · simp only [List.length_cons, List.length_append]
      omega
  obtain ⟨after, hafter⟩ := hinside
  have hnil : after = [] := h [] after (by simp [hafter])
  have hlength := congrArg List.length hafter
  simp only [hnil, List.append_nil, List.length_cons, List.length_append] at hlength
  omega

theorem closedBy_cons {c : Char} {g : Text} (hg : ClosedBy separator g)
    (hfront : ¬ separator <+: c :: (g ++ separator)) : ClosedBy separator (c :: g) := by
  intro before after h
  cases before with
  | nil =>
    apply absurd _ hfront
    rw [List.cons_append] at h
    rw [h]
    simp
  | cons d before =>
    simp only [List.cons_append, List.cons.injEq] at h
    exact hg before after (by simpa using h.2)

theorem splitOn_of_not_isInfix {g : Text} (hg : ¬ separator <:+: g) :
    splitOn separator g = [g] := by
  induction g with
  | nil => rw [splitOn]
  | cons c g ih =>
    rw [List.infix_cons_iff, not_or] at hg
    have hfront : ¬ separator.isPrefixOf (c :: g) = true := by
      rw [List.isPrefixOf_iff_prefix]
      exact hg.1
    rw [splitOn, if_neg hfront, ih hg.2]

section Splitting

variable (hne : separator ≠ [])
include hne

theorem splitOn_closedBy {g : Text} (hg : ClosedBy separator g) (rest : Text) :
    splitOn separator (g ++ separator ++ rest) = g :: splitOn separator rest := by
  induction g with
  | nil =>
    obtain ⟨d, tail, rfl⟩ := List.exists_cons_of_ne_nil hne
    simp [splitOn]
  | cons c g ih =>
    have hfront : ¬ separator.isPrefixOf (c :: (g ++ separator ++ rest)) = true := by
      rw [List.isPrefixOf_iff_prefix]
      exact hg.not_isPrefix rest
    rw [List.cons_append, List.cons_append, splitOn, if_neg hfront, ih hg.tail]

theorem closedBy_of_mem_splitOn {t g : Text} (hg : g ∈ (splitOn separator t).dropLast) :
    ClosedBy separator g := by
  fun_induction splitOn separator t generalizing g with
  | case1 => simp at hg
  | case2 c rest hprefix ih =>
    rw [List.dropLast_cons_of_ne_nil (intercalate_splitOn hne _).1, List.mem_cons] at hg
    rcases hg with rfl | hg
    · exact closedBy_nil separator
    · exact ih hg
  | case3 c rest hprefix hnil ih => simp at hg
  | case4 c rest hprefix first gs hcons ih =>
    cases gs with
    | nil => simp at hg
    | cons next more =>
      rw [hcons, List.dropLast_cons_cons] at ih
      rw [List.dropLast_cons_cons, List.mem_cons] at hg
      rcases hg with rfl | hg
      · apply closedBy_cons (ih List.mem_cons_self)
        intro hfront
        apply hprefix
        -- the group and the separator behind it stand in front of the rest
        have hrest : first ++ separator <+: rest := by
          rw [← (intercalate_splitOn hne rest).2, hcons, List.intercalate_cons_cons]
          exact List.prefix_append _ _
        rw [List.isPrefixOf_iff_prefix]
        exact hfront.trans (List.cons_prefix_cons.mpr ⟨rfl, hrest⟩)
      · exact ih (List.mem_cons_of_mem first hg)

end Splitting

structure IsSplit (separator : Text) (gs : List Text) : Prop where
  ne_nil : gs ≠ []
  closed : ∀ g ∈ gs.dropLast, ClosedBy separator g
  not_isInfix : ∀ g ∈ gs, ¬ separator <:+: g

theorem isSplit_splitOn (hne : separator ≠ []) (t : Text) :
    IsSplit separator (splitOn separator t) where
  ne_nil := (intercalate_splitOn hne t).1
  closed := fun _ hg => closedBy_of_mem_splitOn hne hg
  not_isInfix := fun _ hg => not_isInfix_of_mem_splitOn hne hg

theorem IsSplit.splitOn_intercalate (hne : separator ≠ []) {gs : List Text}
    (h : IsSplit separator gs) : splitOn separator (separator.intercalate gs) = gs := by
  obtain ⟨hgs, hclosed, hnone⟩ := h
  induction gs with
  | nil => exact absurd rfl hgs
  | cons g gs ih =>
    rw [List.forall_mem_cons] at hnone
    cases gs with
    | nil => rw [List.intercalate_singleton, splitOn_of_not_isInfix hnone.1]
    | cons next more =>
      rw [List.dropLast_cons_cons, List.forall_mem_cons] at hclosed
      rw [List.intercalate_cons_cons, splitOn_closedBy hne hclosed.1,
        ih (List.cons_ne_nil next more) hclosed.2 hnone.2]

theorem groups_eq_iff (hne : separator ≠ []) {t : Text} {gs : List Text} :
    groups separator t = gs ↔ IsSplit separator gs ∧ separator.intercalate gs = t := by
  rw [groups, if_neg hne]
  constructor
  · rintro rfl
    exact ⟨isSplit_splitOn hne t, (intercalate_splitOn hne t).2⟩
  · rintro ⟨hgs, rfl⟩
    exact hgs.splitOn_intercalate hne

theorem IsSplit.of_isInfix {gs run : List Text} (h : IsSplit separator gs) (hrun : run ≠ [])
    (hrun' : run <:+: gs) : IsSplit separator run := by
  obtain ⟨before, after, rfl⟩ := hrun'
  refine ⟨hrun, fun g hg => h.closed g ?_, fun g hg => h.not_isInfix g (by simp [hg])⟩
  by_cases hafter : after = []
  · rw [hafter, List.append_nil, List.dropLast_append_of_ne_nil hrun]
    exact List.mem_append_right before hg
  · rw [List.dropLast_append_of_ne_nil hafter]
    simp [List.mem_of_mem_dropLast hg]

/-! The groups of a fixed size. -/

section Chunks

variable {size : Nat}

theorem length_chunks (hsize : 0 < size) (t : Text) :
    (chunks size t).length = t.length ⌈/⌉ size := by
  rw [Nat.ceilDiv_eq_add_pred_div]
  fun_induction chunks size t with
  | case1 => simp [Nat.div_eq_of_lt (Nat.sub_one_lt_of_lt hsize)]
  | case2 c rest ih =>
    have hlast : rest.length + 1 + size - 1 = rest.length + size := by omega
    simp only [List.length_cons, List.length_drop] at ih ⊢
    rw [ih, hlast, Nat.add_div_right _ hsize]
    by_cases hrest : rest.length < size
    · rw [Nat.div_eq_of_lt hrest, Nat.div_eq_of_lt (by omega)]
    · rw [show rest.length - (size - 1) + size - 1 = rest.length by omega]

theorem length_of_mem_chunks (hsize : 0 < size) {t g : Text} (hg : g ∈ chunks size t) :
    0 < g.length ∧ g.length ≤ size := by
  fun_induction chunks size t with
  | case1 => simp at hg
  | case2 c rest ih =>
    rcases List.mem_cons.mp hg with rfl | hg
    · simp only [List.length_take, List.length_cons]
      omega
    · exact ih hg

theorem length_of_mem_dropLast_chunks (hsize : 0 < size) {t g : Text}
    (hg : g ∈ (chunks size t).dropLast) : g.length = size := by
  fun_induction chunks size t with
  | case1 => simp at hg
  | case2 c rest ih =>
    cases hrest : rest.drop (size - 1) with
    | nil => simp [hrest, chunks] at hg
    | cons d after =>
      have hlong : size - 1 < rest.length := by
        apply Nat.lt_of_not_le
        intro hshort
        rw [List.drop_eq_nil_of_le hshort] at hrest
        cases hrest
      have hmore : chunks size (rest.drop (size - 1)) ≠ [] := by
        rw [hrest, chunks]
        exact List.cons_ne_nil _ _
      rw [List.dropLast_cons_of_ne_nil hmore, List.mem_cons] at hg
      rcases hg with rfl | hg
      · simp only [List.length_take, List.length_cons]
        omega
      · exact ih hg

theorem length_intercalate (separator : Text) (gs : List Text) :
    (separator.intercalate gs).length =
      gs.flatten.length + (gs.length - 1) * separator.length := by
  induction gs with
  | nil => simp
  | cons g gs ih =>
    cases gs with
    | nil => simp
    | cons next more =>
      simp only [List.intercalate_cons_cons, List.length_append, ih, List.flatten_cons,
        List.length_cons, Nat.add_sub_cancel, Nat.add_mul, Nat.one_mul]
      omega

end Chunks

theorem intercalate_nil_left (gs : List Text) : ([] : Text).intercalate gs = gs.flatten := by
  have hnone : ([] : Text).filter (fun _ => true) = [] := rfl
  have hall := filter_intercalate hnone gs
  rwa [List.filter_true, List.filter_true] at hall

theorem isSplit_of_disjoint (hne : separator ≠ []) {gs : List Text} (hgs : gs ≠ [])
    (hapart : ∀ g ∈ gs, ∀ c ∈ g, c ∉ separator) : IsSplit separator gs := by
  obtain ⟨d, tail, rfl⟩ := List.exists_cons_of_ne_nil hne
  refine ⟨hgs, fun g hg before after h => ?_, fun g hg hinside => ?_⟩
  · rw [List.append_assoc, List.append_eq_append_iff] at h
    rcases h with ⟨more, -, hmore⟩ | ⟨more, hg', hmore⟩
    · have hlength := congrArg List.length hmore
      simp only [List.length_append] at hlength
      exact List.length_eq_zero_iff.mp (by omega)
    · -- a separator that begins in the group has its first character there
      cases more with
      | nil => simpa using hmore
      | cons e more =>
        rw [List.cons_append, List.cons_append, List.cons.injEq] at hmore
        have hmem : e ∈ g := by simp [hg']
        exact absurd (by simp [hmore.1]) (hapart g (List.mem_of_mem_dropLast hg) e hmem)
  · have hmem : d ∈ g := hinside.subset List.mem_cons_self
    exact hapart g hg d hmem List.mem_cons_self

theorem isSplit_chunks {size : Nat} (hsize : 0 < size) (hne : separator ≠ []) {t : Text}
    (ht : t ≠ []) (hapart : ∀ c ∈ t, c ∉ separator) : IsSplit separator (chunks size t) := by
  have hflatten := flatten_chunks hsize t
  apply isSplit_of_disjoint hne
  · intro hnil
    rw [hnil, List.flatten_nil] at hflatten
    exact ht hflatten.symm
  · intro g hg c hc
    apply hapart
    rw [← hflatten]
    exact List.mem_flatten.mpr ⟨g, hg, hc⟩

/-- A text of symbols that was cut into groups is found again by splitting: the groups have the
size that was asked for, but for the last one, and together they are the text. -/
theorem groups_of_group {x separator : Text} {size : Int} (hx : x ≠ [])
    (hsymbols : ∀ c ∈ x, c ∈ Base32.alphabet ∨ c ∈ Base32.alphabet.map Char.toLower)
    (hsize : 0 < size)
    (hsep : ∀ c ∈ separator, c ∉ Base32.alphabet ∧ c ∉ Base32.alphabet.map Char.toLower)
    (lowercase : Bool) :
    ∃ t, group size separator lowercase x = .ok t ∧
      (separator ≠ [] →
        (∀ g ∈ (groups separator t).dropLast, g.length = size) ∧
        (∃ last, (groups separator t).getLast? = some last ∧
          1 ≤ last.length ∧ last.length ≤ size) ∧
        (groups separator t).flatten = if lowercase then Text.foldAscii x else x) ∧
      t.length = x.length + (x.length ⌈/⌉ size.toNat - 1) * separator.length ∧
      (separator = [] → t = if lowercase then Text.foldAscii x else x) := by
  have hletters : ∀ c ∈ x, Base32.isSymbol c = true := fun c hc =>
    Base32.isSymbol_iff_mem.mpr (hsymbols c hc)
  have hothers : ∀ c ∈ separator, Base32.isSymbol c = false := fun c hc =>
    Base32.isSymbol_eq_false_iff.mpr (hsep c hc)
  have hpos : 0 < size.toNat := by omega
  rw [group_eq hsize hothers, Base32.lower_symbols hletters]
  generalize hcased : (if lowercase then Text.foldAscii x else x) = cased
  have hlength : cased.length = x.length := by
    rw [← hcased]
    split <;> simp [Text.foldAscii]
  have hcased' : cased ≠ [] := by
    intro hnil
    rw [hnil, List.length_nil, eq_comm, List.length_eq_zero_iff] at hlength
    exact hx hlength
  have hflatten := flatten_chunks hpos cased
  refine ⟨_, rfl, fun hne => ?_, ?_, ?_⟩
  · have hsplit : IsSplit separator (chunks size.toNat cased) := by
      apply isSplit_chunks hpos hne hcased'
      intro c hc hmem
      have hletter := Base32.isSymbol_of_mem_cased hletters (hcased ▸ hc)
      simp [hothers c hmem] at hletter
    have hlast := length_of_mem_chunks hpos (List.getLast_mem hsplit.ne_nil)
    rw [(groups_eq_iff hne).mpr ⟨hsplit, rfl⟩]
    refine ⟨fun g hg => ?_,
      ⟨_, List.getLast?_eq_some_getLast hsplit.ne_nil, hlast.1, by omega⟩, hflatten⟩
    rw [length_of_mem_dropLast_chunks hpos hg]
    exact Int.toNat_of_nonneg (Int.le_of_lt hsize)
  · rw [length_intercalate, hflatten, length_chunks hpos, hlength]
  · rintro rfl
    rw [intercalate_nil_left, hflatten]

theorem groups_of_group_dashes :
    ∃ t, group 2 "--".toList true "MZXW6".toList = .ok t ∧
      (∀ g ∈ (groups "--".toList t).dropLast, g.length = 2) ∧
      (groups "--".toList t).flatten = "mzxw6".toList ∧ t.length = 9 := by
  have hall : "MZXW6".toList.all Base32.isSymbol = true := by decide
  have hsymbols : ∀ c ∈ "MZXW6".toList,
      c ∈ Base32.alphabet ∨ c ∈ Base32.alphabet.map Char.toLower := fun c hc =>
    Base32.isSymbol_iff_mem.mp (List.all_eq_true.mp hall c hc)
  have hsep : ∀ c ∈ "--".toList,
      c ∉ Base32.alphabet ∧ c ∉ Base32.alphabet.map Char.toLower :=
    List.forall_mem_cons.mpr ⟨by decide, List.forall_mem_singleton.mpr (by decide)⟩
  obtain ⟨t, ht, hsplit, hlength, -⟩ :=
    groups_of_group (by decide) hsymbols (by decide : (0 : Int) < 2) hsep true
  obtain ⟨hsizes, -, hflatten⟩ := hsplit (by decide)
  exact ⟨t, ht, fun g hg => by exact_mod_cast hsizes g hg, hflatten, hlength⟩

end Grouping

end CheckedText
