import Mathlib.Data.List.Infix
import CheckedText.Console.Screen
import CheckedText.Proofs.Except

/-!
# Texts that can be rendered

Rendering fails only at a closing tag, or at a tag that names a colour badly, so a text without
brackets can stand between two tags that match. Backslashes at its end can make the closing tag
plain text, which is why all numbers of backslashes are considered. A bracket that starts no tag and
has no backslash in front is shown like any other character, and so is a colon unless another one
follows before any blank.
-/

namespace CheckedText.Markup

variable {complaint? picture? : Text → Option Text} {opened : List Opened} {t rest tag : Text}
  {c : Char} {slashes : Nat}

/-- No bracket starts a tag or has a backslash in front. -/
def IsPlain (t : Text) : Prop :=
  ∀ before after, t = before ++ '[' :: after → tag? after = none ∧ before.getLast? ≠ some '\\'

theorem isPlain_of_not_mem (h : '[' ∉ t) : IsPlain t := by
  rintro before after rfl
  simp at h

theorem isPlain_cons_iff : IsPlain (c :: t) ↔
    IsPlain t ∧ (c = '[' → tag? t = none) ∧ (c = '\\' → t.head? ≠ some '[') := by
  constructor
  · intro h
    refine ⟨?_, ?_, ?_⟩
    · rintro before after rfl
      obtain ⟨htag, hlast⟩ := h (c :: before) after rfl
      refine ⟨htag, ?_⟩
      cases before with
      | nil => nofun
      | cons d before => rwa [List.getLast?_cons_cons] at hlast
    · rintro rfl
      exact (h [] t rfl).1
    · rintro rfl hhead
      obtain ⟨after, rfl⟩ := List.head?_eq_some_iff.mp hhead
      exact (h ['\\'] after rfl).2 rfl
  · rintro ⟨ht, hbracket, hslash⟩ before after happend
    cases before with
    | nil =>
      obtain ⟨hc, rfl⟩ := List.cons.inj happend
      exact ⟨hbracket hc, nofun⟩
    | cons d before =>
      obtain ⟨rfl, rfl⟩ := List.cons.inj happend
      obtain ⟨htag, hlast⟩ := ht before after rfl
      refine ⟨htag, ?_⟩
      cases before with
      | nil =>
        rintro hd
        exact hslash (Option.some.inj hd) rfl
      | cons e before => rwa [List.getLast?_cons_cons]

theorem tag?_cons_eq_none (h : startsTag c = false) (rest : Text) : tag? (c :: rest) = none := by
  simp only [tag?, List.takeWhile_cons]
  split
  · simp [h]
  · rfl

theorem isPlain_bracket (before : Text) (hbefore : '[' ∉ before)
    (hlast : before.getLast? ≠ some '\\') (hstart : startsTag c = false) (hrest : '[' ∉ c :: rest) :
    IsPlain (before ++ '[' :: c :: rest) := by
  induction before with
  | nil =>
    refine isPlain_cons_iff.mpr ⟨isPlain_of_not_mem hrest, fun _ => tag?_cons_eq_none hstart rest,
      fun he => absurd he (by decide)⟩
  | cons d before ih =>
    rw [List.mem_cons, not_or] at hbefore
    refine isPlain_cons_iff.mpr ⟨ih hbefore.2 ?_, fun he => absurd he.symm hbefore.1, ?_⟩
    · cases before with
      | nil => nofun
      | cons e before => rwa [List.getLast?_cons_cons] at hlast
    · rintro rfl
      cases before with
      | nil => exact absurd rfl hlast
      | cons e before =>
        intro hhead
        exact hbefore.2 (Option.some.inj hhead ▸ List.mem_cons_self)

theorem lead_append (a b : Text) (pieces : List Text) :
    lead (a ++ b) pieces = lead a (lead b pieces) := by
  cases pieces with
  | nil => rfl
  | cons piece pieces => simp [lead]

theorem renderFrom_of_isPlain (h : IsPlain t) (hslashes : slashes = 0 ∨ t.head? ≠ some '[')
    (position : Nat) :
    renderFrom complaint? position slashes opened t = .ok [backslashes slashes ++ t] := by
  induction t generalizing position slashes with
  | nil => rw [renderFrom, List.append_nil]
  | cons c t ih =>
    obtain ⟨ht, hbracket, hslash⟩ := isPlain_cons_iff.mp h
    rw [renderFrom]
    by_cases hc : c = '\\'
    · rw [if_pos hc, ih ht (.inr (hslash hc)), backslashes, List.replicate_succ',
        List.append_assoc, hc]
      rfl
    · rw [if_neg hc, ih ht (.inl rfl)]
      by_cases hc' : c = '['
      · obtain rfl : slashes = 0 := hslashes.resolve_right (by simp [hc'])
        rw [if_pos hc', hbracket hc', hc']
        rfl
      · rw [if_neg hc']
        change Except.ok [backslashes slashes ++ [c] ++ t] = _
        rw [List.append_assoc]
        rfl

theorem renderFrom_of_not_mem (ht : '[' ∉ t) (position slashes : Nat) :
    renderFrom complaint? position slashes opened t = .ok [backslashes slashes ++ t] := by
  refine renderFrom_of_isPlain (isPlain_of_not_mem ht) (.inr fun hhead => ?_) position
  exact ht (List.mem_of_head? hhead)

theorem renderFrom_append_cons (ht : '[' ∉ t) (hbracket : c ≠ '[') (hslash : c ≠ '\\')
    (position slashes : Nat) :
    renderFrom complaint? position slashes opened (t ++ c :: rest) =
      (renderFrom complaint? (position + t.length + 1) 0 opened rest).map
        (lead (backslashes slashes ++ t ++ [c])) := by
  induction t generalizing position slashes with
  | nil =>
    rw [List.nil_append, renderFrom, if_neg hslash, if_neg hbracket, List.append_nil]
    rfl
  | cons d t ih =>
    have hrest := ih fun hmem => ht (List.mem_cons_of_mem d hmem)
    have hd : d ≠ '[' := fun hd => ht (hd ▸ List.mem_cons_self)
    have hposition : position + (d :: t).length + 1 = position + 1 + t.length + 1 := by
      rw [List.length_cons]
      omega
    rw [List.cons_append, renderFrom, hposition]
    by_cases hdslash : d = '\\'
    · rw [if_pos hdslash, hrest, backslashes, List.replicate_succ', hdslash]
      simp only [backslashes, List.append_assoc, List.cons_append, List.nil_append]
    · rw [if_neg hdslash, if_neg hd, hrest]
      have hlead : backslashes slashes ++ d :: t ++ [c] =
          backslashes slashes ++ [d] ++ (backslashes 0 ++ t ++ [c]) := by simp [backslashes]
      rw [hlead]
      cases renderFrom complaint? (position + 1 + t.length + 1) 0 opened rest with
      | error e => rfl
      | ok pieces => exact congrArg Except.ok (lead_append _ _ pieces).symm

structure IsTag (tag : Text) : Prop where
  starts : (tag.head?.map startsTag).getD false = true
  not_open : '[' ∉ tag
  not_close : ']' ∉ tag

theorem IsTag.tag?_append (h : IsTag tag) (rest : Text) : tag? (tag ++ ']' :: rest) = some tag := by
  have hbody : (tag ++ ']' :: rest).takeWhile (fun c => c ≠ '[' && c ≠ ']') = tag := by
    have hplain : ∀ c ∈ tag, (c ≠ '[' && c ≠ ']') = true := by
      intro c hc
      have hopen : c ≠ '[' := fun he => h.not_open (he ▸ hc)
      have hclose : c ≠ ']' := fun he => h.not_close (he ▸ hc)
      simp [hopen, hclose]
    rw [List.takeWhile_append_of_pos hplain]
    simp
  rw [tag?, hbody, List.drop_left, h.starts]
  rfl

theorem renderFrom_tag (h : IsTag tag) (position slashes : Nat) (rest : Text) :
    renderFrom complaint? position slashes opened ('[' :: (tag ++ ']' :: rest)) =
      if slashes % 2 = 1 then do
        let pieces ← renderFrom complaint? (position + tag.length + 2) 0 opened rest
        return [] :: backslashes (slashes / 2) :: ('[' :: tag ++ [']']) :: pieces
      else do
        let pieces ← renderFrom complaint? (position + tag.length + 2) 0
          (← enter complaint? position opened tag) rest
        return [] :: backslashes (slashes / 2) :: pieces := by
  have hafter : (tag ++ ']' :: rest).drop (tag.length + 1) = rest := by simp
  rw [renderFrom, if_neg (by decide), if_pos rfl]
  simp only [h.tag?_append, hafter]

theorem renderFrom_entered {position : Nat} {after : List Opened} (h : IsTag tag)
    (henter : enter complaint? position opened tag = .ok after) (rest : Text) :
    renderFrom complaint? position 0 opened ('[' :: (tag ++ ']' :: rest)) =
      (renderFrom complaint? (position + tag.length + 2) 0 after rest).map ([] :: [] :: ·) := by
  rw [renderFrom_tag h, if_neg (by decide), henter]
  change (renderFrom complaint? (position + tag.length + 2) 0 after rest >>= _) = _
  cases renderFrom complaint? (position + tag.length + 2) 0 after rest with
  | error e => rfl
  | ok pieces => rfl

def Renders (complaint? : Text → Option Text) (opened : List Opened) (t : Text) : Prop :=
  ∀ position slashes, ∃ pieces, renderFrom complaint? position slashes opened t = .ok pieces

theorem renders_of_not_mem (ht : '[' ∉ t) : Renders complaint? opened t :=
  fun position slashes => ⟨_, renderFrom_of_not_mem ht position slashes⟩

theorem Renders.append (ht : '[' ∉ t) (hrest : Renders complaint? opened rest) :
    Renders complaint? opened (t ++ rest) := by
  induction t with
  | nil => exact hrest
  | cons c t ih =>
    intro position slashes
    have hrenders := ih fun hmem => ht (List.mem_cons_of_mem c hmem)
    have hbracket : c ≠ '[' := fun hc => ht (hc ▸ List.mem_cons_self)
    rw [List.cons_append, renderFrom]
    by_cases hslash : c = '\\'
    · rw [if_pos hslash]
      exact hrenders (position + 1) (slashes + 1)
    · obtain ⟨pieces, hpieces⟩ := hrenders (position + 1) 0
      rw [if_neg hslash, if_neg hbracket, hpieces]
      exact ⟨_, rfl⟩

theorem renders_tag (h : IsTag tag) (hplain : Renders complaint? opened rest)
    (henter : ∀ position, ∃ after, enter complaint? position opened tag = .ok after ∧
      Renders complaint? after rest) :
    Renders complaint? opened ('[' :: (tag ++ ']' :: rest)) := by
  intro position slashes
  rw [renderFrom_tag h]
  split
  case isTrue =>
    obtain ⟨pieces, hpieces⟩ := hplain (position + tag.length + 2) 0
    exact ⟨_, Except.bind_eq_ok_iff.mpr ⟨pieces, hpieces, rfl⟩⟩
  case isFalse =>
    obtain ⟨after, hafter, hrest⟩ := henter position
    obtain ⟨pieces, hpieces⟩ := hrest (position + tag.length + 2) 0
    exact ⟨_, Except.bind_eq_ok_iff.mpr ⟨after, hafter,
      Except.bind_eq_ok_iff.mpr ⟨pieces, hpieces, rfl⟩⟩⟩

theorem render_dim (ht : '[' ∉ t) :
    ∃ shown, render picture? complaint? ("[dim]".toList ++ t ++ "[/dim]".toList) = .ok shown := by
  have hopen : IsTag "dim".toList := ⟨by decide, by decide, by decide⟩
  have hclose : IsTag "/dim".toList := ⟨by decide, by decide, by decide⟩
  have hclosed : Renders complaint? [⟨"dim".toList, none⟩] (t ++ "[/dim]".toList) :=
    (renders_tag hclose (renders_of_not_mem List.not_mem_nil) fun _ =>
      ⟨[], rfl, renders_of_not_mem List.not_mem_nil⟩).append ht
  obtain ⟨pieces, hpieces⟩ := hclosed 5 0
  have htext : "[dim]".toList ++ t ++ "[/dim]".toList =
      '[' :: ("dim".toList ++ ']' :: (t ++ "[/dim]".toList)) :=
    List.append_assoc _ t _
  have henter : enter complaint? 0 [] "dim".toList = .ok [⟨"dim".toList, none⟩] := rfl
  rw [htext, render, renderFrom_entered hopen henter]
  change ∃ shown, Except.map _ (Except.map _ (renderFrom complaint? 5 0 _ _)) = _
  rw [hpieces]
  exact ⟨_, rfl⟩

def startsName (t : Text) : Bool :=
  (t.dropWhile fun c => c ≠ ':' && !Text.isBlank c).head? = some ':'

/-- After no colon another one follows before a blank. -/
def Nameless (t : Text) : Prop :=
  ∀ u ∈ t.tails, u.head? = some ':' → startsName u.tail = false

instance (t : Text) : Decidable (Nameless t) :=
  inferInstanceAs (Decidable (∀ u ∈ t.tails, u.head? = some ':' → startsName u.tail = false))

theorem Nameless.of_suffix {u : Text} (h : Nameless t) (hu : u <:+ t) : Nameless u :=
  fun v hv => h v ((List.mem_tails v t).mpr (((List.mem_tails v u).mp hv).trans hu))

theorem nameless_cons (hc : c ≠ ':') (h : Nameless t) : Nameless (c :: t) := by
  intro u hu hhead
  rw [List.tails_cons, List.mem_cons] at hu
  rcases hu with rfl | hu
  · exact absurd (Option.some.inj hhead) hc
  · exact h u hu hhead

theorem nameless_of_count_le (h : t.count ':' ≤ 1) : Nameless t := by
  intro u hu hhead
  obtain ⟨rest, rfl⟩ := List.head?_eq_some_iff.mp hhead
  rw [List.tail_cons, ← Bool.not_eq_true]
  intro hstarts
  have hmem : ':' ∈ rest :=
    List.dropWhile_subset _ (List.mem_of_head? (of_decide_eq_true hstarts))
  have hcount := ((List.mem_tails _ t).mp hu).sublist.count_le ':'
  rw [List.count_cons_self] at hcount
  have hpos := List.count_pos_iff.mpr hmem
  omega

theorem not_nameless_colons {name : Text}
    (hname : ∀ c ∈ name, c ≠ ':' ∧ Text.isBlank c = false) :
    ¬ Nameless (':' :: (name ++ ':' :: rest)) := by
  intro h
  have hstarts := h _ ((List.mem_tails _ _).mpr (List.suffix_refl _)) rfl
  have hpassed : ∀ c ∈ name, (c ≠ ':' && !Text.isBlank c) = true := fun c hc => by
    simp [hname c hc]
  rw [List.tail_cons, startsName, List.dropWhile_append_of_pos hpassed] at hstarts
  simp at hstarts

theorem replaceFrom_of_nameless (t : Text) :
    (Nameless t → replaceFrom picture? none t = t) ∧
      ∀ name : Text, (∀ c ∈ name, c ≠ ':' ∧ Text.isBlank c = false) →
        Nameless (':' :: (name ++ t)) →
        replaceFrom picture? (some name) t = ':' :: (name ++ t) := by
  -- Names are looked for from the left, and a name under way has no blank.
  induction t with
  | nil => exact ⟨fun _ => rfl, fun name _ _ => by rw [replaceFrom, List.append_nil]⟩
  | cons c t ih =>
    constructor
    · intro h
      rw [replaceFrom]
      split
      case isTrue hc =>
        subst hc
        exact ih.2 [] nofun h
      case isFalse hc => rw [ih.1 (h.of_suffix (List.suffix_cons c t))]
    · intro name hname h
      rw [replaceFrom]
      split
      case isTrue hc =>
        subst hc
        exact absurd h (not_nameless_colons hname)
      case isFalse hc =>
        split
        case isTrue hblank =>
          have hsuffix : t <:+ ':' :: (name ++ c :: t) := ⟨':' :: (name ++ [c]), by simp⟩
          rw [ih.1 (h.of_suffix hsuffix)]
          rfl
        case isFalse hblank =>
          have hnext : name ++ c :: t = (name ++ [c]) ++ t := by simp
          rw [hnext] at h ⊢
          refine ih.2 (name ++ [c]) (fun d hd => ?_) h
          rcases List.mem_append.mp hd with hd | hd
          · exact hname d hd
          · rw [List.mem_singleton.mp hd]
            exact ⟨hc, by simpa using hblank⟩

theorem replaceNames_of_nameless (h : Nameless t) : replaceNames picture? t = t :=
  (replaceFrom_of_nameless t).1 h

theorem render_labelled (style label : Text) (hopen : IsTag style) (hclose : IsTag ('/' :: style))
    (henter : enter complaint? 0 [] style = .ok [⟨style, none⟩])
    (hleave : ∀ position, enter complaint? position [⟨style, none⟩] ('/' :: style) = .ok [])
    (hlabel : '[' ∉ label) (hname : ':' ∉ label) (message : Text) :
    render picture? complaint?
        ('[' :: (style ++ ']' :: (label ++ ':' :: '[' :: ('/' :: style ++ ']' :: message)))) =
      (renderFrom complaint? (2 * style.length + label.length + 6) 0 [] message).map fun pieces =>
        label ++ ':' :: pieces.flatMap (replaceNames picture?) := by
  have hposition : 0 + style.length + 2 + label.length + 1 + ('/' :: style).length + 2 =
      2 * style.length + label.length + 6 := by
    rw [List.length_cons]
    omega
  have hlabelled : replaceNames picture? (label ++ [':']) = label ++ [':'] := by
    refine replaceNames_of_nameless (nameless_of_count_le ?_)
    rw [List.count_append, List.count_eq_zero.mpr hname]
    decide
  rw [render, renderFrom_entered hopen henter,
    renderFrom_append_cons hlabel (by decide) (by decide), renderFrom_entered hclose (hleave _),
    hposition]
  cases renderFrom complaint? (2 * style.length + label.length + 6) 0 [] message with
  | error e => rfl
  | ok pieces =>
    have hempty : replaceNames picture? [] = [] := rfl
    refine congrArg Except.ok ?_
    simp [lead, backslashes, hlabelled, hempty]

end CheckedText.Markup

namespace CheckedText.Screen

variable {t : Text}

theorem render_of_not_mem (s : Screen) (ht : '[' ∉ t) : ∃ shown, s.render t = .ok shown := by
  rw [render, Markup.render, Markup.renderFrom_of_not_mem ht]
  exact ⟨_, rfl⟩

theorem render_dim (s : Screen) (ht : '[' ∉ t) :
    ∃ shown, s.render ("[dim]".toList ++ t ++ "[/dim]".toList) = .ok shown :=
  Markup.render_dim ht

end CheckedText.Screen
