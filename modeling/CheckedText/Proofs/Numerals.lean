import CheckedText.Number
import Mathlib.Data.List.Forall2
import Mathlib.Data.List.Induction
import Mathlib.Data.Nat.Digits.Defs
import Mathlib.Data.Rat.Cast.Order

/-!
# What a numeral stands for

An integer is written as an optional sign and runs of decimal digits of any script, with one
underscore between each two runs, and blanks around it. A number of 64 bits stands for a rational
number, and for an integer if that is one. Both readers give exactly these integers.
-/

namespace CheckedText

namespace Text

def Trims (t body : Text) : Prop :=
  ∃ before after, t = before ++ body ++ after ∧
    (∀ c ∈ before, isBlank c = true) ∧ (∀ c ∈ after, isBlank c = true) ∧
    (∀ c, body.head? = some c → isBlank c = false) ∧
    ∀ c, body.getLast? = some c → isBlank c = false

theorem dropWhile_eq_iff {p : Char → Bool} {t rest : Text} :
    t.dropWhile p = rest ↔ ∃ before, t = before ++ rest ∧ (∀ c ∈ before, p c = true) ∧
      ∀ c, rest.head? = some c → p c = false := by
  constructor
  · rintro rfl
    refine ⟨t.takeWhile p, List.takeWhile_append_dropWhile.symm,
      List.all_eq_true.mp List.all_takeWhile, fun c hc => ?_⟩
    have hhead := List.head?_dropWhile_not p t
    rwa [hc] at hhead
  · rintro ⟨before, rfl, hbefore, hrest⟩
    rw [List.dropWhile_append_of_pos hbefore]
    cases rest with
    | nil => rfl
    | cons c rest => rw [List.dropWhile_cons_of_neg (by simp [hrest c rfl])]

theorem strip_eq_iff {t body : Text} : strip t = body ↔ Trims t body := by
  constructor
  · intro h
    rw [strip, List.reverse_eq_iff, dropWhile_eq_iff] at h
    obtain ⟨after, hrest, hafter, hlast⟩ := h
    obtain ⟨before, ht, hbefore, hhead⟩ := dropWhile_eq_iff.mp (rfl : t.dropWhile isBlank = _)
    rw [List.reverse_eq_iff, List.reverse_append, List.reverse_reverse] at hrest
    rw [hrest] at ht hhead
    refine ⟨before, after.reverse, by rw [ht, List.append_assoc], hbefore, by simpa using hafter,
      fun c hc => hhead c (by simp [List.head?_append, hc]), fun c hc => hlast c ?_⟩
    rwa [List.head?_reverse]
  · rintro ⟨before, after, rfl, hbefore, hafter, hhead, hlast⟩
    cases body with
    | nil =>
      have hnone : (before ++ [] ++ after).dropWhile isBlank = [] := by
        rw [List.append_nil, List.dropWhile_append_of_pos hbefore]
        exact dropWhile_eq_iff.mpr ⟨after, by simp, hafter, by simp⟩
      rw [strip, hnone]
      rfl
    | cons d body =>
      have hfront : (before ++ d :: body ++ after).dropWhile isBlank = d :: body ++ after :=
        dropWhile_eq_iff.mpr ⟨before, List.append_assoc _ _ _, hbefore, hhead⟩
      have hback : (d :: body ++ after).reverse.dropWhile isBlank = (d :: body).reverse :=
        dropWhile_eq_iff.mpr ⟨after.reverse, List.reverse_append, by simpa using hafter,
          fun c hc => hlast c (by rwa [List.head?_reverse] at hc)⟩
      rw [strip, hfront, hback, List.reverse_reverse]

theorem trims_nil_iff {t : Text} : Trims t [] ↔ ∀ c ∈ t, isBlank c = true := by
  constructor
  · rintro ⟨before, after, rfl, hbefore, hafter, -⟩ c hc
    rw [List.append_nil, List.mem_append] at hc
    rcases hc with hc | hc
    · exact hbefore c hc
    · exact hafter c hc
  · intro h
    exact ⟨t, [], by simp, h, by simp, by simp, by simp⟩

end Text

namespace Number

section Digits

variable {value? : Char → Option Nat}

/-- Runs of digits with one underscore between each two, and the values of the digits. -/
def WritesDigits (value? : Char → Option Nat) (t : Text) (ds : List Nat) : Prop :=
  ∃ runs : List Text, runs ≠ [] ∧ (∀ run ∈ runs, run ≠ []) ∧ t = ['_'].intercalate runs ∧
    List.Forall₂ (fun c d => value? c = some d) runs.flatten ds

theorem not_writesDigits_nil {ds : List Nat} : ¬ WritesDigits value? [] ds := by
  rintro ⟨runs, hne, hruns, ht, -⟩
  obtain ⟨run, runs, rfl⟩ := List.exists_cons_of_ne_nil hne
  obtain ⟨c, run, rfl⟩ := List.exists_cons_of_ne_nil (hruns _ List.mem_cons_self)
  simp at ht

theorem writesDigits_cons_iff {c : Char} {t : Text} {ds : List Nat} :
    WritesDigits value? (c :: t) ds ↔
      ∃ d rest, value? c = some d ∧ ds = d :: rest ∧
        (t = [] ∧ rest = [] ∨ (∃ u, t = '_' :: u ∧ WritesDigits value? u rest) ∨
          WritesDigits value? t rest) := by
  constructor
  · rintro ⟨runs, hne, hruns, ht, hds⟩
    obtain ⟨run, runs, rfl⟩ := List.exists_cons_of_ne_nil hne
    rw [List.forall_mem_cons] at hruns
    obtain ⟨c', run, rfl⟩ := List.exists_cons_of_ne_nil hruns.1
    rw [List.intercalate_cons_cons_left, List.cons.injEq] at ht
    obtain ⟨rfl, rfl⟩ := ht
    rw [List.flatten_cons, List.cons_append, List.forall₂_cons_left_iff] at hds
    obtain ⟨d, rest, hd, hrest, rfl⟩ := hds
    refine ⟨d, rest, hd, rfl, ?_⟩
    cases run with
    | nil =>
      cases runs with
      | nil =>
        left
        simpa using hrest
      | cons next more =>
        refine .inr (.inl ⟨['_'].intercalate (next :: more), by simp, next :: more, by simp,
          hruns.2, rfl, by simpa using hrest⟩)
    | cons e run =>
      exact .inr (.inr ⟨(e :: run) :: runs, by simp,
        List.forall_mem_cons.mpr ⟨by simp, hruns.2⟩, rfl, by simpa using hrest⟩)
  · rintro ⟨d, rest, hd, rfl, ⟨rfl, rfl⟩ | ⟨u, rfl, runs, hne, hruns, rfl, hds⟩ |
      ⟨runs, hne, hruns, rfl, hds⟩⟩
    · exact ⟨[[c]], by simp, by simp, by simp, by simpa using hd⟩
    · refine ⟨[c] :: runs, by simp, List.forall_mem_cons.mpr ⟨by simp, hruns⟩, ?_, ?_⟩
      · rw [List.intercalate_cons_of_ne_nil hne]
        rfl
      · simpa using ⟨hd, hds⟩
    · obtain ⟨run, runs, rfl⟩ := List.exists_cons_of_ne_nil hne
      rw [List.forall_mem_cons] at hruns
      refine ⟨(c :: run) :: runs, by simp, List.forall_mem_cons.mpr ⟨by simp, hruns.2⟩, ?_, ?_⟩
      · rw [List.intercalate_cons_cons_left]
      · simpa using ⟨hd, hds⟩

theorem digits?_eq_some_iff (hunderscore : value? '_' = none) {t : Text} {ds : List Nat} :
    digits? value? t = some ds ↔ WritesDigits value? t ds := by
  fun_induction digits? value? t generalizing ds with
  | case1 => simp [not_writesDigits_nil]
  | case2 c =>
    rw [writesDigits_cons_iff, Option.map_eq_some_iff]
    constructor
    · rintro ⟨d, hd, rfl⟩
      exact ⟨d, [], hd, rfl, .inl ⟨rfl, rfl⟩⟩
    · rintro ⟨d, more, hd, rfl, ⟨-, rfl⟩ | ⟨u, hu, -⟩ | hnil⟩
      · exact ⟨d, hd, rfl⟩
      · cases hu
      · exact absurd hnil not_writesDigits_nil
  | case3 c rest ih =>
    rw [writesDigits_cons_iff]
    simp only [Option.bind_eq_bind, Option.bind_eq_some_iff, Option.pure_def, Option.some.injEq, ih]
    constructor
    · rintro ⟨d, hd, more, hmore, rfl⟩
      exact ⟨d, more, hd, rfl, .inr (.inl ⟨rest, rfl, hmore⟩)⟩
    · rintro ⟨d, more, hd, rfl, ⟨hnil, -⟩ | ⟨u, hu, hmore⟩ | hmore⟩
      · cases hnil
      · cases hu
        exact ⟨d, hd, more, hmore, rfl⟩
      · obtain ⟨e, -, he, -⟩ := writesDigits_cons_iff.mp hmore
        rw [hunderscore] at he
        cases he
  | case4 c rest hne hrest ih =>
    rw [writesDigits_cons_iff]
    simp only [Option.bind_eq_bind, Option.bind_eq_some_iff, Option.pure_def, Option.some.injEq, ih]
    constructor
    · rintro ⟨d, hd, more, hmore, rfl⟩
      exact ⟨d, more, hd, rfl, .inr (.inr hmore)⟩
    · rintro ⟨d, more, hd, rfl, ⟨hnil, -⟩ | ⟨u, hu, -⟩ | hmore⟩
      · exact absurd hnil hne
      · exact absurd hu (hrest u)
      · exact ⟨d, hd, more, hmore, rfl⟩

theorem ofDigits_eq (base : Nat) (ds : List Nat) :
    ofDigits base ds = Nat.ofDigits base ds.reverse := by
  induction ds using List.reverseRecOn with
  | nil => rfl
  | append_singleton ds d ih =>
    rw [List.reverse_append, List.reverse_singleton, List.singleton_append, Nat.ofDigits_cons, ← ih]
    simp only [ofDigits, List.foldl_append, List.foldl_cons, List.foldl_nil]
    rw [Nat.mul_comm, Nat.add_comm]

end Digits

def IsNumeral (t : Text) (n : Int) : Prop :=
  ∃ sign body ds, t = sign ++ body ∧ WritesDigits Text.digitValue? body ds ∧
    ds.length ≤ digitLimit ∧
    ((sign = [] ∨ sign = ['+']) ∧ n = (Nat.ofDigits 10 ds.reverse : Nat) ∨
      sign = ['-'] ∧ n = -(Nat.ofDigits 10 ds.reverse : Nat))

theorem IsNumeral.ne_nil {t : Text} {n : Int} (h : IsNumeral t n) : t ≠ [] := by
  obtain ⟨sign, body, ds, rfl, hds, -⟩ := h
  intro hnil
  rw [(List.append_eq_nil_iff.mp hnil).2] at hds
  exact not_writesDigits_nil hds

theorem splitSign_cases (t : Text) : ∃ sign, t = sign ++ (splitSign t).2 ∧
    ((sign = [] ∨ sign = ['+']) ∧ (splitSign t).1 = false ∨
      sign = ['-'] ∧ (splitSign t).1 = true) := by
  fun_cases splitSign t with
  | case1 rest => exact ⟨['-'], rfl, .inr ⟨rfl, rfl⟩⟩
  | case2 rest => exact ⟨['+'], rfl, .inl ⟨.inr rfl, rfl⟩⟩
  | case3 => exact ⟨[], rfl, .inl ⟨.inl rfl, rfl⟩⟩

theorem splitSign_digits {t : Text} {ds : List Nat} (h : WritesDigits Text.digitValue? t ds) :
    splitSign t = (false, t) := by
  have hsign (c : Char) (hc : Text.digitValue? c = none) (rest : Text) : t ≠ c :: rest := by
    rintro rfl
    obtain ⟨d, -, hd, -⟩ := writesDigits_cons_iff.mp h
    rw [hc] at hd
    cases hd
  fun_cases splitSign t with
  | case1 rest => exact absurd rfl (hsign '-' (by decide) rest)
  | case2 rest => exact absurd rfl (hsign '+' (by decide) rest)
  | case3 => rfl

theorem readInteger?_eq {t : Text} {n : Int} : readInteger? t = some n ↔
    ∃ ds, WritesDigits Text.digitValue? (splitSign t).2 ds ∧ ds.length ≤ digitLimit ∧
      n = signed (splitSign t).1 (Nat.ofDigits 10 ds.reverse) := by
  have hunderscore : Text.digitValue? '_' = none := by decide
  simp only [readInteger?, Option.bind_eq_bind, Option.bind_eq_some_iff,
    digits?_eq_some_iff hunderscore, ← ofDigits_eq]
  apply exists_congr
  intro ds
  by_cases hlimit : digitLimit < ds.length
  · simp [hlimit]
  · simp [hlimit, Nat.not_lt.mp hlimit, eq_comm]

theorem readInteger?_eq_some_iff {t : Text} {n : Int} :
    readInteger? t = some n ↔ IsNumeral t n := by
  rw [readInteger?_eq]
  constructor
  · rintro ⟨ds, hds, hlimit, rfl⟩
    obtain ⟨sign, ht, hsign⟩ := splitSign_cases t
    refine ⟨sign, _, ds, ht, hds, hlimit, ?_⟩
    rcases hsign with ⟨hsign, hflag⟩ | ⟨hsign, hflag⟩
    · exact .inl ⟨hsign, by rw [hflag]; rfl⟩
    · exact .inr ⟨hsign, by rw [hflag]; rfl⟩
  · rintro ⟨sign, body, ds, rfl, hds, hlimit, ⟨rfl | rfl, rfl⟩ | ⟨rfl, rfl⟩⟩
    · refine ⟨ds, ?_⟩
      rw [List.nil_append, splitSign_digits hds]
      exact ⟨hds, hlimit, rfl⟩
    · exact ⟨ds, hds, hlimit, rfl⟩
    · exact ⟨ds, hds, hlimit, rfl⟩

namespace Binary64

def value? : Binary64 → Option ℚ
  | .finite negative units => some (signed negative units / 2 ^ unitExponent)
  | .infinite _ => none
  | .nan => none

theorem unitsPerOne_pos : 0 < unitsPerOne := by
  unfold unitsPerOne
  generalize unitExponent = e
  exact Nat.two_pow_pos e

theorem cast_unitsPerOne : (unitsPerOne : ℚ) = 2 ^ unitExponent := by
  unfold unitsPerOne
  generalize unitExponent = e
  exact Nat.cast_pow 2 e

theorem units_eq_iff {units : Nat} {n : Int} :
    (units : Int) = n * unitsPerOne ↔
      units % unitsPerOne = 0 ∧ (units / unitsPerOne : Nat) = n := by
  have hpos := unitsPerOne_pos
  generalize unitsPerOne = one at hpos ⊢
  constructor
  · intro h
    have hn : 0 ≤ n := Int.nonneg_of_mul_nonneg_left (h ▸ Int.natCast_nonneg units) (by omega)
    obtain ⟨m, rfl⟩ := Int.eq_ofNat_of_zero_le hn
    obtain rfl : units = m * one := by exact_mod_cast h
    rw [Nat.mul_mod_left, Nat.mul_div_cancel m hpos]
    exact ⟨rfl, rfl⟩
  · rintro ⟨hmod, rfl⟩
    exact_mod_cast (Nat.div_mul_cancel (Nat.dvd_of_mod_eq_zero hmod)).symm

theorem integer?_finite {negative : Bool} {units : Nat} {n : Int} :
    integer? (.finite negative units) = some n ↔
      units % unitsPerOne = 0 ∧ signed negative (units / unitsPerOne) = n := by
  rw [integer?]
  generalize unitsPerOne = one
  by_cases hmod : units % one = 0
  · rw [if_pos hmod, Option.some.injEq, and_iff_right hmod]
  · simp [hmod]

theorem integer?_eq_some_iff {x : Binary64} {n : Int} :
    x.integer? = some n ↔ x.value? = some (n : ℚ) := by
  cases x with
  | infinite negative => simp [integer?, value?]
  | nan => simp [integer?, value?]
  | finite negative units =>
    have hone : (unitsPerOne : ℚ) ≠ 0 := by exact_mod_cast unitsPerOne_pos.ne'
    have hvalue : value? (.finite negative units) = some (n : ℚ) ↔
        signed negative units = n * unitsPerOne := by
      rw [value?, Option.some.injEq, ← cast_unitsPerOne, div_eq_iff hone]
      exact_mod_cast Iff.rfl
    rw [hvalue, integer?_finite]
    cases negative with
    | false => exact units_eq_iff.symm
    | true =>
      change _ ∧ -((units / unitsPerOne : Nat) : Int) = n ↔ -(units : Int) = n * unitsPerOne
      rw [neg_eq_iff_eq_neg, neg_eq_iff_eq_neg, ← neg_mul]
      exact units_eq_iff.symm

end Binary64

end Number

end CheckedText
