import CheckedText.Failure
import CheckedText.Proofs.Numerals
import CheckedText.Proofs.SymbolText

/-!
# The settings of a format

For each setting there are values that it takes, each with its meaning, and a value for the case
that it is absent. A table in which all settings are taken gives the format that they mean. In any
other table the first setting that is not taken is blamed.
-/

namespace CheckedText

namespace Config

open Toml (Value)

theorem field_of_integer {field : Text} {v : Option Toml.Value} {e : Fault}
    (h : integer field v = .error e) : e.field = field := by
  revert h
  fun_cases integer field v <;> rintro ⟨⟩ <;> rfl

theorem field_of_separator {field : Text} {v : Option Toml.Value} {e : Fault}
    (h : separator field v = .error e) : e.field = field := by
  revert h
  fun_cases separator field v <;> rintro ⟨⟩ <;> rfl

theorem field_of_letterCase {field : Text} {v : Option Toml.Value} {e : Fault}
    (h : letterCase field v = .error e) : e.field = field := by
  revert h
  fun_cases letterCase field v <;> rintro ⟨⟩ <;> rfl

theorem field_of_boolean {field : Text} {absent : Bool} {v : Option Toml.Value} {e : Fault}
    (h : boolean field absent v = .error e) : e.field = field := by
  revert h
  fun_cases boolean field absent v <;> rintro ⟨⟩ <;> rfl

theorem field_of_groupSize {v : Option Toml.Value} {e : Fault} (h : groupSize v = .error e) :
    e.field = "format.group_size".toList := by
  rcases Except.bind_eq_error_iff.mp h with h | ⟨n, -, h⟩
  · exact field_of_integer h
  · split at h
    · cases h
    · split at h <;> cases h
      rfl

theorem field_of_lineLength {v : Option Toml.Value} {e : Fault} (h : lineLength v = .error e) :
    e.field = "format.line_length".toList := by
  rcases Except.bind_eq_error_iff.mp h with h | ⟨n, -, h⟩
  · exact field_of_integer h
  · split at h
    · cases h
    · split at h <;> cases h
      rfl

def Says (t w : Text) : Prop :=
  ∃ body, Text.Trims t body ∧ Text.foldAscii body = w

theorem word_eq_iff {t w : Text} : word t = w ↔ Says t w := by
  constructor
  · intro h
    exact ⟨Text.strip t, Text.strip_eq_iff.mp rfl, h⟩
  · rintro ⟨body, hbody, rfl⟩
    rw [word, Text.strip_eq_iff.mpr hbody]

inductive MeansInteger : Option Value → Option Int → Prop
  | absent : MeansInteger none none
  | blank {t : Text} (h : ∀ c ∈ t, Text.isBlank c = true) : MeansInteger (some (.text t)) none
  | integer (n : Int) : MeansInteger (some (.integer n)) (some n)
  | float {x : Number.Binary64} {n : Int} (h : x.value? = some (n : ℚ)) :
      MeansInteger (some (.float x)) (some n)
  | text {t body : Text} {n : Int} (hbody : Text.Trims t body) (hn : Number.IsNumeral body n) :
      MeansInteger (some (.text t)) (some n)

theorem integer_eq_ok_iff {field : Text} {v : Option Value} {r : Option Int} :
    integer field v = .ok r ↔ MeansInteger v r := by
  constructor
  · fun_cases integer field v with
    | case1 =>
      rintro ⟨⟩
      exact .absent
    | case2 n =>
      rintro ⟨⟩
      exact .integer n
    | case3 x n hx =>
      rintro ⟨⟩
      exact .float (Number.Binary64.integer?_eq_some_iff.mp hx)
    | case5 t body hbody =>
      rintro ⟨⟩
      exact .blank (Text.trims_nil_iff.mp (Text.strip_eq_iff.mp hbody))
    | case6 t body hbody n hn =>
      rintro ⟨⟩
      exact .text (Text.strip_eq_iff.mp rfl) (Number.readInteger?_eq_some_iff.mp hn)
    | case4 => rintro ⟨⟩
    | case7 => rintro ⟨⟩
    | case8 => rintro ⟨⟩
  · intro h
    cases h with
    | absent => rfl
    | blank h => simp [integer, Text.strip_eq_iff.mpr (Text.trims_nil_iff.mpr h)]
    | integer n => rfl
    | float h => simp [integer, Number.Binary64.integer?_eq_some_iff.mpr h]
    | text hbody hn =>
      simp [integer, Text.strip_eq_iff.mpr hbody, hn.ne_nil,
        Number.readInteger?_eq_some_iff.mpr hn]

inductive Key where
  | groupSize
  | lineLength
  | separator
  | letterCase
  | checksum

def Key.name : Key → Text
  | .groupSize => "group_size".toList
  | .lineLength => "line_length".toList
  | .separator => "separator".toList
  | .letterCase => "case".toList
  | .checksum => "checksum".toList

def Key.order : List Key :=
  [.groupSize, .lineLength, .separator, .letterCase, .checksum]

def MeansGroupSize (v : Option Value) (n : Int) : Prop :=
  MeansInteger v none ∧ n = 5 ∨ MeansInteger v (some n) ∧ 0 < n

def MeansLineLength (v : Option Value) (length : Option Int) : Prop :=
  (MeansInteger v none ∨ MeansInteger v (some 0)) ∧ length = none ∨
    ∃ n, MeansInteger v (some n) ∧ 0 < n ∧ length = some n

def MeansSeparator (v : Option Value) (s : Text) : Prop :=
  v = none ∧ s = ['-'] ∨
    v = some (.text s) ∧ ∀ c ∈ s, c ∉ Base32.alphabet ∧ c ∉ Base32.alphabet.map Char.toLower

def MeansLetterCase (v : Option Value) (c : LetterCase) : Prop :=
  v = none ∧ c = .lower ∨ ∃ t, v = some (.text t) ∧ Says t c.text

def answers : Bool → List Text
  | true => ["1".toList, "true".toList, "yes".toList, "on".toList]
  | false => ["0".toList, "false".toList, "no".toList, "off".toList]

def MeansBoolean (absent : Bool) (v : Option Value) (b : Bool) : Prop :=
  v = none ∧ b = absent ∨ v = some (.boolean b) ∨ v = some (.integer b.toInt) ∨
    ∃ t, v = some (.text t) ∧ ∃ w ∈ answers b, Says t w

variable {v : Option Value}

theorem groupSize_eq_ok_iff {n : Int} : groupSize v = .ok n ↔ MeansGroupSize v n := by
  simp only [groupSize, Except.bind_eq_ok_iff, integer_eq_ok_iff]
  constructor
  · rintro ⟨r, hr, h⟩
    cases r with
    | none =>
      cases h
      exact .inl ⟨hr, rfl⟩
    | some k =>
      dsimp only at h
      split at h
      case isTrue => cases h
      case isFalse hpos =>
        cases h
        exact .inr ⟨hr, by omega⟩
  · rintro (⟨hr, rfl⟩ | ⟨hr, hpos⟩)
    · exact ⟨none, hr, rfl⟩
    · exact ⟨some n, hr, if_neg (Int.not_le.mpr hpos)⟩

theorem lineLength_eq_ok_iff {length : Option Int} :
    lineLength v = .ok length ↔ MeansLineLength v length := by
  simp only [lineLength, Except.bind_eq_ok_iff, integer_eq_ok_iff]
  constructor
  · rintro ⟨r, hr, h⟩
    cases r with
    | none =>
      cases h
      exact .inl ⟨.inl hr, rfl⟩
    | some k =>
      dsimp only at h
      split at h
      case isTrue => cases h
      case isFalse hnonneg =>
        by_cases hzero : k = 0
        · rw [if_pos hzero] at h
          cases h
          exact .inl ⟨.inr (hzero ▸ hr), rfl⟩
        · rw [if_neg hzero] at h
          cases h
          exact .inr ⟨k, hr, by omega, rfl⟩
  · rintro (⟨hr | hr, rfl⟩ | ⟨n, hr, hpos, rfl⟩)
    · exact ⟨none, hr, rfl⟩
    · exact ⟨some 0, hr, rfl⟩
    · refine ⟨some n, hr, ?_⟩
      dsimp only
      rw [if_neg (by omega), if_neg (by omega)]
      rfl

theorem separator_eq_ok_iff {field s : Text} :
    separator field v = .ok s ↔ MeansSeparator v s := by
  have hfree (t : Text) : ¬ t.any Base32.isSymbol = true ↔
      ∀ c ∈ t, c ∉ Base32.alphabet ∧ c ∉ Base32.alphabet.map Char.toLower := by
    simp only [Bool.not_eq_true, List.any_eq_false, Base32.isSymbol_eq_false_iff]
  constructor
  · fun_cases separator field v with
    | case1 =>
      rintro ⟨⟩
      exact .inl ⟨rfl, rfl⟩
    | case2 => rintro ⟨⟩
    | case3 t hany =>
      rintro ⟨⟩
      exact .inr ⟨rfl, (hfree _).mp hany⟩
    | case4 => rintro ⟨⟩
  · rintro (⟨rfl, rfl⟩ | ⟨rfl, hs⟩)
    · rfl
    · exact if_neg ((hfree s).mpr hs)

theorem letterCase_eq_ok_iff {field : Text} {c : LetterCase} :
    letterCase field v = .ok c ↔ MeansLetterCase v c := by
  constructor
  · fun_cases letterCase field v with
    | case1 =>
      rintro ⟨⟩
      exact .inl ⟨rfl, rfl⟩
    | case2 t hword =>
      rintro ⟨⟩
      exact .inr ⟨t, rfl, word_eq_iff.mp hword⟩
    | case3 t hlower hword =>
      rintro ⟨⟩
      exact .inr ⟨t, rfl, word_eq_iff.mp hword⟩
    | case4 => rintro ⟨⟩
    | case5 => rintro ⟨⟩
  · rintro (⟨rfl, rfl⟩ | ⟨t, rfl, ht⟩)
    · rfl
    · rw [← word_eq_iff] at ht
      cases c with
      | lower => exact if_pos ht
      | upper =>
        have hother : word t ≠ "lower".toList := by
          rw [ht]
          decide
        exact (if_neg hother).trans (if_pos ht)

theorem contains_iff {ws : List Text} {t : Text} :
    ws.contains (word t) = true ↔ ∃ w ∈ ws, Says t w := by
  simp only [List.contains_iff_mem, ← word_eq_iff]
  exact ⟨fun h => ⟨_, h, rfl⟩, fun ⟨w, hw, h⟩ => h ▸ hw⟩

theorem no_answer_yes : (answers false).all (!yesWords.contains ·) = true := by decide

theorem boolean_eq_ok_iff {field : Text} {absent b : Bool} :
    boolean field absent v = .ok b ↔ MeansBoolean absent v b := by
  constructor
  · fun_cases boolean field absent v with
    | case1 =>
      rintro ⟨⟩
      exact .inl ⟨rfl, rfl⟩
    | case2 b =>
      rintro ⟨⟩
      exact .inr (.inl rfl)
    | case3 =>
      rintro ⟨⟩
      exact .inr (.inr (.inl rfl))
    | case4 =>
      rintro ⟨⟩
      exact .inr (.inr (.inl rfl))
    | case5 => rintro ⟨⟩
    | case6 t hyes =>
      rintro ⟨⟩
      exact .inr (.inr (.inr ⟨t, rfl, contains_iff.mp hyes⟩))
    | case7 t hyes hno =>
      rintro ⟨⟩
      exact .inr (.inr (.inr ⟨t, rfl, contains_iff.mp hno⟩))
    | case8 => rintro ⟨⟩
    | case9 => rintro ⟨⟩
  · rintro (⟨rfl, rfl⟩ | rfl | rfl | ⟨t, rfl, ht⟩)
    · rfl
    · rfl
    · cases b <;> rfl
    · rw [← contains_iff] at ht
      cases b with
      | true => exact if_pos ht
      | false =>
        have hno := List.all_eq_true.mp no_answer_yes (word t) (List.contains_iff_mem.mp ht)
        have hyes : ¬ yesWords.contains (word t) = true := by simpa using hno
        exact (if_neg hyes).trans (if_pos ht)

/-- Whether a table has a value that the setting takes. -/
def Key.Valid (t : Toml.Table) : Key → Prop
  | .groupSize => ∃ n, MeansGroupSize (t.get? Key.groupSize.name) n
  | .lineLength => ∃ n, MeansLineLength (t.get? Key.lineLength.name) n
  | .separator => ∃ s, MeansSeparator (t.get? Key.separator.name) s
  | .letterCase => ∃ c, MeansLetterCase (t.get? Key.letterCase.name) c
  | .checksum => ∃ b, MeansBoolean true (t.get? Key.checksum.name) b

def Key.field (key : Key) : Text :=
  "format.".toList ++ key.name

/-- All settings are taken, or the fault names the first one that is not. -/
def Blames {α : Type} (t : Toml.Table) (keys : List Key) (r : Except Fault α) : Prop :=
  (∀ key ∈ keys, key.Valid t) ∧ (∃ a, r = .ok a) ∨
    ∃ before key after, keys = before ++ key :: after ∧ (∀ k ∈ before, k.Valid t) ∧
      ¬ key.Valid t ∧ ∃ e, r = .error e ∧ e.field = key.field

theorem blames_ok {α : Type} (t : Toml.Table) (a : α) : Blames t [] (.ok a) :=
  .inl ⟨by simp, a, rfl⟩

theorem blames_bind {α β : Type} {t : Toml.Table} {key : Key} {keys : List Key}
    {r : Except Fault α} {next : α → Except Fault β} (hvalid : key.Valid t ↔ ∃ a, r = .ok a)
    (hfield : ∀ e, r = .error e → e.field = key.field) (hnext : ∀ a, Blames t keys (next a)) :
    Blames t (key :: keys) (r >>= next) := by
  cases hr : r with
  | error e =>
    refine .inr ⟨[], key, keys, rfl, by simp, ?_, e, rfl, hfield e hr⟩
    rw [hvalid, hr]
    simp
  | ok a =>
    have hkey : key.Valid t := hvalid.mpr ⟨a, hr⟩
    rcases hnext a with ⟨hkeys, hok⟩ | ⟨before, k, after, rfl, hbefore, hk, hfault⟩
    · exact .inl ⟨List.forall_mem_cons.mpr ⟨hkey, hkeys⟩, hok⟩
    · exact .inr ⟨key :: before, k, after, rfl, List.forall_mem_cons.mpr ⟨hkey, hbefore⟩, hk,
        hfault⟩

theorem blames_ofTable (t : Toml.Table) : Blames t Key.order (Format.ofTable t) := by
  refine blames_bind (exists_congr fun n => groupSize_eq_ok_iff.symm)
    (fun e => field_of_groupSize) fun size => ?_
  refine blames_bind (exists_congr fun n => lineLength_eq_ok_iff.symm)
    (fun e => field_of_lineLength) fun length => ?_
  refine blames_bind (exists_congr fun n => separator_eq_ok_iff.symm)
    (fun e => field_of_separator) fun separator => ?_
  refine blames_bind (exists_congr fun n => letterCase_eq_ok_iff.symm)
    (fun e => field_of_letterCase) fun letterCase => ?_
  refine blames_bind (exists_congr fun n => boolean_eq_ok_iff.symm)
    (fun e => field_of_boolean) fun checksum => ?_
  exact blames_ok t _

end Config

structure Format.IsGivenBy (f : Format) (t : Toml.Table) : Prop where
  groupSize : Config.MeansGroupSize (t.get? Config.Key.groupSize.name) f.groupSize
  lineLength : Config.MeansLineLength (t.get? Config.Key.lineLength.name) f.lineLength
  separator : Config.MeansSeparator (t.get? Config.Key.separator.name) f.separator
  letterCase : Config.MeansLetterCase (t.get? Config.Key.letterCase.name) f.letterCase
  checksum : Config.MeansBoolean true (t.get? Config.Key.checksum.name) f.checksum

theorem Format.ofTable_eq_ok_iff {t : Toml.Table} {f : Format} :
    Format.ofTable t = .ok f ↔ f.IsGivenBy t := by
  constructor
  · intro h
    obtain ⟨size, hsize, h⟩ := Except.bind_eq_ok_iff.mp h
    obtain ⟨length, hlength, h⟩ := Except.bind_eq_ok_iff.mp h
    obtain ⟨separator, hseparator, h⟩ := Except.bind_eq_ok_iff.mp h
    obtain ⟨letterCase, hcase, h⟩ := Except.bind_eq_ok_iff.mp h
    obtain ⟨checksum, hchecksum, h⟩ := Except.bind_eq_ok_iff.mp h
    cases h
    exact ⟨Config.groupSize_eq_ok_iff.mp hsize, Config.lineLength_eq_ok_iff.mp hlength,
      Config.separator_eq_ok_iff.mp hseparator, Config.letterCase_eq_ok_iff.mp hcase,
      Config.boolean_eq_ok_iff.mp hchecksum⟩
  · rintro ⟨hsize, hlength, hseparator, hcase, hchecksum⟩
    refine Except.bind_eq_ok_iff.mpr ⟨_, Config.groupSize_eq_ok_iff.mpr hsize, ?_⟩
    refine Except.bind_eq_ok_iff.mpr ⟨_, Config.lineLength_eq_ok_iff.mpr hlength, ?_⟩
    refine Except.bind_eq_ok_iff.mpr ⟨_, Config.separator_eq_ok_iff.mpr hseparator, ?_⟩
    refine Except.bind_eq_ok_iff.mpr ⟨_, Config.letterCase_eq_ok_iff.mpr hcase, ?_⟩
    exact Except.bind_eq_ok_iff.mpr ⟨_, Config.boolean_eq_ok_iff.mpr hchecksum, rfl⟩

theorem Config.Demand.must_isPrefix (d : Demand) : "must".toList <+: d.message := by
  cases d <;> decide

theorem Config.Fault.must_isPrefix (e : Fault) : e.field ++ " must".toList <+: e.message := by
  obtain ⟨rest, hrest⟩ := e.demand.must_isPrefix
  refine ⟨rest, ?_⟩
  rw [Fault.message, ← hrest, List.append_assoc]
  rfl

/-- A table gives the format that its values mean, if all its settings are taken. Otherwise the
first one that is not, in the order of the keys, is blamed. -/
theorem Format.ofTable_blames_first (t : Toml.Table) :
    (∀ f, Format.ofTable t = .ok f ↔ f.IsGivenBy t) ∧
    ((∀ key ∈ Config.Key.order, key.Valid t) ∧ (∃ f, Format.ofTable t = .ok f) ∨
      ∃ before key after, Config.Key.order = before ++ key :: after ∧
        (∀ k ∈ before, k.Valid t) ∧ ¬ key.Valid t ∧
        ∃ e, Format.ofTable t = .error e ∧ (Failure.setting e).family = .value ∧
          "format.".toList ++ key.name ++ " must".toList <+: (Failure.setting e).message) := by
  refine ⟨fun f => Format.ofTable_eq_ok_iff, ?_⟩
  rcases Config.blames_ofTable t with
    hvalid | ⟨before, key, after, hkeys, hbefore, hkey, e, he, hfield⟩
  · exact .inl hvalid
  · right
    have hmessage := e.must_isPrefix
    rw [hfield] at hmessage
    exact ⟨before, key, after, hkeys, hbefore, hkey, e, he, rfl, hmessage⟩

end CheckedText
