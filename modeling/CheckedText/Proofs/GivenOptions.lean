import Mathlib.Data.List.Infix
import CheckedText.CommandLine
import CheckedText.Proofs.Except

/-!
# Options as they were given

Every setting that is read comes from one of the arguments: a value is the end of one, and a flag is
written out in one or stands behind a hyphen as a single letter. So an option without a letter is
off unless its name is among the arguments.
-/

namespace CheckedText

namespace Options

variable {table : Table} {argument t : Text} {arguments : List Text} {p : Parsed}

def Setting.From (table : Table) (argument : Text) : Setting → Prop
  | .value _ v => v <:+ argument
  | .flag key on => ∃ name, ⟨name, key, .flag on⟩ ∈ table ∧ (name = argument ∨ name.length = 2)

def Reading.settings : Reading → List Setting
  | .complete settings => settings
  | .needsValue settings _ _ => settings

theorem mem_of_find? {name : Text} {s : Spelling} (h : table.find? name = some s) :
    s ∈ table ∧ s.name = name :=
  ⟨List.mem_of_find?_eq_some h, by simpa using List.find?_some h⟩

theorem from_of_readLetters {r : Reading} (h : readLetters table t = .ok r) (ht : t <:+ argument) :
    ∀ x ∈ r.settings, x.From table argument := by
  induction t generalizing r with
  | nil =>
    cases h
    nofun
  | cons c rest ih =>
    have hrest : rest <:+ argument := (List.suffix_cons c rest).trans ht
    rw [readLetters] at h
    split at h
    case h_1 => cases h
    case h_2 =>
      split at h
      · cases h
        nofun
      · cases h
        intro x hx
        cases List.mem_singleton.mp hx
        exact hrest
    case h_3 name key on hfind =>
      obtain ⟨hmem, rfl⟩ := mem_of_find? hfind
      have hflag : (Setting.flag key on).From table argument := ⟨_, hmem, .inr rfl⟩
      obtain ⟨inner, hinner, h⟩ := Except.bind_eq_ok_iff.mp h
      have hsettings := ih hinner hrest
      cases inner with
      | complete settings =>
        cases h
        exact List.forall_mem_cons.mpr ⟨hflag, hsettings⟩
      | needsValue settings name k =>
        cases h
        exact List.forall_mem_cons.mpr ⟨hflag, hsettings⟩

theorem from_of_readOption {r : Reading} (h : readOption table argument = .ok r) :
    ∀ x ∈ r.settings, x.From table argument := by
  unfold readOption at h
  dsimp only at h
  split at h
  case isTrue => exact from_of_readLetters h (List.drop_suffix 1 argument)
  case isFalse =>
    split at h
    case h_1 => cases h
    case h_2 v _ hgiven =>
      cases h
      intro x hx
      cases List.mem_singleton.mp hx
      split at hgiven
      · cases hgiven
        exact List.drop_suffix _ argument
      · cases hgiven
    case h_3 =>
      cases h
      nofun
    case h_4 => cases h
    case h_5 key on hfind hgiven =>
      cases h
      intro x hx
      cases List.mem_singleton.mp hx
      obtain ⟨hmem, hname⟩ := mem_of_find? hfind
      refine ⟨_, hmem, .inl (hname.trans ?_)⟩
      split at hgiven
      · cases hgiven
      case isFalse hlength =>
        exact (List.takeWhile_prefix _).eq_of_length_le (Nat.le_of_not_lt hlength)

def Setting.Given (table : Table) (arguments : List Text) (x : Setting) : Prop :=
  ∃ argument ∈ arguments, x.From table argument

theorem Setting.Given.mono {x : Setting} {more : List Text} (h : x.Given table arguments)
    (hmore : arguments ⊆ more) : x.Given table more := by
  obtain ⟨argument, hmem, hfrom⟩ := h
  exact ⟨argument, hmore hmem, hfrom⟩

theorem given_of_parse {mixed : Bool} (h : parse table mixed arguments = .ok p) :
    (∀ x ∈ p.settings, x.Given table arguments) ∧ p.arguments ⊆ arguments := by
  fun_induction parse table mixed arguments generalizing p with
  | case1 =>
    cases h
    exact ⟨nofun, List.Subset.refl _⟩
  | case2 rest =>
    cases h
    exact ⟨nofun, List.subset_cons_self _ rest⟩
  | case3 => cases h
  | case4 argument rest _ _ settings hread ih =>
    obtain ⟨p, hp, rfl⟩ := Except.map_eq_ok_iff.mp h
    obtain ⟨hsettings, harguments⟩ := ih hp
    refine ⟨fun x hx => ?_, List.subset_cons_of_subset _ harguments⟩
    rcases List.mem_append.mp hx with hx | hx
    · exact ⟨argument, List.mem_cons_self, from_of_readOption hread x hx⟩
    · exact (hsettings x hx).mono (List.subset_cons_self _ _)
  | case5 => cases h
  | case6 argument _ _ settings name key hread v rest ih =>
    obtain ⟨p, hp, rfl⟩ := Except.map_eq_ok_iff.mp h
    obtain ⟨hsettings, harguments⟩ := ih hp
    have hrest : rest ⊆ argument :: v :: rest :=
      List.subset_cons_of_subset _ (List.subset_cons_self _ _)
    refine ⟨fun x hx => ?_, List.Subset.trans harguments hrest⟩
    rcases List.mem_append.mp hx with hx | hx
    · rcases List.mem_append.mp hx with hx | hx
      · exact ⟨argument, List.mem_cons_self, from_of_readOption hread x hx⟩
      · cases List.mem_singleton.mp hx
        exact ⟨v, List.mem_cons_of_mem _ List.mem_cons_self, List.suffix_refl v⟩
    · exact (hsettings x hx).mono hrest
  | case7 argument rest _ _ _ ih =>
    obtain ⟨p, hp, rfl⟩ := Except.map_eq_ok_iff.mp h
    obtain ⟨hsettings, harguments⟩ := ih hp
    exact ⟨fun x hx => (hsettings x hx).mono (List.subset_cons_self _ _),
      List.cons_subset_cons _ harguments⟩
  | case8 =>
    cases h
    exact ⟨nofun, List.Subset.refl _⟩

variable {key : Text}

theorem Parsed.mem_of_flag? {on : Bool} (h : p.flag? key = some on) :
    .flag key on ∈ p.settings := by
  revert h
  refine List.foldlRecOn (motive := fun last => last = some on → .flag key on ∈ p.settings)
    p.settings _ (b := none) nofun ?_
  rintro last hlast (⟨k, w⟩ | ⟨k, on⟩) hx hsome
  · exact hlast hsome
  · dsimp only at hsome
    split at hsome
    case isTrue hk =>
      cases hsome
      exact hk ▸ hx
    case isFalse => exact hlast hsome

end Options

theorem CommandLine.debug_eq_false {arguments : List Text} {p : Options.Parsed}
    (h : Options.parse globalOptions false arguments = .ok p)
    (hdebug : "--debug".toList ∉ arguments) : (Globals.ofParsed p).debug = false := by
  have hnames : ∀ s ∈ globalOptions, s.key = "--debug".toList →
      s.name = "--debug".toList := by decide
  change p.isOn "--debug".toList = false
  unfold Options.Parsed.isOn
  cases hflag : p.flag? "--debug".toList with
  | none => rfl
  | some on =>
    obtain ⟨a, ha, name, hmem, hname⟩ := (Options.given_of_parse h).1 _ (p.mem_of_flag? hflag)
    have hwritten : name = "--debug".toList := hnames _ hmem rfl
    rcases hname with rfl | hlength
    · exact absurd (hwritten ▸ ha) hdebug
    · rw [hwritten] at hlength
      exact absurd hlength (by decide)

end CheckedText
