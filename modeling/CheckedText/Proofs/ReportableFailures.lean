import CheckedText.Proofs.InvalidCharacter

/-!
# Failures that can be reported

A message is made of fixed words, numbers and a few texts from outside. It has no markup unless one
of those texts has a bracket: the only brackets of its own stand around an error number and around
a character that was refused. Reading an input, finding and loading the configuration and reading
the words of an editor fail only in ways that are reported.
-/

namespace CheckedText

namespace Text

theorem not_mem_literal {c : Char} {t : Text} (h : c ∉ t) : c ∉ (String.ofList t).toList := by
  rwa [String.toList_ofList]

theorem bracket_not_mem_decimal (n : Nat) : '[' ∉ decimal n := fun h =>
  absurd (mem_decimal h) (by decide)

theorem bracket_not_mem_hexadecimal (width n : Nat) : '[' ∉ hexadecimal width n := fun h =>
  absurd (mem_hexadecimal h) (by decide)

end Text

theorem Identifier.Fault.isPlain_message (f : Fault) : Markup.IsPlain f.message := by
  cases f with
  | character e => exact e.isPlain_message
  | truncated length required =>
    apply Markup.isPlain_of_not_mem
    change '[' ∉ "identifier too short: ".toList ++ Text.decimal length ++
      " bytes decoded, at least ".toList ++ Text.decimal required ++ " required".toList
    have hshort : '[' ∉ "identifier too short: ".toList := Text.not_mem_literal (by decide)
    have hleast : '[' ∉ " bytes decoded, at least ".toList := Text.not_mem_literal (by decide)
    have hrequired : '[' ∉ " required".toList := Text.not_mem_literal (by decide)
    simp only [List.mem_append, not_or]
    exact ⟨⟨⟨⟨hshort, Text.bracket_not_mem_decimal _⟩, hleast⟩,
      Text.bracket_not_mem_decimal _⟩, hrequired⟩
  | mismatch expected actual =>
    apply Markup.isPlain_of_not_mem
    change '[' ∉ "checksum mismatch: expected ".toList ++ Crc32.display expected ++
      ", computed ".toList ++ Crc32.display actual
    have hexpected : '[' ∉ "checksum mismatch: expected ".toList :=
      Text.not_mem_literal (by decide)
    have hcomputed : '[' ∉ ", computed ".toList := Text.not_mem_literal (by decide)
    simp only [List.mem_append, not_or]
    exact ⟨⟨⟨hexpected, Text.bracket_not_mem_hexadecimal _ _⟩, hcomputed⟩,
      Text.bracket_not_mem_hexadecimal _ _⟩

theorem Utf8.Fault.bracket_not_mem_message (f : Fault) : '[' ∉ f.message := by
  have hdecode : '[' ∉ "'utf-8' codec can't decode ".toList := Text.not_mem_literal (by decide)
  have hreason : '[' ∉ f.reason.message := by cases f.reason <;> decide
  unfold message
  dsimp only
  split
  · simp only [List.mem_append, not_or]
    exact ⟨⟨⟨hdecode, ⟨⟨by decide, Text.bracket_not_mem_hexadecimal _ _⟩, by decide⟩,
      Text.bracket_not_mem_decimal _⟩, by decide⟩, hreason⟩
  · simp only [List.mem_append, List.mem_cons, not_or]
    exact ⟨⟨⟨hdecode, ⟨by decide, Text.bracket_not_mem_decimal _⟩, by decide,
      Text.bracket_not_mem_decimal _⟩, by decide⟩, hreason⟩

theorem FileTree.Fault.isPlain_message {path : Text} (h : '[' ∉ path) (f : Fault) :
    Markup.IsPlain (f.message path) := by
  have hcoded (n : Nat) {reason : Text} (hreason : '[' ∉ reason) :
      Markup.IsPlain (message.coded path n reason) := by
    have hrest : '[' ∉ 'E' :: ("rrno ".toList ++ Text.decimal n ++ "] ".toList ++ reason ++
        ": ".toList ++ Text.quote path) := by
      simp only [List.mem_cons, List.mem_append, not_or]
      exact ⟨by decide, ⟨⟨⟨⟨by decide, Text.bracket_not_mem_decimal n⟩, by decide⟩, hreason⟩,
        by decide⟩, Text.bracket_not_mem_quote h⟩
    exact Markup.isPlain_bracket [] nofun nofun rfl hrest
  match f with
  | .missing => exact hcoded 2 (Text.not_mem_literal (by decide))
  | .exists => exact hcoded 17 (Text.not_mem_literal (by decide))
  | .notDirectory => exact hcoded 20 (Text.not_mem_literal (by decide))
  | .isDirectory => exact hcoded 21 (Text.not_mem_literal (by decide))
  | .nameTooLong => exact hcoded 36 (Text.not_mem_literal (by decide))
  | .nullCharacter => exact Markup.isPlain_of_not_mem (Text.not_mem_literal (by decide))

namespace Failure

theorem bracket_not_mem_limitMessage (digits : Option Nat) :
    '[' ∉ Number.limitMessage digits := by
  have hexceeds : '[' ∉ "Exceeds the limit (".toList := Text.not_mem_literal (by decide)
  have hconversion : '[' ∉ " digits) for integer string conversion".toList :=
    Text.not_mem_literal (by decide)
  have hadvice : '[' ∉ "; use sys.set_int_max_str_digits() to increase the limit".toList :=
    Text.not_mem_literal (by decide)
  have hframe {found : Text} (hfound : '[' ∉ found) :
      '[' ∉ "Exceeds the limit (".toList ++ Text.decimal Number.digitLimit
        ++ " digits) for integer string conversion".toList ++ found
        ++ "; use sys.set_int_max_str_digits() to increase the limit".toList := by
    simp only [List.mem_append, not_or]
    exact ⟨⟨⟨⟨hexceeds, Text.bracket_not_mem_decimal _⟩, hconversion⟩, hfound⟩, hadvice⟩
  cases digits with
  | none => exact hframe List.not_mem_nil
  | some n =>
    have hvalue : '[' ∉ ": value has ".toList ++ Text.decimal n ++ " digits".toList := by
      simp only [List.mem_append, not_or]
      exact ⟨⟨by decide, Text.bracket_not_mem_decimal n⟩, by decide⟩
    exact hframe hvalue

/-- The texts from outside that a message shows. -/
def texts : Failure → List Text
  | .setting f => [f.field]
  | .malformedConfig path detail => [path.text, detail]
  | .configNotFound path | .configDirectory path => [path.text]
  | .bothSources source | .noSource source => [source]
  | .inputNotFound path | .inputUnreadable path | .inputNotUtf8 path => [path]
  | .files _ path => [path]
  | .markup f => [f.message]
  | .usage f => [f.message]
  | .outside _ message => [message]
  | _ => []

theorem isPlain_message {f : Failure} (h : ∀ t ∈ f.texts, '[' ∉ t) :
    Markup.IsPlain f.message := by
  have hfixed {t : Text} (ht : '[' ∉ t) : Markup.IsPlain (String.ofList t).toList :=
    Markup.isPlain_of_not_mem (Text.not_mem_literal ht)
  have hended {before t : Text} (hbefore : '[' ∉ before) (ht : '[' ∉ t) :
      Markup.IsPlain ((String.ofList before).toList ++ t) :=
    Markup.isPlain_of_not_mem (by simp [hbefore, ht])
  have hamid {before t after : Text} (hbefore : '[' ∉ before) (ht : '[' ∉ t)
      (hafter : '[' ∉ after) :
      Markup.IsPlain ((String.ofList before).toList ++ t ++ (String.ofList after).toList) :=
    Markup.isPlain_of_not_mem (by simp [hbefore, ht, hafter])
  cases f with
  | identifier f => exact f.isPlain_message
  | grouping f => cases f <;> exact hfixed (by decide)
  | setting f =>
    have hfield : '[' ∉ f.field := h _ List.mem_cons_self
    have hdemand : '[' ∉ f.demand.message := by cases f.demand <;> decide
    exact Markup.isPlain_of_not_mem (t := f.field ++ ' ' :: f.demand.message)
      (by simp [hfield, hdemand])
  | encoding f => exact Markup.isPlain_of_not_mem f.bracket_not_mem_message
  | malformedConfig path detail =>
    have hpath : '[' ∉ path.text := h _ List.mem_cons_self
    have hdetail : '[' ∉ detail := h _ (List.mem_cons_of_mem _ List.mem_cons_self)
    have hmessage : '[' ∉ "invalid config file ".toList ++ path.text ++ ": ".toList ++ detail := by
      simp [hpath, hdetail]
    exact Markup.isPlain_of_not_mem hmessage
  | longInteger digits =>
    exact Markup.isPlain_of_not_mem (bracket_not_mem_limitMessage digits)
  | configNotFound path => exact hended (by decide) (h _ List.mem_cons_self)
  | configDirectory path => exact hended (by decide) (h _ List.mem_cons_self)
  | configNotLoaded => exact hfixed (by decide)
  | unknownHome => exact hfixed (by decide)
  | bothSources source => exact hamid (by decide) (h _ List.mem_cons_self) (by decide)
  | noSource source => exact hamid (by decide) (h _ List.mem_cons_self) (by decide)
  | inputNotFound path => exact hended (by decide) (h _ List.mem_cons_self)
  | inputUnreadable path => exact hended (by decide) (h _ List.mem_cons_self)
  | inputNotHex => exact hfixed (by decide)
  | inputNotUtf8 path => exact hended (by decide) (h _ List.mem_cons_self)
  | outputNotUtf8 => exact hfixed (by decide)
  | files f path => exact f.isPlain_message (h _ List.mem_cons_self)
  | words f => cases f <;> exact hfixed (by decide)
  | markup f => exact Markup.isPlain_of_not_mem (h _ List.mem_cons_self)
  | usage f => exact Markup.isPlain_of_not_mem (h _ List.mem_cons_self)
  | outside family message => exact Markup.isPlain_of_not_mem (h _ List.mem_cons_self)

/-- Reported wherever it comes up; or a text that could not be printed, which happens only if not
everything that is printed is `clear` of brackets. -/
def Reportable (clear : Prop) (f : Failure) : Prop :=
  f.family.isReportedEarly = true ∨ ¬ clear ∧ ∃ e, f = .markup e

variable {clear : Prop} {f : Failure}

theorem reportable_markup {screen : Screen} {t : Text} {e : Markup.Fault}
    (ht : clear → ∃ shown, screen.render t = .ok shown) (h : screen.render t = .error e) :
    (Failure.markup e).Reportable clear := by
  refine .inr ⟨fun hclear => ?_, e, rfl⟩
  obtain ⟨shown, hshown⟩ := ht hclear
  rw [hshown] at h
  cases h

theorem early_of_mapError {ε α : Type} {g : ε → Failure} {r : Except ε α}
    (hg : ∀ e, (g e).family.isReportedEarly = true) (h : r.mapError g = .error f) :
    f.family.isReportedEarly = true := by
  cases r with
  | ok a => cases h
  | error e =>
    cases h
    exact hg e

end Failure

open Failure

namespace Surroundings

variable {f : Failure} {s : Surroundings} {stdin : Blob}

theorem early_of_readFile {path : Text} (h : s.readFile stdin path = .error f) :
    f.family.isReportedEarly = true := by
  unfold readFile at h
  split at h
  case isTrue => cases h
  case isFalse =>
    split at h
    case h_1 =>
      cases h
      rfl
    case h_2 => exact early_of_mapError (fun e => by cases e <;> rfl) h

theorem early_of_readHex {t : Text} (h : readHex t = .error f) :
    f.family.isReportedEarly = true := by
  unfold readHex at h
  split at h <;> cases h
  rfl

theorem early_of_readBlob {data file : Option Text} {hex : Bool}
    (h : s.readBlob stdin data file hex = .error f) : f.family.isReportedEarly = true := by
  unfold readBlob at h
  split at h
  case h_1 =>
    cases h
    rfl
  case h_2 =>
    cases h
    rfl
  case h_3 path =>
    rcases Except.bind_eq_error_iff.mp h with h | ⟨raw, -, h⟩
    · exact early_of_readFile h
    · split at h
      · exact early_of_readHex h
      · cases h
  case h_4 =>
    split at h
    · exact early_of_readHex h
    · cases h

theorem early_of_readText {text file : Option Text} (h : s.readText stdin text file = .error f) :
    f.family.isReportedEarly = true := by
  unfold readText at h
  split at h
  case h_1 =>
    cases h
    rfl
  case h_2 =>
    cases h
    rfl
  case h_3 path =>
    rcases Except.bind_eq_error_iff.mp h with h | ⟨raw, -, h⟩
    · exact early_of_readFile h
    · exact early_of_mapError (fun _ => rfl) h
  case h_4 => cases h

theorem early_of_files {α : Type} {r : Except FileTree.Fault α} {path : Text}
    (h : r.mapError (.files · path) = .error f) : f.family.isReportedEarly = true :=
  early_of_mapError (fun e => by cases e <;> rfl) h

theorem early_of_expand {written : Text} (h : s.expand written = .error f) :
    f.family.isReportedEarly = true := by
  unfold expand at h
  split at h <;> cases h
  rfl

theorem early_of_userDirectory (h : s.userDirectory = .error f) :
    f.family.isReportedEarly = true := by
  unfold userDirectory at h
  split at h
  · cases h
  · split at h
    · split at h <;> cases h
      rfl
    · cases h

theorem early_of_userFile (h : s.userFile = .error f) : f.family.isReportedEarly = true :=
  early_of_userDirectory (Except.map_eq_error_iff.mp h)

theorem early_of_parseConfig {path : Path} {content : Blob}
    (h : parseConfig path content = .error f) : f.family.isReportedEarly = true := by
  rcases Except.bind_eq_error_iff.mp h with h | ⟨t, -, h⟩
  · exact early_of_mapError (fun _ => rfl) h
  rcases Except.bind_eq_error_iff.mp h with h | ⟨doc, -, h⟩
  · exact early_of_mapError (fun e => by cases e <;> rfl) h
  · exact early_of_mapError (fun _ => rfl) h

theorem early_of_namedFile {written : Text} (h : s.namedFile written = .error f) :
    f.family.isReportedEarly = true := by
  rcases Except.bind_eq_error_iff.mp h with h | ⟨p, -, h⟩
  · exact early_of_expand h
  rcases Except.bind_eq_error_iff.mp h with h | ⟨present, -, h⟩
  · exact early_of_files h
  cases present <;> cases h
  rfl

theorem early_of_resolve {written : Option Text} (h : s.resolve written = .error f) :
    f.family.isReportedEarly = true := by
  unfold resolve at h
  split at h
  case h_1 => exact early_of_namedFile h
  case h_2 => exact early_of_namedFile h
  case h_3 =>
    rcases Except.bind_eq_error_iff.mp h with h | ⟨user, -, h⟩
    · exact early_of_userFile h
    rcases Except.bind_eq_error_iff.mp h with h | ⟨present, -, h⟩
    · exact early_of_files h
    cases present <;> cases h

theorem early_of_loadConfig {written : Option Text} (h : s.loadConfig written = .error f) :
    f.family.isReportedEarly = true := by
  rcases Except.bind_eq_error_iff.mp h with h | ⟨path, -, h⟩
  · exact early_of_resolve h
  rcases Except.bind_eq_error_iff.mp h with h | ⟨content, -, h⟩
  · exact early_of_files h
  · exact early_of_parseConfig h

theorem early_of_lacksUserFile (h : s.lacksUserFile = .error f) :
    f.family.isReportedEarly = true := by
  rcases Except.bind_eq_error_iff.mp h with h | ⟨user, -, h⟩
  · exact early_of_userFile h
  rcases Except.bind_eq_error_iff.mp h with h | ⟨present, -, h⟩
  · exact early_of_files h
  · cases h

end Surroundings

end CheckedText
