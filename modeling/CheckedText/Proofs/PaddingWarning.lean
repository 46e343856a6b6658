import CheckedText.Proofs.CommandResults
import CheckedText.Proofs.DroppedBits

/-!
# The warning about dropped bits

A decoding that succeeds although bits were dropped that are not zero says so first on the standard
error. Whatever else it prints there starts in another way: the line of a failure with an `E`, and
the notice of a written file with a hyphen. So the warning can be told from the standard error.
-/

namespace CheckedText

namespace Run

variable {α β : Type} {lead : Blob} {before : Progress}

def NotWarning (err : Blob) : Prop :=
  err.head? ≠ some 0x57

theorem NotWarning.append {a b : Blob} (ha : NotWarning a) (hb : NotWarning b) :
    NotWarning (a ++ b) := by
  unfold NotWarning at *
  cases a with
  | nil => simpa using hb
  | cons x a => simpa using ha

theorem notWarning_nil : NotWarning [] := by
  simp [NotWarning]

/-- However the run ends, it has added `lead` to the standard error and nothing after it that
starts like a warning. -/
def Leads (lead : Blob) (x : Run α) (before : Progress) : Prop :=
  ∀ result after, Ends x before result after →
    ∃ err, after.stderr = before.stderr ++ lead ++ err ∧ NotWarning err

theorem leads_of_ends {x : Run α} {result : Except Failure α} {after : Progress} {err : Blob}
    (h : Ends x before result after) (hafter : after.stderr = before.stderr ++ lead ++ err)
    (herr : NotWarning err) : Leads lead x before := by
  intro r p hends
  obtain ⟨-, rfl⟩ := h.unique hends
  exact ⟨err, hafter, herr⟩

theorem leads_of_silent {x : Run α} {result : Except Failure α} {after : Progress}
    (h : Ends x before result after) (hafter : after.stderr = before.stderr) :
    Leads [] x before :=
  leads_of_ends h (by simp [hafter]) notWarning_nil

theorem Leads.bind {x : Run α} {g : α → Run β} (hx : Leads lead x before)
    (hg : ∀ a middle, Leads [] (g a) middle) : Leads lead (x >>= g) before := by
  intro result after hends
  rcases ends_bind_cases hends with ⟨a, middle, hfirst, hrest⟩ | ⟨e, hfirst, -⟩
  · obtain ⟨err, hmiddle, herr⟩ := hx _ _ hfirst
    obtain ⟨err', hafter, herr'⟩ := hg a middle _ _ hrest
    exact ⟨err ++ err', by simp [hafter, hmiddle], herr.append herr'⟩
  · exact hx _ _ hfirst

theorem leads_printMarkedErr {t : Text}
    (h : ∀ (screen : Screen) (shown : Text), screen.render t = .ok shown →
      NotWarning (screen.line shown)) :
    Leads [] (printMarkedErr t) before := by
  cases hrender : before.surroundings.screen.render t with
  | ok shown => exact leads_of_ends (ends_printMarkedErr hrender) (by simp) (h _ shown hrender)
  | error e => exact leads_of_silent (ends_marked_error _ hrender).bind_error rfl

theorem notWarning_errorLine {screen : Screen} {f : Failure} {shown : Text}
    (h : screen.render (errorLine f) = .ok shown) : NotWarning (screen.line shown) := by
  rw [render_errorLine] at h
  obtain ⟨pieces, -, rfl⟩ := Except.map_eq_ok_iff.mp h
  have hhead (rest : Text) : (screen.line ("Error:".toList ++ rest)).head? = some 0x45 :=
    screen.head?_line (c := 'E') (Console.isKept_of_le (by decide)) (by decide) (by decide)
      (by decide) _
  rw [NotWarning, hhead]
  decide

theorem Leads.command {body : Run (Option Int)} (debug : Bool) (h : Leads lead body before) :
    Leads lead (command debug body) before := by
  obtain ⟨r, middle, hbody⟩ := exists_ends body before
  obtain ⟨err, hmiddle, herr⟩ := h _ _ hbody
  cases r with
  | ok code => exact leads_of_ends (hbody.command debug) hmiddle herr
  | error f =>
    have hmapped := hbody.map_error fun code => code.getD 0
    cases hcase : f.family.isReported && !debug with
    | false => exact leads_of_ends (ends_report_out hmapped hcase) hmiddle herr
    | true =>
      cases hrender : middle.surroundings.screen.render (errorLine f) with
      | ok shown =>
        have hadded : middle.stderr ++ middle.surroundings.screen.line shown =
            before.stderr ++ lead ++ (err ++ middle.surroundings.screen.line shown) := by
          simp [hmiddle]
        exact leads_of_ends (ends_report_shown hmapped hcase hrender) hadded
          (herr.append (notWarning_errorLine hrender))
      | error e => exact leads_of_ends (ends_report_unshown hmapped hcase hrender) hmiddle herr

end Run

namespace Decode

variable {o : Options} {quiet : Bool} {before : Progress}

theorem render_notice_eq (screen : Screen) (path : Text) :
    screen.render (notice path) =
      (Markup.renderFrom screen.complaint? 13 0 [⟨"dim".toList, none⟩]
        (path ++ "[/dim]".toList)).map fun pieces =>
          (Markup.lead "- wrote ".toList pieces).flatMap (Markup.replaceNames screen.picture?) := by
  have htag : Markup.IsTag "dim".toList := ⟨by decide, by decide, by decide⟩
  have hnotice : notice path = '[' :: ("dim".toList ++ ']' :: ("- wrote".toList ++
      ' ' :: (path ++ "[/dim]".toList))) :=
    List.append_assoc "[dim]- wrote ".toList path "[/dim]".toList
  have henter : Markup.enter screen.complaint? 0 [] "dim".toList = .ok [⟨"dim".toList, none⟩] :=
    rfl
  rw [hnotice, Screen.render, Markup.render, Markup.renderFrom_entered htag henter,
    Markup.renderFrom_append_cons (by decide) (by decide) (by decide)]
  change Except.map _ (Except.map _ (Except.map _ (Markup.renderFrom screen.complaint? 13 0 _ _)))
    = _
  cases Markup.renderFrom screen.complaint? 13 0 [⟨"dim".toList, none⟩] _ with
  | error e => rfl
  | ok pieces => rfl

theorem notWarning_notice {screen : Screen} {path shown : Text}
    (h : screen.render (notice path) = .ok shown) : Run.NotWarning (screen.line shown) := by
  rw [render_notice_eq] at h
  obtain ⟨pieces, -, hshown⟩ := Except.map_eq_ok_iff.mp h
  obtain ⟨rest, rfl⟩ : ∃ rest, shown = '-' :: rest := by
    rw [← hshown]
    cases pieces with
    | nil => exact ⟨_, rfl⟩
    | cons piece pieces => exact ⟨_, rfl⟩
  have hhead : (screen.line ('-' :: rest)).head? = some 0x2d :=
    screen.head?_line (Console.isKept_of_le (by decide)) (by decide) (by decide) (by decide) _
  rw [Run.NotWarning, hhead]
  decide

theorem leads_output (data : Blob) : Run.Leads [] (output o quiet data) before := by
  unfold output
  cases o.output.filter (· ≠ []) with
  | none =>
    cases o.format with
    | raw => exact Run.leads_of_silent (Run.ends_writeOut data before) rfl
    | hex => exact Run.leads_of_silent (Run.ends_print _ before) rfl
    | text =>
      refine Run.Leads.bind (Run.leads_of_silent (Run.ends_ofExcept _ before) rfl) ?_
      intro t middle
      exact Run.leads_of_silent (Run.ends_print t middle) rfl
  | some path =>
    refine Run.Leads.bind (Run.leads_of_silent (Run.ends_surroundings before) rfl) ?_
    intro s middle
    refine Run.Leads.bind (Run.leads_of_silent (Run.ends_ofExcept _ middle) rfl) ?_
    intro files middle
    refine Run.Leads.bind (Run.leads_of_silent (Run.ends_setSurroundings _ middle) rfl) ?_
    intro _ middle
    cases quiet with
    | true => exact Run.leads_of_silent (Run.ends_pure () middle) rfl
    | false => exact Run.leads_printMarkedErr fun screen shown => notWarning_notice

def Warns (s : Surroundings) (config : Config) (o : Options) (quiet : Bool) (stdin : Blob) : Prop :=
  quiet = false ∧ ∃ t data, s.readText stdin o.text o.file = .ok t ∧
    blob config.format o t = .ok (data, true)

theorem leads_deliver_false (data : Blob) :
    Run.Leads [] (deliver o quiet (.ok (data, false))) before :=
  (leads_output data).bind fun _ middle => Run.leads_of_silent (Run.ends_pure none middle) rfl

theorem leads_deliver_true (data : Blob) :
    Run.Leads (if quiet then [] else warningLine) (deliver o quiet (.ok (data, true))) before := by
  have hwarn : Run.Leads (if quiet then [] else warningLine) (Run.warn quiet paddingWarning)
      before :=
    Run.leads_of_ends (ends_warn quiet before) (List.append_nil _).symm Run.notWarning_nil
  exact hwarn.bind fun _ _ => leads_deliver_false data

theorem leads_run_of_deliver {config : Config} {stdin lead : Blob} {t : Text}
    (htext : before.surroundings.readText stdin o.text o.file = .ok t)
    (h : Run.Leads lead (deliver o quiet (blob config.format o t)) before) :
    Run.Leads lead (run config o quiet stdin) before := by
  intro result after hends
  obtain ⟨r, p, hdeliver⟩ := Run.exists_ends (deliver o quiet (blob config.format o t)) before
  obtain ⟨-, rfl⟩ := (ends_run_of_deliver htext hdeliver).unique hends
  exact h r p hdeliver

variable {config : Config} {stdin : Blob}

theorem leads_run_of_warns (h : Warns before.surroundings config o quiet stdin) :
    Run.Leads warningLine (run config o quiet stdin) before := by
  obtain ⟨rfl, t, data, htext, hblob⟩ := h
  apply leads_run_of_deliver htext
  rw [hblob]
  exact leads_deliver_true data

theorem leads_run_of_not_warns (h : ¬ Warns before.surroundings config o quiet stdin) :
    Run.Leads [] (run config o quiet stdin) before := by
  cases htext : before.surroundings.readText stdin o.text o.file with
  | error f =>
    have hread : Run.Ends (Run.ofExcept (before.surroundings.readText stdin o.text o.file)) before
        (.error f) before := by
      rw [htext]
      exact Run.ends_ofExcept _ before
    exact Run.leads_of_silent ((Run.ends_surroundings before).bind hread.bind_error) rfl
  | ok t =>
    apply leads_run_of_deliver htext
    cases hblob : blob config.format o t with
    | error e => exact Run.leads_of_silent (Run.Ends.bind_error rfl) rfl
    | ok decoded =>
      obtain ⟨data, dropped⟩ := decoded
      cases dropped with
      | false => exact leads_deliver_false data
      | true =>
        have hquiet : quiet = true := by
          by_contra hloud
          exact h ⟨by simpa using hloud, t, data, htext, hblob⟩
        subst hquiet
        exact leads_deliver_true data

theorem not_warningLine_isPrefix {err : Blob} (h : Run.NotWarning err) : ¬ warningLine <+: err := by
  intro hwarned
  obtain ⟨rest, rfl⟩ := hwarned
  have hhead : (warningLine ++ rest).head? = some 0x57 := rfl
  exact h hhead

theorem blob_eq_dropped_iff {f : Format} {t : Text} {data : Blob} :
    blob f o t = .ok (data, true) ↔
      Yields f o t data ∧ ∃ vs : List Base32.Symbol,
        Base32.spelling (Decoration.compact f.separator t) = vs.map Base32.Symbol.char ∧
          ∃ b ∈ Base32.droppedBits vs, b = true := by
  have hdropped (vs : List Base32.Symbol) :
      Base32.zeroPadded vs = false ↔ ∃ b ∈ Base32.droppedBits vs, b = true := by
    rw [← Bool.not_eq_true, Base32.zeroPadded_iff_dropped]
    simp
  constructor
  · intro h
    obtain ⟨-, hpadding⟩ := blob_eq_ok_iff.mp h
    obtain ⟨vs, hspell, hzero⟩ := Base32.hasCanonicalPadding_eq_ok_iff.mp hpadding
    exact ⟨yields_of_blob h, vs, hspell, (hdropped vs).mp hzero⟩
  · rintro ⟨hyields, vs, hspell, hbits⟩
    obtain ⟨dropped, hblob⟩ := blob_of_yields hyields
    have hpadding := (blob_eq_ok_iff.mp hblob).2
    rw [Base32.hasCanonicalPadding_eq_ok_iff.mpr ⟨vs, hspell, (hdropped vs).mpr hbits⟩] at hpadding
    have htrue : dropped = true := by simpa using hpadding
    rw [hblob, htrue]

end Decode

namespace Session

open CommandLine

variable {s : Session} {arguments rest : List Text} {g : Globals} {config : Config}
  {o : Decode.Options} {stdin : Blob}

theorem invoke_decode_warns_iff (hcalls : Calls arguments g .decode rest)
    (hload : s.surroundings.loadConfig g.config = .ok config)
    (hasks : Asks .decode Decode.Options.ofParsed rest o) :
    Decode.warningLine <+: (s.invoke arguments stdin).1.stderr ↔
      Decode.Warns s.surroundings config o (g.context config).quiet stdin := by
  let before : Progress := ⟨s.surroundings, g.consoles config, [], [], []⟩
  obtain ⟨result, after, hends⟩ := Run.exists_ends
    (Run.command g.debug (Decode.run config o (g.context config).quiet stdin)) before
  rw [invoke_of_body hcalls hload (.decode hasks) hends]
  by_cases hwarns : Decode.Warns before.surroundings config o (g.context config).quiet stdin
  · have hleads := (Decode.leads_run_of_warns hwarns).command g.debug
    obtain ⟨err, herr, -⟩ := hleads _ _ hends
    exact iff_of_true ⟨err, herr.symm⟩ hwarns
  · have hleads := (Decode.leads_run_of_not_warns hwarns).command g.debug
    obtain ⟨err, herr, hother⟩ := hleads _ _ hends
    refine iff_of_false ?_ hwarns
    rw [herr]
    exact Decode.not_warningLine_isPrefix hother

end Session

end CheckedText
