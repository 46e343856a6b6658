import CheckedText.Proofs.RunContracts

/-!
# Parts of the progress that a run spares

Most steps of a run have to do with one part of the progress only. A run spares a part if all its
steps do, however it ends; what is printed about a failure spares all but the printed text.
-/

namespace CheckedText.Run

variable {α β γ : Type} {view : Progress → γ} {before after : Progress}

/-- However the run ends, a part of the progress is as before. -/
def Spares (view : Progress → γ) (x : Run α) : Prop :=
  ∀ before result after, Ends x before result after → view after = view before

theorem spares_of_ends {x : Run α} {results : Progress → Except Failure α}
    {change : Progress → Progress} (hends : ∀ p, Ends x p (results p) (change p))
    (hview : ∀ p, view (change p) = view p) : Spares view x := by
  intro before result after h
  obtain ⟨-, rfl⟩ := (hends before).unique h
  exact hview before

theorem ends_launch (l : Launch) (before : Progress) :
    Ends (launch l) before (.ok ()) { before with launched := before.launched ++ [l] } :=
  rfl

theorem spares_ofExcept (r : Except Failure α) : Spares view (ofExcept r) :=
  spares_of_ends (ends_ofExcept r) fun _ => rfl

theorem spares_pure (a : α) : Spares view (pure a : Run α) :=
  spares_ofExcept (.ok a)

theorem spares_throw (f : Failure) : Spares view (throw f : Run α) :=
  spares_ofExcept (.error f)

theorem spares_surroundings : Spares view surroundings :=
  spares_of_ends ends_surroundings fun _ => rfl

theorem Spares.bind {x : Run α} {g : α → Run β} (hx : Spares view x)
    (hg : ∀ a, Spares view (g a)) : Spares view (x >>= g) := by
  intro before result after h
  rcases ends_bind_cases h with ⟨a, middle, hfirst, hrest⟩ | ⟨e, hfirst, -⟩
  · exact (hg a middle result after hrest).trans (hx before _ middle hfirst)
  · exact hx before _ after hfirst

theorem Spares.view_eq {x : Run α} {g : α → Run β} {a : α} {middle : Progress}
    {result : Except Failure β} (hg : Spares view (g a)) (hx : Ends x before (.ok a) middle)
    (h : Ends (x >>= g) before result after) : view after = view middle := by
  obtain ⟨r, last, hlast⟩ := exists_ends (g a) middle
  obtain ⟨-, rfl⟩ := (hx.bind hlast).unique h
  exact hg middle r last hlast

theorem Spares.forM {ls : List α} {f : α → Run Unit} (hf : ∀ a, Spares view (f a)) :
    Spares view (ls.forM f) := by
  induction ls with
  | nil => exact spares_pure ()
  | cons a ls ih => exact (hf a).bind fun _ => ih

theorem ends_tryCatch_view {x : Run α} {handle : Failure → Run α} {result : Except Failure α}
    (hhandle : ∀ f, Spares view (handle f)) (h : Ends (tryCatch x handle) before result after) :
    ∃ r middle, Ends x before r middle ∧ view after = view middle ∧
      ∀ a, r = .ok a → result = r := by
  obtain ⟨r, middle, hx⟩ := exists_ends x before
  refine ⟨r, middle, hx, ?_⟩
  cases r with
  | ok a =>
    obtain ⟨rfl, rfl⟩ := hx.tryCatch.unique h
    exact ⟨rfl, fun _ _ => rfl⟩
  | error f =>
    obtain ⟨r, last, hlast⟩ := exists_ends (handle f) middle
    obtain ⟨-, rfl⟩ := (hx.tryCatch_error hlast).unique h
    exact ⟨hhandle f middle r last hlast, nofun⟩

theorem spares_marked (lay : Screen → Text → Blob) (t : Text) : Spares view (marked lay t) :=
  spares_surroundings.bind fun _ => spares_ofExcept _

/-- A part that has nothing to do with what is printed. -/
structure IsUnprinted (view : Progress → γ) : Prop where
  out : ∀ p data, view { p with stdout := p.stdout ++ data } = view p
  err : ∀ p data, view { p with stderr := p.stderr ++ data } = view p

theorem isUnprinted_consoles : IsUnprinted Progress.consoles :=
  ⟨fun _ _ => rfl, fun _ _ => rfl⟩

theorem isUnprinted_launched : IsUnprinted Progress.launched :=
  ⟨fun _ _ => rfl, fun _ _ => rfl⟩

section Printing

variable (hview : IsUnprinted view)
include hview

theorem spares_writeOut (data : Blob) : Spares view (writeOut data) :=
  spares_of_ends (ends_writeOut data) fun p => hview.out p data

theorem spares_writeErr (data : Blob) : Spares view (writeErr data) :=
  spares_of_ends (ends_writeErr data) fun p => hview.err p data

theorem spares_print (t : Text) : Spares view (print t) :=
  spares_writeOut hview (Console.line t)

theorem spares_printMarked (t : Text) : Spares view (printMarked t) :=
  (spares_marked _ t).bind (spares_writeOut hview)

theorem spares_printUncut (t : Text) : Spares view (printUncut t) :=
  (spares_marked _ t).bind (spares_writeOut hview)

theorem spares_printMarkedErr (t : Text) : Spares view (printMarkedErr t) :=
  (spares_marked _ t).bind (spares_writeErr hview)

theorem spares_warn (quiet : Bool) (t : Text) : Spares view (warn quiet t) := by
  unfold warn
  split
  · exact spares_pure ()
  · exact spares_printMarkedErr hview _

theorem ends_report_view {x : Run α} {debug : Bool} {isReported : Failure.Family → Bool}
    {ended : Int → α} {result : Except Failure α}
    (h : Ends (report debug isReported ended x) before result after) :
    ∃ r middle, Ends x before r middle ∧ view after = view middle ∧
      ∀ a, r = .ok a → result = r := by
  refine ends_tryCatch_view (fun f => ?_) h
  split
  · exact (spares_printMarkedErr hview _).bind fun _ => spares_pure _
  · exact spares_throw f

theorem ends_command_view {debug : Bool} {body : Run (Option Int)} {result : Except Failure Int}
    (h : Ends (command debug body) before result after) :
    ∃ r middle, Ends body before r middle ∧ view after = view middle ∧
      ∀ code, r = .ok code → result = .ok (code.getD 0) := by
  obtain ⟨mapped, middle, hmapped, hsame, hresult⟩ := ends_report_view hview h
  obtain ⟨r, hbody, rfl⟩ := ends_map_cases hmapped
  refine ⟨r, middle, hbody, hsame, ?_⟩
  rintro code rfl
  exact hresult _ rfl

theorem Spares.command {debug : Bool} {body : Run (Option Int)} (hbody : Spares view body) :
    Spares view (command debug body) := by
  intro before result after h
  obtain ⟨r, middle, hends, hsame, -⟩ := ends_command_view hview h
  exact hsame.trans (hbody before r middle hends)

end Printing

end CheckedText.Run
