import CheckedText.Proofs.Invocation

/-!
# What a run can do

A contract says how a run may end and which surroundings it may leave behind, given those that it
starts in. The contract of a sequence follows from those of its steps, so each step is looked at
once. Most steps stay where they are: they leave the surroundings alone and have few ways to fail.
-/

namespace CheckedText.Run

variable {α β : Type} {before after : Progress} {s : Surroundings} {f : Failure}

theorem exists_ends (x : Run α) (before : Progress) :
    ∃ result after, Ends x before result after :=
  ⟨_, _, rfl⟩

theorem Ends.unique {x : Run α} {r r' : Except Failure α} {after' : Progress}
    (h : Ends x before r after) (h' : Ends x before r' after') : r = r' ∧ after = after' :=
  Prod.mk.inj (h.symm.trans h')

theorem ends_bind_cases {x : Run α} {g : α → Run β} {result : Except Failure β}
    (h : Ends (x >>= g) before result after) :
    (∃ a middle, Ends x before (.ok a) middle ∧ Ends (g a) middle result after) ∨
      ∃ e, Ends x before (.error e) after ∧ result = .error e := by
  obtain ⟨r, middle, hx⟩ := exists_ends x before
  cases r with
  | ok a =>
    obtain ⟨r, final, hg⟩ := exists_ends (g a) middle
    obtain ⟨rfl, rfl⟩ := (hx.bind hg).unique h
    exact .inl ⟨a, middle, hx, hg⟩
  | error e =>
    obtain ⟨rfl, rfl⟩ := (Ends.bind_error hx).unique h
    exact .inr ⟨e, hx, rfl⟩

theorem ends_map_cases {x : Run α} {g : α → β} {result : Except Failure β}
    (h : Ends (x.map g) before result after) :
    ∃ r, Ends x before r after ∧ result = r.map g := by
  obtain ⟨r, middle, hx⟩ := exists_ends x before
  cases r with
  | ok a =>
    obtain ⟨rfl, rfl⟩ := (hx.map g).unique h
    exact ⟨.ok a, hx, rfl⟩
  | error e =>
    obtain ⟨rfl, rfl⟩ := (hx.map_error g).unique h
    exact ⟨.error e, hx, rfl⟩

theorem ends_command_congr {debug : Bool} {body body' : Run (Option Int)}
    {r : Except Failure (Option Int)} {middle : Progress} {result : Except Failure Int}
    (hbody : Ends body before r middle) (hbody' : Ends body' before r middle)
    (h : Ends (command debug body) before result after) :
    Ends (command debug body') before result after := by
  have hmapped : (body'.map fun code => code.getD 0).run.run before =
      (body.map fun code => code.getD 0).run.run before := by
    cases r with
    | ok code => exact Eq.trans (hbody'.map _) (Eq.symm (hbody.map _))
    | error e => exact Eq.trans (hbody'.map_error _) (Eq.symm (hbody.map_error _))
  unfold Ends command report at h ⊢
  rw [ExceptT.run_tryCatch, StateT.run_bind] at h ⊢
  rw [hmapped]
  exact h

theorem ends_marked_error {t : Text} {e : Markup.Fault} (lay : Screen → Text → Blob)
    (h : before.surroundings.screen.render t = .error e) :
    Ends (marked lay t) before (.error (.markup e)) before := by
  refine (ends_surroundings before).bind ?_
  rw [h]
  rfl

section Report

variable {x : Run α} {debug : Bool} {isReported : Failure.Family → Bool} {ended : Int → α}

theorem ends_report_out (hx : Ends x before (.error f) after)
    (hout : (isReported f.family && !debug) = false) :
    Ends (report debug isReported ended x) before (.error f) after := by
  refine Ends.tryCatch_error hx ?_
  rw [hout]
  rfl

theorem ends_report_shown {shown : Text} (hx : Ends x before (.error f) after)
    (hreported : (isReported f.family && !debug) = true)
    (hshown : after.surroundings.screen.render (errorLine f) = .ok shown) :
    Ends (report debug isReported ended x) before (.ok (ended failureCode))
      { after with stderr := after.stderr ++ after.surroundings.screen.line shown } := by
  refine Ends.tryCatch_error hx ?_
  rw [hreported]
  exact (ends_printMarkedErr hshown).bind (ends_pure _ _)

theorem ends_report_unshown {e : Markup.Fault} (hx : Ends x before (.error f) after)
    (hreported : (isReported f.family && !debug) = true)
    (hfault : after.surroundings.screen.render (errorLine f) = .error e) :
    Ends (report debug isReported ended x) before (.error (.markup e)) after := by
  refine Ends.tryCatch_error hx ?_
  rw [hreported]
  exact (ends_marked_error _ hfault).bind_error.bind_error

end Report

/-- However a run ends that starts in the surroundings `s`, its result and the surroundings that
it leaves are as `post` says. -/
def Ensures (s : Surroundings) (x : Run α) (post : Except Failure α → Surroundings → Prop) :
    Prop :=
  ∀ before result after, before.surroundings = s → Ends x before result after →
    post result after.surroundings

section Ensures

variable {x : Run α} {post : Except Failure α → Surroundings → Prop}

theorem Ensures.mono {weaker : Except Failure α → Surroundings → Prop} (h : Ensures s x post)
    (hweaker : ∀ result t, post result t → weaker result t) : Ensures s x weaker :=
  fun before result after hs hends => hweaker _ _ (h before result after hs hends)

theorem ensures_ofExcept {r : Except Failure α} (h : post r s) : Ensures s (ofExcept r) post := by
  intro before result after hs hends
  obtain ⟨rfl, rfl⟩ := (ends_ofExcept r before).unique hends
  rwa [hs]

theorem Ensures.bind {g : α → Run β} {middle : Except Failure α → Surroundings → Prop}
    {post : Except Failure β → Surroundings → Prop} (hx : Ensures s x middle)
    (hok : ∀ a t, middle (.ok a) t → Ensures t (g a) post)
    (herror : ∀ e t, middle (.error e) t → post (.error e) t) : Ensures s (x >>= g) post := by
  intro before result after hs hends
  rcases ends_bind_cases hends with ⟨a, p, hfirst, hg⟩ | ⟨e, hfirst, rfl⟩
  · exact hok a _ (hx before _ p hs hfirst) p result after rfl hg
  · exact herror e _ (hx before _ after hs hfirst)

theorem ensures_surroundings_bind {g : Surroundings → Run α} (h : Ensures s (g s) post) :
    Ensures s (surroundings >>= g) post := by
  intro before result after hs hends
  rcases ends_bind_cases hends with ⟨a, p, hends, hg⟩ | ⟨e, hends, -⟩
  · obtain ⟨ha, rfl⟩ := (ends_surroundings before).unique hends
    cases ha
    rw [hs] at hg
    exact h before result after hs hg
  · obtain ⟨he, -⟩ := (ends_surroundings before).unique hends
    cases he

theorem ensures_setSurroundings {t : Surroundings}
    {post : Except Failure Unit → Surroundings → Prop} (h : post (.ok ()) t) :
    Ensures s (setSurroundings t) post := by
  intro before result after _ hends
  obtain ⟨rfl, rfl⟩ := (ends_setSurroundings t before).unique hends
  exact h

theorem Ensures.report {debug : Bool} {isReported : Failure.Family → Bool} {ended : Int → α}
    {middle : Except Failure α → Surroundings → Prop} (hbody : Ensures s x middle)
    (hok : ∀ a t, middle (.ok a) t → post (.ok a) t)
    (hout : ∀ f t, middle (.error f) t → (isReported f.family && !debug) = false →
      post (.error f) t)
    (hreported : ∀ f t, middle (.error f) t → (isReported f.family && !debug) = true →
      match t.screen.render (errorLine f) with
      | .ok _ => post (.ok (ended failureCode)) t
      | .error e => post (.error (.markup e)) t) :
    Ensures s (report debug isReported ended x) post := by
  intro before result after hs hends
  obtain ⟨r, p, hx⟩ := exists_ends x before
  have hmiddle := hbody before r p hs hx
  cases r with
  | ok a =>
    obtain ⟨rfl, rfl⟩ := (Ends.tryCatch hx).unique hends
    exact hok a _ hmiddle
  | error e =>
    cases hcase : isReported e.family && !debug with
    | false =>
      obtain ⟨rfl, rfl⟩ := (ends_report_out hx hcase).unique hends
      exact hout e _ hmiddle hcase
    | true =>
      have hresult := hreported e _ hmiddle hcase
      cases hrender : p.surroundings.screen.render (errorLine e) with
      | ok shown =>
        rw [hrender] at hresult
        obtain ⟨rfl, rfl⟩ := (ends_report_shown hx hcase hrender).unique hends
        exact hresult
      | error m =>
        rw [hrender] at hresult
        obtain ⟨rfl, rfl⟩ := (ends_report_unshown hx hcase hrender).unique hends
        exact hresult

end Ensures

/-- Leaves surroundings that `left` has, fails only in ways that `allowed` has, and gives only what
`good` has. -/
def Meets (s : Surroundings) (left : Surroundings → Prop) (allowed : Failure → Prop)
    (good : α → Prop) (x : Run α) : Prop :=
  Ensures s x fun result t =>
    left t ∧ (∀ f, result = .error f → allowed f) ∧ ∀ a, result = .ok a → good a

def Stays (s : Surroundings) (allowed : Failure → Prop) (good : α → Prop) (x : Run α) : Prop :=
  Meets s (· = s) allowed good x

section Meets

variable {left : Surroundings → Prop} {allowed : Failure → Prop} {good : α → Prop}
  {good' : β → Prop} {x : Run α}

theorem Meets.mono {left' : Surroundings → Prop} {allowed' : Failure → Prop} {good' : α → Prop}
    (h : Meets s left allowed good x) (hleft : ∀ t, left t → left' t)
    (hallowed : ∀ f, allowed f → allowed' f) (hgood : ∀ a, good a → good' a) :
    Meets s left' allowed' good' x := by
  refine Ensures.mono h ?_
  rintro result t ⟨ht, herror, hok⟩
  exact ⟨hleft t ht, fun f hf => hallowed f (herror f hf), fun a ha => hgood a (hok a ha)⟩

theorem meets_ofExcept {r : Except Failure α} (hleft : left s)
    (herror : ∀ f, r = .error f → allowed f) (hok : ∀ a, r = .ok a → good a) :
    Meets s left allowed good (ofExcept r) :=
  ensures_ofExcept ⟨hleft, herror, hok⟩

theorem meets_pure {a : α} (hleft : left s) (h : good a) : Meets s left allowed good (pure a) :=
  meets_ofExcept (r := .ok a) hleft nofun fun _ ha => Except.ok.inj ha ▸ h

theorem meets_throw (hleft : left s) (h : allowed f) : Meets s left allowed good (throw f) :=
  meets_ofExcept (r := .error f) hleft (fun _ he => Except.error.inj he ▸ h) nofun

theorem meets_ofExcept_cases {r : Except Failure α} {g : α → Run β}
    (herror : ∀ f, r = .error f → left s ∧ allowed f)
    (hok : ∀ a, r = .ok a → Meets s left allowed good' (g a)) :
    Meets s left allowed good' (ofExcept r >>= g) := by
  cases r with
  | ok a => exact hok a rfl
  | error e => exact meets_throw (herror e rfl).1 (herror e rfl).2

theorem meets_ofExcept_bind {r : Except Failure α} {g : α → Run β} (hleft : left s)
    (herror : ∀ f, r = .error f → allowed f)
    (hok : ∀ a, r = .ok a → Meets s left allowed good' (g a)) :
    Meets s left allowed good' (ofExcept r >>= g) :=
  meets_ofExcept_cases (fun f hf => ⟨hleft, herror f hf⟩) hok

theorem meets_surroundings_bind {g : Surroundings → Run α} (h : Meets s left allowed good (g s)) :
    Meets s left allowed good (surroundings >>= g) :=
  ensures_surroundings_bind h

theorem Meets.bind {g : α → Run β} {left' : Surroundings → Prop} (hx : Meets s left allowed good x)
    (hleft : ∀ t, left t → left' t)
    (hg : ∀ a t, left t → good a → Meets t left' allowed good' (g a)) :
    Meets s left' allowed good' (x >>= g) := by
  refine Ensures.bind hx ?_ ?_
  · rintro a t ⟨ht, -, hgood⟩
    exact hg a t ht (hgood a rfl)
  · rintro e t ⟨ht, herror, -⟩
    exact ⟨hleft t ht, fun f hf => Except.error.inj hf ▸ herror e rfl, nofun⟩

theorem Stays.bind_meets {g : α → Run β} (hx : Stays s allowed good x) (hleft : left s)
    (hg : ∀ a, good a → Meets s left allowed good' (g a)) :
    Meets s left allowed good' (x >>= g) :=
  Meets.bind hx (fun _ ht => ht ▸ hleft) fun a _ ht ha => ht ▸ hg a ha

theorem Stays.bind {g : α → Run β} (hx : Stays s allowed good x)
    (hg : ∀ a, good a → Stays s allowed good' (g a)) : Stays s allowed good' (x >>= g) :=
  hx.bind_meets rfl hg

theorem Stays.bind_sure {g : α → Run β} (hx : Stays s (fun _ => False) good x)
    (hg : ∀ a, good a → Meets s left allowed good' (g a)) :
    Meets s left allowed good' (x >>= g) := by
  unfold Stays Meets at hx
  refine Ensures.bind hx ?_ ?_
  · rintro a t ⟨rfl, -, hgood⟩
    exact hg a (hgood a rfl)
  · rintro e t ⟨-, herror, -⟩
    exact (herror e rfl).elim

theorem Stays.meets (hx : Stays s allowed good x) (hleft : left s) :
    Meets s left allowed good x :=
  Meets.mono hx (fun _ ht => ht ▸ hleft) (fun _ hf => hf) fun _ ha => ha

theorem stays_modify {change : Progress → Progress}
    (h : ∀ p, (change p).surroundings = p.surroundings) :
    Stays s allowed (fun _ => True) (modify change : Run Unit) := by
  intro before result after hs hends
  have hchange : Ends (modify change : Run Unit) before (.ok ()) (change before) := rfl
  obtain ⟨rfl, rfl⟩ := hchange.unique hends
  exact ⟨(h before).trans hs, nofun, fun _ _ => trivial⟩

theorem meets_setSurroundings {t : Surroundings} :
    Meets s (· = t) allowed (fun _ => True) (setSurroundings t) :=
  ensures_setSurroundings ⟨rfl, nofun, fun _ _ => trivial⟩

theorem stays_writeOut (data : Blob) : Stays s allowed (fun _ => True) (writeOut data) :=
  stays_modify fun _ => rfl

theorem stays_writeErr (data : Blob) : Stays s allowed (fun _ => True) (writeErr data) :=
  stays_modify fun _ => rfl

theorem stays_print (t : Text) : Stays s allowed (fun _ => True) (print t) :=
  stays_writeOut _

theorem stays_setNoColor (b : Bool) : Stays s allowed (fun _ => True) (setNoColor b) :=
  stays_modify fun _ => rfl

theorem stays_launch (l : Launch) : Stays s allowed (fun _ => True) (launch l) :=
  stays_modify fun _ => rfl

theorem stays_forM_print (ls : List Text) : Stays s allowed (fun _ => True) (ls.forM print) := by
  induction ls with
  | nil => exact meets_pure rfl trivial
  | cons l ls ih => exact (stays_print l).bind fun _ _ => ih

theorem stays_marked {lay : Screen → Text → Blob} {t : Text}
    (h : ∀ e, s.screen.render t = .error e → allowed (.markup e)) :
    Stays s allowed (fun _ => True) (marked lay t) := by
  refine meets_surroundings_bind (meets_ofExcept rfl ?_ fun _ _ => trivial)
  cases hrender : s.screen.render t with
  | ok shown => nofun
  | error e =>
    rintro f ⟨⟩
    exact h e hrender

theorem stays_printMarked {t : Text} (h : ∀ e, s.screen.render t = .error e → allowed (.markup e)) :
    Stays s allowed (fun _ => True) (printMarked t) :=
  (stays_marked h).bind fun line _ => stays_writeOut line

theorem stays_printUncut {t : Text} (h : ∀ e, s.screen.render t = .error e → allowed (.markup e)) :
    Stays s allowed (fun _ => True) (printUncut t) :=
  (stays_marked h).bind fun line _ => stays_writeOut line

theorem stays_printMarkedErr {t : Text}
    (h : ∀ e, s.screen.render t = .error e → allowed (.markup e)) :
    Stays s allowed (fun _ => True) (printMarkedErr t) :=
  (stays_marked h).bind fun line _ => stays_writeErr line

end Meets

end CheckedText.Run
