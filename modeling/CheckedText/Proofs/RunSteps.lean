import CheckedText.CommandLine
import CheckedText.Proofs.Except

/-!
# How runs end

A run is followed step by step: what it gives or fails with, and how far it got. A command line is
followed down to the command that it asks for.
-/

namespace CheckedText

namespace Run

variable {α β : Type}

/-- From one progress to another, with a result or a failure. -/
def Ends (x : Run α) (before : Progress) (result : Except Failure α) (after : Progress) : Prop :=
  x.run.run before = (result, after)

variable {before middle after : Progress}

theorem ends_pure (a : α) (before : Progress) : Ends (pure a) before (.ok a) before := rfl

theorem ends_surroundings (before : Progress) :
    Ends surroundings before (.ok before.surroundings) before := rfl

theorem ends_ofExcept (r : Except Failure α) (before : Progress) :
    Ends (ofExcept r) before r before := rfl

theorem ends_writeOut (data : Blob) (before : Progress) :
    Ends (writeOut data) before (.ok ()) { before with stdout := before.stdout ++ data } := rfl

theorem ends_writeErr (data : Blob) (before : Progress) :
    Ends (writeErr data) before (.ok ()) { before with stderr := before.stderr ++ data } := rfl

theorem ends_setSurroundings (s : Surroundings) (before : Progress) :
    Ends (setSurroundings s) before (.ok ()) { before with surroundings := s } := rfl

theorem Ends.bind {x : Run α} {f : α → Run β} {a : α} {result : Except Failure β}
    (hx : Ends x before (.ok a) middle) (hf : Ends (f a) middle result after) :
    Ends (x >>= f) before result after := by
  unfold Ends at hx hf ⊢
  rw [ExceptT.run_bind, StateT.run_bind, hx]
  exact hf

theorem Ends.ofExcept_bind {r : Except Failure α} {f : α → Run β} {a : α}
    {result : Except Failure β} (hr : r = .ok a) (hf : Ends (f a) before result after) :
    Ends (ofExcept r >>= f) before result after :=
  Ends.bind (hr ▸ ends_ofExcept r before) hf

theorem Ends.map {x : Run α} {a : α} (f : α → β) (hx : Ends x before (.ok a) after) :
    Ends (x.map f) before (.ok (f a)) after := by
  unfold Ends at hx ⊢
  change (f <$> x).run.run before = _
  rw [ExceptT.run_map, StateT.run_map, hx]
  rfl

theorem Ends.tryCatch {x : Run α} {handle : Failure → Run α} {a : α}
    (hx : Ends x before (.ok a) after) : Ends (tryCatch x handle) before (.ok a) after := by
  unfold Ends at hx ⊢
  rw [ExceptT.run_tryCatch, StateT.run_bind, hx]
  rfl

theorem Ends.command {body : Run (Option Int)} {code : Option Int} (debug : Bool)
    (hbody : Ends body before (.ok code) after) :
    Ends (command debug body) before (.ok (code.getD 0)) after :=
  (hbody.map _).tryCatch

theorem ends_print (t : Text) (before : Progress) :
    Ends (print t) before (.ok ()) { before with stdout := before.stdout ++ Console.line t } := rfl

theorem ends_marked {t shown : Text} (lay : Screen → Text → Blob)
    (h : before.surroundings.screen.render t = .ok shown) :
    Ends (marked lay t) before (.ok (lay before.surroundings.screen shown)) before := by
  refine (ends_surroundings before).bind ?_
  rw [h]
  rfl

theorem ends_printMarked {t shown : Text} (h : before.surroundings.screen.render t = .ok shown) :
    Ends (printMarked t) before (.ok ())
      { before with stdout := before.stdout ++ before.surroundings.screen.line shown } :=
  (ends_marked Screen.line h).bind (ends_writeOut _ before)

theorem ends_printMarkedErr {t shown : Text}
    (h : before.surroundings.screen.render t = .ok shown) :
    Ends (printMarkedErr t) before (.ok ())
      { before with stderr := before.stderr ++ before.surroundings.screen.line shown } :=
  (ends_marked Screen.line h).bind (ends_writeErr _ before)

theorem ends_forM_print (ls : List Text) (before : Progress) :
    Ends (ls.forM print) before (.ok ())
      { before with stdout := before.stdout ++ ls.flatMap Console.line } := by
  induction ls generalizing before with
  | nil => simpa using ends_pure () before
  | cons l ls ih =>
    have hrest := ih { before with stdout := before.stdout ++ Console.line l }
    rw [List.append_assoc, ← List.flatMap_cons] at hrest
    exact (ends_print l before).bind hrest

end Run

namespace CommandLine

/-- Arguments with which a command runs: they can be read, they ask for no help, and they give
these options. -/
def Asks {α : Type} (c : Command) (read : Options.Parsed → Except Usage α) (arguments : List Text)
    (o : α) : Prop :=
  ∃ p, Options.parse c.options true arguments = .ok p ∧ answer? (commandHelp c) p = none ∧
    read p = .ok o

variable {context : Context} {config : Config} {arguments : List Text} {stdin : Blob}
  {before after : Progress}

theorem Asks.ends {α : Type} {c : Command} {read : Options.Parsed → Except Usage α} {o : α}
    {body : α → Run Int} {result : Except Failure Int} (hasks : Asks c read arguments o)
    (hcommand : runCommand c context arguments stdin = do
      let p ← usage (Options.parse c.options true arguments)
      if let some ls := answer? (commandHelp c) p then printAll ls
      else body (← usage (read p)))
    (hbody : Run.Ends (body o) before result after) :
    Run.Ends (runCommand c context arguments stdin) before result after := by
  obtain ⟨p, hparse, hanswer, ho⟩ := hasks
  rw [hcommand]
  refine Run.Ends.ofExcept_bind (Except.mapError_eq_ok_iff.mpr hparse) ?_
  rw [hanswer]
  exact Run.Ends.ofExcept_bind (Except.mapError_eq_ok_iff.mpr ho) hbody

theorem loaded_eq_ok (hconfig : context.config = some config) : context.loaded = .ok config := by
  rw [Context.loaded, hconfig]

theorem ends_encode {o : Encode.Options} {code : Option Int}
    (hasks : Asks .encode Encode.Options.ofParsed arguments o)
    (hconfig : context.config = some config)
    (hrun : Run.Ends (Encode.run config o stdin) before (.ok code) after) :
    Run.Ends (runCommand .encode context arguments stdin) before (.ok (code.getD 0)) after :=
  hasks.ends rfl ((Run.Ends.ofExcept_bind (loaded_eq_ok hconfig) hrun).command context.debug)

end CommandLine

end CheckedText
