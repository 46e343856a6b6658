import CheckedText.Proofs.IgnoredDecoration
import CheckedText.Proofs.InvocationContract

/-!
# What an invocation leaves behind

The files after an invocation are those before it, but for the output file of a decoding and what an
installation adds. A decoding that stops on the way leaves everything as it was.
-/

namespace CheckedText

namespace Decode

variable {s : Surroundings} {config : Config} {o : Options} {stdin : Blob}

/-- The input cannot be read or not be decoded, or there is no way to write the output file. -/
inductive Stops (s : Surroundings) (config : Config) (o : Options) (stdin : Blob) : Prop
  | unread {f : Failure} (htext : s.readText stdin o.text o.file = .error f)
  | undecoded {t : Text} {f : Identifier.Fault} (htext : s.readText stdin o.text o.file = .ok t)
      (hblob : blob config.format o t = .error f)
  | unwritten {t path : Text} {data : Blob} {dropped : Bool} {f : FileTree.Fault}
      (htext : s.readText stdin o.text o.file = .ok t)
      (hblob : blob config.format o t = .ok (data, dropped)) (houtput : o.output = some path)
      (hwrite : s.files.write path data = .error f)

theorem Stops.leftBehind_eq (h : Stops s config o stdin) : leftBehind s config o stdin = s := by
  unfold leftBehind
  cases h with
  | unread htext => rw [htext]
  | undecoded htext hblob => simp only [htext, hblob]
  | unwritten htext hblob houtput hwrite =>
    simp only [htext, hblob, stored, houtput, Option.filter_some]
    split
    case h_1 => rfl
    case h_2 path hpath =>
      split at hpath
      · cases hpath
        simp only [hwrite]
      · cases hpath

end Decode

namespace Session

open CommandLine

variable {s : Session} {arguments rest : List Text} {stdin : Blob} {g : Globals} {config : Config}
  {o : Decode.Options}

theorem exists_invoke (s : Session) (arguments : List Text) (stdin : Blob) :
    ∃ result after, Run.Ends (run arguments stdin) ⟨s.surroundings, s.consoles, [], [], []⟩ result
        after ∧ s.invoke arguments stdin = (⟨result, after.stdout, after.stderr, after.launched⟩,
          ⟨after.surroundings, after.consoles⟩) := by
  obtain ⟨result, after, hends⟩ := Run.exists_ends (run arguments stdin)
    ⟨s.surroundings, s.consoles, [], [], []⟩
  exact ⟨result, after, hends, invoke_of_ends hends⟩

theorem invoke_leftBehind (hcalls : Calls arguments g .decode rest)
    (hload : s.surroundings.loadConfig g.config = .ok config)
    (hasks : Asks .decode Decode.Options.ofParsed rest o) :
    (s.invoke arguments stdin).2.surroundings =
      Decode.leftBehind s.surroundings config o stdin := by
  obtain ⟨result, after, hcommand⟩ := Run.exists_ends
    (Run.command (g.context config).debug (Decode.run config o (g.context config).quiet stdin))
    ⟨s.surroundings, g.consoles config, [], [], []⟩
  have hmeets : Run.Meets s.surroundings (· = Decode.leftBehind s.surroundings config o stdin)
      (Failure.Reportable False) (· = none)
      (Decode.run config o (g.context config).quiet stdin) :=
    Decode.meets_run False.elim
  rw [invoke_of_ends (hcalls.ends hload (hasks.ends rfl hcommand))]
  exact (hmeets.command _ result after rfl hcommand).1

/-- The only files an invocation changes are the output file of a decoding and those an installation
adds. A decoding leaves behind what its result says, and nothing if it stops on the way. -/
theorem invoke_changes (s : Session) (arguments : List Text) (stdin : Blob) :
    (∃ files, (s.invoke arguments stdin).2.surroundings = { s.surroundings with files } ∧
      Changes s.surroundings arguments stdin files) ∧
    ∀ g rest config o, Calls arguments g .decode rest →
      s.surroundings.loadConfig g.config = .ok config →
      Asks .decode Decode.Options.ofParsed rest o →
      (s.invoke arguments stdin).2.surroundings =
          Decode.leftBehind s.surroundings config o stdin ∧
        (Decode.Stops s.surroundings config o stdin →
          (s.invoke arguments stdin).2.surroundings = s.surroundings) := by
  refine ⟨?_, fun g rest config o hcalls hload hasks => ?_⟩
  · obtain ⟨result, after, hends, hinvoke⟩ := s.exists_invoke arguments stdin
    rw [hinvoke]
    exact (behaves_run s.surroundings arguments stdin _ result after rfl hends).1
  · have hleft : (s.invoke arguments stdin).2.surroundings = _ :=
      invoke_leftBehind hcalls hload hasks
    exact ⟨hleft, fun hstops => hleft.trans hstops.leftBehind_eq⟩

theorem invoke_changes_output_once_decoded :
    let s := configured [] [([['b']], .file [1])]
    let arguments (t : Text) : List Text :=
      ["decode".toList, "--no-verify".toList, "--output=/b".toList, t]
    (s.invoke (arguments "m!".toList) []).2.surroundings = s.surroundings ∧
      (s.invoke (arguments "my".toList) []).2.surroundings.files.get? [['b']] =
        some (.file [102]) := by
  intro s arguments
  have hload : s.surroundings.loadConfig none = .ok standard :=
    Except.toOption_eq_some_iff.mp (by decide +kernel +zetaReduce)
  have hcalls (t : Text) : Calls (arguments t) .unset .decode
      ["--no-verify".toList, "--output=/b".toList, t] :=
    calls_decode _
  have hasks : Asks .decode Decode.Options.ofParsed
      ["--no-verify".toList, "--output=/b".toList, "m!".toList]
      ⟨some "m!".toList, none, some false, .hex, some "/b".toList⟩ :=
    ⟨_, rfl, rfl, rfl⟩
  have hasks' : Asks .decode Decode.Options.ofParsed
      ["--no-verify".toList, "--output=/b".toList, "my".toList]
      ⟨some "my".toList, none, some false, .hex, some "/b".toList⟩ :=
    ⟨_, rfl, rfl, rfl⟩
  constructor
  · exact ((invoke_changes s _ []).2 _ _ standard _ (hcalls _) hload hasks).2 (.undecoded rfl rfl)
  · rw [((invoke_changes s _ []).2 _ _ standard _ (hcalls _) hload hasks').1]
    rfl

end Session

end CheckedText
