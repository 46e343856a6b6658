import CheckedText.Proofs.EncodedText
import CheckedText.Proofs.HexSpelling
import CheckedText.Proofs.MarkedText
import CheckedText.Proofs.RunSteps
import CheckedText.Proofs.WrittenFile

/-!
# How encoding and decoding run

Once the input was read and laid out, encoding prints the lines of a page. Decoding puts the blob on
the standard output as it is or in hexadecimal, or into a file that it mentions.
-/

namespace CheckedText

theorem Surroundings.readText_of_encode {s : Surroundings} {stdin : Blob} {path t : Text}
    (h : s.readFile stdin path = .ok (Utf8.encode t)) :
    s.readText stdin none (some path) = .ok t := by
  rw [readText, h]
  exact Except.mapError_eq_ok_iff.mpr (Utf8.decode_encode t)

namespace Hex

theorem digit_printed : ∀ n < 16,
    Console.isDropped (digit n) = false ∧ digit n ≠ '\t' ∧ digit n ≠ '\n' := by
  decide

theorem line_encode (data : Blob) :
    Console.line (encode data) = Utf8.encode (encode data ++ ['\n']) := by
  rw [Console.line, Console.shown_eq_self]
  intro c hc
  obtain ⟨n, hn, rfl⟩ := exists_digit_of_mem_encode hc
  exact digit_printed n hn

end Hex

namespace Encode

theorem ends_run {config : Config} {o : Options} {stdin data : Blob} {ls : List Text}
    {before : Progress}
    (hdata : before.surroundings.readBlob stdin o.data o.file o.hex = .ok data)
    (hlines : lines config.format o data = .ok ls) :
    Run.Ends (run config o stdin) before (.ok none)
      { before with stdout := before.stdout ++ Utf8.encode (Console.page (printed ls)) } := by
  rw [← Console.flatMap_line]
  refine (Run.ends_surroundings before).bind (Run.Ends.ofExcept_bind hdata ?_)
  refine Run.Ends.ofExcept_bind (Except.mapError_eq_ok_iff.mpr hlines) ?_
  exact (Run.ends_forM_print _ before).bind (Run.ends_pure none _)

end Encode

namespace Decode

variable {o : Options} {quiet : Bool} {data : Blob} {before after : Progress}

theorem ends_run {config : Config} {stdin : Blob} {t : Text}
    (htext : before.surroundings.readText stdin o.text o.file = .ok t)
    (hblob : blob config.format o t = .ok (data, false))
    (houtput : Run.Ends (output o quiet data) before (.ok ()) after) :
    Run.Ends (run config o quiet stdin) before (.ok none) after := by
  refine (Run.ends_surroundings before).bind (Run.Ends.ofExcept_bind htext ?_)
  refine Run.Ends.ofExcept_bind (Except.mapError_eq_ok_iff.mpr hblob) ?_
  exact houtput.bind (Run.ends_pure none after)

theorem ends_output_raw (houtput : o.output = none) (hformat : o.format = .raw) :
    Run.Ends (output o quiet data) before (.ok ())
      { before with stdout := before.stdout ++ data } := by
  rw [output, houtput, hformat]
  exact Run.ends_writeOut data before

theorem ends_output_hex (houtput : o.output = none) (hformat : o.format = .hex) :
    Run.Ends (output o quiet data) before (.ok ())
      { before with stdout := before.stdout ++ Utf8.encode (Hex.encode data ++ ['\n']) } := by
  rw [output, houtput, hformat, ← Hex.line_encode]
  exact Run.ends_print _ before

def notice (path : Text) : Text :=
  "[dim]- wrote ".toList ++ path ++ "[/dim]".toList

theorem render_notice (screen : Screen) {path : Text} (hpath : '[' ∉ path) :
    ∃ shown, screen.render (notice path) = .ok shown := by
  have hbody : '[' ∉ "- wrote ".toList ++ path := by simp [hpath]
  exact screen.render_dim hbody

theorem ends_output_file {path : Text} (houtput : o.output = some path)
    (hwritable : before.surroundings.files.IsWritable path) (hpath : '[' ∉ path) :
    ∃ files shown, before.surroundings.files.write path data = .ok files ∧
      files.read path = .ok data ∧
      before.surroundings.screen.render (notice path) = .ok shown ∧
      Run.Ends (output o quiet data) before (.ok ()) { before with
        surroundings := { before.surroundings with files }
        stderr := before.stderr ++
          if quiet then [] else before.surroundings.screen.line shown } := by
  obtain ⟨files, hfiles⟩ := hwritable.write data
  obtain ⟨shown, hshown⟩ := render_notice before.surroundings.screen hpath
  refine ⟨files, shown, hfiles, FileTree.read_write hfiles, hshown, ?_⟩
  have hsome : o.output.filter (· ≠ []) = some path := by
    rw [houtput, Option.filter_some, if_pos (by simpa using hwritable.ne_nil)]
  rw [output, hsome]
  refine (Run.ends_surroundings before).bind
    (Run.Ends.ofExcept_bind (Except.mapError_eq_ok_iff.mpr hfiles)
      ((Run.ends_setSurroundings _ before).bind ?_))
  cases quiet with
  | true => simpa using Run.ends_pure () _
  | false => exact Run.ends_printMarkedErr hshown

end Decode

end CheckedText
