import CheckedText.Command.Conversion
import CheckedText.Command.Settings

/-!
# The spelling of the commands

The options of each command, and how their values are read from what was given.
-/

namespace CheckedText

open Options (Spelling Parsed)

namespace Options

def valued (long : String) (short : List String) : Table :=
  (long :: short).map fun name => ⟨name.toList, long.toList, .value⟩

def flag (name : String) : Table :=
  [⟨name.toList, name.toList, .flag true⟩]

def switch (on off : String) : Table :=
  [⟨on.toList, on.toList, .flag true⟩, ⟨off.toList, on.toList, .flag false⟩]

def Parsed.argument? (p : Parsed) : Except Usage (Option Text) :=
  match p.arguments with
  | _ :: second :: more => .error (.extraArguments (second :: more))
  | arguments => .ok arguments.head?

end Options

inductive Command where
  | encode
  | decode
  | checksum
  | config
  deriving DecidableEq, Repr

namespace Command

open Options

def name : Command → Text
  | .encode => "encode".toList
  | .decode => "decode".toList
  | .checksum => "checksum".toList
  | .config => "config".toList

def read? (t : Text) : Option Command :=
  [Command.encode, .decode, .checksum, .config].find? (·.name = t)

def options : Command → Options.Table
  | .encode =>
    valued "--file" ["-f"] ++ flag "--hex" ++ flag "--plain" ++ switch "--checksum" "--no-checksum"
      ++ switch "--grouped" "--no-grouped" ++ switch "--upper" "--lower"
      ++ valued "--line-length" [] ++ flag "--help"
  | .decode =>
    valued "--file" ["-f"] ++ switch "--verify" "--no-verify" ++ valued "--format" []
      ++ valued "--output" ["-o"] ++ flag "--help"
  | .checksum => valued "--file" ["-f"] ++ flag "--hex" ++ flag "--help"
  | .config =>
    flag "--print-path" ++ flag "--edit" ++ valued "--editor" ["-e"] ++ flag "--help"

end Command

def lineLengthOption (p : Parsed) : Except Usage (Option Int) :=
  let refuse (reason : String) := .error (.badValue (some "--line-length".toList) reason.toList)
  match p.value? "--line-length".toList with
  | none => .ok none
  | some t =>
    match Number.Tolerant.read t with
    | .error .malformed =>
      refuse "Input should be a valid integer, unable to parse string as an integer"
    | .error .tooLong =>
      refuse "Unable to parse input string as an integer, exceeded maximum size"
    | .ok n =>
      if n < 0 then refuse "Input should be greater than or equal to 0" else .ok (some n)

def Encode.Options.ofParsed (p : Parsed) : Except Usage Encode.Options := do
  let lineLength ← lineLengthOption p
  let data ← p.argument?
  return {
    data
    file := p.value? "--file".toList
    hex := p.isOn "--hex".toList
    plain := p.isOn "--plain".toList
    checksum := p.flag? "--checksum".toList
    grouped := (p.flag? "--grouped".toList).getD true
    upper := p.flag? "--upper".toList
    lineLength }

def formatOption (p : Parsed) : Except Usage Decode.OutputFormat :=
  match p.value? "--format".toList with
  | none => .ok .hex
  | some t =>
    match Decode.OutputFormat.read? t with
    | some format => .ok format
    | none => .error (.badValue (some "--format".toList) Decode.OutputFormat.refusal)

def Decode.Options.ofParsed (p : Parsed) : Except Usage Decode.Options := do
  let format ← formatOption p
  let text ← p.argument?
  return {
    text
    file := p.value? "--file".toList
    verify := p.flag? "--verify".toList
    format
    output := p.value? "--output".toList }

def Checksum.Options.ofParsed (p : Parsed) : Except Usage Checksum.Options := do
  let data ← p.argument?
  return { data, file := p.value? "--file".toList, hex := p.isOn "--hex".toList }

def Settings.Options.ofParsed (p : Parsed) : Except Usage Settings.Options :=
  if p.arguments = [] then
    .ok {
      printPath := p.isOn "--print-path".toList
      edit := p.isOn "--edit".toList
      editor := p.value? "--editor".toList }
  else .error (.extraArguments p.arguments)

end CheckedText
