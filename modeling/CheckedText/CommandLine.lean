import CheckedText.Command.Spelling

/-!
# The command line

The options before the command are read first. A request for the version is answered before
anything else is looked at; then the command has to be one that exists, then the configuration is
loaded, and only then are the command's own arguments read.
-/

namespace CheckedText.CommandLine

open Options

def globalOptions : Options.Table :=
  valued "--config" [] ++ flag "--debug" ++ flag "--quiet" ++ flag "--no-color"
    ++ flag "--init-config" ++ flag "--version" ++ flag "--help"

structure Globals where
  config : Option Text
  debug : Bool
  quiet : Bool
  noColor : Bool
  initConfig : Bool
  deriving DecidableEq, Repr

def Globals.ofParsed (p : Parsed) : Globals where
  config := p.value? "--config".toList
  debug := p.isOn "--debug".toList
  quiet := p.isOn "--quiet".toList
  noColor := p.isOn "--no-color".toList
  initConfig := p.isOn "--init-config".toList

def installedVersion : Text :=
  "0.1.0".toList

def version (installed : Option Text) : Text :=
  installed.getD "0.0.0".toList

def versionLine : Text :=
  Surroundings.application ++ ' ' :: version (some installedVersion)

/-- A stand-in for the help text, whose wording and layout are not modelled. -/
def globalHelp : List String :=
  ["Usage: textid [OPTIONS] COMMAND [ARGS]...", "", "Checksummed base32 text identifiers.", "",
    "Commands: encode, decode, checksum, config"]

/-- A stand-in for the help text of a command; only the usage line and the summary are kept. -/
def commandHelp (c : Command) : List String :=
  ["Usage: textid " ++ String.ofList c.name ++ " [OPTIONS]",
    "",
    match c with
    | .encode => "Encode a blob as checksummed base32 text."
    | .decode => "Decode base32 text back into the original blob."
    | .checksum => "Print the CRC-32 of a blob as 8 hex digits."
    | .config => "Show or edit the active TOML config."]

def answer? (help : List String) (p : Parsed) : Option (List Text) :=
  p.settings.findSome? fun
    | .flag key true =>
      if key = "--version".toList then some [versionLine]
      else if key = "--help".toList then some (help.map String.toList)
      else none
    | _ => none

structure Context where
  config : Option Config
  debug : Bool
  quiet : Bool
  deriving DecidableEq, Repr

def Context.loaded (c : Context) : Except Failure Config :=
  match c.config with
  | some config => .ok config
  | none => .error .configNotLoaded

/-- Either everything is done already, or the configuration is at hand. -/
inductive Start where
  | ended (code : Int)
  | ready (config : Config)

def startBody (g : Globals) : Run Start := do
  Run.setNoColor g.noColor
  let s ← Run.surroundings
  if g.initConfig then
    let (installed, result) := s.install
    Run.setSurroundings installed
    let dir ← Run.ofExcept result
    if !g.quiet then Run.printMarked ("User config ready at ".toList ++ dir.text)
    return .ended 0
  else return .ready (← Run.ofExcept (s.loadConfig g.config))

def start (g : Globals) : Run Start :=
  Run.report g.debug Failure.Family.isReportedEarly .ended (startBody g)

def noCommandLine : Text :=
  ("[red]Error:[/red] No subcommand provided. "
    ++ "Run `textid --help` for available commands.").toList

def usage {α : Type} (r : Except Usage α) : Run α :=
  Run.ofExcept (r.mapError .usage)

def printAll (ls : List Text) : Run Int := do
  ls.forM Run.print
  return 0

def runCommand (c : Command) (context : Context) (arguments : List Text) (stdin : Blob) :
    Run Int := do
  let p ← usage (Options.parse c.options true arguments)
  if let some ls := answer? (commandHelp c) p then printAll ls
  else match c with
    | .encode => do
      let o ← usage (Encode.Options.ofParsed p)
      Run.command context.debug do
        Encode.run (← Run.ofExcept context.loaded) o stdin
    | .decode => do
      let o ← usage (Decode.Options.ofParsed p)
      Run.command context.debug do
        Decode.run (← Run.ofExcept context.loaded) o context.quiet stdin
    | .checksum => do
      let o ← usage (Checksum.Options.ofParsed p)
      Run.command context.debug (Checksum.run o stdin)
    | .config => do
      let o ← usage (Settings.Options.ofParsed p)
      Run.command context.debug do
        Settings.run (← Run.ofExcept context.loaded) o context.quiet

def runFrom (g : Globals) (command : Option (Command × List Text)) (stdin : Blob) : Run Int := do
  match ← start g, command with
  | .ended code, _ => return code
  | .ready _, none =>
    Run.printMarkedErr noCommandLine
    return Run.failureCode
  | .ready config, some (c, arguments) =>
    if config.interface.noColor then Run.setNoColor true
    let context := {
      config := some config, debug := g.debug, quiet := g.quiet || config.interface.quiet }
    runCommand c context arguments stdin

/-- A name that is no command is read once more as an option, in case it is a request that can be
answered. -/
def refuse (arguments : List Text) (name : Text) : Run Int := do
  let p ← usage (Options.parse globalOptions false arguments)
  if let some ls := answer? globalHelp p then printAll ls
  else throw (.usage (.noSuchCommand name))

def run (arguments : List Text) (stdin : Blob) : Run Int := do
  let p ← usage (Options.parse globalOptions false arguments)
  if let some ls := answer? globalHelp p then printAll ls
  else match p.arguments with
    | [] => runFrom (.ofParsed p) none stdin
    | name :: rest =>
      match Command.read? name with
      | some c => runFrom (.ofParsed p) (some (c, rest)) stdin
      | none => refuse p.arguments name

end CheckedText.CommandLine

namespace CheckedText

structure Session where
  surroundings : Surroundings
  consoles : Consoles

/-- How a run went: its exit code or the failure it let out, what it printed, and the editors it
started. -/
structure Outcome where
  ending : Except Failure Int
  stdout : Blob
  stderr : Blob
  launched : List Launch

def Session.invoke (s : Session) (arguments : List Text) (stdin : Blob) : Outcome × Session :=
  let before : Progress := ⟨s.surroundings, s.consoles, [], [], []⟩
  let (ending, p) := (CommandLine.run arguments stdin).run.run before
  (⟨ending, p.stdout, p.stderr, p.launched⟩, ⟨p.surroundings, p.consoles⟩)

end CheckedText
