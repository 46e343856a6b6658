import CheckedText.Failure
import CheckedText.Toml.Document

/-!
# Finding, loading and installing the configuration

The file named on the command line comes first, then the one named by a variable, then the user's
own, and last the packaged one. A file that is named has to be there; the next one is not tried. A
new user configuration is a copy of the packaged file; one that is there is left alone.
-/

namespace CheckedText.Config

def packagedLines : List String :=
  ["# textid configuration.",
    "#",
    "# Copy lives in the user config directory after `textid --init-config`;",
    "# `textid config --print-path` shows which file is active.",
    "",
    "[format]",
    "# Symbols per group in the identifier form (e.g. \"em77e-bvlzu-aq\").",
    "group_size = 5",
    "# Inserted between groups. Must not contain base32 symbols.",
    "separator = \"-\"",
    "# \"lower\" or \"upper\".",
    "case = \"lower\"",
    "# Prefix the CRC-32 of the blob before encoding.",
    "checksum = true",
    "# Wrap long identifiers onto lines of at most this many characters (0 = never).",
    "line_length = 0",
    "",
    "[ui]",
    "quiet = false",
    "no_color = false"]

def packagedContent : Blob :=
  Utf8.encode (packagedLines.flatMap fun line => line.toList ++ ['\n'])

end CheckedText.Config

namespace CheckedText

inductive Platform where
  | linux
  | darwin
  deriving DecidableEq, Repr

/-- What the program finds around it: the files, the environment, the platform, the packaged
configuration file and the screen. -/
structure Surroundings where
  files : FileTree
  environment : Environment
  platform : Platform
  packaged : Path
  screen : Screen

namespace Surroundings

def application : Text :=
  "textid".toList

def configVariable : Text :=
  "TEXTID_CONFIG".toList

def directoryVariable : Text :=
  "XDG_CONFIG_HOME".toList

def userDirectory (s : Surroundings) : Except Failure Path :=
  match s.environment.getNonempty? directoryVariable with
  | some dir => .ok ((Path.ofText dir).child application)
  | none =>
    match s.platform with
    | .darwin =>
      match s.environment.expandHome? (Path.ofText ['~']) with
      | some home => .ok ((home.child ".config".toList).child application)
      | none => .error .unknownHome
    | .linux =>
      .ok ((Path.ofText (s.environment.expandHomeText "~/.config".toList)).child application)

def configName : Text :=
  "config.toml".toList

def userFile (s : Surroundings) : Except Failure Path :=
  s.userDirectory.map (·.child configName)

def isFile (s : Surroundings) (p : Path) : Except Failure Bool :=
  (s.files.isFile p.text).mapError (.files · p.text)

def isPresent (s : Surroundings) (p : Path) : Except Failure Bool :=
  (s.files.isPresent p.text).mapError (.files · p.text)

def expand (s : Surroundings) (written : Text) : Except Failure Path :=
  match s.environment.expandHome? (Path.ofText (s.environment.expandVariables written)) with
  | some p => .ok p
  | none => .error .unknownHome

def namedFile (s : Surroundings) (written : Text) : Except Failure Path := do
  let p ← s.expand written
  if ← s.isFile p then return p else throw (.configNotFound p)

def resolve (s : Surroundings) (written : Option Text) : Except Failure Path := do
  match written.filter (· ≠ []), s.environment.getNonempty? configVariable with
  | some path, _ => s.namedFile path
  | none, some path => s.namedFile path
  | none, none =>
    let user ← s.userFile
    if ← s.isFile user then return user else return s.packaged

def lacksUserFile (s : Surroundings) : Except Failure Bool := do
  return !(← s.isPresent (← s.userFile))

def parseConfig (path : Path) (content : Blob) : Except Failure Config := do
  let t ← (Utf8.decode content).mapError .encoding
  let doc ← (Toml.document t).mapError fun
    | .malformed detail => .malformedConfig path detail
    | .longInteger n => .longInteger (some n)
  (Config.ofDocument path doc).mapError .setting

def loadConfig (s : Surroundings) (written : Option Text) : Except Failure Config := do
  let path ← s.resolve written
  let content ← (s.files.read path.text).mapError (.files · path.text)
  parseConfig path content

def copyPackaged (s : Surroundings) (p : Path) : Except FileTree.Fault FileTree := do
  if ← s.files.isPresent p.text then return s.files
  else s.files.write p.text (← s.files.read s.packaged.text)

/-- Makes the user's configuration unless it is there. Directories that were made stay even when
the file cannot be. -/
def install (s : Surroundings) : Surroundings × Except Failure Path :=
  match s.userDirectory with
  | .error f => (s, .error f)
  | .ok dir =>
    match s.files.ensureDirectories dir with
    | (files, .error _) => ({ s with files }, .error (.configDirectory dir))
    | (files, .ok ()) =>
      let made := { s with files }
      match made.copyPackaged (dir.child configName) with
      | .ok files => ({ s with files }, .ok dir)
      | .error _ => (made, .error (.configDirectory dir))

end Surroundings

end CheckedText
