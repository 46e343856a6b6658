import CheckedText.Command.Arguments
import CheckedText.Config.Basic
import CheckedText.Console.Screen
import CheckedText.Files.Tree

/-!
# Failures

Everything that can stop a command. Failures come in families, which decide whether a command
reports a failure in a line of its own or lets it out.
-/

namespace CheckedText

/-- What kind of thing went wrong: something outside the program, its state, a value, the type of
a value, a look-up, a missing ability, or none of these. -/
inductive Failure.Family where
  | system
  | state
  | value
  | type
  | lookup
  | ability
  | other
  deriving DecidableEq, Repr

abbrev Source := Text

inductive Failure where
  | identifier (f : Identifier.Fault)
  | grouping (f : Grouping.Fault)
  | setting (f : Config.Fault)
  | encoding (f : Utf8.Fault)
  | malformedConfig (path : Path) (detail : Text)
  | longInteger (digits : Option Nat)
  | configNotFound (path : Path)
  | configDirectory (path : Path)
  | configNotLoaded
  | unknownHome
  | bothSources (source : Source)
  | noSource (source : Source)
  | inputNotFound (path : Text)
  | inputUnreadable (path : Text)
  | inputNotHex
  | inputNotUtf8 (path : Text)
  | outputNotUtf8
  | files (f : FileTree.Fault) (path : Text)
  | words (f : Words.Fault)
  | markup (f : Markup.Fault)
  | usage (f : Usage)
  /-- A failure of a part that is not in this library. -/
  | outside (family : Failure.Family) (message : Text)

namespace Failure

def message : Failure → Text
  | .identifier f => f.message
  | .grouping f => f.message
  | .setting f => f.message
  | .encoding f => f.message
  | .malformedConfig path detail =>
    "invalid config file ".toList ++ path.text ++ ": ".toList ++ detail
  | .longInteger digits => Number.limitMessage digits
  | .configNotFound path => "config file not found: ".toList ++ path.text
  | .configDirectory path => "unable to create config dir at ".toList ++ path.text
  | .configNotLoaded => "configuration was not loaded".toList
  | .unknownHome => "Could not determine home directory.".toList
  | .bothSources source => "use either ".toList ++ source ++ " or --file, not both".toList
  | .noSource source => "provide ".toList ++ source ++ " or --file (use - for stdin)".toList
  | .inputNotFound path => "file not found: ".toList ++ path
  | .inputUnreadable path => "unable to read file: ".toList ++ path
  | .inputNotHex => "input is not valid hex".toList
  | .inputNotUtf8 path => "input is not UTF-8 text: ".toList ++ path
  | .outputNotUtf8 => "decoded blob is not UTF-8 text; use --format hex".toList
  | .files f path => f.message path
  | .words f => f.message
  | .markup f => f.message
  | .usage f => f.message
  | .outside _ message => message

def family : Failure → Family
  | .configNotFound _ => .system
  | .configDirectory _ => .system
  | .files .nullCharacter _ => .value
  | .files _ _ => .system
  | .configNotLoaded => .state
  | .unknownHome => .state
  | .markup (.component _) => .value
  | .markup _ => .other
  | .usage _ => .other
  | .outside family _ => family
  | _ => .value

def Family.isReported : Family → Bool
  | .system | .state | .value | .type | .lookup => true
  | .ability | .other => false

def Family.isReportedEarly : Family → Bool
  | .system | .state | .value => true
  | .type | .lookup | .ability | .other => false

end Failure

end CheckedText
