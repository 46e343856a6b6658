import CheckedText.Grouping
import CheckedText.Toml.Lexeme
import CheckedText.Files.Path

/-!
# The configuration

Two sections: how identifiers are written, and how much is said about it. A setting is read from a
value of the configuration document, or from none if its key is absent. A fault names the field and
what it must be. The first setting in the order below that is not valid is the one that is blamed.
-/

namespace CheckedText.Config

open Toml (Value)

inductive Demand where
  | integer
  | positive
  | notNegative
  | string
  | noSymbols
  | letterCase
  | boolean
  deriving DecidableEq, Repr

structure Fault where
  field : Text
  demand : Demand
  deriving DecidableEq, Repr

def Demand.message : Demand → Text
  | .integer => "must be an integer".toList
  | .positive => "must be a positive integer".toList
  | .notNegative => "must be a positive integer or 0".toList
  | .string => "must be a string".toList
  | .noSymbols => "must not contain base32 symbols".toList
  | .letterCase => "must be 'lower' or 'upper'".toList
  | .boolean => "must be a boolean".toList

def Fault.message (f : Fault) : Text :=
  f.field ++ ' ' :: f.demand.message

inductive LetterCase where
  | lower
  | upper
  deriving DecidableEq, Repr

def LetterCase.text : LetterCase → Text
  | .lower => "lower".toList
  | .upper => "upper".toList

def word (t : Text) : Text :=
  Text.foldAscii (Text.strip t)

/-- A whole number, which may be written as a float or in a string; a blank string is none. -/
def integer (field : Text) : Option Value → Except Fault (Option Int)
  | none => .ok none
  | some (.integer n) => .ok (some n)
  | some (.float x) =>
    match x.integer? with
    | some n => .ok (some n)
    | none => .error ⟨field, .integer⟩
  | some (.text t) =>
    let body := Text.strip t
    if body = [] then .ok none
    else match Number.readInteger? body with
      | some n => .ok (some n)
      | none => .error ⟨field, .integer⟩
  | some _ => .error ⟨field, .integer⟩

def separator (field : Text) : Option Value → Except Fault Text
  | none => .ok Grouping.defaultSeparator
  | some (.text t) => if t.any Base32.isSymbol then .error ⟨field, .noSymbols⟩ else .ok t
  | some _ => .error ⟨field, .string⟩

def letterCase (field : Text) : Option Value → Except Fault LetterCase
  | none => .ok .lower
  | some (.text t) =>
    if word t = "lower".toList then .ok .lower
    else if word t = "upper".toList then .ok .upper
    else .error ⟨field, .letterCase⟩
  | some _ => .error ⟨field, .letterCase⟩

def yesWords : List Text :=
  ["1".toList, "true".toList, "yes".toList, "on".toList]

def noWords : List Text :=
  ["0".toList, "false".toList, "no".toList, "off".toList]

def boolean (field : Text) (absent : Bool) : Option Value → Except Fault Bool
  | none => .ok absent
  | some (.boolean b) => .ok b
  | some (.integer n) =>
    if n = 0 then .ok false else if n = 1 then .ok true else .error ⟨field, .boolean⟩
  | some (.text t) =>
    if yesWords.contains (word t) then .ok true
    else if noWords.contains (word t) then .ok false
    else .error ⟨field, .boolean⟩
  | some _ => .error ⟨field, .boolean⟩

end CheckedText.Config

namespace CheckedText

structure Format where
  groupSize : Int
  separator : Text
  letterCase : Config.LetterCase
  checksum : Bool
  lineLength : Option Int
  deriving DecidableEq, Repr

structure Interface where
  quiet : Bool
  noColor : Bool
  deriving DecidableEq, Repr

structure Config where
  path : Path
  format : Format
  interface : Interface
  deriving DecidableEq, Repr

namespace Config

def groupSize (v : Option Toml.Value) : Except Fault Int := do
  match ← integer "format.group_size".toList v with
  | none => return Grouping.defaultGroupSize
  | some n => if n ≤ 0 then throw ⟨"format.group_size".toList, .positive⟩ else return n

def lineLength (v : Option Toml.Value) : Except Fault (Option Int) := do
  match ← integer "format.line_length".toList v with
  | none => return none
  | some n =>
    if n < 0 then throw ⟨"format.line_length".toList, .notNegative⟩
    else return if n = 0 then none else some n

end Config

def Format.ofTable (t : Toml.Table) : Except Config.Fault Format := do
  let groupSize ← Config.groupSize (t.get? "group_size".toList)
  let lineLength ← Config.lineLength (t.get? "line_length".toList)
  let separator ← Config.separator "format.separator".toList (t.get? "separator".toList)
  let letterCase ← Config.letterCase "format.case".toList (t.get? "case".toList)
  let checksum ← Config.boolean "format.checksum".toList true (t.get? "checksum".toList)
  return { groupSize, separator, letterCase, checksum, lineLength }

def Interface.ofTable (t : Toml.Table) : Except Config.Fault Interface := do
  let quiet ← Config.boolean "ui.quiet".toList false (t.get? "quiet".toList)
  let noColor ← Config.boolean "ui.no_color".toList false (t.get? "no_color".toList)
  return { quiet, noColor }

def Config.ofDocument (path : Path) (t : Toml.Table) : Except Config.Fault Config := do
  let format ← Format.ofTable (t.subtable "format".toList)
  let interface ← Interface.ofTable (t.subtable "ui".toList)
  return { path, format, interface }

end CheckedText
