import CheckedText.Command.Run

/-!
# The config command

Shows which configuration is in force, or opens its file: with the command that is asked for, else
with the one that the environment names, else with the system's own opener.
-/

namespace CheckedText.Editor

def ofEnvironment (env : Environment) : Text :=
  ((env.getNonempty? "VISUAL".toList).or (env.getNonempty? "EDITOR".toList)).getD []

def openerWords : List Text :=
  ["default".toList, "system".toList]

def command (env : Environment) (asked : Option Text) : Except Failure (Option (List Text)) :=
  let written := Text.strip (asked.getD (ofEnvironment env))
  if written = [] || (asked.isSome && openerWords.contains (Text.foldAscii written)) then .ok none
  else ((Words.split written).map some).mapError .words

def announcement (path : Path) : Option (List Text) → Text
  | none => "[dim]Opening ".toList ++ path.text ++ "...[/dim]".toList
  | some words =>
    "[dim]Opening ".toList ++ path.text ++ " with ".toList ++ [' '].intercalate words
      ++ "...[/dim]".toList

def launch (path : Path) : Option (List Text) → Launch
  | none => .opener path.text
  | some words => .command (words ++ [path.text])

def run (path : Path) (asked : Option Text) (quiet : Bool) : Run Unit := do
  let s ← Run.surroundings
  let target ← Run.ofExcept (s.expand path.text)
  if !(← Run.ofExcept (s.isPresent target)) then throw (.configNotFound target)
  let words ← Run.ofExcept (command s.environment asked)
  if !quiet then Run.printMarked (announcement target words)
  Run.launch (launch target words)

end CheckedText.Editor

namespace CheckedText.Settings

structure Options where
  printPath : Bool
  edit : Bool
  editor : Option Text
  deriving DecidableEq, Repr

def showInteger (n : Int) : Except Failure Text :=
  if Number.digitLimit < (Text.decimal n.natAbs).length then .error (.longInteger none)
  else .ok (Text.signedDecimal n)

def showBoolean (b : Bool) : Text :=
  if b then "true".toList else "false".toList

def rows (c : Config) : Except Failure (List (Text × Text)) := do
  return [
    ("path".toList, c.path.text),
    ("format.group_size".toList, ← showInteger c.format.groupSize),
    ("format.separator".toList, Text.quote c.format.separator),
    ("format.case".toList, c.format.letterCase.text),
    ("format.checksum".toList, showBoolean c.format.checksum),
    ("format.line_length".toList, ← showInteger (c.format.lineLength.getD 0)),
    ("ui.quiet".toList, showBoolean c.interface.quiet),
    ("ui.no_color".toList, showBoolean c.interface.noColor)]

def hint : Text :=
  "[dim]Hint: run `textid --init-config` to create a user config.[/dim]".toList

def showTable (c : Config) (quiet : Bool) : Run Unit := do
  let rows ← Run.ofExcept (rows c)
  let s ← Run.surroundings
  Run.writeOut (Utf8.encode (← Run.ofExcept ((Console.table s.screen rows).mapError .markup)))
  if !quiet then
    if ← Run.ofExcept s.lacksUserFile then Run.printMarkedErr hint

def run (c : Config) (o : Options) (quiet : Bool) : Run (Option Int) := do
  if o.printPath then Run.printUncut c.path.text
  else if o.edit || o.editor.isSome then Editor.run c.path o.editor quiet
  else showTable c quiet
  return none

end CheckedText.Settings
