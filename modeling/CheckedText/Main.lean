import CheckedText.CommandLine

/-!
# The program

The files that the arguments and the environment name are read into a file tree, the command line
is run on it, and then what changed in the tree is written back. No other program is started: an
editor command is shown, and it is for the user to run it.
-/

namespace CheckedText.Program

def writtenPaths (argument : Text) : List Text :=
  [argument, (argument.dropWhile (· ≠ '=')).drop 1, argument.drop 2].filter (· ≠ [])

def referencedNames : Text → List Text
  | [] => []
  | c :: rest =>
    let names := referencedNames rest
    if c = '$' then
      match Environment.reference? rest with
      | some (name, _) => name :: names
      | none => names
    else names

def usedVariables : List Text :=
  ["HOME".toList, "VISUAL".toList, "EDITOR".toList, Surroundings.configVariable,
    Surroundings.directoryVariable]

def visitedPlaces (s : Surroundings) (arguments : List Text) : List Place :=
  let named := (s.environment.getNonempty? Surroundings.configVariable).toList
  let written := arguments.flatMap writtenPaths ++ named
  let expanded := written.filterMap fun t => (s.expand t).toOption.map Path.text
  let homes := written.filterMap fun t =>
    (s.environment.expandHome? (Path.ofText t)).map Path.text
  let own := s.userFile.toOption.toList.map Path.text
  (written ++ expanded ++ homes ++ own).map fun t =>
    let start := if t.head? = some '/' then [] else s.files.here
    (Path.ofText t).parts.foldl
      (fun place step => if step = ['.', '.'] then place.dropLast else place ++ [step]) start

def placeText (place : Place) : String :=
  String.ofList ('/' :: ['/'].intercalate place)

def blob (bytes : ByteArray) : Blob :=
  bytes.toList

def bytes (b : Blob) : ByteArray :=
  ⟨b.toArray⟩

def readEntry (place : Place) : IO (Option FileTree.Entry) := do
  let path := (← IO.currentDir) / placeText place
  try
    match (← path.metadata).type with
    | .dir => return some .directory
    | .file => return some (.file (blob (← IO.FS.readBinFile path)))
    | _ => return none
  catch _ => return none

def readPlace (tree : FileTree) (place : Place) : IO FileTree :=
  (List.range place.length).foldlM
    (fun tree n => do
      let above := place.take (n + 1)
      if (tree.get? above).isSome then return tree
      else match ← readEntry above with
        | some e => return tree.put above e
        | none => return tree)
    tree

def writeEntry (place : Place) : FileTree.Entry → IO Unit
  | .directory => IO.FS.createDirAll (placeText place)
  | .file content => IO.FS.writeBinFile (placeText place) (bytes content)

def readAccounts : IO (List (Text × Text)) := do
  try
    let lines := (← IO.FS.readFile "/etc/passwd").splitOn "\n"
    return lines.filterMap fun line =>
      let fields := line.splitOn ":"
      match fields[0]?, fields[5]? with
      | some name, some home => some (name.toList, home.toList)
      | _, _ => none
  catch _ => return []

def readEnvironment (arguments : List Text) : IO Environment := do
  let given := (← IO.getEnv (String.ofList Surroundings.configVariable)).getD ""
  let names := usedVariables ++ (given.toList :: arguments).flatMap referencedNames
  let bindings ← names.filterMapM fun name => do
    return (← IO.getEnv (String.ofList name)).map fun value => (name, value.toList)
  return ⟨bindings, ← readAccounts, ((← IO.getEnv "USER").getD "root").toList⟩

/-- The screen has eighty columns or more, and there are no pictures on it. -/
def readScreen : IO Screen := do
  let columns := ((← IO.getEnv "COLUMNS").bind String.toNat?).getD 80
  return { Screen.plain with width := max 80 columns, eighty_le := Nat.le_max_left 80 columns }

partial def readAll (stream : IO.FS.Stream) (sofar : Blob) : IO Blob := do
  let chunk ← stream.read 65536
  if chunk.isEmpty then return sofar else readAll stream (sofar ++ blob chunk)

def readInput (arguments : List Text) : IO Blob := do
  if arguments.any fun a => a.getLast? = some '-' then readAll (← IO.getStdin) [] else return []

def launchLine : Launch → String
  | .opener path => String.ofList path
  | .command words => String.ofList ([' '].intercalate words)

def finish : Except Failure Int → IO UInt32
  | .ok code => return code.toNat.toUInt32
  | .error f => do
    IO.eprintln (String.ofList f.message)
    match f with
    | .usage _ => return 2
    | _ => return 1

def packagedPlace (directory : String) : Place :=
  (Path.ofText directory.toList).parts ++ [Surroundings.configName]

def run (arguments : List Text) : IO UInt32 := do
  let here := (Path.ofText (← IO.currentDir).toString.toList).parts
  let packaged := packagedPlace (← IO.appDir).toString
  let environment ← readEnvironment arguments
  let bare : Surroundings := ⟨⟨[], here⟩, environment, .linux, ⟨.slash, packaged⟩,
    ← readScreen⟩
  let read ← (here :: packaged :: visitedPlaces bare arguments).foldlM readPlace bare.files
  let files := read.put packaged (.file Config.packagedContent)
  let session : Session := ⟨{ bare with files }, ⟨false, false⟩⟩
  let (outcome, after) := session.invoke arguments (← readInput arguments)
  for (place, entry) in after.surroundings.files.entries do
    if files.get? place ≠ some entry then writeEntry place entry
  (← IO.getStdout).write (bytes outcome.stdout)
  (← IO.getStderr).write (bytes outcome.stderr)
  for launch in outcome.launched do
    IO.eprintln (launchLine launch)
  finish outcome.ending

end CheckedText.Program

def main (arguments : List String) : IO UInt32 :=
  CheckedText.Program.run (arguments.map String.toList)
