import CheckedText.Files.Path
import CheckedText.Text.Quoted
import CheckedText.Text.Bytes

/-!
# The file tree

Files and directories by their place below the root, with a directory to start relative paths
from. A path is followed step by step, so every step but the last has to be a directory.
-/

namespace CheckedText

abbrev Place := List Text

inductive FileTree.Entry where
  | file (content : Blob)
  | directory
  deriving DecidableEq, Repr

inductive FileTree.Fault where
  | missing
  | exists
  | notDirectory
  | isDirectory
  | nameTooLong
  | nullCharacter
  deriving DecidableEq, Repr

structure FileTree where
  entries : List (Place × FileTree.Entry)
  here : Place
  deriving DecidableEq, Repr

namespace FileTree

def Fault.message (path : Text) : Fault → Text
  | .missing => coded 2 "No such file or directory".toList
  | .exists => coded 17 "File exists".toList
  | .notDirectory => coded 20 "Not a directory".toList
  | .isDirectory => coded 21 "Is a directory".toList
  | .nameTooLong => coded 36 "File name too long".toList
  | .nullCharacter => "embedded null byte".toList
where
  coded (n : Nat) (reason : Text) : Text :=
    "[Errno ".toList ++ Text.decimal n ++ "] ".toList ++ reason ++ ": ".toList ++ Text.quote path

def get? (tree : FileTree) (place : Place) : Option Entry :=
  if place = [] then some .directory else tree.entries.lookup place

def put (tree : FileTree) (place : Place) (e : Entry) : FileTree :=
  { tree with entries := tree.entries.filter (·.1 ≠ place) ++ [(place, e)] }

def prune (tree : FileTree) (place : Place) : FileTree :=
  { tree with entries := tree.entries.filter (!place.isPrefixOf ·.1) }

/-- A path as it is followed: where it starts, its steps, and whether a slash ends it. -/
structure Route where
  start : Place
  steps : List Text
  slashed : Bool

def nameLimit : Nat :=
  255

def pathLimit : Nat :=
  4096

def route (tree : FileTree) (path : Text) : Except Fault Route :=
  if path.contains (Char.ofNat 0) then .error .nullCharacter
  else if pathLimit ≤ (Utf8.encode path).length then .error .nameTooLong
  else if path = [] then .error .missing
  else .ok ⟨if path.head? = some '/' then [] else tree.here, (Path.pieces path).filter (· ≠ []),
    path.getLast? = some '/'⟩

def name (dir : Place) (step : Text) : Except Fault Place :=
  if nameLimit < (Utf8.encode step).length then .error .nameTooLong else .ok (dir ++ [step])

def walk (tree : FileTree) (dir : Place) : List Text → Except Fault Place
  | [] => .ok dir
  | step :: rest =>
    if step = ['.'] then tree.walk dir rest
    else if step = ['.', '.'] then tree.walk dir.dropLast rest
    else do
      let place ← name dir step
      match tree.get? place with
      | none => .error .missing
      | some (.file _) => .error .notDirectory
      | some .directory => tree.walk place rest

/-- Where a path leads if all but its last step are directories: to a directory that is already
there, or to a name in one. -/
inductive Goal where
  | directory (place : Place)
  | name (place : Place)

def goal (tree : FileTree) (r : Route) : Except Fault Goal := do
  let dir ← tree.walk r.start r.steps.dropLast
  match r.steps.getLast? with
  | none => return .directory dir
  | some step =>
    if step = ['.'] then return .directory dir
    else if step = ['.', '.'] then return .directory dir.dropLast
    else return .name (← name dir step)

def find (tree : FileTree) (path : Text) : Except Fault Entry := do
  let r ← tree.route path
  match ← tree.goal r with
  | .directory _ => return .directory
  | .name place =>
    match tree.get? place with
    | none => .error .missing
    | some .directory => return .directory
    | some (.file content) => if r.slashed then .error .notDirectory else return .file content

def read (tree : FileTree) (path : Text) : Except Fault Blob := do
  match ← tree.find path with
  | .file content => return content
  | .directory => .error .isDirectory

/-- Writes a file, which is made if it is missing. A slash at the end asks for a directory, whatever
name stands before it. -/
def write (tree : FileTree) (path : Text) (content : Blob) : Except Fault FileTree := do
  let r ← tree.route path
  let _ ← tree.walk r.start r.steps.dropLast
  if r.slashed then .error .isDirectory
  else match ← tree.goal r with
    | .directory _ => .error .isDirectory
    | .name place =>
      if tree.get? place = some .directory then .error .isDirectory
      else return tree.put place (.file content)

def makeDirectory (tree : FileTree) (path : Text) : Except Fault FileTree := do
  match ← tree.goal (← tree.route path) with
  | .directory _ => .error .exists
  | .name place =>
    if (tree.get? place).isSome then .error .exists else return tree.put place .directory

def Fault.meansAbsent : Fault → Bool
  | .missing => true
  | .notDirectory => true
  | .nullCharacter => true
  | _ => false

def lookup (tree : FileTree) (path : Text) : Except Fault (Option Entry) :=
  match tree.find path with
  | .ok e => .ok (some e)
  | .error f => if f.meansAbsent then .ok none else .error f

def Entry.isFile : Entry → Bool
  | .file _ => true
  | .directory => false

def isFile (tree : FileTree) (path : Text) : Except Fault Bool :=
  (tree.lookup path).map fun e => (e.map Entry.isFile).getD false

def isPresent (tree : FileTree) (path : Text) : Except Fault Bool :=
  (tree.lookup path).map Option.isSome

def isDirectory (tree : FileTree) (path : Text) : Bool :=
  match tree.find path with
  | .ok .directory => true
  | _ => false

def ensureDirectory (tree : FileTree) (path : Text) : Except Fault FileTree :=
  match tree.makeDirectory path with
  | .ok new => .ok new
  | .error f => if tree.isDirectory path then .ok tree else .error f

/-- Makes a directory and those on the way to it. What was made stays when a later one fails. The
parts of the path are given last first. -/
def ensureFrom (tree : FileTree) (root : Path.Root) : List Text → FileTree × Except Fault Unit
  | [] => (tree, (tree.ensureDirectory (Path.text ⟨root, []⟩)).map fun _ => ())
  | part :: above =>
    let path := Path.text ⟨root, (part :: above).reverse⟩
    match tree.makeDirectory path with
    | .ok new => (new, .ok ())
    | .error .missing =>
      match tree.ensureFrom root above with
      | (new, .error f) => (new, .error f)
      | (new, .ok ()) =>
        match new.ensureDirectory path with
        | .ok done => (done, .ok ())
        | .error f => (new, .error f)
    | .error f => (tree, if tree.isDirectory path then .ok () else .error f)

def ensureDirectories (tree : FileTree) (p : Path) : FileTree × Except Fault Unit :=
  tree.ensureFrom p.root p.parts.reverse

end FileTree

end CheckedText
