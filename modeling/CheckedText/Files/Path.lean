import CheckedText.Text.Basic

/-!
# Paths

A path is kept in its normal form: repeated slashes, single dots and a slash at the end are
dropped, steps to the parent stay. Two slashes in front differ from one, three or more do not.

A path may name environment variables and start at a home directory. A variable that is not set
is left as it is written, and what a variable holds is not looked into again.
-/

namespace CheckedText

inductive Path.Root where
  | relative
  | slash
  | doubleSlash
  deriving DecidableEq, Repr

structure Path where
  root : Path.Root
  parts : List Text
  deriving DecidableEq, Repr

namespace Path

def pieces : Text → List Text
  | [] => [[]]
  | c :: rest =>
    if c = '/' then [] :: pieces rest
    else match pieces rest with
      | [] => [[c]]
      | p :: ps => (c :: p) :: ps

def rootOf : Text → Root
  | '/' :: '/' :: '/' :: _ => .slash
  | '/' :: '/' :: _ => .doubleSlash
  | '/' :: _ => .slash
  | _ => .relative

def ofText (t : Text) : Path :=
  ⟨rootOf t, (pieces t).filter fun p => p ≠ [] && p ≠ ['.']⟩

def Root.text : Root → Text
  | .relative => []
  | .slash => ['/']
  | .doubleSlash => ['/', '/']

def text (p : Path) : Text :=
  if p.root = .relative && p.parts = [] then ['.']
  else p.root.text ++ ['/'].intercalate p.parts

def child (p : Path) (name : Text) : Path :=
  ⟨p.root, p.parts ++ [name]⟩

end Path

structure Environment where
  bindings : List (Text × Text)
  accounts : List (Text × Text)
  user : Text
  deriving DecidableEq, Repr

namespace Environment

def get? (env : Environment) (name : Text) : Option Text :=
  env.bindings.lookup name

def getNonempty? (env : Environment) (name : Text) : Option Text :=
  (env.get? name).filter (· ≠ [])

def unset (env : Environment) (name : Text) : Environment :=
  { env with bindings := env.bindings.filter (·.1 ≠ name) }

def set (env : Environment) (name value : Text) : Environment :=
  { env with bindings := (name, value) :: (env.unset name).bindings }

def isNameChar (c : Char) : Bool :=
  c.isAlphanum || c = '_'

def reference? : Text → Option (Text × Nat)
  | '\x7b' :: rest =>
    let name := rest.takeWhile (· ≠ '\x7d')
    if name.length < rest.length then some (name, name.length + 2) else none
  | t =>
    let name := t.takeWhile isNameChar
    if name = [] then none else some (name, name.length)

def expandVariables (env : Environment) : Text → Text
  | [] => []
  | c :: rest =>
    if c = '$' then
      match reference? rest with
      | some (name, n) =>
        (env.get? name).getD (c :: rest.take n) ++ env.expandVariables (rest.drop n)
      | none => c :: env.expandVariables rest
    else c :: env.expandVariables rest
termination_by t => t.length
decreasing_by all_goals simp only [List.length_cons, List.length_drop]; omega

def home? (env : Environment) (name : Text) : Option Text :=
  if name = [] then (env.get? "HOME".toList).or (env.accounts.lookup env.user)
  else env.accounts.lookup name

def dropLastSlashes (t : Text) : Text :=
  (t.reverse.dropWhile (· = '/')).reverse

/-- Replaces a home mark in front of a text. It stays if there is no such home. -/
def expandHomeText (env : Environment) (t : Text) : Text :=
  match t with
  | '~' :: rest =>
    match env.home? (rest.takeWhile (· ≠ '/')) with
    | none => t
    | some home =>
      let expanded := dropLastSlashes home ++ rest.dropWhile (· ≠ '/')
      if expanded = [] then ['/'] else expanded
  | _ => t

/-- Replaces a home mark that is the first part of a path. There is no answer if no home is
known. -/
def expandHome? (env : Environment) (p : Path) : Option Path :=
  match p.root, p.parts with
  | .relative, first :: parts =>
    if first.head? = some '~' then
      let home := env.expandHomeText first
      if home.head? = some '~' then none
      else
        let base := Path.ofText home
        some ⟨base.root, base.parts ++ parts⟩
    else some p
  | _, _ => some p

end Environment

end CheckedText
