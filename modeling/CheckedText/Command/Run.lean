import CheckedText.Config.Loading

/-!
# Running a command

A command reads its surroundings, prints on two consoles, may change the file tree and may start
an editor. What it did before a failure stays done. An input is given as an argument or as a file,
where a hyphen stands for the standard input.

A stream is asked whether it is a terminal. A stream that cannot tell is none; only a stream that
is not there at all hands the question on to another one.
-/

namespace CheckedText

structure Consoles where
  outNoColor : Bool
  errNoColor : Bool
  deriving DecidableEq, Repr

inductive Launch where
  | opener (path : Text)
  | command (words : List Text)
  deriving DecidableEq, Repr

structure Progress where
  surroundings : Surroundings
  consoles : Consoles
  stdout : Blob
  stderr : Blob
  launched : List Launch

abbrev Run := ExceptT Failure (StateM Progress)

namespace Run

def surroundings : Run Surroundings := do
  return (← get).surroundings

def ofExcept {α : Type} (r : Except Failure α) : Run α :=
  ExceptT.mk (pure r)

def writeOut (data : Blob) : Run Unit :=
  modify fun p => { p with stdout := p.stdout ++ data }

def writeErr (data : Blob) : Run Unit :=
  modify fun p => { p with stderr := p.stderr ++ data }

def print (t : Text) : Run Unit :=
  writeOut (Console.line t)

def marked (lay : Screen → Text → Blob) (t : Text) : Run Blob := do
  let s ← surroundings
  ofExcept (((s.screen.render t).map (lay s.screen)).mapError .markup)

def printMarked (t : Text) : Run Unit := do
  writeOut (← marked Screen.line t)

def printUncut (t : Text) : Run Unit := do
  writeOut (← marked (fun _ => Console.line) t)

def printMarkedErr (t : Text) : Run Unit := do
  writeErr (← marked Screen.line t)

def setNoColor (b : Bool) : Run Unit :=
  modify fun p => { p with consoles := ⟨b, b⟩ }

def setSurroundings (s : Surroundings) : Run Unit :=
  modify fun p => { p with surroundings := s }

def launch (l : Launch) : Run Unit :=
  modify fun p => { p with launched := p.launched ++ [l] }

def errorLine (f : Failure) : Text :=
  "[red]Error:[/red] ".toList ++ f.message

def failureCode : Int :=
  2

/-- Reports the failures of some families in a line and ends with an exit code. With `debug` no
failure is held back. -/
def report {α : Type} (debug : Bool) (isReported : Failure.Family → Bool) (ended : Int → α)
    (body : Run α) : Run α :=
  tryCatch body fun f =>
    if isReported f.family && !debug then do
      printMarkedErr (errorLine f)
      return ended failureCode
    else throw f

/-- Runs the body of a command. A number that it gives is the exit code. -/
def command (debug : Bool) (body : Run (Option Int)) : Run Int :=
  report debug Failure.Family.isReported id (body.map fun code => code.getD 0)

def warn (quiet : Bool) (t : Text) : Run Unit :=
  if quiet then pure () else printMarkedErr ("[yellow]Warning:[/yellow] ".toList ++ t)

end Run

namespace Surroundings

def readFile (s : Surroundings) (stdin : Blob) (path : Text) : Except Failure Blob :=
  if path = ['-'] then .ok stdin
  else match s.environment.expandHome? (Path.ofText path) with
    | none => .error .unknownHome
    | some p => (s.files.read p.text).mapError fun
      | .missing => .inputNotFound path
      | .nullCharacter => .files .nullCharacter path
      | _ => .inputUnreadable path

def readHex (t : Text) : Except Failure Blob :=
  match Hex.read? t with
  | some data => .ok data
  | none => .error .inputNotHex

def readBlob (s : Surroundings) (stdin : Blob) (data file : Option Text) (hex : Bool) :
    Except Failure Blob :=
  match data, file with
  | some _, some _ => .error (.bothSources "DATA".toList)
  | none, none => .error (.noSource "DATA".toList)
  | none, some path => do
    let raw ← s.readFile stdin path
    if hex then readHex (Utf8.decodeAscii raw) else return raw
  | some t, none => if hex then readHex t else .ok (Utf8.encode t)

def readText (s : Surroundings) (stdin : Blob) (text file : Option Text) : Except Failure Text :=
  match text, file with
  | some _, some _ => .error (.bothSources "TEXT".toList)
  | none, none => .error (.noSource "TEXT".toList)
  | none, some path => do
    (Utf8.decode (← s.readFile stdin path)).mapError fun _ => .inputNotUtf8 path
  | some t, none => .ok t

end Surroundings

namespace Console

inductive Stream where
  | mute
  | telling (terminal : Bool)
  | failing (family : Failure.Family)
  deriving DecidableEq, Repr

def Stream.isTerminal : Stream → Except Failure.Family Bool
  | .mute => .ok false
  | .telling terminal => .ok terminal
  | .failing family => .error family

def isTolerated : Failure.Family → Bool
  | .system | .value | .ability => true
  | .state | .type | .lookup | .other => false

def isTerminal (stream fallback : Option Stream) : Except Failure.Family Bool :=
  match stream, fallback with
  | some s, _ =>
    match s.isTerminal with
    | .ok b => .ok b
    | .error family => if isTolerated family then .ok false else .error family
  | none, some s => s.isTerminal
  | none, none => .ok false

end Console

end CheckedText
