import CheckedText.Text.Quoted

/-!
# Words, options and arguments

A command is cut into words at blanks. Quotes keep blanks together, and a backslash takes the next
character as it is; between double quotes it does so only for the double quote and itself.

Every level of the command line has a table of options. An option is a flag that switches
something on or off, or takes a value: the rest of its own text or the next argument. Two hyphens
end the options. At the top the first argument ends them too; below it options and arguments mix.
-/

namespace CheckedText.Words

inductive Fault where
  | openQuote
  | openEscape
  deriving DecidableEq, Repr

def Fault.message : Fault → Text
  | .openQuote => "No closing quotation".toList
  | .openEscape => "No escaped character".toList

inductive Mode where
  | between
  | word
  | quote (mark : Char)
  | escape (inside : Option Char)
  deriving DecidableEq, Repr

def isBlank (c : Char) : Bool :=
  c = ' ' || c = '\t' || c = '\r' || c = '\n'

def isQuote (c : Char) : Bool :=
  c = '\x27' || c = '\x22'

def Mode.after (c : Char) : Mode :=
  if c = '\\' then .escape none else if isQuote c then .quote c else .word

def finish (current : Text) (quoted : Bool) (rest : List Text) : List Text :=
  if current = [] && !quoted then rest else current :: rest

/-- Cuts a text, with `current` the word under way. -/
def splitFrom : Mode → Text → Bool → Text → Except Fault (List Text)
  | .quote _, _, _, [] => .error .openQuote
  | .escape _, _, _, [] => .error .openEscape
  | _, current, quoted, [] => .ok (finish current quoted [])
  | .quote mark, current, _, c :: rest =>
    if c = mark then splitFrom .word current true rest
    else if c = '\\' && mark = '\x22' then splitFrom (.escape (some mark)) current true rest
    else splitFrom (.quote mark) (current ++ [c]) true rest
  | .escape none, current, quoted, c :: rest => splitFrom .word (current ++ [c]) quoted rest
  | .escape (some mark), current, quoted, c :: rest =>
    let kept := if c = mark || c = '\\' then [c] else ['\\', c]
    splitFrom (.quote mark) (current ++ kept) quoted rest
  | _, current, quoted, c :: rest =>
    if isBlank c then (splitFrom .between [] false rest).map (finish current quoted)
    else match Mode.after c with
      | .word => splitFrom .word (current ++ [c]) quoted rest
      | mode => splitFrom mode current quoted rest

def split (t : Text) : Except Fault (List Text) :=
  splitFrom .between [] false t

end CheckedText.Words

namespace CheckedText

inductive Usage where
  | noSuchOption (name : Text)
  | missingValue (name : Text)
  | unexpectedValue (name : Text)
  | extraArguments (arguments : List Text)
  | noSuchCommand (name : Text)
  | badValue (option : Option Text) (reason : Text)
  deriving DecidableEq, Repr

def Usage.message : Usage → Text
  | .noSuchOption name => "No such option: ".toList ++ Text.showControls name
  | .missingValue name =>
    "Option ".toList ++ Text.quote name ++ " requires an argument.".toList
  | .unexpectedValue name =>
    "Option ".toList ++ Text.quote name ++ " does not take a value.".toList
  | .extraArguments arguments =>
    "Got unexpected extra argument(s) (".toList
      ++ Text.showControls ([' '].intercalate arguments) ++ [')']
  | .noSuchCommand name => "No such command ".toList ++ Text.quote name ++ ['.']
  | .badValue none reason => "Invalid value: ".toList ++ reason
  | .badValue (some option) reason =>
    "Invalid value for ".toList ++ Text.quote option ++ ": ".toList ++ reason

namespace Options

inductive Kind where
  | value
  | flag (on : Bool)
  deriving DecidableEq, Repr

/-- An option by one of its spellings; `key` is the spelling under which it is stored. -/
structure Spelling where
  name : Text
  key : Text
  kind : Kind
  deriving DecidableEq, Repr

abbrev Table := List Spelling

def Table.find? (table : Table) (name : Text) : Option Spelling :=
  List.find? (·.name = name) table

def isLong (name : Text) : Bool :=
  ['-', '-'].isPrefixOf name

inductive Setting where
  | value (key : Text) (v : Text)
  | flag (key : Text) (on : Bool)
  deriving DecidableEq, Repr

structure Parsed where
  settings : List Setting
  arguments : List Text
  deriving DecidableEq, Repr

def Parsed.value? (p : Parsed) (key : Text) : Option Text :=
  p.settings.foldl (fun last s => match s with
    | .value k v => if k = key then some v else last
    | .flag _ _ => last) none

def Parsed.flag? (p : Parsed) (key : Text) : Option Bool :=
  p.settings.foldl (fun last s => match s with
    | .flag k on => if k = key then some on else last
    | .value _ _ => last) none

def Parsed.withSettings (settings : List Setting) (p : Parsed) : Parsed :=
  { p with settings := settings ++ p.settings }

def Parsed.withArgument (argument : Text) (p : Parsed) : Parsed :=
  { p with arguments := argument :: p.arguments }

def Parsed.isOn (p : Parsed) (key : Text) : Bool :=
  (p.flag? key).getD false

/-- What an argument that looks like an option turns out to be: settings alone, or settings and an
option that takes the next argument as its value. -/
inductive Reading where
  | complete (settings : List Setting)
  | needsValue (settings : List Setting) (name key : Text)

/-- The letters after a single hyphen. The first option among them that takes a value takes the
letters that follow. -/
def readLetters (table : Table) : Text → Except Usage Reading
  | [] => .ok (.complete [])
  | c :: rest =>
    match table.find? ['-', c] with
    | none => .error (.noSuchOption ['-', c])
    | some ⟨name, key, .value⟩ =>
      if rest = [] then .ok (.needsValue [] name key) else .ok (.complete [.value key rest])
    | some ⟨_, key, .flag on⟩ => do
      match ← readLetters table rest with
      | .complete settings => return .complete (.flag key on :: settings)
      | .needsValue settings name k => return .needsValue (.flag key on :: settings) name k

def readOption (table : Table) (argument : Text) : Except Usage Reading :=
  let name := argument.takeWhile (· ≠ '=')
  let given :=
    if name.length < argument.length then some (argument.drop (name.length + 1)) else none
  if !isLong argument then readLetters table (argument.drop 1)
  else match table.find? name, given with
    | none, _ => .error (.noSuchOption name)
    | some ⟨_, key, .value⟩, some v => .ok (.complete [.value key v])
    | some ⟨_, key, .value⟩, none => .ok (.needsValue [] name key)
    | some ⟨_, _, .flag _⟩, some _ => .error (.unexpectedValue name)
    | some ⟨_, key, .flag on⟩, none => .ok (.complete [.flag key on])

/-- Reads arguments; with `mixed` options may follow arguments. -/
def parse (table : Table) (mixed : Bool) : List Text → Except Usage Parsed
  | [] => .ok ⟨[], []⟩
  | argument :: rest =>
    if argument = ['-', '-'] then .ok ⟨[], rest⟩
    else if argument.head? = some '-' && 1 < argument.length then
      match readOption table argument with
      | .error u => .error u
      | .ok (.complete settings) => (parse table mixed rest).map (.withSettings settings)
      | .ok (.needsValue settings name key) =>
        match rest with
        | [] => .error (.missingValue name)
        | v :: rest =>
          (parse table mixed rest).map (.withSettings (settings ++ [.value key v]))
    else if mixed then (parse table mixed rest).map (.withArgument argument)
    else .ok ⟨[], argument :: rest⟩

end Options

end CheckedText
