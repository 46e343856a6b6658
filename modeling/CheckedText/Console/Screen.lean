import CheckedText.Console.Style

/-!
# Markup and screens

Style tags stand in brackets. An opening tag takes effect until a closing tag of its name, or a
closing tag without a name; tags themselves are not shown. Of the backslashes in front of a tag
every second one is shown, and an odd one makes the tag plain text. A bracket that starts no tag
may have a backslash in front, which is not shown. In each piece of text between tags, a name
between colons is replaced by the picture that it stands for.

Text with markup is cut to the width of its screen. A table of names and values has two columns,
each as wide as its widest line, where a tab counts for nothing; the second gets what the first
leaves of the screen. A name that does not fit is shortened, a value is folded. A cell may have
several lines; the rest of its row is then filled up with blank ones. A column without width shows
nothing.
-/

namespace CheckedText.Markup

inductive Fault where
  | unmatched (tag : Text) (position : Nat)
  | nothingOpen (position : Nat)
  | parameters (message : Text)
  | component (digits : Nat)
  deriving DecidableEq, Repr

def Fault.message : Fault → Text
  | .unmatched tag position =>
    "closing tag '[".toList ++ tag ++ "]' at position ".toList ++ Text.decimal position
      ++ " doesn't match any open tag".toList
  | .nothingOpen position =>
    "closing tag '[/]' at position ".toList ++ Text.decimal position
      ++ " has nothing to close".toList
  | .parameters message => message
  | .component 0 => "invalid literal for int() with base 10: ''".toList
  | .component digits => Number.limitMessage (some digits)

structure Opened where
  name : Text
  parameters : Option Text
  deriving DecidableEq, Repr

def startsTag (c : Char) : Bool :=
  ('a' ≤ c && c ≤ 'z') || c = '#' || c = '/' || c = '@'

def tag? (t : Text) : Option Text :=
  let body := t.takeWhile fun c => c ≠ '[' && c ≠ ']'
  if (body.head?.map startsTag).getD false && (t.drop body.length).head? = some ']' then some body
  else none

def styleName (t : Text) : Except Fault Text :=
  (Style.normalName t).mapError .component

/-- The parameters of a handler are evaluated when its tag is closed. -/
def evaluate (complaint? : Text → Option Text) (tag : Opened) : Except Fault Unit :=
  match tag.name.head?, tag.parameters.filter (· ≠ []) with
  | some '@', some parameters =>
    match complaint? parameters with
    | some message => .error (.parameters message)
    | none => .ok ()
  | _, _ => .ok ()

def enter (complaint? : Text → Option Text) (position : Nat) (opened : List Opened) (tag : Text) :
    Except Fault (List Opened) := do
  match tag.takeWhile (· ≠ '=') with
  | '/' :: closed =>
    if Text.strip closed = [] then
      match opened with
      | [] => throw (.nothingOpen position)
      | inner :: rest =>
        evaluate complaint? inner
        return rest
    else
      let name ← styleName (Text.strip closed)
      match opened.find? (·.name = name) with
      | none => throw (.unmatched tag position)
      | some found =>
        evaluate complaint? found
        return opened.eraseP (·.name = name)
  | name =>
    let parameters := if name.length < tag.length then some (tag.drop (name.length + 1)) else none
    return ⟨← styleName name, parameters⟩ :: opened

def backslashes (n : Nat) : Text :=
  List.replicate n '\\'

def lead (t : Text) : List Text → List Text
  | [] => [t]
  | piece :: pieces => (t ++ piece) :: pieces

/-- The pieces of text in what follows `slashes` backslashes; it starts at index `position`. -/
def renderFrom (complaint? : Text → Option Text) (position slashes : Nat) (opened : List Opened) :
    Text → Except Fault (List Text)
  | [] => .ok [backslashes slashes]
  | c :: rest =>
    if c = '\\' then renderFrom complaint? (position + 1) (slashes + 1) opened rest
    else if c = '[' then
      match tag? rest with
      | some tag => do
        let after := rest.drop (tag.length + 1)
        let next := position + tag.length + 2
        if slashes % 2 = 1 then
          let pieces ← renderFrom complaint? next 0 opened after
          return [] :: backslashes (slashes / 2) :: ('[' :: tag ++ [']']) :: pieces
        else
          let pieces ← renderFrom complaint? next 0 (← enter complaint? position opened tag) after
          return [] :: backslashes (slashes / 2) :: pieces
      | none => do
        let pieces ← renderFrom complaint? (position + 1) 0 opened rest
        return lead (backslashes (slashes - 1) ++ ['[']) pieces
    else do
      let pieces ← renderFrom complaint? (position + 1) 0 opened rest
      return lead (backslashes slashes ++ [c]) pieces
termination_by t => t.length
decreasing_by all_goals simp only [List.length_cons, List.length_drop]; omega

def variants : List (String × Char) :=
  [("-emoji", Char.ofNat 0xfe0f), ("-text", Char.ofNat 0xfe0e)]

def pictured (picture? : Text → Option Text) (name : Text) : Text :=
  let drawn? := match variants.find? fun v => v.1.toList.isSuffixOf name with
    | some v => (picture? (Text.lower (name.take (name.length - v.1.length)))).map (· ++ [v.2])
    | none => picture? (Text.lower name)
  drawn?.getD (':' :: name ++ [':'])

/-- Replaces names between colons. A name under way has no blank in it. -/
def replaceFrom (picture? : Text → Option Text) : Option Text → Text → Text
  | none, [] => []
  | some name, [] => ':' :: name
  | none, c :: rest =>
    if c = ':' then replaceFrom picture? (some []) rest else c :: replaceFrom picture? none rest
  | some name, c :: rest =>
    if c = ':' then pictured picture? name ++ replaceFrom picture? none rest
    else if Text.isBlank c then ':' :: name ++ c :: replaceFrom picture? none rest
    else replaceFrom picture? (some (name ++ [c])) rest

def replaceNames (picture? : Text → Option Text) (t : Text) : Text :=
  replaceFrom picture? none t

def render (picture? complaint? : Text → Option Text) (t : Text) : Except Fault Text :=
  (renderFrom complaint? 0 0 [] t).map fun pieces => pieces.flatMap (replaceNames picture?)

end CheckedText.Markup

namespace CheckedText

/-- What printing depends on. A screen has eighty columns where its width is not known, and narrower
ones are left out. The pictures that have names, and what there is to say against the parameters of
a handler, are for the library that draws to know. -/
structure Screen where
  width : Nat
  picture? : Text → Option Text
  complaint? : Text → Option Text
  eighty_le : 80 ≤ width

namespace Screen

def plain : Screen :=
  ⟨80, fun _ => none, fun _ => none, Nat.le_refl 80⟩

def render (s : Screen) (t : Text) : Except Markup.Fault Text :=
  Markup.render s.picture? s.complaint? t

def line (s : Screen) (t : Text) : Blob :=
  Utf8.encode (Console.wrapped s.width t ++ ['\n'])

end Screen

namespace Console

/-- The characters that end a line when widths are taken. Only the line break ends one that is
shown. -/
def endsLine (c : Char) : Bool :=
  c = '\n' || (0x1c ≤ c.toNat && c.toNat ≤ 0x1e) || c.toNat = 0x85 || c.toNat = 0x2028
    || c.toNat = 0x2029

def cell (s : Screen) (t : Text) : Except Markup.Fault Text :=
  (s.render t).map fun r => r.filter (!isDropped ·)

def widest (cells : List Text) : Nat :=
  ((cells.flatMap (splitAt endsLine)).map Text.columns).foldl max 0

def cellLines (width : Nat) (lay : Text → List Text) (t : Text) : List Text :=
  if width = 0 then [] else (splitAt (· = '\n') t).flatMap fun l => lay (expandTabs l)

def rowLines (keyWidth gap valueWidth : Nat) (key value : Text) : List Text :=
  let keys := cellLines keyWidth (fun l => [shorten keyWidth l]) key
  let values := cellLines valueWidth (foldLine valueWidth) value
  (List.range (max 1 (max keys.length values.length))).map fun i =>
    padTo keyWidth (keys.getD i []) ++ List.replicate gap ' ' ++ padTo valueWidth (values.getD i [])

/-- The printed table. Faults in the first column come before those in the second. -/
def table (s : Screen) (rows : List (Text × Text)) : Except Markup.Fault Text := do
  let keys ← rows.mapM fun r => cell s r.1
  let values ← rows.mapM fun r => cell s r.2
  let keyWidth := min (widest keys) (s.width - 1)
  let gap := min 2 (s.width - keyWidth)
  let valueWidth := min (widest values) (s.width - keyWidth - gap)
  let lines := (keys.zip values).flatMap fun (key, value) =>
    rowLines keyWidth gap valueWidth key value
  return lines.flatMap (· ++ ['\n'])

end Console

end CheckedText
