import CheckedText.Toml.Scalar

/-!
# Documents

A document is a sequence of lines: pairs of a key and a value, headers that open a table, and
headers that add a table to an array. A table is opened by a header once, dotted keys do not
reopen a table that a header opened, and nothing is added to a value written in place.
-/

namespace CheckedText.Toml

def leadsInto (sealedKeys : List Key) (key : Key) : Bool :=
  sealedKeys.any (·.isPrefixOf key)

def Value.isCompound : Value → Bool
  | .array _ => true
  | .table _ => true
  | _ => false

def immutable (key : Key) : Text :=
  "Cannot mutate immutable namespace ".toList ++ key.shown

def equalsSign (t : Text) : Except Slip Text :=
  match t with
  | '=' :: rest => .ok (skipSpaces rest)
  | _ => miss "Expected '=' after a key in a key/value pair".toList t

mutual

/-- A value; `fuel` bounds the number of values, items and pairs on the way to any part of it. -/
def value : Nat → Text → Except Slip (Value × Text)
  | 0, t => miss "Invalid value".toList t
  | fuel + 1, t =>
    match t with
    | '[' :: rest => do
      let (vs, after) ← items fuel (← skipFiller false rest)
      return (.array vs, after)
    | '\x7b' :: rest =>
      match skipSpaces rest with
      | '\x7d' :: after => .ok (.table [], after)
      | first => do
        let (entries, after) ← pairs fuel [] [] first
        return (.table entries, after)
    | c :: _ =>
      if c = quotation || c = apostrophe then do
        let (s, after) ← string c t
        return (.text s, after)
      else scalar t
    | [] => miss "Invalid value".toList t

def items : Nat → Text → Except Slip (List Value × Text)
  | 0, t => miss "Unclosed array".toList t
  | fuel + 1, t =>
    match t with
    | ']' :: after => .ok ([], after)
    | _ => do
      let (v, rest) ← value fuel t
      match ← skipFiller false rest with
      | ']' :: after => return ([v], after)
      | ',' :: more =>
        let (vs, after) ← items fuel (← skipFiller false more)
        return (v :: vs, after)
      | after => miss "Unclosed array".toList after

def pairs : Nat → List Key → Table → Text → Except Slip (Table × Text)
  | 0, _, _, t => miss "Unclosed inline table".toList t
  | fuel + 1, sealedKeys, entries, t => do
    let (key, rest) ← key t
    let (v, rest) ← value fuel (← equalsSign rest)
    let last := key.getLastD []
    let doubled := "Duplicate inline table key ".toList ++ Text.quote last
    if leadsInto sealedKeys key then miss (immutable key) rest
    let entries ← missAt rest (entries.modify false (Table.add doubled last v) key.dropLast)
    match skipSpaces rest with
    | '\x7d' :: after => return (entries, after)
    | ',' :: more =>
      pairs fuel (if v.isCompound then key :: sealedKeys else sealedKeys) entries (skipSpaces more)
    | after => miss "Unclosed inline table".toList after

end

/-- A document under way: its tables, the table that the last header opened, the tables that can
no longer be opened, those that can no longer be opened once the next header comes, and the
values written in place. -/
structure Draft where
  root : Table := []
  header : Key := []
  opened : List Key := []
  pending : List Key := []
  sealedKeys : List Key := []

namespace Draft

def containers (d : Draft) (key : Key) : List Key :=
  (List.range' 1 (key.length - 1)).map fun n => d.header ++ key.take n

def addPair (d : Draft) (key : Key) (v : Value) : Except Text Draft := do
  let containers := d.containers key
  let parent := d.header ++ key.dropLast
  if let some closed := containers.find? d.opened.contains then
    throw ("Cannot redefine namespace ".toList ++ closed.shown)
  if leadsInto d.sealedKeys parent then throw (immutable parent)
  let root ← d.root.modify true (Table.add Table.taken (key.getLastD []) v) parent
  return { d with
    root
    pending := containers ++ d.pending
    sealedKeys := if v.isCompound then (d.header ++ key) :: d.sealedKeys else d.sealedKeys }

def settle (d : Draft) : Draft :=
  { d with opened := d.pending ++ d.opened, pending := [] }

def openTable (d : Draft) (key : Key) : Except Text Draft := do
  if d.opened.contains key || leadsInto d.sealedKeys key then
    throw ("Cannot declare ".toList ++ key.shown ++ " twice".toList)
  let root ← d.root.modify true .ok key
  return { d with root, header := key, opened := key :: d.opened }

/-- A new table of an array starts afresh, so what is known of the keys below it is forgotten. -/
def addTable (d : Draft) (key : Key) : Except Text Draft := do
  if leadsInto d.sealedKeys key then throw (immutable key)
  let root ← d.root.modify true (Table.addItem (key.getLastD [])) key.dropLast
  return { d with
    root
    header := key
    opened := key :: d.opened.filter (!key.isPrefixOf ·)
    sealedKeys := d.sealedKeys.filter (!key.isPrefixOf ·) }

def startsKey (c : Char) : Bool :=
  isKeyChar c || c = quotation || c = apostrophe

def statement (d : Draft) (t : Text) : Except Slip (Draft × Text) :=
  match t with
  | '[' :: '[' :: rest => do
    let (key, rest) ← key (skipSpaces rest)
    let d ← missAt rest (d.settle.addTable key)
    match rest with
    | ']' :: ']' :: after => return (d, after)
    | _ => miss "Expected ']]' at the end of an array declaration".toList rest
  | '[' :: rest => do
    let (key, rest) ← key (skipSpaces rest)
    let d ← missAt rest (d.settle.openTable key)
    match rest with
    | ']' :: after => return (d, after)
    | _ => miss "Expected ']' at the end of a table declaration".toList rest
  | '#' :: _ => .ok (d, t)
  | _ => do
    if !(t.head?.map startsKey).getD false then miss "Invalid statement".toList t
    let (key, rest) ← key t
    let (v, rest) ← value (2 * t.length + 2) (← equalsSign rest)
    return (← missAt rest (d.addPair key v), rest)

def unended : Text :=
  "Expected newline or end of document after a statement".toList

def lines : Nat → Draft → Text → Except Slip Draft
  | 0, d, t => if skipSpaces t = [] then .ok d else miss unended t
  | fuel + 1, d, t =>
    match skipSpaces t with
    | [] => .ok d
    | '\n' :: rest => lines fuel d rest
    | start => do
      let (d, rest) ← d.statement start
      match ← skipComment (skipSpaces rest) with
      | [] => return d
      | '\n' :: rest => lines fuel d rest
      | rest => miss unended rest

end Draft

def joinBreaks : Text → Text
  | '\r' :: '\n' :: rest => '\n' :: joinBreaks rest
  | c :: rest => c :: joinBreaks rest
  | [] => []

inductive Fault where
  | malformed (detail : Text)
  | longInteger (digits : Nat)
  deriving DecidableEq, Repr

def place (before : Text) (left : Nat) : Text :=
  if left = 0 then "end of document".toList
  else
    "line ".toList ++ Text.decimal (before.count '\n' + 1) ++ ", column ".toList
      ++ Text.decimal ((before.reverse.takeWhile (· ≠ '\n')).length + 1)

def Slip.fault (t : Text) : Slip → Fault
  | .missed reason left =>
    .malformed (reason ++ " (at ".toList ++ place (t.take (t.length - left)) left ++ [')'])
  | .longInteger digits => .longInteger digits

def document (t : Text) : Except Fault Table :=
  let t := joinBreaks t
  ((Draft.lines (t.length + 1) {} t).map Draft.root).mapError (Slip.fault t)

end CheckedText.Toml
