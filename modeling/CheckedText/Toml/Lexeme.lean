import CheckedText.Text.Bytes
import CheckedText.Number
import CheckedText.Text.Quoted

/-!
# Values and the words of a document

Dates and times are recognised and not kept. Each reader takes the text from where it stands and
gives what it read with the text after it, or it says what it missed and how much of the text was
left then.
-/

namespace CheckedText.Toml

inductive Value where
  | boolean (b : Bool)
  | integer (n : Int)
  | float (x : Number.Binary64)
  | text (t : Text)
  | moment
  | array (items : List Value)
  | table (entries : List (Text × Value))

abbrev Table := List (Text × Value)

/-- Why reading stops: something is missing or wrong where `left` characters are left, or an integer
has too many digits. -/
inductive Slip where
  | missed (reason : Text) (left : Nat)
  | longInteger (digits : Nat)
  deriving DecidableEq, Repr

def miss {α : Type} (reason : Text) (rest : Text) : Except Slip α :=
  .error (.missed reason rest.length)

def missAt {α : Type} (rest : Text) (r : Except Text α) : Except Slip α :=
  r.mapError fun reason => .missed reason rest.length

namespace Table

def get? (t : Table) (key : Text) : Option Value :=
  t.lookup key

def subtable (t : Table) (key : Text) : Table :=
  match t.get? key with
  | some (.table entries) => entries
  | _ => []

def replace (key : Text) (v : Value) : Table → Table
  | [] => []
  | (k, old) :: rest => if k = key then (k, v) :: rest else (k, old) :: replace key v rest

def taken : Text :=
  "Cannot overwrite a value".toList

/-- Changes the table at a path, which is made where it is missing. With `enter` a path goes
through an array of tables to its last table. -/
def modify (enter : Bool) (f : Table → Except Text Table) : List Text → Table → Except Text Table
  | [], t => f t
  | k :: path, t =>
    match t.get? k with
    | none => (modify enter f path []).map fun inner => t ++ [(k, .table inner)]
    | some (.table inner) => (modify enter f path inner).map fun new => t.replace k (.table new)
    | some (.array items) =>
      match enter, items.getLast? with
      | true, some (.table inner) =>
        (modify enter f path inner).map fun new =>
          t.replace k (.array (items.dropLast ++ [.table new]))
      | _, _ => .error taken
    | some _ => .error taken

def add (reason key : Text) (v : Value) (t : Table) : Except Text Table :=
  match t.get? key with
  | none => .ok (t ++ [(key, v)])
  | some _ => .error reason

def addItem (key : Text) (t : Table) : Except Text Table :=
  match t.get? key with
  | none => .ok (t ++ [(key, .array [.table []])])
  | some (.array items) => .ok (t.replace key (.array (items ++ [.table []])))
  | some _ => .error taken

end Table

def isSpace (c : Char) : Bool :=
  c = ' ' || c = '\t'

def skipSpaces (t : Text) : Text :=
  t.dropWhile isSpace

def isIllegal (lines : Bool) (c : Char) : Bool :=
  (c.toNat < 0x20 || c.toNat = 0x7f) && c ≠ '\t' && !(lines && c = '\n')

def passed (lines : Bool) (t after : Text) : Except Slip (Text × Text) :=
  match t.dropWhile (!isIllegal lines ·) with
  | [] => .ok (t, after)
  | c :: rest => miss ("Found invalid character ".toList ++ Text.quote [c]) (c :: rest ++ after)

def skipComment : Text → Except Slip Text
  | '#' :: rest => do
    let (_, after) ← passed false (rest.takeWhile (· ≠ '\n')) (rest.dropWhile (· ≠ '\n'))
    return after
  | t => .ok t

def skipFiller : Bool → Text → Except Slip Text
  | _, [] => .ok []
  | true, c :: rest =>
    if c = '\n' then skipFiller false rest
    else if isIllegal false c then
      miss ("Found invalid character ".toList ++ Text.quote [c]) (c :: rest)
    else skipFiller true rest
  | false, c :: rest =>
    if isSpace c || c = '\n' then skipFiller false rest
    else if c = '#' then skipFiller true rest
    else .ok (c :: rest)

def push (c : Char) (r : Text × Text) : Text × Text :=
  (c :: r.1, r.2)

def apostrophe : Char :=
  '\x27'

def quotation : Char :=
  '\x22'

def cutAt? (mark : Text) : Text → Option (Text × Text)
  | [] => none
  | c :: rest =>
    if mark.isPrefixOf (c :: rest) then some ([], (c :: rest).drop mark.length)
    else (cutAt? mark rest).map (push c)

def literal (lines : Bool) (mark t : Text) : Except Slip (Text × Text) :=
  match cutAt? mark t with
  | none => miss ("Expected ".toList ++ Text.quote mark) []
  | some (content, after) => do
    let (_, after) ← (passed lines content (mark ++ after)).map fun r => (r.1, after)
    return (content, after)

/-- Where a basic string stands: in its text, where a gap between lines may be under way; after a
backslash; before the last `digits` digits of an escape; or in the blanks between a backslash and
the end of its line. -/
inductive BasicMode where
  | content (inGap : Bool)
  | escape
  | code (digits : Nat)
  | lineEnd
  deriving DecidableEq, Repr

def escaped? (c : Char) : Option Char :=
  if c = 'b' then some (Char.ofNat 8)
  else if c = 't' then some '\t'
  else if c = 'n' then some '\n'
  else if c = 'f' then some (Char.ofNat 12)
  else if c = 'r' then some '\r'
  else if c = quotation || c = '\\' then some c
  else none

def codeLength? (c : Char) : Option Nat :=
  if c = 'u' then some 4 else if c = 'U' then some 8 else none

def codePoint (digits : Nat) (t : Text) : Except Slip Char :=
  let ds := (t.take digits).filterMap Hex.digitValue?
  let n := Number.ofDigits 16 ds
  if ds.length < digits then miss "Invalid hex value".toList t
  else if n.isValidChar then .ok (Char.ofNat n)
  else miss "Escaped character is not a Unicode scalar value".toList (t.drop digits)

def strayBackslash : Text :=
  "Unescaped '\\' in a string".toList

def basic (lines : Bool) : BasicMode → Text → Except Slip (Text × Text)
  | .escape, [] => miss strayBackslash []
  | _, [] => miss "Unterminated string".toList []
  | .content inGap, c :: rest =>
    if inGap && (isSpace c || c = '\n') then basic lines (.content true) rest
    else if c = quotation then
      if !lines then .ok ([], rest)
      else if [quotation, quotation].isPrefixOf rest then .ok ([], rest.drop 2)
      else (basic lines (.content false) rest).map (push c)
    else if c = '\\' then basic lines .escape rest
    else if isIllegal lines c then miss ("Illegal character ".toList ++ Text.quote [c]) (c :: rest)
    else (basic lines (.content false) rest).map (push c)
  | .escape, c :: rest =>
    if lines && isSpace c then basic lines .lineEnd rest
    else if lines && c = '\n' then basic lines (.content true) rest
    else match codeLength? c, escaped? c with
      | some digits, _ => do
        let d ← codePoint digits rest
        return push d (← basic lines (.code digits) rest)
      | none, some e => (basic lines (.content false) rest).map (push e)
      | none, none => miss strayBackslash rest
  | .code digits, _ :: rest =>
    basic lines (if 1 < digits then .code (digits - 1) else .content false) rest
  | .lineEnd, c :: rest =>
    if isSpace c then basic lines .lineEnd rest
    else if c = '\n' then basic lines (.content true) rest
    else miss strayBackslash (c :: rest)

/-- A string of several lines may end in one or two quotes of its own before the closing three. -/
def closeBlock (mark : Char) (r : Text × Text) : Text × Text :=
  if [mark, mark].isPrefixOf r.2 then (r.1 ++ [mark, mark], r.2.drop 2)
  else if [mark].isPrefixOf r.2 then (r.1 ++ [mark], r.2.drop 1)
  else r

def dropFirstBreak : Text → Text
  | '\n' :: rest => rest
  | t => t

def blockMark (mark : Char) : Text :=
  [mark, mark, mark]

def string (mark : Char) (t : Text) : Except Slip (Text × Text) :=
  let several := (blockMark mark).isPrefixOf t
  let body := if several then dropFirstBreak (t.drop 3) else t.drop 1
  let read := if mark = apostrophe then literal several (if several then blockMark mark else [mark])
    else basic several (.content false)
  if several then (read body).map (closeBlock mark) else read body

def isKeyChar (c : Char) : Bool :=
  c.isAlphanum || c = '-' || c = '_'

def keyPart (t : Text) : Except Slip (Text × Text) :=
  if [quotation].isPrefixOf t then basic false (.content false) (t.drop 1)
  else if [apostrophe].isPrefixOf t then literal false [apostrophe] (t.drop 1)
  else
    let name := t.takeWhile isKeyChar
    if name = [] then miss "Invalid initial character for a key part".toList t
    else .ok (name, t.dropWhile isKeyChar)

abbrev Key := List Text

def keyFrom : Nat → Text → Except Slip (Key × Text)
  | 0, t => miss "Invalid initial character for a key part".toList t
  | fuel + 1, t => do
    let (part, rest) ← keyPart t
    match skipSpaces rest with
    | '.' :: more =>
      let (path, after) ← keyFrom fuel (skipSpaces more)
      return (part :: path, after)
    | after => return ([part], after)

def key (t : Text) : Except Slip (Key × Text) :=
  keyFrom t.length t

def Key.shown : Key → Text
  | [part] => '(' :: Text.quote part ++ [',', ')']
  | parts => '(' :: [',', ' '].intercalate (parts.map Text.quote) ++ [')']

end CheckedText.Toml
