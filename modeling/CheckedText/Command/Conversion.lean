import CheckedText.Command.Run

/-!
# The commands that convert

Encoding writes a blob as text. The options go before the configuration, and the plain form takes
nothing from either. The checksum of a blob is also printed on its own.

Decoding reads a text back. Whatever decorates it is left out first, and a character that cannot be
read is reported where it stands in the text as given.
-/

namespace CheckedText.Encode

structure Options where
  data : Option Text
  file : Option Text
  hex : Bool
  plain : Bool
  checksum : Option Bool
  grouped : Bool
  upper : Option Bool
  lineLength : Option Int
  deriving DecidableEq, Repr

def usesChecksum (f : Format) (o : Options) : Bool :=
  o.checksum.getD f.checksum

def usesLower (f : Format) (o : Options) : Bool :=
  (o.upper.map (!·)).getD (f.letterCase = .lower)

def lineLimit (f : Format) (o : Options) : Int :=
  o.lineLength.getD (f.lineLength.getD 0)

def symbols (f : Format) (o : Options) (data : Blob) : Text :=
  if usesChecksum f o then Identifier.encode data else Base32.encode data

def lines (f : Format) (o : Options) (data : Blob) : Except Grouping.Fault (List Text) :=
  if o.plain then .ok [Base32.encode data]
  else if !o.grouped then
    .ok [if usesLower f o then Text.lower (symbols f o data) else symbols f o data]
  else do
    let t ← Grouping.group f.groupSize f.separator (usesLower f o) (symbols f o data)
    if lineLimit f o = 0 then return [t]
    else Grouping.wrap f.separator (lineLimit f o) t

/-- Something is printed even if there are no lines. -/
def printed (ls : List Text) : List Text :=
  if ls = [] then [[]] else ls

def run (c : Config) (o : Options) (stdin : Blob) : Run (Option Int) := do
  let s ← Run.surroundings
  let data ← Run.ofExcept (s.readBlob stdin o.data o.file o.hex)
  let ls ← Run.ofExcept ((lines c.format o data).mapError .grouping)
  (printed ls).forM Run.print
  return none

end CheckedText.Encode

namespace CheckedText.Checksum

structure Options where
  data : Option Text
  file : Option Text
  hex : Bool
  deriving DecidableEq, Repr

def run (o : Options) (stdin : Blob) : Run (Option Int) := do
  let s ← Run.surroundings
  let data ← Run.ofExcept (s.readBlob stdin o.data o.file o.hex)
  Run.print (Crc32.display (Crc32.checksum data))
  return none

end CheckedText.Checksum

namespace CheckedText.Decode

inductive OutputFormat where
  | hex
  | text
  | raw
  deriving DecidableEq, Repr

def OutputFormat.word : OutputFormat → Text
  | .hex => "hex".toList
  | .text => "text".toList
  | .raw => "raw".toList

def OutputFormat.refusal : Text :=
  "format must be hex, text, or raw".toList

def OutputFormat.read? (t : Text) : Option OutputFormat :=
  [OutputFormat.hex, .text, .raw].find? (·.word = Config.word t)

structure Options where
  text : Option Text
  file : Option Text
  verify : Option Bool
  format : OutputFormat
  output : Option Text
  deriving DecidableEq, Repr

def verifies (f : Format) (o : Options) : Bool :=
  o.verify.getD f.checksum

def decodeCompact (verify : Bool) (t : Text) : Except Identifier.Fault Blob :=
  if verify then Identifier.decode t else (Base32.decode t).mapError .character

/-- Moves the position of an invalid character to where it was in the text as given. -/
def relocate (positions : List Nat) : Identifier.Fault → Identifier.Fault
  | .character e => .character ⟨e.char, positions.getD e.position e.position⟩
  | f => f

/-- The blob of a text, and whether bits that are not zero were dropped. -/
def blob (f : Format) (o : Options) (t : Text) : Except Identifier.Fault (Blob × Bool) :=
  let source := Decoration.compact f.separator t
  let result := do
    let data ← decodeCompact (verifies f o) source
    let canonical ← (Base32.hasCanonicalPadding source).mapError .character
    return (data, !canonical)
  result.mapError (relocate (Decoration.positions f.separator t))

def paddingWarning : Text :=
  "trailing padding bits are not zero; they were ignored".toList

def writeFile (quiet : Bool) (path : Text) (data : Blob) : Run Unit := do
  let s ← Run.surroundings
  let files ← Run.ofExcept ((s.files.write path data).mapError (.files · path))
  Run.setSurroundings { s with files }
  if quiet then return ()
  else Run.printMarkedErr ("[dim]- wrote ".toList ++ path ++ "[/dim]".toList)

def output (o : Options) (quiet : Bool) (data : Blob) : Run Unit :=
  match o.output.filter (· ≠ []), o.format with
  | some path, _ => writeFile quiet path data
  | none, .raw => Run.writeOut data
  | none, .text => do
    Run.print (← Run.ofExcept ((Utf8.decode data).mapError fun _ => .outputNotUtf8))
  | none, .hex => Run.print (Hex.encode data)

def run (c : Config) (o : Options) (quiet : Bool) (stdin : Blob) : Run (Option Int) := do
  let s ← Run.surroundings
  let t ← Run.ofExcept (s.readText stdin o.text o.file)
  let (data, dropped) ← Run.ofExcept ((blob c.format o t).mapError .identifier)
  if dropped then Run.warn quiet paddingWarning
  output o quiet data
  return none

end CheckedText.Decode
