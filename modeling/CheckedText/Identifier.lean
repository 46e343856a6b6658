import CheckedText.Base32

/-!
# Identifiers

The checksum is a cyclic redundancy check of 32 bits on the reflected polynomial. The register takes
a byte at a time: eight one-bit shifts of its low byte, which depend on that byte alone, and the
rest of the register moved down.

An identifier is the base32 text of a blob with its checksum in front. Reading one checks the
characters first, then the length, then the checksum.
-/

namespace CheckedText.Crc32

def polynomial : UInt32 :=
  0xEDB88320

/-- One bit: the register moves down, and the polynomial is subtracted if a one falls out. -/
def shift (r : UInt32) : UInt32 :=
  if r &&& 1 = 1 then r >>> 1 ^^^ polynomial else r >>> 1

def entry (i : UInt8) : UInt32 :=
  shift (shift (shift (shift (shift (shift (shift (shift i.toUInt32)))))))

def update (r : UInt32) (b : UInt8) : UInt32 :=
  r >>> 8 ^^^ entry (r.toUInt8 ^^^ b)

def ones : UInt32 :=
  0xFFFFFFFF

def checksum (data : Blob) : UInt32 :=
  data.foldl update ones ^^^ ones

def toBytes (r : UInt32) : Blob :=
  [(r >>> 24).toUInt8, (r >>> 16).toUInt8, (r >>> 8).toUInt8, r.toUInt8]

def ofBytes (a b c d : UInt8) : UInt32 :=
  a.toUInt32 <<< 24 ||| b.toUInt32 <<< 16 ||| c.toUInt32 <<< 8 ||| d.toUInt32

def checksumBytes (data : Blob) : Blob :=
  toBytes (checksum data)

def display (r : UInt32) : Text :=
  Text.hexadecimal 8 r.toNat

end CheckedText.Crc32

namespace CheckedText.Identifier

inductive Fault where
  | character (e : Base32.InvalidCharacter)
  | truncated (length required : Nat)
  | mismatch (expected actual : UInt32)
  deriving DecidableEq, Repr

def Fault.message : Fault → Text
  | .character e => e.message
  | .truncated length required =>
    "identifier too short: ".toList ++ Text.decimal length ++ " bytes decoded, at least ".toList
      ++ Text.decimal required ++ " required".toList
  | .mismatch expected actual =>
    "checksum mismatch: expected ".toList ++ Crc32.display expected ++ ", computed ".toList
      ++ Crc32.display actual

def checksumLength : Nat :=
  4

def encode (data : Blob) : Text :=
  Base32.encode (Crc32.checksumBytes data ++ data)

def split : Blob → Except Fault (UInt32 × Blob)
  | a :: b :: c :: d :: rest => .ok (Crc32.ofBytes a b c d, rest)
  | short => .error (.truncated short.length checksumLength)

def verify (raw : Blob) : Except Fault Blob := do
  let (expected, payload) ← split raw
  let actual := Crc32.checksum payload
  if expected = actual then .ok payload else .error (.mismatch expected actual)

def decode (t : Text) : Except Fault Blob := do
  verify (← (Base32.decode t).mapError .character)

end CheckedText.Identifier
