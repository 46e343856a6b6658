import CheckedText.Text.Basic

/-!
# Texts as bytes and bytes as texts

In UTF-8 a text becomes bytes character by character. Reading goes byte by byte: the first byte of a
character says how many bytes follow and where the next one must lie, and every later byte is a
continuation byte. A fault names the bytes of the character that was under way.

In hexadecimal a blob is written as two lower-case digits for each byte. Reading allows digits of
either case, blanks anywhere, and a mark for hexadecimal in front.
-/

namespace CheckedText.Utf8

def encode (t : Text) : Blob :=
  t.flatMap String.utf8EncodeChar

inductive Reason where
  | startByte
  | continuation
  | ended
  deriving DecidableEq, Repr

def Reason.message : Reason → Text
  | .startByte => "invalid start byte".toList
  | .continuation => "invalid continuation byte".toList
  | .ended => "unexpected end of data".toList

/-- The faulty bytes are the `length` bytes from index `start` on, the first of them `byte`. -/
structure Fault where
  byte : UInt8
  start : Nat
  length : Nat
  reason : Reason
  deriving DecidableEq, Repr

def Fault.message (f : Fault) : Text :=
  let place :=
    if f.length = 1 then
      "byte 0x".toList ++ Text.hexadecimal 2 f.byte.toNat ++ " in position ".toList
        ++ Text.decimal f.start
    else
      "bytes in position ".toList ++ Text.decimal f.start ++ '-' ::
        Text.decimal (f.start + f.length - 1)
  "'utf-8' codec can't decode ".toList ++ place ++ ": ".toList ++ f.reason.message

/-- A character under way: its first byte, how many bytes it has so far, the bits read, how many
bytes it still needs and the bounds of the next one. -/
structure Part where
  byte : UInt8
  length : Nat
  value : Nat
  needed : Nat
  low : UInt8
  high : UInt8
  deriving DecidableEq, Repr

/-- What the first byte of a character of two to four bytes announces. Overlong forms,
surrogates and numbers past the last code point are ruled out by the bounds of the second
byte. -/
def lead? (b : UInt8) : Option Part :=
  if b < 0xC2 then none
  else if b < 0xE0 then some ⟨b, 1, b.toNat % 32, 1, 0x80, 0xBF⟩
  else if b < 0xF0 then
    some ⟨b, 1, b.toNat % 16, 2, if b = 0xE0 then 0xA0 else 0x80, if b = 0xED then 0x9F else 0xBF⟩
  else if b < 0xF5 then
    some ⟨b, 1, b.toNat % 8, 3, if b = 0xF0 then 0x90 else 0x80, if b = 0xF4 then 0x8F else 0xBF⟩
  else none

def Part.fault (p : Part) (start : Nat) (reason : Reason) : Fault :=
  ⟨p.byte, start, p.length, reason⟩

def Part.extend (p : Part) (b : UInt8) : Part :=
  ⟨p.byte, p.length + 1, p.value * 64 + b.toNat % 64, p.needed - 1, 0x80, 0xBF⟩

def decodeFrom (start : Nat) : Option Part → Blob → Except Fault Text
  | none, [] => .ok []
  | some p, [] => .error (p.fault start .ended)
  | none, b :: rest =>
    if b < 0x80 then (decodeFrom (start + 1) none rest).map (Char.ofNat b.toNat :: ·)
    else match lead? b with
      | none => .error ⟨b, start, 1, .startByte⟩
      | some p => decodeFrom start (some p) rest
  | some p, b :: rest =>
    if p.low ≤ b && b ≤ p.high then
      let q := p.extend b
      if q.needed = 0 then
        (decodeFrom (start + q.length) none rest).map (Char.ofNat q.value :: ·)
      else decodeFrom start (some q) rest
    else .error (p.fault start .continuation)

def decode (data : Blob) : Except Fault Text :=
  decodeFrom 0 none data

def decodeAscii (data : Blob) : Text :=
  data.map fun b => if b < 0x80 then Char.ofNat b.toNat else Char.ofNat 0xFFFD

end CheckedText.Utf8

namespace CheckedText.Hex

def digit (n : Nat) : Char :=
  Nat.digitChar n

def encode (data : Blob) : Text :=
  data.flatMap fun b => [digit (b.toNat / 16), digit (b.toNat % 16)]

def digitValue? (c : Char) : Option Nat :=
  if '0' ≤ c && c ≤ '9' then some (c.toNat - 48)
  else if 'a' ≤ c && c ≤ 'f' then some (c.toNat - 87)
  else if 'A' ≤ c && c ≤ 'F' then some (c.toNat - 55)
  else none

def readPairs? : Text → Option Blob
  | [] => some []
  | [_] => none
  | a :: b :: rest => do
    let high ← digitValue? a
    let low ← digitValue? b
    let data ← readPairs? rest
    return UInt8.ofNat (16 * high + low) :: data

def dropMark : Text → Text
  | '0' :: 'x' :: rest => rest
  | '0' :: 'X' :: rest => rest
  | t => t

def read? (t : Text) : Option Blob :=
  readPairs? (dropMark (Text.dropBlanks t))

end CheckedText.Hex
