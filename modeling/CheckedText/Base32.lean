import CheckedText.Text.Quoted

/-!
# Base32 without padding

A symbol is a value of five bits. It is written as one of 26 capitals or the digits 2 to 7, and
read back from a letter of either case. A blob is written most significant bit first, five bits to a
symbol, with zeros after the last bit. Reading passes over hyphens and drops the bits after the last
whole byte; whether these were zero is a separate question.

Each direction keeps the bits that it has read and not yet written: the low `count` bits of `bits`,
the oldest one highest.
-/

namespace CheckedText.Base32

abbrev Symbol := Fin 32

def alphabet : Text :=
  "ABCDEFGHIJKLMNOPQRSTUVWXYZ234567".toList

theorem alphabet_length : alphabet.length = 32 := by decide

def Symbol.char (v : Symbol) : Char :=
  alphabet.get (v.cast alphabet_length.symm)

/-- Only ASCII letters have a case here, so no other character is read as a symbol. -/
def value? (c : Char) : Option Symbol :=
  (alphabet.finIdxOf? c.toUpper).map (Fin.cast alphabet_length)

def isSymbol (c : Char) : Bool :=
  (value? c).isSome

structure Pending where
  bits : Nat
  count : Nat
  deriving DecidableEq, Repr

namespace Pending

def empty : Pending :=
  ⟨0, 0⟩

def push (p : Pending) (width value : Nat) : Pending :=
  ⟨p.bits <<< width ||| value, p.count + width⟩

def front (p : Pending) (width : Nat) : Nat :=
  p.bits >>> (p.count - width) % Nat.pow 2 width

def drop (p : Pending) (width : Nat) : Pending :=
  ⟨p.bits % Nat.pow 2 (p.count - width), p.count - width⟩

def drainSymbols (p : Pending) : List Symbol × Pending :=
  if 5 ≤ p.count then
    let rest := drainSymbols (p.drop 5)
    (Fin.ofNat 32 (p.front 5) :: rest.1, rest.2)
  else ([], p)
termination_by p.count
decreasing_by simp only [drop]; omega

def lastSymbol (p : Pending) : List Symbol :=
  if p.count = 0 then [] else [Fin.ofNat 32 (p.bits <<< (5 - p.count))]

def drainByte (p : Pending) : List UInt8 × Pending :=
  if 8 ≤ p.count then ([UInt8.ofNat (p.front 8)], p.drop 8) else ([], p)

end Pending

def encodedLength (n : Nat) : Nat :=
  (n * 8 + 4) / 5

def encodedLength? : Int → Option Nat
  | .ofNat n => some (encodedLength n)
  | .negSucc _ => none

def symbolsFrom (p : Pending) : Blob → List Symbol
  | [] => p.lastSymbol
  | b :: rest =>
    let (out, q) := (p.push 8 b.toNat).drainSymbols
    out ++ symbolsFrom q rest

def symbols (data : Blob) : List Symbol :=
  symbolsFrom .empty data

def encode (data : Blob) : Text :=
  (symbols data).map Symbol.char

def separator : Char :=
  '-'

structure InvalidCharacter where
  char : Char
  position : Nat
  deriving DecidableEq, Repr

def InvalidCharacter.message (e : InvalidCharacter) : Text :=
  "invalid base32 character ".toList ++ Text.quote [e.char] ++ " at position ".toList
    ++ Text.decimal e.position

def readFrom (position : Nat) : Text → Except InvalidCharacter (List Symbol)
  | [] => .ok []
  | c :: rest =>
    if c = separator then readFrom (position + 1) rest
    else match value? c with
      | none => .error ⟨c, position⟩
      | some v => (readFrom (position + 1) rest).map (v :: ·)

def readSymbols (t : Text) : Except InvalidCharacter (List Symbol) :=
  readFrom 0 t

def bytesFrom (p : Pending) : List Symbol → Blob
  | [] => []
  | v :: rest =>
    let (out, q) := (p.push 5 v.val).drainByte
    out ++ bytesFrom q rest

def bytes (vs : List Symbol) : Blob :=
  bytesFrom .empty vs

def decode (t : Text) : Except InvalidCharacter Blob :=
  (readSymbols t).map bytes

/-- One symbol of the padding check: a window of eight bits, of which the low `count` follow the
last whole byte. -/
def paddingStep (p : Pending) (v : Symbol) : Pending :=
  ⟨(p.bits <<< 5 ||| v.val) % 256, (p.count + 5) % 8⟩

def zeroPadded (vs : List Symbol) : Bool :=
  let p := vs.foldl paddingStep .empty
  p.bits % Nat.pow 2 p.count == 0

/-- Whether the bits that `decode` drops are all zero. -/
def hasCanonicalPadding (t : Text) : Except InvalidCharacter Bool :=
  (readSymbols t).map zeroPadded

end CheckedText.Base32
