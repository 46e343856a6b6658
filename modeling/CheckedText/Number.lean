import CheckedText.Text.Basic

/-!
# Numbers

Digits may be set apart by single underscores. A numeral of an integer has an optional sign and
decimal digits of any script, at most 4300 of them.

Of the floating-point numbers of 64 bits every finite one is a whole multiple of the smallest
positive one, which is 2 to the power -1074. A decimal is read as the nearest number with at most 53
significant bits, and of two equally near ones as the even one.

What a user writes for an integer may have white space around it, a plus sign, zeros in front,
before or after a minus sign, a fraction of zeros and underscores between digits; all of these are
taken away first, and a minus sign at most and digits without a zero in front are left. Underscores
among the zeros in front go with the zeros, however many there are.
-/

namespace CheckedText.Number

/-- The digits of a text that holds nothing but digits and single underscores between them. -/
def digits? (value? : Char → Option Nat) : Text → Option (List Nat)
  | [] => none
  | [c] => (value? c).map ([·])
  | c :: '_' :: rest => do
    let d ← value? c
    return d :: (← digits? value? rest)
  | c :: rest => do
    let d ← value? c
    return d :: (← digits? value? rest)

def ofDigits (base : Nat) (ds : List Nat) : Nat :=
  ds.foldl (fun n d => n * base + d) 0

def digitLimit : Nat :=
  4300

def limitMessage (digits : Option Nat) : Text :=
  "Exceeds the limit (".toList ++ Text.decimal digitLimit
    ++ " digits) for integer string conversion".toList
    ++ (match digits with
      | some n => ": value has ".toList ++ Text.decimal n ++ " digits".toList
      | none => [])
    ++ "; use sys.set_int_max_str_digits() to increase the limit".toList

def asciiDigit? (c : Char) : Option Nat :=
  if c.isDigit then some (c.toNat - 48) else none

def splitSign : Text → Bool × Text
  | '-' :: rest => (true, rest)
  | '+' :: rest => (false, rest)
  | t => (false, t)

def signed (negative : Bool) (n : Nat) : Int :=
  if negative then -n else n

def readInteger? (t : Text) : Option Int := do
  let (negative, body) := splitSign t
  let ds ← digits? Text.digitValue? body
  if digitLimit < ds.length then none
  else return signed negative (ofDigits 10 ds)

inductive Binary64 where
  /-- The magnitude counts multiples of 2 to the power -1074. -/
  | finite (negative : Bool) (units : Nat)
  | infinite (negative : Bool)
  | nan
  deriving DecidableEq, Repr

def roundDiv (n d : Nat) : Nat :=
  let q := n / d
  let r := n % d
  if 2 * r < d then q
  else if d < 2 * r then q + 1
  else q + q % 2

namespace Binary64

def unitExponent : Nat :=
  1074

def unitsPerOne : Nat :=
  Nat.pow 2 unitExponent

def precision : Nat :=
  53

def overflow : Nat :=
  Nat.pow 2 (1024 + unitExponent)

def roundUnits (n d : Nat) : Nat :=
  let scale := Nat.pow 2 ((n / d).log2 + 1 - precision)
  roundDiv n (d * scale) * scale

/-- The number nearest to `m` times ten to the power `e`. Decimals far outside the range are
decided by the number of their digits. -/
def ofDecimal (negative : Bool) (m : Nat) (e : Int) : Binary64 :=
  let magnitude := (Nat.toDigits 10 m).length + e
  if m = 0 || magnitude < -400 then .finite negative 0
  else if 400 < magnitude then .infinite negative
  else
    let units :=
      if 0 ≤ e then roundUnits (m * Nat.pow 10 e.toNat * unitsPerOne) 1
      else roundUnits (m * unitsPerOne) (Nat.pow 10 (-e).toNat)
    if units < overflow then .finite negative units else .infinite negative

def integer? : Binary64 → Option Int
  | .finite negative units =>
    if units % unitsPerOne = 0 then some (signed negative (units / unitsPerOne)) else none
  | .infinite _ => none
  | .nan => none

def part? (required : Bool) (t : Text) : Option (List Nat) :=
  if t = [] && !required then some [] else digits? asciiDigit? t

def isExponentMark (c : Char) : Bool :=
  c = 'e' || c = 'E'

def cutAt? (p : Char → Bool) (t : Text) : Option (Text × Text) :=
  match t.dropWhile (!p ·) with
  | [] => none
  | _ :: rest => some (t.takeWhile (!p ·), rest)

def splitExponent? (t : Text) : Option (Text × Int) :=
  match cutAt? isExponentMark t with
  | none => some (t, 0)
  | some (mantissa, e) =>
    let (down, body) := splitSign e
    (digits? asciiDigit? body).map fun ds => (mantissa, signed down (ofDigits 10 ds))

def splitFraction? (t : Text) : Option (List Nat × List Nat) :=
  match cutAt? (· = '.') t with
  | none => (part? true t).map (·, [])
  | some (w, f) => do
    let whole ← part? f.isEmpty w
    let fraction ← part? w.isEmpty f
    return (whole, fraction)

def readDecimal? (negative : Bool) (t : Text) : Option Binary64 := do
  let (mantissa, exponent) ← splitExponent? t
  let (whole, fraction) ← splitFraction? mantissa
  return ofDecimal negative (ofDigits 10 (whole ++ fraction)) (exponent - fraction.length)

def read? (t : Text) : Option Binary64 :=
  let (negative, body) := splitSign t
  let word := Text.foldAscii body
  if word = "inf".toList || word = "infinity".toList then some (.infinite negative)
  else if word = "nan".toList then some .nan
  else readDecimal? negative body

end Binary64

end CheckedText.Number

namespace CheckedText.Number.Tolerant

inductive Fault where
  | malformed
  | tooLong
  deriving DecidableEq, Repr

def isLeadingDigit (c : Char) : Bool :=
  '1' ≤ c && c ≤ '9'

def readPlain (t : Text) : Except Fault Int :=
  let negative := t.head? = some '-'
  let body := if negative then t.drop 1 else t
  let digits := body.takeWhile Char.isDigit
  let zeroFirst := digits.head? = some '0'
  if zeroFirst && 1 < digits.length then .error .malformed
  else if digitLimit < digits.length + (t.length - body.length) then .error .tooLong
  else if digits = [] || digits.length < body.length then .error .malformed
  else .ok (signed negative (ofDigits 10 (digits.filterMap asciiDigit?)))

/-- What is left of a number after zeros in front, of which `last` was read last. The last one
stays if nothing else does, or a fraction. -/
def dropZerosAfter (last : Char) : Text → Option Text
  | [] => some [last]
  | c :: rest =>
    if c = '0' || c = '_' then dropZerosAfter c rest
    else if isLeadingDigit c || c = '-' then some (c :: rest)
    else if c = '.' then some (last :: c :: rest)
    else none

def dropZeros : Text → Option Text
  | [] => none
  | c :: rest =>
    if c = '0' then dropZerosAfter c rest
    else if isLeadingDigit c || c = '-' then some (c :: rest)
    else none

def dropZeroFraction (t : Text) : Text :=
  if ((t.dropWhile (· ≠ '.')).drop 1).all (· = '0') then t.takeWhile (· ≠ '.') else t

def hasDoubleUnderscore : Text → Bool
  | '_' :: '_' :: _ => true
  | _ :: rest => hasDoubleUnderscore rest
  | [] => false

def dropUnderscores (t : Text) : Text :=
  if t.head? = some '_' || t.getLast? = some '_' || hasDoubleUnderscore t then t
  else t.filter (· ≠ '_')

def dropPlus : Text → Option Text
  | '+' :: '-' :: _ => none
  | '+' :: rest => some rest
  | t => some t

def splitMinus : Text → Text × Text
  | '-' :: rest => (['-'], rest)
  | t => ([], t)

def plain? (t : Text) : Option Text := do
  let (minus, unsigned) := splitMinus (← dropPlus (Text.stripSpace t))
  let body ← dropZeros unsigned
  return dropUnderscores (minus ++ dropZeroFraction body)

def read (t : Text) : Except Fault Int :=
  match plain? t with
  | some p => readPlain p
  | none => .error .malformed

end CheckedText.Number.Tolerant
