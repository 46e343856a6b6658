import CheckedText.Toml.Lexeme

/-!
# Numbers, dates and times

A number is read as far as it goes; what follows it is for the reader of the line to accept. Dates
are checked against the calendar.
-/

namespace CheckedText.Toml

open Number (Binary64)

def digitRun (p : Char → Bool) : Text → Text × Text
  | [] => ([], [])
  | '_' :: c :: rest =>
    if p c then push c (digitRun p rest) else ([], '_' :: c :: rest)
  | c :: rest => if p c then push c (digitRun p rest) else ([], c :: rest)

def digitsOf? (p : Char → Bool) : Text → Option (Text × Text)
  | [] => none
  | c :: rest => if p c then some (push c (digitRun p rest)) else none

def radixInteger? : Text → Option (Nat × Text)
  | '0' :: 'x' :: rest => inBase 16 (fun c => (Hex.digitValue? c).isSome) rest
  | '0' :: 'o' :: rest => inBase 8 (fun c => '0' ≤ c && c ≤ '7') rest
  | '0' :: 'b' :: rest => inBase 2 (fun c => c = '0' || c = '1') rest
  | _ => none
where
  inBase (base : Nat) (p : Char → Bool) (t : Text) : Option (Nat × Text) :=
    (digitsOf? p t).map fun (ds, rest) =>
      (Number.ofDigits base (ds.map fun c => (Hex.digitValue? c).getD 0), rest)

def wholePart? : Text → Option (Text × Text)
  | '0' :: rest => some (['0'], rest)
  | t => digitsOf? Char.isDigit t

def fractionPart : Text → Text × Text
  | '.' :: rest => (digitsOf? Char.isDigit rest).getD ([], '.' :: rest)
  | t => ([], t)

def exponentPart? : Text → Option (Int × Text)
  | c :: rest =>
    if c = 'e' || c = 'E' then
      let (down, body) := Number.splitSign rest
      (digitsOf? Char.isDigit body).map fun (ds, after) =>
        (Number.signed down (decimalValue ds), after)
    else none
  | [] => none
where
  decimalValue (ds : Text) : Nat := Number.ofDigits 10 (ds.map fun c => c.toNat - 48)

def decimalNumber? (t : Text) : Option (Except Slip Value × Text) := do
  let (negative, body) := Number.splitSign t
  let (whole, afterWhole) ← wholePart? body
  let (fraction, afterFraction) := fractionPart afterWhole
  let value (ds : Text) : Nat := Number.ofDigits 10 (ds.map fun c => c.toNat - 48)
  match exponentPart? afterFraction with
  | some (exponent, rest) =>
    let x := Binary64.ofDecimal negative (value (whole ++ fraction)) (exponent - fraction.length)
    return (.ok (.float x), rest)
  | none =>
    if fraction ≠ [] then
      let x := Binary64.ofDecimal negative (value (whole ++ fraction)) (-fraction.length)
      return (.ok (.float x), afterFraction)
    else if Number.digitLimit < whole.length then
      return (.error (.longInteger whole.length), afterFraction)
    else return (.ok (.integer (Number.signed negative (value whole))), afterFraction)

def specialFloat? (t : Text) : Option (Value × Text) :=
  let (negative, body) := Number.splitSign t
  if "inf".toList.isPrefixOf body then some (.float (.infinite negative), body.drop 3)
  else if "nan".toList.isPrefixOf body then some (.float .nan, body.drop 3)
  else none

def twoDigits? (low high : Nat) : Text → Option (Nat × Text)
  | a :: b :: rest =>
    let n := 10 * (a.toNat - 48) + (b.toNat - 48)
    if a.isDigit && b.isDigit && low ≤ n && n ≤ high then some (n, rest) else none
  | _ => none

def expect? (c : Char) : Text → Option Text
  | d :: rest => if d = c then some rest else none
  | [] => none

def time? (t : Text) : Option Text := do
  let (_, t) ← twoDigits? 0 23 t
  let (_, t) ← twoDigits? 0 59 (← expect? ':' t)
  let (_, t) ← twoDigits? 0 59 (← expect? ':' t)
  match t with
  | '.' :: c :: rest => return if c.isDigit then rest.dropWhile Char.isDigit else t
  | _ => return t

def skipOffset (t : Text) : Text :=
  match t with
  | 'Z' :: rest => rest
  | 'z' :: rest => rest
  | c :: rest =>
    if c = '+' || c = '-' then
      (do
        let (_, r) ← twoDigits? 0 23 rest
        let (_, r) ← twoDigits? 0 59 (← expect? ':' r)
        return r).getD t
    else t
  | [] => t

structure Date where
  year : Nat
  month : Nat
  day : Nat
  deriving DecidableEq, Repr

def isLeap (year : Nat) : Bool :=
  year % 4 = 0 && (year % 100 ≠ 0 || year % 400 = 0)

def monthLength (year month : Nat) : Nat :=
  if month = 2 then if isLeap year then 29 else 28
  else if month = 4 || month = 6 || month = 9 || month = 11 then 30
  else 31

def Date.isValid (d : Date) : Bool :=
  1 ≤ d.year && d.day ≤ monthLength d.year d.month

def date? (t : Text) : Option (Date × Text) := do
  let (century, t) ← twoDigits? 0 99 t
  let (year, t) ← twoDigits? 0 99 t
  let (month, t) ← twoDigits? 1 12 (← expect? '-' t)
  let (day, t) ← twoDigits? 1 31 (← expect? '-' t)
  return (⟨100 * century + year, month, day⟩, t)

def skipTime (t : Text) : Text :=
  match t with
  | c :: rest =>
    if c = 'T' || c = 't' || c = ' ' then ((time? rest).map skipOffset).getD t else t
  | [] => t

def moment? (t : Text) : Option (Except Slip Value × Text) :=
  match date? t with
  | some (d, rest) =>
    if d.isValid then some (.ok .moment, skipTime rest)
    else some (miss "Invalid date or datetime".toList t, rest)
  | none => (time? t).map (.ok .moment, ·)

def scalar (t : Text) : Except Slip (Value × Text) :=
  if "true".toList.isPrefixOf t then .ok (.boolean true, t.drop 4)
  else if "false".toList.isPrefixOf t then .ok (.boolean false, t.drop 5)
  else match moment? t with
    | some (v, rest) => v.map (·, rest)
    | none =>
      match radixInteger? t with
      | some (n, rest) => .ok (.integer n, rest)
      | none =>
        match decimalNumber? t with
        | some (v, rest) => v.map (·, rest)
        | none =>
          match specialFloat? t with
          | some r => .ok r
          | none => miss "Invalid value".toList t

end CheckedText.Toml
