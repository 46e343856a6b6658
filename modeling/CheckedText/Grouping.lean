import CheckedText.Identifier
import CheckedText.Text.Lower

/-!
# Groups, lines and decoration

A long text is easier to copy in groups of a few symbols with a separator between them, and the
groups are laid out on lines that are filled one after the other. A line is longer than the limit
only if it is a single group.

Blanks and the characters of the separator carry nothing and are left out before a text is decoded.
Each character that is kept remembers where it stood.
-/

namespace CheckedText.Grouping

inductive Fault where
  | groupSize
  | separator
  | lineLength
  deriving DecidableEq, Repr

def Fault.message : Fault → Text
  | .groupSize => "group_size must be positive".toList
  | .separator => "separator must not contain base32 symbols".toList
  | .lineLength => "line_length must be positive".toList

def defaultGroupSize : Int :=
  5

def defaultSeparator : Text :=
  [Base32.separator]

def defaultLineLength : Int :=
  80

def chunks (size : Nat) : Text → List Text
  | [] => []
  | c :: rest => (c :: rest).take size :: chunks size (rest.drop (size - 1))
termination_by t => t.length
decreasing_by simp only [List.length_cons, List.length_drop]; omega

def group (size : Int) (separator : Text) (lowercase : Bool) (t : Text) : Except Fault Text :=
  if size ≤ 0 then .error .groupSize
  else if separator.any Base32.isSymbol then .error .separator
  else .ok (separator.intercalate (chunks size.toNat (if lowercase then Text.lower t else t)))

def format (size : Int) (separator : Text) (lowercase : Bool) (data : Blob) : Except Fault Text :=
  group size separator lowercase (Identifier.encode data)

def splitOn (separator : Text) : Text → List Text
  | [] => [[]]
  | c :: rest =>
    if separator.isPrefixOf (c :: rest) then
      [] :: splitOn separator (rest.drop (separator.length - 1))
    else match splitOn separator rest with
      | [] => [[c]]
      | g :: gs => (c :: g) :: gs
termination_by t => t.length
decreasing_by all_goals simp only [List.length_cons, List.length_drop]; omega

def groups (separator t : Text) : List Text :=
  if separator = [] then [t] else splitOn separator t

/-- Fills lines with groups; `current` is the line under way. An empty line under way is never
finished, it takes the next group as it is. -/
def fill (separator : Text) (limit : Int) (current : Text) : List Text → List Text
  | [] => if current = [] then [] else [current]
  | g :: gs =>
    if current = [] then fill separator limit g gs
    else
      let extended := current ++ separator ++ g
      if limit < extended.length then current :: fill separator limit g gs
      else fill separator limit extended gs

def wrap (separator : Text) (lineLength : Int) (t : Text) : Except Fault (List Text) :=
  if lineLength ≤ 0 then .error .lineLength
  else if t = [] then .ok []
  else .ok (fill separator lineLength [] (groups separator t))

end CheckedText.Grouping

namespace CheckedText.Decoration

def isDecoration (separator : Text) (c : Char) : Bool :=
  Text.isBlank c || separator.contains c

def kept (separator t : Text) : List (Char × Nat) :=
  t.zipIdx.filter fun p => !isDecoration separator p.1

def compact (separator t : Text) : Text :=
  (kept separator t).map (·.1)

def positions (separator t : Text) : List Nat :=
  (kept separator t).map (·.2)

end CheckedText.Decoration
