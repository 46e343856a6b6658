import CheckedText.Text.Width
import CheckedText.Text.Bytes

/-!
# Printed lines

Characters that ring the bell or move back or down are left out, and a tab is filled up with
spaces to the next multiple of eight columns. A line that is wider than its column goes on below.
It is cut before a word that does not fit any more, and a word that is wider than the column is cut
wherever the column is full. Blanks belong to the word in front of them; those at the start of a
line belong to its first word.
-/

namespace CheckedText.Console

def isDropped (c : Char) : Bool :=
  c.toNat = 7 || c.toNat = 8 || c.toNat = 11 || c.toNat = 12 || c.toNat = 13

def tabSize : Nat :=
  8

def splitAt (p : Char → Bool) : Text → List Text
  | [] => [[]]
  | c :: rest =>
    if p c then [] :: splitAt p rest
    else match splitAt p rest with
      | [] => [[c]]
      | l :: ls => (c :: l) :: ls

def gapAt (column : Nat) : Nat :=
  (tabSize - column % tabSize) % tabSize

/-- Joins the parts between tabs. The space that a tab always leaves is measured together with the
part in front of it. -/
def fillTabs (column : Nat) : List Text → Text
  | [] => []
  | [part] => part
  | part :: parts =>
    let spaced := part ++ [' ']
    let stop := column + Text.columns spaced
    spaced ++ List.replicate (gapAt stop) ' ' ++ fillTabs (stop + gapAt stop) parts

def expandTabs (t : Text) : Text :=
  fillTabs 0 (splitAt (· = '\t') t)

def textLines (t : Text) : List Text :=
  (splitAt (· = '\n') (t.filter (!isDropped ·))).map expandTabs

def shown (t : Text) : Text :=
  ['\n'].intercalate (textLines t)

def line (t : Text) : Blob :=
  Utf8.encode (shown t ++ ['\n'])

def cutAfterBlanks : Text → List Text
  | [] => []
  | [c] => [[c]]
  | c :: d :: rest =>
    match cutAfterBlanks (d :: rest) with
    | [] => [[c]]
    | w :: ws =>
      if Text.isBlank c && !Text.isBlank d then [c] :: w :: ws else (c :: w) :: ws

def lineWords (t : Text) : List Text :=
  match cutAfterBlanks t with
  | [] => []
  | [w] => if w.all Text.isBlank then [] else [w]
  | w :: v :: ws => if w.all Text.isBlank then (w ++ v) :: ws else w :: v :: ws

def dropLastBlanks (t : Text) : Text :=
  (t.reverse.dropWhile Text.isBlank).reverse

/-- Cuts clusters into pieces of at most `width` columns. The first piece is `piece`, of `filled`
columns, and what follows. -/
def chop (width : Nat) (piece : Text) (filled : Nat) : List Text.Cluster → List Text
  | [] => [piece]
  | k :: ks =>
    if width < filled + k.columns then piece :: chop width k.text k.columns ks
    else chop width (piece ++ k.text) (filled + k.columns) ks

/-- A fold under way: the finished lines, and the line that takes words, with the columns that
they fill. -/
structure Fold where
  finished : List Text
  current : Text
  filled : Nat

namespace Fold

def start : Fold :=
  ⟨[], [], 0⟩

def onNewLine (f : Fold) (piece : Text) : Fold :=
  if f.finished = [] && f.current = [] then ⟨[], piece, Text.columns piece⟩
  else ⟨f.finished ++ [f.current], piece, Text.columns piece⟩

/-- Puts a word on the current line if it fits there without the blanks after it. -/
def place (width : Nat) (f : Fold) (word : Text) : Fold :=
  let needed := Text.columns (dropLastBlanks word)
  if f.filled + needed ≤ width then
    { f with current := f.current ++ word, filled := f.filled + Text.columns word }
  else if width < needed then (chop width [] 0 (Text.clusters word)).foldl onNewLine f
  else f.onNewLine word

end Fold

def trimTo (width : Nat) (t : Text) : Text :=
  let blanks := t.length - (dropLastBlanks t).length
  t.take (t.length - min blanks (t.length - width))

def front (width : Nat) (t : Text) : Text :=
  if width = 0 then [] else go width (Text.clusters t)
where
  go (left : Nat) : List Text.Cluster → Text
    | [] => []
    | k :: ks => if k.columns ≤ left then k.text ++ go (left - k.columns) ks else []

def padTo (width : Nat) (t : Text) : Text :=
  t ++ List.replicate (width - Text.columns t) ' '

def cropTo (width : Nat) (t : Text) : Text :=
  if width < Text.columns t then padTo width (front width t) else t

def foldLine (width : Nat) (t : Text) : List Text :=
  let f := (lineWords t).foldl (Fold.place width) .start
  let lines := if lineWords t = [] then [t] else f.finished ++ [f.current]
  lines.map fun l => cropTo width (trimTo width l)

def shorten (width : Nat) (t : Text) : Text :=
  let l := trimTo width t
  if width < Text.columns l then padTo (width - 1) (front (width - 1) l) ++ ['…'] else l

def wrapped (width : Nat) (t : Text) : Text :=
  ['\n'].intercalate ((textLines t).flatMap (foldLine width))

end CheckedText.Console
