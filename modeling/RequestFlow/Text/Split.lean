/-!
Contract: cutting texts at separators.

Owns: the cut at the first separator, the cut at the first occurrence of a
longer mark, the list of all pieces between separators, and the lines of a text.

Every function works on character lists; `String` versions are given where
callers hold strings.
-/

namespace RequestFlow.Text

/-- The text before and after the first character that satisfies `isMark`; the
mark itself is dropped. `none` when there is no such character. -/
def cutWhere (isMark : Char → Bool) : List Char → Option (List Char × List Char)
  | [] => none
  | char :: rest =>
      if isMark char then some ([], rest)
      else (cutWhere isMark rest).map fun (before, after) => (char :: before, after)

/-- The text before and after the first `mark`. -/
def cut (mark : Char) (text : List Char) : Option (List Char × List Char) :=
  cutWhere (· == mark) text

/-- `cut` on strings. -/
def cutString (mark : Char) (text : String) : Option (String × String) :=
  (cut mark text.toList).map fun (before, after) => (String.ofList before, String.ofList after)

/-- The text before and after the first occurrence of two characters in a row. -/
def cutPair (first second : Char) : List Char → Option (List Char × List Char)
  | [] => none
  | [_] => none
  | one :: two :: rest =>
      if one == first && two == second then some ([], rest)
      else (cutPair first second (two :: rest)).map fun (before, after) => (one :: before, after)

/-- All pieces between the marks, empty ones included; a text without a mark is
its own single piece. -/
def pieces (isMark : Char → Bool) : List Char → List (List Char)
  | [] => [[]]
  | char :: rest =>
      if isMark char then [] :: pieces isMark rest
      else
        match pieces isMark rest with
        | [] => [[char]]
        | piece :: more => (char :: piece) :: more

/-- Removes one carriage return at the end. -/
def dropReturn (line : List Char) : List Char :=
  match line.reverse with
  | '\r' :: before => before.reverse
  | _ => line

/-- The lines of a text. A line ends at a line feed, one carriage return before
it belongs to the line end, and a line end at the very end opens no further line. -/
def lines (text : List Char) : List (List Char) :=
  let all := pieces (· == '\n') text
  let last := all.getLastD []
  let complete := (all.dropLast).map dropReturn
  if last.isEmpty then complete else complete ++ [last]

/-- Drops `mark` from the start when it is there. -/
def dropMark (mark : Char) : List Char → List Char
  | [] => []
  | char :: rest => if char == mark then rest else char :: rest

/-- The rest of a text after `start`, when the text starts so. -/
def after? : (start text : List Char) → Option (List Char)
  | [], text => some text
  | _ :: _, [] => none
  | expected :: start, char :: rest => if expected == char then after? start rest else none

end RequestFlow.Text
