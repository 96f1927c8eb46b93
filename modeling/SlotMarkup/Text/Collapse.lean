import SlotMarkup.Text.Blank

/-! The text of markup: lines are joined by single spaces, blanks next to a line break vanish, and
so do lines without text. -/

namespace SlotMarkup.Text

def lines : List Char → List (List Char)
  | [] => [[]]
  | '\r' :: '\n' :: cs => [] :: lines cs
  | c :: cs =>
    if c == '\n' || c == '\r' then [] :: lines cs
    else
      match lines cs with
      | [] => [[c]]
      | l :: ls => (c :: l) :: ls

def isInk (c : Char) : Bool := c != ' ' && c != '\t'

def lastInked (i best : Nat) : List (List Char) → Nat
  | [] => best
  | l :: ls => lastInked (i + 1) (if l.any isInk then i else best) ls

/-- A line with tabs as spaces, without leading spaces unless it is the first, and without trailing
ones unless it is the last. -/
def trimLine (first last : Bool) (line : List Char) : List Char :=
  let spaced := line.map fun c => if c == '\t' then ' ' else c
  let left := if first then spaced else spaced.dropWhile (· == ' ')
  if last then left else (left.reverse.dropWhile (· == ' ')).reverse

/-- Joins the lines from place `i` on. Every line that is left but the one at `inked` is followed by
a space. -/
def joinLines (inked i : Nat) : List (List Char) → List Char
  | [] => []
  | l :: ls =>
    let trimmed := trimLine (i == 0) ls.isEmpty l
    (if trimmed.isEmpty then [] else if i == inked then trimmed else trimmed ++ [' ']) ++
      joinLines inked (i + 1) ls

def collapseChars (cs : List Char) : List Char :=
  let ls := lines cs
  joinLines (lastInked 0 0 ls) 0 ls

def collapse (s : String) : String := String.ofList (collapseChars s.toList)

end SlotMarkup.Text
