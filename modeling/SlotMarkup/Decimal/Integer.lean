import SlotMarkup.Text.Blank
import SlotMarkup.Text.Digit

/-! Whole numbers in base ten, in the digits of any script: blanks around them, one sign, and
single underscores between digits. -/

namespace SlotMarkup.Decimal

open SlotMarkup.Text

inductive IntegerFault where
  | invalid
  | tooLong (digits : Nat)
deriving DecidableEq, Repr

def maxIntegerLength : Nat := 4300

def isMargin (c : Char) : Bool := isAsciiBlank c || isWideBlank c

/-- The values of a run of digits with single underscores between them, and the text after it.
`joined` says that a digit stands before. -/
def digitRun (joined : Bool) : List Char → Option (List Nat × List Char)
  | [] => some ([], [])
  | c :: cs =>
    match decimalValue? c with
    | some d => (digitRun true cs).map fun (ds, rest) => (d :: ds, rest)
    | none =>
      if c == '_' && joined then
        if cs.head?.any fun d => (decimalValue? d).isSome then digitRun false cs else none
      else some ([], c :: cs)

def digitsNumber (ds : List Nat) : Nat := ds.foldl (fun n d => 10 * n + d) 0

def readMagnitude (cs : List Char) : Except IntegerFault Nat :=
  match digitRun false cs with
  | none => .error .invalid
  | some (ds, rest) =>
    if maxIntegerLength < ds.length then .error (.tooLong ds.length)
    else if ds.isEmpty || !(rest.all isMargin) then .error .invalid
    else .ok (digitsNumber ds)

def readInteger (cs : List Char) : Except IntegerFault Int :=
  match cs.dropWhile isMargin with
  | '-' :: rest => (readMagnitude rest).map fun n => -(n : Int)
  | '+' :: rest => (readMagnitude rest).map fun n => (n : Int)
  | rest => (readMagnitude rest).map fun n => (n : Int)

end SlotMarkup.Decimal
