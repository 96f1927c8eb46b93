import SlotMarkup.Document.Reader
import SlotMarkup.Host.Token

/-! Number literals. Digits may be set apart by single underscores. -/

namespace SlotMarkup.Host.Numeral

open SlotMarkup.Decimal
open SlotMarkup.Document.Reader (digitsValue maxDigits)
open SlotMarkup.Text (hexValue?)

/-- The characters that a word is made of; which of those beyond ASCII may stand there is decided
on the whole word. -/
def isWordChar (c : Char) : Bool := c.isAlphanum || c == '_' || 128 ≤ c.toNat

def run (isDigit : Char → Bool) : List Char → Option (List Char × List Char)
  | [] => some ([], [])
  | c :: cs =>
    if isDigit c then (run isDigit cs).map fun (ds, rest) => (c :: ds, rest)
    else if c == '_' then
      if cs.head?.any isDigit then run isDigit cs else none
    else some ([], c :: cs)

def followers : List (List Char) :=
  ["and", "else", "for", "if", "in", "is", "or", "not"].map (·.toList)

def ends (cs : List Char) : Bool :=
  match cs with
  | [] => true
  | c :: _ => !isWordChar c || followers.any (·.isPrefixOf cs)

def ended (value : Constant) (rest : List Char) : Option (Constant × List Char) :=
  if ends rest then some (value, rest) else none

def based (isDigit : Char → Bool) (base : Nat) (cs : List Char) :
    Option (Constant × List Char) := do
  let (ds, rest) ← run isDigit cs
  if ds.isEmpty then none
  else ended (.int (ds.foldl (fun n c => base * n + (hexValue? c).getD 0) 0)) rest

def decimals (cs : List Char) : Option (Option (List Char) × List Char) :=
  match cs with
  | '.' :: rest =>
    if rest.head?.any Char.isDigit then
      (run Char.isDigit rest).map fun (ds, rest) => (some ds, rest)
    else some (some [], rest)
  | _ => some (none, cs)

def exponent (cs : List Char) : Option (Option Int × List Char) :=
  match cs with
  | e :: rest =>
    if e == 'e' || e == 'E' then
      match rest with
      | s :: digits =>
        if s == '+' || s == '-' then
          if digits.head?.any Char.isDigit then
            (run Char.isDigit digits).map fun (ds, rest) =>
              let n : Int := digitsValue ds
              (some (if s == '-' then -n else n), rest)
          else none
        else if s.isDigit then
          (run Char.isDigit rest).map fun (ds, rest) => (some (digitsValue ds : Int), rest)
        else if ends cs then some (none, cs) else none
      | [] => none
    else some (none, cs)
  | [] => some (none, cs)

/-- A number in base ten. Without point and exponent it is whole: then only zeros may follow a
leading zero, and the number of digits is bounded. Other digits after a leading zero are read as a
number with a point, but only if the letter of an exponent comes next. -/
def decimal (cs : List Char) : Option (Constant × List Char) := do
  let (whole, rest) ← run Char.isDigit cs
  let (fraction, rest) ← decimals rest
  let (power, rest) ← exponent rest
  let shift : Int := power.getD 0 - (fraction.getD []).length
  let value := Binary64.ofDecimal false (digitsValue (whole ++ fraction.getD [])) shift
  match rest with
  | 'j' :: after => ended (.imaginary value) after
  | 'J' :: after => ended (.imaginary value) after
  | _ =>
    if fraction.isSome || power.isSome then ended (.float value) rest
    else
      let nonzero := whole.any (· != '0')
      if nonzero && whole.head? == some '0' then
        if rest.head? == some 'e' then ended (.float value) rest else none
      else if nonzero && maxDigits < whole.length then none
      else ended (.int (digitsValue whole)) rest

def literal (cs : List Char) : Option (Constant × List Char) :=
  match cs with
  | '0' :: m :: rest =>
    if m == 'x' || m == 'X' then based (fun c => (hexValue? c).isSome) 16 rest
    else if m == 'o' || m == 'O' then based (fun c => '0' ≤ c && c ≤ '7') 8 rest
    else if m == 'b' || m == 'B' then based (fun c => c == '0' || c == '1') 2 rest
    else decimal cs
  | _ => decimal cs

end SlotMarkup.Host.Numeral
