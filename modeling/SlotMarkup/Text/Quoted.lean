import SlotMarkup.Text.Hex
import SlotMarkup.Text.Point
import SlotMarkup.Text.Printable

/-! Quoted texts and quoted bytes. A text stands in apostrophes unless it holds one and no double
quote; what is not printable is written as an escape. -/

namespace SlotMarkup.Text

def numericEscape (n : Nat) : List Char :=
  if n < 0x100 then '\\' :: 'x' :: hexDigits 2 n
  else if n < 0x10000 then '\\' :: 'u' :: hexDigits 4 n
  else '\\' :: 'U' :: hexDigits 8 n

def escaped : Point → List Char
  | .char c =>
    if c == '\\' then ['\\', '\\']
    else if c == '\n' then ['\\', 'n']
    else if c == '\r' then ['\\', 'r']
    else if c == '\t' then ['\\', 't']
    else if isPrintable c then [c]
    else numericEscape c.toNat
  | p => numericEscape p.code

def quoteMark (ps : List Point) : Char :=
  if ps.contains (.char '\'') && !ps.contains (.char '"') then '"' else '\''

def quotedInside (q : Char) (ps : List Point) : List Char :=
  ps.flatMap fun p => if p == .char q then ['\\', q] else escaped p

def quotedPoints (ps : List Point) : List Char :=
  quoteMark ps :: (quotedInside (quoteMark ps) ps ++ [quoteMark ps])

def quoted (s : String) : String := String.ofList (quotedPoints (points s))

def escapedByte (q : Char) (b : UInt8) : List Char :=
  let c := Char.ofNat b.toNat
  if c == q then ['\\', c]
  else if b.toNat < 128 then escaped (.char c)
  else numericEscape b.toNat

def quotedBytes (bytes : List UInt8) : String :=
  let q := quoteMark (bytes.map fun b => .char (Char.ofNat b.toNat))
  String.ofList ('b' :: q :: (bytes.flatMap (escapedByte q) ++ [q]))

end SlotMarkup.Text
