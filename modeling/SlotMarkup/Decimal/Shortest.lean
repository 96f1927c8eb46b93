import SlotMarkup.Decimal.Binary64

/-! The shortest decimal that reads back as a given double precision number, and its text. -/

namespace SlotMarkup.Decimal

structure Scientific where
  digits : Nat
  exponent : Int
deriving DecidableEq, Repr

structure Fraction where
  num : Nat
  den : Nat

def Fraction.le (a b : Fraction) : Bool := a.num * b.den ≤ b.num * a.den

def Fraction.lt (a b : Fraction) : Bool := a.num * b.den < b.num * a.den

def Fraction.ofPower (n base : Nat) (e : Int) : Fraction :=
  if 0 ≤ e then ⟨n * base.pow e.toNat, 1⟩ else ⟨n, base.pow (-e).toNat⟩

def Fraction.magnitude (v : Fraction) : Int :=
  if v.den ≤ v.num then decimalLength (v.num / v.den)
  else
    match (List.range 400).find? fun j => v.den ≤ v.num * Nat.pow 10 (j + 1) with
    | some j => -(j : Int)
    | none => 0

/-- The reals that round to `m * 2 ^ q`: the ends of the interval, which belong to it iff `m` is
even. -/
structure Interval where
  low : Fraction
  high : Fraction
  closed : Bool

def Interval.ofBinary (m : Nat) (q : Int) : Interval where
  low := .ofPower (if m = Nat.pow 2 52 && minExponent < q then 4 * m - 1 else 4 * m - 2) 2 (q - 2)
  high := .ofPower (4 * m + 2) 2 (q - 2)
  closed := m % 2 = 0

def Interval.contains (i : Interval) (x : Fraction) : Bool :=
  if i.closed then i.low.le x && x.le i.high else i.low.lt x && x.lt i.high

/-- The nearest of the two neighbours of `v` among the multiples of `10 ^ e` that lie in the
interval; of two equally near ones, the even multiple. -/
def nearestOnGrid (i : Interval) (v : Fraction) (e : Int) : Option Nat :=
  let unit := Fraction.ofPower 1 10 e
  let down := v.num * unit.den / (v.den * unit.num)
  let middle := Fraction.mk ((2 * down + 1) * unit.num) (2 * unit.den)
  let preferred :=
    if v.lt middle then down else if middle.lt v then down + 1
    else if down % 2 = 0 then down else down + 1
  let other := if preferred = down then down + 1 else down
  if i.contains (.ofPower preferred 10 e) then some preferred
  else if i.contains (.ofPower other 10 e) then some other
  else none

def Scientific.stripZeros : Nat → Scientific → Scientific
  | 0, d => d
  | fuel + 1, d =>
    if d.digits ≠ 0 && d.digits % 10 = 0 then stripZeros fuel ⟨d.digits / 10, d.exponent + 1⟩
    else d

/-- The decimal with the fewest digits, the nearest one of those, that reads back as the positive
number `m * 2 ^ q`. -/
def shortest (m : Nat) (q : Int) : Scientific :=
  let v := Fraction.ofPower m 2 q
  let i := Interval.ofBinary m q
  let k := v.magnitude
  match (List.range 17).findSome? fun (n : Nat) =>
    (nearestOnGrid i v (k - (n + 1))).map fun d => Scientific.mk d (k - (n + 1)) with
  | some d => d.stripZeros 20
  | none => ⟨0, 0⟩

structure NumberStyle where
  positionalFrom : Int
  positionalBelow : Int
  wholePoint : Bool

def exponentText (e : Int) : String :=
  let sign := if e < 0 then "-" else "+"
  let digits := toString e.natAbs
  "e" ++ sign ++ (if digits.length < 2 then "0" ++ digits else digits)

def NumberStyle.decimalText (style : NumberStyle) (d : Scientific) : String :=
  let digits := Nat.toDigits 10 d.digits
  let lead : Int := digits.length + d.exponent - 1
  if style.positionalFrom ≤ lead && lead < style.positionalBelow then
    if 0 ≤ d.exponent then
      String.ofList (digits ++ List.replicate d.exponent.toNat '0') ++
        (if style.wholePoint then ".0" else "")
    else if 0 ≤ lead then
      let whole := digits.length - (-d.exponent).toNat
      String.ofList (digits.take whole ++ '.' :: digits.drop whole)
    else "0." ++ String.ofList (List.replicate (-lead - 1).toNat '0' ++ digits)
  else
    match digits with
    | [] => ""
    | [c] => String.ofList [c] ++ exponentText lead
    | c :: cs => String.ofList (c :: '.' :: cs) ++ exponentText lead

def NumberStyle.text (style : NumberStyle) : Binary64 → String
  | .notNumber => "nan"
  | .infinite negative => if negative then "-inf" else "inf"
  | .finite negative m q =>
    (if negative then "-" else "") ++
      (if m = 0 then (if style.wholePoint then "0.0" else "0")
       else style.decimalText (shortest m q))

def plainStyle : NumberStyle := ⟨-4, 16, true⟩

def bareStyle : NumberStyle := ⟨-4, 16, false⟩

end SlotMarkup.Decimal
