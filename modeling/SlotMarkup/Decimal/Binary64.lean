/-! Double precision numbers as a significand and a power of two, and the reading of a decimal
as the nearest of them. -/

namespace SlotMarkup.Decimal

/-- A double precision number; `finite` stands for `significand * 2 ^ exponent`. -/
inductive Binary64 where
  | finite (negative : Bool) (significand : Nat) (exponent : Int)
  | infinite (negative : Bool)
  | notNumber
deriving DecidableEq, Repr

def roundDiv (a b : Nat) : Nat :=
  let q := a / b
  let r := a % b
  if 2 * r < b then q
  else if 2 * r = b then (if q % 2 = 0 then q else q + 1)
  else q + 1

def decimalLength (n : Nat) : Nat := (Nat.toDigits 10 n).length

def minExponent : Int := -1074

def maxExponent : Int := 971

def scaled (num den : Nat) (q : Int) : Nat × Nat :=
  if 0 ≤ q then (num, den * Nat.pow 2 q.toNat) else (num * Nat.pow 2 (-q).toNat, den)

/-- The power of two for which `num / den` has 53 binary digits before the point, or the least
exponent there is. -/
def binaryExponent (num den : Nat) : Int :=
  let q : Int := (Nat.log2 num : Int) - (Nat.log2 den : Int) - 53
  let s := scaled num den q
  let q := if Nat.pow 2 53 ≤ s.1 / s.2 then q + 1 else q
  if q < minExponent then minExponent else q

def Binary64.ofFraction (negative : Bool) (num den : Nat) : Binary64 :=
  let q := binaryExponent num den
  let s := scaled num den q
  let m := roundDiv s.1 s.2
  let (m, q) := if m = Nat.pow 2 53 then (Nat.pow 2 52, q + 1) else (m, q)
  if maxExponent < q then .infinite negative else .finite negative m q

def Binary64.ofDecimal (negative : Bool) (digits : Nat) (exponent : Int) : Binary64 :=
  let magnitude : Int := decimalLength digits + exponent
  if digits = 0 || magnitude < -330 then .finite negative 0 minExponent
  else if 310 < magnitude then .infinite negative
  else if 0 ≤ exponent then .ofFraction negative (digits * Nat.pow 10 exponent.toNat) 1
  else .ofFraction negative digits (Nat.pow 10 (-exponent).toNat)

end SlotMarkup.Decimal
