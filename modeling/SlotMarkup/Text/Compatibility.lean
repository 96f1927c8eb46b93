import SlotMarkup.Text.CompatibilityData
import SlotMarkup.Text.Hex

/-! Compatibility forms: the one spelling under which names that look alike are the same name.
Characters are decomposed, marks put in order, and what can be composed is composed. -/

namespace SlotMarkup.Text

structure Mapping where
  first : Nat
  last : Nat
  image : List Nat
deriving Repr

def hexList (cs : List Char) : List Nat := (List.splitOn '.' cs).map fun d => (hexNumber? d).getD 0

def Mapping.ofEntry (entry : List Char) : Mapping :=
  match List.splitOn ':' entry with
  | [key, image] =>
    match List.splitOn '-' key with
    | [first, last] => ⟨(hexNumber? first).getD 0, (hexNumber? last).getD 0, hexList image⟩
    | _ => ⟨(hexNumber? key).getD 0, (hexNumber? key).getD 0, hexList image⟩
  | _ => ⟨0, 0, []⟩

def entries (lines : List String) : List (List Char) :=
  lines.flatMap fun line => List.splitOn ' ' line.toList

def decompositions : List Mapping := (entries decompositionData).map Mapping.ofEntry

def combiningClasses : List Mapping := (entries combiningData).map Mapping.ofEntry

def compositions : List (List Nat × Nat) :=
  (entries compositionData).map fun entry =>
    match List.splitOn ':' entry with
    | [pair, image] => (hexList pair, (hexNumber? image).getD 0)
    | _ => ([], 0)

def mapping? (table : List Mapping) (n : Nat) : Option Mapping :=
  table.find? fun m => m.first ≤ n && n ≤ m.last

def decompose (n : Nat) : List Nat :=
  match mapping? decompositions n with
  | some m => m.image.map (· + (n - m.first))
  | none => [n]

def combiningClass (n : Nat) : Nat :=
  match mapping? combiningClasses n with
  | some m => m.image.headD 0
  | none => 0

/-- Adds a code point to a reversed list, marks in the order of their classes. -/
def placeMark (n : Nat) : List Nat → List Nat
  | [] => [n]
  | p :: ps =>
    if combiningClass n ≠ 0 && combiningClass n < combiningClass p then p :: placeMark n ps
    else n :: p :: ps

def composeSyllable (a b : Nat) : Option Nat :=
  if 0x1100 ≤ a && a < 0x1113 && 0x1161 ≤ b && b < 0x1176 then
    some (0xAC00 + ((a - 0x1100) * 21 + (b - 0x1161)) * 28)
  else if 0xAC00 ≤ a && a < 0xD7A4 && (a - 0xAC00) % 28 = 0 && 0x11A7 < b && b < 0x11C3 then
    some (a + (b - 0x11A7))
  else none

def composePair (a b : Nat) : Option Nat :=
  (composeSyllable a b).orElse fun _ => compositions.lookup [a, b]

def composeFrom (starter : Nat) (marks : List Nat) : List Nat → List Nat
  | [] => starter :: marks.reverse
  | n :: ns =>
    let free := match marks with
      | [] => true
      | m :: _ => combiningClass m < combiningClass n
    match if free then composePair starter n else none with
    | some composed => composeFrom composed marks ns
    | none =>
      if combiningClass n = 0 then starter :: marks.reverse ++ composeFrom n [] ns
      else composeFrom starter (n :: marks) ns

def decomposed (cs : List Char) : List Nat :=
  ((cs.flatMap fun c => decompose c.toNat).foldl (fun done n => placeMark n done) []).reverse

def compatible (cs : List Char) : List Char :=
  if cs.all fun c => c.toNat < 128 then cs
  else
    match decomposed cs with
    | [] => []
    | n :: ns => (composeFrom n [] ns).map Char.ofNat

end SlotMarkup.Text
