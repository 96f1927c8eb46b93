/-! Sets of characters given as lists of code point ranges, both ends included. -/

namespace SlotMarkup.Text

abbrev Ranges := List (Nat × Nat)

def Ranges.contains (table : Ranges) (n : Nat) : Bool :=
  table.any fun r => r.1 ≤ n && n ≤ r.2

end SlotMarkup.Text
