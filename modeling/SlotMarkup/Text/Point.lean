/-! The points that texts of the host language are made of. A literal can spell half of a surrogate
pair, which is no character. -/

namespace SlotMarkup.Text

def isHighSurrogate (n : Nat) : Bool := 0xD800 ≤ n && n < 0xDC00

def isLowSurrogate (n : Nat) : Bool := 0xDC00 ≤ n && n < 0xE000

inductive Point where
  | char (c : Char)
  /-- The code is counted from the first surrogate on. -/
  | surrogate (k : Fin 0x800)
deriving DecidableEq, Repr

namespace Point

def ofCode (n : Nat) : Point :=
  if h : 0xD800 ≤ n ∧ n < 0xE000 then .surrogate ⟨n - 0xD800, by omega⟩ else .char (Char.ofNat n)

def code : Point → Nat
  | .char c => c.toNat
  | .surrogate k => 0xD800 + k

end Point

def points (s : String) : List Point := s.toList.map .char

end SlotMarkup.Text
