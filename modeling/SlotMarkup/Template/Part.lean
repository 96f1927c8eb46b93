import SlotMarkup.Decimal.Integer
import SlotMarkup.Error

/-! Part descriptors: for each slot of a template, what it fills and where. A list of them is
written as `code|element|index` with commas between, an absent index as nothing. -/

namespace SlotMarkup

inductive PartKind where
  | attribute
  | node
  | nodeAfterDynamic
deriving DecidableEq, Repr

namespace PartKind

def code : PartKind → Int
  | .attribute => 0
  | .node => 1
  | .nodeAfterDynamic => 2

def ofCode? (n : Int) : Option PartKind :=
  if n = 0 then some .attribute
  else if n = 1 then some .node
  else if n = 2 then some .nodeAfterDynamic
  else none

def ofCode (n : Int) : Except Error PartKind :=
  match ofCode? n with
  | some k => .ok k
  | none => .error (.value (.partKind n))

end PartKind

/-- The descriptor of a slot. For an attribute, `element` is the element it belongs to and `index`
the number of literal attributes before it. For a node, `element` is the parent and `index` the
child right before it in the static markup. No index and `-1` are written alike. -/
structure Part where
  kind : PartKind
  element : Option Int
  index : Option Int
deriving DecidableEq, Repr

namespace Part

def isAttribute (p : Part) : Bool := p.kind = .attribute

def slimIndex : Option Int → List Char
  | none => []
  | some n => if n = -1 then [] else (toString n).toList

def encode (p : Part) : List Char :=
  List.intercalate ['|'] [(toString p.kind.code).toList, slimIndex p.element, slimIndex p.index]

def belowMinusOne : Option Int → Option Int
  | some n => if n < -1 then some n else none
  | none => none

def fault? (count : Option Int) (i : Nat) (p : Part) : Option PartFault :=
  match belowMinusOne p.element, belowMinusOne p.index with
  | some n, _ => some (.elementIndex i n)
  | none, some n => some (.secondaryIndex i n)
  | none, none =>
    match count, p.element with
    | some c, some n =>
      if c ≤ n then some (.noSuchElement i n c)
      else if p.isAttribute && n = -1 then some (.noElement i)
      else none
    | none, some n => if p.isAttribute && n = -1 then some (.noElement i) else none
    | _, none => if p.isAttribute then some (.noElement i) else none

end Part

namespace Parts

def encodeFrom (count : Option Int) (i : Nat) : List Part → Except PartFault (List (List Char))
  | [] => .ok []
  | p :: ps =>
    match p.fault? count i with
    | some fault => .error fault
    | none => do
      let rest ← encodeFrom count (i + 1) ps
      .ok (p.encode :: rest)

def encode (parts : List Part) (count : Option Int) : Except Error String :=
  match encodeFrom count 0 parts with
  | .error fault => .error (.part fault)
  | .ok chunks => .ok (String.ofList (List.intercalate [','] chunks))

def decodeIndex (codes : String) (cs : List Char) : Except Error (Option Int) :=
  if cs.isEmpty then .ok none
  else if !(cs.all Text.isDigit) then .error (.part (.index (String.ofList cs) codes))
  else
    match Decimal.readInteger cs with
    | .ok n => .ok (some n)
    | .error .invalid => .error (.value (.numeral (String.ofList cs)))
    | .error (.tooLong digits) => .error (.value (.numeralTooLong digits))

def decodeKind? (cs : List Char) : Option PartKind :=
  match Decimal.readInteger cs with
  | .ok n => PartKind.ofCode? n
  | .error _ => none

def decodePart (codes : String) (chunk : List Char) : Except Error Part :=
  match List.splitOn '|' chunk with
  | [code, element, index] =>
    match decodeKind? code with
    | none => .error (.part (.code (String.ofList code) codes))
    | some kind => do
      let e ← decodeIndex codes element
      let i ← decodeIndex codes index
      .ok ⟨kind, e, i⟩
  | _ => .error (.part (.malformed (String.ofList chunk) codes))

def decodeChunks (codes : String) : List (List Char) → Except Error (List Part)
  | [] => .ok []
  | c :: cs => do
    let p ← decodePart codes c
    let ps ← decodeChunks codes cs
    .ok (p :: ps)

def decode (codes : String) : Except Error (List Part) :=
  if codes.isEmpty then .ok [] else decodeChunks codes (List.splitOn ',' codes.toList)

end Parts

end SlotMarkup
