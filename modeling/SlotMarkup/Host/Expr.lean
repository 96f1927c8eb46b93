import SlotMarkup.Decimal.Binary64
import SlotMarkup.Text.Point

/-! Expressions of the host language, the language that compiled templates are written in and that
slots are filled from. -/

namespace SlotMarkup.Host

open SlotMarkup.Decimal
open SlotMarkup.Text (Point)

inductive Constant where
  | none
  | ellipsis
  | bool (b : Bool)
  | int (n : Nat)
  | float (x : Binary64)
  | imaginary (x : Binary64)
  /-- A text; `marked` records that the literal carries the letter `u`. -/
  | text (ps : List Point) (marked : Bool)
  | bytes (bs : List UInt8)
deriving DecidableEq, Repr

inductive UnaryOp where
  | plus
  | minus
  | invert
  | not
deriving DecidableEq, Repr

inductive BinaryOp where
  | add
  | sub
  | mul
  | matMul
  | div
  | mod
  | floorDiv
  | pow
  | shiftLeft
  | shiftRight
  | bitOr
  | bitXor
  | bitAnd
deriving DecidableEq, Repr

inductive BoolOp where
  | and
  | or
deriving DecidableEq, Repr

inductive CompareOp where
  | eq
  | ne
  | lt
  | le
  | gt
  | ge
  | same
  | notSame
  | member
  | notMember
deriving DecidableEq, Repr

inductive Gathering where
  | list
  | set
  | generator
deriving DecidableEq, Repr

mutual
inductive Expr where
  | name (id : String)
  | constant (value : Constant)
  | attribute (value : Expr) (attr : String)
  | subscript (value index : Expr)
  | call (func : Expr) (args : List Expr) (keywords : List Keyword)
  | starred (value : Expr)
  | unary (op : UnaryOp) (operand : Expr)
  | binary (op : BinaryOp) (left right : Expr)
  | boolean (op : BoolOp) (values : List Expr)
  | compare (left : Expr) (rest : List Comparison)
  | conditional (body test orElse : Expr)
  | function (params : Parameters) (body : Expr)
  | tuple (items : List Expr)
  | list (items : List Expr)
  | set (items : List Expr)
  | dict (entries : List Entry)
  | comprehension (kind : Gathering) (item : Expr) (clauses : List Clause)
  | dictComprehension (key value : Expr) (clauses : List Clause)
  | named (target value : Expr)
  | await (value : Expr)
  | yield (value : Option Expr)
  | yieldFrom (value : Expr)
  | slice (lower upper step : Option Expr)
  | format (pieces : List Piece)

/-- A keyword argument; without a name it spreads a mapping. -/
inductive Keyword where
  | mk (name : Option String) (value : Expr)

inductive Comparison where
  | mk (op : CompareOp) (right : Expr)

inductive Entry where
  | mk (key : Option Expr) (value : Expr)

inductive Clause where
  | mk (async : Bool) (target source : Expr) (conditions : List Expr)

inductive Parameter where
  | mk (name : String) (default : Option Expr)

/-- The parameters of a function: by position only, by position or name, the rest of the
positions, by name only, and the rest of the names. -/
inductive Parameters where
  | mk (positional regular : List Parameter) (rest : Option String)
      (byName : List Parameter) (names : Option String)

inductive Piece where
  | text (ps : List Point)
  | value (e : Expr) (conversion : Option Char) (layout : Option (List Piece))
end

instance : Inhabited Expr := ⟨.constant .none⟩

def Expr.ofText (s : String) : Expr := .constant (.text (Text.points s) false)

end SlotMarkup.Host
