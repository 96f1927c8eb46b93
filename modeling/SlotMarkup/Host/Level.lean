import SlotMarkup.Host.Expr

/-! Levels of binding, from the loosest to the tightest. An expression stands in parentheses where
its place binds tighter than it does. -/

namespace SlotMarkup.Host

inductive Level where
  | named
  | tuple
  | yield
  | test
  | or
  | and
  | not
  | compare
  | bitOr
  | bitXor
  | bitAnd
  | shift
  | sum
  | term
  | factor
  | power
  | await
  | atom
deriving DecidableEq, Repr

namespace Level

def rank : Level → Nat
  | named => 0
  | tuple => 1
  | yield => 2
  | test => 3
  | or => 4
  | and => 5
  | not => 6
  | compare => 7
  | bitOr => 8
  | bitXor => 9
  | bitAnd => 10
  | shift => 11
  | sum => 12
  | term => 13
  | factor => 14
  | power => 15
  | await => 16
  | atom => 17

def next : Level → Level
  | named => tuple
  | tuple => yield
  | yield => test
  | test => or
  | or => and
  | and => not
  | not => compare
  | compare => bitOr
  | bitOr => bitXor
  | bitXor => bitAnd
  | bitAnd => shift
  | shift => sum
  | sum => term
  | term => factor
  | factor => power
  | power => await
  | await => atom
  | atom => atom

def enclose (place own : Level) (s : String) : String :=
  if own.rank < place.rank then "(" ++ s ++ ")" else s

end Level

def UnaryOp.level : UnaryOp → Level
  | not => .not
  | _ => .factor

def UnaryOp.text : UnaryOp → String
  | plus => "+"
  | minus => "-"
  | invert => "~"
  | not => "not "

def BinaryOp.level : BinaryOp → Level
  | add | sub => .sum
  | mul | matMul | div | mod | floorDiv => .term
  | pow => .power
  | shiftLeft | shiftRight => .shift
  | bitOr => .bitOr
  | bitXor => .bitXor
  | bitAnd => .bitAnd

def BinaryOp.text : BinaryOp → String
  | add => "+"
  | sub => "-"
  | mul => "*"
  | matMul => "@"
  | div => "/"
  | mod => "%"
  | floorDiv => "//"
  | pow => "**"
  | shiftLeft => "<<"
  | shiftRight => ">>"
  | bitOr => "|"
  | bitXor => "^"
  | bitAnd => "&"

def BinaryOp.operandLevels (op : BinaryOp) : Level × Level :=
  match op with
  | pow => (op.level.next, op.level)
  | _ => (op.level, op.level.next)

def BoolOp.level : BoolOp → Level
  | and => .and
  | or => .or

def BoolOp.text : BoolOp → String
  | and => "and"
  | or => "or"

def CompareOp.text : CompareOp → String
  | eq => "=="
  | ne => "!="
  | lt => "<"
  | le => "<="
  | gt => ">"
  | ge => ">="
  | same => "is"
  | notSame => "is not"
  | member => "in"
  | notMember => "not in"

end SlotMarkup.Host
