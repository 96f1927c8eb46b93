import SlotMarkup.Decimal.Shortest
import SlotMarkup.Host.Level
import SlotMarkup.Host.Written

/-! The source text of expressions, with parentheses only where a place binds tighter than the
expression that stands in it. -/

namespace SlotMarkup.Host

open SlotMarkup.Decimal
open SlotMarkup.Text (Point)

/-- Why an expression has no source text: a value inside a formatted text would need a backslash,
or a whole number has too many digits. -/
inductive PrintError where
  | backslashInFormat
  | integerTooLong
deriving DecidableEq, Repr

abbrev Printed := Except PrintError String

def maxIntegerDigits : Nat := 4300

def numberText (style : NumberStyle) : Binary64 → String
  | .infinite negative => if negative then "-1e309" else "1e309"
  | .notNumber => "(1e309-1e309)"
  | x => style.text x

def Constant.print (plain : Bool) : Constant → Printed
  | .none => .ok "None"
  | .ellipsis => .ok "..."
  | .bool b => .ok (if b then "True" else "False")
  | .int n =>
    if maxIntegerDigits < decimalLength n then .error .integerTooLong else .ok (toString n)
  | .float x => .ok (numberText plainStyle x)
  | .imaginary x => .ok (numberText bareStyle x ++ "j")
  | .text ps marked =>
    .ok ((if marked then "u" else "") ++
      String.ofList (if plain then Written.text Written.allQuotes ps else Text.quotedPoints ps))
  | .bytes bs => .ok (Text.quotedBytes bs)

def tupleItems : List String → String
  | [s] => s ++ ","
  | items => ", ".intercalate items

def Expr.isWholeNumber : Expr → Bool
  | .constant (.int _) => true
  | .constant (.bool _) => true
  | _ => false

def Expr.indexLevel : Expr → Level
  | .tuple _ => .tuple
  | _ => .test

def Gathering.enclose : Gathering → String → String
  | .list, s => "[" ++ s ++ "]"
  | .set, s => "\x7b" ++ s ++ "\x7d"
  | .generator, s => "(" ++ s ++ ")"

/-- The parts of a parameter list in order: those by position only are closed by a slash, and a
bare star opens those by name. -/
def parameterTexts (positional regular : List String) (rest : Option String)
    (byName : List String) (names : Option String) : List String :=
  positional ++ (if positional.isEmpty then [] else ["/"]) ++ regular ++
    (match rest with
      | some r => ["*" ++ r]
      | none => if byName.isEmpty then [] else ["*"]) ++
    byName ++ (names.map ("**" ++ ·)).toList

def valuePiece (source : String) (conversion : Option Char) (layout : Option (List Point)) :
    Except PrintError (List Point) :=
  if source.toList.contains '\\' then .error .backslashInFormat
  else .ok (Text.points ("\x7b" ++ (if source.toList.head? == some '\x7b' then " " else "") ++ source ++
    (match conversion with
      | some c => "!" ++ String.ofList [c]
      | none => "")) ++
    (match layout with
      | some ps => .char ':' :: ps
      | none => []) ++ [.char '\x7d'])

mutual
/-- The source text of an expression in a place of the given level; with `plain` its constants
avoid backslashes, as they must inside a formatted text. -/
def Expr.printAt (plain : Bool) (place : Level) : Expr → Printed
  | .name id => .ok id
  | .constant c => c.print plain
  | .attribute value attr => do
    let v ← value.printAt plain .atom
    .ok (v ++ (if value.isWholeNumber then " ." else ".") ++ attr)
  | .subscript value index => do
    let v ← value.printAt plain .atom
    let i ← index.printAt plain index.indexLevel
    .ok (v ++ "[" ++ i ++ "]")
  | .call func args keywords => do
    let f ← func.printAt plain .atom
    let a ← printAll plain .test args
    let k ← printKeywords plain keywords
    .ok (f ++ "(" ++ ", ".intercalate (a ++ k) ++ ")")
  | .starred value => do
    let v ← value.printAt plain .bitOr
    .ok ("*" ++ v)
  | .unary op operand => do
    let v ← operand.printAt plain op.level
    .ok (place.enclose op.level (op.text ++ v))
  | .binary op left right => do
    let l ← left.printAt plain op.operandLevels.1
    let r ← right.printAt plain op.operandLevels.2
    .ok (place.enclose op.level (l ++ " " ++ op.text ++ " " ++ r))
  | .boolean op values => do
    let vs ← printRising plain op.level.next values
    .ok (place.enclose op.level ((" " ++ op.text ++ " ").intercalate vs))
  | .compare left rest => do
    let l ← left.printAt plain .bitOr
    let r ← printComparisons plain rest
    .ok (place.enclose .compare (l ++ r))
  | .conditional body test orElse => do
    let b ← body.printAt plain .or
    let t ← test.printAt plain .or
    let e ← orElse.printAt plain .test
    .ok (place.enclose .test (b ++ " if " ++ t ++ " else " ++ e))
  | .function (.mk positional regular rest byName names) body => do
    let p ← printParameters plain positional
    let r ← printParameters plain regular
    let n ← printParameters plain byName
    let b ← body.printAt plain .test
    let ps := parameterTexts p r rest n names
    let head := if ps.isEmpty then "lambda" else "lambda " ++ ", ".intercalate ps
    .ok (place.enclose .test (head ++ ": " ++ b))
  | .tuple items => do
    let vs ← printAll plain .test items
    if items.isEmpty then .ok "()" else .ok (place.enclose .tuple (tupleItems vs))
  | .list items => do
    let vs ← printAll plain .test items
    .ok ("[" ++ ", ".intercalate vs ++ "]")
  | .set items => do
    let vs ← printAll plain .test items
    .ok (if items.isEmpty then "\x7b*()\x7d" else "\x7b" ++ ", ".intercalate vs ++ "\x7d")
  | .dict entries => do
    let es ← printEntries plain entries
    .ok ("\x7b" ++ ", ".intercalate es ++ "\x7d")
  | .comprehension kind item clauses => do
    let i ← item.printAt plain .test
    let cs ← printClauses plain clauses
    .ok (kind.enclose (i ++ cs))
  | .dictComprehension key value clauses => do
    let k ← key.printAt plain .test
    let v ← value.printAt plain .test
    let cs ← printClauses plain clauses
    .ok ("\x7b" ++ k ++ ": " ++ v ++ cs ++ "\x7d")
  | .named target value => do
    let t ← target.printAt plain .atom
    let v ← value.printAt plain .atom
    .ok (place.enclose .named (t ++ " := " ++ v))
  | .await value => do
    let v ← value.printAt plain .atom
    .ok (place.enclose .await ("await " ++ v))
  | .yield none => .ok (place.enclose .yield "yield")
  | .yield (some value) => do
    let v ← value.printAt plain .atom
    .ok (place.enclose .yield ("yield " ++ v))
  | .yieldFrom value => do
    let v ← value.printAt plain .atom
    .ok (place.enclose .yield ("yield from " ++ v))
  | .slice lower upper step => do
    let l ← printOptional plain "" lower
    let u ← printOptional plain "" upper
    let s ← printOptional plain ":" step
    .ok (l ++ ":" ++ u ++ s)
  | .format pieces => do
    let ps ← printPieces pieces
    .ok ("f" ++ String.ofList
      (if plain then Written.text Written.allQuotes (ps.flatMap (·.1)) else Written.format ps))

def printAll (plain : Bool) (place : Level) : List Expr → Except PrintError (List String)
  | [] => .ok []
  | e :: es => do
    let s ← e.printAt plain place
    let ss ← printAll plain place es
    .ok (s :: ss)

def printRising (plain : Bool) (place : Level) : List Expr → Except PrintError (List String)
  | [] => .ok []
  | e :: es => do
    let s ← e.printAt plain place
    let ss ← printRising plain place.next es
    .ok (s :: ss)

def printOptional (plain : Bool) (lead : String) : Option Expr → Printed
  | none => .ok ""
  | some e => do
    let s ← e.printAt plain .test
    .ok (lead ++ s)

def printKeywords (plain : Bool) : List Keyword → Except PrintError (List String)
  | [] => .ok []
  | .mk name value :: ks => do
    let v ← value.printAt plain .test
    let rest ← printKeywords plain ks
    .ok (((name.map (· ++ "=")).getD "**" ++ v) :: rest)

def printComparisons (plain : Bool) : List Comparison → Printed
  | [] => .ok ""
  | .mk op right :: cs => do
    let r ← right.printAt plain .bitOr
    let rest ← printComparisons plain cs
    .ok (" " ++ op.text ++ " " ++ r ++ rest)

def printEntries (plain : Bool) : List Entry → Except PrintError (List String)
  | [] => .ok []
  | .mk (some key) value :: es => do
    let k ← key.printAt plain .test
    let v ← value.printAt plain .test
    let rest ← printEntries plain es
    .ok ((k ++ ": " ++ v) :: rest)
  | .mk none value :: es => do
    let v ← value.printAt plain .bitOr
    let rest ← printEntries plain es
    .ok (("**" ++ v) :: rest)

def printClauses (plain : Bool) : List Clause → Printed
  | [] => .ok ""
  | .mk async target source conditions :: cs => do
    let t ← target.printAt plain .tuple
    let s ← source.printAt plain .or
    let ifs ← printAll plain .or conditions
    let rest ← printClauses plain cs
    .ok ((if async then " async for " else " for ") ++ t ++ " in " ++ s ++
      String.join (ifs.map (" if " ++ ·)) ++ rest)

def printParameters (plain : Bool) : List Parameter → Except PrintError (List String)
  | [] => .ok []
  | .mk name default :: ps => do
    let d ← printOptional plain "=" default
    let rest ← printParameters plain ps
    .ok ((name ++ d) :: rest)

def printPieces : List Piece → Except PrintError (List (List Point × Bool))
  | [] => .ok []
  | .text chunk :: ps => do
    let rest ← printPieces ps
    .ok ((Written.doubleBraces chunk, true) :: rest)
  | .value e conversion layout :: ps => do
    let v ← e.printAt true .or
    let l ← printLayout layout
    let piece ← valuePiece v conversion l
    let rest ← printPieces ps
    .ok ((piece, false) :: rest)

def printLayout : Option (List Piece) → Except PrintError (Option (List Point))
  | none => .ok none
  | some pieces => do
    let ps ← printPieces pieces
    .ok (some (ps.flatMap (·.1)))
end

def Expr.print (e : Expr) : Printed := e.printAt false .test

end SlotMarkup.Host
