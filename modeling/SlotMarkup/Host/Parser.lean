import SlotMarkup.Host.Lexer
import SlotMarkup.Host.Literal

/-! From tokens to expressions, by recursive descent. A function takes the tokens that are left and
gives what it read with the tokens after it; `fuel` bounds the depth of the descent. -/

namespace SlotMarkup.Host.Parser

open SlotMarkup.Host

abbrev Tokens := List Token

abbrev Reader (α : Type) := Tokens → Option (α × Tokens)

def expect (s : Sign) : Tokens → Option Tokens
  | .sign t :: ts => if t = s then some ts else none
  | _ => none

def moreItems {α : Type} (item : Reader α) : Nat → Tokens → List α × Bool × Tokens
  | 0, ts => ([], false, ts)
  | fuel + 1, ts =>
    match ts with
    | .sign .comma :: rest =>
      match item rest with
      | some (x, rest) =>
        let (xs, trailing, rest) := moreItems item fuel rest
        (x :: xs, trailing, rest)
      | none => ([], true, rest)
    | _ => ([], false, ts)

def commaList {α : Type} (item : Reader α) (ts : Tokens) :
    Option (List α × Bool × Tokens) := do
  let (x, rest) ← item ts
  let (xs, trailing, rest) := moreItems item rest.length rest
  some (x :: xs, trailing, rest)

def tupleOf : List Expr → Bool → Expr
  | [e], false => e
  | es, _ => .tuple es

mutual
def isTarget : Expr → Bool
  | .name _ => true
  | .attribute _ _ => true
  | .subscript _ _ => true
  | .starred e => isTarget e
  | .tuple es => areTargets es
  | .list es => areTargets es
  | _ => false

def areTargets : List Expr → Bool
  | [] => true
  | e :: es => isTarget e && areTargets es
end

def binaryOp? (level : Nat) : Sign → Option BinaryOp
  | .pipe => if level = 0 then some .bitOr else none
  | .caret => if level = 1 then some .bitXor else none
  | .ampersand => if level = 2 then some .bitAnd else none
  | .shiftLeft => if level = 3 then some .shiftLeft else none
  | .shiftRight => if level = 3 then some .shiftRight else none
  | .plus => if level = 4 then some .add else none
  | .minus => if level = 4 then some .sub else none
  | .star => if level = 5 then some .mul else none
  | .atSign => if level = 5 then some .matMul else none
  | .slash => if level = 5 then some .div else none
  | .percent => if level = 5 then some .mod else none
  | .doubleSlash => if level = 5 then some .floorDiv else none
  | _ => none

def binaryLevels : Nat := 6

def compareOp? : Tokens → Option (CompareOp × Tokens)
  | .sign .equal :: ts => some (.eq, ts)
  | .sign .notEqual :: ts => some (.ne, ts)
  | .sign .lessEqual :: ts => some (.le, ts)
  | .sign .less :: ts => some (.lt, ts)
  | .sign .greaterEqual :: ts => some (.ge, ts)
  | .sign .greater :: ts => some (.gt, ts)
  | .word .notWord :: .word .inWord :: ts => some (.notMember, ts)
  | .word .inWord :: ts => some (.member, ts)
  | .word .isWord :: .word .notWord :: ts => some (.notSame, ts)
  | .word .isWord :: ts => some (.same, ts)
  | _ => none

def unaryOp? : Sign → Option UnaryOp
  | .plus => some .plus
  | .minus => some .minus
  | .tilde => some .invert
  | _ => none

def startsClause : Tokens → Bool
  | .word .forWord :: _ => true
  | .word .asyncWord :: .word .forWord :: _ => true
  | _ => false

inductive Argument where
  | plain (e : Expr)
  | spread (e : Expr)
  | keyword (name : String) (e : Expr)
  | mapping (e : Expr)

/-- How far the arguments of a call have come: anything may follow, no plain argument, or only
named arguments and mappings. -/
inductive Phase where
  | free
  | named
  | closing
deriving DecidableEq

def sortArguments : Phase → List Argument → Option (List Expr × List Keyword)
  | _, [] => some ([], [])
  | phase, .plain e :: as => do
    if phase = .free then
      let (es, ks) ← sortArguments .free as
      some (e :: es, ks)
    else none
  | phase, .spread e :: as => do
    if phase = .closing then none
    else
      let (es, ks) ← sortArguments phase as
      some (.starred e :: es, ks)
  | phase, .keyword n e :: as => do
    let (es, ks) ← sortArguments (if phase = .free then .named else phase) as
    some (es, .mk (some n) e :: ks)
  | _, .mapping e :: as => do
    let (es, ks) ← sortArguments .closing as
    some (es, .mk none e :: ks)

/-- A parameter as it stands in the list: a name with or without default, a slash, a star with or
without a name, or two stars with a name. -/
inductive Slot where
  | named (name : String) (default : Option Expr)
  | slash
  | star (name : Option String)
  | doubleStar (name : String)

def Slot.parameter? : Slot → Option Parameter
  | .named n d => some (.mk n d)
  | _ => none

def Parameter.hasDefault : Parameter → Bool
  | .mk _ d => d.isSome

def defaultsLast (ps : List Parameter) : Bool :=
  (ps.dropWhile fun p => !Parameter.hasDefault p).all Parameter.hasDefault

def byNameParameters : List Slot → Option (List Parameter × Option String)
  | [] => some ([], none)
  | [.doubleStar n] => some ([], some n)
  | .named n d :: slots => (byNameParameters slots).map fun (ps, k) => (.mk n d :: ps, k)
  | _ => none

def Slot.isNamed : Slot → Bool
  | .named _ _ => true
  | _ => false

def sortParameters (slots : List Slot) : Option Parameters := do
  let before := slots.takeWhile Slot.isNamed
  let rest := slots.dropWhile Slot.isNamed
  let first := before.filterMap Slot.parameter?
  let (positional, regular, rest) ← match rest with
    | .slash :: rest =>
      if before.isEmpty then none
      else some (first, (rest.takeWhile Slot.isNamed).filterMap Slot.parameter?,
        rest.dropWhile Slot.isNamed)
    | _ => some ([], first, rest)
  if !defaultsLast (positional ++ regular) then none
  else
    match rest with
    | [] => some (.mk positional regular none [] none)
    | [.doubleStar n] => some (.mk positional regular none [] (some n))
    | .star (some n) :: slots => do
      let (ps, k) ← byNameParameters slots
      some (.mk positional regular (some n) ps k)
    | .star none :: slots => do
      let (ps, k) ← byNameParameters slots
      if ps.isEmpty then none else some (.mk positional regular none ps k)
    | _ => none

def resolve (named : List Char → Option Char) : Token → Token
  | .string marks body =>
    .string marks
      (if marks.raw || marks.bytes then body else Literal.resolveNames named body.length body)
  | t => t

def strings : Tokens → List (Marks × List Char) × Tokens
  | .string m body :: ts =>
    let (more, rest) := strings ts
    ((m, body) :: more, rest)
  | ts => ([], ts)

def textParts : List (Marks × List Char) → Option (List Literal.Part)
  | [] => some []
  | (m, body) :: more => do
    let ps ← if m.format then Literal.formatParts m.raw body
      else (Literal.decodeText m.raw body).map fun ps => [.text ps]
    let rest ← textParts more
    some (ps ++ rest)

def byteParts : List (Marks × List Char) → Option (List UInt8)
  | [] => some []
  | (m, body) :: more => do
    let bs ← Literal.decodeBytes m.raw body
    let rest ← byteParts more
    some (bs ++ rest)

def partsText : List Literal.Part → List Text.Point
  | [] => []
  | .text chunk :: ps => chunk ++ partsText ps
  | .field _ _ _ :: ps => partsText ps

def fuelFor (length : Nat) : Nat := 32 * (length + 4)

mutual
def expression : Nat → Reader Expr
  | 0, _ => none
  | fuel + 1, ts =>
    match ts with
    | .word .lambdaWord :: rest => do
      let (slots, rest) ← parameterSlots fuel rest
      let params ← sortParameters slots
      let rest ← expect .colon rest
      let (body, rest) ← expression fuel rest
      some (.function params body, rest)
    | _ => do
      let (body, rest) ← disjunction fuel ts
      match rest with
      | .word .ifWord :: rest =>
        let (test, rest) ← disjunction fuel rest
        match rest with
        | .word .elseWord :: rest =>
          let (orElse, rest) ← expression fuel rest
          some (.conditional body test orElse, rest)
        | _ => none
      | _ => some (body, rest)

def named : Nat → Reader Expr
  | 0, _ => none
  | fuel + 1, ts =>
    match ts with
    | .name n :: .sign .walrus :: rest => do
      let (value, rest) ← expression fuel rest
      some (.named (.name n) value, rest)
    | _ => expression fuel ts

def starNamed : Nat → Reader Expr
  | 0, _ => none
  | fuel + 1, ts =>
    match ts with
    | .sign .star :: rest => do
      let (value, rest) ← binary fuel 0 rest
      some (.starred value, rest)
    | _ => named fuel ts

def starExpression : Nat → Reader Expr
  | 0, _ => none
  | fuel + 1, ts =>
    match ts with
    | .sign .star :: rest => do
      let (value, rest) ← binary fuel 0 rest
      some (.starred value, rest)
    | _ => expression fuel ts

def starExpressions : Nat → Reader Expr
  | 0, _ => none
  | fuel + 1, ts => do
    let (es, trailing, rest) ← commaList (starExpression fuel) ts
    some (tupleOf es trailing, rest)

def disjunction : Nat → Reader Expr
  | 0, _ => none
  | fuel + 1, ts => do
    let (first, rest) ← conjunction fuel ts
    let (more, rest) ← disjuncts fuel rest
    some (if more.isEmpty then first else .boolean .or (first :: more), rest)

def disjuncts : Nat → Reader (List Expr)
  | 0, _ => none
  | fuel + 1, ts =>
    match ts with
    | .word .orWord :: rest => do
      let (e, rest) ← conjunction fuel rest
      let (es, rest) ← disjuncts fuel rest
      some (e :: es, rest)
    | _ => some ([], ts)

def conjunction : Nat → Reader Expr
  | 0, _ => none
  | fuel + 1, ts => do
    let (first, rest) ← inversion fuel ts
    let (more, rest) ← conjuncts fuel rest
    some (if more.isEmpty then first else .boolean .and (first :: more), rest)

def conjuncts : Nat → Reader (List Expr)
  | 0, _ => none
  | fuel + 1, ts =>
    match ts with
    | .word .andWord :: rest => do
      let (e, rest) ← inversion fuel rest
      let (es, rest) ← conjuncts fuel rest
      some (e :: es, rest)
    | _ => some ([], ts)

def inversion : Nat → Reader Expr
  | 0, _ => none
  | fuel + 1, ts =>
    match ts with
    | .word .notWord :: rest => do
      let (e, rest) ← inversion fuel rest
      some (.unary .not e, rest)
    | _ => comparison fuel ts

def comparison : Nat → Reader Expr
  | 0, _ => none
  | fuel + 1, ts => do
    let (left, rest) ← binary fuel 0 ts
    let (more, rest) ← comparisons fuel rest
    some (if more.isEmpty then left else .compare left more, rest)

def comparisons : Nat → Reader (List Comparison)
  | 0, _ => none
  | fuel + 1, ts =>
    match compareOp? ts with
    | some (op, rest) => do
      let (right, rest) ← binary fuel 0 rest
      let (more, rest) ← comparisons fuel rest
      some (.mk op right :: more, rest)
    | none => some ([], ts)

def binary : Nat → Nat → Reader Expr
  | 0, _, _ => none
  | fuel + 1, level, ts =>
    if level < binaryLevels then do
      let (left, rest) ← binary fuel (level + 1) ts
      binaryRest fuel level left rest
    else factor fuel ts

def binaryRest : Nat → Nat → Expr → Reader Expr
  | 0, _, _, _ => none
  | fuel + 1, level, left, ts =>
    match ts with
    | .sign s :: rest =>
      match binaryOp? level s with
      | some op => do
        let (right, rest) ← binary fuel (level + 1) rest
        binaryRest fuel level (.binary op left right) rest
      | none => some (left, ts)
    | _ => some (left, ts)

def factor : Nat → Reader Expr
  | 0, _ => none
  | fuel + 1, ts =>
    match ts with
    | .sign s :: rest =>
      match unaryOp? s with
      | some op => do
        let (e, rest) ← factor fuel rest
        some (.unary op e, rest)
      | none => power fuel ts
    | _ => power fuel ts

def power : Nat → Reader Expr
  | 0, _ => none
  | fuel + 1, ts => do
    let (base, rest) ← awaited fuel ts
    match rest with
    | .sign .doubleStar :: rest =>
      let (e, rest) ← factor fuel rest
      some (.binary .pow base e, rest)
    | _ => some (base, rest)

def awaited : Nat → Reader Expr
  | 0, _ => none
  | fuel + 1, ts =>
    match ts with
    | .word .awaitWord :: rest => do
      let (e, rest) ← primary fuel rest
      some (.await e, rest)
    | _ => primary fuel ts

def primary : Nat → Reader Expr
  | 0, _ => none
  | fuel + 1, ts => do
    let (e, rest) ← atom fuel ts
    trailers fuel e rest

def trailers : Nat → Expr → Reader Expr
  | 0, _, _ => none
  | fuel + 1, e, ts =>
    match ts with
    | .sign .dot :: .name n :: rest => trailers fuel (.attribute e n) rest
    | .sign .dot :: _ => none
    | .sign .parenOpen :: .sign .parenClose :: rest => trailers fuel (.call e [] []) rest
    | .sign .parenOpen :: rest => do
      let (first, after) ← argument fuel rest
      match first, startsClause after with
      | .plain item, true =>
        let (clauses, after) ← clauseList fuel after
        let after ← expect .parenClose after
        trailers fuel (.call e [.comprehension .generator item clauses] []) after
      | _, _ =>
        let (more, _, after) := moreItems (argument fuel) after.length after
        let after ← expect .parenClose after
        let (args, keywords) ← sortArguments .free (first :: more)
        trailers fuel (.call e args keywords) after
    | .sign .bracketOpen :: rest => do
      let (es, trailing, rest) ← commaList (index fuel) rest
      let rest ← expect .bracketClose rest
      let i := match es, trailing with
        | [.starred e], _ => .tuple [.starred e]
        | es, trailing => tupleOf es trailing
      trailers fuel (.subscript e i) rest
    | _ => some (e, ts)

def argument : Nat → Reader Argument
  | 0, _ => none
  | fuel + 1, ts =>
    match ts with
    | .sign .star :: rest => do
      let (e, rest) ← expression fuel rest
      some (.spread e, rest)
    | .sign .doubleStar :: rest => do
      let (e, rest) ← expression fuel rest
      some (.mapping e, rest)
    | .name n :: .sign .assign :: rest => do
      let (e, rest) ← expression fuel rest
      some (.keyword n e, rest)
    | _ => do
      let (e, rest) ← named fuel ts
      some (.plain e, rest)

def index : Nat → Reader Expr
  | 0, _ => none
  | fuel + 1, ts =>
    match ts with
    | .sign .star :: rest => do
      let (e, rest) ← expression fuel rest
      some (.starred e, rest)
    | .sign .colon :: rest => sliceRest fuel none rest
    | .name _ :: .sign .walrus :: _ => named fuel ts
    | _ => do
      let (e, rest) ← expression fuel ts
      match rest with
      | .sign .colon :: rest => sliceRest fuel (some e) rest
      | _ => some (e, rest)

def sliceRest : Nat → Option Expr → Reader Expr
  | 0, _, _ => none
  | fuel + 1, lower, ts => do
    let (upper, rest) ← sliceBound fuel ts
    match rest with
    | .sign .colon :: rest =>
      let (step, rest) ← sliceBound fuel rest
      some (.slice lower upper step, rest)
    | _ => some (.slice lower upper none, rest)

def sliceBound : Nat → Reader (Option Expr)
  | 0, _ => none
  | fuel + 1, ts =>
    match ts with
    | .sign .colon :: _ => some (none, ts)
    | .sign .comma :: _ => some (none, ts)
    | .sign .bracketClose :: _ => some (none, ts)
    | _ => do
      let (e, rest) ← expression fuel ts
      some (some e, rest)

def atom : Nat → Reader Expr
  | 0, _ => none
  | fuel + 1, ts =>
    match ts with
    | .name n :: rest => some (.name n, rest)
    | .word .trueWord :: rest => some (.constant (.bool true), rest)
    | .word .falseWord :: rest => some (.constant (.bool false), rest)
    | .word .noneWord :: rest => some (.constant .none, rest)
    | .number value :: rest => some (.constant value, rest)
    | .sign .ellipsis :: rest => some (.constant .ellipsis, rest)
    | .string _ _ :: _ => text fuel ts
    | .sign .parenOpen :: rest => parenthesized fuel rest
    | .sign .bracketOpen :: rest => bracketed fuel rest
    | .sign .braceOpen :: rest => braced fuel rest
    | _ => none

def parenthesized : Nat → Reader Expr
  | 0, _ => none
  | fuel + 1, ts =>
    match ts with
    | .sign .parenClose :: rest => some (.tuple [], rest)
    | .word .yieldWord :: rest => do
      let (e, rest) ← yielded fuel rest
      let rest ← expect .parenClose rest
      some (e, rest)
    | _ => do
      let (es, trailing, rest) ← commaList (starNamed fuel) ts
      match es, trailing, startsClause rest with
      | [.starred _], false, _ => none
      | [e], false, true =>
        let (clauses, rest) ← clauseList fuel rest
        let rest ← expect .parenClose rest
        some (.comprehension .generator e clauses, rest)
      | _, _, _ =>
        let rest ← expect .parenClose rest
        some (tupleOf es trailing, rest)

def yielded : Nat → Reader Expr
  | 0, _ => none
  | fuel + 1, ts =>
    match ts with
    | .word .fromWord :: rest => do
      let (e, rest) ← expression fuel rest
      some (.yieldFrom e, rest)
    | .sign .parenClose :: _ => some (.yield none, ts)
    | .sign .assign :: _ => some (.yield none, ts)
    | .sign .semicolon :: _ => some (.yield none, ts)
    | .newline :: _ => some (.yield none, ts)
    | [] => some (.yield none, ts)
    | _ => do
      let (e, rest) ← starExpressions fuel ts
      some (.yield (some e), rest)

def bracketed : Nat → Reader Expr
  | 0, _ => none
  | fuel + 1, ts =>
    match ts with
    | .sign .bracketClose :: rest => some (.list [], rest)
    | _ => do
      let (es, trailing, rest) ← commaList (starNamed fuel) ts
      match es, trailing, startsClause rest with
      | [.starred _], false, true => none
      | [e], false, true =>
        let (clauses, rest) ← clauseList fuel rest
        let rest ← expect .bracketClose rest
        some (.comprehension .list e clauses, rest)
      | _, _, _ =>
        let rest ← expect .bracketClose rest
        some (.list es, rest)

def braced : Nat → Reader Expr
  | 0, _ => none
  | fuel + 1, ts =>
    match ts with
    | .sign .braceClose :: rest => some (.dict [], rest)
    | .sign .doubleStar :: _ => do
      let (es, _, rest) ← commaList (entry fuel) ts
      let rest ← expect .braceClose rest
      some (.dict es, rest)
    | .name _ :: .sign .walrus :: _ => setRest fuel ts
    | .sign .star :: _ => setRest fuel ts
    | _ => do
      let (first, rest) ← expression fuel ts
      match rest with
      | .sign .colon :: rest =>
        let (value, rest) ← expression fuel rest
        if startsClause rest then
          let (clauses, rest) ← clauseList fuel rest
          let rest ← expect .braceClose rest
          some (.dictComprehension first value clauses, rest)
        else
          let (more, _, rest) := moreItems (entry fuel) rest.length rest
          let rest ← expect .braceClose rest
          some (.dict (.mk (some first) value :: more), rest)
      | _ => gathered fuel first rest

def setRest : Nat → Reader Expr
  | 0, _ => none
  | fuel + 1, ts => do
    let (first, rest) ← starNamed fuel ts
    gathered fuel first rest

def gathered : Nat → Expr → Reader Expr
  | 0, _, _ => none
  | fuel + 1, first, ts =>
    match first, startsClause ts with
    | .starred _, true => none
    | item, true => do
      let (clauses, rest) ← clauseList fuel ts
      let rest ← expect .braceClose rest
      some (.comprehension .set item clauses, rest)
    | _, _ => do
      let (more, _, rest) := moreItems (starNamed fuel) ts.length ts
      let rest ← expect .braceClose rest
      some (.set (first :: more), rest)

def entry : Nat → Reader Entry
  | 0, _ => none
  | fuel + 1, ts =>
    match ts with
    | .sign .doubleStar :: rest => do
      let (e, rest) ← binary fuel 0 rest
      some (.mk none e, rest)
    | _ => do
      let (k, rest) ← expression fuel ts
      let rest ← expect .colon rest
      let (v, rest) ← expression fuel rest
      some (.mk (some k) v, rest)

def clauseList : Nat → Reader (List Clause)
  | 0, _ => none
  | fuel + 1, ts =>
    match ts with
    | .word .forWord :: rest => do
      let (c, rest) ← clause fuel false rest
      let (cs, rest) ← clauseList fuel rest
      some (c :: cs, rest)
    | .word .asyncWord :: .word .forWord :: rest => do
      let (c, rest) ← clause fuel true rest
      let (cs, rest) ← clauseList fuel rest
      some (c :: cs, rest)
    | _ => some ([], ts)

def clause : Nat → Bool → Reader Clause
  | 0, _, _ => none
  | fuel + 1, async, ts => do
    let (es, trailing, rest) ← commaList (target fuel) ts
    match rest with
    | .word .inWord :: rest =>
      let (source, rest) ← disjunction fuel rest
      let (ifs, rest) ← conditions fuel rest
      some (.mk async (tupleOf es trailing) source ifs, rest)
    | _ => none

def conditions : Nat → Reader (List Expr)
  | 0, _ => none
  | fuel + 1, ts =>
    match ts with
    | .word .ifWord :: rest => do
      let (e, rest) ← disjunction fuel rest
      let (es, rest) ← conditions fuel rest
      some (e :: es, rest)
    | _ => some ([], ts)

def target : Nat → Reader Expr
  | 0, _ => none
  | fuel + 1, ts =>
    match ts with
    | .sign .star :: rest => do
      let (e, rest) ← primary fuel rest
      if isTarget e then some (.starred e, rest) else none
    | _ => do
      let (e, rest) ← primary fuel ts
      if isTarget e then some (e, rest) else none

def parameterSlots : Nat → Reader (List Slot)
  | 0, _ => none
  | fuel + 1, ts =>
    match ts with
    | .sign .colon :: _ => some ([], ts)
    | _ => do
      let (s, rest) ← parameterSlot fuel ts
      match rest with
      | .sign .comma :: rest =>
        let (ss, rest) ← parameterSlots fuel rest
        some (s :: ss, rest)
      | .sign .colon :: _ => some ([s], rest)
      | _ => none

def parameterSlot : Nat → Reader Slot
  | 0, _ => none
  | fuel + 1, ts =>
    match ts with
    | .name n :: .sign .assign :: rest => do
      let (e, rest) ← expression fuel rest
      some (.named n (some e), rest)
    | .name n :: rest => some (.named n none, rest)
    | .sign .slash :: rest => some (.slash, rest)
    | .sign .star :: .name n :: rest => some (.star (some n), rest)
    | .sign .star :: rest => some (.star none, rest)
    | .sign .doubleStar :: .name n :: rest => some (.doubleStar n, rest)
    | _ => none

def text : Nat → Reader Expr
  | 0, _ => none
  | fuel + 1, ts =>
    match strings ts with
    | ([], _) => none
    | ((m, body) :: more, rest) =>
      let all := (m, body) :: more
      if all.all fun s => s.1.bytes then do
        let bs ← byteParts all
        some (.constant (.bytes bs), rest)
      else if all.any fun s => s.1.bytes then none
      else do
        let ps ← textParts all
        if all.any fun s => s.1.format then
          let pieces ← formatPieces fuel (Literal.merge ps)
          some (.format pieces, rest)
        else some (.constant (.text (partsText ps) m.text), rest)

def formatPieces : Nat → List Literal.Part → Option (List Piece)
  | 0, _ => none
  | _ + 1, [] => some []
  | fuel + 1, .text chunk :: ps => do
    let more ← formatPieces fuel ps
    some (.text chunk :: more)
  | fuel + 1, .field source conversion layout :: ps => do
    let tokens ← Lexer.tokens ('(' :: source ++ [')'])
    let (e, _) ← starExpressions fuel tokens
    let l ← match layout with
      | none => some none
      | some qs => (formatPieces fuel qs).map some
    let more ← formatPieces fuel ps
    some (.value e conversion l :: more)
end

def onlyBreaks (ts : Tokens) : Bool := ts.all (· = .newline)

def bareExpressions (fuel : Nat) (ts : Tokens) : Option (Expr × Tokens) := do
  let (es, trailing, rest) ← commaList (expression fuel) ts
  some (tupleOf es trailing, rest)

def parseExpr (named : List Char → Option Char) (cs : List Char) : Option Expr := do
  let ts ← Lexer.tokens cs
  let (e, rest) ← bareExpressions (fuelFor cs.length) (ts.map (resolve named))
  if onlyBreaks rest then some e else none

end SlotMarkup.Host.Parser
