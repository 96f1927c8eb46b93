import SlotMarkup.Host.Parser
import SlotMarkup.Host.Printer

/-! Modules of the host language. Expressions, imports and assignments have a form of their own, and
any other statement is kept as it is written. -/

namespace SlotMarkup.Host

structure Alias where
  name : String
  rename : Option String
deriving DecidableEq, Repr

def Alias.localName (a : Alias) : String :=
  match a.rename with
  | some r => if r.isEmpty then a.name else r
  | none => a.name

def Alias.print (a : Alias) : String :=
  match a.rename with
  | some r => if r.isEmpty then a.name else a.name ++ " as " ++ r
  | none => a.name

inductive Statement where
  | expression (e : Expr)
  | importNames (names : List Alias)
  /-- An import from a module; `level` counts the leading dots. -/
  | importFrom (module : Option String) (names : List Alias) (level : Nat)
  | assign (targets : List Expr) (value : Expr)
  | pass
  | other (source : String)

abbrev Module := List Statement

def printTargets : List Expr → Printed
  | [] => .ok ""
  | t :: ts => do
    let s ← t.printAt false .tuple
    let rest ← printTargets ts
    .ok (s ++ " = " ++ rest)

def Statement.print : Statement → Printed
  | .expression e => e.printAt false .yield
  | .importNames names => .ok ("import " ++ ", ".intercalate (names.map Alias.print))
  | .importFrom module names level =>
    .ok ("from " ++ String.ofList (List.replicate level '.') ++ module.getD "" ++ " import " ++
      ", ".intercalate (names.map Alias.print))
  | .assign targets value => do
    let t ← printTargets targets
    let v ← value.printAt false .test
    .ok (t ++ v)
  | .pass => .ok "pass"
  | .other source => .ok source

def Module.printLines : Module → Except PrintError (List String)
  | [] => .ok []
  | s :: ss => do
    let line ← s.print
    let rest ← Module.printLines ss
    .ok (line :: rest)

def Module.print (m : Module) : Printed := do
  match m with
  | .expression (.constant (.text ps marked)) :: rest =>
    let doc := (if marked then "u" else "") ++ String.ofList (Written.text Written.blockQuotes ps)
    let more ← Module.printLines rest
    .ok ("\n".intercalate (doc :: more))
  | _ =>
    let all ← Module.printLines m
    .ok ("\n".intercalate all)

namespace Parser

def dottedName : Nat → Reader String
  | 0, _ => none
  | fuel + 1, ts =>
    match ts with
    | .name n :: .sign .dot :: rest => do
      let (more, rest) ← dottedName fuel rest
      some (n ++ "." ++ more, rest)
    | .name n :: rest => some (n, rest)
    | _ => none

def aliasFor (name : String) : Reader Alias
  | .word .asWord :: .name r :: rest => some (⟨name, some r⟩, rest)
  | .word .asWord :: _ => none
  | ts => some (⟨name, none⟩, ts)

def moduleAlias (ts : Tokens) : Option (Alias × Tokens) := do
  let (n, rest) ← dottedName ts.length ts
  aliasFor n rest

def memberAlias : Reader Alias
  | .name n :: rest => aliasFor n rest
  | _ => none

def dots : Tokens → Nat × Tokens
  | .sign .dot :: ts =>
    let (n, rest) := dots ts
    (n + 1, rest)
  | .sign .ellipsis :: ts =>
    let (n, rest) := dots ts
    (n + 3, rest)
  | ts => (0, ts)

def importedNames (ts : Tokens) : Option (List Alias × Tokens) :=
  match ts with
  | .sign .star :: rest => some ([⟨"*", none⟩], rest)
  | .sign .parenOpen :: rest => do
    let (names, _, rest) ← commaList memberAlias rest
    let rest ← expect .parenClose rest
    some (names, rest)
  | _ => do
    let (names, trailing, rest) ← commaList memberAlias ts
    if trailing then none else some (names, rest)

def importFrom (ts : Tokens) : Option (Statement × Tokens) := do
  let (level, rest) := dots ts
  let (module, rest) ← match rest with
    | .word .importWord :: _ => if level = 0 then none else some (none, rest)
    | _ => (dottedName rest.length rest).map fun (n, rest) => (some n, rest)
  match rest with
  | .word .importWord :: rest =>
    let (names, rest) ← importedNames rest
    some (.importFrom module names level, rest)
  | _ => none

def side (fuel : Nat) : Reader Expr
  | .word .yieldWord :: rest => yielded fuel rest
  | ts => starExpressions fuel ts

def assignment (fuel : Nat) : Nat → List Expr → Reader Statement
  | 0, _, _ => none
  | steps + 1, targets, ts => do
    let (e, rest) ← side fuel ts
    match rest with
    | .sign .assign :: rest =>
      if isTarget e then assignment fuel steps (targets ++ [e]) rest else none
    | _ => some (if targets.isEmpty then .expression e else .assign targets e, rest)

def statement (fuel : Nat) (ts : Tokens) : Option (Statement × Tokens) :=
  match ts with
  | .word .importWord :: rest => do
    let (names, trailing, rest) ← commaList moduleAlias rest
    if trailing then none else some (.importNames names, rest)
  | .word .fromWord :: rest => importFrom rest
  | .word .passWord :: rest => some (.pass, rest)
  | _ => assignment fuel (ts.length + 1) [] ts

def statements (fuel : Nat) : Nat → Tokens → Option (List Statement)
  | _, [] => some []
  | 0, _ => none
  | steps + 1, ts => do
    let (s, rest) ← statement fuel ts
    let rest ← match rest with
      | [] => some []
      | .newline :: rest => some rest
      | .sign .semicolon :: .newline :: rest => some rest
      | .sign .semicolon :: rest => some rest
      | _ => none
    let more ← statements fuel steps rest
    some (s :: more)

/-- The text of a module with its last line closed: after a carriage return and a line feed an empty
line follows, which a continued line may run into. -/
def closedText (cs : List Char) : List Char :=
  match cs.reverse with
  | '\n' :: '\r' :: _ => cs ++ ['\n']
  | _ => cs

def parseModule (named : List Char → Option Char) (cs : List Char) : Option Module := do
  let ts ← Lexer.tokens (closedText cs)
  statements (fuelFor cs.length) (ts.length + 1) (ts.map (resolve named))

end Parser

end SlotMarkup.Host
