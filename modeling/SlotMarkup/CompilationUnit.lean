import SlotMarkup.Host.Statement
import SlotMarkup.Template.Compile

/-! A module that templates are compiled into. The helpers are imported with the first template,
and never twice. -/

namespace SlotMarkup

open SlotMarkup.Host (Alias Expr Module Statement)

def exprSource (e : Expr) : Except Error String :=
  match e.print with
  | .ok s => .ok s
  | .error problem => .error (.value (.unprintable problem))

def runtimeImport (config : Config) : Statement :=
  .importFrom (some config.runtimeModule)
    [⟨"jsx", some config.jsxName⟩, ⟨"html", some config.htmlName⟩] 0

def isRuntimeImport (config : Config) : Statement → Bool
  | .importFrom module names _ =>
    module == some config.runtimeModule &&
      (names.map Alias.localName).contains config.jsxName &&
      (names.map Alias.localName).contains config.htmlName
  | _ => false

def isDocumentation : Statement → Bool
  | .expression (.constant (.text _ _)) => true
  | _ => false

def isFutureImport : Statement → Bool
  | .importFrom module _ _ => module == some "__future__"
  | _ => false

/-- Where an import goes: after the documentation and the imports from the future that open a body. -/
def insertionIndex (body : Module) : Nat :=
  let start := if body.head?.any isDocumentation then 1 else 0
  start + ((body.drop start).takeWhile isFutureImport).length

structure CompilationUnit where
  config : Config
  body : Module
  hasRuntime : Bool

def moduleOfSource (config : Config) (s : String) : Except Error (Option Module) :=
  if s.toList.contains (Char.ofNat 0) then .error (.value .nullCharacter)
  else .ok (Host.Parser.parseModule config.host.named s.toList)

namespace CompilationUnit

def ofModule (config : Config) (body : Module) : CompilationUnit :=
  ⟨config, body, body.any (isRuntimeImport config)⟩

/-- Work on a unit. It may fail, and the unit is then as the work has left it. -/
abbrev Action := ExceptT Error (StateM CompilationUnit)

def withRuntime (u : CompilationUnit) : CompilationUnit :=
  { u with body := u.body.insertIdx (insertionIndex u.body) (runtimeImport u.config), hasRuntime := true }

def ensureRuntime : Action Unit :=
  modify fun u => if u.hasRuntime then u else u.withRuntime

def compile (root : Root) : Action Expr := do
  let u ← get
  let e ← generate u.config root
  ensureRuntime
  return e

def assign (target : String) (root : Root) : Action Statement := do
  let e ← compile root
  let s := Statement.assign [.name target] e
  modify fun u => { u with body := u.body ++ [s] }
  return s

def source (u : CompilationUnit) : Except Error String :=
  match Module.print u.body with
  | .ok s => .ok s
  | .error problem => .error (.value (.unprintable problem))

end CompilationUnit

def statementSource (s : Statement) : Except Error String :=
  match s.print with
  | .ok t => .ok t
  | .error problem => .error (.value (.unprintable problem))

end SlotMarkup
