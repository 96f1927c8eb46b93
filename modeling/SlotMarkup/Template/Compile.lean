import SlotMarkup.Attribute.Merge
import SlotMarkup.Attribute.Value
import SlotMarkup.Template.Basic
import SlotMarkup.Tree.Layout

/-! Compilation of an element tree into a template. -/

namespace SlotMarkup

open SlotMarkup.Host (Expr Entry)

def voidTags : List String := [
  "area", "base", "br", "col", "embed", "hr", "img", "input", "link", "meta", "param", "source",
  "track", "wbr"]

/-- The container of a node: its number, if it is a literal element, and its layout, which is asked
for only where a slot needs it. -/
structure Scope where
  owner : Option Nat
  layout : Except Error Layout

namespace Scope

def ofElement (number : Nat) (children : List Node) : Scope :=
  ⟨some number, Layout.ofChildren children⟩

def ofFragment (scope : Option Scope) (children : List Node) : Scope :=
  scope.getD ⟨none, Layout.ofChildren children⟩

def below (scope : Option Scope) (number : Nat) : Node → Option Scope
  | .fragment _ children _ => some (.ofFragment scope children)
  | n => some (.ofElement number n.children)

def layoutOf : Option Scope → Except Error Layout
  | none => .ok .empty
  | some s => s.layout

def part (scope : Option Scope) (layout : Layout) (label : Nat) : Part :=
  let position := layout.position label
  ⟨if position.afterDynamic then .nodeAfterDynamic else .node,
    (scope.bind Scope.owner).map fun n => (n : Int), some position.previous⟩

end Scope

def enter (config : Config) (depth : Int) (place : Place) : Except Error Int :=
  if config.maxDepth < depth + 1 then .error (.depth config.maxDepth place) else .ok (depth + 1)

def runOutputs (element written : Nat) : Option Expr → List Output
  | none => []
  | some e => [.slot e ⟨.attribute, some element, some written⟩, .markup " "]

/-- The attributes of a literal element. `written` counts the literal attributes so far, and `run`
is the value of the dynamic ones right before. -/
def attributeOutputs (host : Host.Interpreter) (tag : String) (element : Nat) :
    Nat → Option Expr → List Attribute → Except Error (List Output)
  | written, run, [] => .ok (runOutputs element written run)
  | written, run, a :: as => do
    match ← a.classify tag with
    | .dynamic =>
      let entry ← a.entry host tag
      attributeOutputs host tag element written (some (extendRun run (slotValue entry))) as
    | .literal =>
      match a with
      | .static name value _ =>
        let rest ← attributeOutputs host tag element (written + 1) none as
        .ok (runOutputs element written run ++ .markup (attributeMarkup name value) :: rest)
      | _ => attributeOutputs host tag element written run as

def Attribute.isKey : Attribute → Bool
  | .static name _ _ => name == "key"
  | .dynamic name _ _ => name == "key"
  | _ => false

def Attribute.replaceKey (host : Host.Interpreter) (key : Option Expr) :
    Attribute → Except Error (Option Expr)
  | .static _ (some v) _ => .ok (some (.ofText v))
  | .dynamic _ expr place => do
    let e ← expr.toExpr host place
    .ok (some e)
  | _ => .ok key

def elementProperties (host : Host.Interpreter) (tag : String) :
    Option Expr → List Attribute → Except Error (List Entry × Option Expr)
  | key, [] => .ok ([], key)
  | key, a :: as =>
    if a.isKey then do
      let key ← a.replaceKey host key
      elementProperties host tag key as
    else do
      let entry ← a.entry host tag
      let (entries, key) ← elementProperties host tag key as
      .ok (entry :: entries, key)

def elementType (tag : String) (place : Place) : Except Error Expr :=
  if isMarkupTag tag then .ok (.ofText tag) else componentReference place tag

def elementCall (config : Config) (type : Expr) (properties : List Entry) (key : Option Expr) :
    Expr :=
  .call (.name config.jsxName) ([type, .dict properties] ++ key.toList) []

mutual
/-- The outputs of a node, and the number of literal elements up to its end. `scope` is the
container, `depth` the level of the parent, and `count` the number of literal elements before. -/
def nodeOutputs (config : Config) (scope : Option Scope) (depth : Int) (count : Nat) :
    Node → Except Error (List Output × Nat)
  | .element label tag attributes children place => do
    let depth ← enter config depth place
    match Node.classifyElement tag attributes children with
    | .dynamic =>
      let type ← elementType tag place
      let (entries, key) ← elementProperties config.host tag none attributes
      let entries ←
        if (Node.inlined children).any Node.givesOutput then do
          let inner ← enter config depth .origin
          let (os, n) ← nodesOutputs config (some (.ofFragment none children)) inner 0 children
          let value ← (Template.ofOutputs os n).toExpr config
          pure (entries ++ [.mk (some (.ofText "children")) value])
        else pure entries
      let layout ← Scope.layoutOf scope
      .ok ([.slot (elementCall config type entries key) (Scope.part scope layout label)], count)
    | .literal =>
      let opening ← attributeOutputs config.host tag count 0 none attributes
      let inside := Scope.below scope count (.element label tag attributes children place)
      let (body, next) ← nodesOutputs config inside depth (count + 1) children
      let closing := if voidTags.contains tag then [] else [.markup ("</" ++ tag ++ ">")]
      .ok (.markup ("<" ++ tag ++ " ") :: opening ++ .markup ">" :: body ++ closing, next)
  | .text _ value _ =>
    let shown := Text.collapse value
    .ok (if shown.isEmpty then [] else [.markup shown], count)
  | .slot label expr place =>
    if expr.isEmpty then .ok ([], count)
    else do
      let layout ← Scope.layoutOf scope
      let value ← expr.toExpr config.host place
      let separator := if layout.isWrapped label then [.markup config.placeholderComment] else []
      .ok (separator ++ [.slot value (Scope.part scope layout label)], count)
  | .fragment label children place => do
    let depth ← enter config depth place
    let inside := Scope.below scope count (.fragment label children place)
    nodesOutputs config inside depth count children
  | .foreign _ v => .error (.classification (.node v.typeName) .unknown)

def nodesOutputs (config : Config) (scope : Option Scope) (depth : Int) (count : Nat) :
    List Node → Except Error (List Output × Nat)
  | [] => .ok ([], count)
  | n :: ns => do
    let (first, count) ← nodeOutputs config scope depth count n
    let (rest, count) ← nodesOutputs config scope depth count ns
    .ok (first ++ rest, count)
end

def compile (config : Config) (depth : Int) : Root → Except Error Template
  | .single (.foreign _ v) _ => .error (.classification (.root v.typeName) .unknown)
  | .single n _ => do
    let (os, count) ← nodeOutputs config none depth 0 n
    .ok (.ofOutputs os count)
  | .list ns => do
    let depth ← enter config depth .origin
    let (os, count) ← nodesOutputs config (some (.ofFragment none ns)) depth 0 ns
    .ok (.ofOutputs os count)

def generate (config : Config) (root : Root) : Except Error Expr := do
  let t ← compile config 0 root
  t.toExpr config

end SlotMarkup
