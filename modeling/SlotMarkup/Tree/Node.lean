import SlotMarkup.Error
import SlotMarkup.Text.Blank
import SlotMarkup.Text.Collapse

/-! Element trees. Every node has a label, and two occurrences of one label are the same node. -/

namespace SlotMarkup

open SlotMarkup.Document (Value)
open SlotMarkup.Host (Expr)

inductive Embedded where
  | source (s : String)
  | parsed (e : Expr)
  | other (v : Value) (noText : v.isText = false)

def Embedded.value (v : Value) : Embedded :=
  if h : v.isText = false then .other v h else .source v.plain

def Embedded.isEmpty : Embedded → Bool
  | .source s => s.toList.all Text.isBlank
  | .parsed _ => false
  | .other v _ => v.isNull

inductive Attribute where
  | static (name : String) (value : Option String) (place : Place)
  | dynamic (name : String) (expr : Embedded) (place : Place)
  | spread (expr : Embedded) (place : Place)
  | foreign (value : Value)

inductive Node where
  | element (label : Nat) (tag : String) (attributes : List Attribute) (children : List Node)
      (place : Place)
  | text (label : Nat) (value : String) (place : Place)
  | slot (label : Nat) (expr : Embedded) (place : Place)
  | fragment (label : Nat) (children : List Node) (place : Place)
  | foreign (label : Nat) (value : Value)

namespace Node

def label : Node → Nat
  | .element l _ _ _ _ => l
  | .text l _ _ => l
  | .slot l _ _ => l
  | .fragment l _ _ => l
  | .foreign l _ => l

def children : Node → List Node
  | .element _ _ _ cs _ => cs
  | .fragment _ cs _ => cs
  | _ => []

def isFragment : Node → Bool
  | .fragment _ _ _ => true
  | _ => false

def isText : Node → Bool
  | .text _ _ _ => true
  | _ => false

def isList : Node → Bool
  | .foreign _ v => v.isArray
  | _ => false

def listItems : Node → List Node
  | .foreign label (.array items) => items.map (.foreign label)
  | _ => []

def givesOutput : Node → Bool
  | .text _ value _ => !(Text.collapseChars value.toList).isEmpty
  | .slot _ expr _ => !expr.isEmpty
  | _ => true

mutual
def unwrapped : Node → List Node
  | .fragment _ cs _ => inlined cs
  | n => [n]

def inlined : List Node → List Node
  | [] => []
  | n :: ns => unwrapped n ++ inlined ns
end

def outputs (ns : List Node) : List Node := (inlined ns).filter givesOutput

mutual
def size : Node → Nat
  | .element _ _ _ cs _ => sizes cs + 1
  | .fragment _ cs _ => sizes cs + 1
  | _ => 1

def sizes : List Node → Nat
  | [] => 0
  | n :: ns => size n + sizes ns
end

end Node

/-- What can be compiled: a node, or a list of nodes, which stands for a fragment. -/
inductive Root where
  | single (n : Node) (noList : n.isList = false)
  | list (ns : List Node)

def Root.node (n : Node) : Root :=
  if h : n.isList = false then .single n h else .list n.listItems

end SlotMarkup
