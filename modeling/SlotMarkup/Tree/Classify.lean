import SlotMarkup.Tree.Node

/-! What is written as markup and what is filled in later. -/

namespace SlotMarkup

open SlotMarkup.Document (Value)

inductive Kind where
  | literal
  | dynamic
deriving DecidableEq, Repr

def isMarkupTag (tag : String) : Bool :=
  match tag.toList with
  | [] => false
  | c :: cs => 'a' ≤ c && c ≤ 'z' && cs.all fun d => d != '.' && d != ':'

/-- Attributes that are for the call that builds an element, and never markup. -/
def isReserved (name : String) : Bool := name == "key" || name == "ref"

def isControl (tag : String) : Bool := tag == "input" || tag == "select" || tag == "textarea"

def isControlProperty (name : String) : Bool :=
  name == "value" || name == "defaultValue" || name == "checked" || name == "defaultChecked"

def needsValue (tag name : String) : Bool :=
  isReserved name || (isControl tag && isControlProperty name)

namespace Attribute

def hasReservedName : Attribute → Bool
  | .static name _ _ => isReserved name
  | .dynamic name _ _ => isReserved name
  | _ => false

def isLive : Attribute → Bool
  | .static name _ _ => isReserved name
  | .dynamic _ _ _ => true
  | .spread _ _ => true
  | .foreign _ => false

def classify (tag : String) : Attribute → Except Error Kind
  | .static name _ _ => .ok (if needsValue tag name then .dynamic else .literal)
  | .dynamic _ _ _ => .ok .dynamic
  | .spread _ _ => .ok .dynamic
  | .foreign v => .error (.classification (.attribute v.typeName tag) .unknown)

end Attribute

namespace Node

/-- Whether one of the nodes on the list, or below one of them, is dynamic. The nodes are visited
in document order; `fuel` bounds their number. -/
def scanLive : Nat → List Node → Bool
  | 0, _ => false
  | _ + 1, [] => false
  | fuel + 1, .element _ tag attributes children _ :: rest =>
    if !isMarkupTag tag then true
    else if attributes.any Attribute.isLive then true
    else scanLive fuel (children ++ rest)
  | fuel + 1, .fragment _ children _ :: rest => scanLive fuel (children ++ rest)
  | fuel + 1, .slot _ expr _ :: rest => if expr.isEmpty then scanLive fuel rest else true
  | fuel + 1, .text _ _ _ :: rest => scanLive fuel rest
  | fuel + 1, .foreign _ _ :: rest => scanLive fuel rest

def hasLivePart (attributes : List Attribute) (children : List Node) : Bool :=
  attributes.any Attribute.isLive || scanLive (sizes children + 1) children

def classifyElement (tag : String) (attributes : List Attribute) (children : List Node) : Kind :=
  if !isMarkupTag tag then .dynamic
  else if tag == "svg" && hasLivePart attributes children then .dynamic
  else if attributes.any Attribute.hasReservedName then .dynamic
  else .literal

def isStatic : Node → Bool
  | .text _ _ _ => true
  | .element _ tag attributes children _ => classifyElement tag attributes children = .literal
  | _ => false

end Node

end SlotMarkup
