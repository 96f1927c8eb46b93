import SlotMarkup.Template.Compile

/-! The record of a compilation: one line for each attribute that joins a slot and for each
template that is finished, those inside others first. -/

namespace SlotMarkup

structure Trace where
  lines : List String
  slots : Nat
  elements : Nat
deriving DecidableEq, Repr

namespace Trace

def start : Trace := ⟨[], 0, 0⟩

def addSlot (t : Trace) : Trace := { t with slots := t.slots + 1 }

def addElement (t : Trace) : Trace := { t with elements := t.elements + 1 }

def addLine (t : Trace) (line : String) : Trace := { t with lines := t.lines ++ [line] }

def join (t : Trace) : Trace :=
  t.addLine ("Merged attribute into slot " ++ toString (t.slots - 1))

def finish (t : Trace) : Trace :=
  t.addLine ("Compiled template with " ++ toString t.slots ++ " slots over " ++
    toString t.elements ++ " literal elements")

def resume (t inner : Trace) : Trace := { t with lines := t.lines ++ inner.lines }

def attributes (tag : String) : Bool → Trace → List Attribute → Trace
  | _, t, [] => t
  | opened, t, a :: as =>
    match a.classify tag with
    | .ok .dynamic => attributes tag true (if opened then t.join else t.addSlot) as
    | _ => attributes tag false t as

mutual
def node (t : Trace) : Node → Trace
  | .element _ tag as children _ =>
    match Node.classifyElement tag as children with
    | .dynamic =>
      let t := if (Node.inlined children).any Node.givesOutput then
          t.resume (nodes start children).finish
        else t
      t.addSlot
    | .literal => nodes (attributes tag false t.addElement as) children
  | .slot _ expr _ => if expr.isEmpty then t else t.addSlot
  | .fragment _ children _ => nodes t children
  | _ => t

def nodes (t : Trace) : List Node → Trace
  | [] => t
  | n :: ns => nodes (node t n) ns
end

def ofRoot : Root → List String
  | .single n _ => (node start n).finish.lines
  | .list ns => (nodes start ns).finish.lines

end Trace

end SlotMarkup
