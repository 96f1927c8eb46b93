import SlotMarkup.Attribute.Name
import SlotMarkup.Config
import SlotMarkup.Host.Parser
import SlotMarkup.Text.Identifier
import SlotMarkup.Tree.Node

/-! The expressions behind slots and attributes. -/

namespace SlotMarkup

open SlotMarkup.Host (Expr Entry)

def Embedded.toExpr (host : Host.Interpreter) (place : Place) : Embedded → Except Error Expr
  | .parsed e => .ok e
  | .other v _ => .error (.classification (.expression v.typeName) place)
  | .source s =>
    let cs := Text.trim Text.isBlank s.toList
    if cs.contains (Char.ofNat 0) then .error (.value .nullCharacter)
    else
      match Host.Parser.parseExpr host.named cs with
      | some e => .ok e
      | none => .error (.expression s (host.complaint cs) place)

def componentReference (place : Place) (tag : String) : Except Error Expr :=
  let parts := List.splitOn '.' tag.toList
  if parts.all Text.isIdentifier then
    match parts with
    | [] => .error (.classification (.component tag) place)
    | first :: rest =>
      .ok (rest.foldl (fun e p => .attribute e (String.ofList p)) (.name (String.ofList first)))
  else .error (.classification (.component tag) place)

def staticValue : Option String → Expr
  | none => .constant (.bool true)
  | some s => .ofText s

namespace Attribute

def entry (host : Host.Interpreter) (tag : String) : Attribute → Except Error Entry
  | .static name value _ => .ok (.mk (some (.ofText (attributeKey name))) (staticValue value))
  | .dynamic name expr place => do
    let e ← expr.toExpr host place
    .ok (.mk (some (.ofText (attributeKey name))) e)
  | .spread expr place => do
    let e ← expr.toExpr host place
    .ok (.mk none e)
  | .foreign v => .error (.classification (.attribute v.typeName tag) .unknown)

end Attribute

def slotValue : Entry → Expr
  | .mk none e => e
  | .mk (some k) e => .dict [.mk (some k) e]

end SlotMarkup
