import SlotMarkup.Document.Reader
import SlotMarkup.Tree.Node

/-! Trees read from documents. Nodes are labelled in the order in which they are finished, so that
no label occurs twice. -/

namespace SlotMarkup.Load

open SlotMarkup.Document (Value Fields)

def statedPlace (fields : Fields) : Place :=
  ⟨fields.getOrNull "line", fields.getOrNull "column"⟩

def statedLine (fields : Fields) : Place := ⟨fields.getOrNull "line", .null⟩

def placeOf (fields : Fields) : Place :=
  ⟨(fields.get? "line").getD (.int 0), (fields.get? "column").getD (.int 0)⟩

def missing {α : Type} (fields : Fields) (key : String) : Except Error α :=
  .error (.tree (.missing ((fields.get? "type").getD (.text "node")).plain key)
    (statedPlace fields))

def requireText (fields : Fields) (key : String) : Except Error String :=
  match fields.get? key with
  | none => missing fields key
  | some (.text s) => .ok s
  | some v => .error (.tree (.fieldType key "str" v.typeName) (statedPlace fields))

def optionalText (fields : Fields) (key : String) (fault : String → TreeFault) :
    Except Error (Option String) :=
  match fields.getOrNull key with
  | .null => .ok none
  | .text s => .ok (some s)
  | v => .error (.tree (fault v.typeName) (statedLine fields))

def optionalList (fields : Fields) (key : String) : Except Error (List Value) :=
  match fields.get? key with
  | none => .ok []
  | some (.array items) => .ok items
  | some v => .error (.tree (.fieldType key "list" v.typeName) (statedPlace fields))

def attributeOf : Value → Except Error Attribute
  | .object fields =>
    match Fields.getOrNull fields "type" with
    | .text kind =>
      if kind == "static" then do
        let value ← optionalText fields "value" .attributeValue
        let name ← requireText fields "name"
        .ok (.static name value (placeOf fields))
      else if kind == "expression" then do
        let name ← requireText fields "name"
        let expr ← requireText fields "expr"
        .ok (.dynamic name (.source expr) (placeOf fields))
      else if kind == "spread" then do
        let expr ← requireText fields "expr"
        .ok (.spread (.source expr) (placeOf fields))
      else .error (.tree (.attributeType (Text.quoted kind)) (statedLine fields))
    | v => .error (.tree (.attributeType v.display) (statedLine fields))
  | v => .error (.tree (.attributeObject v.typeName) .unknown)

def attributesOf : List Value → Except Error (List Attribute)
  | [] => .ok []
  | v :: vs => do
    let a ← attributeOf v
    let as ← attributesOf vs
    .ok (a :: as)

def slotExpr : Option String → Embedded
  | none => .value .null
  | some s => .source s

mutual
/-- The node that a value describes, with labels from `next` on, and the label after them. -/
def nodeOf (next : Nat) : Value → Except Error (Node × Nat)
  | .object fields =>
    match Fields.getOrNull fields "type" with
    | .text kind =>
      if kind == "element" then do
        let tag ← requireText fields "tag"
        let values ← optionalList fields "attributes"
        let as ← attributesOf values
        let (cs, next) ← childrenOf next (statedPlace fields) fields
        .ok (.element next tag as cs (placeOf fields), next + 1)
      else if kind == "text" then do
        let value ← requireText fields "value"
        .ok (.text next value (placeOf fields), next + 1)
      else if kind == "expression" then do
        let expr ← optionalText fields "expr" .slotValue
        .ok (.slot next (slotExpr expr) (placeOf fields), next + 1)
      else if kind == "fragment" then do
        let (cs, next) ← childrenOf next (statedPlace fields) fields
        .ok (.fragment next cs (placeOf fields), next + 1)
      else .error (.tree (.nodeType (Text.quoted kind)) (statedLine fields))
    | v => .error (.tree (.nodeType v.display) (statedLine fields))
  | v => .error (.tree (.nodeObject v.typeName) .unknown)

def childrenOf (next : Nat) (place : Place) :
    List (String × Value) → Except Error (List Node × Nat)
  | [] => .ok ([], next)
  | (key, .array items) :: rest =>
    if key == "children" then nodesOf next items else childrenOf next place rest
  | (key, v) :: rest =>
    if key == "children" then .error (.tree (.fieldType key "list" v.typeName) place)
    else childrenOf next place rest

def nodesOf (next : Nat) : List Value → Except Error (List Node × Nat)
  | [] => .ok ([], next)
  | v :: vs => do
    let (n, next) ← nodeOf next v
    let (ns, next) ← nodesOf next vs
    .ok (n :: ns, next)
end

def treeOf : Value → Except Error Node
  | .array items => do
    let (ns, next) ← nodesOf 0 items
    .ok (.fragment next ns .origin)
  | v => do
    let (n, _) ← nodeOf 0 v
    .ok n

def documentFault (path : String) (cs : List Char) : Document.ReadError → Error
  | .numeralTooLong digits => .value (.numeralTooLong digits)
  | .loneSurrogate => .value .loneSurrogate
  | .unmet what left =>
    let (line, column) := Document.lineColumn cs left
    .tree (.document path what.message) ⟨.int line, .int column⟩

def documentOfText (path : String) (cs : List Char) : Except Error Value :=
  let cs := Document.normalizeBreaks cs
  (Document.Reader.document cs).mapError (documentFault path cs)

def treeOfText (path : String) (cs : List Char) : Except Error Node := do
  let v ← documentOfText path cs
  treeOf v

end SlotMarkup.Load
