import SlotMarkup.Config
import SlotMarkup.Template.Part

/-! Compiled templates: static strings with a value between each two of them. -/

namespace SlotMarkup

open SlotMarkup.Host (Expr)

inductive Output where
  | markup (s : String)
  | slot (value : Expr) (part : Part)

structure Template where
  strings : List String
  values : List Expr
  parts : List Part
  elements : Int

namespace Template

def stretches : List Output → List (List String)
  | [] => [[]]
  | .slot _ _ :: os => [] :: stretches os
  | .markup s :: os =>
    match stretches os with
    | [] => [[s]]
    | p :: ps => (s :: p) :: ps

def valuesOf : List Output → List Expr
  | [] => []
  | .markup _ :: os => valuesOf os
  | .slot e _ :: os => e :: valuesOf os

def partsOf : List Output → List Part
  | [] => []
  | .markup _ :: os => partsOf os
  | .slot _ p :: os => p :: partsOf os

def ofOutputs (os : List Output) (elements : Nat) : Template where
  strings := (stretches os).map String.join
  values := valuesOf os
  parts := partsOf os
  elements := elements

def partMeta (t : Template) : Except Error String := Parts.encode t.parts (some t.elements)

def single? (t : Template) : Option Expr :=
  match t.values, t.strings with
  | [e], [a, b] => if a.isEmpty && b.isEmpty then some e else none
  | _, _ => none

def toExpr (config : Config) (t : Template) : Except Error Expr :=
  match t.single? with
  | some e => .ok e
  | none => do
    let codes ← t.partMeta
    .ok (.call (.name config.htmlName)
      [.tuple (t.strings.map Expr.ofText), .tuple t.values, .ofText codes] [])

end Template

end SlotMarkup
