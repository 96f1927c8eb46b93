import SlotMarkup.Template.Part

/-! What the two helpers of compiled code build: templates with their values, and elements. -/

namespace SlotMarkup

structure View (α : Type) where
  strings : List String
  values : List α
  codes : String

namespace View

variable {α : Type}

def build (strings : List String) (values : List α) (codes : String) : Except Error (View α) :=
  if strings.length = values.length + 1 then .ok ⟨strings, values, codes⟩
  else .error (.value (.segmentCount strings.length values.length))

def markup (v : View α) : String := String.join v.strings

def parts (v : View α) : Except Error (List Part) := Parts.decode v.codes

end View

structure BuiltElement (α : Type) where
  type : α
  properties : α
  key : Option α

end SlotMarkup
