import SlotMarkup.Decimal.Shortest
import SlotMarkup.Text.Quoted

/-! Values of a document: the scalars, lists and objects that a tree file holds, and their texts in
messages. -/

namespace SlotMarkup.Document

open SlotMarkup.Decimal

inductive Value where
  | null
  | bool (b : Bool)
  | int (n : Int)
  | float (x : Binary64)
  | text (s : String)
  | array (items : List Value)
  | object (fields : List (String × Value))
deriving Inhabited

namespace Value

def typeName : Value → String
  | null => "NoneType"
  | bool _ => "bool"
  | int _ => "int"
  | float _ => "float"
  | text _ => "str"
  | array _ => "list"
  | object _ => "dict"

def boolText (b : Bool) : String := if b then "True" else "False"

mutual
def display : Value → String
  | null => "None"
  | bool b => boolText b
  | int n => toString n
  | float x => plainStyle.text x
  | text s => Text.quoted s
  | array items => "[" ++ ", ".intercalate (displayItems items) ++ "]"
  | object fields => "\x7b" ++ ", ".intercalate (displayFields fields) ++ "\x7d"

def displayItems : List Value → List String
  | [] => []
  | v :: vs => v.display :: displayItems vs

def displayFields : List (String × Value) → List String
  | [] => []
  | (k, v) :: fs => (Text.quoted k ++ ": " ++ v.display) :: displayFields fs
end

def plain : Value → String
  | text s => s
  | v => v.display

def isNull : Value → Bool
  | null => true
  | _ => false

def isText : Value → Bool
  | text _ => true
  | _ => false

def isArray : Value → Bool
  | array _ => true
  | _ => false

end Value

abbrev Fields := List (String × Value)

def Fields.get? (fields : Fields) (key : String) : Option Value :=
  (fields.find? fun f => f.1 == key).map (·.2)

def Fields.getOrNull (fields : Fields) (key : String) : Value := (fields.get? key).getD .null

def Fields.insert : Fields → String → Value → Fields
  | [], key, v => [(key, v)]
  | (k, w) :: fs, key, v => if k == key then (k, v) :: fs else (k, w) :: Fields.insert fs key v

end SlotMarkup.Document
