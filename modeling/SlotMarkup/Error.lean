import SlotMarkup.Document.Value
import SlotMarkup.Host.Printer

/-! Why a compilation fails, where, and in which words. -/

namespace SlotMarkup

open SlotMarkup.Document (Value)
open SlotMarkup.Text (quoted)

/-- A place in the source of a tree. Both parts are whatever the tree says they are. -/
structure Place where
  line : Value
  column : Value

namespace Place

def unknown : Place := ⟨.null, .null⟩

def origin : Place := ⟨.int 0, .int 0⟩

def annotate (p : Place) (message : String) : String :=
  match p.line with
  | .null => message
  | line =>
    match p.column with
    | .null => message ++ " (line " ++ line.plain ++ ")"
    | column => message ++ " (line " ++ line.plain ++ ", column " ++ column.plain ++ ")"

end Place

inductive ClassificationFault where
  | root (type : String)
  | node (type : String)
  | attribute (type tag : String)
  | expression (type : String)
  | component (tag : String)
deriving DecidableEq, Repr

def ClassificationFault.message : ClassificationFault → String
  | .root type => "Cannot compile " ++ type ++ " as a template root"
  | .node type => "Unknown node type " ++ type ++ " in element tree"
  | .attribute type tag => "Unknown attribute type " ++ type ++ " on <" ++ tag ++ ">"
  | .expression type => "Expected expression source or ast.expr, got " ++ type
  | .component tag =>
    "Element name " ++ quoted tag ++ " cannot be used as a component reference"

inductive PartFault where
  | elementIndex (part : Nat) (index : Int)
  | secondaryIndex (part : Nat) (index : Int)
  | noSuchElement (part : Nat) (index count : Int)
  | noElement (part : Nat)
  | malformed (chunk codes : String)
  | code (text codes : String)
  | index (text codes : String)
deriving DecidableEq, Repr

def PartFault.message : PartFault → String
  | .elementIndex i n => "Part " ++ toString i ++ " has invalid element index " ++ toString n
  | .secondaryIndex i n => "Part " ++ toString i ++ " has invalid secondary index " ++ toString n
  | .noSuchElement i n count =>
    "Part " ++ toString i ++ " references element " ++ toString n ++ " but only " ++
      toString count ++ " literal elements were emitted"
  | .noElement i => "Attribute part " ++ toString i ++ " has no element index"
  | .malformed chunk codes => "Malformed part " ++ quoted chunk ++ " in part meta " ++ quoted codes
  | .code text codes => "Unknown part code " ++ quoted text ++ " in part meta " ++ quoted codes
  | .index text codes => "Invalid index " ++ quoted text ++ " in part meta " ++ quoted codes

inductive TreeFault where
  | nodeObject (type : String)
  | attributeObject (type : String)
  | missing (owner key : String)
  | fieldType (key expected type : String)
  | attributeValue (type : String)
  | slotValue (type : String)
  | nodeType (shown : String)
  | attributeType (shown : String)
  | document (path problem : String)
deriving DecidableEq, Repr

def TreeFault.message : TreeFault → String
  | .nodeObject type => "Node must be an object, got " ++ type
  | .attributeObject type => "Attribute must be an object, got " ++ type
  | .missing owner key => owner ++ " is missing '" ++ key ++ "'"
  | .fieldType key expected type =>
    "'" ++ key ++ "' must be " ++ expected ++ ", got " ++ type
  | .attributeValue type => "Static attribute value must be a string, got " ++ type
  | .slotValue type => "Expression must be a string, got " ++ type
  | .nodeType shown => "Unknown node type " ++ shown
  | .attributeType shown => "Unknown attribute type " ++ shown
  | .document path problem => "Invalid JSON in " ++ path ++ ": " ++ problem

inductive ValueFault where
  | numeral (s : String)
  | numeralTooLong (digits : Nat)
  | partKind (code : Int)
  | segmentCount (strings values : Nat)
  | nullCharacter
  | loneSurrogate
  | unprintable (problem : Host.PrintError)
deriving DecidableEq, Repr

def maxShownNumeral : Nat := 200

def ValueFault.message : ValueFault → String
  | .numeral s =>
    "invalid literal for int() with base 10: " ++
      String.ofList ((Text.quotedPoints (Text.points s)).take maxShownNumeral)
  | .numeralTooLong digits =>
    "Exceeds the limit (4300 digits) for integer string conversion: value has " ++
      toString digits ++ " digits; use sys.set_int_max_str_digits() to increase the limit"
  | .partKind code => toString code ++ " is not a valid PartKind"
  | .segmentCount strings values =>
    "Template has " ++ toString strings ++ " string segments for " ++ toString values ++ " values"
  | .nullCharacter => "source code string cannot contain null bytes"
  | .loneSurrogate => "half of a surrogate pair is no character"
  | .unprintable .backslashInFormat => "Unable to avoid backslash in f-string expression part"
  | .unprintable .integerTooLong =>
    "Exceeds the limit (4300 digits) for integer string conversion; " ++
      "use sys.set_int_max_str_digits() to increase the limit"

inductive Error where
  | classification (fault : ClassificationFault) (place : Place)
  | part (fault : PartFault)
  | depth (limit : Int) (place : Place)
  | tree (fault : TreeFault) (place : Place)
  | expression (source complaint : String) (place : Place)
  | value (fault : ValueFault)
  /-- A list or an object stands among siblings, where nodes are told apart by looking them up. -/
  | unindexable (type : String)
  | exhausted

namespace Error

def place : Error → Place
  | .classification _ p => p
  | .part _ => .unknown
  | .depth _ p => p
  | .tree _ p => p
  | .expression _ _ p => p
  | .value _ => .unknown
  | .unindexable _ => .unknown
  | .exhausted => .unknown

def summary : Error → String
  | .classification fault _ => fault.message
  | .part fault => fault.message
  | .depth limit _ => "Element tree is nested deeper than " ++ toString limit ++ " levels"
  | .tree fault _ => fault.message
  | .expression source complaint _ => "Invalid expression " ++ quoted source ++ ": " ++ complaint
  | .value fault => fault.message
  | .unindexable type => "unhashable type: '" ++ type ++ "'"
  | .exhausted => "maximum recursion depth exceeded"

def message (e : Error) : String := e.place.annotate e.summary

def isCompileError : Error → Bool
  | .value _ => false
  | .unindexable _ => false
  | .exhausted => false
  | _ => true

end Error

end SlotMarkup
