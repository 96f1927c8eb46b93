import SlotMarkup.Tree.Classify

/-! Where dynamic nodes stand among the children of the markup of their container. Neighbouring texts
are one child. A dynamic node is none if it opens a run, and one more child if it goes on with it. -/

namespace SlotMarkup

open SlotMarkup.Document (Value)

inductive ChildKind where
  | text
  | markup
  | dynamic
deriving DecidableEq, Repr

def Node.childKind (n : Node) : ChildKind :=
  if n.isText then .text else if n.isStatic then .markup else .dynamic

/-- The place of a node among its siblings: the child before it, counted from zero, with `-1` for
none, and whether the sibling right before it is dynamic. -/
structure Position where
  previous : Int
  afterDynamic : Bool
deriving DecidableEq, Repr

def Position.first : Position := ⟨-1, false⟩

/-- The place of one labelled node; `wrapped` says that it opens a run of dynamic nodes between two
texts. -/
structure Row where
  label : Nat
  position : Position
  wrapped : Bool
deriving DecidableEq, Repr

namespace Layout

def opensChild (before : Option ChildKind) (k : ChildKind) : Bool :=
  !(before = some .text && k = .text) && (k ≠ .dynamic || before = some .dynamic)

def positions (count : Int) (before : Option ChildKind) : List ChildKind → List (Position × Bool)
  | [] => []
  | k :: ks =>
    let count := if opensChild before k then count + 1 else count
    (⟨count, before = some .dynamic⟩, before = some .text) :: positions count (some k) ks

def textAfter : List ChildKind → List Bool × Bool
  | [] => ([], false)
  | k :: ks =>
    let (flags, following) := textAfter ks
    (following :: flags, match k with
      | .text => true
      | .markup => false
      | .dynamic => following)

def tabulate (children : List Node) : List Row :=
  let kinds := children.map Node.childKind
  (children.zip ((positions (-1) none kinds).zip (textAfter kinds).1)).map
    fun (n, (position, textBefore), after) => ⟨n.label, position, textBefore && after⟩

def unindexable? : Node → Option String
  | .foreign _ (.array items) => some (Value.array items).typeName
  | .foreign _ (.object fields) => some (Value.object fields).typeName
  | _ => none

end Layout

/-- The rows of one container. A node that stands there more than once counts at its last place. -/
structure Layout where
  rows : List Row
deriving DecidableEq, Repr

namespace Layout

def empty : Layout := ⟨[]⟩

def ofChildren (children : List Node) : Except Error Layout :=
  let shown := Node.outputs children
  match shown.findSome? unindexable? with
  | some type => .error (.unindexable type)
  | none => .ok ⟨tabulate shown⟩

def row? (l : Layout) (label : Nat) : Option Row := l.rows.reverse.find? fun r => r.label == label

def position (l : Layout) (label : Nat) : Position :=
  ((l.row? label).map Row.position).getD .first

def isWrapped (l : Layout) (label : Nat) : Bool := ((l.row? label).map Row.wrapped).getD false

end Layout

/-- The nearest ancestor that is no fragment, else the outermost one. Ancestors come outermost
first. -/
def nearestContainer (ancestors : List Node) : Option Node :=
  match ancestors.reverse.find? fun n => !n.isFragment with
  | some n => some n
  | none => ancestors.head?

end SlotMarkup
