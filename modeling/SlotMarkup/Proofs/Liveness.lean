import SlotMarkup.Proofs.Forest

/-! The search for something dynamic below a picture, with the tree's own recursion in place of a
list of nodes that are still to be visited. -/

namespace SlotMarkup.Node

mutual
def liveAt : Node → Bool
  | .element _ tag attributes children _ =>
    !isMarkupTag tag || (attributes.any Attribute.isLive || live children)
  | .text _ _ _ => false
  | .slot _ expr _ => !expr.isEmpty
  | .fragment _ children _ => live children
  | .foreign _ _ => false

def live : List Node → Bool
  | [] => false
  | n :: ns => liveAt n || live ns
end

def isLiveHere : Node → Bool
  | .element _ tag attributes _ _ => !isMarkupTag tag || attributes.any Attribute.isLive
  | .slot _ expr _ => !expr.isEmpty
  | _ => false

theorem liveAt_eq (n : Node) : liveAt n = (n.isLiveHere || live n.children) := by
  cases n with
  | element label tag attributes children place => exact (Bool.or_assoc ..).symm
  | text label value place => rfl
  | slot label expr place => exact (Bool.or_false _).symm
  | fragment label children place => rfl
  | foreign label value => rfl

theorem live_append (as bs : List Node) : live (as ++ bs) = (live as || live bs) := by
  induction as with
  | nil => rfl
  | cons n ns ih => rw [List.cons_append, live, live, ih, Bool.or_assoc]

theorem sizes_append (as bs : List Node) : sizes (as ++ bs) = sizes as + sizes bs := by
  induction as with
  | nil => exact (Nat.zero_add _).symm
  | cons n ns ih => rw [List.cons_append, sizes, sizes, ih, Nat.add_assoc]

theorem size_eq (n : Node) : n.size = sizes n.children + 1 := by
  cases n <;> rfl

theorem sizes_cons (n : Node) (ns : List Node) :
    sizes (n :: ns) = sizes (n.children ++ ns) + 1 := by
  rw [sizes, size_eq, sizes_append]
  omega

theorem scanLive_cons (fuel : Nat) (n : Node) (rest : List Node) :
    scanLive (fuel + 1) (n :: rest) = (n.isLiveHere || scanLive fuel (n.children ++ rest)) := by
  cases n with
  | element label tag attributes children place =>
    rw [scanLive, isLiveHere, Node.children]
    cases isMarkupTag tag <;> cases attributes.any Attribute.isLive <;> rfl
  | text label value place => rfl
  | slot label expr place =>
    rw [scanLive, isLiveHere]
    cases expr.isEmpty <;> rfl
  | fragment label children place => rfl
  | foreign label value => rfl

/-- The search visits every node, if it is allowed that many steps. -/
theorem scanLive_eq_live {fuel : Nat} {ns : List Node} (h : sizes ns ≤ fuel) :
    scanLive fuel ns = live ns := by
  -- On the fuel and not along the tree: a visit puts the children before the nodes that wait, and
  -- only the number of all of them together goes down.
  induction fuel generalizing ns with
  | zero =>
    cases ns with
    | nil => rfl
    | cons n ns =>
      rw [sizes_cons] at h
      omega
  | succ fuel ih =>
    cases ns with
    | nil => rfl
    | cons n ns =>
      rw [sizes_cons] at h
      have hleft : sizes (n.children ++ ns) ≤ fuel := Nat.le_of_succ_le_succ h
      rw [scanLive_cons, ih hleft, live_append, live, liveAt_eq, Bool.or_assoc]

theorem hasLivePart_eq (attributes : List Attribute) (children : List Node) :
    hasLivePart attributes children = (attributes.any Attribute.isLive || live children) := by
  rw [hasLivePart, scanLive_eq_live (Nat.le_succ _)]

end SlotMarkup.Node
