import Mathlib.Data.List.Nodup
import SlotMarkup.Tree.Classify

/-! Lists of nodes taken as a whole: induction over everything below them, the nodes that are
shown, the literal elements in document order, and the labels that tell nodes apart. -/

namespace SlotMarkup

def Root.nodes : Root → List Node
  | .single n _ => [n]
  | .list ns => ns

namespace Node

def isForeign : Node → Bool
  | .foreign _ _ => true
  | _ => false

/-- Induction over a list of nodes, with the children of its first node as a second list. -/
@[elab_as_elim]
theorem forest_induction {motive : List Node → Prop} (nil : motive [])
    (element : ∀ label tag attributes children place ns, motive children → motive ns →
      motive (.element label tag attributes children place :: ns))
    (text : ∀ label value place ns, motive ns → motive (.text label value place :: ns))
    (slot : ∀ label expr place ns, motive ns → motive (.slot label expr place :: ns))
    (fragment : ∀ label children place ns, motive children → motive ns →
      motive (.fragment label children place :: ns))
    (foreign : ∀ label value ns, motive ns → motive (.foreign label value :: ns))
    (ns : List Node) : motive ns :=
  @Node.rec_1 (fun n => ∀ ns, motive ns → motive (n :: ns)) motive
    (fun label tag attributes children place hc ns => element label tag attributes children place ns hc)
    (fun label value place ns => text label value place ns)
    (fun label expr place ns => slot label expr place ns)
    (fun label children place hc ns => fragment label children place ns hc)
    (fun label value ns => foreign label value ns)
    nil (fun _ ns hn hns => hn ns hns) ns

def isLeaf : Node → Bool
  | .element _ _ _ _ _ => false
  | .fragment _ _ _ => false
  | _ => true

/-- Induction over a list of nodes, with one case for all nodes that have nothing below them. -/
@[elab_as_elim]
theorem branch_induction {motive : List Node → Prop} (nil : motive [])
    (leaf : ∀ n ns, n.isLeaf = true → motive ns → motive (n :: ns))
    (element : ∀ label tag attributes children place ns, motive children → motive ns →
      motive (.element label tag attributes children place :: ns))
    (fragment : ∀ label children place ns, motive children → motive ns →
      motive (.fragment label children place :: ns)) (ns : List Node) : motive ns := by
  induction ns using forest_induction with
  | nil => exact nil
  | element label tag attributes children place ns hbelow hrest =>
    exact element label tag attributes children place ns hbelow hrest
  | text label value place ns hrest => exact leaf _ ns rfl hrest
  | slot label expr place ns hrest => exact leaf _ ns rfl hrest
  | fragment label children place ns hbelow hrest => exact fragment label children place ns hbelow hrest
  | foreign label value ns hrest => exact leaf _ ns rfl hrest

@[simp] theorem outputs_nil : outputs [] = [] := rfl

theorem outputs_cons (n : Node) (ns : List Node) : outputs (n :: ns) = outputs [n] ++ outputs ns := by
  simp only [outputs, inlined, List.append_nil, List.filter_append]

theorem outputs_append (as bs : List Node) : outputs (as ++ bs) = outputs as ++ outputs bs := by
  induction as with
  | nil => rfl
  | cons n ns ih => rw [List.cons_append, outputs_cons, ih, outputs_cons n ns, List.append_assoc]

@[simp] theorem outputs_fragment (label : Nat) (children : List Node) (place : Place) :
    outputs [.fragment label children place] = outputs children := by
  simp only [outputs, inlined, unwrapped, List.append_nil]

@[simp] theorem outputs_element (label : Nat) (tag : String) (attributes : List Attribute)
    (children : List Node) (place : Place) :
    outputs [.element label tag attributes children place] =
      [.element label tag attributes children place] := rfl

theorem outputs_text (label : Nat) (value : String) (place : Place) :
    outputs [.text label value place] =
      if (Text.collapse value).isEmpty then [] else [.text label value place] := by
  have hempty : (Text.collapse value).isEmpty = (Text.collapseChars value.toList).isEmpty := by
    rw [Bool.eq_iff_iff]
    simp [Text.collapse]
  rw [hempty]
  cases h : (Text.collapseChars value.toList).isEmpty <;>
    simp [outputs, inlined, unwrapped, givesOutput, h]

theorem outputs_slot {expr : Embedded} (h : expr.isEmpty = false) (label : Nat) (place : Place) :
    outputs [.slot label expr place] = [.slot label expr place] := by
  simp [outputs, inlined, unwrapped, givesOutput, h]

theorem outputs_emptySlot {expr : Embedded} (h : expr.isEmpty = true) (label : Nat) (place : Place) :
    outputs [.slot label expr place] = [] := by
  simp [outputs, inlined, unwrapped, givesOutput, h]

theorem isFragment_of_mem_inlined {n : Node} {ns : List Node} (h : n ∈ inlined ns) :
    n.isFragment = false := by
  induction ns using forest_induction with
  | nil => cases h
  | element label tag attributes children place ns _ ih =>
    rcases List.mem_cons.mp h with rfl | h
    · rfl
    · exact ih h
  | text label value place ns ih =>
    rcases List.mem_cons.mp h with rfl | h
    · rfl
    · exact ih h
  | slot label expr place ns ih =>
    rcases List.mem_cons.mp h with rfl | h
    · rfl
    · exact ih h
  | fragment label children place ns hbelow ih =>
    rcases List.mem_append.mp h with h | h
    · exact hbelow h
    · exact ih h
  | foreign label value ns ih =>
    rcases List.mem_cons.mp h with rfl | h
    · rfl
    · exact ih h

mutual
def literalsAt : Node → List Node
  | .element label tag attributes children place =>
    match classifyElement tag attributes children with
    | .dynamic => []
    | .literal => .element label tag attributes children place :: literals children
  | .fragment _ children _ => literals children
  | _ => []

def literals : List Node → List Node
  | [] => []
  | n :: ns => literalsAt n ++ literals ns
end

mutual
/-- The children of each dynamic element at or below a node, at any depth. Each such list is a tree
with a template of its own. -/
def nestedAt : Node → List (List Node)
  | .element _ tag attributes children _ =>
    (if classifyElement tag attributes children = .dynamic then [children] else []) ++ nested children
  | .fragment _ children _ => nested children
  | _ => []

def nested : List Node → List (List Node)
  | [] => []
  | n :: ns => nestedAt n ++ nested ns
end

mutual
def labelsAt : Node → List Nat
  | .element label _ _ children _ => label :: labels children
  | .fragment label children _ => label :: labels children
  | n => [n.label]

def labels : List Node → List Nat
  | [] => []
  | n :: ns => labelsAt n ++ labels ns
end

mutual
def weightAt : Node → Nat
  | .element _ _ attributes children _ => attributes.length + weight children + 1
  | .fragment _ children _ => weight children + 1
  | _ => 1

def weight : List Node → Nat
  | [] => 0
  | n :: ns => weightAt n + weight ns
end

mutual
def contentsAt : Node → List Node
  | .element label tag attributes children place =>
    .element label tag attributes children place :: contents children
  | .fragment label children place => .fragment label children place :: contents children
  | n => [n]

def contents : List Node → List Node
  | [] => []
  | n :: ns => contentsAt n ++ contents ns
end

theorem labelsAt_leaf {n : Node} (h : n.isLeaf = true) : labelsAt n = [n.label] := by
  cases n with
  | element label tag attributes children place => cases h
  | fragment label children place => cases h
  | _ => rfl

theorem contentsAt_leaf {n : Node} (h : n.isLeaf = true) : contentsAt n = [n] := by
  cases n with
  | element label tag attributes children place => cases h
  | fragment label children place => cases h
  | _ => rfl

theorem literalsAt_dynamic {label : Nat} {tag : String} {attributes : List Attribute}
    {children : List Node} {place : Place} (h : classifyElement tag attributes children = .dynamic) :
    literalsAt (.element label tag attributes children place) = [] := by
  simp only [literalsAt, h]

theorem literalsAt_literal {label : Nat} {tag : String} {attributes : List Attribute}
    {children : List Node} {place : Place} (h : classifyElement tag attributes children = .literal) :
    literalsAt (.element label tag attributes children place) =
      .element label tag attributes children place :: literals children := by
  simp only [literalsAt, h]

theorem add_length_literalsAt {label count : Nat} {tag : String} {attributes : List Attribute}
    {children : List Node} {place : Place} (h : classifyElement tag attributes children = .literal) :
    count + (literalsAt (.element label tag attributes children place)).length =
      count + 1 + (literals children).length := by
  rw [literalsAt_literal h, List.length_cons, Nat.add_assoc, Nat.add_comm 1]

theorem literals_length_le (ns : List Node) : (literals ns).length ≤ weight ns := by
  induction ns using forest_induction with
  | nil => exact Nat.le_refl _
  | element label tag attributes children place ns hc ih =>
    rw [literals, weight, weightAt, List.length_append]
    cases h : classifyElement tag attributes children with
    | dynamic => rw [literalsAt_dynamic h, List.length_nil]; omega
    | literal => rw [literalsAt_literal h, List.length_cons]; omega
  | text label value place ns ih => exact Nat.le_trans ih (Nat.le_add_left _ _)
  | slot label expr place ns ih => exact Nat.le_trans ih (Nat.le_add_left _ _)
  | fragment label children place ns hc ih =>
    rw [literals, weight, weightAt, literalsAt, List.length_append]
    omega
  | foreign label value ns ih => exact Nat.le_trans ih (Nat.le_add_left _ _)

theorem outputs_labels_sublist (ns : List Node) :
    ((outputs ns).map Node.label).Sublist (labels ns) := by
  induction ns using forest_induction with
  | nil => exact List.Sublist.refl _
  | element label tag attributes children place ns _ ih =>
    rw [outputs_cons, List.map_append]
    exact ((List.nil_sublist _).cons_cons _).append ih
  | text label value place ns ih =>
    rw [outputs_cons, List.map_append]
    exact (List.filter_sublist.map _).append ih
  | slot label expr place ns ih =>
    rw [outputs_cons, List.map_append]
    exact (List.filter_sublist.map _).append ih
  | fragment label children place ns hc ih =>
    rw [outputs_cons, List.map_append, outputs_fragment]
    exact (hc.cons _).append ih
  | foreign label value ns ih =>
    rw [outputs_cons, List.map_append]
    exact (List.filter_sublist.map _).append ih

theorem outputs_labels_nodup {ns : List Node} (h : (labels ns).Nodup) :
    ((outputs ns).map Node.label).Nodup := h.sublist (outputs_labels_sublist ns)

theorem outputs_sublist_contents (ns : List Node) : (outputs ns).Sublist (contents ns) := by
  induction ns using forest_induction with
  | nil => exact List.Sublist.refl _
  | element label tag attributes children place ns _ ih =>
    rw [outputs_cons]
    exact ((List.nil_sublist _).cons_cons _).append ih
  | text label value place ns ih =>
    rw [outputs_cons]
    exact List.filter_sublist.append ih
  | slot label expr place ns ih =>
    rw [outputs_cons]
    exact List.filter_sublist.append ih
  | fragment label children place ns hbelow ih =>
    rw [outputs_cons, outputs_fragment]
    exact (hbelow.cons _).append ih
  | foreign label value ns ih =>
    rw [outputs_cons]
    exact List.filter_sublist.append ih

theorem outputs_length_le (ns : List Node) : (outputs ns).length ≤ weight ns := by
  induction ns using forest_induction with
  | nil => exact Nat.le_refl _
  | element label tag attributes children place ns _ ih =>
    rw [outputs_cons, List.length_append]
    exact Nat.add_le_add (Nat.le_add_left _ _) ih
  | text label value place ns ih =>
    rw [outputs_cons, List.length_append]
    exact Nat.add_le_add List.filter_sublist.length_le ih
  | slot label expr place ns ih =>
    rw [outputs_cons, List.length_append]
    exact Nat.add_le_add List.filter_sublist.length_le ih
  | fragment label children place ns hc ih =>
    rw [outputs_cons, List.length_append, outputs_fragment]
    exact Nat.add_le_add (Nat.le_succ_of_le hc) ih
  | foreign label value ns ih =>
    rw [outputs_cons, List.length_append]
    exact Nat.add_le_add List.filter_sublist.length_le ih

theorem nested_labels_sublist {tree ns : List Node} (h : tree ∈ nested ns) :
    (labels tree).Sublist (labels ns) := by
  induction ns using forest_induction with
  | nil => cases h
  | element label tag attributes children place ns hbelow ih =>
    rcases List.mem_append.mp h with h | h
    · refine List.Sublist.trans ?_ (List.sublist_append_left _ _)
      refine List.Sublist.cons _ ?_
      rcases List.mem_append.mp h with h | h
      · split at h
        · rw [List.mem_singleton.mp h]
        · cases h
      · exact hbelow h
    · exact (ih h).trans (List.sublist_append_right _ _)
  | text label value place ns ih => exact (ih h).trans (List.sublist_append_right _ _)
  | slot label expr place ns ih => exact (ih h).trans (List.sublist_append_right _ _)
  | fragment label children place ns hbelow ih =>
    rcases List.mem_append.mp h with h | h
    · exact ((hbelow h).cons _).trans (List.sublist_append_left _ _)
    · exact (ih h).trans (List.sublist_append_right _ _)
  | foreign label value ns ih => exact (ih h).trans (List.sublist_append_right _ _)

theorem nested_eq_nil {ns : List Node} (h : outputs ns = []) : nested ns = [] := by
  induction ns using forest_induction with
  | nil => rfl
  | element label tag attributes children place ns _ ih =>
    rw [outputs_cons, outputs_element] at h
    cases h
  | text label value place ns ih =>
    rw [outputs_cons] at h
    exact ih (List.append_eq_nil_iff.mp h).2
  | slot label expr place ns ih =>
    rw [outputs_cons] at h
    exact ih (List.append_eq_nil_iff.mp h).2
  | fragment label children place ns hbelow ih =>
    rw [outputs_cons, outputs_fragment] at h
    obtain ⟨hchildren, hns⟩ := List.append_eq_nil_iff.mp h
    rw [nested, nestedAt, hbelow hchildren, ih hns]
    rfl
  | foreign label value ns ih =>
    rw [outputs_cons] at h
    cases h

end Node

theorem Node.isList_of_known {n : Node} (h : n.isForeign = false) : n.isList = false := by
  cases n with
  | foreign label value => cases h
  | _ => rfl

theorem Root.node_of_known {n : Node} (h : n.isForeign = false) :
    Root.node n = .single n (Node.isList_of_known h) :=
  dif_pos _

theorem Root.nodes_of_known {n : Node} (h : n.isForeign = false) : (Root.node n).nodes = [n] := by
  rw [node_of_known h, nodes]

def Root.isForeign : Root → Bool
  | .single n _ => n.isForeign
  | .list _ => false

def Root.Distinct (root : Root) : Prop := (Node.labels root.nodes).Nodup

instance (root : Root) : Decidable root.Distinct := inferInstanceAs (Decidable (List.Nodup _))

end SlotMarkup
