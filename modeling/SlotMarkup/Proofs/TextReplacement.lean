import SlotMarkup.Proofs.NormalForm

/-! Replacing texts of a tree by other texts, wherever they stand. Nothing but the texts themselves
changes: elements are classified as before, nothing new is asked of the tree, and what is left of it
without fragments and silent nodes is replaced in the same way. -/

namespace SlotMarkup

namespace Node

mutual
def substituteBelow (σ : Nat → Option (List Node)) : Node → Node
  | .element label tag attributes children place =>
    .element label tag attributes (substitute σ children) place
  | .text label value place => .text label value place
  | .slot label expr place => .slot label expr place
  | .fragment label children place => .fragment label (substitute σ children) place
  | .foreign label value => .foreign label value

/-- A list of nodes in which every node whose label the mapping knows is replaced, at any depth. -/
def substitute (σ : Nat → Option (List Node)) : List Node → List Node
  | [] => []
  | n :: ns => (σ n.label).getD [substituteBelow σ n] ++ substitute σ ns
end

def isShownText (n : Node) : Bool := n.isText && n.givesOutput

inductive Rewords (σ : Nat → Option (List Node)) : List Node → Prop
  | nil : Rewords σ []
  | replaced {label : Nat} {value : String} {place : Place} {ms ns : List Node}
      (known : σ label = some ms) (shown : isShownText (.text label value place) = true)
      (texts : ∀ m ∈ ms, isShownText m = true) (rest : Rewords σ ns) :
      Rewords σ (.text label value place :: ns)
  | leaf {n : Node} {ns : List Node} (unknown : σ n.label = none) (childless : n.isLeaf = true)
      (rest : Rewords σ ns) : Rewords σ (n :: ns)
  | element {label : Nat} {tag : String} {attributes : List Attribute} {children : List Node}
      {place : Place} {ns : List Node} (unknown : σ label = none) (below : Rewords σ children)
      (rest : Rewords σ ns) : Rewords σ (.element label tag attributes children place :: ns)
  | fragment {label : Nat} {children : List Node} {place : Place} {ns : List Node}
      (unknown : σ label = none) (below : Rewords σ children) (rest : Rewords σ ns) :
      Rewords σ (.fragment label children place :: ns)

section Substitute

variable {σ : Nat → Option (List Node)} {ns : List Node}

theorem substitute_append (as bs : List Node) :
    substitute σ (as ++ bs) = substitute σ as ++ substitute σ bs := by
  induction as with
  | nil => rfl
  | cons n ns ih => rw [List.cons_append, substitute, substitute, ih, List.append_assoc]

theorem substitute_cons_of_none {n : Node} (h : σ n.label = none) (ns : List Node) :
    substitute σ (n :: ns) = substituteBelow σ n :: substitute σ ns := by
  rw [substitute, h]
  rfl

theorem substitute_cons_of_some {n : Node} {ms : List Node} (h : σ n.label = some ms) (ns : List Node) :
    substitute σ (n :: ns) = ms ++ substitute σ ns := by
  rw [substitute, h]
  rfl

theorem substitute_leaf {n : Node} (h : σ n.label = none) (hleaf : n.isLeaf = true) (ns : List Node) :
    substitute σ (n :: ns) = n :: substitute σ ns := by
  have hsame : substituteBelow σ n = n := by
    cases n with
    | element label tag attributes children place => cases hleaf
    | fragment label children place => cases hleaf
    | _ => rfl
  rw [substitute_cons_of_none h, hsame]

theorem substitute_eq_self (h : ∀ l ∈ labels ns, σ l = none) : substitute σ ns = ns := by
  induction ns using branch_induction with
  | nil => rfl
  | leaf n ns hleaf hrest =>
    rw [labels, labelsAt_leaf hleaf] at h
    obtain ⟨hlabel, hns⟩ := List.forall_mem_cons.mp h
    rw [substitute_leaf hlabel hleaf, hrest hns]
  | element label tag attributes children place ns hbelow hrest =>
    obtain ⟨hhead, hns⟩ := List.forall_mem_append.mp h
    obtain ⟨hlabel, hchildren⟩ := List.forall_mem_cons.mp hhead
    rw [substitute_cons_of_none hlabel, substituteBelow, hbelow hchildren, hrest hns]
  | fragment label children place ns hbelow hrest =>
    obtain ⟨hhead, hns⟩ := List.forall_mem_append.mp h
    obtain ⟨hlabel, hchildren⟩ := List.forall_mem_cons.mp hhead
    rw [substitute_cons_of_none hlabel, substituteBelow, hbelow hchildren, hrest hns]

theorem isShownText_iff {n : Node} :
    isShownText n = true ↔ ∃ label value place, n = .text label value place ∧ Text.collapse value ≠ "" := by
  have hempty : ∀ value : String, Text.collapse value = "" ↔ Text.collapseChars value.toList = [] := by
    intro value
    simp [Text.collapse]
  cases n with
  | text label value place => simp [isShownText, isText, givesOutput, hempty]
  | _ => simp [isShownText, isText]

theorem rewords_of_contents
    (h : ∀ n ∈ contents ns, ∀ ms, σ n.label = some ms →
      isShownText n = true ∧ ∀ m ∈ ms, isShownText m = true) : Rewords σ ns := by
  induction ns using branch_induction with
  | nil => exact .nil
  | leaf n ns hleaf hrest =>
    rw [contents, contentsAt_leaf hleaf] at h
    obtain ⟨hself, hns⟩ := List.forall_mem_cons.mp h
    cases hlabel : σ n.label with
    | none => exact .leaf hlabel hleaf (hrest hns)
    | some ms =>
      obtain ⟨hshown, htexts⟩ := hself ms hlabel
      obtain ⟨label, value, place, rfl, -⟩ := isShownText_iff.mp hshown
      exact .replaced hlabel hshown htexts (hrest hns)
  | element label tag attributes children place ns hbelow hrest =>
    obtain ⟨hhead, hns⟩ := List.forall_mem_append.mp h
    obtain ⟨hself, hchildren⟩ := List.forall_mem_cons.mp hhead
    cases hlabel : σ label with
    | none => exact .element hlabel (hbelow hchildren) (hrest hns)
    | some ms => exact absurd (hself ms hlabel).1 Bool.false_ne_true
  | fragment label children place ns hbelow hrest =>
    obtain ⟨hhead, hns⟩ := List.forall_mem_append.mp h
    obtain ⟨hself, hchildren⟩ := List.forall_mem_cons.mp hhead
    cases hlabel : σ label with
    | none => exact .fragment hlabel (hbelow hchildren) (hrest hns)
    | some ms => exact absurd (hself ms hlabel).1 Bool.false_ne_true

section Texts

variable {ms : List Node} (h : ∀ m ∈ ms, isShownText m = true)

include h

theorem live_of_texts : live ms = false := by
  induction ms with
  | nil => rfl
  | cons m ms ih =>
    obtain ⟨hm, hms⟩ := List.forall_mem_cons.mp h
    obtain ⟨label, value, place, rfl, -⟩ := isShownText_iff.mp hm
    exact ih hms

theorem normal_of_texts : normal ms = ms := by
  induction ms with
  | nil => rfl
  | cons m ms ih =>
    obtain ⟨hm, hms⟩ := List.forall_mem_cons.mp h
    obtain ⟨label, value, place, rfl, hshown⟩ := isShownText_iff.mp hm
    rw [normal, normalAt, if_neg (by simpa using hshown), ih hms]
    rfl

theorem demands_of_texts (level : Int) : demands level ms = [] := by
  induction ms with
  | nil => rfl
  | cons m ms ih =>
    obtain ⟨hm, hms⟩ := List.forall_mem_cons.mp h
    obtain ⟨label, value, place, rfl, -⟩ := isShownText_iff.mp hm
    exact ih hms

end Texts

theorem normal_append (as bs : List Node) : normal (as ++ bs) = normal as ++ normal bs := by
  induction as with
  | nil => rfl
  | cons n ns ih => rw [List.cons_append, normal, normal, ih, List.append_assoc]

theorem normalAt_leaf {n : Node} (h : n.isLeaf = true) : normalAt n = [] ∨ normalAt n = [n] := by
  cases n with
  | element label tag attributes children place => cases h
  | text label value place =>
    rw [normalAt]
    exact ite_eq_or_eq _ _ _
  | slot label expr place =>
    rw [normalAt]
    exact ite_eq_or_eq _ _ _
  | fragment label children place => cases h
  | foreign label value => exact .inr rfl

theorem Rewords.live_substitute (h : Rewords σ ns) : live (substitute σ ns) = live ns := by
  induction h with
  | nil => rfl
  | replaced known shown texts rest ih =>
    rw [substitute_cons_of_some known, live_append, live_of_texts texts, ih]
    rfl
  | leaf unknown childless rest ih => rw [substitute_leaf unknown childless, live, ih, live]
  | element unknown below rest hbelow hrest =>
    rw [substitute_cons_of_none unknown, substituteBelow, live, hrest, liveAt, hbelow]
    rfl
  | fragment unknown below rest hbelow hrest =>
    rw [substitute_cons_of_none unknown, substituteBelow, live, hrest, liveAt, hbelow]
    rfl

theorem Rewords.classifyElement_substitute (h : Rewords σ ns) (tag : String) (attributes : List Attribute) :
    classifyElement tag attributes (substitute σ ns) = classifyElement tag attributes ns := by
  simp only [classifyElement, hasLivePart_eq, h.live_substitute]

theorem Rewords.normal_substitute (h : Rewords σ ns) :
    normal (substitute σ ns) = substitute σ (normal ns) := by
  induction h with
  | nil => rfl
  | @replaced label value place ms ns known shown texts rest ih =>
    have hself : normal [.text label value place] = [.text label value place] :=
      normal_of_texts (List.forall_mem_singleton.mpr shown)
    rw [substitute_cons_of_some known, normal_append, normal_of_texts texts, ih,
      ← List.singleton_append, normal_append, hself, List.singleton_append, substitute_cons_of_some known]
  | @leaf n ns unknown childless rest ih =>
    have hhead : substitute σ (normalAt n) = normalAt n := by
      rcases normalAt_leaf childless with hnil | hself
      · rw [hnil]
        rfl
      · rw [hself, substitute_leaf unknown childless]
        rfl
    rw [substitute_leaf unknown childless, normal, ih, normal, substitute_append, hhead]
  | element unknown below rest hbelow hrest =>
    rw [substitute_cons_of_none unknown, substituteBelow, normal, normalAt, hbelow, hrest, normal, normalAt,
      List.singleton_append, List.singleton_append, substitute_cons_of_none unknown, substituteBelow]
  | fragment unknown below rest hbelow hrest =>
    rw [substitute_cons_of_none unknown, substituteBelow, normal, normalAt, hbelow, hrest, normal, normalAt,
      substitute_append]

theorem Rewords.outputs_eq_nil (h : Rewords σ ns) (hnone : outputs ns = []) :
    outputs (substitute σ ns) = [] := by
  have hnormal : normal (substitute σ ns) = [] := by
    rw [h.normal_substitute, normal_eq_map, hnone]
    rfl
  rw [normal_eq_map] at hnormal
  exact List.map_eq_nil_iff.mp hnormal

end Substitute

end Node

namespace LevelsFit

variable {config : Config}

theorem append {ds ds' : List Demand} (h : LevelsFit config ds) (h' : LevelsFit config ds') :
    LevelsFit config (ds ++ ds') := List.forall_mem_append.mpr ⟨h, h'⟩

theorem level {ds : List Demand} {n : Int} {place : Place} (h : LevelsFit config ds)
    (hn : n ≤ config.maxDepth) : LevelsFit config (.level n place :: ds) :=
  List.forall_mem_cons.mpr ⟨decide_eq_true hn, h⟩

theorem level_le {ds : List Demand} {n : Int} {place : Place} (h : LevelsFit config (.level n place :: ds)) :
    n ≤ config.maxDepth := of_decide_eq_true (List.forall_mem_cons.mp h).1

theorem nil : LevelsFit config [] := List.forall_mem_nil _

end LevelsFit

/-- Wherever the levels of the first list are allowed, those of the second are, also further up. -/
def NoDeeper (config : Config) (ns ns' : List Node) : Prop :=
  ∀ level level' : Int, level' ≤ level → LevelsFit config (Node.demands level ns) →
    LevelsFit config (Node.demands level' ns')

namespace NoDeeper

variable {config : Config} {as as' bs bs' children children' : List Node} {label : Nat} {place : Place}

theorem nil (ns : List Node) : NoDeeper config ns [] := fun _ _ _ _ => .nil

theorem append (has : NoDeeper config as as') (hbs : NoDeeper config bs bs') :
    NoDeeper config (as ++ bs) (as' ++ bs') := by
  intro level level' hle h
  rw [Node.demands_append] at h ⊢
  exact (has level level' hle h.left).append (hbs level level' hle h.right)

theorem leaf {n : Node} (hleaf : n.isLeaf = true) : NoDeeper config [n] [n] := by
  intro level level' hle h
  cases n with
  | element label tag attributes children place => cases hleaf
  | fragment label children place => cases hleaf
  | _ => exact h

theorem texts {ms : List Node} (hms : ∀ m ∈ ms, Node.isShownText m = true) (ns : List Node) :
    NoDeeper config ns ms := by
  intro level level' hle h
  rw [Node.demands_of_texts hms]
  exact .nil

theorem element {tag : String} {attributes : List Attribute}
    (hkind : Node.classifyElement tag attributes children' = Node.classifyElement tag attributes children)
    (hnone : Node.outputs children = [] → Node.outputs children' = [])
    (hbelow : NoDeeper config children children') :
    NoDeeper config [.element label tag attributes children place]
      [.element label tag attributes children' place] := by
  intro level level' hle h
  rw [Node.demands, Node.demands, List.append_nil, Node.demandsAt] at h ⊢
  have hlevel := h.level_le
  refine LevelsFit.level ?_ (by omega)
  have hinner := h.tail
  rw [hkind]
  cases hclass : Node.classifyElement tag attributes children with
  | literal =>
    rw [hclass] at hinner
    exact hinner.left.append (hbelow _ _ (by omega) hinner.right)
  | dynamic =>
    rw [hclass] at hinner
    refine hinner.left.append (hinner.right.left.append ?_)
    split
    · exact .nil
    next hshown' =>
      -- the level of the children is entered only where some are shown, so it was entered before too
      have hshown : ¬ (Node.outputs children).isEmpty = true := fun hempty =>
        hshown' (List.isEmpty_iff.mpr (hnone (List.isEmpty_iff.mp hempty)))
      have hchildren := hinner.right.right
      rw [if_neg hshown] at hchildren
      have hfirst := hchildren.level_le
      exact LevelsFit.level (hbelow _ _ (by omega) hchildren.tail) (by omega)

theorem fragment (hbelow : NoDeeper config children children') :
    NoDeeper config [.fragment label children place] [.fragment label children' place] := by
  intro level level' hle h
  rw [Node.demands, Node.demands, List.append_nil, Node.demandsAt] at h ⊢
  have hlevel := h.level_le
  exact LevelsFit.level (hbelow _ _ (by omega) h.tail) (by omega)

theorem unwrap (hbelow : NoDeeper config children children') :
    NoDeeper config [.fragment label children place] children' := by
  intro level level' hle h
  rw [Node.demands, Node.demands, List.append_nil, Node.demandsAt] at h
  exact hbelow _ _ (by omega) h.tail

end NoDeeper

theorem Node.Rewords.noDeeper {σ : Nat → Option (List Node)} {ns : List Node} (h : Rewords σ ns)
    (config : Config) : NoDeeper config ns (substitute σ ns) := by
  induction h with
  | nil => exact .nil []
  | @replaced label value place ms ns known shown texts rest ih =>
    rw [substitute_cons_of_some known]
    exact (NoDeeper.texts texts [_]).append ih
  | @leaf n ns unknown childless rest ih =>
    rw [substitute_leaf unknown childless]
    exact (NoDeeper.leaf childless).append ih
  | element unknown below rest hbelow hrest =>
    rw [substitute_cons_of_none unknown, substituteBelow]
    exact (NoDeeper.element (below.classifyElement_substitute _ _) below.outputs_eq_nil hbelow).append hrest
  | fragment unknown below rest hbelow hrest =>
    rw [substitute_cons_of_none unknown, substituteBelow]
    exact (NoDeeper.fragment hbelow).append hrest

theorem Node.noDeeper_normal (config : Config) (ns : List Node) : NoDeeper config ns (normal ns) := by
  induction ns using branch_induction with
  | nil => exact .nil []
  | leaf n ns hleaf hrest =>
    have hhead : NoDeeper config [n] (normalAt n) := by
      rcases normalAt_leaf hleaf with hnil | hself
      · rw [hnil]
        exact .nil [n]
      · rw [hself]
        exact .leaf hleaf
    exact hhead.append hrest
  | element label tag attributes children place ns hbelow hrest =>
    refine (NoDeeper.element (classifyElement_normal tag attributes children) ?_ hbelow).append hrest
    intro hnone
    rw [outputs_normal, normal_eq_map, hnone]
    rfl
  | fragment label children place ns hbelow hrest => exact (NoDeeper.unwrap hbelow).append hrest

end SlotMarkup
