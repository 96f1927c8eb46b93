import SlotMarkup.Proofs.Demands
import SlotMarkup.Proofs.Liveness

/-! Fragments and nodes that show nothing leave no trace. A tree and the tree without them have the
same template, or fail with the same error, where neither is too deep. -/

namespace SlotMarkup

namespace Node

mutual
/-- What is left of a node: fragments are replaced by their children, and texts and slots that show
nothing are dropped, at every depth. -/
def normalAt : Node → List Node
  | .element label tag attributes children place =>
    [.element label tag attributes (normal children) place]
  | .text label value place =>
    if (Text.collapse value).isEmpty then [] else [.text label value place]
  | .slot label expr place => if expr.isEmpty then [] else [.slot label expr place]
  | .fragment _ children _ => normal children
  | .foreign label value => [.foreign label value]

def normal : List Node → List Node
  | [] => []
  | n :: ns => normalAt n ++ normal ns
end

def trimmed : Node → Node
  | .element label tag attributes children place =>
    .element label tag attributes (normal children) place
  | n => n

theorem normal_eq_map (ns : List Node) : normal ns = (outputs ns).map trimmed := by
  induction ns using forest_induction with
  | nil => rfl
  | element label tag attributes children place ns _ ih =>
    rw [outputs_cons, List.map_append, ← ih]
    rfl
  | text label value place ns ih =>
    rw [outputs_cons, List.map_append, ← ih, outputs_text, normal, normalAt]
    split <;> rfl
  | slot label expr place ns ih =>
    rw [outputs_cons, List.map_append, ← ih, normal, normalAt]
    cases h : expr.isEmpty with
    | true => rw [outputs_emptySlot h]; rfl
    | false => rw [outputs_slot h]; rfl
  | fragment label children place ns hbelow ih =>
    rw [outputs_cons, List.map_append, ← ih, outputs_fragment, ← hbelow]
    rfl
  | foreign label value ns ih =>
    rw [outputs_cons, List.map_append, ← ih]
    rfl

theorem outputs_normal (ns : List Node) : outputs (normal ns) = normal ns := by
  induction ns using forest_induction with
  | nil => rfl
  | element label tag attributes children place ns _ ih => rw [normal, outputs_append, ih]; rfl
  | text label value place ns ih =>
    rw [normal, outputs_append, ih, normalAt]
    split
    · rfl
    next h => rw [outputs_text, if_neg h]
  | slot label expr place ns ih =>
    rw [normal, outputs_append, ih, normalAt]
    cases h : expr.isEmpty with
    | true => rfl
    | false => exact congrArg (· ++ normal ns) (outputs_slot h label place)
  | fragment label children place ns hbelow ih => rw [normal, outputs_append, ih, normalAt, hbelow]
  | foreign label value ns ih => rw [normal, outputs_append, ih]; rfl

theorem isEmpty_outputs_normal (ns : List Node) :
    (outputs (normal ns)).isEmpty = (outputs ns).isEmpty := by
  rw [outputs_normal, normal_eq_map, List.isEmpty_map]

theorem live_normal (ns : List Node) : live (normal ns) = live ns := by
  induction ns using forest_induction with
  | nil => rfl
  | element label tag attributes children place ns hbelow ih =>
    rw [normal, live_append, ih, live, normalAt, live, liveAt, hbelow, liveAt, live, Bool.or_false]
  | text label value place ns ih =>
    rw [normal, live_append, ih, normalAt]
    split <;> rfl
  | slot label expr place ns ih =>
    rw [normal, live_append, ih, normalAt, live, liveAt]
    cases h : expr.isEmpty with
    | true => rfl
    | false => simp [live, liveAt, h]
  | fragment label children place ns hbelow ih => rw [normal, live_append, ih, normalAt, hbelow]; rfl
  | foreign label value ns ih => rw [normal, live_append, ih]; rfl

theorem classifyElement_normal (tag : String) (attributes : List Attribute) (children : List Node) :
    classifyElement tag attributes (normal children) = classifyElement tag attributes children := by
  simp only [classifyElement, hasLivePart_eq, live_normal]

theorem label_trimmed (n : Node) : n.trimmed.label = n.label := by cases n <;> rfl

theorem childKind_trimmed (n : Node) : n.trimmed.childKind = n.childKind := by
  have htext : n.trimmed.isText = n.isText := by cases n <;> rfl
  have hstatic : n.trimmed.isStatic = n.isStatic := by
    cases n with
    | element label tag attributes children place =>
      rw [trimmed, isStatic, isStatic, classifyElement_normal]
    | _ => rfl
  rw [childKind, childKind, htext, hstatic]

theorem unindexable?_trimmed (n : Node) :
    Layout.unindexable? n.trimmed = Layout.unindexable? n := by cases n <;> rfl

end Node

theorem Layout.tabulate_trimmed (ns : List Node) :
    tabulate (ns.map Node.trimmed) = tabulate ns := by
  have hkinds : (ns.map Node.trimmed).map Node.childKind = ns.map Node.childKind := by
    rw [List.map_map]
    exact List.map_congr_left fun n _ => n.childKind_trimmed
  simp only [tabulate, hkinds, List.zip_map_left, List.map_map]
  refine List.map_congr_left fun row _ => ?_
  obtain ⟨n, place⟩ := row
  simp [Node.label_trimmed]

theorem Layout.ofChildren_normal (ns : List Node) : ofChildren (Node.normal ns) = ofChildren ns := by
  have hfaults : (Node.normal ns).findSome? unindexable? = (Node.outputs ns).findSome? unindexable? := by
    rw [Node.normal_eq_map, List.findSome?_map]
    exact congrArg (List.findSome? · _) (funext Node.unindexable?_trimmed)
  simp only [ofChildren, Node.outputs_normal, hfaults]
  rw [Node.normal_eq_map, tabulate_trimmed]

def Demand.levelFits (config : Config) : Demand → Bool
  | .level n _ => n ≤ config.maxDepth
  | _ => true

def LevelsFit (config : Config) (ds : List Demand) : Prop := ∀ d ∈ ds, d.levelFits config = true

namespace LevelsFit

variable {config : Config} {ds ds' : List Demand}

instance : Decidable (LevelsFit config ds) := inferInstanceAs (Decidable (∀ d ∈ ds, _))

theorem left (h : LevelsFit config (ds ++ ds')) : LevelsFit config ds :=
  (List.forall_mem_append.mp h).1

theorem right (h : LevelsFit config (ds ++ ds')) : LevelsFit config ds' :=
  (List.forall_mem_append.mp h).2

theorem enter {depth : Int} {place place' : Place}
    (h : LevelsFit config (.level (depth + 1) place :: ds)) :
    SlotMarkup.enter config depth place' = .ok (depth + 1) := by
  have hlevel : depth + 1 ≤ config.maxDepth := of_decide_eq_true (List.forall_mem_cons.mp h).1
  rw [SlotMarkup.enter, if_neg (Int.not_lt.mpr hlevel)]

theorem tail {d : Demand} (h : LevelsFit config (d :: ds)) : LevelsFit config ds :=
  (List.forall_mem_cons.mp h).2

theorem list {ns : List Node} {depth : Int} (h : LevelsFit config ((Root.list ns).demands depth)) :
    LevelsFit config (Node.demands (depth + 1 + 1) ns) := by
  rw [Int.add_assoc]
  exact h.tail

end LevelsFit

section Walk

variable {config : Config}

/-- A list of nodes and what is left of it are written alike, at any two depths that both allow. -/
def NodesAgree (config : Config) (ns : List Node) : Prop :=
  ∀ (scope : Scope) (depth depth' : Int) (count : Nat),
    LevelsFit config (Node.demands (depth + 1) ns) →
      LevelsFit config (Node.demands (depth' + 1) (Node.normal ns)) →
        nodesOutputs config (some scope) depth count ns =
          nodesOutputs config (some scope) depth' count (Node.normal ns)

theorem NodesAgree.compile {ns : List Node} (h : NodesAgree config ns) {depth depth' : Int}
    (hfits : LevelsFit config ((Root.list ns).demands depth))
    (hfits' : LevelsFit config ((Root.list (Node.normal ns)).demands depth')) :
    SlotMarkup.compile config depth (.list ns) =
      SlotMarkup.compile config depth' (.list (Node.normal ns)) := by
  have hscope : Scope.ofRoot (Node.normal ns) = .ofRoot ns :=
    congrArg (Scope.mk none) (Layout.ofChildren_normal ns)
  rw [compile_list, compile_list, hfits.enter, hfits'.enter, hscope]
  exact congrArg (· >>= fun r => Except.ok (Template.ofOutputs r.1 r.2)) (h _ _ _ _ hfits.list hfits'.list)

theorem elementValue_normal {children : List Node} (h : NodesAgree config children) {depth depth' : Int}
    {label label' : Nat} {tag : String} {attributes : List Attribute} {place : Place}
    (hkind : Node.classifyElement tag attributes children = .dynamic)
    (hfits : LevelsFit config
      (Node.demandsAt (depth + 1) (.element label tag attributes children place)))
    (hfits' : LevelsFit config
      (Node.demandsAt (depth' + 1) (.element label' tag attributes (Node.normal children) place))) :
    elementValue config depth tag attributes children place =
      elementValue config depth' tag attributes (Node.normal children) place := by
  have hkind' := hkind
  rw [← Node.classifyElement_normal] at hkind'
  rw [Node.demandsAt, hkind] at hfits
  rw [Node.demandsAt, hkind', Node.isEmpty_outputs_normal] at hfits'
  have hbelow := hfits.tail.right.right
  have hbelow' := hfits'.tail.right.right
  simp only [elementValue, hfits.enter, hfits'.enter, any_givesOutput, Node.isEmpty_outputs_normal]
  cases hshown : (Node.outputs children).isEmpty with
  | true => rfl
  | false =>
    rw [hshown] at hbelow hbelow'
    simp only [ok_bind, h.compile hbelow hbelow']

theorem NodesAgree.cons {n : Node} {ns : List Node}
    (hn : ∀ (scope : Scope) (depth depth' : Int) (count : Nat),
      LevelsFit config (Node.demandsAt (depth + 1) n) →
        LevelsFit config (Node.demands (depth' + 1) (Node.normalAt n)) →
          nodeOutputs config (some scope) depth count n =
            nodesOutputs config (some scope) depth' count (Node.normalAt n))
    (hns : NodesAgree config ns) : NodesAgree config (n :: ns) := by
  intro scope depth depth' count hfits hfits'
  rw [Node.normal, Node.demands_append] at hfits'
  rw [Node.normal, nodesOutputs_append, nodesOutputs_cons,
    hn scope depth depth' count hfits.left hfits'.left]
  refine congrArg (nodesOutputs config (some scope) depth' count (Node.normalAt n) >>= ·)
    (funext fun r => ?_)
  rw [hns scope depth depth' r.2 hfits.right hfits'.right]

theorem nodesAgree (config : Config) (ns : List Node) : NodesAgree config ns := by
  induction ns using Node.forest_induction with
  | nil => exact fun scope depth depth' count hfits hfits' => rfl
  | element label tag attributes children place ns hbelow hrest =>
    refine .cons (fun scope depth depth' count hfits hfits' => ?_) hrest
    rw [Node.normalAt, Node.demands, Node.demands, List.append_nil] at hfits'
    rw [Node.normalAt, nodesOutputs_singleton]
    cases hkind : Node.classifyElement tag attributes children with
    | dynamic =>
      have hkind' := hkind
      rw [← Node.classifyElement_normal] at hkind'
      rw [nodeOutputs_dynamic hkind, nodeOutputs_dynamic hkind',
        elementValue_normal hbelow hkind hfits hfits']
    | literal =>
      have hscope : Scope.ofElement count (Node.normal children) = .ofElement count children :=
        congrArg (Scope.mk (some count)) (Layout.ofChildren_normal children)
      rw [Node.demandsAt, hkind] at hfits
      rw [Node.demandsAt, Node.classifyElement_normal, hkind] at hfits'
      simp only [nodeOutputs, Scope.below, Node.children, Node.classifyElement_normal, hkind, hfits.enter,
        hfits'.enter, hscope]
      have hbody := hbelow (.ofElement count children) (depth + 1) (depth' + 1) (count + 1)
        hfits.tail.right hfits'.tail.right
      simp only [ok_bind, hbody]
  | text label value place ns hrest =>
    refine .cons (fun scope depth depth' count hfits hfits' => ?_) hrest
    rw [nodeOutputs, Node.normalAt]
    split
    · rfl
    next hshown => rw [nodesOutputs_singleton, nodeOutputs, if_neg hshown]
  | slot label expr place ns hrest =>
    refine .cons (fun scope depth depth' count hfits hfits' => ?_) hrest
    rw [Node.normalAt]
    cases hempty : expr.isEmpty with
    | true => rw [nodeOutputs, if_pos hempty, if_pos rfl, nodesOutputs]
    | false =>
      rw [if_neg Bool.false_ne_true, nodesOutputs_singleton]
      rfl
  | fragment label children place ns hbelow hrest =>
    refine .cons (fun scope depth depth' count hfits hfits' => ?_) hrest
    -- the children are a level deeper in the fragment than they are without it
    rw [Node.demandsAt] at hfits
    rw [nodeOutputs, hfits.enter]
    exact hbelow scope (depth + 1) depth' count hfits.tail hfits'
  | foreign label value ns hrest => exact .cons (fun scope depth depth' count hfits hfits' => rfl) hrest

end Walk

/-- Inlining every fragment and dropping every text and slot that shows nothing keeps the template,
or the error, as long as no level is too deep before or after. -/
theorem compile_normal {root : Root} {config : Config} {depth : Int} (hroot : root.isForeign = false)
    (hfits : LevelsFit config (root.demands depth))
    (hfits' : LevelsFit config ((Root.list (Node.normal root.nodes)).demands depth)) :
    compile config depth root = compile config depth (.list (Node.normal root.nodes)) := by
  cases root with
  | list ns => exact (nodesAgree config ns).compile hfits hfits'
  | single n noList =>
    have hscope : Scope.ofRoot (Node.normal [n]) = .ofRoot [n] :=
      congrArg (Scope.mk none) (Layout.ofChildren_normal [n])
    have hn : LevelsFit config (Node.demands (depth + 1) [n]) := by
      rw [Node.demands, Node.demands, List.append_nil]
      exact hfits
    rw [compile_node hroot, compile_list, hfits'.enter, ok_bind, Root.nodes, hscope]
    exact congrArg (· >>= fun r => Except.ok (Template.ofOutputs r.1 r.2))
      (nodesAgree config [n] _ _ _ _ hn hfits'.list)

theorem compile_normal_picture :
    let slot : Node := .slot 5 (.parsed (.name "x")) .origin
    let root : Root := .node (.fragment 1
      [.text 2 " \n " .origin,
        .element 3 "svg" [] [.fragment 4 [slot] .origin, .slot 6 (.value .null) .origin] .origin] .origin)
    let rest : Root := .list [.element 3 "svg" [] [slot] .origin]
    Root.list (Node.normal root.nodes) = rest ∧ LevelsFit .standard (root.demands 0) ∧
      LevelsFit .standard (rest.demands 0) ∧
      compile .standard 0 root = compile .standard 0 rest := by
  intro slot root rest
  have hrest : Root.list (Node.normal root.nodes) = rest := by rfl
  have hfits : LevelsFit .standard (root.demands 0) := by decide
  have hfits' : LevelsFit .standard (rest.demands 0) := by decide
  have hsame := compile_normal rfl hfits (hrest ▸ hfits')
  exact ⟨hrest, hfits, hfits', hrest ▸ hsame⟩

end SlotMarkup
