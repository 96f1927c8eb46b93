import SlotMarkup.Proofs.Demands

/-! What can go wrong in a tree that holds values where nodes, attributes or expressions should be.
Beside the demands on its nodes, a compilation asks for the layout of a container at each slot there,
and a list or an object among the children has no place in a layout. -/

namespace SlotMarkup

open SlotMarkup.Document (Value)

def Demand.faults (config : Config) (ds : List Demand) : List Error :=
  ds.filterMap (Demand.fault? config)

def Layout.faults (container : List Node) : List Error :=
  ((Node.outputs container).filterMap Layout.unindexable?).map Error.unindexable

namespace Node

mutual
/-- All that is wrong with a node that is entered at a level, in the order in which it is met. A slot
needs the layout of its container before it is filled, a dynamic element after its call is built. -/
def faultsAt (config : Config) (container : List Node) (level : Int) : Node → List Error
  | .element _ tag attributes children place =>
    Demand.faults config [.level level place] ++
      match classifyElement tag attributes children with
      | .dynamic =>
        Demand.faults config (if isMarkupTag tag then [] else [.component tag place]) ++
          (Demand.faults config (attributes.flatMap (Attribute.demands tag)) ++
            ((if (outputs children).isEmpty then []
              else Demand.faults config [.level (level + 1) .origin] ++
                faults config children (level + 2) children) ++
              Layout.faults container))
      | .literal =>
        Demand.faults config (attributes.flatMap (Attribute.demands tag)) ++
          faults config children (level + 1) children
  | .text _ _ _ => []
  | .slot _ expr place =>
    if expr.isEmpty then []
    else Layout.faults container ++ Demand.faults config [.expression expr place]
  | .fragment _ children place =>
    Demand.faults config [.level level place] ++ faults config container (level + 1) children
  | .foreign _ v => [.classification (.node v.typeName) .unknown]

def faults (config : Config) (container : List Node) (level : Int) : List Node → List Error
  | [] => []
  | n :: ns => faultsAt config container level n ++ faults config container level ns
end

end Node

def Root.faults (config : Config) (depth : Int) : Root → List Error
  | .single (.foreign _ v) _ => [.classification (.root v.typeName) .unknown]
  | .single n _ => Node.faultsAt config [n] (depth + 1) n
  | .list ns =>
    Demand.faults config [.level (depth + 1) .origin] ++ Node.faults config ns (depth + 2) ns

def Root.entrance (depth : Int) : Root → List Demand
  | .single _ _ => []
  | .list _ => [.level (depth + 1) .origin]

theorem Root.demands_eq (root : Root) (depth : Int) :
    root.demands depth = root.entrance depth ++ Node.demands (root.level depth + 1) root.nodes := by
  cases root with
  | single n noList => exact (List.append_nil _).symm
  | list ns =>
    rw [Root.level, Int.add_assoc]
    rfl

theorem Root.faults_foreign {root : Root} (h : root.isForeign = true) (config : Config) (depth : Int) :
    ∃ fault, root.faults config depth = [.classification fault .unknown] := by
  cases root with
  | single n noList =>
    cases n with
    | foreign label v => exact ⟨_, rfl⟩
    | _ => cases h
  | list ns => cases h

theorem Root.faults_eq {root : Root} (h : root.isForeign = false) (config : Config) (depth : Int) :
    root.faults config depth = Demand.faults config (root.entrance depth) ++
      Node.faults config root.nodes (root.level depth + 1) root.nodes := by
  cases root with
  | single n noList =>
    cases n with
    | foreign label v => cases h
    | _ => exact (List.append_nil _).symm
  | list ns =>
    rw [Root.level, Int.add_assoc]
    rfl

section Walk

variable {config : Config}

theorem Answers.firstFault {α : Type} {ds : List Demand} {x : Except Error α}
    (h : Answers config ds x) : FirstFault (Demand.faults config ds) x fun a => x = .ok a := by
  unfold Answers at h
  rw [← List.head?_filterMap] at h
  unfold Demand.faults
  cases hfaults : ds.filterMap (Demand.fault? config) with
  | nil =>
    rw [hfaults] at h
    obtain ⟨a, ha⟩ := h
    exact ⟨a, ha, ha⟩
  | cons e faults =>
    rw [hfaults] at h
    exact h

theorem ofChildren_firstFault (container : List Node) :
    FirstFault (Layout.faults container) (Layout.ofChildren container) fun _ => True := by
  unfold Layout.faults Layout.ofChildren
  dsimp only
  rw [← List.head?_filterMap]
  cases (Node.outputs container).filterMap Layout.unindexable? with
  | nil => exact ⟨_, rfl, trivial⟩
  | cons type types => rfl

theorem enter_firstFault (depth : Int) (place : Place) :
    FirstFault (Demand.faults config [.level (depth + 1) place]) (enter config depth place)
      fun inner => inner = depth + 1 :=
  (enter_answers depth).firstFault.mono fun _ hinner _ => enter_eq hinner

def NodesReport (config : Config) (ns : List Node) : Prop :=
  ∀ (container : List Node) (scope : Scope) (depth : Int) (count : Nat),
    scope.layout = Layout.ofChildren container →
      FirstFault (Node.faults config container (depth + 1) ns)
        (nodesOutputs config (some scope) depth count ns) fun _ => True

theorem NodesReport.cons {n : Node} {ns : List Node}
    (hn : ∀ (container : List Node) (scope : Scope) (depth : Int) (count : Nat),
      scope.layout = Layout.ofChildren container →
        FirstFault (Node.faultsAt config container (depth + 1) n)
          (nodeOutputs config (some scope) depth count n) fun _ => True)
    (hns : NodesReport config ns) : NodesReport config (n :: ns) := by
  intro container scope depth count hlayout
  refine (hn container scope depth count hlayout).bind fun r _ => ?_
  exact (hns container scope depth r.2 hlayout).map fun _ _ => ⟨_, rfl, trivial⟩

theorem NodesReport.compile {ns : List Node} (h : NodesReport config ns) (depth : Int) :
    FirstFault ((Root.list ns).faults config depth) (compile config depth (.list ns)) fun _ => True := by
  refine (enter_firstFault depth .origin).bind fun inner hinner => ?_
  have hns := h ns (.ofFragment none ns) (depth + 1) 0 rfl
  rw [Int.add_assoc] at hns
  rw [hinner]
  exact hns.map fun _ _ => ⟨_, rfl, trivial⟩

theorem elementValue_firstFault {children : List Node} (h : NodesReport config children) (depth : Int)
    (tag : String) (attributes : List Attribute) (place : Place) :
    FirstFault
      (Demand.faults config [.level (depth + 1) place] ++
        (Demand.faults config (if isMarkupTag tag then [] else [.component tag place]) ++
          (Demand.faults config (attributes.flatMap (Attribute.demands tag)) ++
            if (Node.outputs children).isEmpty then []
            else (Root.list children).faults config (depth + 1))))
      (elementValue config depth tag attributes children place) fun _ => True := by
  refine (enter_firstFault depth place).bind fun inner hinner => ?_
  subst hinner
  refine elementType_answers.firstFault.bind fun type _ => ?_
  refine (elementProperties_answers attributes none).firstFault.bind fun ⟨entries, key⟩ _ => ?_
  dsimp only
  rw [any_givesOutput]
  cases (Node.outputs children).isEmpty with
  | true => exact ⟨_, rfl, trivial⟩
  | false =>
    have hbuilt := (h.compile (depth + 1)).mono fun t ht _ => compile_toExpr ht
    refine hbuilt.map fun t ht => ?_
    obtain ⟨e, he⟩ := ht
    rw [he]
    exact ⟨_, rfl, trivial⟩

theorem nodesReport (ns : List Node) : NodesReport config ns := by
  induction ns using Node.forest_induction with
  | nil => exact fun container scope depth count _ => ⟨_, rfl, trivial⟩
  | element label tag attributes children place ns hbelow hrest =>
    refine .cons (fun container scope depth count hlayout => ?_) hrest
    cases hkind : Node.classifyElement tag attributes children with
    | dynamic =>
      -- the call is built before the layout is asked for, so what is wrong in the children comes first
      have hcall := elementValue_firstFault hbelow depth tag attributes place
      have hslot : ∀ value, FirstFault (Layout.faults container)
          (Scope.layoutOf (some scope) >>= fun layout =>
            .ok ([Output.slot value (Scope.part (some scope) layout label)], count)) fun _ => True := by
        intro value
        rw [Scope.layoutOf, hlayout]
        exact (ofChildren_firstFault container).map fun _ _ => ⟨_, rfl, trivial⟩
      rw [nodeOutputs_dynamic hkind, Node.faultsAt, hkind]
      simpa only [List.append_assoc, Root.faults] using hcall.bind fun value _ => hslot value
    | literal =>
      simp only [nodeOutputs, Node.faultsAt, hkind]
      refine (enter_firstFault depth place).bind fun inner hinner => ?_
      subst hinner
      refine (attributeOutputs_answers ..).firstFault.bind fun opening _ => ?_
      exact (hbelow children _ _ _ rfl).map fun _ _ => ⟨_, rfl, trivial⟩
  | text label value place ns hrest =>
    exact .cons (fun container scope depth count _ => ⟨_, rfl, trivial⟩) hrest
  | slot label expr place ns hrest =>
    refine .cons (fun container scope depth count hlayout => ?_) hrest
    rw [nodeOutputs, Node.faultsAt]
    split
    · exact ⟨_, rfl, trivial⟩
    -- here the layout is asked for before the expression is read
    · rw [Scope.layoutOf, hlayout]
      refine (ofChildren_firstFault container).bind fun layout _ => ?_
      exact (toExpr_answers expr).firstFault.map fun _ _ => ⟨_, rfl, trivial⟩
  | fragment label children place ns hbelow hrest =>
    refine .cons (fun container scope depth count hlayout => ?_) hrest
    simp only [nodeOutputs, Node.faultsAt]
    refine (enter_firstFault depth place).bind fun inner hinner => ?_
    subst hinner
    exact hbelow container _ _ _ hlayout
  | foreign label value ns hrest => exact .cons (fun container scope depth count _ => rfl) hrest

theorem compile_firstFault (config : Config) (depth : Int) (root : Root) :
    FirstFault (root.faults config depth) (compile config depth root) fun _ => True := by
  have hnodes : NodesReport config root.nodes := nodesReport root.nodes
  cases root with
  | list ns => exact hnodes.compile depth
  | single n noList =>
    cases hforeign : n.isForeign with
    | true =>
      cases n with
      | foreign label v => rfl
      | _ => cases hforeign
    | false =>
      have hroot : (Root.single n noList).isForeign = false := hforeign
      rw [compile_node hforeign, Root.faults_eq hroot]
      exact (hnodes [n] (.ofRoot [n]) depth 0 rfl).map fun _ _ => ⟨_, rfl, trivial⟩

end Walk

def Embedded.isValue : Embedded → Bool
  | .other _ _ => true
  | _ => false

def Attribute.holdsValue : Attribute → Bool
  | .static _ _ _ => false
  | .dynamic _ expr _ => expr.isValue
  | .spread expr _ => expr.isValue
  | .foreign _ => true

/-- Whether the node is a value, or has one in place of an attribute or an expression. A slot may hold
the null value, which leaves it empty. -/
def Node.holdsValue : Node → Bool
  | .element _ _ attributes _ _ => attributes.any Attribute.holdsValue
  | .slot _ expr _ => expr.isValue && !expr.isEmpty
  | .foreign _ _ => true
  | _ => false

section Values

variable {config : Config}

theorem Embedded.isValue_of_met {expr : Embedded} {place : Place}
    (h : Demand.faults config [.expression expr place] = []) : expr.isValue = false := by
  cases expr with
  | other v noText => cases h
  | _ => rfl

theorem Attribute.holdsValue_of_met {tag : String} {attributes : List Attribute}
    (h : Demand.faults config (attributes.flatMap (Attribute.demands tag)) = []) :
    attributes.any Attribute.holdsValue = false := by
  rw [List.any_eq_false]
  intro a ha
  have hmet : Demand.faults config (a.demands tag) = [] := by
    unfold Demand.faults at h ⊢
    rw [List.filterMap_eq_nil_iff] at h ⊢
    exact fun d hd => h d (List.mem_flatMap.mpr ⟨a, ha, hd⟩)
  rw [Bool.not_eq_true]
  cases a with
  | static name value place => rfl
  | dynamic name expr place => exact Embedded.isValue_of_met hmet
  | spread expr place => exact Embedded.isValue_of_met hmet
  | foreign v => cases hmet

theorem Node.holdsValue_of_outputs_eq_nil {ns : List Node} (h : Node.outputs ns = []) :
    ∀ n ∈ Node.contents ns, n.holdsValue = false := by
  induction ns using Node.forest_induction with
  | nil => exact List.forall_mem_nil _
  | element label tag attributes children place ns _ hrest =>
    rw [Node.outputs_cons, Node.outputs_element] at h
    cases h
  | text label value place ns hrest =>
    rw [Node.outputs_cons] at h
    exact List.forall_mem_cons.mpr ⟨rfl, hrest (List.append_eq_nil_iff.mp h).2⟩
  | slot label expr place ns hrest =>
    rw [Node.outputs_cons] at h
    obtain ⟨hslot, hns⟩ := List.append_eq_nil_iff.mp h
    refine List.forall_mem_cons.mpr ⟨?_, hrest hns⟩
    cases hempty : expr.isEmpty with
    | true => rw [Node.holdsValue, hempty, Bool.not_true, Bool.and_false]
    | false =>
      rw [Node.outputs_slot hempty] at hslot
      cases hslot
  | fragment label children place ns hbelow hrest =>
    rw [Node.outputs_cons, Node.outputs_fragment] at h
    obtain ⟨hchildren, hns⟩ := List.append_eq_nil_iff.mp h
    exact List.forall_mem_append.mpr ⟨List.forall_mem_cons.mpr ⟨rfl, hbelow hchildren⟩, hrest hns⟩
  | foreign label value ns hrest =>
    rw [Node.outputs_cons] at h
    cases h

theorem Node.holdsValue_of_faults_eq_nil {ns : List Node} {container : List Node} {level : Int}
    (h : Node.faults config container level ns = []) :
    ∀ n ∈ Node.contents ns, n.holdsValue = false := by
  induction ns using Node.forest_induction generalizing container level with
  | nil => exact List.forall_mem_nil _
  | element label tag attributes children place ns hbelow hrest =>
    obtain ⟨hhere, hns⟩ := List.append_eq_nil_iff.mp h
    refine List.forall_mem_append.mpr ⟨List.forall_mem_cons.mpr ?_, hrest hns⟩
    rw [Node.faultsAt] at hhere
    obtain ⟨-, hhere⟩ := List.append_eq_nil_iff.mp hhere
    split at hhere
    · obtain ⟨-, hhere⟩ := List.append_eq_nil_iff.mp hhere
      obtain ⟨hattributes, hhere⟩ := List.append_eq_nil_iff.mp hhere
      obtain ⟨hchildren, -⟩ := List.append_eq_nil_iff.mp hhere
      refine ⟨Attribute.holdsValue_of_met hattributes, ?_⟩
      split at hchildren
      next hempty => exact Node.holdsValue_of_outputs_eq_nil (List.isEmpty_iff.mp hempty)
      next => exact hbelow (List.append_eq_nil_iff.mp hchildren).2
    · obtain ⟨hattributes, hchildren⟩ := List.append_eq_nil_iff.mp hhere
      exact ⟨Attribute.holdsValue_of_met hattributes, hbelow hchildren⟩
  | text label value place ns hrest => exact List.forall_mem_cons.mpr ⟨rfl, hrest h⟩
  | slot label expr place ns hrest =>
    obtain ⟨hhere, hns⟩ := List.append_eq_nil_iff.mp h
    refine List.forall_mem_cons.mpr ⟨?_, hrest hns⟩
    rw [Node.faultsAt] at hhere
    rw [Node.holdsValue]
    split at hhere
    next hempty => rw [hempty, Bool.not_true, Bool.and_false]
    next =>
      have hexpr := Embedded.isValue_of_met (List.append_eq_nil_iff.mp hhere).2
      rw [hexpr, Bool.false_and]
  | fragment label children place ns hbelow hrest =>
    obtain ⟨hhere, hns⟩ := List.append_eq_nil_iff.mp h
    rw [Node.faultsAt] at hhere
    have hchildren := hbelow (List.append_eq_nil_iff.mp hhere).2
    exact List.forall_mem_append.mpr ⟨List.forall_mem_cons.mpr ⟨rfl, hchildren⟩, hrest hns⟩
  | foreign label value ns hrest => cases h

end Values

def Node.IsContainer (top ns : List Node) (container : List Node) : Prop :=
  container = top ∨ ∃ label tag attributes place,
    .element label tag attributes container place ∈ Node.contents ns

/-- A list or an object is shown somewhere after a slot or a dynamic element. -/
def Node.Blocks (container : List Node) (type : String) : Prop :=
  ∃ front d back, Node.outputs container = front ++ d :: back ∧
    d.isStatic = false ∧ d.isForeign = false ∧ ∃ n ∈ back, Layout.unindexable? n = some type

section Blame

variable {config : Config}

theorem head?_append_eq_some {α : Type} {as bs : List α} {a : α} :
    (as ++ bs).head? = some a ↔ as.head? = some a ∨ as = [] ∧ bs.head? = some a := by
  rw [List.head?_append, Option.or_eq_some_iff, List.head?_eq_none_iff]

theorem Demand.fault_cases {d : Demand} {e : Error} (h : d.fault? config = some e) :
    e.isCompileError = true ∨
      e = .value .nullCharacter ∧
        ∃ s place, d = .expression (.source s) place ∧ Char.ofNat 0 ∈ s.toList := by
  cases d with
  | level n place =>
    rw [Demand.fault?, Option.ite_none_left_eq_some] at h
    cases h.2
    exact .inl rfl
  | component tag place =>
    rw [Demand.fault?, Option.ite_none_left_eq_some] at h
    cases h.2
    exact .inl rfl
  | expression expr place =>
    cases expr with
    | source s =>
      rw [Demand.fault?, Embedded.fault?] at h
      split at h
      next hnull =>
        cases h
        exact .inr ⟨rfl, s, place, rfl, List.contains_iff_mem.mp hnull⟩
      next =>
        rw [Option.ite_none_left_eq_some] at h
        cases h.2
        exact .inl rfl
    | parsed e => cases h
    | other v noText =>
      cases h
      exact .inl rfl
  | variety fault =>
    cases h
    exact .inl rfl

theorem Demand.head?_faults_ne {ds : List Demand} {type : String} :
    (Demand.faults config ds).head? ≠ some (.unindexable type) := by
  intro h
  obtain ⟨d, -, hd⟩ := List.mem_filterMap.mp (List.mem_of_mem_head? h)
  rcases Demand.fault_cases hd with hkind | ⟨hnull, -⟩
  · cases hkind
  · cases hnull

theorem Layout.unindexable?_of_not_holdsValue {n : Node} (h : n.holdsValue = false) :
    Layout.unindexable? n = none := by
  cases n with
  | foreign label v => cases h
  | _ => rfl

theorem Layout.blocks {container front back : List Node} {d : Node} {type : String}
    (hshown : Node.outputs container = front ++ d :: back)
    (hfront : ∀ n ∈ front, Layout.unindexable? n = none) (hd : d.isStatic = false)
    (hknown : d.isForeign = false)
    (h : (Layout.faults container).head? = some (.unindexable type)) : Node.Blocks container type := by
  obtain ⟨type', hmem, htype⟩ := List.mem_map.mp (List.mem_of_mem_head? h)
  cases htype
  obtain ⟨n, hn, htype⟩ := List.mem_filterMap.mp hmem
  refine ⟨front, d, back, hshown, hd, hknown, n, ?_, htype⟩
  rw [hshown, List.mem_append, List.mem_cons] at hn
  rcases hn with hbefore | rfl | hafter
  · rw [hfront n hbefore] at htype
    cases htype
  · rw [Layout.unindexable?_of_not_foreign hknown] at htype
    cases htype
  · exact hafter

/-- If the walk fails for want of a layout, one of the containers is blocked. The nodes of the
container before the list that is walked have been passed, so they hold no list and no object. -/
def Blames (config : Config) (ns : List Node) : Prop :=
  ∀ (container before after : List Node) (level : Int) (type : String),
    Node.outputs container = before ++ (Node.outputs ns ++ after) →
      (∀ n ∈ before, Layout.unindexable? n = none) →
        (Node.faults config container level ns).head? = some (.unindexable type) →
          ∃ c, Node.IsContainer container ns c ∧ Node.Blocks c type

theorem Node.IsContainer.mono {top ns ns' c : List Node} (h : Node.IsContainer top ns c)
    (hsub : Node.contents ns ⊆ Node.contents ns') : Node.IsContainer top ns' c := by
  rcases h with rfl | ⟨label, tag, attributes, place, hmem⟩
  · exact .inl rfl
  · exact .inr ⟨label, tag, attributes, place, hsub hmem⟩

theorem Blames.cons {n : Node} {ns : List Node} (hn : Blames config [n]) (hns : Blames config ns) :
    Blames config (n :: ns) := by
  intro container before after level type hshown hbefore h
  have hone : Node.faults config container level [n] = Node.faultsAt config container level n :=
    List.append_nil _
  rw [Node.outputs_cons, List.append_assoc] at hshown
  rw [Node.faults, ← hone] at h
  rcases head?_append_eq_some.mp h with hhere | ⟨hnone, hlater⟩
  · obtain ⟨c, hc, hblocks⟩ := hn container before _ level type hshown hbefore hhere
    refine ⟨c, hc.mono ?_, hblocks⟩
    rw [Node.contents, Node.contents, List.append_nil]
    exact List.subset_append_left _ _
  · have hpassed : ∀ m ∈ before ++ Node.outputs [n], Layout.unindexable? m = none := by
      refine List.forall_mem_append.mpr ⟨hbefore, fun m hm => ?_⟩
      have hmem := (Node.outputs_sublist_contents [n]).subset hm
      exact Layout.unindexable?_of_not_holdsValue (Node.holdsValue_of_faults_eq_nil hnone m hmem)
    rw [← List.append_assoc] at hshown
    obtain ⟨c, hc, hblocks⟩ := hns container _ after level type hshown hpassed hlater
    exact ⟨c, hc.mono (List.subset_append_right _ _), hblocks⟩

theorem Blames.children {label : Nat} {tag : String} {attributes : List Attribute}
    {children : List Node} {place : Place} {level : Int} {type : String} (top : List Node)
    (h : Blames config children)
    (hhead : (Node.faults config children level children).head? = some (.unindexable type)) :
    ∃ c, Node.IsContainer top [.element label tag attributes children place] c ∧
      Node.Blocks c type := by
  have hshown : Node.outputs children = [] ++ (Node.outputs children ++ []) :=
    (List.append_nil _).symm
  obtain ⟨c, hc, hblocks⟩ := h children [] [] level type hshown (List.forall_mem_nil _) hhead
  refine ⟨c, .inr ?_, hblocks⟩
  rw [Node.contents, Node.contents, List.append_nil, Node.contentsAt]
  rcases hc with rfl | ⟨label', tag', attributes', place', hmem⟩
  · exact ⟨label, tag, attributes, place, List.mem_cons_self⟩
  · exact ⟨label', tag', attributes', place', List.mem_cons_of_mem _ hmem⟩

theorem blames (ns : List Node) : Blames config ns := by
  -- No demand faults as a layout does, so the demands in front of a layout are passed over.
  induction ns using Node.forest_induction with
  | nil =>
    intro container before after level type _ _ h
    cases h
  | element label tag attributes children place ns hbelow hrest =>
    refine .cons (fun container before after level type hshown hbefore h => ?_) hrest
    rw [Node.outputs_element] at hshown
    rw [Node.faults, Node.faults, List.append_nil, Node.faultsAt] at h
    replace h := (head?_append_eq_some.mp h).resolve_left Demand.head?_faults_ne
    split at h
    next hkind =>
      have hdynamic : Node.isStatic (.element label tag attributes children place) = false := by
        rw [Node.isStatic, hkind]
        rfl
      replace h := (head?_append_eq_some.mp h.2).resolve_left Demand.head?_faults_ne
      replace h := (head?_append_eq_some.mp h.2).resolve_left Demand.head?_faults_ne
      rcases head?_append_eq_some.mp h.2 with hinner | ⟨-, hlayout⟩
      · split at hinner
        · cases hinner
        · replace hinner := (head?_append_eq_some.mp hinner).resolve_left Demand.head?_faults_ne
          exact hbelow.children container hinner.2
      · exact ⟨container, .inl rfl, Layout.blocks hshown hbefore hdynamic rfl hlayout⟩
    next =>
      replace h := (head?_append_eq_some.mp h.2).resolve_left Demand.head?_faults_ne
      exact hbelow.children container h.2
  | text label value place ns hrest =>
    refine .cons (fun container before after level type _ _ h => ?_) hrest
    cases h
  | slot label expr place ns hrest =>
    refine .cons (fun container before after level type hshown hbefore h => ?_) hrest
    rw [Node.faults, Node.faults, List.append_nil, Node.faultsAt] at h
    split at h
    · cases h
    next hempty =>
      rw [Node.outputs_slot (eq_false_of_ne_true hempty)] at hshown
      rcases head?_append_eq_some.mp h with hlayout | ⟨-, hexpr⟩
      · exact ⟨container, .inl rfl, Layout.blocks hshown hbefore rfl rfl hlayout⟩
      · exact absurd hexpr Demand.head?_faults_ne
  | fragment label children place ns hbelow hrest =>
    refine .cons (fun container before after level type hshown hbefore h => ?_) hrest
    rw [Node.outputs_fragment] at hshown
    rw [Node.faults, Node.faults, List.append_nil, Node.faultsAt] at h
    replace h := (head?_append_eq_some.mp h).resolve_left Demand.head?_faults_ne
    obtain ⟨c, hc, hblocks⟩ := hbelow container before after _ type hshown hbefore h.2
    refine ⟨c, hc.mono ?_, hblocks⟩
    rw [Node.contents, Node.contents, List.append_nil, Node.contentsAt]
    exact List.subset_cons_self _ _
  | foreign label value ns hrest =>
    refine .cons (fun container before after level type _ _ h => ?_) hrest
    cases h

def Covered (config : Config) (errors : List Error) (ds : List Demand) : Prop :=
  ∀ e ∈ errors, e ∈ Demand.faults config ds ∨ ∃ type, e = .unindexable type

theorem covered_faults (ds : List Demand) : Covered config (Demand.faults config ds) ds :=
  fun _ he => .inl he

theorem covered_layout (container : List Node) : Covered config (Layout.faults container) [] := by
  intro e he
  obtain ⟨type, -, rfl⟩ := List.mem_map.mp he
  exact .inr ⟨type, rfl⟩

theorem Covered.append {errors errors' : List Error} {ds ds' : List Demand}
    (h : Covered config errors ds) (h' : Covered config errors' ds') :
    Covered config (errors ++ errors') (ds ++ ds') := by
  intro e he
  rw [Demand.faults, List.filterMap_append, List.mem_append]
  rcases List.mem_append.mp he with he | he
  · exact (h e he).imp_left .inl
  · exact (h' e he).imp_left .inr

theorem faults_covered (ns container : List Node) (level : Int) :
    Covered config (Node.faults config container level ns) (Node.demands level ns) := by
  induction ns using Node.forest_induction generalizing container level with
  | nil => exact List.forall_mem_nil _
  | element label tag attributes children place ns hbelow hrest =>
    refine .append ?_ (hrest container level)
    rw [Node.faultsAt, Node.demandsAt]
    refine (covered_faults [_]).append ?_
    cases Node.classifyElement tag attributes children with
    | literal => exact (covered_faults _).append (hbelow children _)
    | dynamic =>
      refine (covered_faults _).append ((covered_faults _).append ?_)
      cases (Node.outputs children).isEmpty with
      | true => exact covered_layout container
      | false =>
        -- the layout comes last and adds no demand
        have hall := ((covered_faults [.level (level + 1) .origin]).append
          (hbelow children (level + 2))).append (covered_layout container)
        rwa [List.append_nil] at hall
  | text label value place ns hrest => exact hrest container level
  | slot label expr place ns hrest =>
    refine .append ?_ (hrest container level)
    rw [Node.faultsAt, Node.demandsAt]
    split
    · exact List.forall_mem_nil _
    · exact (covered_layout container).append (covered_faults [_])
  | fragment label children place ns hbelow hrest =>
    refine .append ?_ (hrest container level)
    rw [Node.faultsAt, Node.demandsAt]
    exact (covered_faults [_]).append (hbelow container _)
  | foreign label value ns hrest =>
    exact (covered_faults [.variety (.node value.typeName)]).append (hrest container level)

theorem Root.of_mem_faults {root : Root} {depth : Int} {e : Error}
    (h : e ∈ root.faults config depth) :
    e.isCompileError = true ∨
      (e = .value .nullCharacter ∧ ∃ s place,
        .expression (.source s) place ∈ root.demands depth ∧ Char.ofNat 0 ∈ s.toList) ∨
      ∃ type, e = .unindexable type := by
  cases hforeign : root.isForeign with
  | true =>
    obtain ⟨fault, hfaults⟩ := Root.faults_foreign hforeign config depth
    rw [hfaults, List.mem_singleton] at h
    exact .inl (h ▸ rfl)
  | false =>
    have hcovered : Covered config (root.faults config depth) (root.demands depth) := by
      rw [Root.faults_eq hforeign, Root.demands_eq]
      exact (covered_faults _).append (faults_covered _ _ _)
    rcases hcovered e h with hdemand | htype
    · obtain ⟨d, hd, hfault⟩ := List.mem_filterMap.mp hdemand
      rcases Demand.fault_cases hfault with hkind | ⟨rfl, s, place, rfl, hnull⟩
      · exact .inl hkind
      · exact .inr (.inl ⟨rfl, s, place, hd, hnull⟩)
    · exact .inr (.inr htype)

theorem Root.exists_blocks {root : Root} {depth : Int} {type : String}
    (h : (root.faults config depth).head? = some (.unindexable type)) :
    ∃ c, Node.IsContainer root.nodes root.nodes c ∧ Node.Blocks c type := by
  cases hforeign : root.isForeign with
  | true =>
    obtain ⟨fault, hfaults⟩ := Root.faults_foreign hforeign config depth
    rw [hfaults] at h
    cases h
  | false =>
    rw [Root.faults_eq hforeign] at h
    obtain ⟨-, hnodes⟩ := (head?_append_eq_some.mp h).resolve_left Demand.head?_faults_ne
    have hshown : Node.outputs root.nodes = [] ++ (Node.outputs root.nodes ++ []) :=
      (List.append_nil _).symm
    exact blames root.nodes root.nodes [] [] _ type hshown (List.forall_mem_nil _) hnodes

theorem Root.holdsValue_of_faults_eq_nil {root : Root} {depth : Int}
    (h : root.faults config depth = []) : ∀ n ∈ Node.contents root.nodes, n.holdsValue = false := by
  cases hforeign : root.isForeign with
  | true =>
    obtain ⟨fault, hfaults⟩ := Root.faults_foreign hforeign config depth
    rw [hfaults] at h
    cases h
  | false =>
    rw [Root.faults_eq hforeign] at h
    exact Node.holdsValue_of_faults_eq_nil (List.append_eq_nil_iff.mp h).2

end Blame

/-- A compilation fails just if something is wrong with the tree, with the error of what is met first.
It is about the tree unless a source holds a null character, or a list or an object comes after a slot
or a dynamic element of the same container. A value anywhere in the tree makes it fail. -/
theorem compile_error_kinds (config : Config) (depth : Int) (root : Root) :
    (∀ e, compile config depth root = .error e ↔ (root.faults config depth).head? = some e) ∧
    (∀ e, compile config depth root = .error e →
      e.isCompileError = true ∨
      (e = .value .nullCharacter ∧ ∃ s place,
        .expression (.source s) place ∈ root.demands depth ∧ Char.ofNat 0 ∈ s.toList) ∨
      ∃ type container, e = .unindexable type ∧
        Node.IsContainer root.nodes root.nodes container ∧ Node.Blocks container type) ∧
    ((∃ n ∈ Node.contents root.nodes, n.holdsValue = true) →
      ∃ e, compile config depth root = .error e) := by
  have hfirst := compile_firstFault config depth root
  refine ⟨hfirst.error_iff, fun e he => ?_, fun ⟨n, hn, hvalue⟩ => ?_⟩
  · have hhead := (hfirst.error_iff e).mp he
    rcases Root.of_mem_faults (List.mem_of_mem_head? hhead) with hkind | hnull | ⟨type, rfl⟩
    · exact .inl hkind
    · exact .inr (.inl hnull)
    · obtain ⟨c, hc, hblocks⟩ := Root.exists_blocks hhead
      exact .inr (.inr ⟨type, c, rfl, hc, hblocks⟩)
  · cases hcompile : compile config depth root with
    | error e => exact ⟨e, rfl⟩
    | ok t =>
      obtain ⟨hnone, -⟩ := hfirst.of_ok hcompile
      rw [Root.holdsValue_of_faults_eq_nil hnone n hn] at hvalue
      cases hvalue

/-- An empty list after a slot is not reported as an unknown node. -/
theorem list_after_slot_is_no_compile_error :
    let root : Root := .node (.element 0 "p" []
      [.slot 1 (.source "a") .origin, .foreign 2 (.array [])] .origin)
    compile .standard 0 root = .error (.unindexable "list") ∧
      Error.isCompileError (.unindexable "list") = false := ⟨rfl, rfl⟩

end SlotMarkup
