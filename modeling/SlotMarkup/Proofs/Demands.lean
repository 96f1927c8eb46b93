import SlotMarkup.Proofs.PartRange

/-! What a compilation asks of a tree, in the order in which it asks. It fails with the fault of the
first demand that is not met, and succeeds if every demand is met. -/

namespace SlotMarkup

open SlotMarkup.Document (Value)
open SlotMarkup.Host (Expr Entry)

theorem Text.mem_trim {p : Char → Bool} {c : Char} {cs : List Char} (h : p c = false) :
    c ∈ trim p cs ↔ c ∈ cs := by
  have hdrop : ∀ ds : List Char, c ∈ ds.dropWhile p ↔ c ∈ ds := by
    intro ds
    refine ⟨fun hc => (List.dropWhile_sublist p).subset hc, fun hc => ?_⟩
    rw [← List.takeWhile_append_dropWhile (p := p) (l := ds)] at hc
    refine (List.mem_append.mp hc).resolve_left fun htake => ?_
    rw [List.all_eq_true.mp List.all_takeWhile c htake] at h
    cases h
  rw [trim, List.mem_reverse, hdrop, List.mem_reverse, hdrop]

/-- Something that must hold of a tree at one of its places. -/
inductive Demand where
  | level (n : Int) (place : Place)
  | component (tag : String) (place : Place)
  | expression (expr : Embedded) (place : Place)
  /-- A node or an attribute is of a known variety. It is only asked where that fails. -/
  | variety (fault : ClassificationFault)

namespace Embedded

def IsExpression (host : Host.Interpreter) : Embedded → Prop
  | .source s =>
    Char.ofNat 0 ∉ s.toList ∧
      ∃ e, Host.Parser.parseExpr host.named (Text.trim Text.isBlank s.toList) = some e
  | .parsed _ => True
  | .other _ _ => False

def fault? (host : Host.Interpreter) (place : Place) : Embedded → Option Error
  | .source s =>
    let cs := Text.trim Text.isBlank s.toList
    if s.toList.contains (Char.ofNat 0) then some (.value .nullCharacter)
    else if (Host.Parser.parseExpr host.named cs).isSome then none
    else some (.expression s (host.complaint cs) place)
  | .parsed _ => none
  | .other v _ => some (.classification (.expression v.typeName) place)

theorem fault?_eq_none_iff {host : Host.Interpreter} {place : Place} {expr : Embedded} :
    expr.fault? host place = none ↔ expr.IsExpression host := by
  cases expr with
  | source s =>
    cases hnull : s.toList.contains (Char.ofNat 0) <;>
      cases hparsed : Host.Parser.parseExpr host.named (Text.trim Text.isBlank s.toList) <;>
        simp_all [fault?, IsExpression]
  | parsed e => simp [fault?, IsExpression]
  | other v noText => simp [fault?, IsExpression]

end Embedded

namespace Demand

def Met (config : Config) : Demand → Prop
  | .level n _ => n ≤ config.maxDepth
  | .component tag _ => ∀ part ∈ List.splitOn '.' tag.toList, Text.isIdentifier part = true
  | .expression expr _ => expr.IsExpression config.host
  | .variety _ => False

def fault? (config : Config) : Demand → Option Error
  | .level n place => if n ≤ config.maxDepth then none else some (.depth config.maxDepth place)
  | .component tag place =>
    if (List.splitOn '.' tag.toList).all Text.isIdentifier then none
    else some (.classification (.component tag) place)
  | .expression expr place => expr.fault? config.host place
  | .variety fault => some (.classification fault .unknown)

theorem fault?_eq_none_iff {config : Config} {d : Demand} :
    d.fault? config = none ↔ d.Met config := by
  cases d with
  | level n place => simp [fault?, Met]
  | component tag place => simp [fault?, Met]
  | expression expr place => exact Embedded.fault?_eq_none_iff
  | variety fault => simp [fault?, Met]

end Demand

def Attribute.demands (tag : String) : Attribute → List Demand
  | .static _ _ _ => []
  | .dynamic _ expr place => [.expression expr place]
  | .spread expr place => [.expression expr place]
  | .foreign v => [.variety (.attribute v.typeName tag)]

namespace Node

mutual
/-- What is asked of a node that is entered at a level. The children of a literal element or of a
fragment are one level deeper. Those of a dynamic element stand in a fragment of their own, so they
are two levels deeper; they are not looked at if none of them is shown. -/
def demandsAt (level : Int) : Node → List Demand
  | .element _ tag attributes children place =>
    .level level place ::
      match classifyElement tag attributes children with
      | .dynamic =>
        (if isMarkupTag tag then [] else [.component tag place]) ++
          (attributes.flatMap (Attribute.demands tag) ++
            if (outputs children).isEmpty then []
            else .level (level + 1) .origin :: demands (level + 2) children)
      | .literal => attributes.flatMap (Attribute.demands tag) ++ demands (level + 1) children
  | .text _ _ _ => []
  | .slot _ expr place => if expr.isEmpty then [] else [.expression expr place]
  | .fragment _ children place => .level level place :: demands (level + 1) children
  | .foreign _ v => [.variety (.node v.typeName)]

def demands (level : Int) : List Node → List Demand
  | [] => []
  | n :: ns => demandsAt level n ++ demands level ns
end

theorem demands_append (level : Int) (as bs : List Node) :
    demands level (as ++ bs) = demands level as ++ demands level bs := by
  induction as with
  | nil => rfl
  | cons n ns ih => rw [List.cons_append, demands, demands, ih, List.append_assoc]

end Node

def Root.demands (depth : Int) : Root → List Demand
  | .single n _ => Node.demandsAt (depth + 1) n
  | .list ns => .level (depth + 1) .origin :: Node.demands (depth + 2) ns

theorem Root.demands_of_known {n : Node} (h : n.isForeign = false) (depth : Int) :
    (Root.node n).demands depth = Node.demandsAt (depth + 1) n := by
  rw [node_of_known h, demands]

/-- A computation that fails with the fault of the first demand that is not met, and succeeds if
there is none. -/
def Answers {α : Type} (config : Config) (ds : List Demand) (x : Except Error α) : Prop :=
  match ds.findSome? (Demand.fault? config) with
  | some e => x = .error e
  | none => ∃ a, x = .ok a

namespace Answers

variable {α β : Type} {config : Config} {ds ds' : List Demand} {x : Except Error α}
  {f : α → Except Error β}

theorem ok (a : α) : Answers config [] (.ok a) := ⟨a, rfl⟩

theorem bind (h : Answers config ds x) (hf : ∀ a, x = .ok a → Answers config ds' (f a)) :
    Answers config (ds ++ ds') (x >>= f) := by
  unfold Answers at h ⊢
  rw [List.findSome?_append]
  cases hds : ds.findSome? (Demand.fault? config) with
  | some e =>
    rw [hds] at h
    rw [h]
    rfl
  | none =>
    rw [hds] at h
    obtain ⟨a, rfl⟩ := h
    exact hf a rfl

theorem bind_ok (h : Answers config ds x) (hf : ∀ a, x = .ok a → ∃ b, f a = .ok b) :
    Answers config ds (x >>= f) := by
  rw [← List.append_nil ds]
  exact h.bind hf

theorem ok_iff (h : Answers config ds x) : (∃ a, x = .ok a) ↔ ∀ d ∈ ds, d.Met config := by
  unfold Answers at h
  cases hds : ds.findSome? (Demand.fault? config) with
  | none =>
    rw [hds] at h
    have hnone := List.findSome?_eq_none_iff.mp hds
    exact iff_of_true h fun d hd => Demand.fault?_eq_none_iff.mp (hnone d hd)
  | some e =>
    rw [hds] at h
    obtain ⟨d, hd, hfault⟩ := List.exists_of_findSome?_eq_some hds
    refine iff_of_false (fun ⟨a, ha⟩ => ?_) fun hmet => ?_
    · rw [h] at ha
      cases ha
    · rw [Demand.fault?_eq_none_iff.mpr (hmet d hd)] at hfault
      cases hfault

theorem error_of_split {front back : List Demand} {d : Demand}
    (h : Answers config (front ++ d :: back) x) (hfront : ∀ c ∈ front, c.Met config)
    (hd : ¬ d.Met config) : ∃ e, d.fault? config = some e ∧ x = .error e := by
  have hnone : front.findSome? (Demand.fault? config) = none :=
    List.findSome?_eq_none_iff.mpr fun c hc => Demand.fault?_eq_none_iff.mpr (hfront c hc)
  rw [← Demand.fault?_eq_none_iff, ← ne_eq, Option.ne_none_iff_exists'] at hd
  obtain ⟨e, he⟩ := hd
  unfold Answers at h
  rw [List.findSome?_append, hnone, Option.none_or, List.findSome?_cons, he] at h
  exact ⟨e, he, h⟩

theorem findSome?_of_error {e : Error} (h : Answers config ds (.error e : Except Error α)) :
    ds.findSome? (Demand.fault? config) = some e := by
  unfold Answers at h
  cases hds : ds.findSome? (Demand.fault? config) with
  | none =>
    rw [hds] at h
    obtain ⟨a, ha⟩ := h
    cases ha
  | some e' =>
    rw [hds] at h
    cases h
    rfl

theorem exists_of_error {e : Error} (h : Answers config ds (.error e : Except Error α)) :
    ∃ d ∈ ds, d.fault? config = some e := List.exists_of_findSome?_eq_some h.findSome?_of_error

theorem split_of_error {e : Error} (h : Answers config ds (.error e : Except Error α)) :
    ∃ front d back, ds = front ++ d :: back ∧ (∀ c ∈ front, c.Met config) ∧
      d.fault? config = some e := by
  obtain ⟨front, d, back, hsplit, hfault, hfront⟩ :=
    List.findSome?_eq_some_iff.mp h.findSome?_of_error
  exact ⟨front, d, back, hsplit, fun c hc => Demand.fault?_eq_none_iff.mp (hfront c hc), hfault⟩

theorem singleton {d : Demand} (hmet : d.fault? config = none → ∃ a, x = .ok a)
    (hfault : ∀ e, d.fault? config = some e → x = .error e) : Answers config [d] x := by
  unfold Answers
  rw [List.findSome?_singleton]
  cases h : d.fault? config with
  | none => exact hmet h
  | some e => exact hfault e h

end Answers

section Helpers

variable {config : Config} {tag : String} {place : Place}

theorem enter_answers (depth : Int) :
    Answers config [.level (depth + 1) place] (enter config depth place) := by
  unfold enter
  refine .singleton (fun h => ?_) fun e h => ?_
  · rw [if_neg (Int.not_lt.mpr (Demand.fault?_eq_none_iff.mp h))]
    exact ⟨_, rfl⟩
  · rw [Demand.fault?] at h
    split at h
    · cases h
    next hdeep =>
      cases h
      rw [if_pos (Int.not_le.mp hdeep)]

theorem toExpr_answers (expr : Embedded) :
    Answers config [.expression expr place] (expr.toExpr config.host place) := by
  cases expr with
  | parsed e => exact ⟨e, rfl⟩
  | other v noText => rfl
  | source s =>
    have hnull : (Text.trim Text.isBlank s.toList).contains (Char.ofNat 0) =
        s.toList.contains (Char.ofNat 0) := by
      rw [Bool.eq_iff_iff, List.contains_iff_mem, List.contains_iff_mem, Text.mem_trim (by decide)]
    unfold Answers
    rw [List.findSome?_singleton, Demand.fault?, Embedded.fault?, Embedded.toExpr, hnull]
    cases s.toList.contains (Char.ofNat 0) with
    | true => rfl
    | false =>
      cases Host.Parser.parseExpr config.host.named (Text.trim Text.isBlank s.toList) with
      | some e => exact ⟨e, rfl⟩
      | none => rfl

theorem componentReference_answers :
    Answers config [.component tag place] (componentReference place tag) := by
  obtain ⟨first, rest, hparts⟩ := Text.splitOn_eq_cons '.' tag.toList
  unfold Answers
  rw [List.findSome?_singleton, Demand.fault?, componentReference]
  cases h : (List.splitOn '.' tag.toList).all Text.isIdentifier with
  | true =>
    rw [hparts]
    exact ⟨_, rfl⟩
  | false => rfl

theorem elementType_answers :
    Answers config (if isMarkupTag tag then [] else [.component tag place]) (elementType tag place) := by
  unfold elementType
  split
  · exact .ok _
  · exact componentReference_answers

theorem entry_answers (a : Attribute) : Answers config (a.demands tag) (a.entry config.host tag) := by
  cases a with
  | static name value place => exact .ok _
  | dynamic name expr place => exact (toExpr_answers expr).bind_ok fun e _ => ⟨_, rfl⟩
  | spread expr place => exact (toExpr_answers expr).bind_ok fun e _ => ⟨_, rfl⟩
  | foreign v => rfl

theorem replaceKey_answers {a : Attribute} (h : a.isKey = true) (key : Option Expr) :
    Answers config (a.demands tag) (a.replaceKey config.host key) := by
  cases a with
  | static name value place => cases value <;> exact .ok _
  | dynamic name expr place => exact (toExpr_answers expr).bind_ok fun e _ => ⟨_, rfl⟩
  | spread expr place => cases h
  | foreign v => cases h

theorem elementProperties_answers (attributes : List Attribute) (key : Option Expr) :
    Answers config (attributes.flatMap (Attribute.demands tag))
      (elementProperties config.host tag key attributes) := by
  induction attributes generalizing key with
  | nil => exact .ok _
  | cons a as ih =>
    rw [List.flatMap_cons, elementProperties]
    split
    next hkey => exact (replaceKey_answers hkey key).bind fun key _ => ih key
    next => exact (entry_answers a).bind fun entry _ => (ih key).bind_ok fun r _ => ⟨_, rfl⟩

theorem attributeOutputs_answers (element : Nat) (attributes : List Attribute) (written : Nat)
    (run : Option Expr) :
    Answers config (attributes.flatMap (Attribute.demands tag))
      (attributeOutputs config.host tag element written run attributes) := by
  induction attributes generalizing written run with
  | nil => exact .ok _
  | cons a as ih =>
    rw [List.flatMap_cons]
    cases a with
    | static name value place =>
      cases h : needsValue tag name with
      | true =>
        simp only [attributeOutputs, Attribute.classify, h]
        exact ih _ _
      | false =>
        simp only [attributeOutputs, Attribute.classify, h]
        exact (ih _ _).bind_ok fun rest _ => ⟨_, rfl⟩
    | dynamic name expr place => exact (entry_answers (.dynamic name expr place)).bind fun entry _ => ih _ _
    | spread expr place => exact (entry_answers (.spread expr place)).bind fun entry _ => ih _ _
    | foreign v => rfl

end Helpers

theorem compile_partMeta {config : Config} {depth : Int} {root : Root} {t : Template}
    (h : compile config depth root = .ok t) : ∃ codes, t.partMeta = .ok codes := by
  obtain ⟨count, hcount, -, hrange⟩ := compile_inRange h
  exact ⟨_, hcount ▸ Parts.encode_eq_ok fun p hp => (hrange p hp).valid⟩

/-- The template of a compilation always has an expression, since its parts can be written. -/
theorem compile_toExpr {config : Config} {depth : Int} {root : Root} {t : Template}
    (h : compile config depth root = .ok t) : ∃ e, t.toExpr config = .ok e := by
  obtain ⟨codes, hcodes⟩ := compile_partMeta h
  unfold Template.toExpr
  split
  · exact ⟨_, rfl⟩
  · rw [hcodes]
    exact ⟨_, rfl⟩

def Node.Indexable (ns : List Node) : Prop := ∀ n ∈ Node.contents ns, Layout.unindexable? n = none

namespace Node.Indexable

variable {ns : List Node} {n : Node}

theorem head (h : Indexable (n :: ns)) : ∀ m ∈ contentsAt n, Layout.unindexable? m = none :=
  fun m hm => h m (List.mem_append_left _ hm)

theorem tail (h : Indexable (n :: ns)) : Indexable ns := fun m hm => h m (List.mem_append_right _ hm)

theorem element {label : Nat} {tag : String} {attributes : List Attribute} {children : List Node}
    {place : Place} (h : Indexable (.element label tag attributes children place :: ns)) :
    Indexable children := fun m hm => h.head m (List.mem_cons_of_mem _ hm)

theorem fragment {label : Nat} {children : List Node} {place : Place}
    (h : Indexable (.fragment label children place :: ns)) : Indexable children :=
  fun m hm => h.head m (List.mem_cons_of_mem _ hm)

theorem layout (h : Indexable ns) : ∃ l, Layout.ofChildren ns = .ok l := by
  have hnone : (outputs ns).findSome? Layout.unindexable? = none :=
    List.findSome?_eq_none_iff.mpr fun n hn => h n ((outputs_sublist_contents ns).subset hn)
  rw [Layout.ofChildren, hnone]
  exact ⟨_, rfl⟩

end Node.Indexable

theorem any_givesOutput (ns : List Node) :
    (Node.inlined ns).any Node.givesOutput = !(Node.outputs ns).isEmpty := by
  rw [Node.outputs, Bool.eq_iff_iff]
  simp

section Walk

variable {config : Config}

def NodesAnswer (config : Config) (ns : List Node) : Prop :=
  ∀ (scope : Scope) (depth : Int) (count : Nat), (∃ l, scope.layout = .ok l) →
    Answers config (Node.demands (depth + 1) ns) (nodesOutputs config (some scope) depth count ns)

theorem NodesAnswer.compile {ns : List Node} (h : NodesAnswer config ns) (hindexable : Node.Indexable ns)
    (depth : Int) :
    Answers config ((Root.list ns).demands depth) (SlotMarkup.compile config depth (.list ns)) := by
  refine (enter_answers depth).bind fun inner hinner => ?_
  obtain rfl := enter_eq hinner
  have hns := h (.ofFragment none ns) (depth + 1) 0 hindexable.layout
  rw [Int.add_assoc] at hns
  exact hns.bind_ok fun r _ => ⟨_, rfl⟩

theorem elementValue_answers {children : List Node} (h : NodesAnswer config children)
    (hindexable : Node.Indexable children) (depth : Int) (tag : String) (attributes : List Attribute)
    (place : Place) :
    Answers config
      (.level (depth + 1) place :: ((if isMarkupTag tag then [] else [.component tag place]) ++
        (attributes.flatMap (Attribute.demands tag) ++
          if (Node.outputs children).isEmpty then [] else (Root.list children).demands (depth + 1))))
      (elementValue config depth tag attributes children place) := by
  refine (enter_answers depth).bind fun inner hinner => ?_
  obtain rfl := enter_eq hinner
  refine elementType_answers.bind fun type _ => ?_
  refine (elementProperties_answers attributes none).bind fun ⟨entries, key⟩ _ => ?_
  dsimp only
  rw [any_givesOutput]
  cases (Node.outputs children).isEmpty with
  | true => exact .ok _
  | false =>
    refine (h.compile hindexable (depth + 1)).bind_ok fun t ht => ?_
    obtain ⟨e, he⟩ := compile_toExpr ht
    rw [he]
    exact ⟨_, rfl⟩

theorem NodesAnswer.cons {n : Node} {ns : List Node}
    (hn : ∀ (scope : Scope) (depth : Int) (count : Nat), (∃ l, scope.layout = .ok l) →
      Answers config (Node.demandsAt (depth + 1) n) (nodeOutputs config (some scope) depth count n))
    (hns : NodesAnswer config ns) : NodesAnswer config (n :: ns) :=
  fun scope depth count hlayout => (hn scope depth count hlayout).bind fun r _ =>
    (hns scope depth r.2 hlayout).bind_ok fun _ _ => ⟨_, rfl⟩

theorem nodesAnswer {ns : List Node} (hindexable : Node.Indexable ns) : NodesAnswer config ns := by
  induction ns using Node.forest_induction with
  | nil => exact fun scope depth count hlayout => .ok _
  | element label tag attributes children place ns hbelow hrest =>
    have hbelow := hbelow hindexable.element
    refine .cons (fun scope depth count hlayout => ?_) (hrest hindexable.tail)
    cases hkind : Node.classifyElement tag attributes children with
    | dynamic =>
      rw [nodeOutputs_dynamic hkind, Node.demandsAt, hkind]
      refine (elementValue_answers hbelow hindexable.element ..).bind_ok fun value _ => ?_
      obtain ⟨l, hl⟩ := hlayout
      rw [Scope.layoutOf, hl]
      exact ⟨_, rfl⟩
    | literal =>
      simp only [nodeOutputs, Node.demandsAt, hkind]
      refine (enter_answers depth).bind fun inner hinner => ?_
      obtain rfl := enter_eq hinner
      refine (attributeOutputs_answers ..).bind fun opening _ => ?_
      exact (hbelow _ _ _ hindexable.element.layout).bind_ok fun r _ => ⟨_, rfl⟩
  | text label value place ns hrest =>
    exact .cons (fun scope depth count hlayout => .ok _) (hrest hindexable.tail)
  | slot label expr place ns hrest =>
    refine .cons (fun scope depth count hlayout => ?_) (hrest hindexable.tail)
    rw [nodeOutputs, Node.demandsAt]
    split
    · exact .ok _
    · -- the layout is there before the expression is looked at, so it raises no fault of its own
      obtain ⟨l, hl⟩ := hlayout
      rw [Scope.layoutOf, hl]
      exact (toExpr_answers expr).bind_ok fun value _ => ⟨_, rfl⟩
  | fragment label children place ns hbelow hrest =>
    refine .cons (fun scope depth count hlayout => ?_) (hrest hindexable.tail)
    simp only [nodeOutputs, Node.demandsAt]
    refine (enter_answers depth).bind fun inner hinner => ?_
    obtain rfl := enter_eq hinner
    exact hbelow hindexable.fragment _ _ _ hlayout
  | foreign label value ns hrest =>
    exact .cons (fun scope depth count hlayout => rfl) (hrest hindexable.tail)

end Walk

/-- A compilation fails with the fault of the first demand that is not met, and succeeds if every
demand is met. -/
theorem compile_answers {root : Root} (hindexable : Node.Indexable root.nodes)
    (hroot : root.isForeign = false) (config : Config) (depth : Int) :
    Answers config (root.demands depth) (compile config depth root) := by
  have hnodes : NodesAnswer config root.nodes := nodesAnswer hindexable
  cases root with
  | list ns => exact hnodes.compile hindexable depth
  | single n noList =>
    have hn := hnodes (.ofRoot [n]) depth 0 hindexable.layout
    rw [Root.nodes, Node.demands, Node.demands, List.append_nil] at hn
    rw [compile_node hroot]
    exact hn.bind_ok fun r _ => ⟨_, rfl⟩

end SlotMarkup
