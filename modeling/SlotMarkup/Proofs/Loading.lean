import SlotMarkup.Proofs.Demands
import SlotMarkup.Tree.Load

/-! Trees read from documents. They hold nothing but nodes and attributes, and every expression in
them is a source, so a compilation of one can fail in few ways only. -/

namespace SlotMarkup

open SlotMarkup.Document (Value)

/-- Neither the attribute nor its value is foreign, and an expression is given by its source. -/
def Attribute.IsPlain : Attribute → Prop
  | .static _ _ _ => True
  | .dynamic _ expr _ => ∃ s, expr = .source s
  | .spread expr _ => ∃ s, expr = .source s
  | .foreign _ => False

namespace Node

def IsPlain : Node → Prop
  | .element _ _ attributes _ _ => ∀ a ∈ attributes, a.IsPlain
  | .text _ _ _ => True
  | .slot _ expr _ => expr.isEmpty = true ∨ ∃ s, expr = .source s
  | .fragment _ _ _ => True
  | .foreign _ _ => False

def Plain (ns : List Node) : Prop := ∀ n ∈ contents ns, n.IsPlain

theorem plain_nil : Plain [] := List.forall_mem_nil _

theorem plain_cons {n : Node} {ns : List Node} : Plain (n :: ns) ↔ Plain [n] ∧ Plain ns := by
  simp only [Plain, contents, List.append_nil, List.forall_mem_append]

theorem plain_element {label : Nat} {tag : String} {attributes : List Attribute}
    {children : List Node} {place : Place} :
    Plain [.element label tag attributes children place] ↔
      (∀ a ∈ attributes, a.IsPlain) ∧ Plain children := by
  simp only [Plain, contents, contentsAt, List.append_nil, List.forall_mem_cons, IsPlain]

theorem plain_fragment {label : Nat} {children : List Node} {place : Place} :
    Plain [.fragment label children place] ↔ Plain children := by
  simp only [Plain, contents, contentsAt, List.append_nil, List.forall_mem_cons, IsPlain, true_and]

theorem Plain.indexable {ns : List Node} (h : Plain ns) : Indexable ns := by
  intro n hn
  cases n with
  | foreign label value => exact absurd (h _ hn) id
  | _ => rfl

end Node

namespace Load

theorem attributeOf_plain {v : Value} {a : Attribute} (h : attributeOf v = .ok a) : a.IsPlain := by
  unfold attributeOf at h
  split at h
  · split at h
    · split at h
      · obtain ⟨value, -, h⟩ := bind_eq_ok.mp h
        obtain ⟨name, -, h⟩ := bind_eq_ok.mp h
        cases h
        trivial
      · split at h
        · obtain ⟨name, -, h⟩ := bind_eq_ok.mp h
          obtain ⟨expr, -, h⟩ := bind_eq_ok.mp h
          cases h
          exact ⟨expr, rfl⟩
        · split at h
          · obtain ⟨expr, -, h⟩ := bind_eq_ok.mp h
            cases h
            exact ⟨expr, rfl⟩
          · cases h
    · cases h
  · cases h

theorem attributesOf_plain {vs : List Value} {as : List Attribute} (h : attributesOf vs = .ok as) :
    ∀ a ∈ as, a.IsPlain := by
  induction vs generalizing as with
  | nil =>
    cases h
    exact List.forall_mem_nil _
  | cons v vs ih =>
    obtain ⟨a, ha, h⟩ := bind_eq_ok.mp h
    obtain ⟨rest, hrest, h⟩ := bind_eq_ok.mp h
    cases h
    exact List.forall_mem_cons.mpr ⟨attributeOf_plain ha, ih hrest⟩

theorem slotExpr_plain (label : Nat) (expr : Option String) (place : Place) :
    Node.IsPlain (.slot label (slotExpr expr) place) := by
  cases expr with
  | none => exact .inl rfl
  | some s => exact .inr ⟨s, rfl⟩

theorem nodeOf_cases {next next' : Nat} {v : Value} {n : Node} (h : nodeOf next v = .ok (n, next')) :
    ∃ fields, v = .object fields ∧
      ((∃ label tag values attributes children place, attributesOf values = .ok attributes ∧
          childrenOf next (statedPlace fields) fields = .ok (children, label) ∧
          n = .element label tag attributes children place) ∨
        (∃ label value place, n = .text label value place) ∨
        (∃ label expr place, n = .slot label (slotExpr expr) place) ∨
        ∃ label children place,
          childrenOf next (statedPlace fields) fields = .ok (children, label) ∧
            n = .fragment label children place) := by
  unfold nodeOf at h
  split at h
  next fields =>
    refine ⟨fields, rfl, ?_⟩
    split at h
    · split at h
      · obtain ⟨tag, -, h⟩ := bind_eq_ok.mp h
        obtain ⟨values, -, h⟩ := bind_eq_ok.mp h
        obtain ⟨attributes, hattributes, h⟩ := bind_eq_ok.mp h
        obtain ⟨⟨children, label⟩, hchildren, h⟩ := bind_eq_ok.mp h
        cases h
        exact .inl ⟨_, _, _, _, _, _, hattributes, hchildren, rfl⟩
      · split at h
        · obtain ⟨value, -, h⟩ := bind_eq_ok.mp h
          cases h
          exact .inr (.inl ⟨_, _, _, rfl⟩)
        · split at h
          · obtain ⟨expr, -, h⟩ := bind_eq_ok.mp h
            cases h
            exact .inr (.inr (.inl ⟨_, _, _, rfl⟩))
          · split at h
            · obtain ⟨⟨children, label⟩, hchildren, h⟩ := bind_eq_ok.mp h
              cases h
              exact .inr (.inr (.inr ⟨_, _, _, hchildren, rfl⟩))
            · cases h
    · cases h
  next => cases h

mutual
theorem nodeOf_plain (v : Value) {next next' : Nat} {n : Node} (h : nodeOf next v = .ok (n, next')) :
    Node.Plain [n] := by
  obtain ⟨fields, rfl, hcases⟩ := nodeOf_cases h
  rcases hcases with ⟨label, tag, values, attributes, children, place, hattributes, hchildren, rfl⟩ |
    ⟨label, value, place, rfl⟩ | ⟨label, expr, place, rfl⟩ | ⟨label, children, place, hchildren, rfl⟩
  · exact Node.plain_element.mpr ⟨attributesOf_plain hattributes, childrenOf_plain fields hchildren⟩
  · exact List.forall_mem_singleton.mpr trivial
  · exact List.forall_mem_singleton.mpr (slotExpr_plain label expr place)
  · exact Node.plain_fragment.mpr (childrenOf_plain fields hchildren)
termination_by sizeOf v

theorem childrenOf_plain (fields : List (String × Value)) {next next' : Nat} {place : Place}
    {ns : List Node} (h : childrenOf next place fields = .ok (ns, next')) : Node.Plain ns := by
  unfold childrenOf at h
  split at h
  · cases h
    exact Node.plain_nil
  next key items rest =>
    split at h
    · exact nodesOf_plain items h
    · exact childrenOf_plain rest h
  next key v rest _ =>
    split at h
    · cases h
    · exact childrenOf_plain rest h
termination_by sizeOf fields

theorem nodesOf_plain (vs : List Value) {next next' : Nat} {ns : List Node}
    (h : nodesOf next vs = .ok (ns, next')) : Node.Plain ns := by
  cases vs with
  | nil =>
    cases h
    exact Node.plain_nil
  | cons v vs =>
    obtain ⟨⟨n, middle⟩, hn, h⟩ := bind_eq_ok.mp h
    obtain ⟨⟨rest, last⟩, hrest, h⟩ := bind_eq_ok.mp h
    cases h
    exact Node.plain_cons.mpr ⟨nodeOf_plain v hn, nodesOf_plain vs hrest⟩
termination_by sizeOf vs
end

theorem treeOf_plain {v : Value} {n : Node} (h : treeOf v = .ok n) : Node.Plain [n] := by
  unfold treeOf at h
  split at h
  next items =>
    obtain ⟨⟨ns, label⟩, hns, h⟩ := bind_eq_ok.mp h
    cases h
    exact Node.plain_fragment.mpr (nodesOf_plain items hns)
  next =>
    obtain ⟨⟨n, label⟩, hn, h⟩ := bind_eq_ok.mp h
    cases h
    exact nodeOf_plain v hn

end Load

def Demand.IsPlain : Demand → Prop
  | .level _ _ => True
  | .component _ _ => True
  | .expression expr _ => ∃ s, expr = .source s
  | .variety _ => False

theorem Attribute.demands_plain {attributes : List Attribute} (h : ∀ a ∈ attributes, a.IsPlain)
    (tag : String) : ∀ d ∈ attributes.flatMap (Attribute.demands tag), d.IsPlain := by
  intro d hd
  obtain ⟨a, ha, hd⟩ := List.mem_flatMap.mp hd
  have hplain := h a ha
  cases a with
  | static name value place => cases hd
  | dynamic name expr place => rwa [List.mem_singleton.mp hd]
  | spread expr place => rwa [List.mem_singleton.mp hd]
  | foreign v => exact absurd hplain id

theorem Node.demands_plain {ns : List Node} (h : Node.Plain ns) (level : Int) :
    ∀ d ∈ Node.demands level ns, d.IsPlain := by
  induction ns using Node.forest_induction generalizing level with
  | nil => exact List.forall_mem_nil _
  | element label tag attributes children place ns hbelow hrest =>
    obtain ⟨hhere, hns⟩ := Node.plain_cons.mp h
    obtain ⟨hattributes, hchildren⟩ := Node.plain_element.mp hhere
    have hnamed : ∀ d ∈ if isMarkupTag tag then [] else [Demand.component tag place], d.IsPlain := by
      split
      · exact List.forall_mem_nil _
      · exact List.forall_mem_singleton.mpr trivial
    refine List.forall_mem_append.mpr ⟨List.forall_mem_cons.mpr ⟨trivial, ?_⟩, hrest hns level⟩
    split
    · refine List.forall_mem_append.mpr ⟨hnamed, List.forall_mem_append.mpr
        ⟨Attribute.demands_plain hattributes tag, ?_⟩⟩
      split
      · exact List.forall_mem_nil _
      · exact List.forall_mem_cons.mpr ⟨trivial, hbelow hchildren _⟩
    · exact List.forall_mem_append.mpr
        ⟨Attribute.demands_plain hattributes tag, hbelow hchildren _⟩
  | text label value place ns hrest => exact hrest (Node.plain_cons.mp h).2 level
  | slot label expr place ns hrest =>
    obtain ⟨hhere, hns⟩ := Node.plain_cons.mp h
    refine List.forall_mem_append.mpr ⟨?_, hrest hns level⟩
    rw [Node.demandsAt]
    split
    · exact List.forall_mem_nil _
    next hempty =>
      have hexpr := List.forall_mem_singleton.mp hhere
      exact List.forall_mem_singleton.mpr (hexpr.resolve_left hempty)
  | fragment label children place ns hbelow hrest =>
    obtain ⟨hhere, hns⟩ := Node.plain_cons.mp h
    refine List.forall_mem_append.mpr ⟨List.forall_mem_cons.mpr ⟨trivial, ?_⟩, hrest hns level⟩
    exact hbelow (Node.plain_fragment.mp hhere) _
  | foreign label value ns hrest => exact absurd (h _ List.mem_cons_self) id

theorem Demand.IsPlain.fault_cases {config : Config} {d : Demand} {e : Error} (h : d.IsPlain)
    (he : d.fault? config = some e) :
    (∃ place, e = .depth config.maxDepth place) ∨
      (∃ tag place, e = .classification (.component tag) place) ∨
      (∃ s place, e = .expression s (config.host.complaint (Text.trim Text.isBlank s.toList)) place) ∨
      e = .value .nullCharacter ∧
        ∃ s place, d = .expression (.source s) place ∧ Char.ofNat 0 ∈ s.toList := by
  cases d with
  | level n place =>
    rw [Demand.fault?] at he
    split at he
    · cases he
    · cases he
      exact .inl ⟨place, rfl⟩
  | component tag place =>
    rw [Demand.fault?] at he
    split at he
    · cases he
    · cases he
      exact .inr (.inl ⟨tag, place, rfl⟩)
  | expression expr place =>
    obtain ⟨s, rfl⟩ := h
    rw [Demand.fault?, Embedded.fault?] at he
    split at he
    next hnull =>
      cases he
      exact .inr (.inr (.inr ⟨rfl, s, place, rfl, List.contains_iff_mem.mp hnull⟩))
    · split at he
      · cases he
      · cases he
        exact .inr (.inr (.inl ⟨s, place, rfl⟩))
  | variety fault => exact absurd h id

namespace Load

variable {v : Value} {n : Node}

theorem treeOf_known (h : treeOf v = .ok n) : n.isForeign = false := by
  have hplain := treeOf_plain h
  cases n with
  | foreign label value => exact absurd (hplain _ List.mem_cons_self) id
  | _ => rfl

theorem demands_plain (h : treeOf v = .ok n) (depth : Int) : ∀ d ∈ (Root.node n).demands depth, d.IsPlain := by
  intro d hd
  rw [Root.demands_of_known (treeOf_known h)] at hd
  exact Node.demands_plain (treeOf_plain h) (depth + 1) d (List.mem_append_left _ hd)

theorem compile_answers (h : treeOf v = .ok n) (config : Config) (depth : Int) :
    Answers config ((Root.node n).demands depth) (compile config depth (.node n)) := by
  have hknown := treeOf_known h
  have hindexable : Node.Indexable (Root.node n).nodes := by
    rw [Root.nodes_of_known hknown]
    exact (treeOf_plain h).indexable
  refine SlotMarkup.compile_answers hindexable ?_ config depth
  rw [Root.node_of_known hknown]
  exact hknown

end Load

/-- The tree of a document compiles if and only if every demand is met. Else the error is that of the
first demand that is not. It concerns a level, the name of a component or an expression, unless a
source holds a null character. -/
theorem compile_document_first_fault {v : Value} {n : Node} (h : Load.treeOf v = .ok n)
    (config : Config) (depth : Int) :
    ((∃ t, compile config depth (.node n) = .ok t) ↔
        ∀ d ∈ (Root.node n).demands depth, d.Met config) ∧
      (∀ front d back, (Root.node n).demands depth = front ++ d :: back →
        (∀ c ∈ front, c.Met config) → ¬ d.Met config →
          ∃ e, d.fault? config = some e ∧ compile config depth (.node n) = .error e) ∧
      ∀ e, compile config depth (.node n) = .error e →
        (∃ place, e = .depth config.maxDepth place) ∨
          (∃ tag place, e = .classification (.component tag) place) ∨
          (∃ s place, e = .expression s (config.host.complaint (Text.trim Text.isBlank s.toList)) place) ∨
          e = .value .nullCharacter ∧ ∃ s place,
            .expression (.source s) place ∈ (Root.node n).demands depth ∧
              Char.ofNat 0 ∈ s.toList := by
  have hanswers := Load.compile_answers h config depth
  refine ⟨hanswers.ok_iff, fun front d back hsplit hfront hd => ?_, fun e he => ?_⟩
  · rw [hsplit] at hanswers
    exact hanswers.error_of_split hfront hd
  · rw [he] at hanswers
    obtain ⟨d, hd, hfault⟩ := hanswers.exists_of_error
    rcases (Load.demands_plain h depth d hd).fault_cases hfault with
      hlevel | hname | hexpr | ⟨rfl, s, place, rfl, hnull⟩
    · exact .inl hlevel
    · exact .inr (.inl hname)
    · exact .inr (.inr (.inl hexpr))
    · exact .inr (.inr (.inr ⟨rfl, s, place, hd, hnull⟩))

theorem compile_document_first_fault_component :
    let v : Value := .object [("type", .text "element"), ("tag", .text "Card"), ("children",
      .array [.object [("type", .text "element"), ("tag", .text "a:b")]])]
    ∃ n, Load.treeOf v = .ok n ∧
      compile .standard 0 (.node n) = .error (.classification (.component "a:b") .origin) := by
  intro v
  have h : Load.treeOf v = .ok (.element 1 "Card" [] [.element 0 "a:b" [] [] .origin] .origin) := by rfl
  have hsplit : (Root.node (.element 1 "Card" [] [.element 0 "a:b" [] [] .origin] .origin)).demands 0 =
      [.level 1 .origin, .component "Card" .origin, .level 2 .origin, .level 3 .origin] ++
        .component "a:b" .origin :: [] := by rfl
  obtain ⟨e, hfault, he⟩ := (compile_document_first_fault h .standard 0).2.1 _ _ _ hsplit
    (by simp [Demand.Met]; decide) (by simp [Demand.Met]; decide)
  refine ⟨_, h, ?_⟩
  rw [he]
  cases hfault
  rfl

/-- A source that is no expression because of a null character is not reported as such. -/
theorem null_character_is_no_expression_error :
    let v : Value := .object [("type", .text "expression"), ("expr", .text "a\x00")]
    ∃ n, Load.treeOf v = .ok n ∧ (Root.node n).demands 0 = [.expression (.source "a\x00") .origin] ∧
      ¬ Embedded.IsExpression .bare (.source "a\x00") ∧
      compile .standard 0 (.node n) = .error (.value .nullCharacter) ∧
      ∀ s complaint place, compile .standard 0 (.node n) ≠ .error (.expression s complaint place) := by
  intro v
  have h : compile .standard 0 (.node (.slot 0 (.source "a\x00") .origin)) =
      .error (.value .nullCharacter) := by rfl
  refine ⟨.slot 0 (.source "a\x00") .origin, rfl, rfl, fun hexpr => hexpr.1 (by decide), h, ?_⟩
  intro s complaint place hs
  rw [h] at hs
  cases hs

end SlotMarkup
