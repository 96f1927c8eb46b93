import SlotMarkup.Proofs.Emission
import SlotMarkup.Proofs.PartCodec
import SlotMarkup.Proofs.Siblings
import SlotMarkup.Template.View

/-! The descriptors of a compiled template: one for each value, in range, and never refused when
they are written; a view built from the template reads them back. -/

namespace SlotMarkup

open SlotMarkup.Host (Expr)

namespace Layout

theorem positions_bounds {ks : List ChildKind} {count : Int} {before : Option ChildKind} :
    ∀ p ∈ positions count before ks, count ≤ p.1.previous ∧ p.1.previous ≤ count + ks.length := by
  induction ks generalizing count before with
  | nil => intro p hp; cases hp
  | cons k ks ih =>
    intro p hp
    have hstep : count ≤ (if opensChild before k then count + 1 else count) ∧
        (if opensChild before k then count + 1 else count) ≤ count + 1 := by
      split <;> omega
    rw [List.length_cons]
    rcases List.mem_cons.mp hp with rfl | hp
    · exact ⟨hstep.1, by have := hstep.2; push_cast; omega⟩
    · have := ih p hp
      push_cast
      omega

theorem tabulate_bounds {children : List Node} {r : Row} (h : r ∈ tabulate children) :
    -1 ≤ r.position.previous ∧ r.position.previous < children.length := by
  obtain ⟨⟨n, ⟨position, textBefore⟩, after⟩, hmem, rfl⟩ := List.mem_map.mp h
  have hp := positions_bounds _ (List.of_mem_zip (List.of_mem_zip hmem).2).1
  rw [List.length_map] at hp
  change -1 ≤ position.previous ∧ position.previous ≤ -1 + children.length at hp
  change -1 ≤ position.previous ∧ position.previous < children.length
  omega

theorem ofChildren_bounds {children : List Node} {l : Layout} (h : ofChildren children = .ok l)
    (label : Nat) : -1 ≤ (l.position label).previous ∧
      (l.position label).previous < Node.weight children := by
  have hlength := Node.outputs_length_le children
  obtain rfl := ofChildren_eq_ok h
  unfold position
  cases hrow : row? ⟨tabulate (Node.outputs children)⟩ label with
  | none =>
    have : 0 ≤ (Node.weight children : Int) := Int.natCast_nonneg _
    exact ⟨Int.le_refl _, by simp only [Option.map_none, Option.getD_none, Position.first]; omega⟩
  | some r =>
    have hr := tabulate_bounds (List.mem_reverse.mp (List.mem_of_find?_eq_some hrow))
    exact ⟨hr.1, by simp only [Option.map_some, Option.getD_some]; omega⟩

end Layout

structure Part.InRange (count limit : Nat) (p : Part) : Prop where
  element : p.kind = .attribute → ∃ e : Nat, p.element = some (e : Int)
  element_lt : ∀ e ∈ p.element, 0 ≤ e ∧ e < count
  index : ∃ i, p.index = some i ∧ -1 ≤ i ∧ i < limit ∧ (p.kind = .attribute → 0 ≤ i)

theorem Part.InRange.mono {count count' limit : Nat} {p : Part} (h : p.InRange count limit)
    (hle : count ≤ count') : p.InRange count' limit where
  element := h.element
  element_lt := fun e he => ⟨(h.element_lt e he).1, by have := (h.element_lt e he).2; omega⟩
  index := h.index

theorem runOutputs_parts {element written : Nat} {run : Option Expr} {p : Part}
    (h : p ∈ Template.partsOf (runOutputs element written run)) :
    p = ⟨.attribute, some (element : Int), some (written : Int)⟩ := by
  cases run with
  | none => cases h
  | some e => exact List.mem_singleton.mp h

theorem attributeOutputs_parts {host : Host.Interpreter} {tag : String} {element : Nat}
    {attributes : List Attribute} :
    ∀ {written : Nat} {run : Option Expr} {os : List Output},
      attributeOutputs host tag element written run attributes = .ok os →
        ∀ p ∈ Template.partsOf os, ∃ i : Nat, i ≤ written + attributes.length ∧
          p = ⟨.attribute, some (element : Int), some (i : Int)⟩ := by
  induction attributes with
  | nil =>
    intro written run os h p hp
    cases h
    exact ⟨written, Nat.le_refl _, runOutputs_parts hp⟩
  | cons a as ih =>
    intro written run os h p hp
    rw [List.length_cons]
    obtain ⟨-, entry, -, h⟩ | ⟨-, name, value, place, rest, rfl, hrest, rfl⟩ := attributeOutputs_cons h
    · obtain ⟨i, hi, rfl⟩ := ih h p hp
      exact ⟨i, by omega, rfl⟩
    · rw [Template.partsOf_append] at hp
      rcases List.mem_append.mp hp with hp | hp
      · exact ⟨written, by omega, runOutputs_parts hp⟩
      · obtain ⟨i, hi, rfl⟩ := ih hrest p hp
        exact ⟨i, by omega, rfl⟩

def Scope.Bounded (limit : Nat) (scope : Scope) : Prop :=
  ∀ l, scope.layout = .ok l → ∀ label, -1 ≤ (l.position label).previous ∧
    (l.position label).previous < limit

theorem Scope.bounded_ofChildren {limit : Nat} {owner : Option Nat} {children : List Node}
    (h : Node.weight children ≤ limit) : Bounded limit ⟨owner, Layout.ofChildren children⟩ := by
  intro l hl label
  have := Layout.ofChildren_bounds hl label
  omega

theorem Scope.part_inRange {limit count : Nat} {scope : Scope} {l : Layout}
    (hbounded : scope.Bounded limit) (howner : ∀ e ∈ scope.owner, e < count)
    (hl : scope.layout = .ok l) (label : Nat) :
    (Scope.part (some scope) l label).InRange count limit := by
  obtain ⟨hlow, hhigh⟩ := hbounded l hl label
  have hnode : (Scope.part (some scope) l label).kind ≠ .attribute := by
    rw [Scope.part_eq]
    cases (l.position label).afterDynamic <;> simp
  refine ⟨fun h => absurd h hnode, ?_, _, rfl, hlow, hhigh, fun h => absurd h hnode⟩
  intro e he
  rw [Scope.part_eq] at he
  obtain ⟨n, hn, rfl⟩ := Option.map_eq_some_iff.mp he
  exact ⟨Int.natCast_nonneg n, Int.ofNat_lt.mpr (howner n hn)⟩

theorem inRange_cons {count limit : Nat} {value : Expr} {part : Part} {os : List Output}
    (hpart : part.InRange count limit) (hos : ∀ p ∈ Template.partsOf os, p.InRange count limit) :
    ∀ p ∈ Template.partsOf (.slot value part :: os), p.InRange count limit := by
  intro p hp
  rcases List.mem_cons.mp hp with rfl | hp
  · exact hpart
  · exact hos p hp

theorem emits_inRange {config : Config} {limit : Nat} {scope : Scope} {depth : Int}
    {count next : Nat} {ns : List Node} {os : List Output}
    (h : Emits config scope depth count ns os next) (hbounded : scope.Bounded limit)
    (howner : ∀ e ∈ scope.owner, e < count) (hweight : Node.weight ns ≤ limit) :
    ∀ p ∈ Template.partsOf os, p.InRange next limit := by
  induction h with
  | nil => intro p hp; cases hp
  | text rest ih =>
    rw [Template.partsOf_append, partsOf_textOutputs, List.nil_append]
    exact ih hbounded howner (by simp only [Node.weight] at hweight; omega)
  | emptySlot empty rest ih =>
    exact ih hbounded howner (by simp only [Node.weight] at hweight; omega)
  | slot shown around parsed rest ih =>
    have hpart := fun label => (Scope.part_inRange hbounded howner around label).mono rest.count_le
    rw [Template.partsOf_append, partsOf_separatorOutputs, List.nil_append]
    exact inRange_cons (hpart _) (ih hbounded howner (by simp only [Node.weight] at hweight; omega))
  | fragment entered below rest hbelow hrest =>
    simp only [Node.weight, Node.weightAt] at hweight
    have hlater := fun e he => Nat.lt_of_lt_of_le (howner e he) below.count_le
    intro p hp
    rw [Template.partsOf_append] at hp
    rcases List.mem_append.mp hp with hp | hp
    · exact (hbelow hbounded howner (by omega) p hp).mono rest.count_le
    · exact hrest hbounded hlater (by omega) p hp
  | dynamic kind built around rest ih =>
    have hpart := fun label => (Scope.part_inRange hbounded howner around label).mono rest.count_le
    exact inRange_cons (hpart _) (ih hbounded howner (by simp only [Node.weight] at hweight; omega))
  | @literal scope depth inner count middle next label tag place attributes children ns opening body
      os kind entered opened below rest hbelow hrest =>
    simp only [Node.weight, Node.weightAt] at hweight
    -- below, the element itself is the container, and it has been counted
    have hbody := hbelow (Scope.bounded_ofChildren (by omega)) (fun e he => by cases he; omega)
      (by omega)
    have hlater := fun e he => Nat.lt_of_lt_of_le (howner e he) (Nat.le_of_succ_le below.count_le)
    have hcount := Nat.le_trans below.count_le rest.count_le
    intro p hp
    simp only [Template.partsOf_append, Template.partsOf, List.cons_append, partsOf_closingOutputs,
      List.append_nil, List.mem_append] at hp
    rcases hp with (hp | hp) | hp
    · obtain ⟨i, hi, rfl⟩ := attributeOutputs_parts opened p hp
      refine ⟨fun _ => ⟨count, rfl⟩, fun e he => ?_, i, rfl, by omega, by omega, fun _ => by omega⟩
      cases he
      omega
    · exact (hbody p hp).mono rest.count_le
    · exact hrest hbounded hlater (by omega) p hp

theorem compile_inRange {config : Config} {depth : Int} {root : Root} {t : Template}
    (h : compile config depth root = .ok t) :
    ∃ count : Nat, t.elements = count ∧ count ≤ Node.weight root.nodes ∧
      ∀ p ∈ t.parts, p.InRange count (Node.weight root.nodes) := by
  obtain ⟨os, count, hos, rfl⟩ := compile_emits h
  have hcount : count ≤ Node.weight root.nodes := by
    rw [hos.count_eq, Nat.zero_add]
    exact Node.literals_length_le root.nodes
  exact ⟨count, rfl, hcount, emits_inRange hos (Scope.bounded_ofChildren (Nat.le_refl _))
    (fun e he => by cases he) (Nat.le_refl _)⟩

theorem Part.InRange.valid {count limit : Nat} {p : Part} (h : p.InRange count limit) :
    p.Valid (some (count : Int)) where
  element_ge := fun e he => by have := (h.element_lt e he).1; omega
  index_ge := fun i hi => by
    obtain ⟨j, hj, hlow, -⟩ := h.index
    cases hj.symm.trans hi
    exact hlow
  element_lt := fun c hc e he => by cases hc; exact (h.element_lt e he).2
  element_of_attribute := fun hkind => by
    obtain ⟨e, he⟩ := h.element hkind
    exact ⟨e, he, by omega⟩

theorem Part.InRange.legible {count limit : Nat} {p : Part} (h : p.InRange count limit)
    (hle : count ≤ limit) (hlimit : limit < Decimal.tenPower Decimal.maxIntegerLength) :
    Part.Legible p.element ∧ Part.Legible p.index := by
  constructor
  · intro e he
    have := h.element_lt e he
    omega
  · intro i hi
    obtain ⟨j, hj, hlow, hhigh, -⟩ := h.index
    cases hj.symm.trans hi
    omega

/-- The descriptors of a template. There is one for each value, and one string more. An attribute
refers to a literal element and counts attributes; a node refers to one or to none and counts from
`-1`. So they are never refused, and a view of the template with values of its own reads them back,
with no index where `-1` was written, provided that the nodes of the tree, attributes included, are
few enough for their number to be read. -/
theorem compile_parts_read_back {config : Config} {depth : Int} {root : Root} {t : Template}
    (h : compile config depth root = .ok t) :
    t.strings.length = t.values.length + 1 ∧ t.parts.length = t.values.length ∧
    (∀ p ∈ t.parts, p.kind = .attribute →
      ∃ e i, p.element = some e ∧ 0 ≤ e ∧ e < t.elements ∧ p.index = some i ∧ 0 ≤ i) ∧
    (∀ p ∈ t.parts, p.kind ≠ .attribute →
      (∀ e ∈ p.element, 0 ≤ e ∧ e < t.elements) ∧ ∃ i, p.index = some i ∧ -1 ≤ i) ∧
    ∃ codes, t.partMeta = .ok codes ∧
      ∀ (α : Type) (values : List α), values.length = t.values.length →
        ∃ v, View.build t.strings values codes = .ok v ∧
          (Node.weight root.nodes < Decimal.tenPower Decimal.maxIntegerLength →
            v.parts = .ok (t.parts.map Part.slim) ∧
              (t.parts.map Part.slim).length = v.values.length) := by
  obtain ⟨count, hcount, hweight, hrange⟩ := compile_inRange h
  have hlengths : t.strings.length = t.values.length + 1 ∧ t.parts.length = t.values.length := by
    obtain ⟨os, n, -, rfl⟩ := compile_emits h
    exact ⟨(List.length_map _).trans (Template.length_stretches os), Template.length_partsOf os⟩
  refine ⟨hlengths.1, hlengths.2, fun p hp hkind => ?_, fun p hp _ => ?_, _,
    hcount ▸ Parts.encode_eq_ok fun p hp => (hrange p hp).valid, fun α values hvalues => ?_⟩
  · obtain ⟨e, he⟩ := (hrange p hp).element hkind
    obtain ⟨i, hi, -, -, hpos⟩ := (hrange p hp).index
    obtain ⟨hlow, hhigh⟩ := (hrange p hp).element_lt e he
    exact ⟨e, i, he, hlow, hcount ▸ hhigh, hi, hpos hkind⟩
  · obtain ⟨i, hi, hlow, -⟩ := (hrange p hp).index
    exact ⟨fun e he => hcount ▸ (hrange p hp).element_lt e he, i, hi, hlow⟩
  · refine ⟨_, if_pos (hvalues ▸ hlengths.1), fun hlimit => ⟨?_, ?_⟩⟩
    · exact Parts.decode_intercalate fun p hp => (hrange p hp).legible hweight hlimit
    · exact (List.length_map _).trans (hlengths.2.trans hvalues.symm)

theorem compile_parts_read_back_repeated :
    let p : Node := .element 7 "p" [.dynamic "id" (.parsed (.name "x")) .origin]
      [.slot 8 (.parsed (.name "y")) .origin, .text 9 "Hi" .origin] .origin
    ∃ t codes v, compile .standard 0 (.list [p, p]) = .ok t ∧ t.partMeta = .ok codes ∧
      View.build t.strings ["a", "b", "c", "d"] codes = .ok v ∧
      v.parts = .ok [⟨.attribute, some 0, some 0⟩, ⟨.node, some 0, none⟩,
        ⟨.attribute, some 1, some 0⟩, ⟨.node, some 1, none⟩] := by
  intro p
  have h : compile .standard 0 (.list [p, p]) = .ok
      ⟨["<p ", " >", "Hi</p><p ", " >", "Hi</p>"],
        [.dict [.mk (some (.ofText "id")) (.name "x")], .name "y",
          .dict [.mk (some (.ofText "id")) (.name "x")], .name "y"],
        [⟨.attribute, some 0, some 0⟩, ⟨.node, some 0, some (-1)⟩,
          ⟨.attribute, some 1, some 0⟩, ⟨.node, some 1, some (-1)⟩], 2⟩ := rfl
  have hweight : Node.weight (Root.list [p, p]).nodes < Decimal.tenPower Decimal.maxIntegerLength := by
    refine Nat.lt_of_lt_of_le (show _ < Decimal.tenPower 1 by decide) ?_
    exact Decimal.tenPower_le (by decide)
  obtain ⟨-, -, -, -, codes, hcodes, hview⟩ := compile_parts_read_back h
  obtain ⟨v, hv, hparts⟩ := hview String ["a", "b", "c", "d"] rfl
  exact ⟨_, codes, v, h, hcodes, hv, (hparts hweight).1⟩

end SlotMarkup
