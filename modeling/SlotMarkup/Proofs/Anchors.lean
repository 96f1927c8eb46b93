import Mathlib.Data.List.Forall2
import SlotMarkup.Proofs.Linear

/-! Slots point where they belong. Literal elements are numbered in document order, the slots that
refer to one of them are those of its own attributes and of its own dynamic children, and each
child's descriptor counts what stands before it. -/

namespace SlotMarkup

open SlotMarkup.Host (Expr)

def Piece.slot? : Piece → Option (Except Error Expr × Part)
  | .markup _ => none
  | .slot value part => some (value, part)

def slotsOf (ps : List (Nat × Piece)) : List (Except Error Expr × Part) :=
  ps.filterMap fun p => p.2.slot?

def Template.slots (t : Template) : List (Except Error Expr × Part) :=
  (t.values.map Except.ok).zip t.parts

namespace Node

inductive FilledBy (config : Config) : Except Error Expr → Node → Prop
  | slot (label : Nat) (expr : Embedded) (place : Place) :
      FilledBy config (expr.toExpr config.host place) (.slot label expr place)
  | element (depth : Int) (label : Nat) (tag : String) (attributes : List Attribute)
      (children : List Node) (place : Place) :
      FilledBy config (elementValue config depth tag attributes children place)
        (.element label tag attributes children place)

def dynamicPlaces (before : List Node) : List Node → List (List Node × Node)
  | [] => []
  | n :: ns => (if n.isDynamic then [(before, n)] else []) ++ dynamicPlaces (before ++ [n]) ns

theorem dynamicPlaces_append (before ms ns : List Node) :
    dynamicPlaces before (ms ++ ns) = dynamicPlaces before ms ++ dynamicPlaces (before ++ ms) ns := by
  induction ms generalizing before with
  | nil => simp [dynamicPlaces]
  | cons m ms ih =>
    rw [List.cons_append, dynamicPlaces, dynamicPlaces, ih, List.append_assoc, List.append_assoc]
    rfl

theorem dynamicPlaces_eq_nil {before ns : List Node} (h : ∀ n ∈ ns, n.isDynamic = false) :
    dynamicPlaces before ns = [] := by
  induction ns generalizing before with
  | nil => rfl
  | cons n ns ih =>
    rw [List.forall_mem_cons] at h
    rw [dynamicPlaces, h.1, ih h.2]
    rfl

end Node

/-- Slots that are those of the dynamic nodes of a list, in order: each is filled by its node and
describes where the node stands. -/
def Anchored (config : Config) (owner : Option Nat) (before ns : List Node)
    (slots : List (Except Error Expr × Part)) : Prop :=
  List.Forall₂ (fun s p => p.2.FilledBy config s.1 ∧ s.2 = slotPart owner p.1 p.2) slots
    (Node.dynamicPlaces before ns)

theorem Anchored.append {config : Config} {owner : Option Nat} {before ms ns : List Node}
    {slots slots' : List (Except Error Expr × Part)} (h : Anchored config owner before ms slots)
    (h' : Anchored config owner (before ++ ms) ns slots') :
    Anchored config owner before (ms ++ ns) (slots ++ slots') := by
  rw [Anchored, Node.dynamicPlaces_append]
  exact List.rel_append h h'

theorem slotsOf_append (ps qs : List (Nat × Piece)) :
    slotsOf (ps ++ qs) = slotsOf ps ++ slotsOf qs := List.filterMap_append ..

def attributeSlots (host : Host.Interpreter) (tag : String) (k : Nat) (attributes : List Attribute) :
    List (Except Error Expr × Part) :=
  (linearAttributes host tag k false 0 attributes).filterMap Piece.slot?

theorem linearAttributes_slots {host : Host.Interpreter} {tag : String} {k : Nat} {as : List Attribute} :
    ∀ {inRun : Bool} {written : Nat},
      ∀ s ∈ (linearAttributes host tag k inRun written as).filterMap Piece.slot?,
        s.2.kind = .attribute ∧ s.2.element = some (Int.ofNat k) := by
  induction as with
  | nil => intro inRun written s hs; cases hs
  | cons a as ih =>
    intro inRun written s hs
    rw [linearAttributes] at hs
    split at hs
    · rw [List.filterMap_append] at hs
      rcases List.mem_append.mp hs with hs | hs
      · cases inRun with
        | true => cases hs
        | false =>
          obtain rfl := List.mem_singleton.mp hs
          exact ⟨rfl, rfl⟩
      · exact ih s hs
    · exact ih s hs

def referring (k : Option Nat) (slots : List (Except Error Expr × Part)) :
    List (Except Error Expr × Part) := slots.filter fun s => s.2.element = k.map Int.ofNat

theorem referring_append (k : Option Nat) (slots slots' : List (Except Error Expr × Part)) :
    referring k (slots ++ slots') = referring k slots ++ referring k slots' :=
  List.filter_append ..

theorem referring_eq_self {k : Option Nat} {slots : List (Except Error Expr × Part)}
    (h : ∀ s ∈ slots, s.2.element = k.map Int.ofNat) : referring k slots = slots :=
  List.filter_eq_self.mpr fun s hs => decide_eq_true (h s hs)

theorem referring_eq_nil {k : Option Nat} {slots : List (Except Error Expr × Part)}
    (h : ∀ s ∈ slots, ∃ j, s.2.element = Option.map Int.ofNat j ∧ j ≠ k) : referring k slots = [] := by
  rw [referring, List.filter_eq_nil_iff]
  intro s hs hk
  obtain ⟨j, hj, hne⟩ := h s hs
  exact hne (Option.map_injective (fun _ _ => Int.ofNat.inj) (hj.symm.trans (of_decide_eq_true hk)))

/-- The slots that refer to a literal element are those of its attributes and of its dynamic
children. -/
def Node.Holds (config : Config) (k : Nat) (slots : List (Except Error Expr × Part)) : Node → Prop
  | .element _ tag attributes children _ =>
    slots.filter (fun s => s.2.kind = .attribute) = attributeSlots config.host tag k attributes ∧
      Anchored config (some k) [] (Node.outputs children)
        (slots.filter fun s => s.2.kind ≠ .attribute)
  | _ => False

theorem Anchored.kind_ne {config : Config} {owner : Option Nat} {before ns : List Node}
    {slots : List (Except Error Expr × Part)} (h : Anchored config owner before ns slots) :
    ∀ s ∈ slots, s.2.kind ≠ .attribute := by
  unfold Anchored at h
  generalize Node.dynamicPlaces before ns = places at h
  induction h with
  | nil => exact fun s hmem => absurd hmem List.not_mem_nil
  | cons hs _ ih =>
    intro s hmem
    rcases List.mem_cons.mp hmem with rfl | hmem
    · rw [hs.2, slotPart]
      split <;> exact nofun
    · exact ih s hmem

/-- Where the slots of a list of nodes refer to, if the nodes stand in the literal element `owner`
after the output children `before`, and their literal elements are numbered from `count` on. -/
structure Placed (config : Config) (owner : Option Nat) (count : Nat) (before ns : List Node)
    (slots : List (Except Error Expr × Part)) : Prop where
  element : ∀ s ∈ slots, ∃ j, s.2.element = Option.map Int.ofNat j ∧
    (j = owner ∧ s.2.kind ≠ .attribute ∨
      ∃ k, j = some (count + k) ∧ k < (Node.literals ns).length)
  siblings : Anchored config owner before (Node.outputs ns) (referring owner slots)
  literals : ∀ (k : Nat) (n : Node), (Node.literals ns)[k]? = some n →
    n.Holds config (count + k) (referring (some (count + k)) slots)

namespace Placed

variable {config : Config} {owner : Option Nat} {count : Nat} {before ns : List Node} {n : Node}
  {slots slots' : List (Except Error Expr × Part)}

theorem referring_outside (h : Placed config owner count before ns slots) {e : Nat}
    (howner : owner ≠ some e) (hrange : ∀ k < (Node.literals ns).length, count + k ≠ e) :
    referring (some e) slots = [] := by
  refine referring_eq_nil fun s hs => ?_
  obtain ⟨j, hj, ⟨rfl, -⟩ | ⟨k, rfl, hk⟩⟩ := h.element s hs
  · exact ⟨j, hj, howner⟩
  · exact ⟨_, hj, fun heq => hrange k hk (Option.some.inj heq)⟩

theorem silent (hdynamic : ∀ m ∈ Node.outputs ns, m.isDynamic = false)
    (hliterals : Node.literals ns = []) : Placed config owner count before ns [] where
  element s hs := absurd hs List.not_mem_nil
  siblings := by
    rw [Anchored, Node.dynamicPlaces_eq_nil hdynamic]
    exact .nil
  literals k m hm := by
    rw [hliterals] at hm
    cases hm

theorem dynamic {value : Except Error Expr} (hshown : Node.outputs [n] = [n])
    (hdynamic : n.isDynamic = true) (hliterals : Node.literals [n] = [])
    (hvalue : n.FilledBy config value) :
    Placed config owner count before [n] [(value, slotPart owner before n)] where
  element s hs := by
    obtain rfl := List.mem_singleton.mp hs
    refine ⟨owner, rfl, .inl ⟨rfl, ?_⟩⟩
    rw [slotPart]
    split <;> exact nofun
  siblings := by
    rw [hshown, referring_eq_self fun s hs => List.mem_singleton.mp hs ▸ rfl, Anchored,
      Node.dynamicPlaces, if_pos hdynamic]
    exact .cons ⟨hvalue, rfl⟩ .nil
  literals k m hm := by
    rw [hliterals] at hm
    cases hm

theorem fragment {label : Nat} {children : List Node} {place : Place}
    (h : Placed config owner count before children slots) :
    Placed config owner count before [.fragment label children place] slots := by
  have hliterals : Node.literals [.fragment label children place] = Node.literals children :=
    List.append_nil _
  exact ⟨hliterals ▸ h.element, Node.outputs_fragment label children place ▸ h.siblings,
    hliterals ▸ h.literals⟩

theorem holds_append {label : Nat} {tag : String} {attributes : List Attribute}
    {children : List Node} {place : Place} {k : Nat}
    (h : Anchored config (some k) [] (Node.outputs children) slots) :
    Node.Holds config k (attributeSlots config.host tag k attributes ++ slots)
      (.element label tag attributes children place) := by
  have hattributes : ∀ s ∈ attributeSlots config.host tag k attributes, s.2.kind = .attribute :=
    fun s hs => (linearAttributes_slots s hs).1
  have hnodes := h.kind_ne
  refine ⟨?_, ?_⟩
  · rw [List.filter_append, List.filter_eq_self.mpr fun s hs => decide_eq_true (hattributes s hs),
      List.filter_eq_nil_iff.mpr fun s hs => by simpa using hnodes s hs, List.append_nil]
  · rw [List.filter_append, List.filter_eq_nil_iff.mpr fun s hs => by simpa using hattributes s hs,
      List.filter_eq_self.mpr fun s hs => decide_eq_true (hnodes s hs), List.nil_append]
    exact h

theorem literal {label : Nat} {tag : String} {attributes : List Attribute} {children : List Node}
    {place : Place} (kind : Node.classifyElement tag attributes children = .literal)
    (howner : ∀ j ∈ owner, j < count)
    (h : Placed config (some count) (count + 1) [] children slots) :
    Placed config owner count before [.element label tag attributes children place]
      (attributeSlots config.host tag count attributes ++ slots) := by
  have hliterals : Node.literals [.element label tag attributes children place] =
      .element label tag attributes children place :: Node.literals children := by
    rw [Node.literals, Node.literalsAt_literal kind]
    exact List.append_nil _
  have hattributes : ∀ s ∈ attributeSlots config.host tag count attributes,
      s.2.element = Option.map Int.ofNat (some count) := fun s hs => (linearAttributes_slots s hs).2
  -- every slot refers to the element itself or to a literal element below it
  have hbelow : ∀ s ∈ attributeSlots config.host tag count attributes ++ slots,
      ∃ k, s.2.element = Option.map Int.ofNat (some (count + k)) ∧
        k < (Node.literals children).length + 1 := by
    intro s hs
    rcases List.mem_append.mp hs with hs | hs
    · exact ⟨0, hattributes s hs, Nat.succ_pos _⟩
    · obtain ⟨j, hj, ⟨rfl, -⟩ | ⟨k, rfl, hk⟩⟩ := h.element s hs
      · exact ⟨0, hj, Nat.succ_pos _⟩
      · exact ⟨k + 1, by rw [hj, Nat.add_assoc, Nat.add_comm 1 k], Nat.succ_lt_succ hk⟩
  refine ⟨fun s hs => ?_, ?_, fun k m hm => ?_⟩
  · obtain ⟨k, hk, hlt⟩ := hbelow s hs
    exact ⟨_, hk, .inr ⟨k, rfl, hliterals ▸ hlt⟩⟩
  · have hnone : referring owner (attributeSlots config.host tag count attributes ++ slots) = [] := by
      refine referring_eq_nil fun s hs => ?_
      obtain ⟨k, hk, -⟩ := hbelow s hs
      exact ⟨_, hk, fun heq => by have := howner _ heq.symm; omega⟩
    rw [hnone, Anchored, Node.outputs_element,
      Node.dynamicPlaces_eq_nil (List.forall_mem_singleton.mpr (Node.isDynamic_of_kind kind))]
    exact .nil
  · rw [hliterals] at hm
    rw [referring_append]
    cases k with
    | zero =>
      obtain rfl := Option.some.inj hm
      rw [Nat.add_zero, referring_eq_self hattributes]
      exact holds_append h.siblings
    | succ k =>
      have hnone : referring (some (count + (k + 1))) (attributeSlots config.host tag count attributes) = [] :=
        referring_eq_nil fun s hs => ⟨_, hattributes s hs, by simp⟩
      rw [hnone, List.nil_append, Nat.add_comm k 1, ← Nat.add_assoc]
      exact h.literals k m hm

theorem cons (howner : ∀ j ∈ owner, j < count) (h : Placed config owner count before [n] slots)
    (h' : Placed config owner (count + (Node.literalsAt n).length) (before ++ Node.outputs [n]) ns
      slots') :
    Placed config owner count before (n :: ns) (slots ++ slots') := by
  have hn : Node.literals [n] = Node.literalsAt n := List.append_nil _
  have hlength : (Node.literals (n :: ns)).length =
      (Node.literalsAt n).length + (Node.literals ns).length := List.length_append
  refine ⟨fun s hs => ?_, ?_, fun k m hm => ?_⟩
  · rw [hlength]
    rcases List.mem_append.mp hs with hs | hs
    · obtain ⟨j, hj, hown | ⟨k, hk, hlt⟩⟩ := h.element s hs
      · exact ⟨j, hj, .inl hown⟩
      · exact ⟨j, hj, .inr ⟨k, hk, Nat.lt_add_right _ (hn ▸ hlt)⟩⟩
    · obtain ⟨j, hj, hown | ⟨k, hk, hlt⟩⟩ := h'.element s hs
      · exact ⟨j, hj, .inl hown⟩
      · exact ⟨j, hj, .inr ⟨_, by rw [hk, Nat.add_assoc], Nat.add_lt_add_left hlt _⟩⟩
  · rw [Node.outputs_cons, referring_append]
    exact h.siblings.append h'.siblings
  · -- the numbers of the two lists do not meet, and the container has none of them
    have hne : owner ≠ some (count + k) := fun heq => by have := howner _ heq; omega
    rw [Node.literals, List.getElem?_append] at hm
    rw [referring_append]
    split at hm
    next hlt =>
      rw [h'.referring_outside hne fun i hi => by omega, List.append_nil]
      exact h.literals k m (hn ▸ hm)
    next hge =>
      have hk : count + k = count + (Node.literalsAt n).length + (k - (Node.literalsAt n).length) := by
        omega
      rw [h.referring_outside hne fun i hi => by rw [hn] at hi; omega, List.nil_append, hk]
      exact h'.literals _ m hm

end Placed

section Pieces

variable {config : Config} {owner : Option Nat} {depth : Int} {count : Nat} {before after : List Node}

theorem slotsOf_text (label : Nat) (value : String) (place : Place) :
    slotsOf (linearAt config owner depth count before after (.text label value place)) = [] := by
  rw [linearAt]
  split <;> rfl

theorem slotsOf_slot {expr : Embedded} (h : expr.isEmpty = false) (label : Nat) (place : Place) :
    slotsOf (linearAt config owner depth count before after (.slot label expr place)) =
      [(expr.toExpr config.host place, slotPart owner before (.slot label expr place))] := by
  rw [linearAt, if_neg (by simp [h]), slotsOf_append]
  split <;> rfl

theorem slotsOf_literal {label : Nat} {tag : String} {attributes : List Attribute}
    {children : List Node} {place : Place}
    (h : Node.classifyElement tag attributes children = .literal) :
    slotsOf (linearAt config owner depth count before after
        (.element label tag attributes children place)) =
      attributeSlots config.host tag count attributes ++
        slotsOf (linear config (some count) (depth + 1) (count + 1) [] [] children) := by
  have hattributes :
      slotsOf ((linearAttributes config.host tag count false 0 attributes).map (Prod.mk label)) =
      attributeSlots config.host tag count attributes := List.filterMap_map
  have hclosing : slotsOf (if voidTags.contains tag then [] else
      [(label, Piece.markup ("</" ++ tag ++ ">"))]) = [] := by
    split <;> rfl
  rw [linearAt_literal h, slotsOf_append, hclosing, List.append_nil, List.cons_append, ← hattributes]
  exact slotsOf_append _ _

end Pieces

theorem Emits.placed {config : Config} {scope : Scope} {depth : Int} {count next : Nat}
    {ns : List Node} {os : List Output} (h : Emits config scope depth count ns os next) :
    ∀ {before after : List Node}, (∀ j ∈ scope.owner, j < count) →
      Placed config scope.owner count before ns
        (slotsOf (linear config scope.owner depth count before after ns)) := by
  -- The owner's number stays below the count, so that no number given out later is mistaken for it.
  induction h with
  | nil =>
    intro before after howner
    exact .silent nofun rfl
  | @text scope depth count next label value place ns os rest ih =>
    intro before after howner
    rw [linear, slotsOf_append, slotsOf_text]
    refine .cons howner (.silent (fun m hm => ?_) rfl) (ih howner)
    obtain rfl := List.mem_singleton.mp (List.mem_of_mem_filter hm)
    rfl
  | @emptySlot scope depth count next label expr place ns os empty rest ih =>
    intro before after howner
    rw [linear, slotsOf_append, linearAt, if_pos empty]
    refine .cons howner (.silent (fun m hm => ?_) rfl) (ih howner)
    rw [Node.outputs_emptySlot empty] at hm
    cases hm
  | @slot scope depth count next label expr place ns os layout value shown around parsed rest ih =>
    intro before after howner
    rw [linear, slotsOf_append, slotsOf_slot shown]
    exact .cons howner (.dynamic (Node.outputs_slot shown label place) rfl rfl (.slot label expr place))
      (ih howner)
  | @fragment scope depth inner count middle next label place children ns body os entered below rest
      hbelow hrest =>
    intro before after howner
    obtain rfl := enter_eq entered
    obtain rfl := below.count_eq
    rw [linear, slotsOf_append]
    exact .cons howner (hbelow howner).fragment
      (hrest fun j hj => Nat.lt_add_right _ (howner j hj))
  | @dynamic scope depth count next label tag place attributes children ns os layout value kind
      built around rest ih =>
    intro before after howner
    have hnone : Node.literalsAt (.element label tag attributes children place) = [] :=
      Node.literalsAt_dynamic kind
    rw [linear, slotsOf_append, linearAt_dynamic kind]
    refine .cons howner (.dynamic rfl (Node.isDynamic_of_kind kind) ?_
      (.element depth label tag attributes children place)) ?_
    · rw [Node.literals, hnone]
      rfl
    · rw [hnone]
      exact ih howner
  | @literal scope depth inner count middle next label tag place attributes children ns opening body
      os kind entered opened below rest hbelow hrest =>
    intro before after howner
    obtain rfl := enter_eq entered
    obtain rfl := below.count_eq
    rw [← Node.add_length_literalsAt kind] at hrest
    rw [linear, slotsOf_append, slotsOf_literal kind]
    refine .cons howner (.literal kind howner (hbelow fun j hj => ?_)) (hrest fun j hj => ?_)
    · exact Option.some.inj hj ▸ Nat.lt_succ_self count
    · exact Nat.lt_add_right _ (howner j hj)

theorem slots_ofOutputs (os : List Output) (count : Nat) :
    (Template.ofOutputs os count).slots = os.filterMap fun o => o.toPiece.slot? := by
  induction os with
  | nil => rfl
  | cons o os ih =>
    cases o with
    | markup s => exact ih
    | slot value part => exact congrArg (List.cons (.ok value, part)) ih

theorem compile_slots {config : Config} {depth : Int} {root : Root} {t : Template}
    (h : compile config depth root = .ok t) (hdistinct : root.Distinct) :
    t.slots = slotsOf (root.linear config depth) := by
  obtain ⟨os, rfl, hos⟩ := compile_pieces h hdistinct
  have hslots := congrArg (List.filterMap Piece.slot?) hos
  rw [List.filterMap_map, List.filterMap_map] at hslots
  exact (slots_ofOutputs os _).trans hslots

theorem compile_placed {config : Config} {depth : Int} {root : Root} {t : Template}
    (h : compile config depth root = .ok t) (hdistinct : root.Distinct) :
    Placed config none 0 [] root.nodes t.slots ∧ t.slots.map Prod.snd = t.parts := by
  obtain ⟨os, count, hos, ht⟩ := compile_emits h
  refine ⟨compile_slots h hdistinct ▸ hos.placed nofun, List.map_snd_zip ?_⟩
  rw [List.length_map, ht]
  exact (Template.length_partsOf os).le

/-- Literal elements are numbered in document order, and each slot refers to the one that its
attributes or its node stand in. The slots of a container are those of its dynamic children, in
order, each described by what stands before it. -/
theorem compile_slots_anchored {config : Config} {depth : Int} {root : Root} {t : Template}
    (h : compile config depth root = .ok t) (hdistinct : root.Distinct) :
    t.elements = (Node.literals root.nodes).length ∧ t.slots.map Prod.snd = t.parts ∧
    (∀ p ∈ t.parts, (p.element = none ∧ p.kind ≠ .attribute) ∨
      ∃ k : Nat, p.element = some (k : Int) ∧ (k : Int) < t.elements) ∧
    (∀ (k : Nat) (n : Node), (Node.literals root.nodes)[k]? = some n →
      n.Holds config k (referring (some k) t.slots)) ∧
    Anchored config none [] (Node.outputs root.nodes) (referring none t.slots) := by
  obtain ⟨hplaced, hparts⟩ := compile_placed h hdistinct
  have helements : t.elements = (Node.literals root.nodes).length := by
    obtain ⟨os, ht, -⟩ := compile_pieces h hdistinct
    rw [ht]
    rfl
  refine ⟨helements, hparts, fun p hp => ?_, fun k n hn => ?_, hplaced.siblings⟩
  · rw [← hparts] at hp
    obtain ⟨s, hs, rfl⟩ := List.mem_map.mp hp
    obtain ⟨j, hj, ⟨rfl, hkind⟩ | ⟨k, rfl, hk⟩⟩ := hplaced.element s hs
    · exact .inl ⟨hj, hkind⟩
    · rw [Nat.zero_add] at hj
      exact .inr ⟨k, hj, helements ▸ Int.ofNat_lt.mpr hk⟩
  · have hholds := hplaced.literals k n hn
    rwa [Nat.zero_add] at hholds

theorem compile_slots_anchored_paragraph :
    let p : Node := .element 1 "p" [.dynamic "id" (.parsed (.name "x")) .origin]
      [.text 2 "Hi" .origin, .element 3 "br" [] [] .origin,
        .fragment 4
          [.slot 5 (.parsed (.name "y")) .origin, .slot 6 (.parsed (.name "z")) .origin] .origin,
        .element 7 "Card" [] [] .origin] .origin
    let w : Node := .slot 8 (.parsed (.name "w")) .origin
    ∃ t, compile .standard 0 (.list [p, w]) = .ok t ∧ (Root.list [p, w]).Distinct ∧ t.elements = 2 ∧
      t.parts = [⟨.attribute, some 0, some 0⟩, ⟨.node, some 0, some 1⟩,
        ⟨.nodeAfterDynamic, some 0, some 2⟩, ⟨.nodeAfterDynamic, some 0, some 3⟩,
        ⟨.node, none, some 0⟩] ∧
      p.Holds .standard 0 (referring (some 0) t.slots) ∧
      Anchored .standard none [] [p, w] (referring none t.slots) := by
  intro p w
  have h : compile .standard 0 (.list [p, w]) = .ok
      ⟨["<p ", " >Hi<br >", "", "", "</p>", ""],
        [.dict [.mk (some (.ofText "id")) (.name "x")], .name "y", .name "z",
          elementCall .standard (.name "Card") [] none, .name "w"],
        [⟨.attribute, some 0, some 0⟩, ⟨.node, some 0, some 1⟩,
          ⟨.nodeAfterDynamic, some 0, some 2⟩, ⟨.nodeAfterDynamic, some 0, some 3⟩,
          ⟨.node, none, some 0⟩], 2⟩ := by rfl
  have hdistinct : (Root.list [p, w]).Distinct := by decide
  obtain ⟨hcount, -, -, hholds, houter⟩ := compile_slots_anchored h hdistinct
  exact ⟨_, h, hdistinct, hcount, rfl, hholds 0 p rfl, houter⟩

end SlotMarkup
