import SlotMarkup.Proofs.Anchors

/-! What is written between two texts of one container that have only dynamic nodes between them.
Texts that touch in markup are one text to its reader, while layouts count them as two. -/

namespace SlotMarkup

def Piece.text : Piece → String
  | .markup s => s
  | .slot _ _ => ""

def markupOf (ps : List (Nat × Piece)) : String := String.join (ps.map fun p => p.2.text)

def slotLabels (ps : List (Nat × Piece)) : List Nat :=
  ps.filterMap fun p => p.2.slot?.map fun _ => p.1

theorem markupOf_append (ps qs : List (Nat × Piece)) :
    markupOf (ps ++ qs) = markupOf ps ++ markupOf qs := by
  rw [markupOf, List.map_append, String.join_append]
  rfl

theorem markupOf_cons (label : Nat) (piece : Piece) (ps : List (Nat × Piece)) :
    markupOf ((label, piece) :: ps) = piece.text ++ markupOf ps := String.join_cons

inductive Renders (config : Config) (owner : Option Nat) (after : List Node) :
    List Node → List Node → List (Nat × Piece) → Prop
  | nil {before : List Node} : Renders config owner after before [] []
  | cons {before ns : List Node} {n : Node} {ps : List (Nat × Piece)} (depth : Int) (count : Nat)
      (rest : Renders config owner after (before ++ [n]) ns ps) :
      Renders config owner after before (n :: ns)
        (linearAt config owner depth count before (ns ++ after) n ++ ps)

namespace Renders

variable {config : Config} {owner : Option Nat} {before after ms ns : List Node} {n : Node}
  {ps qs : List (Nat × Piece)}

theorem append (h : Renders config owner (ns ++ after) before ms ps)
    (h' : Renders config owner after (before ++ ms) ns qs) :
    Renders config owner after before (ms ++ ns) (ps ++ qs) := by
  induction h with
  | nil =>
    rw [List.append_nil] at h'
    exact h'
  | cons depth count rest ih =>
    have hcons := Renders.cons depth count (ih (by rwa [List.append_assoc]))
    simpa only [List.append_assoc, List.cons_append] using hcons

theorem split (h : Renders config owner after before (ms ++ ns) ps) :
    ∃ qs rs, ps = qs ++ rs ∧ Renders config owner (ns ++ after) before ms qs ∧
      Renders config owner after (before ++ ms) ns rs := by
  induction ms generalizing before ps with
  | nil => exact ⟨[], ps, rfl, .nil, by rwa [List.append_nil]⟩
  | cons m ms ih =>
    cases h with
    | cons depth count rest =>
      obtain ⟨qs, rs, rfl, hqs, hrs⟩ := ih rest
      refine ⟨_, rs, (List.append_assoc _ qs rs).symm, ?_, ?_⟩
      · rw [List.append_eq, List.append_assoc]
        exact .cons depth count hqs
      · rwa [List.append_assoc] at hrs

theorem shown {depth : Int} {count : Nat} (hshown : Node.outputs [n] = [n])
    (h : Renders config owner after (before ++ Node.outputs [n]) (Node.outputs ns) ps) :
    Renders config owner after before (Node.outputs (n :: ns))
      (linearAt config owner depth count before (Node.outputs ns ++ after) n ++ ps) := by
  rw [hshown] at h
  rw [Node.outputs_cons, hshown]
  exact .cons depth count h

theorem hidden {depth : Int} {count : Nat} (hhidden : Node.outputs [n] = [])
    (hnone : linearAt config owner depth count before (Node.outputs ns ++ after) n = [])
    (h : Renders config owner after (before ++ Node.outputs [n]) (Node.outputs ns) ps) :
    Renders config owner after before (Node.outputs (n :: ns))
      (linearAt config owner depth count before (Node.outputs ns ++ after) n ++ ps) := by
  rw [hhidden, List.append_nil] at h
  rw [Node.outputs_cons, hhidden, hnone]
  exact h

end Renders

theorem linear_renders {config : Config} {owner : Option Nat} {ns : List Node} :
    ∀ {depth : Int} {count : Nat} {before after : List Node},
      Renders config owner after before (Node.outputs ns)
        (linear config owner depth count before after ns) := by
  induction ns using Node.forest_induction with
  | nil =>
    intro depth count before after
    exact .nil
  | element label tag attributes children place ns _ ih =>
    intro depth count before after
    exact .shown rfl ih
  | text label value place ns ih =>
    intro depth count before after
    cases h : (Text.collapse value).isEmpty with
    | true => exact .hidden (by rw [Node.outputs_text, if_pos h]) (by rw [linearAt, if_pos h]) ih
    | false => exact .shown (by rw [Node.outputs_text, h]; rfl) ih
  | slot label expr place ns ih =>
    intro depth count before after
    cases h : expr.isEmpty with
    | true => exact .hidden (Node.outputs_emptySlot h label place) (by rw [linearAt, if_pos h]) ih
    | false => exact .shown (Node.outputs_slot h label place) ih
  | fragment label children place ns hbelow hrest =>
    intro depth count before after
    rw [Node.outputs_cons, Node.outputs_fragment]
    refine .append hbelow ?_
    rw [Node.outputs_fragment]
    exact hrest
  | foreign label value ns ih =>
    intro depth count before after
    exact .shown rfl ih

namespace Node

def isSlot : Node → Bool
  | .slot _ _ _ => true
  | _ => false

/-- What is written between two texts besides the dynamic nodes that part them: a comment, if the
first of these is a slot. -/
def separator (config : Config) (between : List Node) : String :=
  if between.head?.any isSlot then config.placeholderComment else ""

theorem separator_eq_comment_iff (config : Config) (between : List Node) :
    separator config between = config.placeholderComment ↔ between.head?.any isSlot = true := by
  have hne : "" ≠ config.placeholderComment := fun h => by
    have hlength := congrArg String.length h
    simp only [Config.placeholderComment, String.length_append] at hlength
    have hshort : "".length = 0 := by decide
    have hlong : "<!--".length = 4 := by decide
    omega
  unfold separator
  split
  next h => simp [h]
  next h => simp [h, hne]

end Node

theorem linearAt_of_isDynamic {config : Config} {owner : Option Nat} {depth : Int} {count : Nat}
    {before after cs : List Node} {n : Node} (hdynamic : n.isDynamic = true)
    (hshown : n ∈ Node.outputs cs) :
    ∃ value part, linearAt config owner depth count before after n =
      (if n.isSlot && (Node.followsText before && Node.precedesText after) then
        [(n.label, .markup config.placeholderComment)] else []) ++ [(n.label, .slot value part)] := by
  obtain ⟨hinlined, hgives⟩ := List.mem_filter.mp hshown
  cases n with
  | element label tag attributes children place =>
    rw [Node.isDynamic_element] at hdynamic
    exact ⟨_, _, linearAt_dynamic (of_decide_eq_true hdynamic)⟩
  | text label value place => cases hdynamic
  | slot label expr place =>
    have hempty : expr.isEmpty = false := Bool.not_eq_true' _ ▸ hgives
    rw [linearAt, hempty]
    exact ⟨_, _, rfl⟩
  | fragment label children place => cases Node.isFragment_of_mem_inlined hinlined
  | foreign label value => exact ⟨_, _, rfl⟩

namespace Renders

variable {config : Config} {owner : Option Nat} {before after ns cs : List Node} {n : Node}
  {ps : List (Nat × Piece)} {label : Nat} {value : String} {place : Place}

theorem text (h : Renders config owner after before [.text label value place] ps)
    (hshown : .text label value place ∈ Node.outputs cs) :
    ps = [(label, .markup (Text.collapse value))] := by
  have hgives := (List.mem_filter.mp hshown).2
  have hshown : ¬ (Text.collapse value).isEmpty = true := by
    simpa [Text.collapse, Node.givesOutput] using hgives
  cases h with
  | cons depth count rest =>
    cases rest
    rw [linearAt, if_neg hshown]
    rfl

theorem slots (h : Renders config owner after before ns ps)
    (hdynamic : ∀ n ∈ ns, n.isDynamic = true) (hshown : ns ⊆ Node.outputs cs)
    (hbefore : Node.followsText before = false) :
    markupOf ps = "" ∧ slotLabels ps = ns.map Node.label := by
  induction h with
  | nil => exact ⟨rfl, rfl⟩
  | @cons before ns n ps depth count rest ih =>
    rw [List.forall_mem_cons] at hdynamic
    rw [List.cons_subset] at hshown
    have hafter : Node.followsText (before ++ [n]) = false := by
      rw [Node.followsText_concat, Node.isText_of_isDynamic hdynamic.1]
    obtain ⟨hmarkup, hlabels⟩ := ih hdynamic.2 hshown.2 hafter
    obtain ⟨value, part, hn⟩ := linearAt_of_isDynamic hdynamic.1 hshown.1
    -- no comment: the node before is no text, for the first node and for the later ones alike
    rw [hn, hbefore, Bool.false_and, Bool.and_false, markupOf_append, hmarkup]
    exact ⟨rfl, congrArg (List.cons n.label) hlabels⟩

theorem run (h : Renders config owner (.text label value place :: after) before (n :: ns) ps)
    (hdynamic : ∀ m ∈ n :: ns, m.isDynamic = true) (hshown : n :: ns ⊆ Node.outputs cs)
    (hbefore : Node.followsText before = true) :
    markupOf ps = Node.separator config (n :: ns) ∧ slotLabels ps = (n :: ns).map Node.label := by
  rw [List.forall_mem_cons] at hdynamic
  rw [List.cons_subset] at hshown
  have hafter : Node.followsText (before ++ [n]) = false := by
    rw [Node.followsText_concat, Node.isText_of_isDynamic hdynamic.1]
  have hnext : Node.precedesText (ns ++ .text label value place :: after) = true := by
    rw [Node.precedesText_append hdynamic.2]
    rfl
  cases h with
  | @cons _ _ _ ps depth count rest =>
    obtain ⟨hmarkup, hlabels⟩ := rest.slots hdynamic.2 hshown.2 hafter
    obtain ⟨value, part, hn⟩ := linearAt_of_isDynamic hdynamic.1 hshown.1
    rw [hn, hbefore, hnext, Bool.and_true, Bool.and_true, markupOf_append, hmarkup,
      String.append_empty, Node.separator, List.head?_cons, Option.any_some]
    cases n.isSlot with
    | true => exact ⟨by simp [markupOf, Piece.text], congrArg (List.cons n.label) hlabels⟩
    | false => exact ⟨rfl, congrArg (List.cons n.label) hlabels⟩

end Renders

def Node.containers (tree : List Node) : List (List Node) :=
  tree :: (Node.literals tree).map Node.children

def WrittenIn (config : Config) (cs : List Node) (ps : List (Nat × Piece)) : Prop :=
  ∃ owner depth count, linear config owner depth count [] [] cs <:+: ps

theorem WrittenIn.mono {config : Config} {cs : List Node} {ps qs : List (Nat × Piece)}
    (h : WrittenIn config cs ps) (hwithin : ps <:+: qs) : WrittenIn config cs qs := by
  obtain ⟨owner, depth, count, hcs⟩ := h
  exact ⟨owner, depth, count, hcs.trans hwithin⟩

section Containers

variable {config : Config} {owner : Option Nat} {depth : Int} {count : Nat} {before after ns : List Node}

theorem linear_tail_within (n : Node) :
    linear config owner depth (count + (Node.literalsAt n).length) (before ++ Node.outputs [n]) after ns
      <:+: linear config owner depth count before after (n :: ns) := by
  rw [linear]
  exact (List.suffix_append _ _).isInfix

theorem linear_children_within {label : Nat} {tag : String} {attributes : List Attribute}
    {children : List Node} {place : Place}
    (kind : Node.classifyElement tag attributes children = .literal) :
    linear config (some count) (depth + 1) (count + 1) [] [] children <:+:
      linear config owner depth count before after
        (.element label tag attributes children place :: ns) := by
  rw [linear, linearAt_literal kind]
  -- strip the siblings that follow, the closing tag, and the opening tag with its attributes
  apply List.infix_append_of_infix_left
  apply List.infix_append_of_infix_left
  apply List.infix_append_of_infix_right
  exact List.infix_cons List.infix_rfl

end Containers

theorem literal_writtenIn {config : Config} {n : Node} {ns : List Node}
    (h : n ∈ Node.literals ns) :
    ∀ {owner : Option Nat} {depth : Int} {count : Nat} {before after : List Node},
      WrittenIn config n.children (linear config owner depth count before after ns) := by
  induction ns using Node.forest_induction with
  | nil => cases h
  | element label tag attributes children place ns hbelow hrest =>
    intro owner depth count before after
    rcases List.mem_append.mp h with h | h
    · cases kind : Node.classifyElement tag attributes children with
      | dynamic =>
        rw [Node.literalsAt_dynamic kind] at h
        cases h
      | literal =>
        rw [Node.literalsAt_literal kind] at h
        rcases List.mem_cons.mp h with rfl | h
        · exact ⟨_, _, _, linear_children_within kind⟩
        · exact (hbelow h).mono (linear_children_within kind)
    · exact (hrest h).mono (linear_tail_within _)
  | text label value place ns ih =>
    intro owner depth count before after
    exact (ih h).mono (linear_tail_within _)
  | slot label expr place ns ih =>
    intro owner depth count before after
    exact (ih h).mono (linear_tail_within _)
  | fragment label children place ns hbelow hrest =>
    intro owner depth count before after
    rcases List.mem_append.mp h with h | h
    · exact (hbelow h).mono (List.prefix_append _ _).isInfix
    · exact (hrest h).mono (linear_tail_within _)
  | foreign label value ns ih =>
    intro owner depth count before after
    exact (ih h).mono (linear_tail_within _)

theorem container_writtenIn (config : Config) (depth : Int) {root : Root} {cs : List Node}
    (h : cs ∈ Node.containers root.nodes) : WrittenIn config cs (root.linear config depth) := by
  rcases List.mem_cons.mp h with rfl | h
  · exact ⟨_, _, _, List.infix_rfl⟩
  · obtain ⟨n, hn, rfl⟩ := List.mem_map.mp h
    exact literal_writtenIn hn

theorem join_stretches (os : List Output) :
    String.join ((Template.stretches os).map String.join) =
      String.join (os.map fun o => o.toPiece.text) := by
  induction os with
  | nil => rfl
  | cons o os ih =>
    cases o with
    | slot value part =>
      rw [Template.stretches, List.map_cons, List.map_cons, String.join_cons, String.join_cons, ih]
      rfl
    | markup s =>
      obtain ⟨p, ps, hps⟩ := Template.stretches_eq_cons os
      rw [hps, List.map_cons, String.join_cons] at ih
      rw [Template.stretches, hps, List.map_cons, List.map_cons, String.join_cons, String.join_cons,
        String.join_cons, String.append_assoc, ih]
      rfl

theorem compile_markup {config : Config} {depth : Int} {root : Root} {t : Template}
    (h : compile config depth root = .ok t) (hdistinct : root.Distinct) :
    String.join t.strings = markupOf (root.linear config depth) := by
  obtain ⟨os, rfl, hos⟩ := compile_pieces h hdistinct
  have htexts := congrArg (fun ps => String.join (ps.map Piece.text)) hos
  simp only [List.map_map] at htexts
  exact (join_stretches os).trans htexts

/-- Any two texts of a container of the template that only dynamic nodes part are written with those
nodes as slots and the given markup between them. -/
structure Template.Separates (t : Template) (config : Config) (depth : Int) (root : Root)
    (separator : List Node → String) : Prop where
  written : ∃ os, t = .ofOutputs os (Node.literals root.nodes).length ∧
    os.map Output.toPiece = (root.linear config depth).map Prod.snd
  texts : ∀ (cs before between after : List Node) (a b : Nat) (v w : String) (p q : Place),
    cs ∈ Node.containers root.nodes →
    Node.outputs cs = before ++ .text a v p :: (between ++ .text b w q :: after) →
    between ≠ [] → (∀ n ∈ between, n.isDynamic = true) →
    ∃ front inner back : List (Nat × Piece),
      root.linear config depth = front ++ (a, .markup (Text.collapse v)) ::
        (inner ++ (b, .markup (Text.collapse w)) :: back) ∧
      slotLabels inner = between.map Node.label ∧ markupOf inner = separator between ∧
      String.join t.strings = markupOf front ++ (Text.collapse v ++
        (separator between ++ (Text.collapse w ++ markupOf back)))

theorem linear_separates (config : Config) (owner : Option Nat) (depth : Int) (count : Nat)
    {cs before between after : List Node} {a b : Nat} {v w : String} {p q : Place}
    (hsplit : Node.outputs cs = before ++ .text a v p :: (between ++ .text b w q :: after))
    (hne : between ≠ []) (hdynamic : ∀ n ∈ between, n.isDynamic = true) :
    ∃ front inner back : List (Nat × Piece),
      linear config owner depth count [] [] cs = front ++ (a, .markup (Text.collapse v)) ::
        (inner ++ (b, .markup (Text.collapse w)) :: back) ∧
      slotLabels inner = between.map Node.label ∧ markupOf inner = Node.separator config between := by
  obtain ⟨n, ns, rfl⟩ := List.exists_cons_of_ne_nil hne
  have hrenders : Renders config owner [] []
      (before ++ ([.text a v p] ++ ((n :: ns) ++ ([.text b w q] ++ after))))
      (linear config owner depth count [] [] cs) := by
    have h : Renders config owner [] [] (Node.outputs cs)
      (linear config owner depth count [] [] cs) := linear_renders
    rwa [hsplit] at h
  have hshown : before ++ .text a v p :: (n :: ns ++ .text b w q :: after) ⊆ Node.outputs cs :=
    fun m hm => hsplit ▸ hm
  -- the pieces of the children before, of the first text, of the run, of the second text and after
  obtain ⟨front, ps, hps, -, h⟩ := hrenders.split
  obtain ⟨first, ps, rfl, hfirst, h⟩ := h.split
  obtain ⟨inner, ps, rfl, hinner, h⟩ := h.split
  obtain ⟨last, back, rfl, hlast, -⟩ := h.split
  obtain rfl := hfirst.text (hshown (by simp))
  obtain rfl := hlast.text (hshown (by simp))
  obtain ⟨hmarkup, hlabels⟩ := hinner.run hdynamic
    (fun m hm => hshown (List.mem_append_right _ (List.mem_cons_of_mem _ (List.mem_append_left _ hm))))
    (Node.followsText_concat _ _)
  exact ⟨front, inner, back, hps, hlabels, hmarkup⟩

theorem compile_separates {config : Config} {depth : Int} {root : Root} {t : Template}
    (h : compile config depth root = .ok t) (hdistinct : root.Distinct) :
    t.Separates config depth root (Node.separator config) where
  written := compile_pieces h hdistinct
  texts cs before between after a b v w p q hcs hsplit hne hdynamic := by
    obtain ⟨owner, level, count, outer, rest, hwithin⟩ := container_writtenIn config depth hcs
    obtain ⟨front, inner, back, hlinear, hlabels, hmarkup⟩ :=
      linear_separates config owner level count hsplit hne hdynamic
    have hall : root.linear config depth = (outer ++ front) ++ (a, .markup (Text.collapse v)) ::
        (inner ++ (b, .markup (Text.collapse w)) :: (back ++ rest)) := by
      rw [← hwithin, hlinear]
      simp only [List.append_assoc, List.cons_append]
    refine ⟨outer ++ front, inner, back ++ rest, hall, hlabels, hmarkup, ?_⟩
    rw [compile_markup h hdistinct, hall, ← hmarkup, markupOf_append, markupOf_cons,
      markupOf_append inner, markupOf_cons]
    rfl

/-- Two texts that only dynamic nodes part are written with one comment between them just if the first
of these nodes is a slot, and otherwise with nothing, in the template of the tree and in those of
the children of its dynamic elements. -/
theorem compile_separates_texts {config : Config} {depth : Int} {root : Root} {t : Template}
    (h : compile config depth root = .ok t) (hdistinct : root.Distinct) :
    t.Separates config depth root (Node.separator config) ∧
    (∀ tree ∈ Node.nested root.nodes, Node.outputs tree ≠ [] →
      ∃ inner t', compile config inner (.list tree) = .ok t' ∧
        t'.Separates config inner (.list tree) (Node.separator config)) ∧
    ∀ between : List Node, Node.separator config between = config.placeholderComment ↔
      between.head?.any Node.isSlot = true := by
  refine ⟨compile_separates h hdistinct, fun tree htree hshown => ?_,
    Node.separator_eq_comment_iff config⟩
  obtain ⟨inner, t', ht⟩ := compile_nested h htree hshown
  have htree : (Root.list tree).Distinct := hdistinct.sublist (Node.nested_labels_sublist htree)
  exact ⟨inner, t', ht, compile_separates ht htree⟩

theorem compile_separates_texts_slot :
    let p : Node := .element 1 "p" []
      [.text 2 "a" .origin, .slot 3 (.parsed (.name "x")) .origin, .element 4 "Card" [] [] .origin,
        .text 5 "b" .origin] .origin
    ∃ t, compile .standard 0 (.node p) = .ok t ∧ (Root.node p).Distinct ∧
      t.strings = ["<p >a<!--\x7b\x7btagwire\x7d\x7d-->", "", "b</p>"] ∧
      t.Separates .standard 0 (.node p) (Node.separator .standard) := by
  intro p
  have h : compile .standard 0 (.node p) = .ok
      ⟨["<p >a<!--\x7b\x7btagwire\x7d\x7d-->", "", "b</p>"],
        [.name "x", elementCall .standard (.name "Card") [] none],
        [⟨.node, some 0, some 0⟩, ⟨.nodeAfterDynamic, some 0, some 1⟩], 1⟩ := by rfl
  have hdistinct : (Root.node p).Distinct := by decide
  exact ⟨_, h, hdistinct, rfl, (compile_separates_texts h hdistinct).1⟩

/-- Around a dynamic element that no slot precedes, two texts are written as one. -/
theorem texts_touch_around_element :
    let p : Node := .element 1 "p" []
      [.text 2 "a" .origin, .element 3 "Card" [] [] .origin, .text 4 "b" .origin] .origin
    ∃ t, compile .standard 0 (.node p) = .ok t ∧ (Root.node p).Distinct ∧
      String.join t.strings = "<p >ab</p>" ∧
      ¬ t.Separates .standard 0 (.node p) fun _ => Config.standard.placeholderComment := by
  intro p
  have h : compile .standard 0 (.node p) = .ok
      ⟨["<p >a", "b</p>"], [elementCall .standard (.name "Card") [] none],
        [⟨.node, some 0, some 0⟩], 1⟩ := by rfl
  refine ⟨_, h, by decide, by decide, fun hseparates => ?_⟩
  obtain ⟨front, inner, back, -, -, -, hjoin⟩ :=
    hseparates.texts p.children [] [.element 3 "Card" [] [] .origin] [] 2 4 "a" "b" .origin .origin
      (.tail _ (List.mem_map_of_mem List.mem_cons_self)) rfl (by simp) (by decide)
  -- the comment alone is longer than all that is written
  have hlength := congrArg String.length hjoin
  simp only [String.length_append] at hlength
  have hshort : (String.join ["<p >a", "b</p>"]).length = 10 := by decide
  have hlong : Config.standard.placeholderComment.length = 18 := by decide
  omega

end SlotMarkup
