import SlotMarkup.Proofs.Emission
import SlotMarkup.Proofs.Siblings

/-! What a tree is written as, by recursion over the tree alone: no table is kept, and each node
sees the output children before and after it in its container. A compilation of a tree in which no
node occurs twice writes just that. -/

namespace SlotMarkup

open SlotMarkup.Host (Expr Entry)

inductive Piece where
  | markup (s : String)
  | slot (value : Except Error Expr) (part : Part)

def Output.toPiece : Output → Piece
  | .markup s => .markup s
  | .slot value part => .slot (.ok value) part

def runValue : List Entry → Expr
  | [entry] => slotValue entry
  | entries => .dict (entries.flatMap fun entry => entriesOf (slotValue entry))

def attributeRun (host : Host.Interpreter) (tag : String) (run : List Attribute) : Except Error Expr := do
  let entries ← run.mapM (Attribute.entry host tag)
  .ok (runValue entries)

def Attribute.markup : Attribute → String
  | .static name value _ => attributeMarkup name value
  | _ => ""

/-- The attributes of a literal element. A maximal run of dynamic ones is written where it starts;
`inRun` says that the attribute right before is dynamic, and `written` counts the literal ones. -/
def linearAttributes (host : Host.Interpreter) (tag : String) (element : Nat) :
    Bool → Nat → List Attribute → List Piece
  | _, _, [] => []
  | inRun, written, a :: as =>
    if a.isDynamicOn tag then
      (if inRun then []
        else [.slot (attributeRun host tag (a :: as.takeWhile (Attribute.isDynamicOn tag)))
          ⟨.attribute, some element, some written⟩, .markup " "]) ++
        linearAttributes host tag element true written as
    else .markup a.markup :: linearAttributes host tag element false (written + 1) as

def slotPart (owner : Option Nat) (before : List Node) (n : Node) : Part :=
  ⟨if Node.followsDynamic before then .nodeAfterDynamic else .node, owner.map Int.ofNat,
    some (Node.slotIndex before n)⟩

mutual
/-- The pieces of a node, each with the label of the node that it comes from. The node stands in
the literal element `owner`, after `count` literal elements, between the output children `before`
and `after` of its container. -/
def linearAt (config : Config) (owner : Option Nat) (depth : Int) (count : Nat)
    (before after : List Node) : Node → List (Nat × Piece)
  | .element label tag attributes children place =>
    match Node.classifyElement tag attributes children with
    | .dynamic =>
      [(label, .slot (elementValue config depth tag attributes children place)
        (slotPart owner before (.element label tag attributes children place)))]
    | .literal =>
      (label, .markup ("<" ++ tag ++ " ")) ::
        (linearAttributes config.host tag count false 0 attributes).map (Prod.mk label) ++
        (label, .markup ">") :: linear config (some count) (depth + 1) (count + 1) [] [] children ++
        if voidTags.contains tag then [] else [(label, .markup ("</" ++ tag ++ ">"))]
  | .text label value _ =>
    if (Text.collapse value).isEmpty then [] else [(label, .markup (Text.collapse value))]
  | .slot label expr place =>
    if expr.isEmpty then []
    else
      (if Node.followsText before && Node.precedesText after then
        [(label, .markup config.placeholderComment)] else []) ++
        [(label, .slot (expr.toExpr config.host place) (slotPart owner before (.slot label expr place)))]
  | .fragment _ children _ => linear config owner (depth + 1) count before after children
  | .foreign label v =>
    [(label, .slot (.error (.classification (.node v.typeName) .unknown))
      (slotPart owner before (.foreign label v)))]

def linear (config : Config) (owner : Option Nat) (depth : Int) (count : Nat)
    (before after : List Node) : List Node → List (Nat × Piece)
  | [] => []
  | n :: ns =>
    linearAt config owner depth count before (Node.outputs ns ++ after) n ++
      linear config owner depth (count + (Node.literalsAt n).length) (before ++ Node.outputs [n])
        after ns
end

def Root.linear (config : Config) (depth : Int) (root : Root) : List (Nat × Piece) :=
  SlotMarkup.linear config none (root.level depth) 0 [] [] root.nodes

section Elements

variable {config : Config} {owner : Option Nat} {depth : Int} {count label : Nat} {tag : String}
  {before after children : List Node} {attributes : List Attribute} {place : Place}

theorem linearAt_dynamic (h : Node.classifyElement tag attributes children = .dynamic) :
    linearAt config owner depth count before after (.element label tag attributes children place) =
      [(label, .slot (elementValue config depth tag attributes children place)
        (slotPart owner before (.element label tag attributes children place)))] := by
  simp only [linearAt, h]

theorem linearAt_literal (h : Node.classifyElement tag attributes children = .literal) :
    linearAt config owner depth count before after (.element label tag attributes children place) =
      (label, .markup ("<" ++ tag ++ " ")) ::
        (linearAttributes config.host tag count false 0 attributes).map (Prod.mk label) ++
        (label, .markup ">") :: linear config (some count) (depth + 1) (count + 1) [] [] children ++
        if voidTags.contains tag then [] else [(label, .markup ("</" ++ tag ++ ">"))] := by
  simp only [linearAt, h]

end Elements

theorem foldl_mergeValues (value : Expr) (entry : Entry) (entries : List Entry) :
    (entry :: entries).foldl (fun v e => mergeValues v (slotValue e)) value =
      .dict (entriesOf value ++ (entry :: entries).flatMap fun e => entriesOf (slotValue e)) := by
  induction entries generalizing value entry with
  | nil => simp [mergeValues]
  | cons e es ih =>
    rw [List.foldl_cons, ih, mergeValues, entriesOf, List.append_assoc]
    rfl

theorem foldl_slotValue (entry : Entry) (entries : List Entry) :
    entries.foldl (fun v e => mergeValues v (slotValue e)) (slotValue entry) =
      runValue (entry :: entries) := by
  cases entries with
  | nil => rfl
  | cons e es => exact foldl_mergeValues (slotValue entry) e es

theorem attributeOutputs_pieces {host : Host.Interpreter} {tag : String} {element : Nat} {as : List Attribute} :
    ∀ {written : Nat} {os : List Output},
      (attributeOutputs host tag element written none as = .ok os →
        os.map Output.toPiece = linearAttributes host tag element false written as) ∧
      ∀ {value : Expr}, attributeOutputs host tag element written (some value) as = .ok os →
        ∃ entries rest,
          (as.takeWhile (Attribute.isDynamicOn tag)).mapM (Attribute.entry host tag) = .ok entries ∧
          os = .slot (entries.foldl (fun v e => mergeValues v (slotValue e)) value)
            ⟨.attribute, some (element : Int), some (written : Int)⟩ :: .markup " " :: rest ∧
          rest.map Output.toPiece = linearAttributes host tag element true written as := by
  induction as with
  | nil =>
    intro written os
    constructor
    · intro h
      cases h
      rfl
    · intro value h
      cases h
      exact ⟨[], [], rfl, rfl, rfl⟩
  | cons a as ih =>
    intro written os
    constructor
    · intro h
      obtain ⟨hdynamic, entry, hentry, h⟩ | ⟨hliteral, name, value, place, rest, rfl, hrest, rfl⟩ :=
        attributeOutputs_cons h
      · obtain ⟨entries, rest, hentries, rfl, hrest⟩ := ih.2 h
        have hrun : attributeRun host tag (a :: as.takeWhile (Attribute.isDynamicOn tag)) =
            .ok (runValue (entry :: entries)) := by
          rw [attributeRun, List.mapM_cons, hentry, hentries]
          rfl
        rw [linearAttributes, if_pos hdynamic, hrun, ← foldl_slotValue, ← hrest]
        rfl
      · rw [linearAttributes, if_neg (Bool.not_eq_true _ ▸ hliteral), ← ih.1 hrest]
        rfl
    · -- the run is open: a dynamic attribute prolongs it, a literal one closes it
      intro last h
      obtain ⟨hdynamic, entry, hentry, h⟩ | ⟨hliteral, name, value, place, rest, rfl, hrest, rfl⟩ :=
        attributeOutputs_cons h
      · obtain ⟨entries, rest, hentries, rfl, hrest⟩ := ih.2 h
        refine ⟨entry :: entries, rest, ?_, rfl, ?_⟩
        · rw [List.takeWhile_cons_of_pos hdynamic, List.mapM_cons, hentry, hentries]
          rfl
        · rw [linearAttributes, if_pos hdynamic, hrest]
          rfl
      · refine ⟨[], .markup (attributeMarkup name value) :: rest, ?_, rfl, ?_⟩
        · rw [List.takeWhile_cons_of_neg (Bool.not_eq_true _ ▸ hliteral)]
          rfl
        · rw [linearAttributes, if_neg (Bool.not_eq_true _ ▸ hliteral), ← ih.1 hrest]
          rfl

def Scope.Around (scope : Scope) (before ns after : List Node) : Prop :=
  ∃ children, scope.layout = Layout.ofChildren children ∧
    Node.outputs children = before ++ Node.outputs ns ++ after ∧
    ((Node.outputs children).map Node.label).Nodup

namespace Scope.Around

variable {scope : Scope} {before ns after : List Node} {n : Node}

theorem ofChildren {owner : Option Nat} {children : List Node} (h : (Node.labels children).Nodup) :
    Around ⟨owner, Layout.ofChildren children⟩ [] children [] :=
  ⟨children, rfl, by simp, Node.outputs_labels_nodup h⟩

theorem tail (h : scope.Around before (n :: ns) after) :
    scope.Around (before ++ Node.outputs [n]) ns after := by
  obtain ⟨children, hlayout, hsplit, hlabels⟩ := h
  refine ⟨children, hlayout, ?_, hlabels⟩
  rw [hsplit, Node.outputs_cons]
  simp only [List.append_assoc]

theorem below {label : Nat} {children : List Node} {place : Place}
    (h : scope.Around before (.fragment label children place :: ns) after) :
    scope.Around before children (Node.outputs ns ++ after) := by
  obtain ⟨siblings, hlayout, hsplit, hlabels⟩ := h
  refine ⟨siblings, hlayout, ?_, hlabels⟩
  rw [hsplit, Node.outputs_cons, Node.outputs_fragment]
  simp only [List.append_assoc]

theorem split (h : scope.Around before (n :: ns) after) (hshown : Node.outputs [n] = [n]) :
    ∃ children, scope.layout = Layout.ofChildren children ∧
      Node.outputs children = before ++ n :: (Node.outputs ns ++ after) ∧
      ((Node.outputs children).map Node.label).Nodup := by
  obtain ⟨children, hlayout, hsplit, hlabels⟩ := h
  refine ⟨children, hlayout, ?_, hlabels⟩
  rw [hsplit, Node.outputs_cons, hshown]
  simp only [List.append_assoc, List.cons_append, List.nil_append]

theorem part_eq {l : Layout} (h : scope.Around before (n :: ns) after)
    (hshown : Node.outputs [n] = [n]) (hdynamic : n.isDynamic = true) (hl : scope.layout = .ok l) :
    Scope.part (some scope) l n.label = slotPart scope.owner before n := by
  obtain ⟨children, hlayout, hsplit, hlabels⟩ := h.split hshown
  rw [Scope.part_eq, Layout.position_eq (hlayout ▸ hl) hsplit hlabels hdynamic]
  rfl

theorem isWrapped_eq {l : Layout} (h : scope.Around before (n :: ns) after)
    (hshown : Node.outputs [n] = [n]) (hdynamic : n.isDynamic = true) (hl : scope.layout = .ok l) :
    l.isWrapped n.label =
      (Node.followsText before && Node.precedesText (Node.outputs ns ++ after)) := by
  obtain ⟨children, hlayout, hsplit, hlabels⟩ := h.split hshown
  exact Layout.isWrapped_eq (hlayout ▸ hl) hsplit hlabels hdynamic

end Scope.Around

/-- The outputs of a list of nodes without repeated labels are its pieces. -/
theorem emits_linear {config : Config} {scope : Scope} {depth : Int} {count next : Nat}
    {ns : List Node} {os : List Output} (h : Emits config scope depth count ns os next) :
    ∀ {before after : List Node}, scope.Around before ns after → (Node.labels ns).Nodup →
      os.map Output.toPiece =
        (linear config scope.owner depth count before after ns).map Prod.snd := by
  -- The siblings on both sides stay general: a fragment is no container, and its children go on among
  -- those of the fragment itself.
  induction h with
  | nil => intro before after _ _; rfl
  | @text scope depth count next label value place ns os rest ih =>
    intro before after haround hlabels
    rw [linear, List.map_append, List.map_append,
      ih haround.tail (List.nodup_append.mp hlabels).2.1, linearAt, textOutputs]
    split <;> rfl
  | @emptySlot scope depth count next label expr place ns os empty rest ih =>
    intro before after haround hlabels
    rw [linear, List.map_append, ih haround.tail (List.nodup_append.mp hlabels).2.1, linearAt,
      if_pos empty]
    rfl
  | @slot scope depth count next label expr place ns os layout value shown around parsed rest ih =>
    intro before after haround hlabels
    have houtputs := Node.outputs_slot shown label place
    have hpart := haround.part_eq houtputs rfl around
    have hwrapped := haround.isWrapped_eq houtputs rfl around
    rw [Node.label] at hpart hwrapped
    rw [linear, List.map_append, List.map_append, List.map_cons,
      ih haround.tail (List.nodup_append.mp hlabels).2.1, hpart, hwrapped, linearAt, if_neg (by simp [shown]),
      parsed, separatorOutputs]
    split <;> rfl
  | @fragment scope depth inner count middle next label place children ns body os entered below rest
      hbelow hrest =>
    intro before after haround hlabels
    obtain rfl := enter_eq entered
    obtain rfl := below.count_eq
    obtain ⟨hlabels₁, hlabels₂, -⟩ := List.nodup_append.mp hlabels
    rw [linear, List.map_append, List.map_append, hbelow haround.below (List.nodup_cons.mp hlabels₁).2,
      hrest haround.tail hlabels₂]
    rfl
  | @dynamic scope depth count next label tag place attributes children ns os layout value kind
      built around rest ih =>
    intro before after haround hlabels
    have hpart := haround.part_eq rfl (Node.isDynamic_of_kind kind) around
    rw [Node.label] at hpart
    rw [linear, List.map_append, List.map_cons, ih haround.tail (List.nodup_append.mp hlabels).2.1, hpart]
    rw [linearAt_dynamic kind, Node.literalsAt_dynamic kind, built]
    rfl
  | @literal scope depth inner count middle next label tag place attributes children ns opening body
      os kind entered opened below rest hbelow hrest =>
    intro before after haround hlabels
    obtain rfl := enter_eq entered
    obtain rfl := below.count_eq
    -- the children have a container of their own: nothing stands around them in it
    obtain ⟨hlabels₁, hlabels₂, -⟩ := List.nodup_append.mp hlabels
    have hchildren := (List.nodup_cons.mp hlabels₁).2
    have hattributes : opening.map Output.toPiece = _ := attributeOutputs_pieces.1 opened
    have hbody := hbelow (Scope.Around.ofChildren hchildren) hchildren
    have hclosing : (closingOutputs tag).map Output.toPiece =
        (if voidTags.contains tag then [] else
          [(label, Piece.markup ("</" ++ tag ++ ">"))]).map Prod.snd := by
      unfold closingOutputs
      split <;> rfl
    have hlabel : (linearAttributes config.host tag count false 0 attributes).map (Prod.snd ∘ Prod.mk label) =
        linearAttributes config.host tag count false 0 attributes := List.map_id _
    rw [linear, Node.add_length_literalsAt kind, linearAt_literal kind]
    simp only [List.map_append, List.map_cons, List.map_map, hattributes, hbody, hclosing, hlabel,
      hrest haround.tail hlabels₂]
    rfl

theorem compile_pieces {config : Config} {depth : Int} {root : Root} {t : Template}
    (h : compile config depth root = .ok t) (hdistinct : root.Distinct) :
    ∃ os, t = .ofOutputs os (Node.literals root.nodes).length ∧
      os.map Output.toPiece = (root.linear config depth).map Prod.snd := by
  obtain ⟨os, count, hos, rfl⟩ := compile_emits h
  have hcount := hos.count_eq
  rw [Nat.zero_add] at hcount
  exact ⟨os, by rw [hcount], emits_linear hos (Scope.Around.ofChildren hdistinct) hdistinct⟩

inductive Token where
  | text (s : String)
  | value (e : Except Error Expr)

def Piece.token : Piece → Token
  | .markup s => .text s
  | .slot value _ => .value value

def interleave : List String → List Expr → List Token
  | s :: ss, e :: es => .text s :: .value (.ok e) :: interleave ss es
  | ss, _ => ss.map Token.text

/-- Neighbouring texts are joined; there is one text, maybe empty, around any two values. -/
def coalesce : List Token → List Token
  | [] => [.text ""]
  | .value e :: ts => .text "" :: .value e :: coalesce ts
  | .text s :: ts =>
    match coalesce ts with
    | .text s' :: rest => .text (s ++ s') :: rest
    | rest => .text s :: rest

theorem interleave_stretches (os : List Output) :
    interleave ((Template.stretches os).map String.join) (Template.valuesOf os) =
      coalesce (os.map fun o => o.toPiece.token) := by
  induction os with
  | nil => rfl
  | cons o os ih =>
    cases o with
    | slot value part => exact congrArg (fun ts => Token.text "" :: .value (.ok value) :: ts) ih
    | markup s =>
      obtain ⟨p, ps, hps⟩ := Template.stretches_eq_cons os
      change _ = coalesce (.text s :: os.map fun o => o.toPiece.token)
      rw [coalesce, ← ih, Template.stretches, Template.valuesOf, hps, List.map_cons, List.map_cons,
        String.join_cons]
      cases Template.valuesOf os <;> rfl

/-- The strings and values of a template, in turn, are the pieces of the tree in document order, with
neighbouring markup joined: no piece is lost, repeated or moved. -/
theorem compile_interleaves_linear {config : Config} {depth : Int} {root : Root} {t : Template}
    (h : compile config depth root = .ok t) (hdistinct : root.Distinct) :
    interleave t.strings t.values =
      coalesce ((root.linear config depth).map fun p => p.2.token) := by
  obtain ⟨os, rfl, hos⟩ := compile_pieces h hdistinct
  have htokens := congrArg (List.map Piece.token) hos
  rw [List.map_map, List.map_map] at htokens
  exact (interleave_stretches os).trans (congrArg coalesce htokens)

theorem compile_interleaves_linear_paragraph :
    let p : Node := .element 1 "p"
      [.static "lang" "en" .origin, .dynamic "id" (.parsed (.name "x")) .origin,
        .spread (.parsed (.name "rest")) .origin]
      [.text 2 "a" .origin, .slot 3 (.parsed (.name "y")) .origin,
        .fragment 4 [.slot 5 (.parsed (.name "z")) .origin, .text 6 "b" .origin] .origin] .origin
    ∃ t, compile .standard 0 (.node p) = .ok t ∧ (Root.node p).Distinct ∧
      interleave t.strings t.values =
        [.text "<p  lang=\"en\"",
          .value (.ok (.dict [.mk (some (.ofText "id")) (.name "x"), .mk none (.name "rest")])),
          .text " >a<!--\x7b\x7btagwire\x7d\x7d-->", .value (.ok (.name "y")), .text "",
          .value (.ok (.name "z")), .text "b</p>"] := by
  intro p
  have h : compile .standard 0 (.node p) = .ok
      ⟨["<p  lang=\"en\"", " >a<!--\x7b\x7btagwire\x7d\x7d-->", "", "b</p>"],
        [.dict [.mk (some (.ofText "id")) (.name "x"), .mk none (.name "rest")], .name "y", .name "z"],
        [⟨.attribute, some 0, some 1⟩, ⟨.node, some 0, some 0⟩, ⟨.nodeAfterDynamic, some 0, some 1⟩],
        1⟩ := rfl
  have hdistinct : (Root.node p).Distinct := by decide
  exact ⟨_, h, hdistinct, (compile_interleaves_linear h hdistinct).trans rfl⟩

end SlotMarkup
