import SlotMarkup.Proofs.CollapsedText
import SlotMarkup.Proofs.TextReplacement

/-! Two neighbouring texts and one text that reads like both. They count as one child of the markup either
way, so no sibling has another place because of it, and the markup around them is the same. -/

namespace SlotMarkup

open SlotMarkup.Host (Expr)

namespace Layout

theorem positions_split (ks ls : List ChildKind) (count : Int) (before : Option ChildKind) :
    positions count before (ks ++ ls) =
      positions count before ks ++ positions (count + opened before ks) (lastKind before ks) ls := by
  induction ks generalizing count before with
  | nil => simp [positions, opened, lastKind]
  | cons k ks ih =>
    rw [List.cons_append, positions_cons, ih, positions_cons, lastKind_cons, opened, Int.natCast_add,
      Int.add_assoc, List.cons_append]

theorem positions_texts (count : Int) (before : Option ChildKind) (ks : List ChildKind) :
    ∃ p q later, positions count before (.text :: .text :: ks) = p :: q :: later ∧
      positions count before (.text :: ks) = p :: later := by
  have hopens : opens (some .text) .text = 0 := rfl
  rw [positions_cons, positions_cons, positions_cons, hopens, Int.natCast_zero, Int.add_zero]
  exact ⟨_, _, _, rfl, rfl⟩

theorem textAfter_split (ks : List ChildKind) {ls ls' : List ChildKind}
    (h : (textAfter ls).2 = (textAfter ls').2) :
    (textAfter (ks ++ ls)).2 = (textAfter (ks ++ ls')).2 ∧
    ∃ flags : List Bool, flags.length = ks.length ∧
      (textAfter (ks ++ ls)).1 = flags ++ (textAfter ls).1 ∧
      (textAfter (ks ++ ls')).1 = flags ++ (textAfter ls').1 := by
  induction ks with
  | nil => exact ⟨h, [], rfl, rfl, rfl⟩
  | cons k ks ih =>
    obtain ⟨hlater, flags, hlength, hflags, hflags'⟩ := ih
    rw [List.cons_append, List.cons_append, textAfter_cons, textAfter_cons, hlater]
    refine ⟨rfl, (textAfter (ks ++ ls')).2 :: flags, ?_, ?_, ?_⟩
    · rw [List.length_cons, List.length_cons, hlength]
    · rw [hflags, List.cons_append]
    · rw [hflags', List.cons_append]

/-- The rows of all other children are the same whether there are two texts or one. -/
theorem tabulate_texts (before after : List Node) {a b c : Node} (ha : a.childKind = .text)
    (hb : b.childKind = .text) (hc : c.childKind = .text) :
    ∃ (rows rows' : List Row) (ra rb rc : Row),
      tabulate (before ++ a :: b :: after) = rows ++ ra :: rb :: rows' ∧
      tabulate (before ++ c :: after) = rows ++ rc :: rows' ∧
      ra.label = a.label ∧ rb.label = b.label ∧ rc.label = c.label := by
  obtain ⟨p, q, later, htwo, hone⟩ := positions_texts (-1 + opened none (before.map Node.childKind))
    (lastKind none (before.map Node.childKind)) (after.map Node.childKind)
  have htext : (textAfter (.text :: .text :: after.map Node.childKind)).2 =
      (textAfter (.text :: after.map Node.childKind)).2 := rfl
  obtain ⟨-, flags, hflags, htwo', hone'⟩ := textAfter_split (before.map Node.childKind) htext
  have hfirst : (positions (-1) none (before.map Node.childKind)).length = flags.length := by
    rw [length_positions, hflags]
  have hbefore : before.length =
      ((positions (-1) none (before.map Node.childKind)).zip flags).length := by
    rw [List.length_zip, hfirst, Nat.min_self, hflags, List.length_map]
  unfold tabulate
  simp only [List.map_append, List.map_cons, ha, hb, hc, positions_split, htwo, hone, htwo', hone',
    textAfter_cons, List.zip_append hfirst, List.zip_append hbefore, List.zip_cons_cons]
  exact ⟨_, _, _, _, _, rfl, rfl, rfl, rfl, rfl⟩

theorem row?_skip {rows rows' between : List Row} {label : Nat} (h : ∀ r ∈ between, r.label ≠ label) :
    row? ⟨rows ++ between ++ rows'⟩ label = row? ⟨rows ++ rows'⟩ label := by
  have hnone : between.reverse.find? (fun r => r.label == label) = none := by
    rw [List.find?_eq_none]
    intro r hr
    simpa using h r (List.mem_reverse.mp hr)
  simp [row?, List.find?_append, hnone]

end Layout

theorem Node.outputs_cons_shownText {n : Node} (h : n.isShownText = true) (ns : List Node) :
    outputs (n :: ns) = n :: outputs ns := by
  obtain ⟨label, value, place, rfl, hshown⟩ := isShownText_iff.mp h
  rw [outputs_cons, outputs_text, if_neg (by simpa using hshown), List.singleton_append]

theorem Node.outputs_cons_element (label : Nat) (tag : String) (attributes : List Attribute)
    (children : List Node) (place : Place) (ns : List Node) :
    outputs (.element label tag attributes children place :: ns) =
      .element label tag attributes children place :: outputs ns := by
  rw [outputs_cons, outputs_element, List.singleton_append]

theorem Layout.ofChildren_texts {before after : List Node} {a b c : Node} {label : Nat}
    (ha : a.isShownText = true) (hb : b.isShownText = true) (hc : c.isShownText = true)
    (hother : a.label ≠ label ∧ b.label ≠ label ∧ c.label ≠ label) :
    (fun l => row? l label) <$> ofChildren (before ++ a :: b :: after) =
      (fun l => row? l label) <$> ofChildren (before ++ c :: after) := by
  have htwo : Node.outputs (before ++ a :: b :: after) =
      Node.outputs before ++ a :: b :: Node.outputs after := by
    rw [Node.outputs_append, Node.outputs_cons_shownText ha, Node.outputs_cons_shownText hb]
  have hone : Node.outputs (before ++ c :: after) = Node.outputs before ++ c :: Node.outputs after := by
    rw [Node.outputs_append, Node.outputs_cons_shownText hc]
  have hkind : ∀ {n : Node}, n.isShownText = true → n.childKind = .text ∧ unindexable? n = none := by
    intro n hn
    obtain ⟨label, value, place, rfl, -⟩ := Node.isShownText_iff.mp hn
    exact ⟨rfl, rfl⟩
  obtain ⟨rows, rows', ra, rb, rc, htable, htable', hra, hrb, hrc⟩ := tabulate_texts
    (Node.outputs before) (Node.outputs after) (hkind ha).1 (hkind hb).1 (hkind hc).1
  obtain ⟨hla, hlb, hlc⟩ := hother
  -- the rows of the texts are passed over, and the other rows are the same
  have hrow : row? ⟨rows ++ ra :: rb :: rows'⟩ label = row? ⟨rows ++ rows'⟩ label := by
    have hskip := @row?_skip rows rows' [ra, rb] label (by simp [hra, hrb, hla, hlb])
    simpa using hskip
  have hrow' : row? ⟨rows ++ rc :: rows'⟩ label = row? ⟨rows ++ rows'⟩ label := by
    have hskip := @row?_skip rows rows' [rc] label (by simp [hrc, hlc])
    simpa using hskip
  have hfaults : (Node.outputs before ++ a :: b :: Node.outputs after).findSome? unindexable? =
      (Node.outputs before ++ c :: Node.outputs after).findSome? unindexable? := by
    simp [List.findSome?_append, (hkind ha).2, (hkind hb).2, (hkind hc).2]
  simp only [ofChildren, htwo, hone, hfaults, htable, htable']
  split
  · rfl
  · exact congrArg Except.ok (hrow.trans hrow'.symm)

theorem Layout.tabulate_congr {ns ns' : List Node} (hlabels : ns.map Node.label = ns'.map Node.label)
    (hkinds : ns.map Node.childKind = ns'.map Node.childKind) : tabulate ns = tabulate ns' := by
  have htable : ∀ ms : List Node, tabulate ms = ((ms.map Node.label).zip
      ((positions (-1) none (ms.map Node.childKind)).zip (textAfter (ms.map Node.childKind)).1)).map
        fun (label, (position, textBefore), after) => ⟨label, position, textBefore && after⟩ := by
    intro ms
    rw [tabulate, List.zip_map_left, List.map_map]
    rfl
  rw [htable, htable, hlabels, hkinds]

section Scopes

variable {config : Config}

def Row.part (owner : Option Nat) (row : Option Row) : Part :=
  let position := (row.map Row.position).getD .first
  ⟨if position.afterDynamic then .nodeAfterDynamic else .node, owner.map Int.ofNat, some position.previous⟩

theorem Scope.part_row (scope : Scope) (layout : Layout) (label : Nat) :
    Scope.part (some scope) layout label = Row.part scope.owner (layout.row? label) := by
  rw [Scope.part_eq, Layout.position, Row.part]

structure Scope.Agree (scope scope' : Scope) (ns : List Node) : Prop where
  owner : scope.owner = scope'.owner
  rows : ∀ n ∈ Node.outputs ns,
    (fun l => Layout.row? l n.label) <$> scope.layout = (fun l => Layout.row? l n.label) <$> scope'.layout

namespace Scope.Agree

variable {scope scope' : Scope} {n : Node} {ns : List Node}

theorem head (h : scope.Agree scope' (n :: ns)) : scope.Agree scope' [n] := by
  refine ⟨h.owner, fun m hm => h.rows m ?_⟩
  rw [Node.outputs_cons]
  exact List.mem_append_left _ hm

theorem tail (h : scope.Agree scope' (n :: ns)) : scope.Agree scope' ns := by
  refine ⟨h.owner, fun m hm => h.rows m ?_⟩
  rw [Node.outputs_cons]
  exact List.mem_append_right _ hm

theorem layout {γ : Type} (h : scope.Agree scope' ns) (hn : n ∈ Node.outputs ns)
    (f : Bool → Part → Except Error γ) :
    (scope.layout >>= fun l => f (l.isWrapped n.label) (Scope.part (some scope) l n.label)) =
      scope'.layout >>= fun l => f (l.isWrapped n.label) (Scope.part (some scope') l n.label) := by
  have hrow : ∀ s : Scope, (s.layout >>= fun l => f (l.isWrapped n.label) (Scope.part (some s) l n.label)) =
      ((fun l => Layout.row? l n.label) <$> s.layout) >>= fun row =>
        f ((row.map Row.wrapped).getD false) (Row.part s.owner row) := by
    intro s
    rw [bind_map_left]
    refine congrArg (s.layout >>= ·) (funext fun l => ?_)
    rw [Scope.part_row, Layout.isWrapped]
  rw [hrow, hrow, h.rows n hn, h.owner]

end Scope.Agree

theorem nodesOutputs_cons_congr {scope scope' : Scope} {n : Node} {ns : List Node} {depth : Int} {count : Nat}
    (hn : nodeOutputs config (some scope) depth count n = nodeOutputs config (some scope') depth count n)
    (hns : ∀ count, nodesOutputs config (some scope) depth count ns =
      nodesOutputs config (some scope') depth count ns) :
    nodesOutputs config (some scope) depth count (n :: ns) =
      nodesOutputs config (some scope') depth count (n :: ns) := by
  simp only [nodesOutputs_cons, hn, hns]

theorem nodesOutputs_congr {scope scope' : Scope} {ns : List Node} (h : scope.Agree scope' ns) :
    ∀ (depth : Int) (count : Nat),
      nodesOutputs config (some scope) depth count ns = nodesOutputs config (some scope') depth count ns := by
  induction ns using Node.forest_induction with
  | nil => exact fun depth count => rfl
  | element label tag attributes children place ns _ hrest =>
    intro depth count
    refine nodesOutputs_cons_congr ?_ (hrest h.tail depth)
    cases hkind : Node.classifyElement tag attributes children with
    | literal =>
      -- a literal element gives its children a scope of its own and never asks for the one around it
      simp only [nodeOutputs, hkind, Scope.below]
    | dynamic =>
      rw [nodeOutputs_dynamic hkind, nodeOutputs_dynamic hkind]
      refine congrArg (elementValue config depth tag attributes children place >>= ·) (funext fun value => ?_)
      exact h.head.layout List.mem_cons_self fun _ part => .ok ([Output.slot value part], count)
  | text label value place ns hrest =>
    exact fun depth count => nodesOutputs_cons_congr rfl (hrest h.tail depth)
  | slot label expr place ns hrest =>
    intro depth count
    refine nodesOutputs_cons_congr ?_ (hrest h.tail depth)
    rw [nodeOutputs, nodeOutputs]
    cases hempty : expr.isEmpty with
    | true => rfl
    | false =>
      have hshown := Node.outputs_slot hempty label place
      have hself : Node.slot label expr place ∈ Node.outputs [.slot label expr place] := by simp [hshown]
      exact h.head.layout hself fun wrapped part => do
        let value ← expr.toExpr config.host place
        .ok (separatorOutputs config wrapped ++ [Output.slot value part], count)
  | fragment label children place ns hbelow hrest =>
    intro depth count
    refine nodesOutputs_cons_congr ?_ (hrest h.tail depth)
    have hchildren : scope.Agree scope' children := by
      refine ⟨h.owner, fun n hn => h.head.rows n ?_⟩
      rw [Node.outputs_fragment]
      exact hn
    rw [nodeOutputs, nodeOutputs]
    refine congrArg (enter config depth place >>= ·) (funext fun inner => ?_)
    exact hbelow hchildren inner count
  | foreign label value ns hrest => exact fun depth count => rfl

end Scopes

namespace Template

theorem strings_markup (s : String) (os : List Output) :
    (stretches (.markup s :: os)).map String.join =
      ((stretches os).map String.join).modifyHead (s ++ ·) := by
  obtain ⟨p, ps, hps⟩ := stretches_eq_cons os
  rw [stretches, hps]
  simp [String.join_cons]

theorem strings_append_congr {os os' : List Output} (front : List Output)
    (h : (stretches os).map String.join = (stretches os').map String.join) :
    (stretches (front ++ os)).map String.join = (stretches (front ++ os')).map String.join := by
  induction front with
  | nil => exact h
  | cons o front ih =>
    cases o with
    | markup s => rw [List.cons_append, List.cons_append, strings_markup, strings_markup, ih]
    | slot value part => exact congrArg ("" :: ·) ih

end Template

/-- Nothing is changed, or two pieces of markup next to each other are written as one. -/
inductive Fuses : List Output → List Output → Prop
  | same (os : List Output) : Fuses os os
  | markup (front back : List Output) (s s' : String) :
      Fuses (front ++ .markup s :: .markup s' :: back) (front ++ .markup (s ++ s') :: back)

theorem Fuses.frame {os os' : List Output} (h : Fuses os os') (front back : List Output) :
    Fuses (front ++ (os ++ back)) (front ++ (os' ++ back)) := by
  cases h with
  | same => exact .same _
  | markup front' back' s s' =>
    have hframe := Fuses.markup (front ++ front') (back' ++ back) s s'
    simpa using hframe

theorem Fuses.ofOutputs {os os' : List Output} (h : Fuses os os') (count : Nat) :
    Template.ofOutputs os count = Template.ofOutputs os' count := by
  cases h with
  | same => rfl
  | markup front back s s' =>
    have hstrings : (Template.stretches (.markup s :: .markup s' :: back)).map String.join =
        (Template.stretches (.markup (s ++ s') :: back)).map String.join := by
      rw [Template.strings_markup, Template.strings_markup, Template.strings_markup, List.modifyHead_modifyHead]
      refine congrArg (List.modifyHead · _) (funext fun r => ?_)
      exact (String.append_assoc ..).symm
    simp only [Template.ofOutputs, Template.strings_append_congr front hstrings, Template.valuesOf_append,
      Template.partsOf_append, Template.valuesOf, Template.partsOf]

inductive Joins : List Node → List Node → Prop
  | here {before after : List Node} {a b c : Nat} {v w : String} {p q r : Place}
      (first : Text.collapse v ≠ "") (second : Text.collapse w ≠ "")
      (apart : ∀ n ∈ Node.outputs before ++ Node.outputs after, n.label ≠ a ∧ n.label ≠ b ∧ n.label ≠ c) :
      Joins (before ++ .text a v p :: .text b w q :: after)
        (before ++ .text c (Text.collapse v ++ Text.collapse w) r :: after)
  | inside {before after children children' : List Node} {label : Nat} {tag : String}
      {attributes : List Attribute} {place : Place} (inner : Joins children children') :
      Joins (before ++ .element label tag attributes children place :: after)
        (before ++ .element label tag attributes children' place :: after)

namespace Joins

variable {ns ns' : List Node}

theorem live_eq (h : Joins ns ns') : Node.live ns' = Node.live ns := by
  induction h with
  | here first second apart =>
    rw [Node.live_append, Node.live_append]
    rfl
  | inside inner ih =>
    rw [Node.live_append, Node.live_append, Node.live, Node.live, Node.liveAt, Node.liveAt, ih]

theorem classifyElement_eq (h : Joins ns ns') (tag : String) (attributes : List Attribute) :
    Node.classifyElement tag attributes ns' = Node.classifyElement tag attributes ns := by
  simp only [Node.classifyElement, Node.hasLivePart_eq, h.live_eq]

theorem isShownText_joined {v w : String} (label : Nat) (place : Place) (h : Text.collapse v ≠ "") :
    Node.isShownText (.text label (Text.collapse v ++ Text.collapse w) place) = true := by
  refine Node.isShownText_iff.mpr ⟨label, _, place, rfl, ?_⟩
  rw [Text.collapse_collapse_append]
  exact fun hempty => h (String.append_eq_empty_iff.mp hempty).1

theorem outputs_ne_nil (h : Joins ns ns') : Node.outputs ns ≠ [] ∧ Node.outputs ns' ≠ [] := by
  cases h with
  | @here before after a b c v w p q r first second apart =>
    have ha : Node.isShownText (.text a v p) = true := Node.isShownText_iff.mpr ⟨a, v, p, rfl, first⟩
    have hc := @isShownText_joined v w c r first
    rw [Node.outputs_append, Node.outputs_append, Node.outputs_cons_shownText ha,
      Node.outputs_cons_shownText hc]
    simp
  | inside inner =>
    rw [Node.outputs_append, Node.outputs_append, Node.outputs_cons_element, Node.outputs_cons_element]
    simp

/-- The two lists are written alike, each in the layout of its own container. -/
def Alike (config : Config) (ns ns' : List Node) : Prop :=
  ∀ (owner : Option Nat) (depth : Int) (count next : Nat) (os : List Output),
    nodesOutputs config (some ⟨owner, Layout.ofChildren ns⟩) depth count ns = .ok (os, next) →
      ∃ os', nodesOutputs config (some ⟨owner, Layout.ofChildren ns'⟩) depth count ns' = .ok (os', next) ∧
        Fuses os os'

theorem Alike.compile {config : Config} (h : Alike config ns ns') {depth : Int} {t : Template}
    (ht : compile config depth (.list ns) = .ok t) : compile config depth (.list ns') = .ok t := by
  obtain ⟨inner, hinner, ht⟩ := bind_eq_ok.mp ht
  obtain ⟨⟨os, count⟩, hos, ht⟩ := bind_eq_ok.mp ht
  cases ht
  obtain ⟨os', hos', hfuses⟩ := h none inner 0 count os hos
  rw [compile_list, hinner, ok_bind, Scope.ofRoot, hos', ok_bind, hfuses.ofOutputs count]

theorem elementValue_eq {config : Config} (h : Joins ns ns') (halike : Alike config ns ns') {depth : Int}
    {tag : String} {attributes : List Attribute} {place : Place} {e : Expr}
    (he : elementValue config depth tag attributes ns place = .ok e) :
    elementValue config depth tag attributes ns' place = .ok e := by
  -- children are shown before and after, so both calls have an entry for them
  obtain ⟨hshown, hshown'⟩ := h.outputs_ne_nil
  have hany : ∀ {ms : List Node}, Node.outputs ms ≠ [] → (Node.inlined ms).any Node.givesOutput = true := by
    intro ms hms
    rw [any_givesOutput]
    simpa using hms
  obtain ⟨inner, hinner, he⟩ := bind_eq_ok.mp he
  obtain ⟨type, htype, he⟩ := bind_eq_ok.mp he
  obtain ⟨⟨entries, key⟩, hproperties, he⟩ := bind_eq_ok.mp he
  dsimp only at he
  rw [if_pos (hany hshown)] at he
  obtain ⟨t, ht, he⟩ := bind_eq_ok.mp he
  rw [elementValue, hinner, ok_bind, htype, ok_bind, hproperties, ok_bind]
  dsimp only
  rw [if_pos (hany hshown'), halike.compile ht]
  exact he

theorem ofChildren_eq {before after : List Node} {label : Nat} {tag : String} {attributes : List Attribute}
    {place : Place} (h : Joins ns ns') :
    Layout.ofChildren (before ++ .element label tag attributes ns' place :: after) =
      Layout.ofChildren (before ++ .element label tag attributes ns place :: after) := by
  have hkind : Node.childKind (.element label tag attributes ns' place) =
      Node.childKind (.element label tag attributes ns place) := by
    rw [Node.childKind, Node.childKind, Node.isStatic, Node.isStatic, h.classifyElement_eq]
    rfl
  have htable : Layout.tabulate
      (Node.outputs before ++ .element label tag attributes ns' place :: Node.outputs after) =
        Layout.tabulate
          (Node.outputs before ++ .element label tag attributes ns place :: Node.outputs after) := by
    refine Layout.tabulate_congr ?_ ?_
    · simp [Node.label]
    · simp [hkind]
  simp only [Layout.ofChildren, Node.outputs_append, Node.outputs_cons_element, htable,
    List.findSome?_append, List.findSome?_cons, Layout.unindexable?]

theorem element_alike {config : Config} (h : Joins ns ns') (halike : Alike config ns ns') {scope : Scope}
    {depth : Int} {count next label : Nat} {tag : String} {attributes : List Attribute} {place : Place}
    {os : List Output}
    (hos : nodeOutputs config (some scope) depth count (.element label tag attributes ns place) =
      .ok (os, next)) :
    ∃ os', nodeOutputs config (some scope) depth count (.element label tag attributes ns' place) =
      .ok (os', next) ∧ Fuses os os' := by
  have hkind' := h.classifyElement_eq tag attributes
  cases hkind : Node.classifyElement tag attributes ns with
  | dynamic =>
    rw [hkind] at hkind'
    rw [nodeOutputs_dynamic hkind] at hos
    obtain ⟨value, hvalue, hos⟩ := bind_eq_ok.mp hos
    rw [nodeOutputs_dynamic hkind', h.elementValue_eq halike hvalue]
    exact ⟨os, hos, .same os⟩
  | literal =>
    rw [hkind] at hkind'
    simp only [nodeOutputs, hkind, hkind', Scope.below, Node.children] at hos ⊢
    obtain ⟨inner, hinner, hos⟩ := bind_eq_ok.mp hos
    obtain ⟨opening, hopening, hos⟩ := bind_eq_ok.mp hos
    obtain ⟨⟨body, last⟩, hbody, hos⟩ := bind_eq_ok.mp hos
    obtain ⟨body', hbody', hfuses⟩ := halike (some count) inner (count + 1) last body hbody
    cases hos
    have hframe := hfuses.frame (.markup ("<" ++ tag ++ " ") :: opening ++ [.markup ">"]) (closingOutputs tag)
    rw [hinner, ok_bind, hopening, ok_bind, Scope.ofElement, hbody', ok_bind]
    refine ⟨_, rfl, ?_⟩
    simpa [closingOutputs] using hframe

theorem nodesOutputs_text (config : Config) (scope : Scope) (depth : Int) (count label : Nat)
    (value : String) (place : Place) (ns : List Node) :
    nodesOutputs config (some scope) depth count (.text label value place :: ns) =
      (nodesOutputs config (some scope) depth count ns >>= fun r => .ok (textOutputs value ++ r.1, r.2)) := rfl

theorem textOutputs_of_ne {value : String} (h : Text.collapse value ≠ "") :
    textOutputs value = [.markup (Text.collapse value)] := by
  rw [textOutputs, if_neg (by simpa using h)]

section Here

variable {before after : List Node} {a b : Nat} (c : Nat) {v w : String} {p q : Place} (r : Place)
  (first : Text.collapse v ≠ "") (second : Text.collapse w ≠ "")
  (apart : ∀ n ∈ Node.outputs before ++ Node.outputs after, n.label ≠ a ∧ n.label ≠ b ∧ n.label ≠ c)

include first second apart

theorem agree_around (owner : Option Nat) {ms : List Node}
    (hms : ∀ n ∈ Node.outputs ms, n ∈ Node.outputs before ++ Node.outputs after) :
    Scope.Agree ⟨owner, Layout.ofChildren (before ++ .text a v p :: .text b w q :: after)⟩
      ⟨owner, Layout.ofChildren (before ++ .text c (Text.collapse v ++ Text.collapse w) r :: after)⟩ ms := by
  have ha : Node.isShownText (.text a v p) = true := Node.isShownText_iff.mpr ⟨a, v, p, rfl, first⟩
  have hb : Node.isShownText (.text b w q) = true := Node.isShownText_iff.mpr ⟨b, w, q, rfl, second⟩
  have hc := @isShownText_joined v w c r first
  refine ⟨rfl, fun n hn => Layout.ofChildren_texts ha hb hc ?_⟩
  obtain ⟨hna, hnb, hnc⟩ := apart n (hms n hn)
  exact ⟨hna.symm, hnb.symm, hnc.symm⟩

theorem alike_here (config : Config) :
    Alike config (before ++ .text a v p :: .text b w q :: after)
      (before ++ .text c (Text.collapse v ++ Text.collapse w) r :: after) := by
  intro owner depth count next os hos
  have hbefore := @agree_around before after a b c v w p q r first second apart owner before
    fun n => List.mem_append_left _
  have hafter := @agree_around before after a b c v w p q r first second apart owner after
    fun n => List.mem_append_right _
  rw [nodesOutputs_append, nodesOutputs_congr hbefore] at hos
  obtain ⟨⟨front, middle⟩, hfront, hos⟩ := bind_eq_ok.mp hos
  obtain ⟨rest, hrest, hos⟩ := bind_eq_ok.mp hos
  rw [nodesOutputs_text, nodesOutputs_text, nodesOutputs_congr hafter, textOutputs_of_ne first,
    textOutputs_of_ne second] at hrest
  obtain ⟨textAndLater, hsecond, hfirst⟩ := bind_eq_ok.mp hrest
  obtain ⟨⟨later, last⟩, hlater, hsecond⟩ := bind_eq_ok.mp hsecond
  cases hsecond
  cases hfirst
  cases hos
  refine ⟨_, ?_, .markup front later (Text.collapse v) (Text.collapse w)⟩
  have hjoined : textOutputs (Text.collapse v ++ Text.collapse w) =
      [.markup (Text.collapse v ++ Text.collapse w)] := by
    rw [textOutputs, Text.collapse_collapse_append, if_neg]
    simp [first]
  rw [nodesOutputs_append, hfront, ok_bind, nodesOutputs_text, hlater, hjoined]
  rfl

end Here

theorem alike (config : Config) (h : Joins ns ns') : Alike config ns ns' := by
  induction h with
  | here first second apart => exact alike_here _ _ first second apart config
  | @inside before after children children' label tag attributes place inner ih =>
    intro owner depth count next os hos
    rw [inner.ofChildren_eq]
    rw [nodesOutputs_append] at hos ⊢
    obtain ⟨⟨front, middle⟩, hfront, hos⟩ := bind_eq_ok.mp hos
    obtain ⟨⟨rest, last⟩, hrest, hos⟩ := bind_eq_ok.mp hos
    cases hos
    rw [nodesOutputs_cons] at hrest
    obtain ⟨⟨own, number⟩, hown, hrest⟩ := bind_eq_ok.mp hrest
    obtain ⟨⟨later, last⟩, hlater, hrest⟩ := bind_eq_ok.mp hrest
    cases hrest
    obtain ⟨own', hown', hfuses⟩ := inner.element_alike ih hown
    refine ⟨front ++ (own' ++ later), ?_, hfuses.frame front later⟩
    rw [hfront, ok_bind, nodesOutputs_cons, hown', ok_bind, hlater]
    rfl

end Joins

end SlotMarkup
