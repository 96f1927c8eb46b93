import Mathlib.Data.List.Induction
import SlotMarkup.Proofs.Forest
import SlotMarkup.Template.Compile

/-! What a compilation that succeeds has done, node after node. `Emits` has one rule for each way
to write the first node of a list; facts about templates are proved by induction over it. -/

namespace SlotMarkup

open SlotMarkup.Host (Expr Entry)

theorem ok_bind {α β : Type} (a : α) (f : α → Except Error β) : (Except.ok a >>= f) = f a := rfl

theorem bind_eq_ok {α β : Type} {x : Except Error α} {f : α → Except Error β} {b : β} :
    (x >>= f) = .ok b ↔ ∃ a, x = .ok a ∧ f a = .ok b := by
  cases x with
  | error e => exact ⟨fun h => (nomatch h), fun ⟨_, h, _⟩ => (nomatch h)⟩
  | ok a => exact ⟨fun h => ⟨a, rfl, h⟩, fun ⟨_, h, hf⟩ => by cases h; exact hf⟩

/-- A computation that fails with the first of the faults, and has a good result if there is none. -/
def FirstFault {α : Type} (faults : List Error) (x : Except Error α) (good : α → Prop) : Prop :=
  match faults with
  | [] => ∃ a, x = .ok a ∧ good a
  | e :: _ => x = .error e

namespace FirstFault

variable {α β : Type} {faults more : List Error} {x : Except Error α} {f : α → Except Error β}
  {good : α → Prop} {best : β → Prop}

theorem bind (h : FirstFault faults x good) (hf : ∀ a, good a → FirstFault more (f a) best) :
    FirstFault (faults ++ more) (x >>= f) best := by
  cases faults with
  | nil =>
    obtain ⟨a, rfl, ha⟩ := h
    exact hf a ha
  | cons e faults =>
    change x = .error e at h
    rw [h]
    rfl

theorem map (h : FirstFault faults x good) (hf : ∀ a, good a → ∃ b, f a = .ok b ∧ best b) :
    FirstFault faults (x >>= f) best := by
  rw [← List.append_nil faults]
  exact h.bind hf

theorem mono {better : α → Prop} (h : FirstFault faults x good)
    (hgood : ∀ a, x = .ok a → good a → better a) : FirstFault faults x better := by
  cases faults with
  | nil =>
    obtain ⟨a, hx, ha⟩ := h
    exact ⟨a, hx, hgood a hx ha⟩
  | cons e faults => exact h

theorem of_ok {a : α} (h : FirstFault faults x good) (hx : x = .ok a) : faults = [] ∧ good a := by
  cases faults with
  | nil =>
    obtain ⟨b, hb, hgood⟩ := h
    cases hx.symm.trans hb
    exact ⟨rfl, hgood⟩
  | cons e faults => cases hx.symm.trans h

theorem error_iff (h : FirstFault faults x good) (e : Error) :
    x = .error e ↔ faults.head? = some e := by
  cases faults with
  | nil =>
    obtain ⟨a, rfl, -⟩ := h
    exact iff_of_false nofun nofun
  | cons e' faults =>
    change x = .error e' at h
    rw [h, List.head?_cons, Except.error.injEq, Option.some.injEq]

end FirstFault

namespace Template

@[simp] theorem partsOf_append (as bs : List Output) :
    partsOf (as ++ bs) = partsOf as ++ partsOf bs := by
  induction as with
  | nil => rfl
  | cons o os ih => cases o <;> simp only [List.cons_append, partsOf, ih]

@[simp] theorem valuesOf_append (as bs : List Output) :
    valuesOf (as ++ bs) = valuesOf as ++ valuesOf bs := by
  induction as with
  | nil => rfl
  | cons o os ih => cases o <;> simp only [List.cons_append, valuesOf, ih]

theorem length_partsOf (os : List Output) : (partsOf os).length = (valuesOf os).length := by
  induction os with
  | nil => rfl
  | cons o os ih => cases o <;> simp only [partsOf, valuesOf, List.length_cons, ih]

theorem length_stretches (os : List Output) :
    (stretches os).length = (valuesOf os).length + 1 := by
  induction os with
  | nil => rfl
  | cons o os ih =>
    cases o with
    | slot value part => simp only [stretches, valuesOf, List.length_cons, ih]
    | markup s =>
      rw [stretches, valuesOf, ← ih]
      cases h : stretches os with
      | nil => simp [h] at ih
      | cons p ps => rfl

theorem stretches_eq_cons (os : List Output) : ∃ p ps, stretches os = p :: ps :=
  List.exists_cons_of_length_eq_add_one (length_stretches os)

end Template

def Scope.ofRoot (nodes : List Node) : Scope := ⟨none, Layout.ofChildren nodes⟩

def Scope.ofAncestors (ancestors : List (Node × Nat)) : Option Scope :=
  (nearestContainer (ancestors.map Prod.fst)).map fun container =>
    ⟨(ancestors.reverse.find? fun a => !a.1.isFragment).map Prod.snd, Layout.ofChildren container.children⟩

section Ancestors

variable (ancestors : List (Node × Nat)) (number : Nat)

theorem nearestContainer_map_fst :
    nearestContainer (ancestors.map Prod.fst) =
      ((ancestors.reverse.find? fun a => !a.1.isFragment).or ancestors.head?).map Prod.fst := by
  have hcomp : (fun n : Node => !n.isFragment) ∘ Prod.fst = fun a : Node × Nat => !a.1.isFragment := rfl
  rw [nearestContainer, ← List.map_reverse, List.find?_map, List.head?_map, hcomp]
  cases ancestors.reverse.find? fun a => !a.1.isFragment <;> rfl

theorem Scope.ofAncestors_concat (n : Node) :
    Scope.ofAncestors (ancestors ++ [(n, number)]) = Scope.below (Scope.ofAncestors ancestors) number n := by
  simp only [ofAncestors, nearestContainer_map_fst, List.reverse_append, List.reverse_singleton,
    List.singleton_append, List.find?_cons, List.head?_append]
  cases n with
  | fragment label children place =>
    -- a fragment stands for the container around it, and for itself if there is none
    cases ancestors.reverse.find? fun a => !a.1.isFragment with
    | some a => rfl
    | none => cases ancestors <;> rfl
  | _ => rfl

/-- The walk hands down the layout of the nearest container and the number of the element that it stands
in. -/
theorem Scope.foldl_below :
    ancestors.foldl (fun scope a => Scope.below scope a.2 a.1) none = Scope.ofAncestors ancestors := by
  induction ancestors using List.reverseRecOn with
  | nil => rfl
  | append_singleton ancestors a ih => rw [List.foldl_concat, ih, ofAncestors_concat]

end Ancestors

def Root.level (depth : Int) : Root → Int
  | .single _ _ => depth
  | .list _ => depth + 1

def elementValue (config : Config) (depth : Int) (tag : String) (attributes : List Attribute)
    (children : List Node) (place : Place) : Except Error Expr := do
  let inner ← enter config depth place
  let type ← elementType tag place
  let (entries, key) ← elementProperties config.host tag none attributes
  let entries ←
    if (Node.inlined children).any Node.givesOutput then do
      let t ← compile config inner (.list children)
      let value ← t.toExpr config
      pure (entries ++ [.mk (some (.ofText "children")) value])
    else pure entries
  .ok (elementCall config type entries key)

def textOutputs (value : String) : List Output :=
  if (Text.collapse value).isEmpty then [] else [.markup (Text.collapse value)]

def separatorOutputs (config : Config) (wrapped : Bool) : List Output :=
  if wrapped then [.markup config.placeholderComment] else []

def closingOutputs (tag : String) : List Output :=
  if voidTags.contains tag then [] else [.markup ("</" ++ tag ++ ">")]

@[simp] theorem partsOf_textOutputs (value : String) :
    Template.partsOf (textOutputs value) = [] := by
  unfold textOutputs
  split <;> rfl

@[simp] theorem partsOf_separatorOutputs (config : Config) (wrapped : Bool) :
    Template.partsOf (separatorOutputs config wrapped) = [] := by
  unfold separatorOutputs
  split <;> rfl

@[simp] theorem valuesOf_separatorOutputs (config : Config) (wrapped : Bool) :
    Template.valuesOf (separatorOutputs config wrapped) = [] := by
  unfold separatorOutputs
  split <;> rfl

@[simp] theorem partsOf_closingOutputs (tag : String) :
    Template.partsOf (closingOutputs tag) = [] := by
  unfold closingOutputs
  split <;> rfl

@[simp] theorem valuesOf_textOutputs (value : String) :
    Template.valuesOf (textOutputs value) = [] := by
  unfold textOutputs
  split <;> rfl

@[simp] theorem valuesOf_closingOutputs (tag : String) :
    Template.valuesOf (closingOutputs tag) = [] := by
  unfold closingOutputs
  split <;> rfl

def Output.slot? : Output → Option (Expr × Part)
  | .markup _ => none
  | .slot value part => some (value, part)

def slotsIn (ofAttributes : Bool) (os : List Output) : List (Expr × Part) :=
  (os.filterMap Output.slot?).filter fun s => s.2.isAttribute == ofAttributes

def Template.slotsIn (ofAttributes : Bool) (t : Template) : List (Expr × Part) :=
  (t.values.zip t.parts).filter fun s => s.2.isAttribute == ofAttributes

section Slots

variable (ofAttributes : Bool)

theorem Template.slotsIn_ofOutputs (os : List Output) (count : Nat) :
    (ofOutputs os count).slotsIn ofAttributes = SlotMarkup.slotsIn ofAttributes os := by
  have hzip : (valuesOf os).zip (partsOf os) = os.filterMap Output.slot? := by
    induction os with
    | nil => rfl
    | cons o os ih =>
      cases o with
      | markup s => exact ih
      | slot value part => exact congrArg (List.cons (value, part)) ih
  exact congrArg (List.filter _) hzip

@[simp] theorem slotsIn_nil : slotsIn ofAttributes [] = [] := rfl

@[simp] theorem slotsIn_append (as bs : List Output) :
    slotsIn ofAttributes (as ++ bs) = slotsIn ofAttributes as ++ slotsIn ofAttributes bs := by
  simp [slotsIn]

@[simp] theorem slotsIn_markup (s : String) (os : List Output) :
    slotsIn ofAttributes (.markup s :: os) = slotsIn ofAttributes os := rfl

theorem slotsIn_slot (value : Expr) (part : Part) (os : List Output) :
    slotsIn ofAttributes (.slot value part :: os) =
      (if part.isAttribute == ofAttributes then [(value, part)] else []) ++ slotsIn ofAttributes os := by
  simp only [slotsIn, Output.slot?, List.filterMap_cons, List.filter_cons]
  split <;> rfl

@[simp] theorem slotsIn_textOutputs (value : String) : slotsIn ofAttributes (textOutputs value) = [] := by
  unfold textOutputs
  split <;> rfl

@[simp] theorem slotsIn_separatorOutputs (config : Config) (wrapped : Bool) :
    slotsIn ofAttributes (separatorOutputs config wrapped) = [] := by
  unfold separatorOutputs
  split <;> rfl

@[simp] theorem slotsIn_closingOutputs (tag : String) : slotsIn ofAttributes (closingOutputs tag) = [] := by
  unfold closingOutputs
  split <;> rfl

end Slots

theorem nodeOutputs_dynamic {config : Config} {scope : Option Scope} {depth : Int} {count label : Nat}
    {tag : String} {attributes : List Attribute} {children : List Node} {place : Place}
    (h : Node.classifyElement tag attributes children = .dynamic) :
    nodeOutputs config scope depth count (.element label tag attributes children place) =
      (elementValue config depth tag attributes children place >>= fun value =>
        Scope.layoutOf scope >>= fun layout =>
          .ok ([.slot value (Scope.part scope layout label)], count)) := by
  simp only [nodeOutputs, elementValue, compile, h, bind_assoc]
  split
  · simp only [bind_assoc, pure_bind]
    rfl
  · rfl

theorem Scope.part_eq (scope : Scope) (layout : Layout) (label : Nat) :
    Scope.part (some scope) layout label =
      ⟨if (layout.position label).afterDynamic then .nodeAfterDynamic else .node,
        scope.owner.map Int.ofNat, some (layout.position label).previous⟩ := by
  obtain ⟨owner, _⟩ := scope
  cases owner <;> rfl

theorem Scope.part_isAttribute (scope : Scope) (layout : Layout) (label : Nat) :
    (Scope.part (some scope) layout label).isAttribute = false := by
  rw [Scope.part_eq, Part.isAttribute]
  cases (layout.position label).afterDynamic <;> rfl

/-- Whether an attribute is filled in and not written: an expression, a spread, or a static
attribute that markup does not carry. -/
def Attribute.isDynamicOn (tag : String) : Attribute → Bool
  | .static name _ _ => needsValue tag name
  | .dynamic _ _ _ => true
  | .spread _ _ => true
  | .foreign _ => false

theorem attributeOutputs_cons {host : Host.Interpreter} {tag : String} {element written : Nat} {run : Option Expr}
    {a : Attribute} {as : List Attribute} {os : List Output}
    (h : attributeOutputs host tag element written run (a :: as) = .ok os) :
    (a.isDynamicOn tag = true ∧ ∃ entry, a.entry host tag = .ok entry ∧
      attributeOutputs host tag element written (some (extendRun run (slotValue entry))) as = .ok os) ∨
    (a.isDynamicOn tag = false ∧ ∃ name value place rest, a = .static name value place ∧
      attributeOutputs host tag element (written + 1) none as = .ok rest ∧
      os = runOutputs element written run ++ .markup (attributeMarkup name value) :: rest) := by
  unfold attributeOutputs at h
  obtain ⟨kind, hkind, h⟩ := bind_eq_ok.mp h
  cases a with
  | static name value place =>
    cases hneeds : needsValue tag name with
    | true =>
      simp only [Attribute.classify, hneeds, if_true, Except.ok.injEq] at hkind
      subst hkind
      obtain ⟨entry, hentry, h⟩ := bind_eq_ok.mp h
      exact .inl ⟨hneeds, entry, hentry, h⟩
    | false =>
      simp only [Attribute.classify, hneeds, Bool.false_eq_true, if_false, Except.ok.injEq] at hkind
      subst hkind
      obtain ⟨rest, hrest, h⟩ := bind_eq_ok.mp h
      cases h
      exact .inr ⟨hneeds, name, value, place, rest, rfl, hrest, rfl⟩
  | dynamic name expr place =>
    cases hkind
    obtain ⟨entry, hentry, h⟩ := bind_eq_ok.mp h
    exact .inl ⟨rfl, entry, hentry, h⟩
  | spread expr place =>
    cases hkind
    obtain ⟨entry, hentry, h⟩ := bind_eq_ok.mp h
    exact .inl ⟨rfl, entry, hentry, h⟩
  | foreign value => cases hkind

theorem enter_eq {config : Config} {depth inner : Int} {place : Place}
    (h : enter config depth place = .ok inner) : inner = depth + 1 := by
  unfold enter at h
  split at h
  · cases h
  · cases h
    rfl

theorem ofChildren_singleton {n : Node} (hshown : Node.outputs [n] = [n])
    (hindexed : Layout.unindexable? n = none) (hkind : n.childKind = .dynamic) :
    Layout.ofChildren [n] = .ok ⟨[⟨n.label, .first, false⟩]⟩ := by
  simp [Layout.ofChildren, hshown, hindexed, hkind, Layout.tabulate, Layout.positions,
    Layout.opensChild, Layout.textAfter, Position.first]

theorem part_singleton (layout : Except Error Layout) (label : Nat) :
    Scope.part (some ⟨none, layout⟩) ⟨[⟨label, .first, false⟩]⟩ label =
      Scope.part none .empty label := by
  simp only [Scope.part, Layout.position, Layout.row?, List.reverse_singleton, List.find?_cons,
    beq_self_eq_true]
  rfl

theorem isWrapped_singleton (label : Nat) :
    Layout.isWrapped ⟨[⟨label, .first, false⟩]⟩ label = false := by
  simp only [Layout.isWrapped, Layout.row?, List.reverse_singleton, List.find?_cons,
    beq_self_eq_true]
  rfl

/-- A root that is no fragment has no siblings, so it may as well stand alone in a container. -/
theorem nodeOutputs_root (config : Config) (depth : Int) (count : Nat) (n : Node) :
    nodeOutputs config none depth count n =
      nodeOutputs config (some (.ofRoot [n])) depth count n := by
  cases n with
  | element label tag attributes children place =>
    cases h : Node.classifyElement tag attributes children with
    | dynamic =>
      have hkind : Node.childKind (.element label tag attributes children place) = .dynamic := by
        simp [Node.childKind, Node.isText, Node.isStatic, h]
      rw [nodeOutputs_dynamic h, nodeOutputs_dynamic h, Scope.layoutOf, Scope.layoutOf,
        Scope.ofRoot, ofChildren_singleton rfl rfl hkind]
      refine congrArg (elementValue config depth tag attributes children place >>= ·) (funext fun value => ?_)
      exact congrArg (fun p => Except.ok ([Output.slot value p], count)) (part_singleton ..).symm
    | literal => simp only [nodeOutputs, h, Scope.below]
  | text label value place => rfl
  | slot label expr place =>
    cases h : expr.isEmpty with
    | true => simp only [nodeOutputs, h, if_true]
    | false =>
      have hshown := Node.outputs_slot h label place
      simp only [nodeOutputs, h, Scope.layoutOf, Scope.ofRoot, ofChildren_singleton hshown rfl rfl]
      refine congrArg (expr.toExpr config.host place >>= ·) (funext fun value => ?_)
      rw [Node.label, isWrapped_singleton]
      exact congrArg (fun p => Except.ok ([Output.slot value p], count)) (part_singleton ..).symm
  | fragment label children place =>
    simp only [nodeOutputs, Scope.below, Scope.ofFragment, Scope.ofRoot, Option.getD_none, Option.getD_some,
      Layout.ofChildren, Node.outputs_fragment]
  | foreign label value => rfl

theorem nodesOutputs_singleton (config : Config) (scope : Option Scope) (depth : Int) (count : Nat)
    (n : Node) :
    nodesOutputs config scope depth count [n] = nodeOutputs config scope depth count n := by
  simp only [nodesOutputs]
  cases nodeOutputs config scope depth count n with
  | error e => rfl
  | ok r => exact congrArg (fun os => Except.ok (os, r.2)) (List.append_nil r.1)

theorem nodesOutputs_cons (config : Config) (scope : Option Scope) (depth : Int) (count : Nat)
    (n : Node) (ns : List Node) :
    nodesOutputs config scope depth count (n :: ns) =
      (nodeOutputs config scope depth count n >>= fun r =>
        nodesOutputs config scope depth r.2 ns >>= fun r' => .ok (r.1 ++ r'.1, r'.2)) := rfl

theorem nodesOutputs_append (config : Config) (scope : Option Scope) (depth : Int) (count : Nat)
    (as bs : List Node) :
    nodesOutputs config scope depth count (as ++ bs) =
      (nodesOutputs config scope depth count as >>= fun r =>
        nodesOutputs config scope depth r.2 bs >>= fun r' => .ok (r.1 ++ r'.1, r'.2)) := by
  induction as generalizing count with
  | nil =>
    change nodesOutputs config scope depth count bs =
      (nodesOutputs config scope depth count bs >>= fun r' => .ok (r'.1, r'.2))
    cases nodesOutputs config scope depth count bs <;> rfl
  | cons n ns ih =>
    rw [List.cons_append, nodesOutputs_cons, nodesOutputs_cons, bind_assoc]
    refine congrArg (nodeOutputs config scope depth count n >>= ·) (funext fun first => ?_)
    rw [ih, bind_assoc, bind_assoc]
    refine congrArg (nodesOutputs config scope depth first.2 ns >>= ·) (funext fun r => ?_)
    rw [bind_assoc]
    refine congrArg (nodesOutputs config scope depth r.2 bs >>= ·) (funext fun r' => ?_)
    exact congrArg (fun os => Except.ok (os, r'.2)) (List.append_assoc _ _ _).symm

theorem compile_list (config : Config) (depth : Int) (ns : List Node) :
    compile config depth (.list ns) =
      (enter config depth .origin >>= fun inner =>
        nodesOutputs config (some (.ofRoot ns)) inner 0 ns >>= fun r => .ok (.ofOutputs r.1 r.2)) := rfl

theorem compile_node {n : Node} (h : n.isForeign = false) (config : Config) (depth : Int) :
    compile config depth (.single n (Node.isList_of_known h)) =
      (nodesOutputs config (some (.ofRoot [n])) depth 0 [n] >>= fun r => .ok (.ofOutputs r.1 r.2)) := by
  rw [nodesOutputs_singleton, ← nodeOutputs_root]
  cases n with
  | foreign label value => cases h
  | _ => rfl

/-- A list of nodes in a scope, at a depth and after a number of literal elements, is written as
some outputs, up to a number of literal elements. -/
inductive Emits (config : Config) : Scope → Int → Nat → List Node → List Output → Nat → Prop
  | nil {scope : Scope} {depth : Int} {count : Nat} : Emits config scope depth count [] [] count
  | text {scope : Scope} {depth : Int} {count next label : Nat} {value : String} {place : Place}
      {ns : List Node} {os : List Output} (rest : Emits config scope depth count ns os next) :
      Emits config scope depth count (.text label value place :: ns) (textOutputs value ++ os) next
  | emptySlot {scope : Scope} {depth : Int} {count next label : Nat} {expr : Embedded}
      {place : Place} {ns : List Node} {os : List Output} (empty : expr.isEmpty = true)
      (rest : Emits config scope depth count ns os next) :
      Emits config scope depth count (.slot label expr place :: ns) os next
  | slot {scope : Scope} {depth : Int} {count next label : Nat} {expr : Embedded} {place : Place}
      {ns : List Node} {os : List Output} {layout : Layout} {value : Expr}
      (shown : expr.isEmpty = false) (around : scope.layout = .ok layout)
      (parsed : expr.toExpr config.host place = .ok value) (rest : Emits config scope depth count ns os next) :
      Emits config scope depth count (.slot label expr place :: ns)
        (separatorOutputs config (layout.isWrapped label) ++
          .slot value (Scope.part (some scope) layout label) :: os) next
  | fragment {scope : Scope} {depth inner : Int} {count middle next label : Nat} {place : Place}
      {children ns : List Node} {body os : List Output}
      (entered : enter config depth place = .ok inner)
      (below : Emits config scope inner count children body middle)
      (rest : Emits config scope depth middle ns os next) :
      Emits config scope depth count (.fragment label children place :: ns) (body ++ os) next
  | dynamic {scope : Scope} {depth : Int} {count next label : Nat} {tag : String} {place : Place}
      {attributes : List Attribute} {children ns : List Node} {os : List Output} {layout : Layout}
      {value : Expr} (kind : Node.classifyElement tag attributes children = .dynamic)
      (built : elementValue config depth tag attributes children place = .ok value)
      (around : scope.layout = .ok layout) (rest : Emits config scope depth count ns os next) :
      Emits config scope depth count (.element label tag attributes children place :: ns)
        (.slot value (Scope.part (some scope) layout label) :: os) next
  | literal {scope : Scope} {depth inner : Int} {count middle next label : Nat} {tag : String}
      {place : Place} {attributes : List Attribute} {children ns : List Node}
      {opening body os : List Output}
      (kind : Node.classifyElement tag attributes children = .literal)
      (entered : enter config depth place = .ok inner)
      (opened : attributeOutputs config.host tag count 0 none attributes = .ok opening)
      (below : Emits config (.ofElement count children) inner (count + 1) children body middle)
      (rest : Emits config scope depth middle ns os next) :
      Emits config scope depth count (.element label tag attributes children place :: ns)
        (.markup ("<" ++ tag ++ " ") :: opening ++ .markup ">" :: body ++ closingOutputs tag ++ os) next

theorem emits_of_nodesOutputs {config : Config} {ns : List Node} :
    ∀ {scope : Scope} {depth : Int} {count next : Nat} {os : List Output},
      nodesOutputs config (some scope) depth count ns = .ok (os, next) →
        Emits config scope depth count ns os next := by
  -- Along the forest, as the walk goes: it is a nest of binds, and what each of them returned is a premise
  -- of the rule for the node.
  induction ns using Node.forest_induction with
  | nil =>
    intro scope depth count next os h
    cases h
    exact .nil
  | element label tag attributes children place ns hbelow hrest =>
    intro scope depth count next os h
    obtain ⟨⟨first, middle⟩, hfirst, h⟩ := bind_eq_ok.mp h
    obtain ⟨⟨rest, last⟩, hns, h⟩ := bind_eq_ok.mp h
    cases h
    cases hkind : Node.classifyElement tag attributes children with
    | dynamic =>
      rw [nodeOutputs_dynamic hkind] at hfirst
      obtain ⟨value, hvalue, hfirst⟩ := bind_eq_ok.mp hfirst
      obtain ⟨layout, hlayout, hfirst⟩ := bind_eq_ok.mp hfirst
      cases hfirst
      exact .dynamic hkind hvalue hlayout (hrest hns)
    | literal =>
      simp only [nodeOutputs, hkind] at hfirst
      obtain ⟨inner, hinner, hfirst⟩ := bind_eq_ok.mp hfirst
      obtain ⟨opening, hopening, hfirst⟩ := bind_eq_ok.mp hfirst
      obtain ⟨⟨body, m⟩, hbody, hfirst⟩ := bind_eq_ok.mp hfirst
      cases hfirst
      exact .literal hkind hinner hopening (hbelow hbody) (hrest hns)
  | text label value place ns hrest =>
    intro scope depth count next os h
    obtain ⟨⟨first, middle⟩, hfirst, h⟩ := bind_eq_ok.mp h
    obtain ⟨⟨rest, last⟩, hns, h⟩ := bind_eq_ok.mp h
    cases h
    cases hfirst
    exact .text (hrest hns)
  | slot label expr place ns hrest =>
    intro scope depth count next os h
    obtain ⟨⟨first, middle⟩, hfirst, h⟩ := bind_eq_ok.mp h
    obtain ⟨⟨rest, last⟩, hns, h⟩ := bind_eq_ok.mp h
    cases h
    cases hempty : expr.isEmpty with
    | true =>
      simp only [nodeOutputs, hempty, if_true] at hfirst
      cases hfirst
      exact .emptySlot hempty (hrest hns)
    | false =>
      simp only [nodeOutputs, hempty] at hfirst
      obtain ⟨layout, hlayout, hfirst⟩ := bind_eq_ok.mp hfirst
      obtain ⟨value, hvalue, hfirst⟩ := bind_eq_ok.mp hfirst
      cases hfirst
      rw [List.append_assoc]
      exact .slot hempty hlayout hvalue (hrest hns)
  | fragment label children place ns hbelow hrest =>
    intro scope depth count next os h
    obtain ⟨⟨first, middle⟩, hfirst, h⟩ := bind_eq_ok.mp h
    obtain ⟨⟨rest, last⟩, hns, h⟩ := bind_eq_ok.mp h
    cases h
    simp only [nodeOutputs] at hfirst
    obtain ⟨inner, hinner, hfirst⟩ := bind_eq_ok.mp hfirst
    exact .fragment hinner (hbelow hfirst) (hrest hns)
  | foreign label value ns hrest =>
    intro scope depth count next os h
    obtain ⟨_, hfirst, _⟩ := bind_eq_ok.mp h
    cases hfirst

theorem Emits.count_eq {config : Config} {scope : Scope} {depth : Int} {count next : Nat}
    {ns : List Node} {os : List Output} (h : Emits config scope depth count ns os next) :
    next = count + (Node.literals ns).length := by
  induction h with
  | nil => rfl
  | text rest ih => exact ih
  | emptySlot empty rest ih => exact ih
  | slot shown around parsed rest ih => exact ih
  | fragment entered below rest hbelow hrest =>
    rw [hrest, hbelow, Node.literals, Node.literalsAt, List.length_append, Nat.add_assoc]
  | dynamic kind built around rest ih => rw [ih, Node.literals, Node.literalsAt_dynamic kind, List.nil_append]
  | literal kind entered opened below rest hbelow hrest =>
    rw [hrest, hbelow, Node.literals, Node.literalsAt_literal kind, List.length_append, List.length_cons]
    omega

theorem Emits.count_le {config : Config} {scope : Scope} {depth : Int} {count next : Nat}
    {ns : List Node} {os : List Output} (h : Emits config scope depth count ns os next) :
    count ≤ next := h.count_eq ▸ Nat.le_add_right _ _

/-- A compilation writes the nodes of its root, from no literal element on. -/
theorem compile_emits {config : Config} {depth : Int} {root : Root} {t : Template}
    (h : compile config depth root = .ok t) :
    ∃ os count, Emits config (.ofRoot root.nodes) (root.level depth) 0 root.nodes os count ∧
      t = .ofOutputs os count := by
  cases root with
  | single n noList =>
    cases n with
    | foreign label value => cases h
    | _ =>
      obtain ⟨⟨os, count⟩, hos, h⟩ := bind_eq_ok.mp h
      cases h
      rw [nodeOutputs_root] at hos
      refine ⟨os, count, emits_of_nodesOutputs ?_, rfl⟩
      rw [Root.nodes, nodesOutputs, Root.level, hos]
      exact congrArg (fun l => Except.ok (l, count)) (List.append_nil os)
  | list ns =>
    obtain ⟨inner, hinner, h⟩ := bind_eq_ok.mp h
    obtain ⟨⟨os, count⟩, hos, h⟩ := bind_eq_ok.mp h
    cases h
    obtain rfl := enter_eq hinner
    exact ⟨os, count, emits_of_nodesOutputs hos, rfl⟩

theorem elementValue_nested {config : Config} {depth : Int} {tag : String}
    {attributes : List Attribute} {children : List Node} {place : Place} {value : Expr}
    (h : elementValue config depth tag attributes children place = .ok value)
    (hshown : Node.outputs children ≠ []) :
    ∃ t, compile config (depth + 1) (.list children) = .ok t := by
  obtain ⟨inner, hinner, h⟩ := bind_eq_ok.mp h
  obtain ⟨type, -, h⟩ := bind_eq_ok.mp h
  obtain ⟨⟨entries, key⟩, -, h⟩ := bind_eq_ok.mp h
  have hany : (Node.inlined children).any Node.givesOutput = true := by
    obtain ⟨n, hn⟩ := List.exists_mem_of_ne_nil _ hshown
    exact List.any_eq_true.mpr ⟨n, List.mem_filter.mp hn⟩
  dsimp only at h
  rw [if_pos hany, enter_eq hinner] at h
  obtain ⟨t, ht, -⟩ := bind_eq_ok.mp h
  exact ⟨t, ht⟩

theorem emits_nested {config : Config} {tree ns : List Node} (htree : tree ∈ Node.nested ns)
    (hshown : Node.outputs tree ≠ []) :
    ∀ {scope : Scope} {depth : Int} {count next : Nat} {os : List Output},
      Emits config scope depth count ns os next →
        ∃ inner t, depth ≤ inner ∧ compile config inner (.list tree) = .ok t := by
  induction ns using Node.forest_induction with
  | nil => cases htree
  | element label tag attributes children place ns hbelow hrest =>
    intro scope depth count next os h
    rcases List.mem_append.mp htree with hhere | hlater
    · cases h with
      | literal kind entered opened below rest =>
        rw [Node.nestedAt, kind] at hhere
        obtain ⟨inner, t, hle, ht⟩ := hbelow hhere below
        have hentered := enter_eq entered
        exact ⟨inner, t, by omega, ht⟩
      | dynamic kind built around rest =>
        rw [Node.nestedAt, if_pos kind] at hhere
        rcases List.mem_cons.mp hhere with rfl | hdeeper
        · obtain ⟨t, ht⟩ := elementValue_nested built hshown
          exact ⟨depth + 1, t, by omega, ht⟩
        · -- a dynamic element further down is shown, so the children are compiled
          have hchildren : Node.outputs children ≠ [] := fun hnil =>
            List.ne_nil_of_mem hdeeper (Node.nested_eq_nil hnil)
          obtain ⟨t, ht⟩ := elementValue_nested built hchildren
          obtain ⟨os, count, hos, -⟩ := compile_emits ht
          obtain ⟨inner, t, hle, ht⟩ := hbelow hdeeper hos
          rw [Root.level] at hle
          exact ⟨inner, t, by omega, ht⟩
    · cases h with
      | literal kind entered opened below rest => exact hrest hlater rest
      | dynamic kind built around rest => exact hrest hlater rest
  | text label value place ns ih =>
    intro scope depth count next os h
    cases h with
    | text rest => exact ih htree rest
  | slot label expr place ns ih =>
    intro scope depth count next os h
    cases h with
    | emptySlot empty rest => exact ih htree rest
    | slot shown around parsed rest => exact ih htree rest
  | fragment label children place ns hbelow hrest =>
    intro scope depth count next os h
    cases h with
    | fragment entered below rest =>
      rcases List.mem_append.mp htree with hhere | hlater
      · obtain ⟨inner, t, hle, ht⟩ := hbelow hhere below
        have hentered := enter_eq entered
        exact ⟨inner, t, by omega, ht⟩
      · exact hrest hlater rest
  | foreign label value ns ih =>
    intro scope depth count next os h
    cases h

theorem Root.le_level (root : Root) (depth : Int) : depth ≤ root.level depth := by
  cases root with
  | single n noList => exact Int.le_refl depth
  | list ns => exact Int.le_of_lt (Int.lt_succ depth)

theorem compile_nested_deeper {config : Config} {depth : Int} {root : Root} {t : Template}
    {tree : List Node} (h : compile config depth root = .ok t) (htree : tree ∈ Node.nested root.nodes)
    (hshown : Node.outputs tree ≠ []) :
    ∃ inner t', depth ≤ inner ∧ compile config inner (.list tree) = .ok t' := by
  obtain ⟨os, count, hos, -⟩ := compile_emits h
  obtain ⟨inner, t', hle, ht⟩ := emits_nested htree hshown hos
  exact ⟨inner, t', Int.le_trans (root.le_level depth) hle, ht⟩

theorem compile_nested {config : Config} {depth : Int} {root : Root} {t : Template}
    {tree : List Node} (h : compile config depth root = .ok t) (htree : tree ∈ Node.nested root.nodes)
    (hshown : Node.outputs tree ≠ []) :
    ∃ inner t', compile config inner (.list tree) = .ok t' := by
  obtain ⟨inner, t', -, ht⟩ := compile_nested_deeper h htree hshown
  exact ⟨inner, t', ht⟩

end SlotMarkup
