import Mathlib.Data.List.Forall2
import Mathlib.Tactic.SplitIfs
import SlotMarkup.Proofs.Emission
import SlotMarkup.Tree.Load

/-! The documents that describe trees. A document is accepted if and only if it is one of them; the
tree then mirrors it, and otherwise the violation that comes first in it is reported. -/

namespace SlotMarkup.Load

open SlotMarkup.Document (Value Fields)

section Grammar

def HasType (fields : Fields) (kind : String) : Prop := fields.get? "type" = some (.text kind)

def HasText (fields : Fields) (key : String) : Prop := ∃ s, fields.get? key = some (.text s)

def optionalText? (fields : Fields) (key : String) : Option (Option String) :=
  match fields.get? key with
  | none => some none
  | some .null => some none
  | some (.text s) => some (some s)
  | some _ => none

def items? (fields : Fields) (key : String) : Option (List Value) :=
  match fields.get? key with
  | none => some []
  | some (.array items) => some items
  | some _ => none

inductive IsAttribute : Value → Prop
  | static {fields : Fields} (type : HasType fields "static") (name : HasText fields "name")
      (value : (optionalText? fields "value").isSome) : IsAttribute (.object fields)
  | dynamic {fields : Fields} (type : HasType fields "expression") (name : HasText fields "name")
      (expr : HasText fields "expr") : IsAttribute (.object fields)
  | spread {fields : Fields} (type : HasType fields "spread") (expr : HasText fields "expr") :
      IsAttribute (.object fields)

inductive IsNode : Value → Prop
  | element {fields : Fields} {attributes children : List Value} (type : HasType fields "element")
      (tag : HasText fields "tag") (listed : items? fields "attributes" = some attributes)
      (each : ∀ v ∈ attributes, IsAttribute v) (nested : items? fields "children" = some children)
      (below : ∀ v ∈ children, IsNode v) : IsNode (.object fields)
  | text {fields : Fields} (type : HasType fields "text") (value : HasText fields "value") :
      IsNode (.object fields)
  | slot {fields : Fields} (type : HasType fields "expression")
      (expr : (optionalText? fields "expr").isSome) : IsNode (.object fields)
  | fragment {fields : Fields} {children : List Value} (type : HasType fields "fragment")
      (nested : items? fields "children" = some children) (below : ∀ v ∈ children, IsNode v) :
      IsNode (.object fields)

def IsTree : Value → Prop
  | .array items => ∀ v ∈ items, IsNode v
  | v => IsNode v

end Grammar

section Mirror

inductive MirrorsAttribute : Value → Attribute → Prop
  | static {fields : Fields} {name : String} {value : Option String} (type : HasType fields "static")
      (named : fields.get? "name" = some (.text name))
      (valued : optionalText? fields "value" = some value) :
      MirrorsAttribute (.object fields) (.static name value (placeOf fields))
  | dynamic {fields : Fields} {name expr : String} (type : HasType fields "expression")
      (named : fields.get? "name" = some (.text name))
      (filled : fields.get? "expr" = some (.text expr)) :
      MirrorsAttribute (.object fields) (.dynamic name (.source expr) (placeOf fields))
  | spread {fields : Fields} {expr : String} (type : HasType fields "spread")
      (filled : fields.get? "expr" = some (.text expr)) :
      MirrorsAttribute (.object fields) (.spread (.source expr) (placeOf fields))

inductive Mirrors : Value → Node → Prop
  | element {fields : Fields} {label : Nat} {tag : String} {vs ws : List Value}
      {attributes : List Attribute} {children : List Node} (type : HasType fields "element")
      (tagged : fields.get? "tag" = some (.text tag)) (listed : items? fields "attributes" = some vs)
      (each : List.Forall₂ MirrorsAttribute vs attributes) (nested : items? fields "children" = some ws)
      (below : List.Forall₂ Mirrors ws children) :
      Mirrors (.object fields) (.element label tag attributes children (placeOf fields))
  | text {fields : Fields} {label : Nat} {value : String} (type : HasType fields "text")
      (shown : fields.get? "value" = some (.text value)) :
      Mirrors (.object fields) (.text label value (placeOf fields))
  | slot {fields : Fields} {label : Nat} {expr : Option String} (type : HasType fields "expression")
      (filled : optionalText? fields "expr" = some expr) :
      Mirrors (.object fields) (.slot label (slotExpr expr) (placeOf fields))
  | fragment {fields : Fields} {label : Nat} {ws : List Value} {children : List Node}
      (type : HasType fields "fragment") (nested : items? fields "children" = some ws)
      (below : List.Forall₂ Mirrors ws children) :
      Mirrors (.object fields) (.fragment label children (placeOf fields))

inductive MirrorsTree : Value → Node → Prop
  | node {v : Value} {n : Node} (h : Mirrors v n) : MirrorsTree v n
  | list {items : List Value} {label : Nat} {children : List Node}
      (below : List.Forall₂ Mirrors items children) :
      MirrorsTree (.array items) (.fragment label children .origin)

end Mirror

section Violations

structure Violation where
  fault : TreeFault
  place : Place

def Violation.error (v : Violation) : Error := .tree v.fault v.place

def textViolations (fields : Fields) (key : String) : List Violation :=
  match fields.get? key with
  | some (.text _) => []
  | some v => [⟨.fieldType key "str" v.typeName, statedPlace fields⟩]
  | none =>
    [⟨.missing ((fields.get? "type").getD (.text "node")).plain key, statedPlace fields⟩]

def optionalTextViolations (fields : Fields) (key : String) (fault : String → TreeFault) :
    List Violation :=
  match fields.getOrNull key with
  | .null => []
  | .text _ => []
  | v => [⟨fault v.typeName, statedLine fields⟩]

def attributeViolations : Value → List Violation
  | .object fields =>
    match Fields.getOrNull fields "type" with
    | .text kind =>
      if kind == "static" then
        optionalTextViolations fields "value" .attributeValue ++ textViolations fields "name"
      else if kind == "expression" then textViolations fields "name" ++ textViolations fields "expr"
      else if kind == "spread" then textViolations fields "expr"
      else [⟨.attributeType (Text.quoted kind), statedLine fields⟩]
    | v => [⟨.attributeType v.display, statedLine fields⟩]
  | v => [⟨.attributeObject v.typeName, .unknown⟩]

def listViolations (fields : Fields) (key : String) (each : Value → List Violation) :
    List Violation :=
  match fields.get? key with
  | none => []
  | some (.array items) => items.flatMap each
  | some v => [⟨.fieldType key "list" v.typeName, statedPlace fields⟩]

mutual
/-- The violations of a node: of the tag, of the attributes, and of the children, in that order. -/
def nodeViolations : Value → List Violation
  | .object fields =>
    match Fields.getOrNull fields "type" with
    | .text kind =>
      if kind == "element" then
        textViolations fields "tag" ++ (listViolations fields "attributes" attributeViolations ++
          childrenViolations (statedPlace fields) fields)
      else if kind == "text" then textViolations fields "value"
      else if kind == "expression" then optionalTextViolations fields "expr" .slotValue
      else if kind == "fragment" then childrenViolations (statedPlace fields) fields
      else [⟨.nodeType (Text.quoted kind), statedLine fields⟩]
    | v => [⟨.nodeType v.display, statedLine fields⟩]
  | v => [⟨.nodeObject v.typeName, .unknown⟩]

def childrenViolations (place : Place) : List (String × Value) → List Violation
  | [] => []
  | (key, .array items) :: rest =>
    if key == "children" then nodesViolations items else childrenViolations place rest
  | (key, v) :: rest =>
    if key == "children" then [⟨.fieldType key "list" v.typeName, place⟩]
    else childrenViolations place rest

def nodesViolations : List Value → List Violation
  | [] => []
  | v :: vs => nodeViolations v ++ nodesViolations vs
end

def violations : Value → List Violation
  | .array items => nodesViolations items
  | v => nodeViolations v

end Violations

section Fields

theorem mem_of_get? {fields : Fields} {key : String} {v : Value} (h : fields.get? key = some v) :
    ∃ k, (k, v) ∈ fields := by
  obtain ⟨⟨k, w⟩, hfind, rfl⟩ := Option.map_eq_some_iff.mp h
  exact ⟨k, List.mem_of_find?_eq_some hfind⟩

theorem getOrNull_eq_text {fields : Fields} {kind : String}
    (h : fields.getOrNull "type" = .text kind) : HasType fields kind := by
  unfold Fields.getOrNull at h
  unfold HasType
  cases hfield : fields.get? "type" with
  | none => rw [hfield] at h; cases h
  | some v => rw [hfield] at h; exact congrArg some h

theorem HasType.getOrNull {fields : Fields} {kind : String} (h : HasType fields kind) :
    fields.getOrNull "type" = .text kind := by
  rw [Fields.getOrNull, h]
  rfl

theorem get?_cons (k : String) (v : Value) (rest : Fields) (key : String) :
    Fields.get? ((k, v) :: rest) key = if k == key then some v else Fields.get? rest key := by
  unfold Fields.get?
  rw [List.find?_cons]
  cases k == key <;> rfl

/-- Induction over the nodes of a document: an object has the values of its children before it. -/
@[elab_as_elim]
theorem document_induction {motive : Value → Prop}
    (object : ∀ fields, (∀ items, items? fields "children" = some items → ∀ v ∈ items, motive v) →
      motive (.object fields))
    (other : ∀ v, (∀ fields, v ≠ .object fields) → motive v) (v : Value) : motive v := by
  induction hsize : sizeOf v using Nat.strongRecOn generalizing v with
  | ind size ih =>
    cases v with
    | object fields =>
      refine object fields fun items hitems w hw => ih (sizeOf w) ?_ w rfl
      unfold items? at hitems
      split at hitems
      · cases hitems; cases hw
      next items' hfield =>
        cases hitems
        obtain ⟨k, hmem⟩ := mem_of_get? hfield
        have hfield := List.sizeOf_lt_of_mem hmem
        have hitem := List.sizeOf_lt_of_mem hw
        simp only [Prod.mk.sizeOf_spec, Value.array.sizeOf_spec] at hfield
        simp only [Value.object.sizeOf_spec] at hsize
        omega
      · cases hitems
    | _ => exact other _ nofun

end Fields

theorem nodesViolations_eq (vs : List Value) : nodesViolations vs = vs.flatMap nodeViolations := by
  induction vs with
  | nil => rfl
  | cons v vs ih => rw [nodesViolations, ih, List.flatMap_cons]

theorem childrenViolations_eq (fields : Fields) :
    childrenViolations (statedPlace fields) fields = listViolations fields "children" nodeViolations := by
  unfold listViolations
  generalize statedPlace fields = place
  induction fields with
  | nil => rfl
  | cons field rest ih =>
    obtain ⟨key, v⟩ := field
    rw [get?_cons]
    cases hkey : key == "children" with
    | false =>
      rw [if_neg Bool.false_ne_true, ← ih]
      cases v <;> simp only [childrenViolations, hkey, Bool.false_eq_true, if_false]
    | true =>
      obtain rfl : key = "children" := eq_of_beq hkey
      cases v with
      | array items => exact nodesViolations_eq items
      | _ => rfl

theorem childrenOf_eq (next : Nat) (fields : Fields) :
    childrenOf next (statedPlace fields) fields = optionalList fields "children" >>= nodesOf next := by
  unfold optionalList
  generalize statedPlace fields = place
  induction fields with
  | nil => rfl
  | cons field rest ih =>
    obtain ⟨key, v⟩ := field
    rw [get?_cons]
    cases hkey : key == "children" with
    | false =>
      rw [if_neg Bool.false_ne_true, ← ih]
      cases v <;> simp only [childrenOf, hkey, Bool.false_eq_true, if_false]
    | true =>
      obtain rfl : key = "children" := eq_of_beq hkey
      cases v with
      | _ => rfl

section Loads

def Loads {α : Type} (vs : List Violation) (x : Except Error α) (good : α → Prop) : Prop :=
  FirstFault (vs.map Violation.error) x good

variable {α β : Type} {vs ws : List Violation} {x : Except Error α} {f : α → Except Error β}
  {good : α → Prop} {best : β → Prop}

theorem Loads.bind (h : Loads vs x good) (hf : ∀ a, good a → Loads ws (f a) best) :
    Loads (vs ++ ws) (x >>= f) best := by
  rw [Loads, List.map_append]
  exact FirstFault.bind h hf

theorem Loads.of_error {e : Error} (h : Loads vs x good) (hx : x = .error e) :
    ∃ first rest, vs = first :: rest ∧ e = first.error := by
  have hhead := (FirstFault.error_iff h e).mp hx
  rw [List.head?_map, Option.map_eq_some_iff] at hhead
  obtain ⟨first, hfirst, rfl⟩ := hhead
  obtain ⟨rest, hvs⟩ := List.head?_eq_some_iff.mp hfirst
  exact ⟨first, rest, hvs, rfl⟩

theorem requireText_loads (fields : Fields) (key : String) :
    Loads (textViolations fields key) (requireText fields key)
      fun s => fields.get? key = some (.text s) := by
  unfold textViolations requireText
  cases h : fields.get? key with
  | none => rfl
  | some v =>
    cases v with
    | text s => exact ⟨s, rfl, rfl⟩
    | _ => rfl

theorem optionalText_loads (fields : Fields) (key : String) (fault : String → TreeFault) :
    Loads (optionalTextViolations fields key fault) (optionalText fields key fault)
      fun s => optionalText? fields key = some s := by
  unfold optionalTextViolations optionalText optionalText? Fields.getOrNull
  cases h : fields.get? key with
  | none => exact ⟨none, rfl, rfl⟩
  | some v =>
    cases v with
    | null => exact ⟨none, rfl, rfl⟩
    | text s => exact ⟨some s, rfl, rfl⟩
    | _ => rfl

theorem optionalList_loads {fields : Fields} {key : String} {each : Value → List Violation}
    {load : List Value → Except Error α} {good : List Value → α → Prop}
    (h : ∀ items, items? fields key = some items → Loads (items.flatMap each) (load items) (good items)) :
    Loads (listViolations fields key each) (optionalList fields key >>= load)
      fun a => ∃ items, items? fields key = some items ∧ good items a := by
  unfold listViolations optionalList items? at *
  cases hfield : fields.get? key with
  | none =>
    rw [hfield] at h
    obtain ⟨a, ha, hgood⟩ := h [] rfl
    exact ⟨a, ha, [], rfl, hgood⟩
  | some v =>
    cases v with
    | array items =>
      rw [hfield] at h
      exact (h items rfl).mono fun a _ ha => ⟨items, rfl, ha⟩
    | _ => rfl

theorem attributeOf_loads (v : Value) :
    Loads (attributeViolations v) (attributeOf v) (MirrorsAttribute v) := by
  cases v with
  | object fields =>
    unfold attributeViolations attributeOf
    dsimp only
    cases htype : Fields.getOrNull fields "type" with
    | text kind =>
      have htype := getOrNull_eq_text htype
      dsimp only
      split_ifs with hstatic hexpression hspread
      · obtain rfl : kind = "static" := eq_of_beq hstatic
        refine (optionalText_loads fields "value" .attributeValue).bind fun value hvalue => ?_
        exact (requireText_loads fields "name").map fun name hname =>
          ⟨_, rfl, .static htype hname hvalue⟩
      · obtain rfl : kind = "expression" := eq_of_beq hexpression
        refine (requireText_loads fields "name").bind fun name hname => ?_
        exact (requireText_loads fields "expr").map fun expr hexpr =>
          ⟨_, rfl, .dynamic htype hname hexpr⟩
      · obtain rfl : kind = "spread" := eq_of_beq hspread
        exact (requireText_loads fields "expr").map fun expr hexpr => ⟨_, rfl, .spread htype hexpr⟩
      · rfl
    | _ => rfl
  | _ => rfl

theorem attributesOf_loads (vs : List Value) :
    Loads (vs.flatMap attributeViolations) (attributesOf vs) (List.Forall₂ MirrorsAttribute vs) := by
  induction vs with
  | nil => exact ⟨[], rfl, .nil⟩
  | cons v vs ih =>
    rw [List.flatMap_cons]
    refine (attributeOf_loads v).bind fun a ha => ?_
    exact ih.map fun as has => ⟨_, rfl, .cons ha has⟩

def Numbered (next next' : Nat) (labels : List Nat) : Prop :=
  ∃ k, next' = next + k ∧ labels.Perm (List.range' next k)

theorem Numbered.append {next middle last : Nat} {as bs : List Nat} (h : Numbered next middle as)
    (h' : Numbered middle last bs) : Numbered next last (as ++ bs) := by
  obtain ⟨j, rfl, has⟩ := h
  obtain ⟨k, rfl, hbs⟩ := h'
  refine ⟨j + k, Nat.add_assoc .., ?_⟩
  rw [← List.range'_append_1]
  exact has.append hbs

theorem Numbered.parent {next label : Nat} {labels : List Nat} (h : Numbered next label labels) :
    Numbered next (label + 1) (label :: labels) := by
  obtain ⟨k, rfl, hlabels⟩ := h
  refine ⟨k + 1, Nat.add_assoc .., ?_⟩
  rw [List.range'_1_concat]
  exact (hlabels.cons _).trans (List.perm_append_singleton _ _).symm

theorem Numbered.nodup {next next' : Nat} {labels : List Nat} (h : Numbered next next' labels) :
    labels.Nodup := by
  obtain ⟨k, -, hlabels⟩ := h
  exact hlabels.nodup_iff.mpr List.nodup_range'

def NodeLoads (v : Value) : Prop :=
  ∀ next, Loads (nodeViolations v) (nodeOf next v)
    fun r => Mirrors v r.1 ∧ Numbered next r.2 (Node.labelsAt r.1)

theorem nodesOf_loads {vs : List Value} (h : ∀ v ∈ vs, NodeLoads v) (next : Nat) :
    Loads (vs.flatMap nodeViolations) (nodesOf next vs)
      fun r => List.Forall₂ Mirrors vs r.1 ∧ Numbered next r.2 (Node.labels r.1) := by
  induction vs generalizing next with
  | nil => exact ⟨([], next), rfl, .nil, 0, rfl, .refl _⟩
  | cons v vs ih =>
    rw [List.forall_mem_cons] at h
    rw [List.flatMap_cons]
    refine (h.1 next).bind fun r hr => ?_
    exact (ih h.2 r.2).map fun rs hrs => ⟨_, rfl, .cons hr.1 hrs.1, hr.2.append hrs.2⟩

theorem childrenOf_loads {fields : Fields}
    (h : ∀ items, items? fields "children" = some items → ∀ v ∈ items, NodeLoads v) (next : Nat) :
    Loads (childrenViolations (statedPlace fields) fields) (childrenOf next (statedPlace fields) fields)
      fun r => ∃ items, items? fields "children" = some items ∧
        List.Forall₂ Mirrors items r.1 ∧ Numbered next r.2 (Node.labels r.1) := by
  rw [childrenViolations_eq, childrenOf_eq]
  exact optionalList_loads fun items hitems => nodesOf_loads (h items hitems) next

theorem nodeOf_loads (v : Value) : NodeLoads v := by
  induction v using document_induction with
  | object fields ih =>
    intro next
    unfold nodeViolations nodeOf
    dsimp only
    cases htype : Fields.getOrNull fields "type" with
    | text kind =>
      have htype := getOrNull_eq_text htype
      dsimp only
      split_ifs with helement htext hexpression hfragment
      -- In each kind the fields are taken in the order in which they are asked for: the first violation is
      -- the one that is reported.
      · obtain rfl : kind = "element" := eq_of_beq helement
        refine (requireText_loads fields "tag").bind fun tag htag => ?_
        rw [← bind_assoc]
        refine (optionalList_loads fun items _ => attributesOf_loads items).bind fun attributes hattributes => ?_
        obtain ⟨vs, hlisted, heach⟩ := hattributes
        refine (childrenOf_loads ih next).map fun r hr => ?_
        obtain ⟨items, hitems, hbelow, hlabels⟩ := hr
        exact ⟨_, rfl, .element htype htag hlisted heach hitems hbelow, hlabels.parent⟩
      · obtain rfl : kind = "text" := eq_of_beq htext
        exact (requireText_loads fields "value").map fun value hvalue =>
          ⟨_, rfl, .text htype hvalue, 1, rfl, .refl _⟩
      · obtain rfl : kind = "expression" := eq_of_beq hexpression
        exact (optionalText_loads fields "expr" .slotValue).map fun expr hexpr =>
          ⟨_, rfl, .slot htype hexpr, 1, rfl, .refl _⟩
      · obtain rfl : kind = "fragment" := eq_of_beq hfragment
        refine (childrenOf_loads ih next).map fun r hr => ?_
        obtain ⟨items, hitems, hbelow, hlabels⟩ := hr
        exact ⟨_, rfl, .fragment htype hitems hbelow, hlabels.parent⟩
      · rfl
    | _ => rfl
  | other v hv =>
    intro next
    cases v with
    | object fields => exact absurd rfl (hv fields)
    | _ => rfl

end Loads

section Acceptance

variable {fields : Fields} {key : String} {v : Value} {n : Node}

theorem HasText.violations_eq_nil (h : HasText fields key) : textViolations fields key = [] := by
  obtain ⟨s, hs⟩ := h
  rw [textViolations, hs]

theorem optionalTextViolations_eq_nil (h : (optionalText? fields key).isSome)
    (fault : String → TreeFault) : optionalTextViolations fields key fault = [] := by
  unfold optionalTextViolations Fields.getOrNull
  unfold optionalText? at h
  cases hfield : fields.get? key with
  | none => rfl
  | some v =>
    rw [hfield] at h
    cases v with
    | null => rfl
    | text s => rfl
    | _ => cases h

theorem listViolations_eq_nil {items : List Value} {each : Value → List Violation}
    (h : items? fields key = some items) (heach : ∀ v ∈ items, each v = []) :
    listViolations fields key each = [] := by
  unfold items? at h
  unfold listViolations
  cases hfield : fields.get? key with
  | none => rfl
  | some v =>
    rw [hfield] at h
    cases v with
    | array items' =>
      cases h
      exact List.flatMap_eq_nil_iff.mpr heach
    | _ => cases h

theorem IsAttribute.violations_eq_nil (h : IsAttribute v) : attributeViolations v = [] := by
  cases h with
  | static type name value =>
    have hvalue := optionalTextViolations_eq_nil value .attributeValue
    simp [attributeViolations, type.getOrNull, hvalue, name.violations_eq_nil]
  | dynamic type name expr =>
    simp [attributeViolations, type.getOrNull, name.violations_eq_nil, expr.violations_eq_nil]
  | spread type expr => simp [attributeViolations, type.getOrNull, expr.violations_eq_nil]

theorem IsNode.violations_eq_nil (h : IsNode v) : nodeViolations v = [] := by
  induction h with
  | element type tag listed each nested below ih =>
    have hattributes := listViolations_eq_nil listed fun v hv => (each v hv).violations_eq_nil
    have hchildren := listViolations_eq_nil nested ih
    simp [nodeViolations, type.getOrNull, tag.violations_eq_nil, hattributes, childrenViolations_eq,
      hchildren]
  | text type value => simp [nodeViolations, type.getOrNull, value.violations_eq_nil]
  | slot type expr =>
    have hexpr := optionalTextViolations_eq_nil expr .slotValue
    simp [nodeViolations, type.getOrNull, hexpr]
  | fragment type nested below ih =>
    have hchildren := listViolations_eq_nil nested ih
    simp [nodeViolations, type.getOrNull, childrenViolations_eq, hchildren]

theorem IsTree.violations_eq_nil (h : IsTree v) : violations v = [] := by
  cases v with
  | array items =>
    rw [violations, nodesViolations_eq]
    exact List.flatMap_eq_nil_iff.mpr fun v hv => (h v hv).violations_eq_nil
  | _ => exact IsNode.violations_eq_nil h

theorem MirrorsAttribute.isAttribute {a : Attribute} (h : MirrorsAttribute v a) : IsAttribute v := by
  cases h with
  | static type named valued => exact .static type ⟨_, named⟩ (Option.isSome_of_eq_some valued)
  | dynamic type named filled => exact .dynamic type ⟨_, named⟩ ⟨_, filled⟩
  | spread type filled => exact .spread type ⟨_, filled⟩

theorem forall_of_forall₂ {α β : Type} {R : α → β → Prop} {P : α → Prop} {as : List α} {bs : List β}
    (h : List.Forall₂ R as bs) (hP : ∀ a ∈ as, ∀ b, R a b → P a) : ∀ a ∈ as, P a := by
  induction h with
  | nil => exact List.forall_mem_nil _
  | cons hab _ ih =>
    rw [List.forall_mem_cons] at hP ⊢
    exact ⟨hP.1 _ hab, ih hP.2⟩

theorem Mirrors.isNode (h : Mirrors v n) : IsNode v := by
  induction v using document_induction generalizing n with
  | object fields ih =>
    cases h with
    | element type tagged listed each nested below =>
      have hattributes := forall_of_forall₂ each fun v _ a ha => ha.isAttribute
      have hchildren := forall_of_forall₂ below fun v hv n hn => ih _ nested v hv hn
      exact .element type ⟨_, tagged⟩ listed hattributes nested hchildren
    | text type shown => exact .text type ⟨_, shown⟩
    | slot type filled => exact .slot type (Option.isSome_of_eq_some filled)
    | fragment type nested below =>
      exact .fragment type nested (forall_of_forall₂ below fun v hv n hn => ih _ nested v hv hn)
  | other v hv =>
    cases h with
    | _ => exact absurd rfl (hv _)

theorem MirrorsTree.isTree (h : MirrorsTree v n) : IsTree v := by
  cases h with
  | node h =>
    cases v with
    | array items => cases h
    | _ => exact h.isNode
  | list below => exact forall_of_forall₂ below fun v _ n hn => hn.isNode

theorem Mirrors.known (h : Mirrors v n) : n.isForeign = false := by
  cases h <;> rfl

theorem distinct_of_nodup (hknown : n.isForeign = false) (h : (Node.labelsAt n).Nodup) :
    (Root.node n).Distinct := by
  rwa [Root.Distinct, Root.nodes_of_known hknown, Node.labels, Node.labels, List.append_nil]

theorem treeOf_loads (v : Value) :
    Loads (violations v) (treeOf v) fun n => MirrorsTree v n ∧ (Root.node n).Distinct := by
  cases v with
  | array items =>
    rw [violations, nodesViolations_eq]
    exact (nodesOf_loads (fun v _ => nodeOf_loads v) 0).map fun r hr =>
      ⟨_, rfl, .list hr.1, distinct_of_nodup rfl hr.2.parent.nodup⟩
  | _ =>
    exact (nodeOf_loads _ 0).map fun r hr =>
      ⟨_, rfl, .node hr.1, distinct_of_nodup hr.1.known hr.2.nodup⟩

/-- A document is loaded if and only if it describes a tree, which is if it has no violation. The tree
mirrors the document, with a node of its own for each node there. Otherwise the violation that comes
first is reported. -/
theorem treeOf_accepts_grammar (v : Value) :
    ((∃ n, treeOf v = .ok n) ↔ IsTree v) ∧ (violations v = [] ↔ IsTree v) ∧
      (∀ n, treeOf v = .ok n → MirrorsTree v n ∧ (Root.node n).Distinct) ∧
      ∀ e, treeOf v = .error e →
        ∃ first rest, violations v = first :: rest ∧ e = .tree first.fault first.place := by
  have hloads := treeOf_loads v
  have haccepted : violations v = [] → ∃ n, treeOf v = .ok n := fun hnone => by
    rw [hnone] at hloads
    obtain ⟨n, hn, -⟩ := hloads
    exact ⟨n, hn⟩
  have htree : (∃ n, treeOf v = .ok n) → IsTree v := fun ⟨n, hn⟩ => (hloads.of_ok hn).2.1.isTree
  refine ⟨⟨htree, fun h => haccepted h.violations_eq_nil⟩,
    ⟨fun hnone => htree (haccepted hnone), IsTree.violations_eq_nil⟩, fun n hn => (hloads.of_ok hn).2,
    fun e he => hloads.of_error he⟩

example :
    (violations (.object [("children", .array [.int 1]), ("attributes", .array [.null]),
      ("type", .text "element")])).map Violation.fault =
        [.missing "element" "tag", .attributeObject "NoneType", .nodeObject "int"] := by decide

end Acceptance

end SlotMarkup.Load
