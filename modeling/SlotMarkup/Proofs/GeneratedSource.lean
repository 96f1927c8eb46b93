import SlotMarkup.Proofs.ElementCalls
import SlotMarkup.Proofs.ErrorKinds
import SlotMarkup.Proofs.PrintedForm

/-! What a compilation generates can be printed if every expression that it takes from the tree can.
Beside those expressions it is made of names, texts and the constant that a bare attribute stands
for. -/

namespace SlotMarkup

open SlotMarkup.Host (Expr Entry)
open SlotMarkup.Host (isPrintable_ofText isPrintable_name isPrintable_tuple isPrintable_call
  isPrintable_dict)

def Demand.IsPrintable (host : Host.Interpreter) : Demand → Prop
  | .expression expr place => ∀ e, expr.toExpr host place = .ok e → e.IsPrintable
  | _ => True

section Attributes

variable {host : Host.Interpreter} {tag : String} {attributes : List Attribute}

theorem Attribute.IsProperty.isPrintable {a : Attribute} {entry : Entry}
    (h : a.IsProperty host entry) (ha : ∀ d ∈ a.demands tag, d.IsPrintable host) : entry.IsPrintable := by
  have hkey : ∀ name k, some (Expr.ofText (attributeKey name)) = some k → k.IsPrintable := by
    intro name k hk
    cases hk
    exact isPrintable_ofText _
  cases h with
  | flag => exact ⟨hkey _, List.forall_mem_singleton.mpr rfl⟩
  | text => exact ⟨hkey _, isPrintable_ofText _⟩
  | dynamic parsed => exact ⟨hkey _, List.forall_mem_singleton.mp ha _ parsed⟩
  | spread parsed => exact ⟨nofun, List.forall_mem_singleton.mp ha _ parsed⟩

theorem Attribute.IsKeyValue.isPrintable {a : Attribute} {e : Expr} (h : a.IsKeyValue host e)
    (ha : ∀ d ∈ a.demands tag, d.IsPrintable host) : e.IsPrintable := by
  cases h with
  | text => exact isPrintable_ofText _
  | dynamic parsed => exact List.forall_mem_singleton.mp ha _ parsed

theorem slotValue_isPrintable {entry : Entry} (h : entry.IsPrintable) :
    (slotValue entry).IsPrintable := by
  obtain ⟨key, value⟩ := entry
  cases key with
  | none => exact h.2
  | some k => exact isPrintable_dict.mpr (List.forall_mem_singleton.mpr h)

theorem entriesOf_isPrintable {e : Expr} (h : e.IsPrintable) :
    ∀ entry ∈ entriesOf e, entry.IsPrintable := by
  unfold entriesOf
  split
  · exact isPrintable_dict.mp h
  · exact List.forall_mem_singleton.mpr ⟨nofun, h⟩

theorem extendRun_isPrintable {run : Option Expr} {added : Expr}
    (hrun : ∀ last, run = some last → last.IsPrintable) (hadded : added.IsPrintable) :
    (extendRun run added).IsPrintable := by
  cases run with
  | none => exact hadded
  | some last =>
    exact isPrintable_dict.mpr (List.forall_mem_append.mpr
      ⟨entriesOf_isPrintable (hrun last rfl), entriesOf_isPrintable hadded⟩)

theorem runOutputs_isPrintable {element written : Nat} {run : Option Expr}
    (h : ∀ last, run = some last → last.IsPrintable) :
    ∀ e ∈ Template.valuesOf (runOutputs element written run), e.IsPrintable := by
  cases run with
  | none => exact List.forall_mem_nil _
  | some last => exact List.forall_mem_singleton.mpr (h last rfl)

theorem attributeOutputs_isPrintable {element : Nat} :
    ∀ {written : Nat} {run : Option Expr} {os : List Output},
      attributeOutputs host tag element written run attributes = .ok os →
        (∀ last, run = some last → last.IsPrintable) →
          (∀ d ∈ attributes.flatMap (Attribute.demands tag), d.IsPrintable host) →
            ∀ e ∈ Template.valuesOf os, e.IsPrintable := by
  induction attributes with
  | nil =>
    intro written run os h hrun _
    cases h
    exact runOutputs_isPrintable hrun
  | cons a as ih =>
    intro written run os h hrun hdemands
    rw [List.flatMap_cons, List.forall_mem_append] at hdemands
    obtain ⟨ha, has⟩ := hdemands
    rcases attributeOutputs_cons h with
      ⟨-, entry, hentry, hrest⟩ | ⟨-, name, value, place, rest, -, hrest, rfl⟩
    · have hadded := slotValue_isPrintable ((Attribute.isProperty_of_entry hentry).isPrintable ha)
      refine ih hrest (fun last hlast => ?_) has
      cases hlast
      exact extendRun_isPrintable hrun hadded
    · have hlater : ∀ e ∈ Template.valuesOf rest, e.IsPrintable := by
        apply ih hrest _ has
        intro last hlast
        cases hlast
      rw [Template.valuesOf_append]
      exact List.forall_mem_append.mpr ⟨runOutputs_isPrintable hrun, hlater⟩

theorem forall_right_of_forall₂ {α β : Type} {R : α → β → Prop} {P : α → Prop} {Q : β → Prop}
    {as : List α} {bs : List β} (h : List.Forall₂ R as bs) (has : ∀ a ∈ as, P a)
    (hR : ∀ a b, R a b → P a → Q b) : ∀ b ∈ bs, Q b := by
  induction h with
  | nil => exact List.forall_mem_nil _
  | cons hab _ ih =>
    rw [List.forall_mem_cons] at has ⊢
    exact ⟨hR _ _ hab has.1, ih has.2⟩

theorem elementProperties_isPrintable {entries : List Entry} {key : Option Expr}
    (h : elementProperties host tag none attributes = .ok (entries, key))
    (hdemands : ∀ d ∈ attributes.flatMap (Attribute.demands tag), d.IsPrintable host) :
    (∀ entry ∈ entries, entry.IsPrintable) ∧ ∀ e ∈ key.toList, e.IsPrintable := by
  have hown : ∀ a ∈ attributes, ∀ d ∈ a.demands tag, d.IsPrintable host :=
    fun a ha d hd => hdemands d (List.mem_flatMap.mpr ⟨a, ha, hd⟩)
  obtain ⟨hentries, given, hgiven, rfl⟩ := elementProperties_spec h
  constructor
  · exact forall_right_of_forall₂ hentries (fun a ha => hown a (List.mem_of_mem_filter ha))
      fun a entry hproperty ha => hproperty.isPrintable ha
  · have hkeys : ∀ e ∈ given, e.IsPrintable :=
      forall_right_of_forall₂ hgiven (fun a ha => hown a (List.mem_of_mem_filter ha))
        fun a e hkey ha => hkey.isPrintable ha
    intro e he
    rw [Option.or_none, Option.mem_toList] at he
    exact hkeys e (List.mem_of_mem_getLast? he)

theorem Refers.isPrintable : ∀ {e : Expr} {cs : List Char}, Refers e cs → e.IsPrintable
  | _, _, .name _ => isPrintable_name _
  | _, _, .attribute owner _ => by
    have howner := Refers.isPrintable owner
    exact howner

theorem elementType_isPrintable {place : Place} {type : Expr} (h : elementType tag place = .ok type) :
    type.IsPrintable := by
  have htype := elementType_spec h
  unfold IsElementType at htype
  split at htype
  · rw [htype]
    exact isPrintable_ofText tag
  · exact htype.isPrintable

end Attributes

section Walk

variable {config : Config}

theorem Template.values_of_single? {t : Template} {e : Expr} (h : t.single? = some e) :
    t.values = [e] := by
  unfold single? at h
  split at h
  next value first last hvalues _ =>
    split at h
    · cases h
      exact hvalues
    · cases h
  next => cases h

theorem toExpr_isPrintable {t : Template} {e : Expr} (h : t.toExpr config = .ok e)
    (hvalues : ∀ v ∈ t.values, v.IsPrintable) : e.IsPrintable := by
  unfold Template.toExpr at h
  split at h
  next value hsingle =>
    cases h
    rw [Template.values_of_single? hsingle] at hvalues
    exact List.forall_mem_singleton.mp hvalues
  next =>
    obtain ⟨codes, -, h⟩ := bind_eq_ok.mp h
    cases h
    have hstrings : ∀ s ∈ t.strings.map Expr.ofText, s.IsPrintable := by
      intro s hs
      obtain ⟨text, -, rfl⟩ := List.mem_map.mp hs
      exact isPrintable_ofText text
    refine isPrintable_call.mpr ⟨isPrintable_name _, ?_⟩
    simp only [List.forall_mem_cons]
    exact ⟨isPrintable_tuple.mpr hstrings, isPrintable_tuple.mpr hvalues, isPrintable_ofText codes,
      List.forall_mem_nil _⟩

def NodesPrint (config : Config) (ns : List Node) : Prop :=
  ∀ (level : Int), (∀ d ∈ Node.demands level ns, d.IsPrintable config.host) →
    ∀ (scope : Scope) (depth : Int) (count next : Nat) (os : List Output),
      Emits config scope depth count ns os next → ∀ e ∈ Template.valuesOf os, e.IsPrintable

theorem NodesPrint.template {level depth : Int} {root : Root} {t : Template} {e : Expr}
    (hns : NodesPrint config root.nodes)
    (hdemands : ∀ d ∈ Node.demands level root.nodes, d.IsPrintable config.host)
    (h : compile config depth root = .ok t) (he : t.toExpr config = .ok e) : e.IsPrintable := by
  obtain ⟨os, count, hos, rfl⟩ := compile_emits h
  exact toExpr_isPrintable he (hns level hdemands _ _ _ _ os hos)

theorem elementValue_isPrintable {children : List Node} (hbelow : NodesPrint config children)
    {level depth : Int} {tag : String} {attributes : List Attribute} {place : Place} {e : Expr}
    (h : elementValue config depth tag attributes children place = .ok e)
    (hattributes : ∀ d ∈ attributes.flatMap (Attribute.demands tag), d.IsPrintable config.host)
    (hchildren : Node.outputs children ≠ [] →
      ∀ d ∈ Node.demands level children, d.IsPrintable config.host) :
    e.IsPrintable := by
  obtain ⟨inner, -, h⟩ := bind_eq_ok.mp h
  obtain ⟨type, htype, h⟩ := bind_eq_ok.mp h
  obtain ⟨⟨entries, key⟩, hproperties, h⟩ := bind_eq_ok.mp h
  obtain ⟨hentries, hkey⟩ := elementProperties_isPrintable hproperties hattributes
  have hcall : ∀ content : List Entry, (∀ entry ∈ content, entry.IsPrintable) →
      (elementCall config type (entries ++ content) key).IsPrintable := by
    intro content hcontent
    have hdict : (Expr.dict (entries ++ content)).IsPrintable :=
      isPrintable_dict.mpr (List.forall_mem_append.mpr ⟨hentries, hcontent⟩)
    refine isPrintable_call.mpr ⟨isPrintable_name _, List.forall_mem_append.mpr ⟨?_, hkey⟩⟩
    exact List.forall_mem_cons.mpr ⟨elementType_isPrintable htype, List.forall_mem_singleton.mpr hdict⟩
  dsimp only at h
  rw [any_givesOutput] at h
  split at h
  next hshown =>
    have houtputs : Node.outputs children ≠ [] := by simpa using hshown
    obtain ⟨t, ht, h⟩ := bind_eq_ok.mp h
    obtain ⟨value, hvalue, h⟩ := bind_eq_ok.mp h
    cases h
    have hnodes : NodesPrint config (Root.list children).nodes := hbelow
    have hprinted : value.IsPrintable := hnodes.template (hchildren houtputs) ht hvalue
    refine hcall _ (List.forall_mem_singleton.mpr ⟨fun k hk => ?_, hprinted⟩)
    cases hk
    exact isPrintable_ofText _
  next =>
    cases h
    have hbare := hcall [] (List.forall_mem_nil _)
    rwa [List.append_nil] at hbare

theorem nodesPrint (ns : List Node) : NodesPrint config ns := by
  -- Along the forest and not the derivation: the children of a dynamic element are compiled apart, and
  -- no premise of its rule is a derivation for them.
  induction ns using Node.forest_induction with
  | nil =>
    intro level _ scope depth count next os h
    cases h
    exact List.forall_mem_nil _
  | element label tag attributes children place ns hbelow hrest =>
    intro level hdemands scope depth count next os h
    rw [Node.demands, Node.demandsAt, List.forall_mem_append, List.forall_mem_cons] at hdemands
    obtain ⟨⟨-, hhere⟩, hns⟩ := hdemands
    cases h with
    | dynamic kind built around rest =>
      rw [kind] at hhere
      simp only [List.forall_mem_append] at hhere
      obtain ⟨-, hattributes, hchildren⟩ := hhere
      have hshown : Node.outputs children ≠ [] →
          ∀ d ∈ Node.demands (level + 2) children, d.IsPrintable config.host := by
        intro hne
        rw [if_neg (by simpa using hne), List.forall_mem_cons] at hchildren
        exact hchildren.2
      have hvalue := elementValue_isPrintable hbelow built hattributes hshown
      exact List.forall_mem_cons.mpr ⟨hvalue, hrest level hns _ _ _ _ _ rest⟩
    | literal kind entered opened below rest =>
      rw [kind] at hhere
      obtain ⟨hattributes, hchildren⟩ := List.forall_mem_append.mp hhere
      have hnone : ∀ last, (none : Option Expr) = some last → last.IsPrintable := by
        intro last hlast
        cases hlast
      have hopening := attributeOutputs_isPrintable opened hnone hattributes
      have hbody := hbelow _ hchildren _ _ _ _ _ below
      have hlater := hrest level hns _ _ _ _ _ rest
      simp only [List.cons_append, Template.valuesOf, Template.valuesOf_append, valuesOf_closingOutputs,
        List.append_nil, List.forall_mem_append]
      exact ⟨⟨hopening, hbody⟩, hlater⟩
  | text label value place ns hrest =>
    intro level hdemands scope depth count next os h
    cases h with
    | text rest =>
      rw [Template.valuesOf_append, valuesOf_textOutputs, List.nil_append]
      exact hrest level hdemands _ _ _ _ _ rest
  | slot label expr place ns hrest =>
    intro level hdemands scope depth count next os h
    rw [Node.demands, Node.demandsAt, List.forall_mem_append] at hdemands
    obtain ⟨hhere, hns⟩ := hdemands
    cases h with
    | emptySlot empty rest => exact hrest level hns _ _ _ _ _ rest
    | slot shown around parsed rest =>
      rw [shown] at hhere
      rw [Template.valuesOf_append, valuesOf_separatorOutputs, List.nil_append]
      exact List.forall_mem_cons.mpr
        ⟨List.forall_mem_singleton.mp hhere _ parsed, hrest level hns _ _ _ _ _ rest⟩
  | fragment label children place ns hbelow hrest =>
    intro level hdemands scope depth count next os h
    rw [Node.demands, Node.demandsAt, List.forall_mem_append, List.forall_mem_cons] at hdemands
    obtain ⟨⟨-, hchildren⟩, hns⟩ := hdemands
    cases h with
    | fragment entered below rest =>
      rw [Template.valuesOf_append, List.forall_mem_append]
      exact ⟨hbelow _ hchildren _ _ _ _ _ below, hrest level hns _ _ _ _ _ rest⟩
  | foreign label value ns hrest =>
    intro level _ scope depth count next os h
    cases h

end Walk

theorem generate_isPrintable {config : Config} {root : Root} {e : Expr}
    (h : generate config root = .ok e) (hdemands : ∀ d ∈ root.demands 0, d.IsPrintable config.host) :
    e.IsPrintable := by
  obtain ⟨t, ht, he⟩ := bind_eq_ok.mp h
  rw [Root.demands_eq, List.forall_mem_append] at hdemands
  exact (nodesPrint root.nodes).template hdemands.2 ht he

end SlotMarkup
