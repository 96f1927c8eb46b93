import SlotMarkup.Proofs.Emission
import SlotMarkup.Proofs.Liveness

/-! Pictures that are written as markup. The search for dynamic parts finds everything below a picture
that needs a slot, but for the properties of form controls, which are filled in even if they are
static. A literal picture has no slot just if it holds no such property. -/

namespace SlotMarkup

open SlotMarkup.Host (Expr Entry)

/-- Whether a static attribute is a property of a form control, which markup does not carry over. -/
def Attribute.isControlValue (tag : String) : Attribute → Bool
  | .static name _ _ => isControl tag && isControlProperty name
  | _ => false

def Node.isFilledControl : Node → Bool
  | .element _ tag attributes _ _ => attributes.any (Attribute.isControlValue tag)
  | _ => false

theorem Attribute.isDynamicOn_of_not_live {a : Attribute} (h : a.isLive = false) (tag : String) :
    a.isDynamicOn tag = a.isControlValue tag := by
  cases a with
  | static name value place =>
    have hreserved : isReserved name = false := h
    rw [isDynamicOn, needsValue, hreserved, Bool.false_or]
    rfl
  | dynamic name expr place => cases h
  | spread expr place => cases h
  | foreign v => rfl

theorem partsOf_runOutputs_eq_nil_iff {element written : Nat} {run : Option Expr} :
    Template.partsOf (runOutputs element written run) = [] ↔ run = none := by
  cases run <;> simp [runOutputs, Template.partsOf]

theorem attributeOutputs_parts_eq_nil_iff {host : Host.Interpreter} {tag : String} {element : Nat}
    {attributes : List Attribute} :
    ∀ {written : Nat} {run : Option Expr} {os : List Output},
      attributeOutputs host tag element written run attributes = .ok os →
        (Template.partsOf os = [] ↔ run = none ∧ ∀ a ∈ attributes, a.isDynamicOn tag = false) := by
  induction attributes with
  | nil =>
    intro written run os h
    cases h
    rw [partsOf_runOutputs_eq_nil_iff]
    simp
  | cons a as ih =>
    intro written run os h
    rcases attributeOutputs_cons h with
      ⟨hdynamic, entry, -, hrest⟩ | ⟨hliteral, name, value, place, rest, -, hrest, rfl⟩
    · rw [ih hrest]
      simp [hdynamic]
    · rw [Template.partsOf_append, List.append_eq_nil_iff, partsOf_runOutputs_eq_nil_iff, Template.partsOf,
        ih hrest]
      simp [hliteral]

theorem opening_parts_eq_nil_iff {host : Host.Interpreter} {tag : String} {element : Nat}
    {attributes : List Attribute} {opening : List Output}
    (h : attributeOutputs host tag element 0 none attributes = .ok opening)
    (hlive : attributes.any Attribute.isLive = false) :
    Template.partsOf opening = [] ↔ attributes.any (Attribute.isControlValue tag) = false := by
  rw [attributeOutputs_parts_eq_nil_iff h, and_iff_right rfl, List.any_eq_false]
  rw [List.any_eq_false] at hlive
  refine forall₂_congr fun a ha => ?_
  rw [Attribute.isDynamicOn_of_not_live (eq_false_of_ne_true (hlive a ha)), Bool.not_eq_true]

namespace Node

theorem classifyElement_of_not_live {tag : String} {attributes : List Attribute} {children : List Node}
    (htag : isMarkupTag tag = true) (hattributes : attributes.any Attribute.isLive = false)
    (hchildren : live children = false) : classifyElement tag attributes children = .literal := by
  have hreserved : attributes.any Attribute.hasReservedName = false := by
    rw [List.any_eq_false] at hattributes ⊢
    intro a ha hname
    apply hattributes a ha
    cases a with
    | static name value place => exact hname
    | dynamic name expr place => rfl
    | spread expr place => rfl
    | foreign v => exact hname
  rw [classifyElement, hasLivePart_eq, htag, hattributes, hchildren, hreserved]
  simp

theorem not_live_cons {n : Node} {ns : List Node} :
    live (n :: ns) = false ↔ liveAt n = false ∧ live ns = false := by
  rw [live, Bool.or_eq_false_iff]

theorem not_live_element {label : Nat} {tag : String} {attributes : List Attribute}
    {children : List Node} {place : Place} :
    liveAt (.element label tag attributes children place) = false ↔
      isMarkupTag tag = true ∧ attributes.any Attribute.isLive = false ∧ live children = false := by
  rw [liveAt, Bool.or_eq_false_iff, Bool.or_eq_false_iff, Bool.not_eq_false']

theorem classifyElement_svg_eq_literal_iff (attributes : List Attribute) (children : List Node) :
    classifyElement "svg" attributes children = .literal ↔
      hasLivePart attributes children = false ∧ attributes.any Attribute.hasReservedName = false := by
  have htag : isMarkupTag "svg" = true := by decide
  rw [classifyElement, htag]
  cases hasLivePart attributes children <;> cases attributes.any Attribute.hasReservedName <;> simp

end Node

theorem Node.forall_contents_shown {n : Node} {ns : List Node} (hcontents : Node.contentsAt n = [n])
    (hn : n.isFilledControl = false) :
    (∀ m ∈ Node.contents (n :: ns), m.isFilledControl = false) ↔
      ∀ m ∈ Node.contents ns, m.isFilledControl = false := by
  rw [Node.contents, hcontents, List.forall_mem_append, List.forall_mem_singleton, and_iff_right hn]

theorem Emits.parts_eq_nil_iff {config : Config} {scope : Scope} {depth : Int} {count next : Nat}
    {ns : List Node} {os : List Output} (h : Emits config scope depth count ns os next)
    (hlive : Node.live ns = false) :
    Template.partsOf os = [] ↔ ∀ n ∈ Node.contents ns, n.isFilledControl = false := by
  induction h with
  | nil => exact iff_of_true rfl (List.forall_mem_nil _)
  | text rest ih =>
    obtain ⟨-, hns⟩ := Node.not_live_cons.mp hlive
    rw [Template.partsOf_append, partsOf_textOutputs, List.nil_append, ih hns]
    exact (Node.forall_contents_shown rfl rfl).symm
  | emptySlot empty rest ih =>
    obtain ⟨-, hns⟩ := Node.not_live_cons.mp hlive
    rw [ih hns]
    exact (Node.forall_contents_shown rfl rfl).symm
  | slot shown around parsed rest ih =>
    obtain ⟨hslot, -⟩ := Node.not_live_cons.mp hlive
    rw [Node.liveAt, shown] at hslot
    cases hslot
  | fragment entered below rest hbelow hrest =>
    obtain ⟨hchildren, hns⟩ := Node.not_live_cons.mp hlive
    rw [Template.partsOf_append, List.append_eq_nil_iff, hbelow hchildren, hrest hns,
      Node.contents, Node.contentsAt, List.forall_mem_append, List.forall_mem_cons]
    exact and_congr_left' (and_iff_right rfl).symm
  | dynamic kind built around rest ih =>
    obtain ⟨helement, -⟩ := Node.not_live_cons.mp hlive
    obtain ⟨htag, hattributes, hchildren⟩ := Node.not_live_element.mp helement
    rw [Node.classifyElement_of_not_live htag hattributes hchildren] at kind
    cases kind
  | literal kind entered opened below rest hbelow hrest =>
    obtain ⟨helement, hns⟩ := Node.not_live_cons.mp hlive
    obtain ⟨-, hattributes, hchildren⟩ := Node.not_live_element.mp helement
    rw [Node.contents, Node.contentsAt, List.forall_mem_append, List.forall_mem_cons,
      ← hbelow hchildren, ← hrest hns, Node.isFilledControl,
      ← opening_parts_eq_nil_iff opened hattributes]
    simp [Template.partsOf, and_assoc]

theorem Attribute.any_isControlValue {tag : String} (h : isControl tag = false)
    (attributes : List Attribute) : attributes.any (isControlValue tag) = false := by
  rw [List.any_eq_false]
  intro a _
  cases a <;> simp [isControlValue, h]

theorem Template.ofOutputs_static_iff (os : List Output) (count : Nat) :
    ((ofOutputs os count).values = [] ∧ (ofOutputs os count).parts = [] ∧
      ∃ s, (ofOutputs os count).strings = [s]) ↔ partsOf os = [] := by
  refine ⟨fun h => h.2.1, fun hparts => ?_⟩
  have hvalues : valuesOf os = [] := by
    rw [← List.length_eq_zero_iff, ← length_partsOf, hparts, List.length_nil]
  have hlength : (stretches os).length = 1 := by rw [length_stretches, hvalues, List.length_nil]
  obtain ⟨p, hp⟩ := List.length_eq_one_iff.mp hlength
  exact ⟨hvalues, hparts, String.join p, by rw [ofOutputs, hp, List.map_singleton]⟩

/-- A picture that compiles: it is literal just if the search finds nothing dynamic and no attribute is
reserved, and then it is one string just if no form control in it is filled. -/
theorem literal_picture_slots {config : Config} {depth : Int} {label : Nat} {attributes : List Attribute}
    {children : List Node} {place : Place} {t : Template}
    (h : compile config depth (.node (.element label "svg" attributes children place)) = .ok t) :
    (Node.classifyElement "svg" attributes children = .literal ↔
      Node.hasLivePart attributes children = false ∧
        attributes.any Attribute.hasReservedName = false) ∧
    (Node.classifyElement "svg" attributes children = .literal →
      ((t.values = [] ∧ t.parts = [] ∧ ∃ s, t.strings = [s]) ↔
        ∀ n ∈ Node.contents children, n.isFilledControl = false)) := by
  refine ⟨Node.classifyElement_svg_eq_literal_iff attributes children, fun hliteral => ?_⟩
  obtain ⟨hlive, -⟩ := (Node.classifyElement_svg_eq_literal_iff attributes children).mp hliteral
  rw [Node.hasLivePart_eq, Bool.or_eq_false_iff] at hlive
  obtain ⟨os, count, hemits, rfl⟩ := compile_emits h
  have hroot : Node.live [.element label "svg" attributes children place] = false :=
    Node.not_live_cons.mpr ⟨Node.not_live_element.mpr ⟨by decide, hlive⟩, rfl⟩
  have hpicture : Node.isFilledControl (.element label "svg" attributes children place) = false :=
    Attribute.any_isControlValue (by decide) attributes
  rw [Template.ofOutputs_static_iff, hemits.parts_eq_nil_iff hroot, Root.nodes_of_known rfl, Node.contents,
    Node.contentsAt, Node.contents, List.append_nil, List.forall_mem_cons, and_iff_right hpicture]

theorem literal_picture_slots_nested :
    let inner : Node := .element 1 "svg" [] [.text 2 "\n" .origin, .slot 3 (.value .null) .origin] .origin
    let outer : Node := .element 0 "svg" [.static "viewBox" (some "0 0 1 1") .origin] [inner] .origin
    ∃ t, compile .standard 0 (.node outer) = .ok t ∧ t.values = [] ∧ t.parts = [] ∧
      t.strings = ["<svg  viewBox=\"0 0 1 1\"><svg ></svg></svg>"] := by
  intro inner outer
  have h : compile .standard 0 (.node outer) = .ok
      ⟨["<svg  viewBox=\"0 0 1 1\"><svg ></svg></svg>"], [], [], 2⟩ := by rfl
  have hfree : ∀ n ∈ Node.contents [inner], n.isFilledControl = false := by decide
  obtain ⟨hvalues, hparts, -⟩ := ((literal_picture_slots h).2 (by decide)).mpr hfree
  exact ⟨_, h, hvalues, hparts, rfl⟩

/-- A picture that counts as literal is written with a slot for the value of an input. -/
theorem literal_picture_with_slot :
    let input : Node := .element 1 "input" [.static "value" (some "x") .origin] [] .origin
    Node.classifyElement "svg" [] [input] = .literal ∧ Node.hasLivePart [] [input] = false ∧
      ∃ t, compile .standard 0 (.node (.element 0 "svg" [] [input] .origin)) = .ok t ∧
        t.strings = ["<svg ><input ", " ></svg>"] ∧
        t.values = [.dict [.mk (some (.ofText "value")) (.ofText "x")]] ∧
        t.parts = [⟨.attribute, some 1, some 0⟩] :=
  ⟨by decide, by decide, _, rfl, rfl, rfl, rfl⟩

end SlotMarkup
