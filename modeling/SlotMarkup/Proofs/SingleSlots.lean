import SlotMarkup.Proofs.ElementCalls
import SlotMarkup.Proofs.Separation

/-! Templates that are one slot with no markup around it. They come from trees that show one dynamic
node and nothing else, because texts, literal elements and separators all leave some markup. -/

namespace SlotMarkup

open SlotMarkup.Host (Expr)

theorem join_eq_empty {ss : List String} : String.join ss = "" ↔ ∀ s ∈ ss, s = "" := by
  induction ss with
  | nil => simp
  | cons s ss ih => rw [String.join_cons, String.append_eq_empty_iff, ih, List.forall_mem_cons]

def IsBare (os : List Output) : Prop := ∀ s, Output.markup s ∈ os → s = ""

theorem isBare_nil : IsBare [] := by
  simp [IsBare]

theorem isBare_append {as bs : List Output} : IsBare (as ++ bs) ↔ IsBare as ∧ IsBare bs := by
  constructor
  · intro h
    exact ⟨fun s hs => h s (List.mem_append_left bs hs), fun s hs => h s (List.mem_append_right as hs)⟩
  · rintro ⟨has, hbs⟩ s hs
    rcases List.mem_append.mp hs with hs | hs
    · exact has s hs
    · exact hbs s hs

theorem isBare_slot {value : Expr} {part : Part} {os : List Output} :
    IsBare (.slot value part :: os) ↔ IsBare os := by
  simp [IsBare]

theorem not_isBare_markup {s : String} (h : s ≠ "") (os : List Output) : ¬ IsBare (.markup s :: os) :=
  fun hbare => h (hbare s List.mem_cons_self)

theorem Template.join_strings_eq_empty (os : List Output) (count : Nat) :
    String.join (ofOutputs os count).strings = "" ↔ IsBare os := by
  have hjoin : String.join (ofOutputs os count).strings = String.join (os.map fun o => o.toPiece.text) :=
    join_stretches os
  rw [hjoin, join_eq_empty, List.forall_mem_map]
  constructor
  · intro h s hs
    exact h _ hs
  · intro h o ho
    cases o with
    | markup s => exact h s ho
    | slot value part => rfl

theorem Template.strings_of_isBare {os : List Output} {e : Expr} (count : Nat)
    (hvalues : valuesOf os = [e]) (hbare : IsBare os) : (ofOutputs os count).strings = ["", ""] := by
  have hlength : (ofOutputs os count).strings.length = 2 := by
    rw [ofOutputs, List.length_map, length_stretches, hvalues]
    rfl
  obtain ⟨a, b, hstrings⟩ := List.length_eq_two.mp hlength
  have hempty := join_eq_empty.mp ((join_strings_eq_empty os count).mpr hbare)
  rw [hstrings] at hempty ⊢
  obtain ⟨rfl, rfl⟩ : a = "" ∧ b = "" := by simpa using hempty
  rfl

theorem Template.single?_ofOutputs {os : List Output} {count : Nat} {e : Expr} :
    (ofOutputs os count).single? = some e ↔ valuesOf os = [e] ∧ IsBare os := by
  constructor
  · intro h
    unfold single? at h
    split at h
    next e' a b hvalues hstrings =>
      split at h
      next hempty =>
        cases h
        obtain ⟨rfl, rfl⟩ : a = "" ∧ b = "" := by simpa using hempty
        refine ⟨hvalues, (join_strings_eq_empty os count).mp ?_⟩
        rw [hstrings]
        rfl
      next => cases h
    next => cases h
  · rintro ⟨hvalues, hbare⟩
    have hvalues' : (ofOutputs os count).values = [e] := hvalues
    rw [single?, hvalues', strings_of_isBare count hvalues hbare]
    rfl

theorem tag_ne_empty (tag : String) : "<" ++ tag ++ " " ≠ "" := by
  simp [String.append_eq_empty_iff]

theorem Emits.isDynamic_of_isBare {config : Config} {scope : Scope} {depth : Int} {count next : Nat}
    {ns : List Node} {os : List Output} (h : Emits config scope depth count ns os next)
    (hbare : IsBare os) : ∀ n ∈ Node.outputs ns, n.isDynamic = true := by
  induction h with
  | nil => exact List.forall_mem_nil _
  | text rest ih =>
    obtain ⟨htext, hos⟩ := isBare_append.mp hbare
    rw [Node.outputs_cons, Node.outputs_text]
    unfold textOutputs at htext
    split
    next => exact ih hos
    next hshown =>
      rw [if_neg hshown] at htext
      exact absurd htext (not_isBare_markup (by simpa using hshown) [])
  | emptySlot empty rest ih =>
    rw [Node.outputs_cons, Node.outputs_emptySlot empty]
    exact ih hbare
  | slot shown around parsed rest ih =>
    have hos := isBare_slot.mp (isBare_append.mp hbare).2
    rw [Node.outputs_cons, Node.outputs_slot shown]
    exact List.forall_mem_cons.mpr ⟨rfl, ih hos⟩
  | fragment entered below rest hbelow hrest =>
    obtain ⟨hbody, hos⟩ := isBare_append.mp hbare
    rw [Node.outputs_cons, Node.outputs_fragment]
    exact List.forall_mem_append.mpr ⟨hbelow hbody, hrest hos⟩
  | dynamic kind built around rest ih =>
    have hos := isBare_slot.mp hbare
    rw [Node.outputs_cons, Node.outputs_element]
    exact List.forall_mem_cons.mpr ⟨Node.isDynamic_of_kind kind, ih hos⟩
  | literal kind entered opened below rest hbelow hrest =>
    exact absurd hbare (not_isBare_markup (tag_ne_empty _) _)

def Scope.IsOpen (scope : Scope) : Prop :=
  ∀ layout, scope.layout = .ok layout → ∀ label, layout.isWrapped label = false

/-- Outputs that are the slots of some nodes and nothing else, but for separators between texts. -/
structure FilledOnly (config : Config) (scope : Scope) (depth : Int) (shown : List Node)
    (os : List Output) : Prop where
  bare : scope.IsOpen → IsBare os
  attributes : slotsIn true os = []
  values : List.Forall₂ (Fills config depth) (Template.valuesOf os) shown

namespace FilledOnly

variable {config : Config} {scope : Scope} {depth : Int} {shown shown' : List Node} {os os' : List Output}

theorem nil : FilledOnly config scope depth [] [] := ⟨fun _ => isBare_nil, rfl, .nil⟩

theorem slot {e : Expr} {n : Node} (he : Fills config depth e n) (h : FilledOnly config scope depth shown os)
    (layout : Layout) (label : Nat) :
    FilledOnly config scope depth (n :: shown)
      (.slot e (Scope.part (some scope) layout label) :: os) := by
  refine ⟨fun hopen => isBare_slot.mpr (h.bare hopen), ?_, h.values.cons he⟩
  rw [slotsIn_slot, Scope.part_isAttribute]
  exact h.attributes

theorem separated {layout : Layout} (hlayout : scope.layout = .ok layout) (label : Nat)
    (h : FilledOnly config scope depth shown os) :
    FilledOnly config scope depth shown (separatorOutputs config (layout.isWrapped label) ++ os) := by
  refine ⟨fun hopen => ?_, ?_, ?_⟩
  · have hnone : separatorOutputs config (layout.isWrapped label) = [] := by
      rw [hopen layout hlayout label]
      rfl
    rw [hnone]
    exact h.bare hopen
  · rw [slotsIn_append, slotsIn_separatorOutputs]
    exact h.attributes
  · rw [Template.valuesOf_append, valuesOf_separatorOutputs]
    exact h.values

theorem append (h : FilledOnly config scope depth shown os) (h' : FilledOnly config scope depth shown' os') :
    FilledOnly config scope depth (shown ++ shown') (os ++ os') := by
  refine ⟨fun hopen => isBare_append.mpr ⟨h.bare hopen, h'.bare hopen⟩, ?_, ?_⟩
  · rw [slotsIn_append, h.attributes, h'.attributes]
    rfl
  · rw [Template.valuesOf_append]
    exact List.rel_append h.values h'.values

theorem mono {inner : Int} (h : FilledOnly config scope inner shown os) (hle : depth ≤ inner) :
    FilledOnly config scope depth shown os :=
  ⟨h.bare, h.attributes, h.values.imp fun _ _ he => he.mono hle⟩

end FilledOnly

theorem Emits.filledOnly {config : Config} {scope : Scope} {depth : Int} {count next : Nat}
    {ns : List Node} {os : List Output} (h : Emits config scope depth count ns os next)
    (hdynamic : ∀ n ∈ Node.outputs ns, n.isDynamic = true) :
    FilledOnly config scope depth (Node.outputs ns) os := by
  induction h with
  | nil => exact .nil
  | text rest ih =>
    rw [Node.outputs_cons, Node.outputs_text] at hdynamic ⊢
    unfold textOutputs
    split at hdynamic
    next hsilent =>
      rw [if_pos hsilent, if_pos hsilent]
      exact ih hdynamic
    next =>
      have htext := hdynamic _ List.mem_cons_self
      cases htext
  | emptySlot empty rest ih =>
    rw [Node.outputs_cons, Node.outputs_emptySlot empty] at hdynamic ⊢
    exact ih hdynamic
  | slot shown around parsed rest ih =>
    rw [Node.outputs_cons, Node.outputs_slot shown] at hdynamic ⊢
    have hrest := ih (List.forall_mem_cons.mp hdynamic).2
    exact (hrest.slot (fills_slot shown parsed) _ _).separated around _
  | fragment entered below rest hbelow hrest =>
    rw [Node.outputs_cons, Node.outputs_fragment] at hdynamic ⊢
    obtain ⟨hchildren, hns⟩ := List.forall_mem_append.mp hdynamic
    -- the children are compiled one level deeper, and only a bound for the level is asked for
    have hentered := enter_eq entered
    exact ((hbelow hchildren).mono (by omega)).append (hrest hns)
  | dynamic kind built around rest ih =>
    rw [Node.outputs_cons, Node.outputs_element] at hdynamic ⊢
    exact (ih (List.forall_mem_cons.mp hdynamic).2).slot (fills_element kind built) _ _
  | literal kind entered opened below rest hbelow hrest =>
    rw [Node.outputs_cons, Node.outputs_element] at hdynamic
    have hliteral := hdynamic _ List.mem_cons_self
    rw [Node.isDynamic_of_kind kind] at hliteral
    cases hliteral

theorem Layout.isWrapped_alone {ns : List Node} {n : Node} {layout : Layout}
    (hlayout : ofChildren ns = .ok layout) (halone : Node.outputs ns = [n]) (label : Nat) :
    layout.isWrapped label = false := by
  have hrows : ∀ r ∈ tabulate [n], r.wrapped = false := by
    intro r hr
    obtain rfl := List.mem_singleton.mp hr
    rfl
  rw [ofChildren_eq_ok hlayout, halone, isWrapped]
  cases hrow : row? ⟨tabulate [n]⟩ label with
  | none => rfl
  | some r => exact hrows r (List.mem_reverse.mp (List.mem_of_find?_eq_some hrow))

theorem Emits.alone {config : Config} {depth : Int} {count next : Nat} {ns : List Node} {n : Node}
    {os : List Output} (h : Emits config (.ofRoot ns) depth count ns os next)
    (halone : Node.outputs ns = [n]) (hdynamic : n.isDynamic = true) :
    ∃ e, Fills config depth e n ∧ Template.valuesOf os = [e] ∧ IsBare os ∧ slotsIn true os = [] := by
  have hall : ∀ m ∈ Node.outputs ns, m.isDynamic = true := by
    rw [halone]
    exact List.forall_mem_singleton.mpr hdynamic
  have hopen : (Scope.ofRoot ns).IsOpen := fun layout hlayout => Layout.isWrapped_alone hlayout halone
  -- separators are the only markup that dynamic nodes could have, and they need two texts
  obtain ⟨hbare, hslots, hvalues⟩ := h.filledOnly hall
  rw [halone] at hvalues
  generalize Template.valuesOf os = values at hvalues
  obtain - | ⟨hfills, - | -⟩ := hvalues
  exact ⟨_, hfills, rfl, hbare hopen, hslots⟩

theorem Emits.outputs_of_single {config : Config} {scope : Scope} {depth : Int} {count next : Nat}
    {ns : List Node} {os : List Output} {e : Expr} (h : Emits config scope depth count ns os next)
    (hvalues : Template.valuesOf os = [e]) (hbare : IsBare os) :
    ∃ n, Node.outputs ns = [n] ∧ n.isDynamic = true := by
  have hdynamic := h.isDynamic_of_isBare hbare
  have hlength := (h.filledOnly hdynamic).values.length_eq
  rw [hvalues] at hlength
  obtain ⟨n, hn⟩ := List.length_eq_one_iff.mp hlength.symm
  exact ⟨n, hn, hdynamic n (by simp [hn])⟩

/-- A template is its only value just if the tree shows one dynamic node and nothing else. The value is
then that of the node, and no attribute fills it. Otherwise the template is a call of the helper with its
strings, its values and its parts in written form. -/
theorem compile_single_iff {config : Config} {depth : Int} {root : Root} {t : Template}
    (h : compile config depth root = .ok t) :
    (t.single?.isSome = true ↔ ∃ n, Node.outputs root.nodes = [n] ∧ n.isDynamic = true) ∧
    (∀ n, Node.outputs root.nodes = [n] → n.isDynamic = true →
      ∃ e, Fills config depth e n ∧ t.strings = ["", ""] ∧ t.values = [e] ∧ t.slotsIn true = [] ∧
        t.toExpr config = .ok e) ∧
    (t.single? = none → ∃ codes, t.partMeta = .ok codes ∧ t.toExpr config = .ok
      (.call (.name config.htmlName)
        [.tuple (t.strings.map .ofText), .tuple t.values, .ofText codes] [])) ∧
    (depth = 0 → generate config root = t.toExpr config) := by
  obtain ⟨codes, hcodes⟩ := compile_partMeta h
  refine ⟨?_, fun n halone hdynamic => ?_, fun hnone => ⟨codes, hcodes, ?_⟩, fun hdepth => ?_⟩
  · obtain ⟨os, count, hos, rfl⟩ := compile_emits h
    rw [Option.isSome_iff_exists]
    constructor
    · rintro ⟨e, he⟩
      obtain ⟨hvalues, hbare⟩ := Template.single?_ofOutputs.mp he
      exact hos.outputs_of_single hvalues hbare
    · rintro ⟨n, halone, hdynamic⟩
      obtain ⟨e, -, hvalues, hbare, -⟩ := hos.alone halone hdynamic
      exact ⟨e, Template.single?_ofOutputs.mpr ⟨hvalues, hbare⟩⟩
  · obtain ⟨os, count, hos, rfl⟩ := compile_emits h
    obtain ⟨e, hfills, hvalues, hbare, hslots⟩ := hos.alone halone hdynamic
    have hsingle : (Template.ofOutputs os count).single? = some e :=
      Template.single?_ofOutputs.mpr ⟨hvalues, hbare⟩
    refine ⟨e, hfills.mono (root.le_level depth), Template.strings_of_isBare count hvalues hbare, hvalues,
      (Template.slotsIn_ofOutputs true os count).trans hslots, ?_⟩
    rw [Template.toExpr, hsingle]
  · rw [Template.toExpr, hnone, hcodes]
    rfl
  · rw [generate, ← hdepth, h]
    rfl

theorem compile_single_iff_fragment :
    let card : Node := .element 3 "Card" [] [.text 1 "Hi" .origin] .origin
    let root : Root := .list
      [.text 0 " \n " .origin, .fragment 5 [.slot 4 (.value .null) .origin, card] .origin]
    ∃ t, compile .standard 0 root = .ok t ∧ t.single?.isSome = true ∧
      generate .standard root = generate .standard (.node card) := by
  intro card root
  obtain ⟨t, ht⟩ : ∃ t, compile .standard 0 root = .ok t := ⟨_, rfl⟩
  have halone : Node.outputs root.nodes = [card] := rfl
  have hdynamic : card.isDynamic = true := rfl
  obtain ⟨hiff, hvalue, -, hgenerate⟩ := compile_single_iff ht
  obtain ⟨e, ⟨inner, hdepth, -, hcard⟩, -, -, -, he⟩ := hvalue card halone hdynamic
  refine ⟨t, ht, hiff.mpr ⟨card, halone, hdynamic⟩, ?_⟩
  rw [hgenerate rfl, he, hcard.alone hdepth]

end SlotMarkup
