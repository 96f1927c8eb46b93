import Mathlib.Data.List.Forall2
import SlotMarkup.Proofs.Demands

/-! The calls that build dynamic elements. A call is made of the name, the attributes and the children of
its element and of nothing else: the tree around it, the depth at which it stands and the limit to the
depth decide whether there is a call at all, but never which one. -/

namespace SlotMarkup

open SlotMarkup.Host (Expr Entry)

def Config.limitedTo (config : Config) (limit : Int) : Config := { config with maxDepth := limit }

theorem Config.limitedTo_host (config : Config) (limit : Int) : (config.limitedTo limit).host = config.host :=
  rfl

/-- A computation under a limit has the given result, or it exceeds the limit for want of room. -/
def Repeats {α : Type} (limit : Int) (room : Prop) (a : α) (x : Except Error α) : Prop :=
  x = .ok a ∨ ¬ room ∧ ∃ place, x = .error (.depth limit place)

namespace Repeats

variable {α β : Type} {limit : Int} {room : Prop} {a : α} {b : β} {x : Except Error α}
  {f : α → Except Error β}

theorem bind (h : Repeats limit room a x) (hf : Repeats limit room b (f a)) :
    Repeats limit room b (x >>= f) := by
  rcases h with rfl | ⟨hroom, place, rfl⟩
  · exact hf
  · exact .inr ⟨hroom, place, rfl⟩

theorem map (h : Repeats limit room a x) (hf : f a = .ok b) : Repeats limit room b (x >>= f) :=
  h.bind (.inl hf)

end Repeats

section Limits

variable {config : Config} {limit shift : Int}

theorem enter_repeats {depth inner : Int} {place : Place} (h : enter config depth place = .ok inner) :
    Repeats limit (config.maxDepth + shift ≤ limit) (inner + shift)
      (enter (config.limitedTo limit) (depth + shift) place) := by
  have hinner := enter_eq h
  unfold enter at h ⊢
  split at h
  · cases h
  · split
    next hdeep =>
      have hroom : ¬ config.maxDepth + shift ≤ limit := by
        change limit < depth + shift + 1 at hdeep
        omega
      exact .inr ⟨hroom, place, rfl⟩
    next =>
      rw [hinner, Int.add_right_comm]
      exact .inl rfl

def NodesRepeat (config : Config) (limit shift : Int) (ns : List Node) : Prop :=
  ∀ (scope : Scope) (depth : Int) (count : Nat) (r : List Output × Nat),
    nodesOutputs config (some scope) depth count ns = .ok r →
      Repeats limit (config.maxDepth + shift ≤ limit) r
        (nodesOutputs (config.limitedTo limit) (some scope) (depth + shift) count ns)

theorem NodesRepeat.cons {n : Node} {ns : List Node}
    (hn : ∀ (scope : Scope) (depth : Int) (count : Nat) (r : List Output × Nat),
      nodeOutputs config (some scope) depth count n = .ok r →
        Repeats limit (config.maxDepth + shift ≤ limit) r
          (nodeOutputs (config.limitedTo limit) (some scope) (depth + shift) count n))
    (hns : NodesRepeat config limit shift ns) : NodesRepeat config limit shift (n :: ns) := by
  intro scope depth count r h
  obtain ⟨first, hfirst, h⟩ := bind_eq_ok.mp h
  obtain ⟨rest, hrest, h⟩ := bind_eq_ok.mp h
  exact (hn scope depth count first hfirst).bind ((hns scope depth first.2 rest hrest).map h)

theorem NodesRepeat.compile {ns : List Node} (hns : NodesRepeat config limit shift ns) {depth : Int}
    {t : Template} (h : compile config depth (.list ns) = .ok t) :
    Repeats limit (config.maxDepth + shift ≤ limit) t
      (compile (config.limitedTo limit) (depth + shift) (.list ns)) := by
  obtain ⟨inner, hinner, h⟩ := bind_eq_ok.mp h
  obtain ⟨r, hr, h⟩ := bind_eq_ok.mp h
  exact (enter_repeats hinner).bind ((hns _ _ _ r hr).map h)

theorem elementValue_repeats {children : List Node} (hbelow : NodesRepeat config limit shift children)
    {depth : Int} {tag : String} {attributes : List Attribute} {place : Place} {e : Expr}
    (h : elementValue config depth tag attributes children place = .ok e) :
    Repeats limit (config.maxDepth + shift ≤ limit) e
      (elementValue (config.limitedTo limit) (depth + shift) tag attributes children place) := by
  obtain ⟨inner, hinner, h⟩ := bind_eq_ok.mp h
  obtain ⟨type, htype, h⟩ := bind_eq_ok.mp h
  obtain ⟨⟨entries, key⟩, hproperties, h⟩ := bind_eq_ok.mp h
  refine (enter_repeats hinner).bind ?_
  rw [htype, ok_bind, Config.limitedTo_host, hproperties, ok_bind]
  dsimp only at h ⊢
  split at h
  next hshown =>
    rw [if_pos hshown]
    obtain ⟨t, ht, h⟩ := bind_eq_ok.mp h
    exact (hbelow.compile ht).map h
  next hshown =>
    rw [if_neg hshown]
    exact .inl h

theorem nodesRepeat (config : Config) (limit shift : Int) (ns : List Node) :
    NodesRepeat config limit shift ns := by
  induction ns using Node.forest_induction with
  | nil => exact fun scope depth count r h => .inl h
  | element label tag attributes children place ns hbelow hrest =>
    refine .cons (fun scope depth count r h => ?_) hrest
    cases hkind : Node.classifyElement tag attributes children with
    | dynamic =>
      rw [nodeOutputs_dynamic hkind] at h ⊢
      obtain ⟨e, he, h⟩ := bind_eq_ok.mp h
      exact (elementValue_repeats hbelow he).map h
    | literal =>
      simp only [nodeOutputs, hkind] at h ⊢
      obtain ⟨inner, hinner, h⟩ := bind_eq_ok.mp h
      obtain ⟨opening, hopening, h⟩ := bind_eq_ok.mp h
      obtain ⟨body, hbody, h⟩ := bind_eq_ok.mp h
      refine (enter_repeats hinner).bind ?_
      rw [Config.limitedTo_host, hopening, ok_bind]
      exact (hbelow _ _ _ body hbody).map h
  | text label value place ns hrest => exact .cons (fun scope depth count r h => .inl h) hrest
  | slot label expr place ns hrest => exact .cons (fun scope depth count r h => .inl h) hrest
  | fragment label children place ns hbelow hrest =>
    refine .cons (fun scope depth count r h => ?_) hrest
    simp only [nodeOutputs] at h ⊢
    obtain ⟨inner, hinner, h⟩ := bind_eq_ok.mp h
    exact (enter_repeats hinner).bind (hbelow _ _ _ r h)
  | foreign label value ns hrest => exact .cons (fun scope depth count r h => .inl h) hrest

theorem compile_repeats {depth : Int} {root : Root} {t : Template}
    (h : compile config depth root = .ok t) (limit shift : Int) :
    Repeats limit (config.maxDepth + shift ≤ limit) t
      (compile (config.limitedTo limit) (depth + shift) root) := by
  cases root with
  | list ns => exact (nodesRepeat config limit shift ns).compile h
  | single n noList =>
    have hknown : n.isForeign = false := by
      cases n with
      | foreign label value => cases h
      | _ => rfl
    rw [compile_node hknown] at h ⊢
    obtain ⟨r, hr, h⟩ := bind_eq_ok.mp h
    exact (nodesRepeat config limit shift [n] _ _ _ r hr).map h

end Limits

/-- A root that is compiled at the given depth is replaced by the expression when it stands alone. So it
is under any other limit, unless that leaves less room than there is below the given depth. -/
structure Generates (config : Config) (depth : Int) (root : Root) (e : Expr) : Prop where
  alone : 0 ≤ depth → generate config root = .ok e
  limited : ∀ limit,
    Repeats limit (config.maxDepth - depth ≤ limit) e (generate (config.limitedTo limit) root)

theorem generates_of_compile {config : Config} {depth : Int} {root : Root} {t : Template} {e : Expr}
    (h : compile config depth root = .ok t) (he : t.toExpr config = .ok e) :
    Generates config depth root e := by
  have hlimited : ∀ limit,
      Repeats limit (config.maxDepth - depth ≤ limit) e (generate (config.limitedTo limit) root) := by
    intro limit
    -- all levels are shifted up by the depth, so that the root stands at level 0
    have hcompile := compile_repeats h limit (-depth)
    rw [Int.add_right_neg] at hcompile
    exact hcompile.map he
  refine ⟨fun hdepth => ?_, hlimited⟩
  rcases hlimited config.maxDepth with hok | ⟨hroom, -⟩
  · exact hok
  · exact absurd (by omega) hroom

/-- There is a limit that leaves room enough for both, and there the two expressions are the same. -/
theorem Generates.unique {config : Config} {limit depth depth' : Int} {root : Root} {e e' : Expr}
    (h : Generates config depth root e) (h' : Generates (config.limitedTo limit) depth' root e') : e = e' := by
  obtain ⟨room, hroom, hroom'⟩ : ∃ room, config.maxDepth - depth ≤ room ∧ limit - depth' ≤ room :=
    ⟨max _ _, Int.le_max_left _ _, Int.le_max_right _ _⟩
  have he : generate (config.limitedTo room) root = .ok e := by
    rcases h.limited room with hok | ⟨hsmall, -⟩
    · exact hok
    · exact absurd hroom hsmall
  have he' : generate (config.limitedTo room) root = .ok e' := by
    rcases h'.limited room with hok | ⟨hsmall, -⟩
    · exact hok
    · exact absurd hroom' hsmall
  rw [he] at he'
  exact Except.ok.inj he'

theorem generates_of_single {config : Config} {depth : Int} {n : Node} {e : Expr} {part : Part}
    (h : nodeOutputs config none depth 0 n = .ok ([.slot e part], 0)) (hknown : n.isForeign = false) :
    Generates config depth (.node n) e := by
  have hcompile : compile config depth (.node n) = .ok (.ofOutputs [.slot e part] 0) := by
    rw [Root.node_of_known hknown, compile_node hknown, nodesOutputs_singleton, ← nodeOutputs_root, h]
    rfl
  exact generates_of_compile hcompile rfl

inductive Refers : Expr → List Char → Prop
  | name {cs : List Char} (word : Text.isIdentifier cs = true) : Refers (.name (String.ofList cs)) cs
  | attribute {e : Expr} {cs word : List Char} (owner : Refers e cs)
      (isWord : Text.isIdentifier word = true) :
      Refers (.attribute e (String.ofList word)) (cs ++ '.' :: word)

theorem Refers.foldl {e : Expr} {cs : List Char} (h : Refers e cs) {words : List (List Char)}
    (hwords : ∀ w ∈ words, Text.isIdentifier w = true) :
    Refers (words.foldl (fun e p => .attribute e (String.ofList p)) e) (cs ++ words.flatMap ('.' :: ·)) := by
  induction words generalizing e cs with
  | nil => simpa using h
  | cons w ws ih =>
    obtain ⟨hw, hws⟩ := List.forall_mem_cons.mp hwords
    have hstep := ih (h.attribute hw) hws
    rw [List.append_assoc] at hstep
    exact hstep

def IsElementType (tag : String) (e : Expr) : Prop :=
  if isMarkupTag tag then e = .ofText tag else Refers e tag.toList

theorem componentReference_eq_ok {tag : String} {place : Place} {e : Expr}
    (h : componentReference place tag = .ok e) :
    ∃ first rest, List.splitOn '.' tag.toList = first :: rest ∧
      (∀ word ∈ first :: rest, Text.isIdentifier word = true) ∧
      e = rest.foldl (fun e p => .attribute e (String.ofList p)) (.name (String.ofList first)) := by
  obtain ⟨first, rest, hparts⟩ := Text.splitOn_eq_cons '.' tag.toList
  rw [componentReference, hparts] at h
  split at h
  next hwords =>
    cases h
    exact ⟨first, rest, hparts, List.all_eq_true.mp hwords, rfl⟩
  next => cases h

theorem elementType_spec {tag : String} {place : Place} {e : Expr} (h : elementType tag place = .ok e) :
    IsElementType tag e := by
  unfold elementType at h
  unfold IsElementType
  split
  next hmarkup =>
    rw [if_pos hmarkup] at h
    cases h
    rfl
  next hmarkup =>
    rw [if_neg hmarkup] at h
    obtain ⟨first, rest, hparts, hwords, rfl⟩ := componentReference_eq_ok h
    obtain ⟨hfirst, hrest⟩ := List.forall_mem_cons.mp hwords
    rw [Text.eq_append_of_splitOn hparts]
    exact (Refers.name hfirst).foldl hrest

inductive Attribute.IsProperty (host : Host.Interpreter) : Attribute → Entry → Prop
  | flag {name : String} {place : Place} :
      IsProperty host (.static name none place) (.mk (some (.ofText (attributeKey name))) (.constant (.bool true)))
  | text {name value : String} {place : Place} :
      IsProperty host (.static name (some value) place) (.mk (some (.ofText (attributeKey name))) (.ofText value))
  | dynamic {name : String} {expr : Embedded} {place : Place} {e : Expr}
      (parsed : expr.toExpr host place = .ok e) :
      IsProperty host (.dynamic name expr place) (.mk (some (.ofText (attributeKey name))) e)
  | spread {expr : Embedded} {place : Place} {e : Expr} (parsed : expr.toExpr host place = .ok e) :
      IsProperty host (.spread expr place) (.mk none e)

theorem Attribute.isProperty_of_entry {host : Host.Interpreter} {a : Attribute} {tag : String}
    {entry : Entry} (h : a.entry host tag = .ok entry) : a.IsProperty host entry := by
  cases a with
  | static name value place =>
    cases h
    cases value with
    | none => exact .flag
    | some v => exact .text
  | dynamic name expr place =>
    obtain ⟨e, he, h⟩ := bind_eq_ok.mp h
    cases h
    exact .dynamic he
  | spread expr place =>
    obtain ⟨e, he, h⟩ := bind_eq_ok.mp h
    cases h
    exact .spread he
  | foreign value => cases h

def Attribute.givesKey : Attribute → Bool
  | .static name value _ => name == "key" && value.isSome
  | .dynamic name _ _ => name == "key"
  | _ => false

inductive Attribute.IsKeyValue (host : Host.Interpreter) : Attribute → Expr → Prop
  | text {name value : String} {place : Place} :
      IsKeyValue host (.static name (some value) place) (.ofText value)
  | dynamic {name : String} {expr : Embedded} {place : Place} {e : Expr}
      (parsed : expr.toExpr host place = .ok e) : IsKeyValue host (.dynamic name expr place) e

theorem Attribute.replaceKey_spec {host : Host.Interpreter} {a : Attribute} {key key' : Option Expr}
    (hkey : a.isKey = true) (h : a.replaceKey host key = .ok key') :
    (a.givesKey = false ∧ key' = key) ∨ (a.givesKey = true ∧ ∃ e, a.IsKeyValue host e ∧ key' = some e) := by
  cases a with
  | static name value place =>
    cases value with
    | none =>
      cases h
      exact .inl ⟨by simp [givesKey], rfl⟩
    | some v =>
      cases h
      exact .inr ⟨by simpa [givesKey, isKey] using hkey, _, .text, rfl⟩
  | dynamic name expr place =>
    obtain ⟨e, he, h⟩ := bind_eq_ok.mp h
    cases h
    exact .inr ⟨hkey, e, .dynamic he, rfl⟩
  | spread expr place => cases hkey
  | foreign value => cases hkey

theorem Attribute.givesKey_of_not_isKey {a : Attribute} (h : a.isKey = false) : a.givesKey = false := by
  cases a with
  | static name value place =>
    have hname : (name == "key") = false := h
    simp [givesKey, hname]
  | dynamic name expr place => exact h
  | spread expr place => rfl
  | foreign value => rfl

theorem elementProperties_spec {host : Host.Interpreter} {tag : String} {attributes : List Attribute} :
    ∀ {key key' : Option Expr} {entries : List Entry},
      elementProperties host tag key attributes = .ok (entries, key') →
        List.Forall₂ (Attribute.IsProperty host) (attributes.filter fun a => !a.isKey) entries ∧
        ∃ given, List.Forall₂ (Attribute.IsKeyValue host) (attributes.filter Attribute.givesKey) given ∧
          key' = given.getLast?.or key := by
  induction attributes with
  | nil =>
    intro key key' entries h
    cases h
    exact ⟨.nil, [], .nil, rfl⟩
  | cons a as ih =>
    intro key key' entries h
    unfold elementProperties at h
    split at h
    next hkey =>
      obtain ⟨replaced, hreplaced, h⟩ := bind_eq_ok.mp h
      obtain ⟨hentries, given, hgiven, rfl⟩ := ih h
      have hskip : (a :: as).filter (fun a => !a.isKey) = as.filter fun a => !a.isKey := by simp [hkey]
      rw [hskip]
      refine ⟨hentries, ?_⟩
      rcases Attribute.replaceKey_spec hkey hreplaced with ⟨hgives, rfl⟩ | ⟨hgives, e, he, rfl⟩
      · rw [List.filter_cons_of_neg (by simp [hgives])]
        exact ⟨given, hgiven, rfl⟩
      · rw [List.filter_cons_of_pos hgives]
        refine ⟨e :: given, hgiven.cons he, ?_⟩
        -- the key given here is kept only if none is given later
        rw [List.getLast?_cons]
        cases given.getLast? <;> rfl
    next hkey =>
      have hnot : a.isKey = false := by simpa using hkey
      obtain ⟨entry, hentry, h⟩ := bind_eq_ok.mp h
      obtain ⟨⟨rest, last⟩, hrest, h⟩ := bind_eq_ok.mp h
      cases h
      obtain ⟨hentries, given, hgiven, rfl⟩ := ih hrest
      have hgives := Attribute.givesKey_of_not_isKey hnot
      rw [List.filter_cons_of_pos (by simp [hnot]), List.filter_cons_of_neg (by simp [hgives])]
      exact ⟨hentries.cons (Attribute.isProperty_of_entry hentry), given, hgiven, rfl⟩

def IsChildrenEntry (config : Config) (depth : Int) (children : List Node) (entries : List Entry) : Prop :=
  (Node.outputs children = [] ∧ entries = []) ∨
  (Node.outputs children ≠ [] ∧ ∃ e, Generates config (depth + 1) (.list children) e ∧
    entries = [.mk (some (.ofText "children")) e])

/-- The call that builds an element at the given depth: of the helper, with the element's name, with its
properties and its children, and with its key if any attribute gives one. -/
def IsElementCall (config : Config) (depth : Int) (tag : String) (attributes : List Attribute)
    (children : List Node) (e : Expr) : Prop :=
  ∃ type properties content given,
    e = .call (.name config.jsxName) ([type, .dict (properties ++ content)] ++ given.getLast?.toList) [] ∧
    IsElementType tag type ∧
    List.Forall₂ (Attribute.IsProperty config.host) (attributes.filter fun a => !a.isKey) properties ∧
    IsChildrenEntry config depth children content ∧
    List.Forall₂ (Attribute.IsKeyValue config.host) (attributes.filter Attribute.givesKey) given

theorem elementValue_isElementCall {config : Config} {depth : Int} {tag : String}
    {attributes : List Attribute} {children : List Node} {place : Place} {e : Expr}
    (h : elementValue config depth tag attributes children place = .ok e) :
    IsElementCall config depth tag attributes children e := by
  obtain ⟨inner, hinner, h⟩ := bind_eq_ok.mp h
  obtain ⟨type, htype, h⟩ := bind_eq_ok.mp h
  obtain ⟨⟨entries, key⟩, hproperties, h⟩ := bind_eq_ok.mp h
  obtain rfl := enter_eq hinner
  obtain ⟨hentries, given, hgiven, hkey⟩ := elementProperties_spec hproperties
  rw [Option.or_none] at hkey
  dsimp only at h
  split at h
  next hshown =>
    obtain ⟨t, ht, h⟩ := bind_eq_ok.mp h
    obtain ⟨value, hvalue, h⟩ := bind_eq_ok.mp h
    cases h
    have houtputs : Node.outputs children ≠ [] := by simpa [any_givesOutput] using hshown
    refine ⟨type, entries, _, given, ?_, elementType_spec htype, hentries,
      .inr ⟨houtputs, value, generates_of_compile ht hvalue, rfl⟩, hgiven⟩
    rw [elementCall, hkey]
  next hshown =>
    cases h
    have houtputs : Node.outputs children = [] := by simpa [any_givesOutput] using hshown
    refine ⟨type, entries, [], given, ?_, elementType_spec htype, hentries, .inl ⟨houtputs, rfl⟩, hgiven⟩
    rw [elementCall, hkey, List.append_nil]

mutual
/-- The dynamic nodes at or below a node that no dynamic element holds, in document order. -/
def Node.fillersAt : Node → List Node
  | .element label tag attributes children place =>
    match Node.classifyElement tag attributes children with
    | .dynamic => [.element label tag attributes children place]
    | .literal => Node.fillers children
  | .slot label expr place => if expr.isEmpty then [] else [.slot label expr place]
  | .fragment _ children _ => Node.fillers children
  | _ => []

def Node.fillers : List Node → List Node
  | [] => []
  | n :: ns => Node.fillersAt n ++ Node.fillers ns
end

def Node.IsValue (config : Config) (depth : Int) : Node → Expr → Prop
  | .element _ tag attributes children _, e => IsElementCall config depth tag attributes children e
  | .slot _ expr place, e => expr.toExpr config.host place = .ok e
  | _, _ => False

/-- The expression is the value of the node, and it is what the node is replaced by when it stands alone. -/
def Fills (config : Config) (depth : Int) (e : Expr) (n : Node) : Prop :=
  ∃ inner, depth ≤ inner ∧ n.IsValue config inner e ∧ Generates config inner (.node n) e

theorem Fills.mono {config : Config} {depth inner : Int} {e : Expr} {n : Node}
    (h : Fills config inner e n) (hle : depth ≤ inner) : Fills config depth e n := by
  obtain ⟨deepest, hdeepest, hvalue⟩ := h
  exact ⟨deepest, by omega, hvalue⟩

theorem fills_slot {config : Config} {depth : Int} {label : Nat} {expr : Embedded} {place : Place}
    {e : Expr} (shown : expr.isEmpty = false) (parsed : expr.toExpr config.host place = .ok e) :
    Fills config depth e (.slot label expr place) := by
  have hroot : nodeOutputs config none depth 0 (.slot label expr place) =
      .ok ([.slot e (Scope.part none .empty label)], 0) := by
    simp only [nodeOutputs, shown, parsed]
    rfl
  exact ⟨depth, Int.le_refl _, parsed, generates_of_single hroot rfl⟩

theorem fills_element {config : Config} {depth : Int} {label : Nat} {tag : String}
    {attributes : List Attribute} {children : List Node} {place : Place} {e : Expr}
    (kind : Node.classifyElement tag attributes children = .dynamic)
    (built : elementValue config depth tag attributes children place = .ok e) :
    Fills config depth e (.element label tag attributes children place) := by
  have hroot : nodeOutputs config none depth 0 (.element label tag attributes children place) =
      .ok ([.slot e (Scope.part none .empty label)], 0) := by
    rw [nodeOutputs_dynamic kind, built]
    rfl
  exact ⟨depth, Int.le_refl _, elementValue_isElementCall built, generates_of_single hroot rfl⟩

theorem slotsIn_eq_nil {ofAttributes : Bool} {os : List Output}
    (h : ∀ p ∈ Template.partsOf os, p.isAttribute = !ofAttributes) : slotsIn ofAttributes os = [] := by
  induction os with
  | nil => rfl
  | cons o os ih =>
    cases o with
    | markup s => exact ih h
    | slot value part =>
      obtain ⟨hpart, hos⟩ := List.forall_mem_cons.mp h
      rw [slotsIn_slot, hpart, ih hos]
      cases ofAttributes <;> rfl

theorem slotsIn_attributeOutputs {host : Host.Interpreter} {tag : String} {element written : Nat}
    {run : Option Expr} {attributes : List Attribute} {os : List Output}
    (h : attributeOutputs host tag element written run attributes = .ok os) : slotsIn false os = [] := by
  refine slotsIn_eq_nil fun p hp => ?_
  obtain ⟨i, -, rfl⟩ := attributeOutputs_parts h p hp
  rfl

theorem Emits.nodeSlots {config : Config} {scope : Scope} {depth : Int} {count next : Nat}
    {ns : List Node} {os : List Output} (h : Emits config scope depth count ns os next) :
    List.Forall₂ (Fills config depth) ((slotsIn false os).map Prod.fst) (Node.fillers ns) := by
  induction h with
  | nil => exact .nil
  | text rest ih =>
    rw [slotsIn_append, slotsIn_textOutputs]
    exact ih
  | emptySlot empty rest ih =>
    rw [Node.fillers, Node.fillersAt, if_pos empty]
    exact ih
  | slot shown around parsed rest ih =>
    rw [slotsIn_append, slotsIn_separatorOutputs, slotsIn_slot, Scope.part_isAttribute]
    simp only [Node.fillers, Node.fillersAt, shown]
    exact ih.cons (fills_slot shown parsed)
  | fragment entered below rest hbelow hrest =>
    have hentered := enter_eq entered
    rw [slotsIn_append, List.map_append, Node.fillers, Node.fillersAt]
    refine List.rel_append ?_ hrest
    exact hbelow.imp fun e n he => he.mono (by omega)
  | dynamic kind built around rest ih =>
    rw [slotsIn_slot, Scope.part_isAttribute, Node.fillers, Node.fillersAt, kind]
    exact ih.cons (fills_element kind built)
  | @literal scope depth inner count middle next label tag place attributes children ns opening body os
      kind entered opened below rest hbelow hrest =>
    have hle : depth ≤ inner := by
      rw [enter_eq entered]
      omega
    have hinner := hbelow.imp fun e n he => he.mono hle
    simp only [List.cons_append, slotsIn_markup, slotsIn_append, slotsIn_attributeOutputs opened,
      slotsIn_closingOutputs, List.nil_append, List.append_nil, List.map_append, Node.fillers,
      Node.fillersAt, kind]
    exact List.rel_append hinner hrest

theorem compile_nodeSlots {config : Config} {depth : Int} {root : Root} {t : Template}
    (h : compile config depth root = .ok t) :
    List.Forall₂ (Fills config depth) ((t.slotsIn false).map Prod.fst) (Node.fillers root.nodes) := by
  obtain ⟨os, count, hos, rfl⟩ := compile_emits h
  rw [Template.slotsIn_ofOutputs]
  exact hos.nodeSlots.imp fun e n he => he.mono (root.le_level depth)

def Template.fillings (t : Template) (root : Root) : List (Expr × Node) :=
  ((t.slotsIn false).map Prod.fst).zip (Node.fillers root.nodes)

theorem fills_of_mem_fillings {config : Config} {depth : Int} {root : Root} {t : Template} {e : Expr}
    {n : Node} (h : compile config depth root = .ok t) (hmem : (e, n) ∈ t.fillings root) :
    Fills config depth e n := (List.forall₂_iff_zip.mp (compile_nodeSlots h)).2 hmem

/-- The slots of nodes are filled by the dynamic nodes in document order, in a template and in that of
the children of any dynamic element. The value of an element is the call that its name, its attributes
and its children make up, and any value is what its node is replaced by when it stands alone. So a node
has the same value in any two trees, at any two depths and under any two limits. -/
theorem compile_fills_nodes {config : Config} {depth : Int} {root : Root} {t : Template}
    (h : compile config depth root = .ok t) :
    List.Forall₂ (Fills config depth) ((t.slotsIn false).map Prod.fst) (Node.fillers root.nodes) ∧
    (∀ tree ∈ Node.nested root.nodes, Node.outputs tree ≠ [] →
      ∃ inner t', depth ≤ inner ∧ compile config inner (.list tree) = .ok t' ∧
        List.Forall₂ (Fills config depth) ((t'.slotsIn false).map Prod.fst) (Node.fillers tree)) ∧
    ∀ (limit depth' : Int) (root' : Root) (t' : Template),
      compile (config.limitedTo limit) depth' root' = .ok t' →
        ∀ n e e', (e, n) ∈ t.fillings root → (e', n) ∈ t'.fillings root' → e = e' := by
  refine ⟨compile_nodeSlots h, fun tree htree hshown => ?_, fun limit depth' root' t' h' n e e' he he' => ?_⟩
  · obtain ⟨inner, t', hle, ht'⟩ := compile_nested_deeper h htree hshown
    exact ⟨inner, t', hle, ht', (compile_nodeSlots ht').imp fun e n he => he.mono hle⟩
  · obtain ⟨inner, -, -, halone⟩ := fills_of_mem_fillings h he
    obtain ⟨inner', -, -, halone'⟩ := fills_of_mem_fillings h' he'
    exact halone.unique halone'

theorem compile_fills_nodes_component :
    let item : Node := .element 3 "List.Item"
      [.static "key" (some "k") .origin, .spread (.parsed (.name "rest")) .origin,
        .static "key" none .origin, .static "open" none .origin]
      [.slot 2 (.parsed (.name "x")) .origin] .origin
    let root : Root := .node (.element 4 "p" [] [.text 1 "Hi" .origin, item] .origin)
    ∃ t, compile .standard 7 root = .ok t ∧
      t.fillings root = [(.call (.name "_tagwire_jsx") [.attribute (.name "List") "Item",
        .dict [.mk none (.name "rest"), .mk (some (.ofText "open")) (.constant (.bool true)),
          .mk (some (.ofText "children")) (.name "x")], .ofText "k"] [], item)] ∧
      ∀ e ∈ t.fillings root, generate .standard (.node e.2) = .ok e.1 := by
  intro item root
  obtain ⟨t, ht⟩ : ∃ t, compile .standard 7 root = .ok t := ⟨_, rfl⟩
  obtain ⟨hfills, -, -⟩ := compile_fills_nodes ht
  refine ⟨t, ht, ?_, fun e he => ?_⟩
  · cases ht
    rfl
  · obtain ⟨inner, hdepth, -, halone⟩ := (List.forall₂_iff_zip.mp hfills).2 he
    exact halone.alone (by omega)

end SlotMarkup
