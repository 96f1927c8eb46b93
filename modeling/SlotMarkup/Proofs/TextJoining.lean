import SlotMarkup.Proofs.ErrorKinds
import SlotMarkup.Proofs.NeighbouringTexts

/-! Neighbouring texts of a tree may be joined into one without a trace in its template, wherever their
container stands and whatever hides between them. -/

namespace SlotMarkup

namespace Node

theorem labels_append (as bs : List Node) : labels (as ++ bs) = labels as ++ labels bs := by
  induction as with
  | nil => rfl
  | cons n ns ih => rw [List.cons_append, labels, labels, ih, List.append_assoc]

theorem labels_eq_map (ns : List Node) : labels ns = (contents ns).map label := by
  induction ns using branch_induction with
  | nil => rfl
  | leaf n ns hleaf hrest =>
    rw [labels, labelsAt_leaf hleaf, contents, contentsAt_leaf hleaf, hrest]
    rfl
  | element label tag attributes children place ns hbelow hrest =>
    rw [labels, labelsAt, contents, contentsAt, List.map_append, List.map_cons, ← hbelow, ← hrest]
    rfl
  | fragment label children place ns hbelow hrest =>
    rw [labels, labelsAt, contents, contentsAt, List.map_append, List.map_cons, ← hbelow, ← hrest]
    rfl

theorem labels_normal_sublist (ns : List Node) : (labels (normal ns)).Sublist (labels ns) := by
  induction ns using branch_induction with
  | nil => exact List.Sublist.refl _
  | leaf n ns hleaf hrest =>
    have hhead : (labels (normalAt n)).Sublist (labelsAt n) := by
      rcases normalAt_leaf hleaf with hnil | hself
      · rw [hnil]
        exact List.nil_sublist _
      · rw [hself, labels, labels, List.append_nil]
    rw [normal, labels_append]
    exact hhead.append hrest
  | element label tag attributes children place ns hbelow hrest =>
    rw [normal, labels_append, labels]
    refine List.Sublist.append ?_ hrest
    rw [normalAt, labels, labels, List.append_nil, labelsAt, labelsAt]
    exact hbelow.cons_cons label
  | fragment label children place ns hbelow hrest =>
    rw [normal, labels_append]
    exact (hbelow.cons label).append hrest

theorem contents_children_sublist {label : Nat} {tag : String} {attributes : List Attribute}
    {children ns : List Node} {place : Place}
    (h : .element label tag attributes children place ∈ contents ns) :
    (contents children).Sublist (contents ns) := by
  induction ns using branch_induction with
  | nil => cases h
  | leaf n ns hleaf hrest =>
    rw [contents, contentsAt_leaf hleaf] at h ⊢
    rcases List.mem_cons.mp h with rfl | hlater
    · cases hleaf
    · exact (hrest hlater).cons n
  | element label' tag' attributes' children' place' ns hbelow hrest =>
    rcases List.mem_append.mp h with hhere | hlater
    · refine List.Sublist.trans ?_ (List.sublist_append_left _ _)
      refine List.Sublist.cons _ ?_
      rcases List.mem_cons.mp hhere with hself | hdeeper
      · cases hself
        exact List.Sublist.refl _
      · exact hbelow hdeeper
    · exact (hrest hlater).trans (List.sublist_append_right _ _)
  | fragment label children place ns hbelow hrest =>
    rcases List.mem_append.mp h with hhere | hlater
    · refine List.Sublist.trans ?_ (List.sublist_append_left _ _)
      refine List.Sublist.cons _ ?_
      rcases List.mem_cons.mp hhere with hself | hdeeper
      · cases hself
      · exact hbelow hdeeper
    · exact (hrest hlater).trans (List.sublist_append_right _ _)

theorem IsContainer.contents_sublist {ns container : List Node} (h : IsContainer ns ns container) :
    (contents container).Sublist (contents ns) := by
  rcases h with rfl | ⟨label, tag, attributes, place, hmem⟩
  · exact List.Sublist.refl _
  · exact contents_children_sublist hmem

theorem labels_sublist_of_contents {cs ns : List Node} (h : (contents cs).Sublist (contents ns)) :
    (labels cs).Sublist (labels ns) := by
  rw [labels_eq_map, labels_eq_map]
  exact h.map label

end Node

def JoinsInside (ns ns' : List Node) : Prop :=
  ∃ before after label tag attributes children children' place,
    ns = before ++ .element label tag attributes children place :: after ∧
    ns' = before ++ .element label tag attributes children' place :: after ∧ Joins children children'

namespace JoinsInside

variable {ns ns' : List Node}

theorem joins (h : JoinsInside ns ns') : Joins ns ns' := by
  obtain ⟨before, after, label, tag, attributes, children, children', place, rfl, rfl, hinner⟩ := h
  exact .inside hinner

theorem append_left (h : JoinsInside ns ns') (ms : List Node) : JoinsInside (ms ++ ns) (ms ++ ns') := by
  obtain ⟨before, after, label, tag, attributes, children, children', place, rfl, rfl, hinner⟩ := h
  refine ⟨ms ++ before, after, label, tag, attributes, children, children', place, ?_, ?_, hinner⟩
  · rw [List.append_assoc]
  · rw [List.append_assoc]

theorem append_right (h : JoinsInside ns ns') (ms : List Node) : JoinsInside (ns ++ ms) (ns' ++ ms) := by
  obtain ⟨before, after, label, tag, attributes, children, children', place, rfl, rfl, hinner⟩ := h
  refine ⟨before, after ++ ms, label, tag, attributes, children, children', place, ?_, ?_, hinner⟩
  · rw [List.append_assoc, List.cons_append]
  · rw [List.append_assoc, List.cons_append]

end JoinsInside

section Paths

variable {σ : Nat → Option (List Node)} {cs : List Node}

theorem substitute_normal_of_disjoint (hσ : ∀ l, σ l ≠ none → l ∈ Node.labels cs)
    {ms : List Node} (h : ∀ l ∈ Node.labels ms, l ∉ Node.labels cs) :
    Node.substitute σ (Node.normal ms) = Node.normal ms := by
  refine Node.substitute_eq_self fun l hl => ?_
  have hl' := h l ((Node.labels_normal_sublist ms).subset hl)
  by_contra hknown
  exact hl' (hσ l hknown)

variable (hσ : ∀ l, σ l ≠ none → l ∈ Node.labels cs)

include hσ

theorem JoinsInside.later {n : Node} {ns : List Node} (hnodup : (Node.labels (n :: ns)).Nodup)
    (hcs : Node.labels cs ⊆ Node.labels ns)
    (h : JoinsInside (Node.normal ns) (Node.substitute σ (Node.normal ns))) :
    JoinsInside (Node.normal (n :: ns)) (Node.substitute σ (Node.normal (n :: ns))) := by
  have hdisjoint : ∀ l ∈ Node.labels [n], l ∉ Node.labels cs := by
    intro l hl hl'
    rw [Node.labels, Node.labels, List.append_nil] at hl
    exact List.disjoint_of_nodup_append hnodup hl (hcs hl')
  have hsame := substitute_normal_of_disjoint hσ hdisjoint
  have hcons : Node.normal (n :: ns) = Node.normal [n] ++ Node.normal ns := by
    rw [Node.normal, Node.normal, Node.normal, List.append_nil]
  rw [hcons, Node.substitute_append, hsame]
  exact h.append_left _

theorem JoinsInside.element {label : Nat} {tag : String} {attributes : List Attribute}
    {children ns : List Node} {place : Place}
    (hnodup : (Node.labels (.element label tag attributes children place :: ns)).Nodup)
    (hcs : Node.labels cs ⊆ Node.labels children)
    (h : Joins (Node.normal children) (Node.substitute σ (Node.normal children))) :
    JoinsInside (Node.normal (.element label tag attributes children place :: ns))
      (Node.substitute σ (Node.normal (.element label tag attributes children place :: ns))) := by
  have hself := (List.nodup_append.mp hnodup).1
  have hunknown : σ label = none := by
    by_contra hknown
    exact (List.nodup_cons.mp hself).1 (hcs (hσ label hknown))
  have hsame : Node.substitute σ (Node.normal ns) = Node.normal ns := by
    refine substitute_normal_of_disjoint hσ fun l hl hl' => ?_
    exact List.disjoint_of_nodup_append hnodup (List.mem_cons_of_mem label (hcs hl')) hl
  rw [Node.normal, Node.normalAt, List.singleton_append, Node.substitute_cons_of_none hunknown,
    Node.substituteBelow, hsame]
  exact ⟨[], _, _, _, _, _, _, _, rfl, rfl, h⟩

theorem JoinsInside.fragment {label : Nat} {children ns : List Node} {place : Place}
    (hnodup : (Node.labels (.fragment label children place :: ns)).Nodup)
    (hcs : Node.labels cs ⊆ Node.labels children)
    (h : JoinsInside (Node.normal children) (Node.substitute σ (Node.normal children))) :
    JoinsInside (Node.normal (.fragment label children place :: ns))
      (Node.substitute σ (Node.normal (.fragment label children place :: ns))) := by
  have hsame : Node.substitute σ (Node.normal ns) = Node.normal ns := by
    refine substitute_normal_of_disjoint hσ fun l hl hl' => ?_
    exact List.disjoint_of_nodup_append hnodup (List.mem_cons_of_mem label (hcs hl')) hl
  rw [Node.normal, Node.normalAt, Node.substitute_append, hsame]
  exact h.append_right _

theorem joinsInside_of_mem_contents
    (hjoins : Joins (Node.normal cs) (Node.substitute σ (Node.normal cs))) {label : Nat} {tag : String}
    {attributes : List Attribute} {place : Place} {ns : List Node} (hnodup : (Node.labels ns).Nodup)
    (hmem : .element label tag attributes cs place ∈ Node.contents ns) :
    JoinsInside (Node.normal ns) (Node.substitute σ (Node.normal ns)) := by
  have hlabels : ∀ {ms : List Node}, .element label tag attributes cs place ∈ Node.contents ms →
      Node.labels cs ⊆ Node.labels ms := fun hms =>
    (Node.labels_sublist_of_contents (Node.contents_children_sublist hms)).subset
  induction ns using Node.branch_induction with
  | nil => cases hmem
  | leaf n ns hleaf hrest =>
    rw [Node.contents, Node.contentsAt_leaf hleaf] at hmem
    rcases List.mem_cons.mp hmem with rfl | hns
    · cases hleaf
    · exact .later hσ hnodup (hlabels hns) (hrest (List.nodup_append.mp hnodup).2.1 hns)
  | element label' tag' attributes' children place' ns hbelow hrest =>
    obtain ⟨hself, hns', -⟩ := List.nodup_append.mp hnodup
    rcases List.mem_append.mp hmem with hhere | hns
    · rcases List.mem_cons.mp hhere with heq | hdeeper
      · cases heq
        exact .element hσ hnodup (List.Subset.refl _) hjoins
      · have hinner := hbelow (List.nodup_cons.mp hself).2 hdeeper
        exact .element hσ hnodup (hlabels hdeeper) hinner.joins
    · exact .later hσ hnodup (hlabels hns) (hrest hns' hns)
  | fragment label' children place' ns hbelow hrest =>
    obtain ⟨hself, hns', -⟩ := List.nodup_append.mp hnodup
    rcases List.mem_append.mp hmem with hhere | hns
    · rcases List.mem_cons.mp hhere with heq | hdeeper
      · cases heq
      · have hinner := hbelow (List.nodup_cons.mp hself).2 hdeeper
        exact .fragment hσ hnodup (hlabels hdeeper) hinner
    · exact .later hσ hnodup (hlabels hns) (hrest hns' hns)

end Paths

def joinTexts (a b : Nat) (joined : Node) : Nat → Option (List Node) := fun l =>
  if l = a then some [joined] else if l = b then some [] else none

theorem joinTexts_eq_some {a b l : Nat} {joined : Node} {ms : List Node}
    (h : joinTexts a b joined l = some ms) : (l = a ∨ l = b) ∧ ∀ m ∈ ms, m = joined := by
  unfold joinTexts at h
  split at h
  next ha =>
    cases h
    exact ⟨.inl ha, by simp⟩
  next =>
    split at h
    next hb =>
      cases h
      exact ⟨.inr hb, by simp⟩
    next => cases h

section Neighbours

variable {container before after : List Node} {a b : Nat} {v w : String} {p q : Place}

theorem labels_apart (h : (Node.labels (before ++ .text a v p :: .text b w q :: after)).Nodup) :
    b ≠ a ∧ ∀ l ∈ Node.labels before ++ Node.labels after, l ≠ a ∧ l ≠ b := by
  have hlabels : Node.labels (before ++ .text a v p :: .text b w q :: after) =
      Node.labels before ++ a :: b :: Node.labels after := Node.labels_append _ _
  rw [hlabels] at h
  obtain ⟨-, hpair, hbefore⟩ := List.nodup_append.mp h
  obtain ⟨ha, hrest⟩ := List.nodup_cons.mp hpair
  obtain ⟨hb, -⟩ := List.nodup_cons.mp hrest
  refine ⟨fun heq => ha (heq ▸ List.mem_cons_self), fun l hl => ?_⟩
  rcases List.mem_append.mp hl with hl | hl
  · exact ⟨hbefore l hl a List.mem_cons_self, hbefore l hl b (List.mem_cons_of_mem a List.mem_cons_self)⟩
  · exact ⟨fun heq => ha (heq ▸ List.mem_cons_of_mem b hl), fun heq => hb (heq ▸ hl)⟩

theorem substitute_joinTexts (h : (Node.labels (before ++ .text a v p :: .text b w q :: after)).Nodup)
    (joined : Node) :
    Node.substitute (joinTexts a b joined) (before ++ .text a v p :: .text b w q :: after) =
      before ++ joined :: after := by
  obtain ⟨hab, hother⟩ := labels_apart h
  have hnone : ∀ l ∈ Node.labels before ++ Node.labels after, joinTexts a b joined l = none := by
    intro l hl
    rw [joinTexts, if_neg (hother l hl).1, if_neg (hother l hl).2]
  rw [Node.substitute_append, Node.substitute_cons_of_some (if_pos rfl),
    Node.substitute_cons_of_some ((if_neg hab).trans (if_pos rfl)),
    Node.substitute_eq_self fun l hl => hnone l (List.mem_append_left _ hl),
    Node.substitute_eq_self fun l hl => hnone l (List.mem_append_right _ hl)]
  rfl

variable (hneighbours : Node.outputs container = before ++ .text a v p :: .text b w q :: after)

include hneighbours

theorem neighbours_shown : Text.collapse v ≠ "" ∧ Text.collapse w ≠ "" := by
  have hshown : ∀ n ∈ Node.outputs container, n.isText = true → n.isShownText = true := by
    intro n hn htext
    rw [Node.isShownText, htext, (List.mem_filter.mp hn).2]
    rfl
  have hv := hshown (.text a v p) (by simp [hneighbours]) rfl
  have hw := hshown (.text b w q) (by simp [hneighbours]) rfl
  obtain ⟨_, _, _, hv, hfirst⟩ := Node.isShownText_iff.mp hv
  obtain ⟨_, _, _, hw, hsecond⟩ := Node.isShownText_iff.mp hw
  cases hv
  cases hw
  exact ⟨hfirst, hsecond⟩

theorem joins_container (hnodup : (Node.labels container).Nodup) {label : Nat} (place : Place)
    (hlabel : label = a ∨ label ∉ Node.labels container) :
    Joins (Node.normal container) (Node.substitute
      (joinTexts a b (.text label (Text.collapse v ++ Text.collapse w) place)) (Node.normal container)) := by
  have hsublist := Node.labels_normal_sublist container
  have hnormal : Node.normal container =
      before.map Node.trimmed ++ .text a v p :: .text b w q :: after.map Node.trimmed := by
    rw [Node.normal_eq_map, hneighbours, List.map_append, List.map_cons, List.map_cons]
    rfl
  rw [hnormal] at hsublist ⊢
  -- of the siblings only the labels matter from here on
  generalize before.map Node.trimmed = front at hsublist ⊢
  generalize after.map Node.trimmed = back at hsublist ⊢
  have hlabels := hnodup.sublist hsublist
  obtain ⟨-, hother⟩ := labels_apart hlabels
  obtain ⟨hfirst, hsecond⟩ := neighbours_shown hneighbours
  rw [substitute_joinTexts hlabels]
  refine Joins.here hfirst hsecond fun n hn => ?_
  rw [← Node.outputs_append] at hn
  have hmem : n.label ∈ Node.labels (front ++ back) :=
    (Node.outputs_labels_sublist _).subset (List.mem_map_of_mem hn)
  have hin : n.label ∈ Node.labels container := by
    refine hsublist.subset ?_
    rw [Node.labels_append] at hmem ⊢
    exact (List.sublist_append_right [a, b] _).append_left _ |>.subset hmem
  rw [Node.labels_append] at hmem
  obtain ⟨hna, hnb⟩ := hother n.label hmem
  refine ⟨hna, hnb, ?_⟩
  rcases hlabel with rfl | hfresh
  · exact hna
  · exact fun heq => hfresh (heq ▸ hin)

theorem joins_root {ns : List Node} (hnodup : (Node.labels ns).Nodup)
    (hcontainer : Node.IsContainer ns ns container) {label : Nat} (place : Place)
    (hlabel : label = a ∨ label ∉ Node.labels ns) :
    Joins (Node.normal ns) (Node.substitute
      (joinTexts a b (.text label (Text.collapse v ++ Text.collapse w) place)) (Node.normal ns)) := by
  have hsublist := Node.labels_sublist_of_contents hcontainer.contents_sublist
  have hlabel' : label = a ∨ label ∉ Node.labels container :=
    hlabel.imp_right fun hfresh hmem => hfresh (hsublist.subset hmem)
  have hjoins := joins_container hneighbours (hnodup.sublist hsublist) place hlabel'
  rcases hcontainer with rfl | ⟨_, _, _, _, hmem⟩
  · exact hjoins
  · refine (joinsInside_of_mem_contents (fun l hl => ?_) hjoins hnodup hmem).joins
    obtain ⟨ms, hms⟩ := Option.ne_none_iff_exists'.mp hl
    have hshown := Node.outputs_labels_sublist container
    rw [hneighbours] at hshown
    rcases (joinTexts_eq_some hms).1 with rfl | rfl
    · exact hshown.subset (by simp [Node.label])
    · exact hshown.subset (by simp [Node.label])

theorem rewords_joinTexts {ns : List Node} (hnodup : (Node.labels ns).Nodup)
    (hcontainer : Node.IsContainer ns ns container) (label : Nat) (place : Place) :
    Node.Rewords (joinTexts a b (.text label (Text.collapse v ++ Text.collapse w) place)) ns := by
  obtain ⟨hfirst, hsecond⟩ := neighbours_shown hneighbours
  have hcontents := (Node.outputs_sublist_contents container).trans hcontainer.contents_sublist
  rw [hneighbours] at hcontents
  have ha : Node.text a v p ∈ Node.contents ns := hcontents.subset (by simp)
  have hb : Node.text b w q ∈ Node.contents ns := hcontents.subset (by simp)
  rw [Node.labels_eq_map] at hnodup
  refine Node.rewords_of_contents fun n hn ms hms => ?_
  obtain ⟨hlabel, hjoined⟩ := joinTexts_eq_some hms
  refine ⟨?_, fun m hm => ?_⟩
  · -- labels tell nodes apart, so the node is one of the two texts
    rcases hlabel with hlabel | hlabel
    · rw [List.inj_on_of_nodup_map hnodup hn ha hlabel]
      exact Node.isShownText_iff.mpr ⟨a, v, p, rfl, hfirst⟩
    · rw [List.inj_on_of_nodup_map hnodup hn hb hlabel]
      exact Node.isShownText_iff.mpr ⟨b, w, q, rfl, hsecond⟩
  · rw [hjoined m hm]
    exact Joins.isShownText_joined label place hfirst

theorem isLeaf_of_neighbours {n : Node} (hcontainer : Node.IsContainer [n] [n] container) :
    n.isLeaf = false := by
  by_contra hleaf
  have hcontents : (Node.contents container).length ≤ 1 := by
    have hlength := hcontainer.contents_sublist.length_le
    cases n with
    | element label tag attributes children place => exact absurd rfl hleaf
    | fragment label children place => exact absurd rfl hleaf
    | _ => exact hlength
  have houtputs := (Node.outputs_sublist_contents container).length_le
  rw [hneighbours, List.length_append, List.length_cons, List.length_cons] at houtputs
  omega

end Neighbours

theorem Node.isList_substituteBelow (σ : Nat → Option (List Node)) (n : Node) :
    (n.substituteBelow σ).isList = n.isList := by
  cases n <;> rfl

def Root.substitute (σ : Nat → Option (List Node)) : Root → Root
  | .single n noList => .single (n.substituteBelow σ) ((n.isList_substituteBelow σ).trans noList)
  | .list ns => .list (Node.substitute σ ns)

section Roots

variable {σ : Nat → Option (List Node)} {config : Config} {depth : Int} {root : Root}

theorem Root.isForeign_substitute : (root.substitute σ).isForeign = root.isForeign := by
  cases root with
  | list ns => rfl
  | single n noList => cases n <;> rfl

theorem Root.entrance_substitute (σ : Nat → Option (List Node)) (root : Root) (depth : Int) :
    (root.substitute σ).entrance depth = root.entrance depth := by
  cases root <;> rfl

theorem Root.level_substitute : (root.substitute σ).level depth = root.level depth := by
  cases root <;> rfl

theorem Root.nodes_substitute (h : ∀ n noList, root = .single n noList → σ n.label = none) :
    (root.substitute σ).nodes = Node.substitute σ root.nodes := by
  cases root with
  | list ns => rfl
  | single n noList =>
    rw [Root.nodes, Node.substitute_cons_of_none (h n noList rfl)]
    rfl

theorem compile_of_entrance (hroot : root.isForeign = false) (hfits : LevelsFit config (root.entrance depth)) :
    compile config depth root =
      (nodesOutputs config (some (.ofRoot root.nodes)) (root.level depth) 0 root.nodes >>= fun r =>
        .ok (.ofOutputs r.1 r.2)) := by
  cases root with
  | single n noList => exact compile_node hroot config depth
  | list ns =>
    rw [compile_list, hfits.enter]
    rfl

theorem levelsFit_of_compile {t : Template} (h : compile config depth root = .ok t) :
    root.isForeign = false ∧ LevelsFit config (root.demands depth) := by
  obtain ⟨hnone, -⟩ := (compile_firstFault config depth root).of_ok h
  have hroot : root.isForeign = false := by
    cases root with
    | list ns => rfl
    | single n noList =>
      cases n with
      | foreign label value => cases h
      | _ => rfl
  have hindexable : Node.Indexable root.nodes := fun n hn =>
    Layout.unindexable?_of_not_holdsValue (Root.holdsValue_of_faults_eq_nil hnone n hn)
  have hmet := (compile_answers hindexable hroot config depth).ok_iff.mp ⟨t, h⟩
  refine ⟨hroot, fun d hd => ?_⟩
  have hd' := hmet d hd
  cases d with
  | level n place => exact decide_eq_true hd'
  | _ => rfl

/-- Both trees are written like what is left of them without fragments and silent nodes, and there the
texts that are joined stand side by side. -/
theorem compile_substitute {t : Template} (h : compile config depth root = .ok t)
    (hrewords : Node.Rewords σ root.nodes)
    (hjoins : Joins (Node.normal root.nodes) (Node.substitute σ (Node.normal root.nodes)))
    (hkept : ∀ n noList, root = .single n noList → σ n.label = none) :
    compile config depth (root.substitute σ) = .ok t := by
  obtain ⟨hroot, hfits⟩ := levelsFit_of_compile h
  rw [Root.demands_eq] at hfits
  -- neither dropping nor replacing nodes adds a level, so the limit that allowed the root allows all three
  have hnormal := Node.noDeeper_normal config root.nodes _ _ (Int.le_refl _) hfits.right
  have hnodes' := hrewords.noDeeper config _ _ (Int.le_refl _) hfits.right
  have hnormal' := Node.noDeeper_normal config _ _ _ (Int.le_refl _) hnodes'
  rw [compile_of_entrance hroot hfits.left, nodesAgree config root.nodes _ _ _ _ hfits.right hnormal,
    Scope.ofRoot, ← Layout.ofChildren_normal] at h
  obtain ⟨⟨os, count⟩, hos, h⟩ := bind_eq_ok.mp h
  cases h
  obtain ⟨os', hos', hfuses⟩ := hjoins.alike config none _ 0 count os hos
  rw [← hrewords.normal_substitute, Layout.ofChildren_normal,
    ← nodesAgree config _ _ _ _ _ hnodes' hnormal'] at hos'
  have hentrance := hfits.left
  rw [← Root.entrance_substitute σ] at hentrance
  rw [compile_of_entrance (Root.isForeign_substitute.trans hroot) hentrance, Root.level_substitute,
    Root.nodes_substitute hkept, Scope.ofRoot, hos', hfuses.ofOutputs count]
  rfl

end Roots

/-- Two texts that are neighbours among the nodes shown in a container, with nothing but ends of fragments
and silent nodes between them, are joined: the first is replaced by a text that reads like both, and the
second is removed. The template stays the same. -/
theorem compile_joins_texts {config : Config} {depth : Int} {root : Root} {t : Template}
    {container before after : List Node} {a b label : Nat} {v w : String} {p q place : Place}
    (h : compile config depth root = .ok t) (hdistinct : root.Distinct)
    (hcontainer : Node.IsContainer root.nodes root.nodes container)
    (hneighbours : Node.outputs container = before ++ .text a v p :: .text b w q :: after)
    (hlabel : label = a ∨ label ∉ Node.labels root.nodes) :
    compile config depth (root.substitute
      (joinTexts a b (.text label (Text.collapse v ++ Text.collapse w) place))) = .ok t := by
  have hjoins := joins_root hneighbours hdistinct hcontainer place hlabel
  have hrewords := rewords_joinTexts hneighbours hdistinct hcontainer label place
  refine compile_substitute h hrewords hjoins ?_
  -- a root that holds the texts is an element or a fragment, so it is no text that is replaced
  rintro n noList rfl
  have hleaf := isLeaf_of_neighbours hneighbours hcontainer
  cases hrewords with
  | replaced known shown texts rest => cases hleaf
  | leaf unknown childless rest => exact unknown
  | element unknown below rest => exact unknown
  | fragment unknown below rest => exact unknown

theorem compile_joins_texts_component :
    let blank : Node := .text 3 " \n " .origin
    let nothing : Node := .slot 4 (.value .null) .origin
    let slot : Node := .slot 7 (.parsed (.name "x")) .origin
    let around : List Node → Root := fun children =>
      .node (.element 8 "p" [] [.element 6 "Card" [] children .origin, slot] .origin)
    let apart : List Node :=
      [.fragment 2 [.text 1 "Hello, " .origin] .origin, blank, nothing, .text 5 "world\n" .origin]
    let joined : List Node := [.fragment 2 [.text 9 "Hello, world" .origin] .origin, blank, nothing]
    ∃ t, compile .standard 0 (around apart) = .ok t ∧ compile .standard 0 (around joined) = .ok t := by
  intro blank nothing slot around apart joined
  obtain ⟨t, ht⟩ : ∃ t, compile .standard 0 (around apart) = .ok t := ⟨_, rfl⟩
  have hdistinct : (around apart).Distinct := by decide
  have hfresh : 9 ∉ Node.labels (around apart).nodes := by decide
  have hcontainer : Node.IsContainer (around apart).nodes (around apart).nodes apart :=
    .inr ⟨6, "Card", [], .origin, List.mem_cons_of_mem _ List.mem_cons_self⟩
  have hneighbours : Node.outputs apart =
      [] ++ .text 1 "Hello, " .origin :: .text 5 "world\n" .origin :: [] := rfl
  have hjoined : (around apart).substitute (joinTexts 1 5
      (.text 9 (Text.collapse "Hello, " ++ Text.collapse "world\n") .origin)) = around joined := by rfl
  refine ⟨t, ht, hjoined ▸ ?_⟩
  exact compile_joins_texts ht hdistinct hcontainer hneighbours (.inr hfresh)

end SlotMarkup
