import SlotMarkup.Proofs.Siblings

/-! Runs of dynamic nodes among the output children of a container. A layout marks the first node of
each run that stands between two texts and no other dynamic node, so one separator a run is enough. -/

namespace SlotMarkup

namespace Node

def runs (ns : List Node) : List (List Node) := ns.splitBy fun m n => m.isDynamic == n.isDynamic

def betweenTexts (before after : List Node) : Bool := before.getLast?.any isText && after.head?.any isText

variable {ns after : List Node} {front back : List (List Node)} {first n : Node} {rest : List Node}

theorem isChain_isDynamic {run : List Node} (h : run.IsChain fun m n => (m.isDynamic == n.isDynamic) = true)
    (hfirst : run.head? = some first) : ∀ n ∈ run, n.isDynamic = first.isDynamic := by
  induction run generalizing first with
  | nil => cases hfirst
  | cons m ms ih =>
    cases hfirst
    refine List.forall_mem_cons.mpr ⟨rfl, fun n hn => ?_⟩
    obtain ⟨next, ms, rfl⟩ := List.exists_cons_of_ne_nil (List.ne_nil_of_mem hn)
    obtain ⟨hlink, hrest⟩ := List.isChain_cons_cons.mp h
    rw [ih hrest rfl n hn, beq_iff_eq.mp hlink]

theorem runs_split (h : runs ns = front ++ (first :: rest) :: back) (hfirst : first.isDynamic = true) :
    ns = front.flatten ++ first :: (rest ++ back.flatten) ∧ (∀ n ∈ rest, n.isDynamic = true) ∧
      ∀ n ∈ back.flatten.head?, n.isDynamic = false := by
  obtain ⟨hflatten, hnil, hchains, hlinks⟩ := List.splitBy_eq_iff.mp h
  have hrun : ∀ n ∈ first :: rest, n.isDynamic = true := by
    intro n hn
    have hchain := hchains (first :: rest) (List.mem_append_right _ List.mem_cons_self)
    rw [isChain_isDynamic hchain rfl n hn, hfirst]
  refine ⟨?_, fun n hn => hrun n (List.mem_cons_of_mem _ hn), ?_⟩
  · rw [hflatten, List.flatten_append, List.flatten_cons, List.cons_append]
  · intro n hn
    cases back with
    | nil => cases hn
    | cons next back =>
      -- the last node of the run and the first one of the next run are told apart
      obtain ⟨hrun', hnext, hlink⟩ := (List.isChain_append_cons_cons.mp hlinks).2.1
      rw [hrun _ (List.getLast_mem hrun')] at hlink
      rw [List.flatten_cons, List.head?_append_of_ne_nil _ hnext, List.head?_eq_some_head hnext] at hn
      cases hn
      simpa using hlink

theorem precedesText_eq_head (h : ∀ n ∈ after.head?, n.isDynamic = false) :
    precedesText after = after.head?.any isText := by
  cases after with
  | nil => rfl
  | cons n ns =>
    have hstatic : n.isStatic = true := by
      have hkind := of_decide_eq_false (h n rfl)
      rw [isStatic_eq]
      exact decide_eq_true hkind
    rw [precedesText, List.find?_cons_of_pos hstatic]
    rfl

theorem followsText_of_isDynamic {before : List Node} (h : ∀ n ∈ before.getLast?, n.isDynamic = true)
    (hbefore : before ≠ []) : followsText before = false := by
  obtain ⟨ns, n, rfl⟩ := (List.eq_nil_or_concat' before).resolve_left hbefore
  rw [followsText_concat]
  exact isText_of_isDynamic (h n (by simp))

theorem isDynamic_iff_of_known (hshown : n ∈ outputs ns) (hknown : n.isForeign = false) :
    n.isDynamic = true ↔ (∃ label expr place, n = .slot label expr place) ∨
      ∃ label tag attributes children place, n = .element label tag attributes children place ∧
        classifyElement tag attributes children = .dynamic := by
  cases n with
  | element label tag attributes children place =>
    rw [isDynamic_element, decide_eq_true_iff]
    simp
  | text label value place =>
    simp [isDynamic, childKind, isText]
  | slot label expr place => simp [isDynamic, childKind, isText, isStatic]
  | fragment label children place =>
    have hfragment := isFragment_of_mem_inlined (List.mem_of_mem_filter hshown)
    cases hfragment
  | foreign label value => cases hknown

end Node

namespace Layout

open Node (followsText precedesText outputs runs betweenTexts)

theorem length_tabulate (ns : List Node) : (tabulate ns).length = ns.length := by
  simp [tabulate, length_positions, length_textAfter]

/-- The two scans together say of each child what a look to the left and to the right says. -/
theorem tabulate_wrapped (before : List Node) (n : Node) (after : List Node) :
    (tabulate (before ++ n :: after))[before.length]?.map Row.wrapped =
      some (followsText before && precedesText after) := by
  obtain ⟨rows, rows', htable, hlabels⟩ := tabulate_append before n after
  have hafter : rows'.length = after.length := by
    simpa using congrArg List.length hlabels
  have hbefore : rows.length = before.length := by
    have hlength := length_tabulate (before ++ n :: after)
    rw [htable] at hlength
    simp only [List.length_append, List.length_cons] at hlength
    omega
  rw [htable, ← hbefore, List.getElem?_append_right (Nat.le_refl _), Nat.sub_self]
  rfl

theorem ofChildren_known {children : List Node} (h : ∀ n ∈ outputs children, n.isForeign = false) :
    ofChildren children = .ok ⟨tabulate (outputs children)⟩ := by
  have hnone : (outputs children).findSome? unindexable? = none :=
    List.findSome?_eq_none_iff.mpr fun n hn => unindexable?_of_not_foreign (h n hn)
  simp only [ofChildren, hnone]

variable {children : List Node} {l : Layout} {front back : List (List Node)} {first : Node}
  {rest : List Node}

theorem isWrapped_first (hl : ofChildren children = .ok l)
    (hlabels : ((outputs children).map Node.label).Nodup)
    (hruns : runs (outputs children) = front ++ (first :: rest) :: back)
    (hfirst : first.isDynamic = true) :
    l.isWrapped first.label = betweenTexts front.flatten back.flatten := by
  obtain ⟨hsplit, hrest, hafter⟩ := Node.runs_split hruns hfirst
  rw [isWrapped_eq hl hsplit hlabels hfirst, Node.precedesText_append hrest,
    Node.precedesText_eq_head hafter]
  rfl

theorem isWrapped_rest (hl : ofChildren children = .ok l)
    (hlabels : ((outputs children).map Node.label).Nodup)
    (hruns : runs (outputs children) = front ++ (first :: rest) :: back)
    (hfirst : first.isDynamic = true) : ∀ n ∈ rest, l.isWrapped n.label = false := by
  obtain ⟨hsplit, hrest, -⟩ := Node.runs_split hruns hfirst
  intro n hn
  obtain ⟨xs, ys, rfl⟩ := List.append_of_mem hn
  have hsplit' : outputs children =
      (front.flatten ++ first :: xs) ++ n :: (ys ++ back.flatten) := by
    rw [hsplit]
    simp only [List.append_assoc, List.cons_append]
  have hbefore : followsText (front.flatten ++ first :: xs) = false := by
    refine Node.followsText_of_isDynamic (fun m hm => ?_) (by simp)
    rw [List.getLast?_append_of_ne_nil _ (List.cons_ne_nil _ _)] at hm
    rcases List.mem_cons.mp (List.mem_of_getLast? hm) with rfl | hm
    · exact hfirst
    · exact hrest m (List.mem_append_left _ hm)
  rw [isWrapped_eq hl hsplit' hlabels (hrest n hn), hbefore, Bool.false_and]

/-- A layout marks the first node of each run of dynamic nodes between two texts, and of the other
dynamic nodes none. Its table, which is filled from both ends, agrees with a look to the left and to
the right of each child, for any list of children; a list without foreign values always has one. -/
theorem wrapped_opens_run (children : List Node) :
    (∀ before n after, (tabulate (before ++ n :: after))[before.length]?.map Row.wrapped =
      some (followsText before && precedesText after)) ∧
    (∀ n ∈ outputs children, n.isForeign = false →
      (n.isDynamic = true ↔ (∃ label expr place, n = .slot label expr place) ∨
        ∃ label tag attributes below place, n = .element label tag attributes below place ∧
          Node.classifyElement tag attributes below = .dynamic)) ∧
    ((∀ n ∈ outputs children, n.isForeign = false) → ∃ l, ofChildren children = .ok l) ∧
    ∀ l, ofChildren children = .ok l → ((outputs children).map Node.label).Nodup →
      ∀ front first rest back, runs (outputs children) = front ++ (first :: rest) :: back →
        first.isDynamic = true →
          (∀ n ∈ rest, n.isDynamic = true) ∧
          l.isWrapped first.label = betweenTexts front.flatten back.flatten ∧
          ∀ n ∈ rest, l.isWrapped n.label = false := by
  refine ⟨tabulate_wrapped, fun n => Node.isDynamic_iff_of_known, fun h => ⟨_, ofChildren_known h⟩, ?_⟩
  intro l hl hlabels front first rest back hruns hfirst
  exact ⟨(Node.runs_split hruns hfirst).2.1, isWrapped_first hl hlabels hruns hfirst,
    isWrapped_rest hl hlabels hruns hfirst⟩

theorem wrapped_opens_run_paragraph :
    let children : List Node := [.text 1 "a" .origin, .slot 2 (.parsed (.name "x")) .origin,
      .element 3 "Card" [] [] .origin, .fragment 4 [.text 5 "b" .origin] .origin,
      .slot 6 (.parsed (.name "y")) .origin]
    ((outputs children).map Node.label).Nodup ∧
      ∃ l, ofChildren children = .ok l ∧
        l.isWrapped 2 = true ∧ l.isWrapped 3 = false ∧ l.isWrapped 6 = false := by
  intro children
  have hlabels : ((outputs children).map Node.label).Nodup := by decide
  obtain ⟨-, -, hlayout, hwrapped⟩ := wrapped_opens_run children
  obtain ⟨l, hl⟩ := hlayout (by decide)
  obtain ⟨-, hfirst, hrest⟩ := hwrapped l hl hlabels [[.text 1 "a" .origin]]
    (.slot 2 (.parsed (.name "x")) .origin) [.element 3 "Card" [] [] .origin]
    [[.text 5 "b" .origin], [.slot 6 (.parsed (.name "y")) .origin]] rfl rfl
  obtain ⟨-, hlast, -⟩ := hwrapped l hl hlabels [[.text 1 "a" .origin],
    [.slot 2 (.parsed (.name "x")) .origin, .element 3 "Card" [] [] .origin], [.text 5 "b" .origin]]
    (.slot 6 (.parsed (.name "y")) .origin) [] [] rfl rfl
  exact ⟨hlabels, l, hl, hfirst, hrest _ List.mem_cons_self, hlast⟩

end Layout

end SlotMarkup
