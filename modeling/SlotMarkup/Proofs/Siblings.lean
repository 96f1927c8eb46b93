import Mathlib.Data.List.SplitBy
import SlotMarkup.Proofs.Forest
import SlotMarkup.Tree.Layout

/-! Where a node stands among the output children of its container, read off the siblings before
and after it. Layouts, which are scanned once and asked by label, say the same of every node of a
container without repeated labels. -/

namespace SlotMarkup

namespace Node

def isDynamic (n : Node) : Bool := n.childKind = .dynamic

def isLiteral (n : Node) : Bool := n.childKind = .markup

def followsText (before : List Node) : Bool := before.getLast?.any isText

def followsDynamic (before : List Node) : Bool := before.getLast?.any isDynamic

def precedesText (after : List Node) : Bool := (after.find? isStatic).any isText

def textRuns (ns : List Node) : Nat :=
  (ns.splitBy fun m n => m.isText == n.isText).countP fun run => run.any isText

def dynamicPairs (ns : List Node) : Nat :=
  (ns.zip ns.tail).countP fun p => p.1.isDynamic && p.2.isDynamic

/-- The number of the child right before a dynamic node, and `-1` for the first child. -/
def slotIndex (before : List Node) (n : Node) : Int :=
  (before.countP isLiteral + textRuns before + dynamicPairs (before ++ [n]) : Nat) - 1

theorem isText_eq (n : Node) : n.isText = decide (n.childKind = .text) := by
  unfold childKind
  cases n.isText <;> cases n.isStatic <;> rfl

theorem isStatic_eq (n : Node) : n.isStatic = decide (n.childKind ≠ .dynamic) := by
  cases n with
  | element label tag attributes children place =>
    unfold childKind
    cases h : isStatic (.element label tag attributes children place) <;> rfl
  | _ => rfl

theorem isDynamic_element (label : Nat) (tag : String) (attributes : List Attribute)
    (children : List Node) (place : Place) :
    isDynamic (.element label tag attributes children place) =
      decide (classifyElement tag attributes children = .dynamic) := by
  cases h : classifyElement tag attributes children <;>
    simp [isDynamic, childKind, isText, isStatic, h]

theorem isDynamic_of_kind {label : Nat} {tag : String} {attributes : List Attribute}
    {children : List Node} {place : Place} {kind : Kind}
    (h : classifyElement tag attributes children = kind) :
    isDynamic (.element label tag attributes children place) = decide (kind = .dynamic) := by
  rw [isDynamic_element, h]

theorem any_childKind (o : Option Node) (k : ChildKind) :
    (o.any fun n => n.childKind = k) = decide (o.map childKind = some k) := by
  cases o <;> simp

theorem followsText_eq (before : List Node) :
    followsText before = decide (before.getLast?.map childKind = some .text) := by
  rw [followsText, funext isText_eq, any_childKind]

theorem followsDynamic_eq (before : List Node) :
    followsDynamic before = decide (before.getLast?.map childKind = some .dynamic) := by
  exact any_childKind _ _

theorem followsText_concat (ns : List Node) (n : Node) : followsText (ns ++ [n]) = n.isText := by
  rw [followsText, List.getLast?_concat]
  rfl

theorem followsDynamic_concat (ns : List Node) (n : Node) :
    followsDynamic (ns ++ [n]) = n.isDynamic := by
  rw [followsDynamic, List.getLast?_concat]
  rfl

theorem isText_of_isDynamic {n : Node} (h : n.isDynamic = true) : n.isText = false := by
  rw [isText_eq, of_decide_eq_true h]
  rfl

theorem precedesText_append {ns after : List Node} (h : ∀ n ∈ ns, n.isDynamic = true) :
    precedesText (ns ++ after) = precedesText after := by
  have hnone : ns.find? isStatic = none := by
    refine List.find?_eq_none.mpr fun n hn hstatic => ?_
    rw [isStatic_eq] at hstatic
    exact of_decide_eq_true hstatic (of_decide_eq_true (h n hn))
  rw [precedesText, List.find?_append, hnone, Option.none_or]
  rfl

end Node

theorem splitBy_concat {α : Type} {r : α → α → Bool} {ms : List α} {m n : α} (h : r m n = true) :
    ∃ groups group, (ms ++ [m]).splitBy r = groups ++ [group] ∧ m ∈ group ∧
      (ms ++ [m] ++ [n]).splitBy r = groups ++ [group ++ [n]] := by
  have hne : (ms ++ [m]).splitBy r ≠ [] := List.splitBy_ne_nil.mpr (by simp)
  obtain ⟨groups, group, hsplit⟩ := (List.eq_nil_or_concat' _).resolve_left hne
  obtain ⟨hflat, hnil, hgroups, hlinks⟩ := List.splitBy_eq_iff.mp hsplit
  obtain rfl | ⟨front, x, rfl⟩ := List.eq_nil_or_concat' group
  · simp at hnil
  rw [List.flatten_append, List.flatten_singleton, ← List.append_assoc] at hflat
  obtain ⟨rfl, hx⟩ := List.append_inj' hflat rfl
  obtain rfl := List.singleton_inj.mp hx
  obtain ⟨hfirst, -, hlink⟩ := List.isChain_append.mp hlinks
  refine ⟨groups, front ++ [m], hsplit, by simp, List.splitBy_eq_iff.mpr ⟨by simp, ?_, ?_, ?_⟩⟩
  · simp_all
  · intro g hg
    rcases List.mem_append.mp hg with hg | hg
    · exact hgroups g (List.mem_append_left _ hg)
    · obtain rfl := List.mem_singleton.mp hg
      rw [List.append_assoc]
      exact List.isChain_append_cons_cons.mpr
        ⟨hgroups _ (List.mem_append_right _ (List.mem_singleton_self _)), h, List.isChain_singleton _⟩
  · refine List.isChain_append.mpr ⟨hfirst, List.isChain_singleton _, ?_⟩
    intro x hx y hy
    cases hy
    obtain ⟨ha, hb, hxy⟩ := hlink x hx _ rfl
    exact ⟨ha, by simp, by rwa [List.head_append_of_ne_nil hb]⟩

namespace Node

theorem textRuns_concat (ns : List Node) (n : Node) :
    textRuns (ns ++ [n]) = textRuns ns + if n.isText && !followsText ns then 1 else 0 := by
  obtain rfl | ⟨ms, m, rfl⟩ := List.eq_nil_or_concat' ns
  · cases h : n.isText <;> simp [textRuns, followsText, List.splitBy, List.splitBy.loop, h]
  · have hlast := followsText_concat ms m
    -- the new node prolongs the last run, or it starts one of its own
    by_cases h : m.isText = n.isText
    · obtain ⟨groups, group, hsplit, hm, hsplit'⟩ :=
        @splitBy_concat Node (fun m n => m.isText == n.isText) ms m n (beq_iff_eq.mpr h)
      have hany : (group ++ [n]).any isText = group.any isText := by
        rw [List.any_append, List.any_cons, List.any_nil, Bool.or_false, ← h, Bool.or_eq_left_iff_imp]
        exact fun hm' => List.any_eq_true.mpr ⟨m, hm, hm'⟩
      rw [textRuns, textRuns, hsplit, hsplit', hlast, h, Bool.and_not_self, List.countP_append,
        List.countP_append, List.countP_singleton, List.countP_singleton, hany]
      rfl
    · have hcut : (ms ++ [m] ++ [n]).splitBy (fun m n => m.isText == n.isText) =
          (ms ++ [m]).splitBy (fun m n => m.isText == n.isText) ++ [[n]] :=
        List.splitBy_append (by simpa using h)
      have hopens : (n.isText && !m.isText) = n.isText := by
        cases hm : m.isText <;> cases hn : n.isText <;> simp_all
      rw [textRuns, hcut, List.countP_append, List.countP_singleton, hlast, hopens]
      simp [textRuns]

theorem zip_tail_concat {α : Type} (xs : List α) (x y : α) :
    (xs ++ [x] ++ [y]).zip (xs ++ [x] ++ [y]).tail = (xs ++ [x]).zip (xs ++ [x]).tail ++ [(x, y)] := by
  induction xs with
  | nil => rfl
  | cons z zs ih =>
    cases zs with
    | nil => rfl
    | cons w ws => exact congrArg ((z, w) :: ·) ih

theorem dynamicPairs_concat (ns : List Node) (n : Node) :
    dynamicPairs (ns ++ [n]) = dynamicPairs ns + if n.isDynamic && followsDynamic ns then 1 else 0 := by
  obtain rfl | ⟨ms, m, rfl⟩ := List.eq_nil_or_concat' ns
  · simp [dynamicPairs, followsDynamic]
  · rw [dynamicPairs, zip_tail_concat, List.countP_append, List.countP_singleton,
      followsDynamic_concat, Bool.and_comm]
    rfl

end Node

namespace Layout

def opens (before : Option ChildKind) (k : ChildKind) : Nat := if opensChild before k then 1 else 0

def opened (before : Option ChildKind) : List ChildKind → Nat
  | [] => 0
  | k :: ks => opens before k + opened (some k) ks

def lastKind (before : Option ChildKind) (ks : List ChildKind) : Option ChildKind :=
  ks.getLast?.or before

theorem lastKind_cons (before : Option ChildKind) (k : ChildKind) (ks : List ChildKind) :
    lastKind before (k :: ks) = lastKind (some k) ks := by
  simp [lastKind, List.getLast?_cons]

theorem lastKind_map (ns : List Node) :
    lastKind none (ns.map Node.childKind) = ns.getLast?.map Node.childKind := by
  simp [lastKind]

theorem opened_concat (before : Option ChildKind) (ks : List ChildKind) (k : ChildKind) :
    opened before (ks ++ [k]) = opened before ks + opens (lastKind before ks) k := by
  induction ks generalizing before with
  | nil => exact Nat.add_comm _ _
  | cons j ks ih => rw [List.cons_append, opened, opened, ih, lastKind_cons, Nat.add_assoc]

theorem opens_childKind (before : List Node) (n : Node) :
    opens (before.getLast?.map Node.childKind) n.childKind =
      (if n.isLiteral then 1 else 0) + (if n.isText && !Node.followsText before then 1 else 0) +
        if n.isDynamic && Node.followsDynamic before then 1 else 0 := by
  rw [Node.followsText_eq, Node.followsDynamic_eq, Node.isText_eq, Node.isLiteral, Node.isDynamic]
  generalize n.childKind = k
  generalize before.getLast?.map Node.childKind = last
  cases last with
  | none => cases k <;> rfl
  | some j => cases k <;> cases j <;> rfl

theorem opened_map_childKind (ns : List Node) :
    opened none (ns.map Node.childKind) =
      ns.countP Node.isLiteral + Node.textRuns ns + Node.dynamicPairs ns := by
  induction ns using List.reverseRecOn with
  | nil => rfl
  | append_singleton ns n ih =>
    rw [List.map_append, List.map_singleton, opened_concat, ih, lastKind_map, opens_childKind,
      Node.textRuns_concat, Node.dynamicPairs_concat, List.countP_append, List.countP_singleton]
    omega

theorem opened_slotIndex (before : List Node) {n : Node} (h : n.isDynamic = true) :
    (-1 : Int) + opened none ((before ++ [n]).map Node.childKind) = Node.slotIndex before n := by
  have hkind : n.childKind = .dynamic := of_decide_eq_true h
  have hliteral : n.isLiteral = false := by rw [Node.isLiteral, hkind]; rfl
  have htext := Node.isText_of_isDynamic h
  rw [opened_map_childKind, Node.slotIndex, Node.textRuns_concat, List.countP_append,
    List.countP_singleton, hliteral, htext]
  simp only [Bool.false_eq_true, if_false, Bool.false_and, Nat.add_zero]
  omega

theorem positions_cons (count : Int) (before : Option ChildKind) (k : ChildKind)
    (ks : List ChildKind) :
    positions count before (k :: ks) =
      ((⟨count + opens before k, decide (before = some .dynamic)⟩ : Position),
        decide (before = some .text)) :: positions (count + opens before k) (some k) ks := by
  rw [positions, opens]
  cases opensChild before k with
  | true => rfl
  | false => simp only [Bool.false_eq_true, if_false, Int.natCast_zero, Int.add_zero]

theorem length_positions (count : Int) (before : Option ChildKind) (ks : List ChildKind) :
    (positions count before ks).length = ks.length := by
  induction ks generalizing count before with
  | nil => rfl
  | cons k ks ih => rw [positions_cons, List.length_cons, List.length_cons, ih]

theorem positions_append (ks : List ChildKind) (k : ChildKind) (ls : List ChildKind) (count : Int)
    (before : Option ChildKind) :
    ∃ ps qs : List (Position × Bool), positions count before (ks ++ k :: ls) =
        ps ++ (⟨count + opened before (ks ++ [k]), lastKind before ks = some .dynamic⟩,
          decide (lastKind before ks = some .text)) :: qs ∧
      ps.length = ks.length ∧ qs.length = ls.length := by
  induction ks generalizing count before with
  | nil =>
    exact ⟨[], _, positions_cons count before k ls, rfl, length_positions _ (some k) ls⟩
  | cons j ks ih =>
    obtain ⟨ps, qs, heq, hps, hqs⟩ := ih (count + opens before j) (some j)
    refine ⟨(⟨count + opens before j, decide (before = some .dynamic)⟩,
      decide (before = some .text)) :: ps, qs, ?_, congrArg (· + 1) hps, hqs⟩
    rw [List.cons_append, positions_cons, heq, lastKind_cons, List.cons_append, List.cons_append,
      opened, Int.natCast_add, Int.add_assoc]

theorem textAfter_cons (k : ChildKind) (ks : List ChildKind) :
    textAfter (k :: ks) = ((textAfter ks).2 :: (textAfter ks).1, match k with
      | .text => true
      | .markup => false
      | .dynamic => (textAfter ks).2) := rfl

theorem length_textAfter (ks : List ChildKind) : (textAfter ks).1.length = ks.length := by
  induction ks with
  | nil => rfl
  | cons k ks ih => rw [textAfter_cons, List.length_cons, List.length_cons, ih]

theorem textAfter_append (ks : List ChildKind) (k : ChildKind) (ls : List ChildKind) :
    ∃ flags, (textAfter (ks ++ k :: ls)).1 = flags ++ (textAfter ls).2 :: (textAfter ls).1 ∧
      flags.length = ks.length := by
  induction ks with
  | nil => exact ⟨[], rfl, rfl⟩
  | cons j ks ih =>
    obtain ⟨flags, hflags, hlength⟩ := ih
    refine ⟨(textAfter (ks ++ k :: ls)).2 :: flags, ?_, by rw [List.length_cons, List.length_cons, hlength]⟩
    rw [List.cons_append, textAfter_cons, hflags, List.cons_append]

theorem textAfter_snd (ns : List Node) :
    (textAfter (ns.map Node.childKind)).2 = Node.precedesText ns := by
  induction ns with
  | nil => rfl
  | cons n ns ih =>
    have hcons : Node.precedesText (n :: ns) =
        if n.isStatic then n.isText else Node.precedesText ns := by
      unfold Node.precedesText
      rw [List.find?_cons]
      cases n.isStatic <;> rfl
    rw [List.map_cons, textAfter_cons, ih, hcons, Node.isStatic_eq, Node.isText_eq]
    cases n.childKind <;> rfl

theorem tabulate_append (before : List Node) (n : Node) (after : List Node) :
    ∃ rows rows' : List Row, tabulate (before ++ n :: after) =
        rows ++ ⟨n.label, ⟨-1 + opened none ((before ++ [n]).map Node.childKind),
          Node.followsDynamic before⟩, Node.followsText before && Node.precedesText after⟩ :: rows' ∧
      rows'.map Row.label = after.map Node.label := by
  obtain ⟨ps, qs, hpositions, hps, hqs⟩ := positions_append (before.map Node.childKind) n.childKind
    (after.map Node.childKind) (-1) none
  obtain ⟨flags, hflags, hlength⟩ := textAfter_append (before.map Node.childKind) n.childKind
    (after.map Node.childKind)
  have hrest := length_textAfter (after.map Node.childKind)
  rw [List.length_map] at hps hqs hlength hrest
  unfold tabulate
  simp only [List.map_append, List.map_cons, hpositions, hflags]
  rw [List.zip_append (hps.trans hlength.symm), List.zip_append (by simp [hps, hlength])]
  simp only [List.zip_cons_cons, List.map_append, List.map_cons, lastKind_map, textAfter_snd,
    ← Node.followsText_eq, ← Node.followsDynamic_eq]
  refine ⟨_, _, rfl, ?_⟩
  rw [List.map_map]
  change (after.zip _).map (Node.label ∘ Prod.fst) = after.map Node.label
  rw [← List.map_map, List.map_fst_zip (by simp [hqs, hrest])]

theorem row?_of_append {rows rows' : List Row} {r : Row} (h : r.label ∉ rows'.map Row.label) :
    row? ⟨rows ++ r :: rows'⟩ r.label = some r := by
  have hnone : rows'.reverse.find? (fun q => q.label == r.label) = none := by
    rw [List.find?_eq_none]
    intro q hq heq
    exact h (List.mem_map.mpr ⟨q, List.mem_reverse.mp hq, beq_iff_eq.mp heq⟩)
  simp [row?, List.find?_append, hnone]

theorem unindexable?_of_not_foreign {n : Node} (h : n.isForeign = false) :
    unindexable? n = none := by
  cases n with
  | foreign label v => cases h
  | _ => rfl

theorem ofChildren_eq_ok {children : List Node} {l : Layout} (h : ofChildren children = .ok l) :
    l = ⟨tabulate (Node.outputs children)⟩ := by
  unfold ofChildren at h
  cases hfind : (Node.outputs children).findSome? unindexable? with
  | some type => simp [hfind] at h
  | none =>
    simp only [hfind, Except.ok.injEq] at h
    exact h.symm

/-- The layout of a container whose labels are distinct tells what stands before and after each of
its output children. -/
theorem row?_eq {children before after : List Node} {n : Node} {l : Layout}
    (hl : ofChildren children = .ok l) (hsplit : Node.outputs children = before ++ n :: after)
    (hlabels : ((Node.outputs children).map Node.label).Nodup) (hdynamic : n.isDynamic = true) :
    l.row? n.label = some ⟨n.label, ⟨Node.slotIndex before n, Node.followsDynamic before⟩,
      Node.followsText before && Node.precedesText after⟩ := by
  obtain ⟨rows, rows', htable, hrows⟩ := tabulate_append before n after
  rw [opened_slotIndex before hdynamic] at htable
  -- rows are asked from the end, so a later row with the same label would hide this one
  have hlast : n.label ∉ rows'.map Row.label := by
    rw [hsplit, List.map_append, List.map_cons] at hlabels
    rw [hrows]
    exact (List.nodup_cons.mp (List.nodup_append.mp hlabels).2.1).1
  rw [ofChildren_eq_ok hl, hsplit, htable]
  exact row?_of_append hlast

theorem position_eq {children before after : List Node} {n : Node} {l : Layout}
    (hl : ofChildren children = .ok l) (hsplit : Node.outputs children = before ++ n :: after)
    (hlabels : ((Node.outputs children).map Node.label).Nodup) (hdynamic : n.isDynamic = true) :
    l.position n.label = ⟨Node.slotIndex before n, Node.followsDynamic before⟩ := by
  rw [position, row?_eq hl hsplit hlabels hdynamic]
  rfl

theorem isWrapped_eq {children before after : List Node} {n : Node} {l : Layout}
    (hl : ofChildren children = .ok l) (hsplit : Node.outputs children = before ++ n :: after)
    (hlabels : ((Node.outputs children).map Node.label).Nodup) (hdynamic : n.isDynamic = true) :
    l.isWrapped n.label = (Node.followsText before && Node.precedesText after) := by
  rw [isWrapped, row?_eq hl hsplit hlabels hdynamic]
  rfl

end Layout

end SlotMarkup
