import SlotMarkup.Proofs.Anchors

/-! No two slots of a template address one place: the slots of one element's attributes are parted
by literal attributes, and whatever follows a dynamic child opens a child of its own. -/

namespace SlotMarkup

open SlotMarkup.Host (Expr)

namespace Layout

theorem opens_after_dynamic (k : ChildKind) : opens (some .dynamic) k = 1 := by
  cases k <;> rfl

theorem opened_append (before : Option ChildKind) (ks ls : List ChildKind) :
    opened before (ks ++ ls) = opened before ks + opened (lastKind before ks) ls := by
  induction ks generalizing before with
  | nil => exact (Nat.zero_add _).symm
  | cons k ks ih => rw [List.cons_append, opened, opened, ih, lastKind_cons, Nat.add_assoc]

end Layout

namespace Node

theorem slotIndex_lt (before between : List Node) {m n : Node} (hm : m.isDynamic = true)
    (hn : n.isDynamic = true) : slotIndex before m < slotIndex (before ++ [m] ++ between) n := by
  have hlast : Layout.lastKind none ((before ++ [m]).map childKind) = some .dynamic := by
    rw [Layout.lastKind_map, List.getLast?_concat, Option.map_some, of_decide_eq_true hm]
  obtain ⟨k, ks, hks⟩ : ∃ k ks, (between ++ [n]).map childKind = k :: ks :=
    List.exists_cons_of_ne_nil (by simp)
  have hopened : Layout.opened none ((before ++ [m] ++ between ++ [n]).map childKind) =
      Layout.opened none ((before ++ [m]).map childKind) + (1 + Layout.opened (some k) ks) := by
    rw [List.append_assoc _ between, List.map_append, Layout.opened_append, hlast, hks, Layout.opened,
      Layout.opens_after_dynamic]
  rw [← Layout.opened_slotIndex before hm, ← Layout.opened_slotIndex _ hn, hopened]
  omega

theorem of_mem_dynamicPlaces {before ns : List Node} {place : List Node × Node}
    (h : place ∈ dynamicPlaces before ns) :
    place.2.isDynamic = true ∧ ∃ between, place.1 = before ++ between := by
  induction ns generalizing before with
  | nil => cases h
  | cons n ns ih =>
    rw [dynamicPlaces] at h
    rcases List.mem_append.mp h with h | h
    · split at h
      next hn =>
        obtain rfl := List.mem_singleton.mp h
        exact ⟨hn, [], (List.append_nil before).symm⟩
      next => cases h
    · obtain ⟨hdynamic, between, hbetween⟩ := ih h
      exact ⟨hdynamic, n :: between, by rw [hbetween, List.append_assoc]; rfl⟩

theorem dynamicPlaces_increasing (before ns : List Node) :
    (dynamicPlaces before ns).Pairwise fun p q => slotIndex p.1 p.2 < slotIndex q.1 q.2 := by
  induction ns generalizing before with
  | nil => exact .nil
  | cons n ns ih =>
    rw [dynamicPlaces]
    split
    next hn =>
      refine List.pairwise_cons.mpr ⟨fun place hplace => ?_, ih _⟩
      obtain ⟨hdynamic, between, hbetween⟩ := of_mem_dynamicPlaces hplace
      rw [hbetween]
      exact slotIndex_lt before between hn hdynamic
    next => exact ih _

end Node

def Part.Precedes (p q : Part) : Prop := ∃ i j, p.index = some i ∧ q.index = some j ∧ i < j

theorem Part.Precedes.index_ne {p q : Part} (h : p.Precedes q) : p.index ≠ q.index := by
  obtain ⟨i, j, hi, hj, hlt⟩ := h
  rw [hi, hj]
  exact fun heq => Int.ne_of_lt hlt (Option.some.inj heq)

theorem Anchored.increasing {config : Config} {owner : Option Nat} {before ns : List Node}
    {slots : List (Except Error Expr × Part)} (h : Anchored config owner before ns slots) :
    slots.Pairwise fun s s' => s.2.Precedes s'.2 := by
  have hparts : slots.map Prod.snd =
      (Node.dynamicPlaces before ns).map fun p => slotPart owner p.1 p.2 := by
    rw [← List.forall₂_eq_eq_eq, List.forall₂_map_left_iff, List.forall₂_map_right_iff]
    exact h.imp fun s p hs => hs.2
  have hincreasing : (slots.map Prod.snd).Pairwise Part.Precedes := by
    rw [hparts, List.pairwise_map]
    exact (Node.dynamicPlaces_increasing before ns).imp fun hlt => ⟨_, _, rfl, rfl, hlt⟩
  exact List.pairwise_map.mp hincreasing

theorem linearAttributes_increasing {host : Host.Interpreter} {tag : String} {k : Nat} {as : List Attribute} :
    ∀ {inRun : Bool} {written : Nat},
      (∀ s ∈ (linearAttributes host tag k inRun written as).filterMap Piece.slot?,
        ∃ i : Nat, s.2.index = some (i : Int) ∧ (if inRun then written + 1 else written) ≤ i) ∧
      ((linearAttributes host tag k inRun written as).filterMap Piece.slot?).Pairwise
        fun s s' => s.2.Precedes s'.2 := by
  induction as with
  | nil =>
    intro inRun written
    exact ⟨fun s hs => absurd hs List.not_mem_nil, .nil⟩
  | cons a as ih =>
    intro inRun written
    rw [linearAttributes]
    split
    · obtain ⟨hbound, hincreasing⟩ := @ih true written
      cases inRun with
      | true => exact ⟨hbound, hincreasing⟩
      | false =>
        -- the slot opened here counts fewer literal attributes than any slot after it
        refine ⟨List.forall_mem_cons.mpr ⟨⟨written, rfl, Nat.le_refl _⟩, fun s hs => ?_⟩,
          List.pairwise_cons.mpr ⟨fun s hs => ?_, hincreasing⟩⟩
        · obtain ⟨i, hi, hle⟩ := hbound s hs
          exact ⟨i, hi, Nat.le_of_succ_le hle⟩
        · obtain ⟨i, hi, hle⟩ := hbound s hs
          exact ⟨written, i, rfl, hi, Int.ofNat_lt.mpr hle⟩
    · obtain ⟨hbound, hincreasing⟩ := @ih false (written + 1)
      refine ⟨fun s hs => ?_, hincreasing⟩
      obtain ⟨i, hi, hle⟩ := hbound s hs
      refine ⟨i, hi, ?_⟩
      cases inRun with
      | true => exact hle
      | false => exact Nat.le_of_succ_le hle

theorem Node.Holds.increasing {config : Config} {k : Nat} {n : Node}
    {slots : List (Except Error Expr × Part)} (h : n.Holds config k slots) (isAttribute : Bool) :
    (slots.filter fun s => s.2.isAttribute = isAttribute).Pairwise fun s s' => s.2.Precedes s'.2 := by
  cases n with
  | element label tag attributes children place =>
    obtain ⟨hattributes, hchildren⟩ := h
    cases isAttribute with
    | true =>
      have hslots : (slots.filter fun s => s.2.isAttribute = true) =
          attributeSlots config.host tag k attributes := by
        simpa [Part.isAttribute] using hattributes
      rw [hslots]
      exact linearAttributes_increasing.2
    | false => simpa [Part.isAttribute] using hchildren.increasing
  | _ => exact h.elim

theorem Placed.increasing {config : Config} {count : Nat} {before ns : List Node}
    {slots : List (Except Error Expr × Part)} (h : Placed config none count before ns slots) :
    slots.Pairwise fun s s' =>
      s.2.isAttribute = s'.2.isAttribute → s.2.element = s'.2.element → s.2.Precedes s'.2 := by
  rw [List.pairwise_iff_forall_sublist]
  intro s s' hsublist hclass helement
  have hfilter : ∀ f : Except Error Expr × Part → Bool, f s = true → f s' = true →
      [s, s'].Sublist (slots.filter f) := by
    intro f hs hs'
    simpa only [List.filter_cons, hs, hs', if_true, List.filter_nil] using hsublist.filter f
  obtain ⟨j, hj, ⟨rfl, -⟩ | ⟨k, rfl, hk⟩⟩ := h.element s (hsublist.subset List.mem_cons_self)
  · -- neither slot stands in an element: both are among the nodes of the root
    refine List.pairwise_iff_forall_sublist.mp h.siblings.increasing (hfilter _ ?_ ?_)
    · exact decide_eq_true hj
    · exact decide_eq_true (helement ▸ hj)
  · have hholds := h.literals k _ (List.getElem?_eq_getElem hk)
    refine List.pairwise_iff_forall_sublist.mp (hholds.increasing s.2.isAttribute) ?_
    rw [referring, List.filter_filter]
    refine hfilter _ ?_ ?_
    · simp [hj]
    · simp [hclass, ← helement, hj]

/-- Parts of one class, be it those of attributes or those of nodes, that refer to the same element
have increasing indices, so no two of them address one place. -/
theorem compile_parts_apart {config : Config} {depth : Int} {root : Root} {t : Template}
    (h : compile config depth root = .ok t) (hdistinct : root.Distinct) :
    (t.parts.Pairwise fun p q =>
      p.isAttribute = q.isAttribute → p.element = q.element → p.Precedes q) ∧
    ∀ (i j : Nat) (p q : Part), t.parts[i]? = some p → t.parts[j]? = some q →
      p.isAttribute = q.isAttribute → p.element = q.element → p.index = q.index → i = j := by
  obtain ⟨hplaced, hparts⟩ := compile_placed h hdistinct
  have hincreasing : t.parts.Pairwise fun p q =>
      p.isAttribute = q.isAttribute → p.element = q.element → p.Precedes q := by
    rw [← hparts, List.pairwise_map]
    exact hplaced.increasing
  refine ⟨hincreasing, fun i j p q hi hj hclass helement hindex => ?_⟩
  obtain ⟨hi', rfl⟩ := List.getElem?_eq_some_iff.mp hi
  obtain ⟨hj', rfl⟩ := List.getElem?_eq_some_iff.mp hj
  rw [List.pairwise_iff_getElem] at hincreasing
  rcases Nat.lt_trichotomy i j with hlt | rfl | hgt
  · exact absurd hindex (hincreasing i j hi' hj' hlt hclass helement).index_ne
  · rfl
  · exact absurd hindex.symm (hincreasing j i hj' hi' hgt hclass.symm helement.symm).index_ne

theorem compile_parts_apart_paragraph :
    let p : Node := .element 1 "p"
      [.dynamic "id" (.parsed (.name "x")) .origin, .static "lang" "en" .origin,
        .spread (.parsed (.name "rest")) .origin]
      [.slot 2 (.parsed (.name "y")) .origin, .element 3 "Card" [] [] .origin, .text 4 "Hi" .origin,
        .slot 5 (.parsed (.name "z")) .origin] .origin
    ∃ t, compile .standard 0 (.node p) = .ok t ∧ (Root.node p).Distinct ∧
      t.parts = [⟨.attribute, some 0, some 0⟩, ⟨.attribute, some 0, some 1⟩, ⟨.node, some 0, some (-1)⟩,
        ⟨.nodeAfterDynamic, some 0, some 0⟩, ⟨.node, some 0, some 1⟩] ∧
      t.parts.Pairwise fun p q =>
        p.isAttribute = q.isAttribute → p.element = q.element → p.Precedes q := by
  intro p
  have h : compile .standard 0 (.node p) = .ok
      ⟨["<p ", "  lang=\"en\"", " >", "", "Hi", "</p>"],
        [.dict [.mk (some (.ofText "id")) (.name "x")], .name "rest", .name "y",
          elementCall .standard (.name "Card") [] none, .name "z"],
        [⟨.attribute, some 0, some 0⟩, ⟨.attribute, some 0, some 1⟩, ⟨.node, some 0, some (-1)⟩,
          ⟨.nodeAfterDynamic, some 0, some 0⟩, ⟨.node, some 0, some 1⟩], 1⟩ := by rfl
  have hdistinct : (Root.node p).Distinct := by decide
  exact ⟨_, h, hdistinct, rfl, (compile_parts_apart h hdistinct).1⟩

end SlotMarkup
