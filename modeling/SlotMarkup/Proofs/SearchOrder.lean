import Mathlib.Logic.Relation
import SlotMarkup.Proofs.Liveness

/-! The search for something dynamic in a picture, as rounds over the nodes that are still to be
visited. Whichever of them a round takes, and whether or not the search ends at its first find, it
ends after at most one round for each node of the picture, with the same answer: that something
dynamic stands in the picture or that nothing does. -/

namespace SlotMarkup

open Relation (ReflTransGen TransGen)

inductive Attribute.IsDynamic : Attribute → Prop
  | spread (expr : Embedded) (place : Place) : IsDynamic (.spread expr place)
  | dynamic (name : String) (expr : Embedded) (place : Place) : IsDynamic (.dynamic name expr place)
  | key (value : Option String) (place : Place) : IsDynamic (.static "key" value place)
  | ref (value : Option String) (place : Place) : IsDynamic (.static "ref" value place)

theorem Attribute.isLive_iff (a : Attribute) : a.isLive = true ↔ a.IsDynamic := by
  constructor
  · intro h
    cases a with
    | static name value place =>
      have hname : name = "key" ∨ name = "ref" := by simpa [isLive, isReserved] using h
      rcases hname with rfl | rfl
      · exact .key value place
      · exact .ref value place
    | dynamic name expr place => exact .dynamic name expr place
    | spread expr place => exact .spread expr place
    | foreign v => cases h
  · intro h
    cases h <;> rfl

namespace Node

def IsChild (n parent : Node) : Prop := n ∈ parent.children

theorem live_eq_any (ns : List Node) : live ns = ns.any liveAt := by
  induction ns with
  | nil => rfl
  | cons n ns ih => rw [live, List.any_cons, ih]

section Order

variable {as bs : List Node}

theorem live_perm (h : as.Perm bs) : live as = live bs := by
  rw [live_eq_any, live_eq_any, h.any_eq]

theorem sizes_perm (h : as.Perm bs) : sizes as = sizes bs := by
  induction h with
  | nil => rfl
  | cons n _ ih => rw [sizes, sizes, ih]
  | swap m n ns =>
    rw [sizes, sizes, sizes, sizes]
    omega
  | trans _ _ hab hbc => exact hab.trans hbc

end Order

theorem size_le_of_mem {n : Node} {ns : List Node} (h : n ∈ ns) : n.size ≤ sizes ns := by
  obtain ⟨front, back, rfl⟩ := List.append_of_mem h
  rw [sizes_append, sizes]
  omega

theorem size_lt_of_isChild {n parent : Node} (h : IsChild n parent) : n.size < parent.size := by
  have hle : n.size ≤ sizes parent.children := size_le_of_mem h
  rw [size_eq parent]
  exact Nat.lt_succ_of_le hle

theorem exists_of_liveAt (n : Node) (h : liveAt n = true) :
    ∃ m, ReflTransGen IsChild m n ∧ m.isLiveHere = true := by
  rw [liveAt_eq, Bool.or_eq_true] at h
  rcases h with hhere | hbelow
  · exact ⟨n, .refl, hhere⟩
  · rw [live_eq_any, List.any_eq_true] at hbelow
    obtain ⟨child, hchild, hlive⟩ := hbelow
    obtain ⟨m, hm, hhere⟩ := exists_of_liveAt child hlive
    exact ⟨m, hm.tail hchild, hhere⟩
termination_by n.size
decreasing_by exact size_lt_of_isChild hchild

theorem liveAt_of_below {m n : Node} (h : ReflTransGen IsChild m n) (hhere : m.isLiveHere = true) :
    liveAt n = true := by
  induction h with
  | refl => rw [liveAt_eq, hhere, Bool.true_or]
  | @tail child parent _ hchild ih =>
    have hbelow : live parent.children = true := by
      rw [live_eq_any]
      exact List.any_eq_true.mpr ⟨child, hchild, ih⟩
    rw [liveAt_eq, hbelow, Bool.or_true]

theorem live_children_iff (n : Node) :
    live n.children = true ↔ ∃ m, TransGen IsChild m n ∧ m.isLiveHere = true := by
  rw [live_eq_any, List.any_eq_true]
  constructor
  · rintro ⟨child, hchild, hlive⟩
    obtain ⟨m, hm, hhere⟩ := exists_of_liveAt child hlive
    exact ⟨m, TransGen.tail' hm hchild, hhere⟩
  · rintro ⟨m, hm, hhere⟩
    obtain ⟨child, hreach, hchild⟩ := TransGen.tail'_iff.mp hm
    exact ⟨child, hchild, liveAt_of_below hreach hhere⟩

end Node

/-- A search: the nodes that are still to be visited, with the mark whether one that is dynamic has
been met, or the answer. -/
inductive Search where
  | pending (nodes : List Node) (found : Bool)
  | ended (answer : Bool)

namespace Search

/-- A round of a search in any order. It visits one of the nodes and leaves the others and what is
below the one it has taken. The search may go on after a find, or end with it. -/
inductive Round : Search → Search → Prop
  | visit {nodes rest next : List Node} {n : Node} {found : Bool} (taken : nodes.Perm (n :: rest))
      (left : next.Perm (n.children ++ rest)) :
      Round (.pending nodes found) (.pending next (found || n.isLiveHere))
  | stop {nodes : List Node} : Round (.pending nodes true) (.ended true)
  | exhausted {found : Bool} : Round (.pending [] found) (.ended found)

/-- A round that takes the node on top, puts its children on top in their order, and ends the search
with the first find. -/
inductive DepthFirst : Search → Search → Prop
  | visit {n : Node} {rest : List Node} :
      DepthFirst (.pending (n :: rest) false) (.pending (n.children ++ rest) n.isLiveHere)
  | stop {nodes : List Node} : DepthFirst (.pending nodes true) (.ended true)
  | exhausted : DepthFirst (.pending [] false) (.ended false)

def start (attributes : List Attribute) (children : List Node) : Search :=
  .pending children (attributes.any Attribute.isLive)

def answer : Search → Bool
  | .pending nodes found => found || Node.live nodes
  | .ended answer => answer

def remaining : Search → Nat
  | .pending nodes _ => Node.sizes nodes + 1
  | .ended _ => 0

variable {s t : Search}

theorem DepthFirst.round (h : DepthFirst s t) : Round s t := by
  cases h with
  | @visit n rest =>
    have hround : Round (.pending (n :: rest) false)
        (.pending (n.children ++ rest) (false || n.isLiveHere)) :=
      .visit (List.Perm.refl _) (List.Perm.refl _)
    rwa [Bool.false_or] at hround
  | stop => exact .stop
  | exhausted => exact .exhausted

theorem Round.answer_eq (h : Round s t) : t.answer = s.answer := by
  cases h with
  | @visit nodes rest next n found taken left =>
    rw [answer, answer, Node.live_perm left, Node.live_perm taken, Node.live_append, Node.live,
      Node.liveAt_eq, Bool.or_assoc, Bool.or_assoc]
  | stop => rfl
  | exhausted => exact (Bool.or_false _).symm

theorem Round.remaining_lt (h : Round s t) : t.remaining < s.remaining := by
  cases h with
  | @visit nodes rest next n found taken left =>
    rw [remaining, remaining, Node.sizes_perm left, Node.sizes_perm taken, Node.sizes_cons]
    exact Nat.lt_succ_self _
  | stop => exact Nat.succ_pos _
  | exhausted => exact Nat.succ_pos _

theorem exists_round (nodes : List Node) (found : Bool) : ∃ t, Round (.pending nodes found) t := by
  cases nodes with
  | nil => exact ⟨_, .exhausted⟩
  | cons n rest => exact ⟨_, .visit (List.Perm.refl _) (List.Perm.refl _)⟩

theorem answer_eq_of_reaches (h : ReflTransGen Round s t) : t.answer = s.answer := by
  induction h with
  | refl => rfl
  | tail _ hround ih => exact hround.answer_eq.trans ih

theorem length_le_remaining {states : List Search} (h : List.IsChain Round (s :: states)) :
    states.length ≤ s.remaining := by
  induction states generalizing s with
  | nil => exact Nat.zero_le _
  | cons t states ih =>
    obtain ⟨hround, hrest⟩ := List.isChain_cons_cons.mp h
    have hlt := hround.remaining_lt
    have hle := ih hrest
    rw [List.length_cons]
    omega

end Search

namespace Node

open Search (DepthFirst)

theorem reaches_of_live {n : Node} (h : n.isLiveHere = true) (rest : List Node) :
    ReflTransGen DepthFirst (.pending (n :: rest) false) (.ended true) := by
  have hvisit : DepthFirst (.pending (n :: rest) false) (.pending (n.children ++ rest) n.isLiveHere) :=
    .visit
  rw [h] at hvisit
  exact (ReflTransGen.single hvisit).tail .stop

theorem reaches_of_not_live {n : Node} (h : n.isLiveHere = false) {rest : List Node} {t : Search}
    (hrest : ReflTransGen DepthFirst (.pending (n.children ++ rest) false) t) :
    ReflTransGen DepthFirst (.pending (n :: rest) false) t := by
  have hvisit : DepthFirst (.pending (n :: rest) false) (.pending (n.children ++ rest) n.isLiveHere) :=
    .visit
  rw [h] at hvisit
  exact hrest.head hvisit

/-- The loop goes through the rounds of a search from the top, if it is allowed one for each node. -/
theorem scanLive_reaches {fuel : Nat} {ns : List Node} (h : sizes ns ≤ fuel) :
    ReflTransGen DepthFirst (.pending ns false) (.ended (scanLive fuel ns)) := by
  -- On the fuel, as for `scanLive_eq_live`.
  induction fuel generalizing ns with
  | zero =>
    cases ns with
    | nil => exact .single .exhausted
    | cons n rest =>
      rw [sizes_cons] at h
      omega
  | succ fuel ih =>
    cases ns with
    | nil => exact .single .exhausted
    | cons n rest =>
      rw [sizes_cons] at h
      have hleft : sizes (n.children ++ rest) ≤ fuel := Nat.le_of_succ_le_succ h
      rw [scanLive_cons]
      cases hhere : n.isLiveHere with
      | true => exact reaches_of_live hhere rest
      | false => exact reaches_of_not_live hhere (ih hleft)

theorem start_reaches (attributes : List Attribute) (children : List Node) :
    ReflTransGen DepthFirst (Search.start attributes children)
      (.ended (hasLivePart attributes children)) := by
  rw [Search.start, hasLivePart]
  cases attributes.any Attribute.isLive with
  | true => exact .single .stop
  | false => exact scanLive_reaches (Nat.le_succ _)

theorem hasLivePart_iff (label : Nat) (tag : String) (attributes : List Attribute)
    (children : List Node) (place : Place) :
    hasLivePart attributes children = true ↔
      (∃ a ∈ attributes, a.IsDynamic) ∨
        ∃ m, TransGen IsChild m (.element label tag attributes children place) ∧
          m.isLiveHere = true := by
  rw [hasLivePart_eq, Bool.or_eq_true, List.any_eq_true, ← live_children_iff]
  simp only [Attribute.isLive_iff]
  rfl

theorem isLiveHere_cases {m : Node} (h : m.isLiveHere = true) :
    (∃ label tag attributes children place, m = .element label tag attributes children place ∧
      (isMarkupTag tag = false ∨ ∃ a ∈ attributes, a.IsDynamic)) ∨
    ∃ label expr place, m = .slot label expr place ∧ expr.isEmpty = false := by
  cases m with
  | element label tag attributes children place =>
    refine .inl ⟨_, _, _, _, _, rfl, ?_⟩
    rw [isLiveHere, Bool.or_eq_true, Bool.not_eq_true', List.any_eq_true] at h
    simpa only [Attribute.isLive_iff] using h
  | slot label expr place =>
    rw [isLiveHere, Bool.not_eq_true'] at h
    exact .inr ⟨_, _, _, rfl, h⟩
  | _ => cases h

theorem isLiveHere_of_attribute {label : Nat} {tag : String} {attributes : List Attribute}
    {children : List Node} {place : Place} (h : ∃ a ∈ attributes, a.IsDynamic) :
    isLiveHere (.element label tag attributes children place) = true := by
  obtain ⟨a, ha, hdynamic⟩ := h
  have hany : attributes.any Attribute.isLive = true :=
    List.any_eq_true.mpr ⟨a, ha, a.isLive_iff.mpr hdynamic⟩
  rw [isLiveHere, hany, Bool.or_true]

/-- The search of an element finds something just if an attribute of the element or of an element
below it is dynamic, the name of an element below it is no markup name, or a slot below it is not
empty. In whichever order the nodes are visited, and whether or not the search ends with its first
find, every run of it has at most as many rounds as the element has nodes, and a run that cannot go
on has ended with this answer. The loop is such a run, and a greater bound changes nothing. -/
theorem hasLivePart_of_any_search (label : Nat) (tag : String) (attributes : List Attribute)
    (children : List Node) (place : Place) :
    let e : Node := .element label tag attributes children place
    (hasLivePart attributes children = true ↔
      (∃ label' tag' attributes' children' place',
        ReflTransGen IsChild (.element label' tag' attributes' children' place') e ∧
          ∃ a ∈ attributes', a.IsDynamic) ∨
      (∃ label' tag' attributes' children' place',
        TransGen IsChild (.element label' tag' attributes' children' place') e ∧
          isMarkupTag tag' = false) ∨
      ∃ label' expr place', TransGen IsChild (.slot label' expr place') e ∧ expr.isEmpty = false) ∧
    (∀ states, List.IsChain Search.Round (Search.start attributes children :: states) →
      states.length ≤ e.size) ∧
    (∀ s, ReflTransGen Search.Round (Search.start attributes children) s →
      (∀ t, ¬ Search.Round s t) → s = .ended (hasLivePart attributes children)) ∧
    (∀ s t, DepthFirst s t → Search.Round s t) ∧
    ReflTransGen DepthFirst (Search.start attributes children)
      (.ended (hasLivePart attributes children)) ∧
    ∀ fuel, sizes children ≤ fuel →
      (attributes.any Attribute.isLive || scanLive fuel children) = hasLivePart attributes children := by
  intro e
  refine ⟨?_, fun states hrun => Search.length_le_remaining hrun, fun s hs hstuck => ?_,
    fun s t h => h.round, start_reaches attributes children, fun fuel hfuel => ?_⟩
  · rw [hasLivePart_iff label tag attributes children place]
    constructor
    · rintro (hown | ⟨m, hm, hlive⟩)
      · exact .inl ⟨label, tag, attributes, children, place, .refl, hown⟩
      · rcases isLiveHere_cases hlive with
          ⟨label', tag', attributes', children', place', rfl, htag | hdynamic⟩ |
          ⟨label', expr, place', rfl, hshown⟩
        · exact .inr (.inl ⟨_, _, _, _, _, hm, htag⟩)
        · exact .inl ⟨_, _, _, _, _, hm.to_reflTransGen, hdynamic⟩
        · exact .inr (.inr ⟨_, _, _, hm, hshown⟩)
    · rintro (⟨label', tag', attributes', children', place', hm, hdynamic⟩ |
        ⟨label', tag', attributes', children', place', hm, htag⟩ | ⟨label', expr, place', hm, hshown⟩)
      · rcases Relation.reflTransGen_iff_eq_or_transGen.mp hm with hself | hbelow
        · obtain ⟨-, -, rfl, -, -⟩ := Node.element.inj hself
          exact .inl hdynamic
        · exact .inr ⟨_, hbelow, isLiveHere_of_attribute hdynamic⟩
      · exact .inr ⟨_, hm, by rw [isLiveHere, htag]; rfl⟩
      · exact .inr ⟨_, hm, by rw [isLiveHere, hshown]; rfl⟩
  · cases s with
    | pending nodes found =>
      obtain ⟨t, ht⟩ := Search.exists_round nodes found
      exact absurd ht (hstuck t)
    | ended b =>
      have hanswer := Search.answer_eq_of_reaches hs
      rw [hasLivePart_eq]
      exact congrArg Search.ended hanswer
  · rw [hasLivePart_eq, scanLive_eq_live hfuel]

end Node

end SlotMarkup
