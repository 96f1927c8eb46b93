import SlotMarkup.Proofs.Emission

/-! Neighbouring dynamic attributes share a slot. A merger that is fed values and resets in any order has
one slot for each run of values, and the value of a slot means what the values of its run mean when each
overrides those before it. The attributes of a literal element are fed to a merger in this way. -/

namespace SlotMarkup

open SlotMarkup.Host (Expr Entry)

namespace Merger

inductive Step where
  | push (e : Expr)
  | reset

def Step.isReset : Step → Bool
  | .push _ => false
  | .reset => true

def Step.value? : Step → Option Expr
  | .push e => some e
  | .reset => none

def perform (m : Merger) : Step → Merger
  | .push e => m.push e
  | .reset => m.reset

def after (steps : List Step) : Merger := steps.foldl perform .empty

def stretches (steps : List Step) : List (List Expr) :=
  (steps.splitOnP Step.isReset).map (List.filterMap Step.value?)

def runs (steps : List Step) : List (List Expr × Nat) :=
  (stretches steps).zipIdx.filter fun r => !r.1.isEmpty

end Merger

/-- The value of a run: a lone value itself, and else one dictionary with the entries of all. -/
def mergedValue : List Expr → Expr
  | [e] => e
  | es => .dict (es.flatMap entriesOf)

def prolonged (run : Option Expr) (es : List Expr) : Option Expr :=
  es.foldl (fun r e => some (extendRun r e)) run

/-- The slots of stretches of pushes, each with its number, where a run is open before the first. -/
def closedRuns : Option Expr → Nat → List (List Expr) → List (Expr × Nat)
  | _, _, [] => []
  | run, k, s :: ss => ((prolonged run s).map fun e => (e, k)).toList ++ closedRuns none (k + 1) ss

namespace Merger

theorem stretches_nil : stretches [] = [[]] := by
  simp [stretches]

theorem stretches_reset (steps : List Step) : stretches (.reset :: steps) = [] :: stretches steps := by
  simp [stretches, List.splitOnP_cons_eq_if_modifyHead, Step.isReset]

theorem stretches_push (e : Expr) (steps : List Step) :
    ∃ s ss, stretches steps = s :: ss ∧ stretches (.push e :: steps) = (e :: s) :: ss := by
  have hne : steps.splitOnP Step.isReset ≠ [] := List.splitOnP_ne_nil _ _
  obtain ⟨x, xs, hx⟩ := List.exists_cons_of_ne_nil hne
  refine ⟨x.filterMap Step.value?, xs.map (List.filterMap Step.value?), ?_, ?_⟩
  · simp [stretches, hx]
  · simp [stretches, List.splitOnP_cons_eq_if_modifyHead, Step.isReset, hx, Step.value?]

theorem push_eq (slots : List Expr) (run : Option Expr) (e : Expr) :
    push ⟨slots ++ run.toList, run⟩ e = ⟨slots ++ [extendRun run e], some (extendRun run e)⟩ := by
  cases run with
  | none => simp [push, extendRun]
  | some last => simp [push, extendRun]

theorem foldl_perform_slots (steps : List Step) :
    ∀ (slots : List Expr) (run : Option Expr) (k : Nat),
      (steps.foldl perform ⟨slots ++ run.toList, run⟩).slots =
        slots ++ (closedRuns run k (stretches steps)).map Prod.fst := by
  induction steps with
  | nil =>
    intro slots run k
    cases run <;> simp [stretches_nil, closedRuns, prolonged]
  | cons step steps ih =>
    intro slots run k
    rw [List.foldl_cons]
    cases step with
    | push e =>
      obtain ⟨s, ss, hs, hpush⟩ := stretches_push e steps
      have hrest := ih slots (some (extendRun run e)) k
      rw [hs] at hrest
      rw [perform, push_eq, hpush]
      exact hrest
    | reset =>
      have hrest := ih (slots ++ run.toList) none (k + 1)
      have hslot : ((prolonged run []).map fun e => (e, k)).toList.map Prod.fst = run.toList := by
        cases run <;> rfl
      rw [stretches_reset, closedRuns, List.map_append, hslot, ← List.append_assoc, ← hrest,
        Option.toList_none, List.append_nil]
      rfl

end Merger

theorem prolonged_some (last e : Expr) (es : List Expr) :
    prolonged (some last) (e :: es) = some (.dict (entriesOf last ++ (e :: es).flatMap entriesOf)) := by
  induction es generalizing last e with
  | nil => simp [prolonged, extendRun, mergeValues]
  | cons d ds ih =>
    have hstep : prolonged (some last) (e :: d :: ds) = prolonged (some (mergeValues last e)) (d :: ds) := rfl
    rw [hstep, ih]
    simp [mergeValues, entriesOf]

theorem prolonged_none (es : List Expr) :
    prolonged none es = if es.isEmpty then none else some (mergedValue es) := by
  cases es with
  | nil => rfl
  | cons e es =>
    cases es with
    | nil => rfl
    | cons d ds =>
      have hstep : prolonged none (e :: d :: ds) = prolonged (some e) (d :: ds) := rfl
      rw [hstep, prolonged_some]
      rfl

theorem closedRuns_none (k : Nat) (ss : List (List Expr)) :
    closedRuns none k ss =
      ((ss.zipIdx k).filter fun r => !r.1.isEmpty).map fun r => (mergedValue r.1, r.2) := by
  induction ss generalizing k with
  | nil => rfl
  | cons s ss ih =>
    rw [closedRuns, ih, prolonged_none, List.zipIdx_cons, List.filter_cons]
    cases s.isEmpty <;> simp

theorem Merger.after_slots (steps : List Merger.Step) :
    (after steps).slots = (runs steps).map fun r => mergedValue r.1 := by
  have hslots := foldl_perform_slots steps [] none 0
  rw [closedRuns_none, List.map_map] at hslots
  exact hslots

section Meaning

variable {K V : Type}

def override (m n : K → Option V) : K → Option V := fun k => (n k).or (m k)

theorem override_assoc (l m n : K → Option V) :
    override (override l m) n = override l (override m n) := by
  funext k
  simp [override, Option.or_assoc]

theorem none_override (m : K → Option V) : override (fun _ => none) m = m := by
  funext k
  simp [override]

theorem override_none (m : K → Option V) : override m (fun _ => none) = m := by
  funext k
  simp [override]

/-- What expressions stand for: as keys, as values, and as mappings, the last for all but dictionaries. -/
structure Valuation (K V : Type) where
  key : Expr → K
  value : Expr → V
  mapping : Expr → K → Option V

variable [DecidableEq K] (ρ : Valuation K V)

mutual
def Valuation.ofExpr : Expr → K → Option V
  | .dict entries => Valuation.ofEntries entries
  | e => ρ.mapping e

def Valuation.ofEntries : List Entry → K → Option V
  | [] => fun _ => none
  | .mk (some k) v :: es =>
    override (fun k' => if k' = ρ.key k then some (ρ.value v) else none) (Valuation.ofEntries es)
  | .mk none e :: es => override (Valuation.ofExpr e) (Valuation.ofEntries es)
end

theorem Valuation.ofEntries_append (as bs : List Entry) :
    ρ.ofEntries (as ++ bs) = override (ρ.ofEntries as) (ρ.ofEntries bs) := by
  induction as with
  | nil => rw [List.nil_append, Valuation.ofEntries, none_override]
  | cons a as ih =>
    obtain ⟨key, e⟩ := a
    cases key <;> simp only [List.cons_append, Valuation.ofEntries, ih, override_assoc]

theorem Valuation.ofEntries_entriesOf (e : Expr) : ρ.ofEntries (entriesOf e) = ρ.ofExpr e := by
  have hspread : ρ.ofEntries [.mk none e] = ρ.ofExpr e := by
    rw [Valuation.ofEntries, Valuation.ofEntries, override_none]
  cases e with
  | dict entries => rw [entriesOf, Valuation.ofExpr]
  | _ => exact hspread

theorem Valuation.foldl_override (m : K → Option V) (es : List Expr) :
    es.foldl (fun m e => override m (ρ.ofExpr e)) m = override m (ρ.ofEntries (es.flatMap entriesOf)) := by
  induction es generalizing m with
  | nil => rw [List.foldl_nil, List.flatMap_nil, Valuation.ofEntries, override_none]
  | cons e es ih =>
    rw [List.foldl_cons, ih, List.flatMap_cons, ρ.ofEntries_append, ρ.ofEntries_entriesOf, override_assoc]

/-- The slot of a run means what its values mean when each overrides those before it. -/
theorem Valuation.ofExpr_mergedValue (es : List Expr) :
    ρ.ofExpr (mergedValue es) = es.foldl (fun m e => override m (ρ.ofExpr e)) fun _ => none := by
  rw [ρ.foldl_override, none_override]
  unfold mergedValue
  split
  next e => rw [List.flatMap_singleton, ρ.ofEntries_entriesOf]
  next => rw [Valuation.ofExpr]

end Meaning

def Attribute.step (host : Host.Interpreter) (tag : String) (a : Attribute) : Except Error Merger.Step :=
  if a.isDynamicOn tag then do
    let entry ← a.entry host tag
    .ok (.push (slotValue entry))
  else .ok .reset

def Node.mergerSteps (host : Host.Interpreter) : Node → Except Error (List Merger.Step)
  | .element _ tag attributes _ _ => attributes.mapM (Attribute.step host tag)
  | _ => .ok []

/-- The slots of the attributes of one element: for each run its value, and a descriptor that counts the
literal attributes before it. -/
def elementSlots (element : Nat) (steps : List Merger.Step) : List (Expr × Part) :=
  (Merger.runs steps).map fun r => (mergedValue r.1, ⟨.attribute, some (element : Int), some (r.2 : Int)⟩)

theorem attributeOutputs_runs {host : Host.Interpreter} {tag : String} {element : Nat}
    {attributes : List Attribute} :
    ∀ {written : Nat} {run : Option Expr} {os : List Output},
      attributeOutputs host tag element written run attributes = .ok os →
        ∃ steps, attributes.mapM (Attribute.step host tag) = .ok steps ∧
          slotsIn true os =
            (closedRuns run written (Merger.stretches steps)).map fun r =>
              (r.1, ⟨.attribute, some (element : Int), some (r.2 : Int)⟩) := by
  induction attributes with
  | nil =>
    intro written run os h
    cases h
    refine ⟨[], rfl, ?_⟩
    cases run <;> rfl
  | cons a as ih =>
    intro written run os h
    -- a dynamic attribute only prolongs the open run, so its slot is among those of the rest; a literal
    -- one closes the run and writes it
    rcases attributeOutputs_cons h with
      ⟨hdynamic, entry, hentry, hrest⟩ | ⟨hliteral, name, value, place, rest, rfl, hrest, rfl⟩
    · obtain ⟨steps, hsteps, hslots⟩ := ih hrest
      obtain ⟨s, ss, hs, hpush⟩ := Merger.stretches_push (slotValue entry) steps
      have hstep : a.step host tag = .ok (.push (slotValue entry)) := by
        rw [Attribute.step, if_pos hdynamic, hentry]
        rfl
      refine ⟨.push (slotValue entry) :: steps, ?_, ?_⟩
      · rw [List.mapM_cons, hstep, hsteps]
        rfl
      · rw [hslots, hs, hpush]
        rfl
    · obtain ⟨steps, hsteps, hslots⟩ := ih hrest
      have hstep : Attribute.step host tag (.static name value place) = .ok .reset := by
        rw [Attribute.step, if_neg (by simp [hliteral])]
      have hrun : slotsIn true (runOutputs element written run) =
          ((prolonged run []).map fun e => (e, written)).toList.map fun r =>
            (r.1, ⟨.attribute, some (element : Int), some (r.2 : Int)⟩) := by
        cases run <;> rfl
      refine ⟨.reset :: steps, ?_, ?_⟩
      · rw [List.mapM_cons, hstep, hsteps]
        rfl
      · rw [Merger.stretches_reset, closedRuns, List.map_append, ← hrun, ← hslots, slotsIn_append]
        rfl

theorem opening_elementSlots {host : Host.Interpreter} {tag : String} {element : Nat}
    {attributes : List Attribute} {opening : List Output}
    (h : attributeOutputs host tag element 0 none attributes = .ok opening) :
    ∃ steps, attributes.mapM (Attribute.step host tag) = .ok steps ∧
      slotsIn true opening = elementSlots element steps := by
  obtain ⟨steps, hsteps, hslots⟩ := attributeOutputs_runs h
  refine ⟨steps, hsteps, ?_⟩
  rw [hslots, closedRuns_none, List.map_map]
  rfl

theorem Emits.attributeSlots {config : Config} {scope : Scope} {depth : Int} {count next : Nat}
    {ns : List Node} {os : List Output} (h : Emits config scope depth count ns os next) :
    ∃ stepss, (Node.literals ns).mapM (Node.mergerSteps config.host) = .ok stepss ∧ next = count + stepss.length ∧
      slotsIn true os = (stepss.zipIdx count).flatMap fun s => elementSlots s.2 s.1 := by
  induction h with
  | nil => exact ⟨[], rfl, rfl, rfl⟩
  | text rest ih =>
    rw [slotsIn_append, slotsIn_textOutputs]
    exact ih
  | emptySlot empty rest ih => exact ih
  | slot shown around parsed rest ih =>
    rw [slotsIn_append, slotsIn_separatorOutputs, slotsIn_slot, Scope.part_isAttribute]
    exact ih
  | fragment entered below rest hbelow hrest =>
    obtain ⟨inner, hinner, rfl, hslots⟩ := hbelow
    obtain ⟨later, hlater, rfl, hslots'⟩ := hrest
    refine ⟨inner ++ later, ?_, by rw [List.length_append, Nat.add_assoc], ?_⟩
    · rw [Node.literals, Node.literalsAt, List.mapM_append, hinner, hlater]
      rfl
    · rw [slotsIn_append, hslots, hslots', List.zipIdx_append, List.flatMap_append]
  | dynamic kind built around rest ih =>
    rw [slotsIn_slot, Scope.part_isAttribute, Node.literals, Node.literalsAt_dynamic kind]
    exact ih
  | @literal scope depth inner count middle next label tag place attributes children ns opening body os
      kind entered opened below rest hbelow hrest =>
    obtain ⟨steps, hsteps, hopening⟩ := opening_elementSlots opened
    obtain ⟨inner, hinner, rfl, hslots⟩ := hbelow
    obtain ⟨later, hlater, rfl, hslots'⟩ := hrest
    -- an element takes its number at its opening tag, before the elements below it take theirs
    have hlength : count + 1 + inner.length = count + (steps :: inner).length := by
      rw [List.length_cons]
      omega
    refine ⟨steps :: inner ++ later, ?_, ?_, ?_⟩
    · have helement : Node.mergerSteps config.host (.element label tag attributes children place) = .ok steps :=
        hsteps
      rw [Node.literals, Node.literalsAt_literal kind, List.mapM_append, List.mapM_cons, helement, hinner,
        hlater]
      rfl
    · rw [hlength, List.length_append, Nat.add_assoc]
    · rw [List.zipIdx_append, List.zipIdx_cons, List.flatMap_append, List.flatMap_cons, ← hlength, ← hslots,
        ← hslots', ← hopening]
      simp

/-- A merger has one slot for each maximal run of pushes: the value itself if it is alone, and else one
dictionary with the entries of all of them in order. Whatever the expressions stand for, the slot stands
for the mappings of its run, each overriding those before it. The attribute slots of a template are
those of its literal elements, and each refers to its element and counts the literal attributes there
before its run. -/
theorem attribute_runs_share_slots :
    (∀ steps, (Merger.after steps).slots = (Merger.runs steps).map fun r => mergedValue r.1) ∧
    (∀ (K V : Type) [DecidableEq K] (ρ : Valuation K V) (steps : List Merger.Step),
      (Merger.after steps).slots.map ρ.ofExpr = (Merger.runs steps).map fun r =>
        r.1.foldl (fun m e => override m (ρ.ofExpr e)) fun _ => none) ∧
    ∀ (config : Config) (depth : Int) (root : Root) (t : Template), compile config depth root = .ok t →
      ∃ stepss, (Node.literals root.nodes).mapM (Node.mergerSteps config.host) = .ok stepss ∧
        t.slotsIn true = stepss.zipIdx.flatMap fun s => elementSlots s.2 s.1 := by
  refine ⟨Merger.after_slots, fun K V _ ρ steps => ?_, fun config depth root t h => ?_⟩
  · rw [Merger.after_slots, List.map_map]
    exact List.map_congr_left fun r _ => ρ.ofExpr_mergedValue r.1
  · obtain ⟨os, count, hos, rfl⟩ := compile_emits h
    obtain ⟨stepss, hsteps, -, hslots⟩ := hos.attributeSlots
    exact ⟨stepss, hsteps, (Template.slotsIn_ofOutputs true os count).trans hslots⟩

theorem attribute_runs_share_slots_control :
    let control : Node := .element 2 "input"
      [.static "value" (some "a") .origin, .dynamic "id" (.parsed (.name "x")) .origin,
        .static "lang" (some "en") .origin, .spread (.parsed (.name "rest")) .origin] [] .origin
    let root : Root := .node (.element 1 "p" [.dynamic "title" (.parsed (.name "y")) .origin] [control] .origin)
    ∃ t, compile .standard 0 root = .ok t ∧ t.slotsIn true =
      [(.dict [.mk (some (.ofText "title")) (.name "y")], ⟨.attribute, some 0, some 0⟩),
        (.dict [.mk (some (.ofText "value")) (.ofText "a"), .mk (some (.ofText "id")) (.name "x")],
          ⟨.attribute, some 1, some 0⟩),
        (.name "rest", ⟨.attribute, some 1, some 1⟩)] := by
  intro control root
  obtain ⟨t, ht⟩ : ∃ t, compile .standard 0 root = .ok t := ⟨_, rfl⟩
  obtain ⟨stepss, hsteps, hslots⟩ := attribute_runs_share_slots.2.2 _ _ _ _ ht
  have hwritten : (Node.literals root.nodes).mapM (Node.mergerSteps .bare) = .ok
      [[.push (.dict [.mk (some (.ofText "title")) (.name "y")])],
        [.push (.dict [.mk (some (.ofText "value")) (.ofText "a")]),
          .push (.dict [.mk (some (.ofText "id")) (.name "x")]), .reset, .push (.name "rest")]] := rfl
  cases hsteps.symm.trans hwritten
  exact ⟨t, ht, hslots.trans rfl⟩

end SlotMarkup
