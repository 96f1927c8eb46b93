import Mathlib.Data.List.InsertIdx
import SlotMarkup.CompilationUnit

/-! Runs of a compilation unit. Whichever of its steps fail, a run leaves the module that it started
from, with the helpers imported at most once and the assignments of the steps that succeeded at its
end. -/

namespace SlotMarkup

open SlotMarkup.Host (Alias Expr Module Statement)

/-- The documentation that a body may open with is followed by all its imports from the future. -/
def FutureFirst (body : Module) : Prop :=
  ∃ documentation futures rest, body = documentation ++ (futures ++ rest) ∧
    (documentation = [] ∨ ∃ d, documentation = [d] ∧ isDocumentation d = true) ∧
    (∀ s ∈ futures, isFutureImport s = true) ∧ ∀ s ∈ rest, isFutureImport s = false

section Insertion

variable {body : Module}

theorem isFutureImport_of_isDocumentation {s : Statement} (h : isDocumentation s = true) :
    isFutureImport s = false := by
  cases s with
  | importFrom module names level => cases h
  | _ => rfl

theorem insertIdx_length_append {α : Type} (front back : List α) (x : α) :
    (front ++ back).insertIdx front.length x = front ++ x :: back := by
  induction front with
  | nil => rfl
  | cons a front ih =>
    rw [List.cons_append, List.length_cons, List.insertIdx_succ_cons, ih]
    rfl

theorem dropWhile_append_of_not {α : Type} {p : α → Bool} {xs ys : List α}
    (hxs : ∀ x ∈ xs, p x = true) (hys : ∀ y ∈ ys, p y = false) : (xs ++ ys).dropWhile p = ys := by
  rw [List.dropWhile_append_of_pos hxs]
  cases ys with
  | nil => rfl
  | cons y ys => rw [List.dropWhile_cons, if_neg (by simp [hys y])]

theorem FutureFirst.after_documentation {d : Statement} (h : FutureFirst (d :: body))
    (hd : isDocumentation d = true) :
    ∀ s ∈ body.dropWhile isFutureImport, isFutureImport s = false := by
  obtain ⟨documentation, futures, rest, hbody, hdocumentation, hfutures, hrest⟩ := h
  rcases hdocumentation with rfl | ⟨d', rfl, -⟩
  · cases futures with
    | nil =>
      -- the documentation itself counts among the statements that are no such import
      rw [List.nil_append, List.nil_append] at hbody
      intro s hs
      have hmem : s ∈ d :: body := List.mem_cons_of_mem _ ((List.dropWhile_sublist _).subset hs)
      exact hrest s (hbody ▸ hmem)
    | cons f futures =>
      obtain ⟨rfl, -⟩ := List.cons.inj hbody
      have hfuture : isFutureImport d = true := hfutures d List.mem_cons_self
      rw [isFutureImport_of_isDocumentation hd] at hfuture
      cases hfuture
  · rw [List.singleton_append] at hbody
    obtain ⟨-, rfl⟩ := List.cons.inj hbody
    rwa [dropWhile_append_of_not hfutures hrest]

theorem FutureFirst.without_documentation (h : FutureFirst body)
    (hhead : body.head?.any isDocumentation = false) :
    ∀ s ∈ body.dropWhile isFutureImport, isFutureImport s = false := by
  obtain ⟨documentation, futures, rest, rfl, hdocumentation, hfutures, hrest⟩ := h
  rcases hdocumentation with rfl | ⟨d, rfl, hd⟩
  · rwa [List.nil_append, dropWhile_append_of_not hfutures hrest]
  · simp [hd] at hhead

theorem insertionIndex_split (body : Module) :
    ∃ opening rest, body = opening ++ rest ∧ insertionIndex body = opening.length ∧
      (body.head?.any isDocumentation = true → opening ≠ []) ∧
      (FutureFirst body → ∀ s ∈ rest, isFutureImport s = false) := by
  cases hhead : body.head?.any isDocumentation with
  | true =>
    obtain ⟨d, hd, hdoc⟩ := (Option.any_eq_true ..).mp hhead
    obtain ⟨tail, rfl⟩ : ∃ tail, body = d :: tail := List.head?_eq_some_iff.mp hd
    refine ⟨d :: tail.takeWhile isFutureImport, tail.dropWhile isFutureImport, ?_, ?_, nofun,
      fun h => h.after_documentation hdoc⟩
    · rw [List.cons_append, List.takeWhile_append_dropWhile]
    · simp [insertionIndex, hdoc, Nat.add_comm]
  | false =>
    refine ⟨body.takeWhile isFutureImport, body.dropWhile isFutureImport, ?_, ?_, nofun,
      fun h => h.without_documentation hhead⟩
    · rw [List.takeWhile_append_dropWhile]
    · simp [insertionIndex, hhead]

end Insertion

namespace CompilationUnit

inductive Step where
  | compile (root : Root)
  | assign (target : String) (root : Root)
  | ensureRuntime

namespace Step

def perform : Step → Action (Option Statement)
  | .compile root => do
    let _ ← CompilationUnit.compile root
    return none
  | .assign target root => do
    let s ← CompilationUnit.assign target root
    return some s
  | .ensureRuntime => do
    CompilationUnit.ensureRuntime
    return none

def answer (config : Config) : Step → Except Error (Option Statement)
  | .compile root => (generate config root).map fun _ => none
  | .assign target root => (generate config root).map fun e => some (.assign [.name target] e)
  | .ensureRuntime => .ok none

def succeeds (config : Config) (step : Step) : Bool := (step.answer config).isOk

def assignment? (config : Config) (step : Step) : Option Statement :=
  (step.answer config).toOption.join

end Step

def run : List Step → StateM CompilationUnit (List (Except Error (Option Statement)))
  | [] => pure []
  | step :: steps => do
    let outcome ← step.perform.run
    let outcomes ← run steps
    return outcome :: outcomes

def ready (u : CompilationUnit) : CompilationUnit := if u.hasRuntime then u else u.withRuntime

def append (u : CompilationUnit) (added : List Statement) : CompilationUnit :=
  { u with body := u.body ++ added }

@[simp] theorem append_nil (u : CompilationUnit) : u.append [] = u := by
  rw [append, List.append_nil]

@[simp] theorem append_append (u : CompilationUnit) (added more : List Statement) :
    (u.append added).append more = u.append (added ++ more) := by
  rw [append, append, append, List.append_assoc]

theorem hasRuntime_ready (u : CompilationUnit) : u.ready.hasRuntime = true := by
  unfold ready
  split
  · assumption
  · rfl

@[simp] theorem config_ready (u : CompilationUnit) : u.ready.config = u.config := by
  unfold ready
  split <;> rfl

theorem ready_append (u : CompilationUnit) (added : List Statement) :
    (u.ready.append added).ready = u.ready.append added := if_pos u.hasRuntime_ready

theorem bind_run {α β : Type} (x : Action α) (f : α → Action β) (u : CompilationUnit) :
    (x >>= f).run u = match x.run u with
      | (.ok a, u') => (f a).run u'
      | (.error e, u') => (.error e, u') := by
  rw [ExceptT.run_bind]
  simp only [bind, StateT.bind]
  rcases x.run u with ⟨_ | _, u'⟩ <;> rfl

theorem compile_run (u : CompilationUnit) (root : Root) :
    (compile root).run u = match generate u.config root with
      | .ok e => (.ok e, u.ready)
      | .error e => (.error e, u) := by
  have hlift : (liftM (generate u.config root) : Action Expr).run u = (generate u.config root, u) := rfl
  change ((liftM (generate u.config root) : Action Expr) >>= fun e => ensureRuntime >>= fun _ => pure e).run u = _
  rw [bind_run, hlift]
  cases generate u.config root <;> rfl

theorem assign_run (u : CompilationUnit) (target : String) (root : Root) :
    (assign target root).run u = match generate u.config root with
      | .ok e => (.ok (.assign [.name target] e), u.ready.append [.assign [.name target] e])
      | .error e => (.error e, u) := by
  rw [assign, bind_run, compile_run]
  cases generate u.config root <;> rfl

/-- A step that fails leaves the unit as it was. One that succeeds imports the helpers, if they are
missing, and adds its assignment. -/
theorem perform_run (u : CompilationUnit) (step : Step) :
    step.perform.run u = match step.answer u.config with
      | .ok added => (.ok added, u.ready.append added.toList)
      | .error e => (.error e, u) := by
  cases step with
  | compile root =>
    rw [Step.perform, bind_run, compile_run, Step.answer]
    cases generate u.config root with
    | error e => rfl
    | ok value => exact congrArg (Prod.mk _) (append_nil u.ready).symm
  | assign target root =>
    rw [Step.perform, bind_run, assign_run, Step.answer]
    cases generate u.config root <;> rfl
  | ensureRuntime => exact congrArg (Prod.mk _) (append_nil u.ready).symm

theorem perform_error {u : CompilationUnit} {step : Step} {e : Error}
    (h : (step.perform.run u).1 = .error e) : (step.perform.run u).2 = u := by
  rw [perform_run] at h ⊢
  cases hanswer : step.answer u.config with
  | error e => rfl
  | ok added => rw [hanswer] at h; cases h

theorem run_cons (step : Step) (steps : List Step) (u : CompilationUnit) :
    run (step :: steps) u =
      ((step.perform.run u).1 :: (run steps (step.perform.run u).2).1,
        (run steps (step.perform.run u).2).2) := rfl

theorem assignments_of_failed {config : Config} {steps : List Step}
    (h : steps.any (Step.succeeds config) = false) : steps.filterMap (Step.assignment? config) = [] := by
  rw [List.filterMap_eq_nil_iff]
  intro step hstep
  have hfailed : step.succeeds config = false := by
    simpa using List.any_eq_false.mp h step hstep
  rw [Step.succeeds] at hfailed
  rw [Step.assignment?]
  cases hanswer : step.answer config with
  | error e => rfl
  | ok added =>
    rw [hanswer] at hfailed
    cases hfailed

/-- The first step that succeeds imports the helpers; all that succeed add their assignments. -/
theorem run_eq (steps : List Step) (u : CompilationUnit) :
    run steps u = (steps.map (Step.answer u.config),
      if steps.any (Step.succeeds u.config) then
        u.ready.append (steps.filterMap (Step.assignment? u.config))
      else u) := by
  induction steps generalizing u with
  | nil => rfl
  | cons step steps ih =>
    rw [run_cons, perform_run]
    cases hanswer : step.answer u.config with
    | error e =>
      have hfailed : step.succeeds u.config = false := by rw [Step.succeeds, hanswer]; rfl
      have hnone : step.assignment? u.config = none := by rw [Step.assignment?, hanswer]; rfl
      simp only [ih, List.map_cons, hanswer, List.any_cons, hfailed, Bool.false_or,
        List.filterMap_cons, hnone]
    | ok added =>
      have hsucceeded : step.succeeds u.config = true := by rw [Step.succeeds, hanswer]; rfl
      have hadded : (step :: steps).filterMap (Step.assignment? u.config) =
          added.toList ++ steps.filterMap (Step.assignment? u.config) := by
        rw [List.filterMap_cons, Step.assignment?, hanswer]
        cases added <;> rfl
      have hconfig : (u.ready.append added.toList).config = u.config := u.config_ready
      simp only [ih, hconfig, List.map_cons, hanswer, List.any_cons, hsucceeded, Bool.true_or, if_true,
        hadded, ready_append, append_append]
      split
      · rfl
      next hrest =>
        rw [assignments_of_failed (eq_false_of_ne_true hrest), List.append_nil]

theorem answer_eq_some {config : Config} {step : Step} {s : Statement}
    (h : step.answer config = .ok (some s)) : ∃ target e, s = .assign [.name target] e := by
  cases step with
  | compile root =>
    rw [Step.answer] at h
    cases hvalue : generate config root with
    | error e => rw [hvalue] at h; cases h
    | ok e => rw [hvalue] at h; cases h
  | assign target root =>
    rw [Step.answer] at h
    cases hvalue : generate config root with
    | error e => rw [hvalue] at h; cases h
    | ok e => rw [hvalue] at h; cases h; exact ⟨target, e, rfl⟩
  | ensureRuntime => cases h

section Module

variable {config : Config} {body : Module} {steps : List Step}

theorem of_mem_assignments {s : Statement} (h : s ∈ steps.filterMap (Step.assignment? config)) :
    isRuntimeImport config s = false ∧ isFutureImport s = false := by
  obtain ⟨step, -, hs⟩ := List.mem_filterMap.mp h
  have hanswer : step.answer config = .ok (some s) := by
    rw [Step.assignment?] at hs
    cases hanswer : step.answer config with
    | error e => rw [hanswer] at hs; cases hs
    | ok added => rw [hanswer] at hs; exact congrArg Except.ok hs
  obtain ⟨target, e, rfl⟩ := answer_eq_some hanswer
  exact ⟨rfl, rfl⟩

theorem isRuntimeImport_runtimeImport (hjsx : config.jsxName ≠ "") (hhtml : config.htmlName ≠ "") :
    isRuntimeImport config (runtimeImport config) = true := by
  simp [isRuntimeImport, runtimeImport, Alias.localName, hjsx, hhtml]

def needsImport (config : Config) (body : Module) (steps : List Step) : Bool :=
  !body.any (isRuntimeImport config) && steps.any (Step.succeeds config)

def withImport (config : Config) (needed : Bool) (body : Module) : Module :=
  if needed then body.insertIdx (insertionIndex body) (runtimeImport config) else body

theorem run_ofModule (config : Config) (body : Module) (steps : List Step) :
    (run steps (ofModule config body)).2 =
      if steps.any (Step.succeeds config) then
        (ofModule config body).ready.append (steps.filterMap (Step.assignment? config))
      else ofModule config body := congrArg Prod.snd (run_eq steps (ofModule config body))

theorem run_config (config : Config) (body : Module) (steps : List Step) :
    (run steps (ofModule config body)).2.config = config := by
  rw [run_ofModule]
  split
  · exact config_ready _
  · rfl

theorem run_body (config : Config) (body : Module) (steps : List Step) :
    (run steps (ofModule config body)).2.body =
      withImport config (needsImport config body steps) body ++
        steps.filterMap (Step.assignment? config) := by
  rw [run_ofModule, needsImport]
  cases hany : steps.any (Step.succeeds config) with
  | false =>
    rw [assignments_of_failed hany, List.append_nil, Bool.and_false]
    rfl
  | true =>
    rw [Bool.and_true]
    cases himported : body.any (isRuntimeImport config) <;>
      simp [append, ready, ofModule, himported, withImport, withRuntime]

theorem run_hasRuntime (config : Config) (body : Module) (steps : List Step) :
    (run steps (ofModule config body)).2.hasRuntime =
      (body.any (isRuntimeImport config) || steps.any (Step.succeeds config)) := by
  rw [run_ofModule]
  cases steps.any (Step.succeeds config) with
  | false => exact (Bool.or_false _).symm
  | true => rw [Bool.or_true]; exact hasRuntime_ready _

theorem withImport_split (config : Config) (body : Module) :
    ∃ opening rest, body = opening ++ rest ∧ insertionIndex body = opening.length ∧
      withImport config true body = opening ++ runtimeImport config :: rest ∧
      (body.head?.any isDocumentation = true → opening ≠ []) ∧
      (FutureFirst body → ∀ s ∈ rest, isFutureImport s = false) := by
  obtain ⟨opening, rest, hbody, hindex, hdocumented, hfuture⟩ := insertionIndex_split body
  refine ⟨opening, rest, hbody, hindex, ?_, hdocumented, hfuture⟩
  rw [withImport, if_pos rfl, hindex, hbody, insertIdx_length_append]

theorem countP_withImport (hjsx : config.jsxName ≠ "") (hhtml : config.htmlName ≠ "") (needed : Bool)
    (body : Module) :
    (withImport config needed body).countP (isRuntimeImport config) =
      body.countP (isRuntimeImport config) + if needed then 1 else 0 := by
  cases needed with
  | false => rfl
  | true =>
    obtain ⟨opening, rest, hbody, -, himported, -⟩ := withImport_split config body
    rw [himported, hbody, List.countP_append, List.countP_append, List.countP_cons,
      isRuntimeImport_runtimeImport hjsx hhtml, Nat.add_assoc]

theorem any_withImport (hjsx : config.jsxName ≠ "") (hhtml : config.htmlName ≠ "") (needed : Bool)
    (body : Module) :
    (withImport config needed body).any (isRuntimeImport config) =
      (body.any (isRuntimeImport config) || needed) := by
  cases needed with
  | false => exact (Bool.or_false _).symm
  | true =>
    obtain ⟨opening, rest, -, -, himported, -⟩ := withImport_split config body
    rw [himported, List.any_append, List.any_cons, isRuntimeImport_runtimeImport hjsx hhtml,
      Bool.true_or, Bool.or_true, Bool.or_true]

theorem head?_withImport {d : Statement} (hhead : body.head? = some d) (hd : isDocumentation d = true)
    (needed : Bool) : (withImport config needed body).head? = some d := by
  cases needed with
  | false => exact hhead
  | true =>
    obtain ⟨opening, rest, rfl, -, himported, hdocumented, -⟩ := withImport_split config body
    have hopening : opening ≠ [] := hdocumented (by rw [hhead]; exact hd)
    obtain ⟨first, opening, rfl⟩ := List.exists_cons_of_ne_nil hopening
    rw [himported]
    exact hhead

theorem sublist_withImport (config : Config) (needed : Bool) (body : Module) :
    body.Sublist (withImport config needed body) := by
  cases needed with
  | false => exact List.Sublist.refl _
  | true => exact List.sublist_insertIdx ..

theorem drop_withImport (config : Config) (hfuture : FutureFirst body) :
    ∀ s ∈ (withImport config true body).drop (insertionIndex body + 1), isFutureImport s = false := by
  obtain ⟨opening, rest, -, hindex, himported, -, hrest⟩ := withImport_split config body
  have hdrop : (withImport config true body).drop (insertionIndex body + 1) = rest := by
    rw [himported, hindex, ← List.drop_drop, List.drop_left]
    rfl
  rw [hdrop]
  exact hrest hfuture

theorem ofModule_run (hjsx : config.jsxName ≠ "") (hhtml : config.htmlName ≠ "") (body : Module)
    (steps : List Step) :
    ofModule config (run steps (ofModule config body)).2.body = (run steps (ofModule config body)).2 := by
  have hassignments : (steps.filterMap (Step.assignment? config)).any (isRuntimeImport config) = false :=
    List.any_eq_false.mpr fun s hs => by rw [(of_mem_assignments hs).1]; exact Bool.false_ne_true
  have hfound : (run steps (ofModule config body)).2.body.any (isRuntimeImport config) =
      (run steps (ofModule config body)).2.hasRuntime := by
    rw [run_body, List.any_append, hassignments, Bool.or_false, run_hasRuntime,
      any_withImport hjsx hhtml, needsImport]
    cases body.any (isRuntimeImport config) <;> rfl
  have hconfig := run_config config body steps
  rw [ofModule, hfound]
  exact congrArg (fun c => CompilationUnit.mk c _ _) hconfig.symm

/-- The run of any steps on a module, whichever of them fail: what a failing step leaves, what the steps
answer, what becomes of the module, and what a unit knows that is built on it again. -/
theorem run_imports_once (hjsx : config.jsxName ≠ "") (hhtml : config.htmlName ≠ "") (body : Module)
    (steps : List Step) :
    let u := (run steps (ofModule config body)).2
    let needed := needsImport config body steps
    let assignments := steps.filterMap (Step.assignment? config)
    (∀ (v : CompilationUnit) (step : Step) (e : Error),
      (step.perform.run v).1 = .error e → (step.perform.run v).2 = v) ∧
    (run steps (ofModule config body)).1 = steps.map (Step.answer config) ∧
    u.body = (if needed then body.insertIdx (insertionIndex body) (runtimeImport config) else body) ++
      assignments ∧
    u.body.countP (isRuntimeImport config) =
      body.countP (isRuntimeImport config) + (if needed then 1 else 0) ∧
    body.Sublist u.body ∧
    (∀ d, body.head? = some d → isDocumentation d = true → u.body.head? = some d) ∧
    (FutureFirst body → needed = true →
      ∀ s ∈ u.body.drop (insertionIndex body + 1), isFutureImport s = false) ∧
    (u.hasRuntime = true ↔ (∃ s ∈ body, isRuntimeImport config s = true) ∨
      ∃ step ∈ steps, step.succeeds config = true) ∧
    ofModule config u.body = u ∧
    ∀ more, u.hasRuntime = true → (run more (ofModule config u.body)).2.body =
      u.body ++ more.filterMap (Step.assignment? config) := by
  intro u needed assignments
  have hbody : u.body = withImport config needed body ++ assignments := run_body config body steps
  have hunit : ofModule config u.body = u := ofModule_run hjsx hhtml body steps
  refine ⟨fun v step e he => perform_error he, ?_, hbody, ?_, ?_, ?_, ?_, ?_, hunit, ?_⟩
  · rw [run_eq]
    rfl
  · have hassignments : assignments.countP (isRuntimeImport config) = 0 :=
      List.countP_eq_zero.mpr fun s hs => by simp [(of_mem_assignments hs).1]
    rw [hbody, List.countP_append, hassignments, countP_withImport hjsx hhtml]
    rfl
  · rw [hbody]
    exact (sublist_withImport config needed body).trans (List.sublist_append_left _ _)
  · intro d hhead hd
    rw [hbody, List.head?_append, head?_withImport hhead hd]
    rfl
  · intro hfuture hneeded s hs
    rw [hbody, hneeded, List.drop_append] at hs
    rcases List.mem_append.mp hs with hs | hs
    · exact drop_withImport config hfuture s hs
    · exact (of_mem_assignments (List.mem_of_mem_drop hs)).2
  · rw [run_hasRuntime, Bool.or_eq_true, List.any_eq_true, List.any_eq_true]
  · intro more hruntime
    have hfound : u.body.any (isRuntimeImport config) = true :=
      (congrArg CompilationUnit.hasRuntime hunit).trans hruntime
    rw [run_body, needsImport, hfound]
    rfl

theorem run_imports_once_documented :
    let body : Module := [.expression (.ofText "Views."),
      .importFrom (some "__future__") [⟨"annotations", none⟩] 0, .importNames [⟨"os", none⟩]]
    let steps : List Step := [.compile (.node (.element 0 "a:b" [] [] .origin)),
      .assign "view" (.node (.text 0 "a" .origin)), .compile (.node (.foreign 0 .null)), .ensureRuntime]
    Config.standard.jsxName ≠ "" ∧ Config.standard.htmlName ≠ "" ∧
      (run steps (ofModule .standard body)).2.body =
        [.expression (.ofText "Views."), .importFrom (some "__future__") [⟨"annotations", none⟩] 0,
          runtimeImport .standard, .importNames [⟨"os", none⟩],
          .assign [.name "view"] (.call (.name "_tagwire_html")
            [.tuple [.ofText "a"], .tuple [], .ofText ""] [])] := by
  intro body steps
  have hjsx : Config.standard.jsxName ≠ "" := by decide
  have hhtml : Config.standard.htmlName ≠ "" := by decide
  refine ⟨hjsx, hhtml, ?_⟩
  rw [(run_imports_once hjsx hhtml body steps).2.2.1]
  rfl

end Module

end CompilationUnit

end SlotMarkup
