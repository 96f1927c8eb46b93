import SlotMarkup.Proofs.UnitRuns

/-! How a unit finds the helpers among the imports of its module, and what their names stand for then.
Only the names that an import binds are compared, and neither the members behind them nor the dots before
the module. -/

namespace SlotMarkup

open SlotMarkup.Host (Alias Expr Module Statement)

structure Origin where
  module : Option String
  level : Nat
  member : String
deriving DecidableEq, Repr

def importedFrom? (name : String) : Statement → Option Origin
  | .importFrom module names level =>
    (names.reverse.find? fun a => a.localName == name).map fun a => ⟨module, level, a.name⟩
  | _ => none

def Config.helper (config : Config) (member : String) : Origin := ⟨some config.runtimeModule, 0, member⟩

def ImportsHelpers (config : Config) (s : Statement) : Prop :=
  importedFrom? config.jsxName s = some (config.helper "jsx") ∧
    importedFrom? config.htmlName s = some (config.helper "html")

instance (config : Config) (s : Statement) : Decidable (ImportsHelpers config s) :=
  inferInstanceAs (Decidable (_ ∧ _))

/-- An import that binds both helper names from a module called like the one with the helpers, but not to
the helpers: the module is sought elsewhere, or a name stands for another member. -/
def PassesForHelpers (config : Config) (s : Statement) : Prop :=
  ∃ level jsx html, importedFrom? config.jsxName s = some ⟨some config.runtimeModule, level, jsx⟩ ∧
    importedFrom? config.htmlName s = some ⟨some config.runtimeModule, level, html⟩ ∧
    (level ≠ 0 ∨ jsx ≠ "jsx" ∨ html ≠ "html")

abbrev Meanings (Value : Type) := String → Option Value

/-- How statements change what names stand for. Imports bind names to what they import; about other
statements nothing is known. -/
structure Execution where
  Value : Type
  imported : Origin → Value
  step : Meanings Value → Statement → Meanings Value
  step_import : ∀ meanings s name origin, importedFrom? name s = some origin →
    step meanings s name = some (imported origin)

namespace Execution

def run (x : Execution) (meanings : Meanings x.Value) (body : Module) : Meanings x.Value := body.foldl x.step meanings

def Keeps (x : Execution) (name : String) (s : Statement) : Prop := ∀ meanings, x.step meanings s name = meanings name

theorem run_of_keeps {x : Execution} {name : String} {body : Module} (h : ∀ s ∈ body, x.Keeps name s)
    (meanings : Meanings x.Value) : x.run meanings body name = meanings name := by
  induction body generalizing meanings with
  | nil => rfl
  | cons s body ih =>
    rw [List.forall_mem_cons] at h
    exact (ih h.2 (x.step meanings s)).trans (h.1 meanings)

theorem run_append_import {x : Execution} {name : String} {front back : Module} {s : Statement}
    {origin : Origin} (hs : importedFrom? name s = some origin) (hback : ∀ t ∈ back, x.Keeps name t)
    (meanings : Meanings x.Value) : x.run meanings (front ++ s :: back) name = some (x.imported origin) := by
  have hsplit : x.run meanings (front ++ s :: back) = x.run (x.step (x.run meanings front) s) back := by
    rw [run, List.foldl_append]
    rfl
  rw [hsplit, run_of_keeps hback, x.step_import _ _ _ _ hs]

def importsOnly : Execution where
  Value := Origin
  imported := id
  step meanings s name := (importedFrom? name s).or (meanings name)
  step_import meanings s name origin h := by rw [h]; rfl

end Execution

section Import

variable {config : Config} {s : Statement} {module : Option String} {names : List Alias} {level : Nat}
  {name : String}

theorem contains_localName_iff :
    (names.map Alias.localName).contains name = true ↔
      ∃ member, importedFrom? name (.importFrom module names level) = some ⟨module, level, member⟩ := by
  rw [List.contains_iff_mem, List.mem_map]
  constructor
  · rintro ⟨a, ha, hname⟩
    have hsome : (names.reverse.find? fun a => a.localName == name).isSome = true :=
      List.find?_isSome.mpr ⟨a, List.mem_reverse.mpr ha, beq_iff_eq.mpr hname⟩
    obtain ⟨b, hb⟩ := Option.isSome_iff_exists.mp hsome
    exact ⟨b.name, by rw [importedFrom?, hb]; rfl⟩
  · rintro ⟨member, hmember⟩
    obtain ⟨a, ha, -⟩ := Option.map_eq_some_iff.mp hmember
    have hname := List.find?_some ha
    exact ⟨a, List.mem_reverse.mp (List.mem_of_find?_eq_some ha), eq_of_beq hname⟩

theorem isRuntimeImport_iff_binds :
    isRuntimeImport config s = true ↔ ∃ level jsx html,
      importedFrom? config.jsxName s = some ⟨some config.runtimeModule, level, jsx⟩ ∧
        importedFrom? config.htmlName s = some ⟨some config.runtimeModule, level, html⟩ := by
  cases s with
  | importFrom module names level =>
    rw [isRuntimeImport, Bool.and_eq_true, Bool.and_eq_true, beq_iff_eq]
    constructor
    · rintro ⟨⟨rfl, hjsx⟩, hhtml⟩
      obtain ⟨jsx, hjsx⟩ := contains_localName_iff.mp hjsx
      obtain ⟨html, hhtml⟩ := contains_localName_iff.mp hhtml
      exact ⟨level, jsx, html, hjsx, hhtml⟩
    · rintro ⟨level', jsx, html, hjsx, hhtml⟩
      obtain ⟨a, -, horigin⟩ := Option.map_eq_some_iff.mp hjsx
      cases horigin
      exact ⟨⟨rfl, contains_localName_iff.mpr ⟨_, hjsx⟩⟩, contains_localName_iff.mpr ⟨_, hhtml⟩⟩
  | _ => simp [isRuntimeImport, importedFrom?]

theorem isRuntimeImport_iff :
    isRuntimeImport config s = true ↔ ImportsHelpers config s ∨ PassesForHelpers config s := by
  rw [isRuntimeImport_iff_binds]
  constructor
  · rintro ⟨level, jsx, html, hjsx, hhtml⟩
    by_cases hright : level = 0 ∧ jsx = "jsx" ∧ html = "html"
    · obtain ⟨rfl, rfl, rfl⟩ := hright
      exact .inl ⟨hjsx, hhtml⟩
    · refine .inr ⟨level, jsx, html, hjsx, hhtml, ?_⟩
      rwa [not_and_or, not_and_or] at hright
  · rintro (⟨hjsx, hhtml⟩ | ⟨level, jsx, html, hjsx, hhtml, -⟩)
    · exact ⟨0, "jsx", "html", hjsx, hhtml⟩
    · exact ⟨level, jsx, html, hjsx, hhtml⟩

end Import

namespace CompilationUnit

theorem hasRuntime_ofModule (config : Config) (body : Module) :
    (ofModule config body).hasRuntime = true ↔
      ∃ s ∈ body, ImportsHelpers config s ∨ PassesForHelpers config s := by
  rw [ofModule, List.any_eq_true]
  exact exists_congr fun s => and_congr_right fun _ => isRuntimeImport_iff

theorem compile_body {u v : CompilationUnit} {root : Root} {e : Expr} (hruntime : u.hasRuntime = true)
    (h : (compile root).run u = (.ok e, v)) : v.body = u.body := by
  rw [compile_run] at h
  split at h
  · obtain ⟨-, rfl⟩ := Prod.mk.inj h
    rw [ready, if_pos hruntime]
  · cases h

/-- A unit takes the helpers for imported just if some import binds them, or passes for one that does. So
where none passes for one, the unit is right; and where the helpers are imported before the root is
compiled, the module stays as it is and the helper names stand for the helpers, unless something after
their import changes that. -/
theorem hasRuntime_recognises (config : Config) (body : Module) :
    ((ofModule config body).hasRuntime = true ↔
      ∃ s ∈ body, ImportsHelpers config s ∨ PassesForHelpers config s) ∧
    ((∀ s ∈ body, ¬ PassesForHelpers config s) →
      ((ofModule config body).hasRuntime = true ↔ ∃ s ∈ body, ImportsHelpers config s)) ∧
    ((ofModule config body).hasRuntime = true → ∀ root e u,
      (compile root).run (ofModule config body) = (.ok e, u) → u.body = body ∧
        ∀ front s back, body = front ++ s :: back → ImportsHelpers config s →
          ∀ (x : Execution) (meanings : Meanings x.Value),
            (∀ t ∈ back, x.Keeps config.jsxName t ∧ x.Keeps config.htmlName t) →
              x.run meanings u.body config.jsxName = some (x.imported (config.helper "jsx")) ∧
              x.run meanings u.body config.htmlName = some (x.imported (config.helper "html"))) := by
  have hfound := hasRuntime_ofModule config body
  refine ⟨hfound, fun hnone => ?_, fun hruntime root e u hcompile => ?_⟩
  · rw [hfound]
    refine exists_congr fun s => and_congr_right fun hs => ?_
    rw [or_iff_left (hnone s hs)]
  · have hbody : u.body = body := compile_body hruntime hcompile
    refine ⟨hbody, ?_⟩
    rintro front s back hsplit ⟨hjsx, hhtml⟩ x meanings hback
    rw [hbody, hsplit]
    exact ⟨Execution.run_append_import hjsx (fun t ht => (hback t ht).1) meanings,
      Execution.run_append_import hhtml (fun t ht => (hback t ht).2) meanings⟩

theorem hasRuntime_recognises_renamed :
    let body : Module := [.importFrom (some "views") [⟨"jsx", some "_tagwire_jsx"⟩] 0,
      .importFrom (some "tagwire.runtime.jsx_runtime") [⟨"html", some "_tagwire_jsx"⟩,
        ⟨"jsx", some "_tagwire_jsx"⟩, ⟨"html", some "_tagwire_html"⟩] 0, .pass]
    let x := Execution.importsOnly
    (ofModule .standard body).hasRuntime = true ∧
      ∃ e u, (compile (.node (.text 0 "a" .origin))).run (ofModule .standard body) = (.ok e, u) ∧
        x.run (fun _ => none) u.body "_tagwire_jsx" = some (Config.standard.helper "jsx") ∧
        x.run (fun _ => none) u.body "_tagwire_html" = some (Config.standard.helper "html") := by
  intro body x
  have hruntime : (ofModule .standard body).hasRuntime = true := by decide
  have hcompile : (compile (.node (.text 0 "a" .origin))).run (ofModule .standard body) =
      (.ok (.call (.name "_tagwire_html") [.tuple [.ofText "a"], .tuple [], .ofText ""] []),
        ofModule .standard body) := rfl
  obtain ⟨-, hrefers⟩ := (hasRuntime_recognises .standard body).2.2 hruntime _ _ _ hcompile
  obtain ⟨hjsx, hhtml⟩ := hrefers [.importFrom (some "views") [⟨"jsx", some "_tagwire_jsx"⟩] 0] _ [.pass]
    rfl (by decide) x (fun _ => none) (List.forall_mem_singleton.mpr ⟨fun _ => rfl, fun _ => rfl⟩)
  exact ⟨hruntime, _, _, hcompile, hjsx, hhtml⟩

/-- The two helpers under each other's names are taken for the helpers, and so are two members of a module
inside the own package. -/
theorem other_members_are_recognised :
    let swapped : Module := [.importFrom (some "tagwire.runtime.jsx_runtime")
      [⟨"html", some "_tagwire_jsx"⟩, ⟨"jsx", some "_tagwire_html"⟩] 0]
    let relative : Module := [.importFrom (some "tagwire.runtime.jsx_runtime")
      [⟨"jsx", some "_tagwire_jsx"⟩, ⟨"html", some "_tagwire_html"⟩] 1]
    ((ofModule .standard swapped).hasRuntime = true ∧ ¬ ∃ s ∈ swapped, ImportsHelpers .standard s) ∧
      (ofModule .standard relative).hasRuntime = true ∧ ¬ ∃ s ∈ relative, ImportsHelpers .standard s := by
  decide

end CompilationUnit

end SlotMarkup
