import SlotMarkup.Proofs.GeneratedSource
import SlotMarkup.Proofs.Loading
import SlotMarkup.Proofs.LongNumerals
import SlotMarkup.Proofs.TreeGrammar
import SlotMarkup.Proofs.UnitRuns
import SlotMarkup.Main

/-! How the command that compiles a file ends, whatever the file holds: with the source text of the
compiled tree, with a compile error, or in one of four ways that are not reported as such, provided that
the stack has room for each stage on the way. -/

namespace SlotMarkup

section Loaded

open SlotMarkup.Document (Value Reader.document normalizeBreaks)

variable {path : String} {cs : List Char} {n : Node}

theorem Load.treeOfText_eq_ok (h : Load.treeOfText path cs = .ok n) : ∃ v, Load.treeOf v = .ok n := by
  obtain ⟨v, -, hv⟩ := bind_eq_ok.mp h
  exact ⟨v, hv⟩

theorem Load.treeOfText_error {e : Error} (h : Load.treeOfText path cs = .error e)
    (hpaired : Reader.document (normalizeBreaks cs) ≠ .error .loneSurrogate) :
    e.isCompileError = true ∨ ∃ digits, e = .value (.numeralTooLong digits) ∧
      Reader.document (normalizeBreaks cs) = .error (.numeralTooLong digits) := by
  unfold Load.treeOfText Load.documentOfText at h
  dsimp only at h
  cases hread : Reader.document (normalizeBreaks cs) with
  | ok v =>
    rw [hread] at h
    obtain ⟨first, _, _, rfl⟩ := (Load.treeOf_loads v).of_error h
    exact .inl rfl
  | error problem =>
    rw [hread] at h
    cases problem with
    | unmet what left =>
      cases h
      exact .inl rfl
    | numeralTooLong digits =>
      cases h
      exact .inr ⟨digits, rfl, rfl⟩
    | loneSurrogate => exact absurd hread hpaired

theorem Load.generate_answers (h : Load.treeOfText path cs = .ok n) (config : Config) :
    Answers config ((Root.node n).demands 0) (generate config (.node n)) := by
  obtain ⟨v, hv⟩ := Load.treeOfText_eq_ok h
  exact (Load.compile_answers hv config 0).bind_ok fun t ht => compile_toExpr ht

theorem Load.generate_error {config : Config} {e : Error} (h : Load.treeOfText path cs = .ok n)
    (he : generate config (.node n) = .error e) :
    e.isCompileError = true ∨ e = .value .nullCharacter ∧ ∃ front s place back,
      (Root.node n).demands 0 = front ++ .expression (.source s) place :: back ∧
        (∀ d ∈ front, d.Met config) ∧ Char.ofNat 0 ∈ s.toList := by
  have hanswers := Load.generate_answers h config
  rw [he] at hanswers
  obtain ⟨front, d, back, hsplit, hfront, hfault⟩ := hanswers.split_of_error
  have hmem : d ∈ (Root.node n).demands 0 := hsplit ▸ List.mem_append_right _ List.mem_cons_self
  obtain ⟨v, hv⟩ := Load.treeOfText_eq_ok h
  rcases (Load.demands_plain hv 0 d hmem).fault_cases hfault with
    ⟨_, rfl⟩ | ⟨_, _, rfl⟩ | ⟨_, _, rfl⟩ | ⟨rfl, s, place, rfl, hnull⟩
  · exact .inl rfl
  · exact .inl rfl
  · exact .inl rfl
  · exact .inr ⟨rfl, front, s, place, back, hsplit, hfront, hnull⟩

end Loaded

def Demand.source? : Demand → Option String
  | .expression (.source s) _ => some s
  | _ => none

end SlotMarkup

namespace SlotMarkup.Command

open SlotMarkup.Document (Reader.document Reader.maxDigits HoldsDigits normalizeBreaks)

/-- No string of the document in a file holds half of a surrogate pair. -/
def Paired (bytes : ByteArray) : Prop :=
  ∀ text : String, text.toUTF8 = bytes →
    Reader.document (normalizeBreaks text.toList) ≠ .error .loneSurrogate

/-- What is compiled: the tree in the file at a path, and the values of the switches. The source text
goes to the screen. -/
structure Job where
  path : String
  target : String
  runtimeModule : String
  noImport : Bool

namespace Job

variable (j : Job)

def request : Request := .compile j.path none j.target j.runtimeModule j.noImport

def file : String := normalPath j.path

def config (host : Host.Interpreter) : Config :=
  { Config.standard with runtimeModule := j.runtimeModule, host := host }

def arguments : List String :=
  ["compile", "--target" ++ "=" ++ j.target, "--runtime-module" ++ "=" ++ j.runtimeModule] ++
    ((if j.noImport then ["--no-import"] else []) ++ ["--", j.path])

def importLine : String :=
  "from " ++ j.runtimeModule ++ " import jsx as _tagwire_jsx, html as _tagwire_html\n"

def body (host : Host.Interpreter) (e : Host.Expr) : Host.Module :=
  (if j.noImport then [] else [runtimeImport (j.config host)]) ++ [.assign [.name j.target] e]

def sourceText (shown : String) : String :=
  (if j.noImport then "" else j.importLine) ++ j.target ++ " = " ++ shown ++ "\n"

end Job

section Arguments

variable {switches : List Switch}

theorem switch_value {s : Switch} (hfind : (switches.find? fun t => t.long == s.long) = some s)
    (hname : '=' ∉ s.long.toList) (htakes : s.takesValue = true) (v : String) (args : List String) :
    switch switches (s.long ++ "=" ++ v) args = some ([(s.key, v)], args) := by
  have hchars : (s.long ++ "=" ++ v).toList = s.long.toList ++ '=' :: v.toList := by simp
  have hall : ∀ c ∈ s.long.toList, (c != '=') = true := by
    intro c hc
    exact bne_iff_ne.mpr fun h => hname (h ▸ hc)
  have htake : (s.long.toList ++ '=' :: v.toList).takeWhile (· != '=') = s.long.toList := by
    rw [List.takeWhile_append_of_pos hall]
    simp
  have hdrop : (s.long.toList ++ '=' :: v.toList).dropWhile (· != '=') = '=' :: v.toList := by
    rw [List.dropWhile_append_of_pos hall]
    simp
  simp only [switch, hchars, htake, hdrop, String.ofList_toList, hfind, longName, htakes]

theorem readFrom_switch {arg : String} {c : Char} {cs : List Char} {args rest : List String}
    {given : Given} (harg : arg.toList = '-' :: '-' :: c :: cs) (mixed : Bool)
    (hswitch : switch switches arg args = some (given, rest)) (fuel : Nat) :
    readFrom switches mixed (fuel + 1) (arg :: args) =
      (readFrom switches mixed fuel rest).map fun (more, others) => (given ++ more, others) := by
  have hne (short : String) (hshort : short.toList.length < 3) : arg ≠ short := by
    rintro rfl
    rw [harg] at hshort
    exact absurd hshort (Nat.not_lt.mpr (Nat.le_add_left 3 cs.length))
  have hstart : arg.startsWith "-" = true := by
    rw [String.startsWith_string_iff, harg]
    exact ⟨_, rfl⟩
  have hdash : (arg != "-") = true := bne_iff_ne.mpr (hne "-" (by decide))
  have hdashes : ¬ (arg == "--") = true := fun h => hne "--" (by decide) (beq_iff_eq.mp h)
  rw [readFrom, if_neg hdashes, if_pos (Bool.and_eq_true_iff.mpr ⟨hstart, hdash⟩), hswitch]
  change (readFrom switches mixed fuel rest >>= fun r => some (given ++ r.1, r.2)) = _
  cases readFrom switches mixed fuel rest <;> rfl

theorem readFrom_value {s : Switch} {c : Char} {cs : List Char}
    (hlong : s.long.toList = '-' :: '-' :: c :: cs) (mixed : Bool)
    (hfind : (switches.find? fun t => t.long == s.long) = some s) (hname : '=' ∉ s.long.toList)
    (htakes : s.takesValue = true) (v : String) (args : List String) (fuel : Nat) :
    readFrom switches mixed (fuel + 1) ((s.long ++ "=" ++ v) :: args) =
      (readFrom switches mixed fuel args).map fun (more, others) => ((s.key, v) :: more, others) := by
  have harg : (s.long ++ "=" ++ v).toList = '-' :: '-' :: c :: (cs ++ '=' :: v.toList) := by
    simp [hlong]
  exact readFrom_switch harg mixed (switch_value hfind hname htakes v args) fuel

theorem generalRequest_compile (args : List String) :
    generalRequest ("compile" :: args) = some (none, "compile" :: args) := by
  simp [generalRequest, read, readFrom, Given.last?]

theorem readFrom_target (target : String) (args : List String) (fuel : Nat) :
    readFrom compileSwitches true (fuel + 1) (("--target" ++ "=" ++ target) :: args) =
      (readFrom compileSwitches true fuel args).map fun (more, others) =>
        (("target", target) :: more, others) :=
  readFrom_value (s := ⟨"target", "--target", none, true⟩) rfl true rfl (by decide) rfl ..

theorem readFrom_module (module : String) (args : List String) (fuel : Nat) :
    readFrom compileSwitches true (fuel + 1) (("--runtime-module" ++ "=" ++ module) :: args) =
      (readFrom compileSwitches true fuel args).map fun (more, others) =>
        (("runtime-module", module) :: more, others) :=
  readFrom_value (s := ⟨"runtime-module", "--runtime-module", none, true⟩) rfl true rfl (by decide)
    rfl ..

theorem readFrom_noImport (args : List String) (fuel : Nat) :
    readFrom compileSwitches true (fuel + 1) ("--no-import" :: args) =
      (readFrom compileSwitches true fuel args).map fun (more, others) =>
        (("no-import", "") :: more, others) := by
  have hswitch : switch compileSwitches "--no-import" args = some ([("no-import", "")], args) := rfl
  exact readFrom_switch rfl true hswitch fuel

theorem Job.read_arguments (j : Job) :
    read compileSwitches true j.arguments.tail =
      some (("target", j.target) :: ("runtime-module", j.runtimeModule) ::
        (if j.noImport then [("no-import", "")] else []), [j.path]) := by
  have hswitches (rest : List String) (fuel : Nat) :
      readFrom compileSwitches true (fuel + 2) (("--target" ++ "=" ++ j.target) ::
          ("--runtime-module" ++ "=" ++ j.runtimeModule) :: rest) =
        (readFrom compileSwitches true fuel rest).map fun (more, others) =>
          (("target", j.target) :: ("runtime-module", j.runtimeModule) :: more, others) := by
    rw [readFrom_target, readFrom_module, Option.map_map]
    rfl
  unfold read arguments
  cases j.noImport with
  | true =>
    refine (hswitches ["--no-import", "--", j.path] 3).trans ?_
    rw [readFrom_noImport]
    rfl
  | false => exact hswitches ["--", j.path] 2

theorem Job.ofArguments_arguments (j : Job) : Request.ofArguments? j.arguments = some j.request := by
  have hgeneral : generalRequest j.arguments = some (none, j.arguments) := generalRequest_compile _
  have hcompile : Request.ofArguments? j.arguments = compileRequest j.arguments.tail := by
    rw [Request.ofArguments?, hgeneral]
    rfl
  rw [hcompile, compileRequest, j.read_arguments]
  cases hnoImport : j.noImport <;> simp [request, hnoImport, Given.last?]

end Arguments

namespace Machine

variable {m : Machine} {α β : Type}

theorem within_bind (stage : Stage) (x : Except Error α) (f : α → Except Error β) :
    (m.within stage x >>= f) = m.within stage (x >>= f) := by
  unfold within
  split <;> rfl

theorem foldr_within_of_fits {stages : List Stage} (h : ∀ stage ∈ stages, m.frames stage ≤ m.limit)
    (result : Except Error α) : stages.foldr m.within result = result := by
  induction stages with
  | nil => rfl
  | cons stage stages ih =>
    obtain ⟨hstage, hstages⟩ := List.forall_mem_cons.mp h
    rw [List.foldr_cons, ih hstages, within, if_neg (Nat.not_lt.mpr hstage)]

theorem foldr_within_of_deep {stages : List Stage} (h : ∃ stage ∈ stages, m.limit < m.frames stage)
    (result : Except Error α) : stages.foldr m.within result = .error .exhausted := by
  induction stages with
  | nil => simp at h
  | cons stage stages ih =>
    rw [List.foldr_cons, within]
    split
    · rfl
    next hroom => exact ih (by simpa [hroom] using h)

end Machine

namespace Job

variable {j : Job} {bytes : ByteArray} {m : Machine} {host : Host.Interpreter}

section Stages

def unit (j : Job) (host : Host.Interpreter) : CompilationUnit :=
  if j.noImport then { CompilationUnit.ofModule (j.config host) [] with hasRuntime := true }
  else CompilationUnit.ofModule (j.config host) []

theorem config_unit (j : Job) (host : Host.Interpreter) : (j.unit host).config = j.config host := by
  unfold unit
  split <;> rfl

theorem body_ready_unit (j : Job) (host : Host.Interpreter) (e : Host.Expr) :
    (j.unit host).ready.body ++ [.assign [.name j.target] e] = j.body host e := by
  unfold unit body
  split <;> rfl

theorem print_runtimeImport (j : Job) (host : Host.Interpreter) :
    ∃ line, (runtimeImport (j.config host)).print = .ok line ∧ line ++ "\n" = j.importLine := by
  refine ⟨_, rfl, ?_⟩
  change "from " ++ "" ++ j.runtimeModule ++ " import " ++
    "jsx as _tagwire_jsx, html as _tagwire_html" ++ "\n" = j.importLine
  rw [String.append_empty, importLine]
  simp only [String.append_assoc]
  rfl

theorem print_assign (target : String) (e : Host.Expr) :
    (Host.Statement.assign [.name target] e).print = e.print.map fun shown => target ++ " = " ++ shown := by
  have htarget : Host.printTargets [.name target] = .ok (target ++ " = ") := by
    change Except.ok (target ++ " = " ++ "") = _
    rw [String.append_empty]
  rw [Host.Statement.print, htarget, Host.Expr.print]
  cases e.printAt false .test <;> rfl

theorem print_body (j : Job) (host : Host.Interpreter) (e : Host.Expr) :
    (j.body host e).print =
      e.print.map fun shown =>
        (if j.noImport then "" else j.importLine) ++ j.target ++ " = " ++ shown := by
  have hassign := print_assign j.target e
  obtain ⟨line, himport, hline⟩ := j.print_runtimeImport host
  rw [body, ← hline]
  cases j.noImport with
  | true =>
    change (Host.Module.printLines [.assign [.name j.target] e] >>=
      fun all => .ok ("\n".intercalate all)) = _
    rw [Host.Module.printLines, hassign]
    cases e.print with
    | error problem => rfl
    | ok shown => exact congrArg Except.ok (String.empty_append ..).symm
  | false =>
    change (Host.Module.printLines [runtimeImport (j.config host), .assign [.name j.target] e] >>=
      fun all => .ok ("\n".intercalate all)) = _
    rw [Host.Module.printLines, Host.Module.printLines, hassign, himport]
    cases e.print with
    | error problem => rfl
    | ok shown =>
      change Except.ok (line ++ "\n" ++ (j.target ++ " = " ++ shown)) =
        Except.ok (line ++ "\n" ++ j.target ++ " = " ++ shown)
      simp only [String.append_assoc]

theorem source_assigned (j : Job) (host : Host.Interpreter) (e : Host.Expr) :
    ((j.unit host).ready.append [.assign [.name j.target] e]).source.map (· ++ "\n") =
      (exprSource e).map j.sourceText := by
  rw [CompilationUnit.source, CompilationUnit.append, body_ready_unit, print_body, exprSource]
  cases e.print <;> rfl

def result (j : Job) (host : Host.Interpreter) (text : String) : Except Error String := do
  let n ← Load.treeOfText j.file text.toList
  let e ← generate (j.config host) (.node n)
  let shown ← exprSource e
  .ok (j.sourceText shown)

/-- The stages that a compilation comes to, each of them if the one before hands something on. -/
def stages (j : Job) (host : Host.Interpreter) (text : String) : List Stage :=
  .reading text.toList ::
    match Load.documentOfText j.file text.toList with
    | .error _ => []
    | .ok v =>
      .loading v ::
        match Load.treeOf v with
        | .error _ => []
        | .ok n =>
          .compiling (j.config host) (.node n) ::
            match generate (j.config host) (.node n) with
            | .error _ => []
            | .ok e => [.printing (j.body host e)]

theorem compileSource_eq (j : Job) (m : Machine) (text : String) :
    compileSource m j.file (j.config m.host) j.target j.noImport text =
      (j.stages m.host text).foldr m.within (j.result m.host text) := by
  unfold compileSource stages result Load.treeOfText
  rw [Machine.within_bind]
  -- What a stage hands on is the same on both sides, and a stage that fails is the last one.
  cases Load.documentOfText j.file text.toList with
  | error e => rfl
  | ok v =>
    dsimp only
    refine congrArg (m.within (.reading text.toList)) ?_
    rw [ok_bind, ok_bind, Machine.within_bind]
    cases Load.treeOf v with
    | error e => rfl
    | ok n =>
      dsimp only
      refine congrArg (m.within (.loading v)) ?_
      have hrun := CompilationUnit.assign_run (j.unit m.host) j.target (.node n)
      rw [config_unit] at hrun
      -- Both ways to set up the unit give `j.unit`.
      change (m.within (.compiling (j.config m.host) (.node n))
        ((CompilationUnit.assign j.target (.node n)).run (j.unit m.host)).1 >>= fun _ =>
          m.within (.printing ((CompilationUnit.assign j.target (.node n)).run (j.unit m.host)).2.body)
            ((CompilationUnit.assign j.target (.node n)).run (j.unit m.host)).2.source >>= fun source =>
              .ok (source ++ "\n")) = _
      rw [hrun, Machine.within_bind, ok_bind]
      cases generate (j.config m.host) (.node n) with
      | error e => rfl
      | ok e =>
        dsimp only
        refine congrArg (m.within (.compiling (j.config m.host) (.node n))) ?_
        rw [ok_bind, Machine.within_bind, CompilationUnit.append, body_ready_unit]
        refine congrArg (m.within (.printing (j.body m.host e))) ?_
        have hsource := source_assigned j m.host e
        rw [CompilationUnit.append, body_ready_unit] at hsource
        exact hsource

end Stages

/-- The ends that the command is meant to have: the source text of the compiled tree, or the name of
the file with the words of a compile error. -/
inductive Reports (host : Host.Interpreter) (j : Job) : ByteArray → Outcome → Prop
  | compiled {text : String} {n : Node} {e : Host.Expr} {shown : String}
      (tree : Load.treeOfText j.file text.toList = .ok n)
      (generated : generate (j.config host) (.node n) = .ok e) (printed : e.print = .ok shown) :
      Reports host j text.toUTF8 (.done (j.sourceText shown) none)
  | noTree {text : String} {e : Error} (tree : Load.treeOfText j.file text.toList = .error e)
      (compileError : e.isCompileError = true) :
      Reports host j text.toUTF8 (.refused (j.file ++ ": " ++ e.message))
  | refusedTree {text : String} {n : Node} {e : Error}
      (tree : Load.treeOfText j.file text.toList = .ok n)
      (generated : generate (j.config host) (.node n) = .error e)
      (compileError : e.isCompileError = true) :
      Reports host j text.toUTF8 (.refused (j.file ++ ": " ++ e.message))

/-- The ends that are no report: bytes that are no text, a number that is too long, a source with a
null character before which nothing is wrong, an expression that cannot be printed. -/
inductive Escapes (host : Host.Interpreter) (j : Job) : ByteArray → Outcome → Prop
  | noText {bytes : ByteArray} (invalid : ¬ bytes.IsValidUTF8) : Escapes host j bytes .undecodable
  | longNumber {text : String} {digits : Nat}
      (read : Reader.document (normalizeBreaks text.toList) = .error (.numeralTooLong digits)) :
      Escapes host j text.toUTF8 (.failed (.value (.numeralTooLong digits)))
  | nullCharacter {text : String} {n : Node} {front back : List Demand} {s : String} {place : Place}
      (tree : Load.treeOfText j.file text.toList = .ok n)
      (demands : (Root.node n).demands 0 = front ++ .expression (.source s) place :: back)
      (met : ∀ d ∈ front, d.Met (j.config host)) (null : Char.ofNat 0 ∈ s.toList) :
      Escapes host j text.toUTF8 (.failed (.value .nullCharacter))
  | unprintable {text : String} {n : Node} {e : Host.Expr} {problem : Host.PrintError}
      (tree : Load.treeOfText j.file text.toList = .ok n)
      (generated : generate (j.config host) (.node n) = .ok e) (printed : e.print = .error problem) :
      Escapes host j text.toUTF8 (.failed (.value (.unprintable problem)))

/-- The stack has room for every stage that the compilation of a file comes to. -/
def Fits (m : Machine) (j : Job) (bytes : ByteArray) : Prop :=
  ∀ text : String, text.toUTF8 = bytes → ∀ stage ∈ j.stages m.host text, m.frames stage ≤ m.limit

section Runs

variable {d : Directory} {args : List String}

theorem run_of_invalid (hfile : d.find j.path = .file bytes)
    (hargs : Request.ofArguments? args = some j.request) (hinvalid : ¬ bytes.IsValidUTF8) :
    run m d args = .undecodable := by
  have htext : String.fromUTF8? bytes = none := dif_neg hinvalid
  simp only [run, hargs, request, runCompile, hfile, Option.map_none]
  rw [htext]

def ending (j : Job) : Except Error String → Outcome
  | .ok source => .done source none
  | .error e => if e.isCompileError then .refused (j.file ++ ": " ++ e.message) else .failed e

theorem run_of_text {text : String} (hfile : d.find j.path = .file text.toUTF8)
    (hargs : Request.ofArguments? args = some j.request) :
    run m d args = j.ending ((j.stages m.host text).foldr m.within (j.result m.host text)) := by
  have htext : String.fromUTF8? text.toUTF8 = some text := dif_pos text.isValidUTF8
  rw [← compileSource_eq]
  simp only [run, hargs, request, runCompile, hfile, Option.map_none]
  rw [htext]
  rfl

theorem run_of_fits {text : String} (hfile : d.find j.path = .file text.toUTF8)
    (hargs : Request.ofArguments? args = some j.request) (hfits : j.Fits m text.toUTF8) :
    run m d args = j.ending (j.result m.host text) := by
  rw [run_of_text hfile hargs, Machine.foldr_within_of_fits (hfits text rfl)]

theorem run_of_not_fits (hfile : d.find j.path = .file bytes)
    (hargs : Request.ofArguments? args = some j.request) (h : ¬ j.Fits m bytes) :
    run m d args = .failed .exhausted := by
  simp only [Fits, not_forall, Nat.not_le] at h
  obtain ⟨text, rfl, stage, hstage, hdeep⟩ := h
  rw [run_of_text hfile hargs, Machine.foldr_within_of_deep ⟨stage, hstage, hdeep⟩]
  rfl

theorem run_of_reports {o : Outcome} (hfile : d.find j.path = .file bytes)
    (hargs : Request.ofArguments? args = some j.request) (hfits : j.Fits m bytes)
    (h : j.Reports m.host bytes o) : run m d args = o := by
  cases h with
  | compiled tree generated printed =>
    rw [run_of_fits hfile hargs hfits, result, tree, ok_bind, generated, ok_bind, exprSource, printed]
    rfl
  | noTree tree compileError =>
    rw [run_of_fits hfile hargs hfits, result, tree]
    exact if_pos compileError
  | refusedTree tree generated compileError =>
    rw [run_of_fits hfile hargs hfits, result, tree, ok_bind, generated]
    exact if_pos compileError

theorem run_of_escapes {o : Outcome} (hfile : d.find j.path = .file bytes)
    (hargs : Request.ofArguments? args = some j.request) (hfits : j.Fits m bytes)
    (h : j.Escapes m.host bytes o) : run m d args = o := by
  cases h with
  | noText invalid => exact run_of_invalid hfile hargs invalid
  | longNumber read =>
    rw [run_of_fits hfile hargs hfits, result, Load.treeOfText, Load.documentOfText, read]
    rfl
  | nullCharacter tree demands met null =>
    have hanswers := Load.generate_answers tree (j.config m.host)
    rw [demands] at hanswers
    obtain ⟨e, he, hgenerate⟩ := hanswers.error_of_split met fun h => h.1 null
    rw [Demand.fault?, Embedded.fault?, if_pos (List.contains_iff_mem.mpr null)] at he
    cases he
    rw [run_of_fits hfile hargs hfits, result, tree, ok_bind, hgenerate]
    rfl
  | unprintable tree generated printed =>
    rw [run_of_fits hfile hargs hfits, result, tree, ok_bind, generated, ok_bind, exprSource, printed]
    rfl

/-- Whatever the file holds, the command ends in a report or escapes it in one of four ways. -/
theorem reports_or_escapes (j : Job) (host : Host.Interpreter) (hpaired : Paired bytes) :
    (∃ o, j.Reports host bytes o) ∨ ∃ o, j.Escapes host bytes o := by
  -- Each stage ends the run or hands something on: decoding, reading, compiling, printing.
  by_cases hvalid : bytes.IsValidUTF8
  · obtain ⟨text, rfl⟩ : ∃ text : String, text.toUTF8 = bytes := ⟨.fromUTF8 bytes hvalid, rfl⟩
    cases htree : Load.treeOfText j.file text.toList with
    | error e =>
      rcases Load.treeOfText_error htree (hpaired text rfl) with hreport | ⟨digits, _, hread⟩
      · exact .inl ⟨_, .noTree htree hreport⟩
      · exact .inr ⟨_, .longNumber hread⟩
    | ok n =>
      cases hgenerate : generate (j.config host) (.node n) with
      | error e =>
        rcases Load.generate_error htree hgenerate with
          hreport | ⟨_, front, s, place, back, hsplit, hmet, hnull⟩
        · exact .inl ⟨_, .refusedTree htree hgenerate hreport⟩
        · exact .inr ⟨_, .nullCharacter htree hsplit hmet hnull⟩
      | ok e =>
        cases hprint : e.print with
        | error problem => exact .inr ⟨_, .unprintable htree hgenerate hprint⟩
        | ok shown => exact .inl ⟨_, .compiled htree hgenerate hprint⟩
  · exact .inr ⟨_, .noText hvalid⟩

end Runs

def sources (j : Job) (text : String) : List String :=
  match Load.treeOfText j.file text.toList with
  | .ok n => ((Root.node n).demands 0).filterMap Demand.source?
  | .error _ => []

def expressions (host : Host.Interpreter) (j : Job) (text : String) : List Host.Expr :=
  (j.sources text).filterMap fun s => Host.Parser.parseExpr host.named (Text.trim Text.isBlank s.toList)

theorem mem_sources {text s : String} {n : Node} {place : Place}
    (tree : Load.treeOfText j.file text.toList = .ok n)
    (h : .expression (.source s) place ∈ (Root.node n).demands 0) : s ∈ j.sources text := by
  rw [sources, tree]
  exact List.mem_filterMap.mpr ⟨_, h, rfl⟩

/-- Nothing in the text is out of the ordinary: it has no long run of digits, the sources that its tree
asks for hold no null character, no long number and no formatted text that cannot be printed, and the
stack has room for all of it. -/
structure Ordinary (m : Machine) (j : Job) (text : String) : Prop where
  digits : ∀ k, Reader.maxDigits < k → ¬ HoldsDigits k text.toList
  plain : ∀ s ∈ j.sources text, Char.ofNat 0 ∉ s.toList
  numbers : ∀ e ∈ j.expressions m.host text, ∀ k, Host.Literal.constant (.int k) ∈ e.literals →
    Decimal.decimalLength k ≤ Host.maxIntegerDigits
  formats : ∀ e ∈ j.expressions m.host text, ∀ pieces, Host.Literal.format pieces ∈ e.literals →
    ∃ texts, Host.printPieces pieces = .ok texts
  room : j.Fits m text.toUTF8

theorem parseExpr_of_toExpr {s : String} {place : Place} {e : Host.Expr}
    (h : (Embedded.source s).toExpr host place = .ok e) :
    Host.Parser.parseExpr host.named (Text.trim Text.isBlank s.toList) = some e := by
  simp only [Embedded.toExpr] at h
  split at h
  · cases h
  · split at h
    next hparsed =>
      cases h
      exact hparsed
    · cases h

theorem Ordinary.isPrintable {text : String} {n : Node} (h : j.Ordinary m text)
    (hn : Load.treeOfText j.file text.toList = .ok n) :
    ∀ d ∈ (Root.node n).demands 0, d.IsPrintable m.host := by
  intro d hd
  obtain ⟨v, hv⟩ := Load.treeOfText_eq_ok hn
  have hplain := Load.demands_plain hv 0 d hd
  cases d with
  | expression expr place =>
    obtain ⟨s, rfl⟩ := hplain
    intro e he
    have hmem : e ∈ j.expressions m.host text :=
      List.mem_filterMap.mpr ⟨s, mem_sources hn hd, parseExpr_of_toExpr he⟩
    exact e.isPrintable_iff.mpr ⟨h.numbers e hmem, h.formats e hmem⟩
  | _ => trivial

theorem Ordinary.not_escapes {text : String} (h : j.Ordinary m text) (htext : text.toUTF8 = bytes)
    (o : Outcome) : ¬ j.Escapes m.host bytes o := by
  intro hescapes
  cases hescapes with
  | noText invalid => exact invalid (htext ▸ text.isValidUTF8)
  | longNumber read =>
    cases String.toByteArray_inj.mp htext
    obtain ⟨hlong, hholds⟩ := Document.Reader.document_numeralTooLong read
    exact h.digits _ hlong hholds.of_normalizeBreaks
  | nullCharacter tree demands met null =>
    cases String.toByteArray_inj.mp htext
    exact h.plain _ (mem_sources tree (demands ▸ List.mem_append_right _ List.mem_cons_self)) null
  | unprintable tree generated printed =>
    cases String.toByteArray_inj.mp htext
    have hprintable := generate_isPrintable generated (h.isPrintable tree)
    obtain ⟨shown, hshown⟩ := (Host.Expr.print_eq_ok_iff _).mpr hprintable
    cases hshown.symm.trans printed

theorem Reports.isReport {o : Outcome} (h : j.Reports host bytes o) :
    (∃ source, o = .done source none) ∨ ∃ message, o = .refused message := by
  cases h with
  | compiled => exact .inl ⟨_, rfl⟩
  | noTree => exact .inr ⟨_, rfl⟩
  | refusedTree => exact .inr ⟨_, rfl⟩

theorem Reports.not_escapes {o : Outcome} (h : j.Reports host bytes o) : ¬ j.Escapes host bytes o := by
  intro hescapes
  rcases h.isReport with ⟨source, rfl⟩ | ⟨message, rfl⟩
  · cases hescapes
  · cases hescapes

theorem escapes_ones (host : Host.Interpreter) (j : Job) {k : Nat} (h : Reader.maxDigits < k) :
    j.Escapes host (String.ofList (List.replicate k '1')).toUTF8 (.failed (.value (.numeralTooLong k))) := by
  obtain ⟨m, rfl⟩ : ∃ m, k = m + 1 := ⟨k - 1, by omega⟩
  refine .longNumber ?_
  have hdigits : ∀ d ∈ List.replicate (m + 1) '1', d.isDigit = true := by
    intro d hd
    rw [List.eq_of_mem_replicate hd]
    rfl
  have hread := Document.document_digits hdigits (by decide) (by simpa using h)
  rw [List.length_cons, List.length_replicate] at hread
  rwa [String.toList_ofList]

end Job

theorem eq_ok_of_toOption {α : Type} {x : Except Error α} {a : α} (h : x.toOption = some a) : x = .ok a := by
  cases x with
  | error e => cases h
  | ok b => exact congrArg Except.ok (Option.some.inj h)

theorem find_tree (bytes : ByteArray) :
    Directory.find ⟨[("tree.json", bytes)], []⟩ "./tree.json" = .file bytes := by
  have hsteps : pathSteps "./tree.json" = ["tree.json".toList] := by decide +kernel
  have hpath : normalPath "./tree.json" = "tree.json" := by decide +kernel
  have hend : endsInFolder "./tree.json" = false := by decide +kernel
  simp [Directory.find, hpath, hsteps, hend, Directory.isFolder]

end SlotMarkup.Command
