import SlotMarkup.Command.Arguments
import SlotMarkup.Command.Directory
import SlotMarkup.CompilationUnit
import SlotMarkup.Template.Part
import SlotMarkup.Tree.Load

/-! The two commands: one compiles a tree to source text, the other shows part descriptors. -/

namespace SlotMarkup.Command

inductive Stage where
  | reading (text : List Char)
  | loading (document : Document.Value)
  | compiling (config : Config) (root : Root)
  | printing (body : Host.Module)

/-- What a command runs on: an interpreter, the frames that each stage takes at its deepest, and how
many of them the stack has room for. -/
structure Machine where
  host : Host.Interpreter
  frames : Stage → Nat
  limit : Nat

def Machine.roomy (host : Host.Interpreter) : Machine := ⟨host, fun _ => 0, 0⟩

/-- A stage of a compilation. If it goes too deep, it ends there, whatever else would become of it. -/
def Machine.within {α : Type} (m : Machine) (stage : Stage) (result : Except Error α) :
    Except Error α :=
  if m.limit < m.frames stage then .error .exhausted else result

inductive Outcome where
  | done (stdout : String) (written : Option (String × String))
  | usage
  | refused (message : String)
  | undecodable
  | failed (e : Error)
  | unwritable (fault : WriteFault)

inductive Request where
  | version
  | compile (path : String) (output : Option String) (target runtimeModule : String)
      (noImport : Bool)
  | parts (codes : String)
deriving DecidableEq, Repr

def versionText : String := "tagwire, version 0.1.0\n"

def generalSwitches : List Switch := [
  ⟨"version", "--version", none, false⟩, ⟨"verbose", "--verbose", some 'v', false⟩]

def compileSwitches : List Switch := [
  ⟨"output", "--output", some 'o', true⟩, ⟨"target", "--target", none, true⟩,
  ⟨"runtime-module", "--runtime-module", none, true⟩,
  ⟨"no-import", "--no-import", none, false⟩]

def compileRequest (args : List String) : Option Request := do
  let (given, others) ← read compileSwitches true args
  match others with
  | [path] =>
    some (.compile path (given.last? "output") ((given.last? "target").getD "template")
      ((given.last? "runtime-module").getD Config.standard.runtimeModule)
      (given.last? "no-import").isSome)
  | _ => none

def partsRequest (args : List String) : Option Request := do
  let (_, others) ← read [] true args
  match others with
  | [codes] => some (.parts codes)
  | _ => none

def generalRequest (args : List String) : Option (Option Request × List String) := do
  let (given, others) ← read generalSwitches false args
  some (if (given.last? "version").isSome then some .version else none, others)

/-- What the arguments ask for, if they are understood. A word that stands for no command is read
once more as a switch, so that one after two hyphens still counts. -/
def Request.ofArguments? (args : List String) : Option Request := do
  match ← generalRequest args with
  | (some r, _) => some r
  | (none, []) => none
  | (none, command :: rest) =>
    if command == "compile" then compileRequest rest
    else if command == "parts" then partsRequest rest
    else
      let (late, _) ← generalRequest (command :: rest)
      late

def kindLabel : PartKind → String
  | .attribute => "attribute"
  | .node => "node"
  | .nodeAfterDynamic => "node (after expression)"

def indexText : Option Int → String
  | none => ""
  | some n => toString n

def partRows (i : Nat) : List Part → List (List String)
  | [] => []
  | p :: ps => [toString i, kindLabel p.kind, indexText p.element, indexText p.index] ::
      partRows (i + 1) ps

def tableHead : List String := ["slot", "kind", "element", "index"]

def tableCell (alignLeft : Bool) (width : Nat) (s : String) : String :=
  let blanks := String.ofList (List.replicate (width - s.length) ' ')
  " " ++ (if alignLeft then s ++ blanks else blanks ++ s) ++ " "

def tableLine (widths : List Nat) (row : List String) : String :=
  String.join ((row.zip (widths.zip [false, true, false, false])).map
    fun (s, width, left) => tableCell left width s) ++ "\n"

def partTable (parts : List Part) : String :=
  let rows := tableHead :: partRows 0 parts
  let widths := (List.range 4).map fun i =>
    (rows.map fun r => (r.getD i "").length).foldl max 0
  String.join (rows.map (tableLine widths))

def runParts (codes : String) : Outcome :=
  match Parts.decode codes with
  | .ok parts => .done (partTable parts) none
  | .error e => if e.isCompileError then .refused e.message else .failed e

def compileSource (m : Machine) (path : String) (config : Config) (target : String)
    (noImport : Bool) (text : String) : Except Error String := do
  let document ← m.within (.reading text.toList) (Load.documentOfText path text.toList)
  let tree ← m.within (.loading document) (Load.treeOf document)
  let u := CompilationUnit.ofModule config []
  let u := if noImport then { u with hasRuntime := true } else u
  let (assigned, u) := (CompilationUnit.assign target (.node tree)).run u
  let _ ← m.within (.compiling config (.node tree)) assigned
  let source ← m.within (.printing u.body) u.source
  .ok (source ++ "\n")

def finish (d : Directory) (output : Option String) (source : String) : Outcome :=
  match output with
  | none => .done source none
  | some file =>
    match d.writeFault? file with
    | some fault => .unwritable fault
    | none => .done ("✅ Wrote " ++ normalPath file ++ "\n") (some (normalPath file, source))

def runCompile (m : Machine) (d : Directory) (path : String) (output : Option String) (target : String)
    (runtimeModule : String) (noImport : Bool) : Outcome :=
  match d.find path, output.map d.find with
  | .file _, some .folder => .usage
  | .file bytes, _ =>
    match String.fromUTF8? bytes with
    | none => .undecodable
    | some text =>
      let config := { Config.standard with runtimeModule := runtimeModule, host := m.host }
      match compileSource m (normalPath path) config target noImport text with
      | .ok source => finish d output source
      | .error e =>
        if e.isCompileError then .refused (normalPath path ++ ": " ++ e.message) else .failed e
  | _, _ => .usage

def run (m : Machine) (d : Directory) (args : List String) : Outcome :=
  match Request.ofArguments? args with
  | none => .usage
  | some .version => .done versionText none
  | some (.parts codes) => runParts codes
  | some (.compile path output target runtimeModule noImport) =>
    runCompile m d path output target runtimeModule noImport

end SlotMarkup.Command
