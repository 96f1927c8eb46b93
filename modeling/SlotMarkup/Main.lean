import SlotMarkup.Command.Run

/-! The command line program. -/

namespace SlotMarkup.Command

def readHandle (handle : IO.FS.Handle) : IO Found :=
  tryCatch (do pure (.file (← handle.readBinToEnd))) fun _ => pure .folder

def probe (path : String) : IO Found :=
  tryCatch (do readHandle (← IO.FS.Handle.mk path .read)) fun _ => pure .nothing

def survey : List String → IO Directory
  | [] => pure ⟨[], []⟩
  | path :: paths => do
    let rest ← survey paths
    match ← probe path with
    | .file bytes => pure { rest with files := (normalPath path, bytes) :: rest.files }
    | .folder => pure { rest with folders := normalPath path :: rest.folders }
    | .nothing => pure rest

def Request.paths : Request → List String
  | .compile path output _ _ _ =>
    match output with
    | none => [path]
    | some file => [path, file, pathOfSteps (file.startsWith "/") (pathSteps file).dropLast]
  | _ => []

end SlotMarkup.Command

open SlotMarkup.Command

def main (args : List String) : IO UInt32 := do
  let out ← IO.getStdout
  let err ← IO.getStderr
  let directory ← survey (((Request.ofArguments? args).map Request.paths).getD [])
  match run (.roomy .bare) directory args with
  | .done stdout written =>
    if let some (file, text) := written then IO.FS.writeFile file text
    out.putStr stdout
    pure 0
  | .usage =>
    err.putStrLn "Usage error."
    pure 2
  | .refused message =>
    err.putStrLn ("Error: " ++ message)
    pure 1
  | .undecodable =>
    err.putStrLn "The input is not UTF-8."
    pure 1
  | .failed e =>
    err.putStrLn e.message
    pure 1
  | .unwritable _ =>
    err.putStrLn "The output cannot be written."
    pure 1
