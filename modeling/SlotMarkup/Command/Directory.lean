
/-! The directory that a command runs in, as far as the command looks at it. -/

namespace SlotMarkup.Command

/-- Files and folders by their paths. The working directory and those around it need no entry. -/
structure Directory where
  files : List (String × ByteArray)
  folders : List String

inductive Found where
  | file (bytes : ByteArray)
  | folder
  | nothing

def pathSteps (path : String) : List (List Char) :=
  (List.splitOn '/' path.toList).filter fun s => !s.isEmpty && s != ['.']

def pathOfSteps (absolute : Bool) (steps : List (List Char)) : String :=
  let s := String.ofList (List.intercalate ['/'] steps)
  if absolute then "/" ++ s else if s.isEmpty then "." else s

def normalPath (path : String) : String := pathOfSteps (path.startsWith "/") (pathSteps path)

/-- Whether the last step of a path goes nowhere, which only a folder allows. -/
def endsInFolder (path : String) : Bool :=
  match (List.splitOn '/' path.toList).getLast? with
  | some last => last.isEmpty || last == ['.']
  | none => false

namespace Directory

def isFolder (d : Directory) (absolute : Bool) (steps : List (List Char)) : Bool :=
  steps.all (· == ['.', '.']) || d.folders.contains (pathOfSteps absolute steps)

def find (d : Directory) (path : String) : Found :=
  if path.isEmpty then .nothing
  else if d.isFolder (path.startsWith "/") (pathSteps path) then .folder
  else if endsInFolder path then .nothing
  else
    match d.files.lookup (normalPath path) with
    | some bytes => .file bytes
    | none => .nothing

end Directory

inductive WriteFault where
  | isFolder
  | underFile
  | noFolder
deriving DecidableEq, Repr

def Directory.writeFault? (d : Directory) (path : String) : Option WriteFault :=
  let absolute := path.startsWith "/"
  let steps := pathSteps path
  if d.isFolder absolute steps then some .isFolder
  else if d.isFolder absolute steps.dropLast then none
  else if (List.range steps.length).any fun n =>
      (d.files.lookup (pathOfSteps absolute (steps.take n))).isSome then some .underFile
  else some .noFolder

end SlotMarkup.Command
