/-! Command line arguments: switches with long and short names, with or without a value, and the
arguments between them. -/

namespace SlotMarkup.Command

structure Switch where
  key : String
  long : String
  short : Option Char
  takesValue : Bool
deriving DecidableEq, Repr

abbrev Given := List (String × String)

/-- Switches given by their letters: a letter that takes a value takes the rest of the argument, or
the next one. -/
def letters (switches : List Switch) : List Char → List String → Option (Given × List String)
  | [], args => some ([], args)
  | c :: cs, args =>
    match switches.find? fun s => s.short == some c with
    | none => none
    | some s =>
      if s.takesValue then
        match cs, args with
        | [], [] => none
        | [], v :: args => some ([(s.key, v)], args)
        | cs, args => some ([(s.key, String.ofList cs)], args)
      else (letters switches cs args).map fun (given, args) => ((s.key, "") :: given, args)

def longName (s : Switch) (value : Option String) (args : List String) :
    Option (Given × List String) :=
  match s.takesValue, value, args with
  | true, some v, args => some ([(s.key, v)], args)
  | true, none, v :: args => some ([(s.key, v)], args)
  | true, none, [] => none
  | false, none, args => some ([(s.key, "")], args)
  | false, some _, _ => none

def switch (switches : List Switch) (arg : String) (args : List String) :
    Option (Given × List String) :=
  let name := String.ofList (arg.toList.takeWhile (· != '='))
  let value := match arg.toList.dropWhile (· != '=') with
    | [] => none
    | _ :: v => some (String.ofList v)
  match switches.find? fun s => s.long == name with
  | some s => longName s value args
  | none =>
    match arg.toList with
    | '-' :: '-' :: _ => none
    | _ :: cs => letters switches cs args
    | [] => none

/-- Splits the arguments into switches and the others. Without `mixed` the first other argument
ends the switches, and two hyphens end them always. -/
def readFrom (switches : List Switch) (mixed : Bool) : Nat → List String →
    Option (Given × List String)
  | _, [] => some ([], [])
  | 0, _ => none
  | fuel + 1, a :: args =>
    if a == "--" then some ([], args)
    else if a.startsWith "-" && a != "-" then do
      let (given, args) ← switch switches a args
      let (more, others) ← readFrom switches mixed fuel args
      some (given ++ more, others)
    else if mixed then
      (readFrom switches mixed fuel args).map fun (given, others) => (given, a :: others)
    else some ([], a :: args)

def read (switches : List Switch) (mixed : Bool) (args : List String) :
    Option (Given × List String) :=
  readFrom switches mixed args.length args

def Given.last? (given : Given) (key : String) : Option String :=
  (given.reverse.find? fun g => g.1 == key).map (·.2)

end SlotMarkup.Command
