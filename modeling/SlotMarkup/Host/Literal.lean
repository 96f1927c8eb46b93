import SlotMarkup.Host.Token
import SlotMarkup.Text.Hex

/-! The values of string literals: escapes, and the pieces of formatted texts before their values
are parsed. -/

namespace SlotMarkup.Host.Literal

open SlotMarkup.Text (hexDigits hexNumber? Point)

def isOctal (c : Char) : Bool := '0' ≤ c && c ≤ '7'

def octalValue (ds : List Char) : Nat := ds.foldl (fun n c => 8 * n + (c.toNat - 48)) 0

def letterEscape? : Char → Option Char
  | '\\' => some '\\'
  | '\'' => some '\''
  | '"' => some '"'
  | 'a' => some '\x07'
  | 'b' => some '\x08'
  | 'f' => some '\x0c'
  | 'n' => some '\n'
  | 'r' => some '\r'
  | 't' => some '\t'
  | 'v' => some '\x0b'
  | _ => none

def hexEscape (width : Nat) (cs : List Char) : Option (Nat × List Char) :=
  if cs.length < width then none
  else (hexNumber? (cs.take width)).map fun n => (n, cs.drop width)

/-- What the text after a backslash stands for: a character code or nothing, and the text after it.
An unknown escape keeps its backslash. The names of characters that are known have become codes
before, see `resolveNames`. -/
def escape (wide : Bool) (cs : List Char) : Option (List Nat × List Char) :=
  match cs with
  | [] => some ([92], [])
  | '\n' :: rest => some ([], rest)
  | c :: rest =>
    match letterEscape? c with
    | some d => some ([d.toNat], rest)
    | none =>
      if isOctal c then
        let ds := (cs.take 3).takeWhile isOctal
        some ([octalValue ds], cs.drop ds.length)
      else if c == 'x' then (hexEscape 2 rest).map fun (n, rest) => ([n], rest)
      else if wide && c == 'u' then (hexEscape 4 rest).map fun (n, rest) => ([n], rest)
      else if wide && c == 'U' then
        (hexEscape 8 rest).bind fun (n, rest) => if n ≤ 0x10FFFF then some ([n], rest) else none
      else if wide && c == 'N' then none
      else some ([92], cs)

def codes (wide : Bool) : Nat → List Char → Option (List Nat)
  | _, [] => some []
  | 0, _ => none
  | fuel + 1, c :: cs =>
    if c == '\\' then do
      let (ns, rest) ← escape wide cs
      let more ← codes wide fuel rest
      some (ns ++ more)
    else (codes wide fuel cs).map (c.toNat :: ·)

def decodeText (raw : Bool) (body : List Char) : Option (List Point) :=
  if raw then some (body.map .char) else (codes true body.length body).map (·.map Point.ofCode)

def decodeBytes (raw : Bool) (body : List Char) : Option (List UInt8) :=
  if body.any (128 ≤ ·.toNat) then none
  else
    (if raw then some (body.map Char.toNat) else codes false body.length body).map
      (·.map fun n => UInt8.ofNat n)

inductive Part where
  | text (ps : List Point)
  | field (source : List Char) (conversion : Option Char) (layout : Option (List Part))

structure Run where
  chunk : List Char
  doubled : Bool
  rest : List Char

def Run.push (c : Char) (r : Run) : Run := { r with chunk := c :: r.chunk }

def skipName : List Char → List Char × List Char
  | [] => ([], [])
  | c :: cs =>
    if c == '\x7d' then ([c], cs)
    else
      let (name, rest) := skipName cs
      (c :: name, rest)

def characterNamed (named : List Char → Option Char) (name : List Char) : Option Char :=
  if name.getLast? == some '\x7d' && 1 < name.length then named name.dropLast else none

/-- A string body with the codes of the characters whose names it spells; a name that is not known
stays, and is refused with the other escapes. -/
def resolveNames (named : List Char → Option Char) : Nat → List Char → List Char
  | 0, cs => cs
  | _, [] => []
  | fuel + 1, '\\' :: 'N' :: '\x7b' :: cs =>
    let (name, rest) := skipName cs
    match characterNamed named name with
    | some c => '\\' :: 'U' :: (hexDigits 8 c.toNat ++ resolveNames named fuel rest)
    | none => '\\' :: 'N' :: '\x7b' :: (name ++ resolveNames named fuel rest)
  | fuel + 1, '\\' :: c :: cs => '\\' :: c :: resolveNames named fuel cs
  | fuel + 1, c :: cs => c :: resolveNames named fuel cs

/-- Splits off the constant text before the next brace that counts. Outside a layout a doubled
brace stands for itself and a single closing brace is refused. -/
def constantRun (raw inLayout : Bool) : Nat → List Char → Option Run
  | _, [] => some ⟨[], false, []⟩
  | 0, _ => none
  | fuel + 1, c :: cs =>
    let step := fun (c : Char) (cs : List Char) =>
      if c == '\x7b' || c == '\x7d' then
        if !inLayout && cs.head? == some c then some ⟨[c], true, cs.drop 1⟩
        else if !inLayout && c == '\x7d' then none
        else some ⟨[], false, c :: cs⟩
      else (constantRun raw inLayout fuel cs).map (Run.push c)
    if !raw && c == '\\' then
      match cs with
      | [] => some ⟨[c], false, []⟩
      | 'N' :: '\x7b' :: rest =>
        let (name, rest) := skipName rest
        (constantRun raw inLayout fuel rest).map fun r =>
          { r with chunk := c :: 'N' :: '\x7b' :: (name ++ r.chunk) }
      | d :: rest => (step d rest).map (Run.push c)
    else step c cs

structure Quote where
  mark : Char
  block : Bool

def closer? : Char → Option Char
  | '(' => some ')'
  | '[' => some ']'
  | '\x7b' => some '\x7d'
  | _ => none

def isCloser (c : Char) : Bool := c == ')' || c == ']' || c == '\x7d'

def isFieldEnd (c : Char) : Bool := c == '!' || c == ':' || c == '\x7d' || c == '='

def isCompareStart (c : Char) : Bool := c == '!' || c == '=' || c == '<' || c == '>'

def fieldSource : Nat → Option Quote → List Char → List Char →
    Option (List Char × List Char)
  | 0, _, _, _ => none
  | _, _, _, [] => none
  | fuel + 1, some q, opened, c :: cs =>
    if c == '\\' then none
    else if c == q.mark && q.block && cs.take 2 == [c, c] then
      (fieldSource fuel none opened (cs.drop 2)).map fun (s, rest) => (c :: c :: c :: s, rest)
    else
      let q' := if c == q.mark && !q.block then none else some q
      (fieldSource fuel q' opened cs).map fun (s, rest) => (c :: s, rest)
  | fuel + 1, none, opened, c :: cs =>
    if c == '\\' || c == '#' then none
    else if c == '\'' || c == '"' then
      if cs.take 2 == [c, c] then
        (fieldSource fuel (some ⟨c, true⟩) opened (cs.drop 2)).map
          fun (s, rest) => (c :: c :: c :: s, rest)
      else
        (fieldSource fuel (some ⟨c, false⟩) opened cs).map fun (s, rest) => (c :: s, rest)
    else
      match closer? c with
      | some d =>
        if opened.length < 200 then
          (fieldSource fuel none (d :: opened) cs).map fun (s, rest) => (c :: s, rest)
        else none
      | none =>
        if opened.isEmpty && isCompareStart c && cs.head? == some '=' then
          (fieldSource fuel none opened (cs.drop 1)).map fun (s, rest) => (c :: '=' :: s, rest)
        else if opened.isEmpty && isFieldEnd c then some ([], c :: cs)
        else if isCloser c then
          if opened.head? == some c then
            (fieldSource fuel none opened.tail cs).map fun (s, rest) => (c :: s, rest)
          else none
        else (fieldSource fuel none opened cs).map fun (s, rest) => (c :: s, rest)

def isSourceBlank (c : Char) : Bool := c == ' ' || c == '\t' || c == '\n' || c == '\x0c'

def isLabelBlank (c : Char) : Bool := c == ' ' || (9 ≤ c.toNat && c.toNat ≤ 13)

def conversion (cs : List Char) : Option (Option Char × List Char) :=
  match cs with
  | '!' :: c :: rest => if c == 's' || c == 'r' || c == 'a' then some (some c, rest) else none
  | ['!'] => none
  | _ => some (none, cs)

def label (source cs : List Char) : Option (List Char) × List Char :=
  match cs with
  | '=' :: rest =>
    (some (source ++ '=' :: rest.takeWhile isLabelBlank), rest.dropWhile isLabelBlank)
  | _ => (none, cs)

def parts (raw : Bool) : Nat → Nat → List Char → Option (List Part × List Char)
  | 0, _, _ => none
  | fuel + 1, level, cs => do
    let run ← constantRun raw (level != 0) (cs.length + 1) cs
    let chunk ← decodeText raw run.chunk
    if run.doubled then
      let (more, rest) ← parts raw fuel level run.rest
      some (.text chunk :: more, rest)
    else
      match run.rest with
      | '\x7b' :: body =>
        if 2 ≤ level then none
        else
          let (source, rest) ← fieldSource (body.length + 1) none [] body
          if source.all isSourceBlank then none
          else
            let (shown, rest) := label source rest
            let (mark, rest) ← conversion rest
            let (layout, rest) ← match rest with
              | [':'] => none
              | ':' :: rest =>
                (parts raw fuel (level + 1) rest).map fun (ps, rest) => (some ps, rest)
              | _ => some (none, rest)
            let mark := if shown.isSome && mark.isNone && layout.isNone then some 'r' else mark
            match rest with
            | '\x7d' :: rest =>
              let (more, rest) ← parts raw fuel level rest
              some (.text chunk :: .text ((shown.getD []).map .char) :: .field source mark layout :: more, rest)
            | _ => none
      | rest =>
        if level == 0 || !rest.isEmpty then some ([.text chunk], rest) else none

mutual
def merge : List Part → List Part
  | [] => []
  | .text cs :: ps =>
    match merge ps with
    | .text ds :: qs => .text (cs ++ ds) :: qs
    | qs => if cs.isEmpty then qs else .text cs :: qs
  | .field source mark layout :: ps => .field source mark (mergeLayout layout) :: merge ps

def mergeLayout : Option (List Part) → Option (List Part)
  | none => none
  | some ps => some (merge ps)
end

def formatParts (raw : Bool) (body : List Char) : Option (List Part) :=
  (parts raw (2 * body.length + 2) 0 body).map (·.1)

end SlotMarkup.Host.Literal
