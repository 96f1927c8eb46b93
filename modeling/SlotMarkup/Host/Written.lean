import SlotMarkup.Text.Quoted

/-! Texts written as literals with as few escapes as the choice of quotes allows. -/

namespace SlotMarkup.Host.Written

open SlotMarkup.Text

abbrev Quotes := List Char

def blockQuotes : List Quotes := [['"', '"', '"'], ['\'', '\'', '\'']]

def allQuotes : List Quotes := [['\''], ['"']] ++ blockQuotes

def occursIn (needle : List Char) : List Char → Bool
  | [] => needle.isEmpty
  | c :: cs => needle.isPrefixOf (c :: cs) || occursIn needle cs

def inside (breaks : Bool) : Point → List Char
  | .char c => if !breaks && (c == '\n' || c == '\t') then [c] else escaped (.char c)
  | p => escaped p

def escapeLast (cs : List Char) : List Char :=
  match cs.getLast? with
  | some c => cs.dropLast ++ ['\\', c]
  | none => cs

/-- The inside of a literal and the quotes that fit it, the best first. Quotes fit if they do not
occur inside, and a line feed needs block quotes. If none of the offered ones fit, the text is
escaped for one quote. -/
def literal (offered : List Quotes) (breaks : Bool) (ps : List Point) : List Char × List Quotes :=
  let body := ps.flatMap (inside breaks)
  let usable := if body.contains '\n' then offered.filter blockQuotes.contains else offered
  match usable.filter fun q => !occursIn q body with
  | [] =>
    let mark := quoteMark ps
    (quotedInside mark ps, [(offered.find? fun q => q.contains mark).getD [mark]])
  | fitting =>
    match body.getLast? with
    | none => (body, fitting)
    | some c =>
      let clash := fun (q : Quotes) => q.head? == some c
      let sorted := fitting.filter (!clash ·) ++ fitting.filter clash
      if sorted.head?.any clash then (escapeLast body, sorted) else (body, sorted)

def enclosed (quotes : List Quotes) (cs : List Char) : List Char :=
  let q := quotes.headD []
  q ++ cs ++ q

def text (offered : List Quotes) (ps : List Point) : List Char :=
  let (body, quotes) := literal offered false ps
  enclosed quotes body

/-- The inside of a formatted text and the quotes that its parts leave, each part choosing from what
the parts before it left; a part is marked if it is constant. -/
def fitParts : List Quotes → List (List Point × Bool) → List Char × List Quotes
  | quotes, [] => ([], quotes)
  | quotes, (ps, constant) :: parts =>
    let (body, fitting) := literal quotes constant ps
    let (rest, final) := fitParts fitting parts
    (body ++ rest, final)

def format (parts : List (List Point × Bool)) : List Char :=
  let (body, quotes) := fitParts allQuotes parts
  enclosed quotes body

def doubleBraces (ps : List Point) : List Point :=
  ps.flatMap fun p => if p == .char '\x7b' || p == .char '\x7d' then [p, p] else [p]

end SlotMarkup.Host.Written
