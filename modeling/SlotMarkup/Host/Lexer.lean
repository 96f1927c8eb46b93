import SlotMarkup.Host.Numeral
import SlotMarkup.Text.Compatibility
import SlotMarkup.Text.Identifier

/-! From source text to tokens. Line breaks count only outside brackets, and no line may be
indented there. -/

namespace SlotMarkup.Host.Lexer

open SlotMarkup.Text

def maxNesting : Nat := 200

def signs : List (List Char × Sign) := [
  ("...".toList, .ellipsis), ("**=".toList, .other), ("//=".toList, .other),
  (">>=".toList, .other), ("<<=".toList, .other),
  ("**".toList, .doubleStar), ("//".toList, .doubleSlash), ("<<".toList, .shiftLeft),
  (">>".toList, .shiftRight), ("<=".toList, .lessEqual), (">=".toList, .greaterEqual),
  ("==".toList, .equal), ("!=".toList, .notEqual), (":=".toList, .walrus), ("->".toList, .other),
  ("<>".toList, .other), ("+=".toList, .other), ("-=".toList, .other), ("*=".toList, .other),
  ("/=".toList, .other), ("%=".toList, .other), ("&=".toList, .other), ("|=".toList, .other),
  ("^=".toList, .other), ("@=".toList, .other),
  ("(".toList, .parenOpen), (")".toList, .parenClose), ("[".toList, .bracketOpen),
  ("]".toList, .bracketClose), ("\x7b".toList, .braceOpen), ("\x7d".toList, .braceClose),
  (",".toList, .comma), (":".toList, .colon), (";".toList, .semicolon), (".".toList, .dot),
  ("=".toList, .assign), ("+".toList, .plus), ("-".toList, .minus), ("*".toList, .star),
  ("/".toList, .slash), ("%".toList, .percent), ("@".toList, .atSign), ("|".toList, .pipe),
  ("^".toList, .caret), ("&".toList, .ampersand), ("~".toList, .tilde), ("<".toList, .less),
  (">".toList, .greater)]

def sign? (cs : List Char) : Option (Sign × List Char) :=
  (signs.find? fun s => s.1.isPrefixOf cs).map fun s => (s.2, cs.drop s.1.length)

/-- The brackets that are open after a sign; `none` if it closes one that is not the innermost or
nests too deep. -/
def nest (opened : List Sign) : Sign → Option (List Sign)
  | .parenOpen => if opened.length < maxNesting then some (.parenClose :: opened) else none
  | .bracketOpen => if opened.length < maxNesting then some (.bracketClose :: opened) else none
  | .braceOpen => if opened.length < maxNesting then some (.braceClose :: opened) else none
  | .parenClose => if opened.head? == some .parenClose then some opened.tail else none
  | .bracketClose => if opened.head? == some .bracketClose then some opened.tail else none
  | .braceClose => if opened.head? == some .braceClose then some opened.tail else none
  | _ => some opened

def shortBody (q : Char) : List Char → Option (List Char × List Char)
  | [] => none
  | ['\\'] => none
  | '\\' :: c :: cs => (shortBody q cs).map fun (body, rest) => ('\\' :: c :: body, rest)
  | c :: cs =>
    if c == q then some ([], cs)
    else if c == '\n' then none
    else (shortBody q cs).map fun (body, rest) => (c :: body, rest)

def blockBody (q : Char) : List Char → Option (List Char × List Char)
  | [] => none
  | ['\\'] => none
  | '\\' :: c :: cs => (blockBody q cs).map fun (body, rest) => ('\\' :: c :: body, rest)
  | c :: cs =>
    if c == q && cs.take 2 == [q, q] then some ([], cs.drop 2)
    else (blockBody q cs).map fun (body, rest) => (c :: body, rest)

def stringBody (q : Char) (cs : List Char) : Option (List Char × List Char) :=
  if cs.take 2 == [q, q] then blockBody q (cs.drop 2)
  else shortBody q cs

def marks? (letters : List Char) : Option Marks :=
  let low := letters.map Char.toLower
  if low == ['u'] then some ⟨false, false, false, letters == ['u']⟩
  else if low == [] then some ⟨false, false, false, false⟩
  else if low == ['b'] then some ⟨false, true, false, false⟩
  else if low == ['r'] then some ⟨true, false, false, false⟩
  else if low == ['f'] then some ⟨false, false, true, false⟩
  else if low == ['b', 'r'] || low == ['r', 'b'] then some ⟨true, true, false, false⟩
  else if low == ['f', 'r'] || low == ['r', 'f'] then some ⟨true, false, true, false⟩
  else none

def wordToken (cs : List Char) : Option Token :=
  match Word.ofString? (String.ofList cs) with
  | some w => some (.word w)
  | none =>
    if cs.all (·.toNat < 128) then some (.name (String.ofList cs))
    else if isIdentifier cs then some (.name (String.ofList (compatible cs)))
    else none

def isLineBlank (c : Char) : Bool := c == ' ' || c == '\t' || c == '\x0c'

/-- Whether a line that starts with `cs` is indented, and the line without its indentation. A form
feed takes the line back to its first column. A line can be continued from the start if another one
follows; `fixed` says that it was, after an indentation that then counts. -/
def indentation (fixed deep : Bool) : List Char → Bool × List Char
  | [] => (deep, [])
  | '\\' :: '\n' :: cs =>
    if cs.isEmpty then (deep, ['\\', '\n']) else indentation (fixed || deep) deep cs
  | c :: cs =>
    if c == '\x0c' then indentation fixed fixed cs
    else if c == ' ' || c == '\t' then indentation fixed true cs
    else (deep, c :: cs)

def dropComment (cs : List Char) : List Char := cs.dropWhile (· != '\n')

/-- Reads tokens up to the end of the text. `opened` are the brackets that are open, `start` says
that a line starts here, and `fuel` bounds the number of steps. -/
def tokensFrom : Nat → List Sign → Bool → List Char → Option (List Token)
  | 0, _, _, _ => none
  | fuel + 1, opened, true, cs =>
    let (deep, body) := indentation false false cs
    match body with
    | [] => if opened.isEmpty then some [] else none
    | '\n' :: rest => tokensFrom fuel opened true rest
    | '#' :: rest => tokensFrom fuel opened true ((dropComment rest).drop 1)
    | _ => if deep && opened.isEmpty then none else tokensFrom fuel opened false body
  | fuel + 1, opened, false, cs =>
    match cs.dropWhile isLineBlank with
    | [] => if opened.isEmpty then some [] else none
    | '#' :: rest => tokensFrom fuel opened false (dropComment rest)
    | '\n' :: rest =>
      let more := tokensFrom fuel opened true rest
      if opened.isEmpty then more.map (.newline :: ·) else more
    | '\\' :: rest =>
      match rest with
      | '\n' :: next :: rest => tokensFrom fuel opened false (next :: rest)
      | _ => none
    | c :: rest =>
      if c.isDigit || (c == '.' && rest.head?.any Char.isDigit) then do
        let (value, rest) ← Numeral.literal (c :: rest)
        (tokensFrom fuel opened false rest).map (.number value :: ·)
      else
        let letters := (c :: rest).takeWhile Numeral.isWordChar
        let after := (c :: rest).dropWhile Numeral.isWordChar
        match after.head?, marks? letters with
        | some q, some marks =>
          if q == '\'' || q == '"' then do
            let (body, rest) ← stringBody q (after.drop 1)
            (tokensFrom fuel opened false rest).map (.string marks body :: ·)
          else if letters.isEmpty then do
            let (s, rest) ← sign? (c :: rest)
            let opened ← nest opened s
            (tokensFrom fuel opened false rest).map (.sign s :: ·)
          else do
            let token ← wordToken letters
            (tokensFrom fuel opened false after).map (token :: ·)
        | _, _ => do
          let token ← wordToken letters
          (tokensFrom fuel opened false after).map (token :: ·)

def tokens (cs : List Char) : Option (List Token) :=
  let cs := Document.normalizeBreaks cs
  tokensFrom (2 * cs.length + 2) [] true cs

end SlotMarkup.Host.Lexer
