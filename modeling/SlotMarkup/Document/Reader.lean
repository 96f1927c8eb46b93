import SlotMarkup.Document.Value
import SlotMarkup.Text.Point

/-! Reading a document from its text. A failure says what was expected and where. -/

namespace SlotMarkup.Document

inductive Expectation where
  | noByteOrderMark
  | value
  | propertyName
  | colon
  | comma
  | endOfText
  | closingQuote
  | noControlCharacter
  | escape
  | unicodeEscape
deriving DecidableEq, Repr

def Expectation.message : Expectation → String
  | noByteOrderMark => "Unexpected UTF-8 BOM (decode using utf-8-sig)"
  | value => "Expecting value"
  | propertyName => "Expecting property name enclosed in double quotes"
  | colon => "Expecting ':' delimiter"
  | comma => "Expecting ',' delimiter"
  | endOfText => "Extra data"
  | closingQuote => "Unterminated string starting at"
  | noControlCharacter => "Invalid control character at"
  | escape => "Invalid \\escape"
  | unicodeEscape => "Invalid \\uXXXX escape"

/-- Why a text is no document. The place of an unmet expectation is the number of characters from
it to the end of the text; a whole number may have at most 4300 digits. A string with half of a
surrogate pair is not refused: it is no text of characters, and has no value here. -/
inductive ReadError where
  | unmet (what : Expectation) (left : Nat)
  | numeralTooLong (digits : Nat)
  | loneSurrogate
deriving DecidableEq, Repr

namespace Reader

open SlotMarkup.Text (hexNumber? isHighSurrogate isLowSurrogate)

def maxDigits : Nat := 4300

def isSpace (c : Char) : Bool := c == ' ' || c == '\t' || c == '\n' || c == '\r'

def skipSpace (cs : List Char) : List Char := cs.dropWhile isSpace

def unmet {α : Type} (what : Expectation) (rest : List Char) : Except ReadError α :=
  .error (.unmet what rest.length)

def codeUnit (rest : List Char) : Except ReadError (Nat × List Char) :=
  let after := rest.drop 1
  if after.length < 5 then unmet .unicodeEscape rest
  else
    match hexNumber? (after.take 4) with
    | some n => .ok (n, after.drop 4)
    | none => unmet .unicodeEscape rest

def unicodeEscape (rest : List Char) : Except ReadError (Nat × List Char) := do
  let (n, after) ← codeUnit rest
  if isHighSurrogate n && 6 < after.length && after.take 2 == ['\\', 'u'] then
    let (low, beyond) ← codeUnit (after.drop 1)
    if isLowSurrogate low then .ok (0x10000 + (n - 0xD800) * 0x400 + (low - 0xDC00), beyond)
    else .ok (n, after)
  else .ok (n, after)

def isHalf (n : Nat) : Bool := isHighSurrogate n || isLowSurrogate n

def holdsHalf : Nat → List Char → Bool
  | 0, _ => false
  | _, [] => false
  | fuel + 1, '\\' :: 'u' :: rest =>
    match unicodeEscape ('u' :: rest) with
    | .ok (n, after) => isHalf n || holdsHalf fuel after
    | .error _ => holdsHalf fuel rest
  | fuel + 1, '\\' :: _ :: rest => holdsHalf fuel rest
  | fuel + 1, _ :: rest => holdsHalf fuel rest

def simpleEscape? : Char → Option Char
  | '"' => some '"'
  | '\\' => some '\\'
  | '/' => some '/'
  | 'b' => some '\x08'
  | 'f' => some '\x0c'
  | 'n' => some '\n'
  | 'r' => some '\r'
  | 't' => some '\t'
  | _ => none

/-- Reads to the closing quote, with the characters read so far in reverse. `opening` is the place
of the opening quote, and `fuel` bounds the number of characters. -/
def stringBody (opening : Nat) :
    Nat → List Char → List Char → Except ReadError (List Char × List Char)
  | _, _, [] => .error (.unmet .closingQuote opening)
  | 0, _, _ => .error (.unmet .closingQuote opening)
  | fuel + 1, done, c :: rest =>
    if c == '"' then .ok (done.reverse, rest)
    else if c == '\\' then
      match rest with
      | [] => .error (.unmet .closingQuote opening)
      | e :: after =>
        if e == 'u' then
          match unicodeEscape rest with
          | .error problem => .error problem
          | .ok (n, after) => stringBody opening fuel (Char.ofNat n :: done) after
        else
          match simpleEscape? e with
          | none => unmet .escape (c :: rest)
          | some d => stringBody opening fuel (d :: done) after
    else if c.toNat < 32 then unmet .noControlCharacter (c :: rest)
    else stringBody opening fuel (c :: done) rest

def string (rest : List Char) : Except ReadError (String × List Char) := do
  let (cs, after) ← stringBody (rest.length + 1) rest.length [] rest
  .ok (String.ofList cs, after)

def digitsValue (ds : List Char) : Nat := ds.foldl (fun n c => 10 * n + (c.toNat - 48)) 0

def fraction (cs : List Char) : List Char × List Char :=
  match cs with
  | '.' :: rest =>
    let ds := rest.takeWhile Char.isDigit
    if ds.isEmpty then ([], cs) else (ds, rest.dropWhile Char.isDigit)
  | _ => ([], cs)

def exponentPart (cs : List Char) : Option Int × List Char :=
  match cs with
  | e :: rest =>
    if e == 'e' || e == 'E' then
      let (negative, digits) := match rest with
        | '-' :: r => (true, r)
        | '+' :: r => (false, r)
        | r => (false, r)
      let ds := digits.takeWhile Char.isDigit
      if ds.isEmpty then (none, cs)
      else
        let n : Int := digitsValue ds
        (some (if negative then -n else n), digits.dropWhile Char.isDigit)
    else (none, cs)
  | [] => (none, cs)

def wholePart (cs : List Char) : List Char × List Char :=
  match cs with
  | '0' :: rest => (['0'], rest)
  | _ => (cs.takeWhile Char.isDigit, cs.dropWhile Char.isDigit)

def number (cs : List Char) : Except ReadError (Value × List Char) :=
  let (negative, body) := match cs with
    | '-' :: rest => (true, rest)
    | _ => (false, cs)
  let (whole, rest) := wholePart body
  if whole.isEmpty then unmet .value cs
  else
    let (decimals, rest) := fraction rest
    let (exponent, rest) := exponentPart rest
    if decimals.isEmpty && exponent.isNone then
      if maxDigits < whole.length then .error (.numeralTooLong whole.length)
      else
        let n : Int := digitsValue whole
        .ok (.int (if negative then -n else n), rest)
    else
      let digits := digitsValue (whole ++ decimals)
      .ok (.float (.ofDecimal negative digits (exponent.getD 0 - decimals.length)), rest)

def literals : List (List Char × Value) := [
  ("null".toList, .null), ("true".toList, .bool true), ("false".toList, .bool false),
  ("NaN".toList, .float .notNumber), ("Infinity".toList, .float (.infinite false)),
  ("-Infinity".toList, .float (.infinite true))]

def literal? (cs : List Char) : Option (Value × List Char) :=
  (literals.find? fun l => l.1.isPrefixOf cs).map fun l => (l.2, cs.drop l.1.length)

mutual
def value : Nat → List Char → Except ReadError (Value × List Char)
  | 0, cs => unmet .value cs
  | fuel + 1, cs =>
    match cs with
    | '"' :: rest => do
      let (s, after) ← string rest
      .ok (.text s, after)
    | '[' :: rest =>
      let rest := skipSpace rest
      match rest with
      | ']' :: after => .ok (.array [], after)
      | _ => do
        let (vs, after) ← items fuel rest
        .ok (.array vs, after)
    | '\x7b' :: rest =>
      let rest := skipSpace rest
      match rest with
      | '\x7d' :: after => .ok (.object [], after)
      | _ => do
        let (fs, after) ← fields fuel [] rest
        .ok (.object fs, after)
    | _ =>
      match literal? cs with
      | some (v, after) => .ok (v, after)
      | none => number cs

def items : Nat → List Char → Except ReadError (List Value × List Char)
  | 0, cs => unmet .value cs
  | fuel + 1, cs => do
    let (v, rest) ← value fuel cs
    let rest := skipSpace rest
    match rest with
    | ']' :: after => .ok ([v], after)
    | ',' :: after => do
      let (vs, after) ← items fuel (skipSpace after)
      .ok (v :: vs, after)
    | _ => unmet .comma rest

def fields : Nat → Fields → List Char → Except ReadError (Fields × List Char)
  | 0, _, cs => unmet .value cs
  | fuel + 1, known, cs =>
    match cs with
    | '"' :: rest => do
      let (key, rest) ← string rest
      let rest := skipSpace rest
      match rest with
      | ':' :: rest => do
        let (v, rest) ← value fuel (skipSpace rest)
        let known := known.insert key v
        let rest := skipSpace rest
        match rest with
        | '\x7d' :: after => .ok (known, after)
        | ',' :: after => fields fuel known (skipSpace after)
        | _ => unmet .comma rest
      | _ => unmet .colon rest
    | _ => unmet .propertyName cs
end

def document (cs : List Char) : Except ReadError Value := do
  if cs.head? == some (Char.ofNat 0xFEFF) then unmet .noByteOrderMark cs
  else
    let (v, rest) ← value (2 * cs.length + 2) (skipSpace cs)
    let rest := skipSpace rest
    if !rest.isEmpty then unmet .endOfText rest
    else if holdsHalf cs.length cs then .error .loneSurrogate
    else .ok v

end Reader

def lineColumn (cs : List Char) (left : Nat) : Nat × Nat :=
  let before := cs.take (cs.length - left)
  (before.count '\n' + 1, (before.reverse.takeWhile (· != '\n')).length + 1)

def normalizeBreaks : List Char → List Char
  | [] => []
  | '\r' :: '\n' :: rest => '\n' :: normalizeBreaks rest
  | c :: rest => (if c == '\r' then '\n' else c) :: normalizeBreaks rest

end SlotMarkup.Document
