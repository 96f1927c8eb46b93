import SlotMarkup.Host.Expr

/-! Tokens of the host language. -/

namespace SlotMarkup.Host

/-- Reserved words. Those that open statements beyond imports and assignments are `other`. -/
inductive Word where
  | falseWord
  | noneWord
  | trueWord
  | andWord
  | asWord
  | asyncWord
  | awaitWord
  | elseWord
  | forWord
  | fromWord
  | ifWord
  | importWord
  | inWord
  | isWord
  | lambdaWord
  | notWord
  | orWord
  | passWord
  | yieldWord
  | otherWord
deriving DecidableEq, Repr

def Word.table : List (String × Word) := [
  ("False", .falseWord), ("None", .noneWord), ("True", .trueWord), ("and", .andWord),
  ("as", .asWord), ("assert", .otherWord), ("async", .asyncWord), ("await", .awaitWord),
  ("break", .otherWord), ("class", .otherWord), ("continue", .otherWord), ("def", .otherWord),
  ("del", .otherWord), ("elif", .otherWord), ("else", .elseWord), ("except", .otherWord),
  ("finally", .otherWord), ("for", .forWord), ("from", .fromWord), ("global", .otherWord),
  ("if", .ifWord), ("import", .importWord), ("in", .inWord), ("is", .isWord),
  ("lambda", .lambdaWord), ("nonlocal", .otherWord), ("not", .notWord), ("or", .orWord),
  ("pass", .passWord), ("raise", .otherWord), ("return", .otherWord), ("try", .otherWord),
  ("while", .otherWord), ("with", .otherWord), ("yield", .yieldWord)]

def Word.ofString? (s : String) : Option Word := Word.table.lookup s

inductive Sign where
  | parenOpen
  | parenClose
  | bracketOpen
  | bracketClose
  | braceOpen
  | braceClose
  | comma
  | colon
  | semicolon
  | dot
  | ellipsis
  | assign
  | walrus
  | plus
  | minus
  | star
  | doubleStar
  | slash
  | doubleSlash
  | percent
  | atSign
  | pipe
  | caret
  | ampersand
  | tilde
  | shiftLeft
  | shiftRight
  | less
  | greater
  | lessEqual
  | greaterEqual
  | equal
  | notEqual
  | other
deriving DecidableEq, Repr

structure Marks where
  raw : Bool
  bytes : Bool
  format : Bool
  text : Bool
deriving DecidableEq, Repr

inductive Token where
  | name (id : String)
  | word (w : Word)
  | number (value : Constant)
  | string (marks : Marks) (body : List Char)
  | sign (s : Sign)
  | newline
deriving DecidableEq, Repr

end SlotMarkup.Host
