/-! Settings of a compilation. -/

namespace SlotMarkup

/-- What a compilation gets from the interpreter of the host language and not from its grammar: the
characters that have names, and the words in which a source is refused that is no expression. -/
structure Host.Interpreter where
  named : List Char → Option Char
  complaint : List Char → String

def Host.Interpreter.bare : Host.Interpreter where
  named _ := none
  complaint _ := "<syntax>"

structure Config where
  runtimeModule : String
  jsxName : String
  htmlName : String
  placeholder : String
  maxDepth : Int
  host : Host.Interpreter

def Config.standard : Config where
  runtimeModule := "tagwire.runtime.jsx_runtime"
  jsxName := "_tagwire_jsx"
  htmlName := "_tagwire_html"
  placeholder := "\x7b\x7btagwire\x7d\x7d"
  maxDepth := 256
  host := .bare

def Config.placeholderComment (c : Config) : String := "<!--" ++ c.placeholder ++ "-->"

end SlotMarkup
