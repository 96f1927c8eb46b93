import SlotMarkup.Host.Expr

/-! Neighbouring dynamic attributes share one slot, whose value is one dictionary. -/

namespace SlotMarkup

open SlotMarkup.Host (Expr Entry)

def entriesOf : Expr → List Entry
  | .dict entries => entries
  | e => [.mk none e]

def mergeValues (last added : Expr) : Expr := .dict (entriesOf last ++ entriesOf added)

def extendRun (run : Option Expr) (added : Expr) : Expr :=
  match run with
  | none => added
  | some last => mergeValues last added

/-- The slots that have been opened, and the value of the run that is still open. -/
structure Merger where
  slots : List Expr
  run : Option Expr

namespace Merger

def empty : Merger := ⟨[], none⟩

def push (m : Merger) (e : Expr) : Merger :=
  match m.run with
  | none => ⟨m.slots ++ [e], some e⟩
  | some last => ⟨m.slots.dropLast ++ [mergeValues last e], some (mergeValues last e)⟩

def reset (m : Merger) : Merger := { m with run := none }

end Merger

end SlotMarkup
