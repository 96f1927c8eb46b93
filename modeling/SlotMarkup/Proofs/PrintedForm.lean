import SlotMarkup.Host.Printer

/-! Which expressions have a source text. The place of an expression and the way its parts are put
together never stand in the way: an expression can be printed if its constants and formatted texts
can, and the only constants without a text are whole numbers of too many digits. -/

namespace SlotMarkup.Host

inductive Literal where
  | constant (value : Constant)
  | format (pieces : List Piece)

namespace Literal

def print (plain : Bool) : Literal → Printed
  | .constant c => c.print plain
  | .format pieces => (Expr.format pieces).printAt plain .test

def isWritable (plain : Bool) (l : Literal) : Bool := (l.print plain).isOk

end Literal

mutual
/-- The constants and formatted texts that an expression is made of. What a formatted text holds is
not looked into. -/
def Expr.literals : Expr → List Literal
  | .name _ => []
  | .constant c => [.constant c]
  | .attribute value _ => value.literals
  | .subscript value index => value.literals ++ index.literals
  | .call func args keywords => func.literals ++ (literalsAll args ++ literalsKeywords keywords)
  | .starred value => value.literals
  | .unary _ operand => operand.literals
  | .binary _ left right => left.literals ++ right.literals
  | .boolean _ values => literalsAll values
  | .compare left rest => left.literals ++ literalsComparisons rest
  | .conditional body test orElse => body.literals ++ (test.literals ++ orElse.literals)
  | .function (.mk positional regular _ byName _) body =>
    literalsParameters positional ++
      (literalsParameters regular ++ (literalsParameters byName ++ body.literals))
  | .tuple items => literalsAll items
  | .list items => literalsAll items
  | .set items => literalsAll items
  | .dict entries => literalsEntries entries
  | .comprehension _ item clauses => item.literals ++ literalsClauses clauses
  | .dictComprehension key value clauses =>
    key.literals ++ (value.literals ++ literalsClauses clauses)
  | .named target value => target.literals ++ value.literals
  | .await value => value.literals
  | .yield value => literalsOptional value
  | .yieldFrom value => value.literals
  | .slice lower upper step =>
    literalsOptional lower ++ (literalsOptional upper ++ literalsOptional step)
  | .format pieces => [.format pieces]

def literalsAll : List Expr → List Literal
  | [] => []
  | e :: es => e.literals ++ literalsAll es

def literalsOptional : Option Expr → List Literal
  | none => []
  | some e => e.literals

def literalsKeywords : List Keyword → List Literal
  | [] => []
  | .mk _ value :: ks => value.literals ++ literalsKeywords ks

def literalsComparisons : List Comparison → List Literal
  | [] => []
  | .mk _ right :: cs => right.literals ++ literalsComparisons cs

def literalsEntries : List Entry → List Literal
  | [] => []
  | .mk key value :: es => literalsOptional key ++ (value.literals ++ literalsEntries es)

def literalsClauses : List Clause → List Literal
  | [] => []
  | .mk _ target source conditions :: cs =>
    target.literals ++ (source.literals ++ (literalsAll conditions ++ literalsClauses cs))

def literalsParameters : List Parameter → List Literal
  | [] => []
  | .mk _ default :: ps => literalsOptional default ++ literalsParameters ps
end

section Sequence

variable {ε α β γ δ ζ : Type}

theorem isOk_bind {x : Except ε α} {f : α → Except ε β} {b : Bool} (h : ∀ a, (f a).isOk = b) :
    (x >>= f).isOk = (x.isOk && b) := by
  cases x with
  | error e => rfl
  | ok a => exact h a

theorem isOk_map (x : Except ε α) (f : α → β) : (x >>= fun a => .ok (f a)).isOk = x.isOk := by
  cases x <;> rfl

theorem isOk_two (x : Except ε α) (y : Except ε β) (f : α → β → γ) :
    (x >>= fun a => y >>= fun b => .ok (f a b)).isOk = (x.isOk && y.isOk) :=
  isOk_bind fun a => isOk_map y (f a)

theorem isOk_three (x : Except ε α) (y : Except ε β) (z : Except ε γ) (f : α → β → γ → δ) :
    (x >>= fun a => y >>= fun b => z >>= fun c => .ok (f a b c)).isOk =
      (x.isOk && (y.isOk && z.isOk)) :=
  isOk_bind fun a => isOk_two y z (f a)

theorem isOk_four (x : Except ε α) (y : Except ε β) (z : Except ε γ) (w : Except ε δ)
    (f : α → β → γ → δ → ζ) :
    (x >>= fun a => y >>= fun b => z >>= fun c => w >>= fun d => .ok (f a b c d)).isOk =
      (x.isOk && (y.isOk && (z.isOk && w.isOk))) :=
  isOk_bind fun a => isOk_three y z w (f a)

end Sequence

mutual
/-- In any place, an expression can be printed just if each of its literals can. -/
theorem isOk_printAt (plain : Bool) (place : Level) :
    (e : Expr) → (e.printAt plain place).isOk = e.literals.all (Literal.isWritable plain)
  | .name id => rfl
  | .constant c => (Bool.and_true _).symm
  | .attribute value attr => by
    rw [Expr.printAt, Expr.literals, isOk_map, isOk_printAt plain _ value]
  | .subscript value index => by
    rw [Expr.printAt, Expr.literals, isOk_two, List.all_append, isOk_printAt plain _ value,
      isOk_printAt plain _ index]
  | .call func args keywords => by
    rw [Expr.printAt, Expr.literals, isOk_three, List.all_append, List.all_append,
      isOk_printAt plain _ func, isOk_printAll plain _ args, isOk_printKeywords plain keywords]
  | .starred value => by
    rw [Expr.printAt, Expr.literals, isOk_map, isOk_printAt plain _ value]
  | .unary op operand => by
    rw [Expr.printAt, Expr.literals, isOk_map, isOk_printAt plain _ operand]
  | .binary op left right => by
    rw [Expr.printAt, Expr.literals, isOk_two, List.all_append, isOk_printAt plain _ left,
      isOk_printAt plain _ right]
  | .boolean op values => by
    rw [Expr.printAt, Expr.literals, isOk_map, isOk_printRising plain _ values]
  | .compare left rest => by
    rw [Expr.printAt, Expr.literals, isOk_two, List.all_append, isOk_printAt plain _ left,
      isOk_printComparisons plain rest]
  | .conditional body test orElse => by
    rw [Expr.printAt, Expr.literals, isOk_three, List.all_append, List.all_append,
      isOk_printAt plain _ body, isOk_printAt plain _ test, isOk_printAt plain _ orElse]
  | .function (.mk positional regular rest byName names) body => by
    rw [Expr.printAt, Expr.literals, List.all_append, List.all_append, List.all_append,
      ← isOk_printParameters plain positional, ← isOk_printParameters plain regular,
      ← isOk_printParameters plain byName, ← isOk_printAt plain .test body]
    exact isOk_four ..
  | .tuple items => by
    rw [Expr.printAt, Expr.literals, ← isOk_printAll plain .test items]
    cases items.isEmpty <;> exact isOk_map ..
  | .list items => by
    rw [Expr.printAt, Expr.literals, isOk_map, isOk_printAll plain _ items]
  | .set items => by
    rw [Expr.printAt, Expr.literals, isOk_map, isOk_printAll plain _ items]
  | .dict entries => by
    rw [Expr.printAt, Expr.literals, isOk_map, isOk_printEntries plain entries]
  | .comprehension kind item clauses => by
    rw [Expr.printAt, Expr.literals, isOk_two, List.all_append, isOk_printAt plain _ item,
      isOk_printClauses plain clauses]
  | .dictComprehension key value clauses => by
    rw [Expr.printAt, Expr.literals, isOk_three, List.all_append, List.all_append,
      isOk_printAt plain _ key, isOk_printAt plain _ value, isOk_printClauses plain clauses]
  | .named target value => by
    rw [Expr.printAt, Expr.literals, isOk_two, List.all_append, isOk_printAt plain _ target,
      isOk_printAt plain _ value]
  | .await value => by
    rw [Expr.printAt, Expr.literals, isOk_map, isOk_printAt plain _ value]
  | .yield none => rfl
  | .yield (some value) => by
    rw [Expr.printAt, Expr.literals, literalsOptional, isOk_map, isOk_printAt plain _ value]
  | .yieldFrom value => by
    rw [Expr.printAt, Expr.literals, isOk_map, isOk_printAt plain _ value]
  | .slice lower upper step => by
    rw [Expr.printAt, Expr.literals, isOk_three, List.all_append, List.all_append,
      isOk_printOptional plain _ lower, isOk_printOptional plain _ upper,
      isOk_printOptional plain _ step]
  | .format pieces => (Bool.and_true _).symm

theorem isOk_printAll (plain : Bool) (place : Level) :
    (es : List Expr) → (printAll plain place es).isOk = (literalsAll es).all (Literal.isWritable plain)
  | [] => rfl
  | e :: es => by
    rw [printAll, literalsAll, isOk_two, List.all_append, isOk_printAt plain _ e,
      isOk_printAll plain _ es]

theorem isOk_printRising (plain : Bool) (place : Level) :
    (es : List Expr) → (printRising plain place es).isOk = (literalsAll es).all (Literal.isWritable plain)
  | [] => rfl
  | e :: es => by
    rw [printRising, literalsAll, isOk_two, List.all_append, isOk_printAt plain _ e,
      isOk_printRising plain _ es]

theorem isOk_printOptional (plain : Bool) (lead : String) :
    (e : Option Expr) →
      (printOptional plain lead e).isOk = (literalsOptional e).all (Literal.isWritable plain)
  | none => rfl
  | some e => by
    rw [printOptional, literalsOptional, isOk_map, isOk_printAt plain _ e]

theorem isOk_printKeywords (plain : Bool) :
    (ks : List Keyword) →
      (printKeywords plain ks).isOk = (literalsKeywords ks).all (Literal.isWritable plain)
  | [] => rfl
  | .mk name value :: ks => by
    rw [printKeywords, literalsKeywords, isOk_two, List.all_append, isOk_printAt plain _ value,
      isOk_printKeywords plain ks]

theorem isOk_printComparisons (plain : Bool) :
    (cs : List Comparison) →
      (printComparisons plain cs).isOk = (literalsComparisons cs).all (Literal.isWritable plain)
  | [] => rfl
  | .mk op right :: cs => by
    rw [printComparisons, literalsComparisons, isOk_two, List.all_append,
      isOk_printAt plain _ right, isOk_printComparisons plain cs]

theorem isOk_printEntries (plain : Bool) :
    (es : List Entry) →
      (printEntries plain es).isOk = (literalsEntries es).all (Literal.isWritable plain)
  | [] => rfl
  | .mk (some key) value :: es => by
    rw [printEntries, literalsEntries, literalsOptional, isOk_three, List.all_append,
      List.all_append, isOk_printAt plain _ key, isOk_printAt plain _ value,
      isOk_printEntries plain es]
  | .mk none value :: es => by
    rw [printEntries, literalsEntries, literalsOptional, isOk_two, List.nil_append,
      List.all_append, isOk_printAt plain _ value, isOk_printEntries plain es]

theorem isOk_printClauses (plain : Bool) :
    (cs : List Clause) →
      (printClauses plain cs).isOk = (literalsClauses cs).all (Literal.isWritable plain)
  | [] => rfl
  | .mk async target source conditions :: cs => by
    rw [printClauses, literalsClauses, isOk_four, List.all_append, List.all_append,
      List.all_append, isOk_printAt plain _ target, isOk_printAt plain _ source,
      isOk_printAll plain _ conditions, isOk_printClauses plain cs]

theorem isOk_printParameters (plain : Bool) :
    (ps : List Parameter) →
      (printParameters plain ps).isOk = (literalsParameters ps).all (Literal.isWritable plain)
  | [] => rfl
  | .mk name default :: ps => by
    rw [printParameters, literalsParameters, isOk_two, List.all_append,
      isOk_printOptional plain _ default, isOk_printParameters plain ps]
end

theorem isOk_iff {ε α : Type} {x : Except ε α} : x.isOk = true ↔ ∃ a, x = .ok a := by
  cases x with
  | error e => exact iff_of_false nofun nofun
  | ok a => exact iff_of_true rfl ⟨a, rfl⟩

def Expr.IsPrintable (e : Expr) : Prop := ∀ l ∈ e.literals, l.isWritable false = true

instance (e : Expr) : Decidable e.IsPrintable := inferInstanceAs (Decidable (∀ l ∈ e.literals, _))

def Entry.IsPrintable : Entry → Prop
  | .mk key value => (∀ k, key = some k → k.IsPrintable) ∧ value.IsPrintable

theorem Expr.print_eq_ok_iff (e : Expr) : (∃ s, e.print = .ok s) ↔ e.IsPrintable := by
  rw [← isOk_iff, Expr.print, isOk_printAt, List.all_eq_true]
  rfl

theorem Literal.isWritable_eq_false_iff (plain : Bool) (l : Literal) :
    l.isWritable plain = false ↔
      (∃ n, l = .constant (.int n) ∧ maxIntegerDigits < Decimal.decimalLength n) ∨
        ∃ pieces problem, l = .format pieces ∧ printPieces pieces = .error problem := by
  cases l with
  | constant c =>
    cases c with
    | int n =>
      rw [isWritable, print, Constant.print]
      split
      next hlong => exact iff_of_true rfl (.inl ⟨n, rfl, hlong⟩)
      next hshort =>
        refine iff_of_false nofun ?_
        rintro (⟨m, hm, hlong⟩ | ⟨pieces, problem, hpieces, -⟩)
        · cases hm
          exact hshort hlong
        · cases hpieces
    | _ =>
      refine iff_of_false nofun ?_
      rintro (⟨m, hm, -⟩ | ⟨pieces, problem, hpieces, -⟩)
      · cases hm
      · cases hpieces
  | format pieces =>
    rw [isWritable, print, Expr.printAt, isOk_map]
    cases hprinted : printPieces pieces with
    | error problem => exact iff_of_true rfl (.inr ⟨pieces, problem, rfl, hprinted⟩)
    | ok texts =>
      refine iff_of_false nofun ?_
      rintro (⟨m, hm, -⟩ | ⟨pieces', problem, hpieces, hproblem⟩)
      · cases hm
      · cases hpieces
        cases hprinted.symm.trans hproblem

theorem Expr.isPrintable_iff (e : Expr) :
    e.IsPrintable ↔
      (∀ n, Literal.constant (.int n) ∈ e.literals → Decimal.decimalLength n ≤ maxIntegerDigits) ∧
        ∀ pieces, Literal.format pieces ∈ e.literals → ∃ texts, printPieces pieces = .ok texts := by
  constructor
  · intro h
    have hwritable : ∀ l ∈ e.literals, l.isWritable false ≠ false := by
      intro l hl
      rw [h l hl]
      exact Bool.noConfusion
    refine ⟨fun n hn => ?_, fun pieces hpieces => ?_⟩
    · refine Nat.not_lt.mp fun hlong => hwritable _ hn ?_
      exact (Literal.isWritable_eq_false_iff false _).mpr (.inl ⟨n, rfl, hlong⟩)
    · cases hprinted : printPieces pieces with
      | ok texts => exact ⟨texts, rfl⟩
      | error problem =>
        refine absurd ?_ (hwritable _ hpieces)
        exact (Literal.isWritable_eq_false_iff false _).mpr (.inr ⟨pieces, problem, rfl, hprinted⟩)
  · rintro ⟨hnumbers, hformats⟩ l hl
    refine Bool.not_eq_false _ |>.mp fun hunwritable => ?_
    rcases (Literal.isWritable_eq_false_iff false l).mp hunwritable with
      ⟨n, rfl, hlong⟩ | ⟨pieces, problem, rfl, hproblem⟩
    · exact absurd hlong (Nat.not_lt.mpr (hnumbers n hl))
    · obtain ⟨texts, htexts⟩ := hformats pieces hl
      cases htexts.symm.trans hproblem

section Shapes

@[simp] theorem isPrintable_name (id : String) : (Expr.name id).IsPrintable := List.forall_mem_nil _

@[simp] theorem isPrintable_ofText (s : String) : (Expr.ofText s).IsPrintable :=
  List.forall_mem_singleton.mpr rfl

theorem isPrintable_all {es : List Expr} :
    (∀ l ∈ literalsAll es, l.isWritable false = true) ↔ ∀ e ∈ es, e.IsPrintable := by
  induction es with
  | nil => exact iff_of_true (List.forall_mem_nil _) (List.forall_mem_nil _)
  | cons e es ih => rw [literalsAll, List.forall_mem_append, ih, List.forall_mem_cons]; rfl

theorem isPrintable_tuple {items : List Expr} :
    (Expr.tuple items).IsPrintable ↔ ∀ e ∈ items, e.IsPrintable := isPrintable_all

theorem isPrintable_call {func : Expr} {args : List Expr} :
    (Expr.call func args []).IsPrintable ↔ func.IsPrintable ∧ ∀ a ∈ args, a.IsPrintable := by
  rw [Expr.IsPrintable, Expr.literals, literalsKeywords, List.append_nil, List.forall_mem_append,
    isPrintable_all]
  rfl

theorem isPrintable_dict {entries : List Entry} :
    (Expr.dict entries).IsPrintable ↔ ∀ entry ∈ entries, entry.IsPrintable := by
  rw [Expr.IsPrintable, Expr.literals]
  induction entries with
  | nil => exact iff_of_true (List.forall_mem_nil _) (List.forall_mem_nil _)
  | cons entry entries ih =>
    obtain ⟨key, value⟩ := entry
    rw [literalsEntries, List.forall_mem_append, List.forall_mem_append, ih, List.forall_mem_cons,
      ← and_assoc]
    refine and_congr_left' (and_congr_left' ?_)
    cases key with
    | none => exact iff_of_true (List.forall_mem_nil _) nofun
    | some k => exact ⟨fun h k' hk => by cases hk; exact h, fun h => h k rfl⟩

end Shapes

end SlotMarkup.Host
