import SlotMarkup.Attribute.Value
import SlotMarkup.Host.Printer
import SlotMarkup.Proofs.ElementCalls
import SlotMarkup.Proofs.IdentifierTokens

/-! References to components. A reference is written as the name of the component, and reads back as a
reference unless a part of that name is reserved: being an identifier does not tell names from reserved
words. -/

namespace SlotMarkup.Host

open SlotMarkup.Text (isIdentifier compatible)
open SlotMarkup.Host.Lexer (identifierToken pointedTokens isFree)

def Expr.chain (e : Expr) (words : List (List Char)) : Expr :=
  words.foldl (fun e word => .attribute e (String.ofList word)) e

def Expr.names? : Expr → Option (List String)
  | .name id => some [id]
  | .attribute value attr => value.names?.map (· ++ [attr])
  | _ => none

theorem Expr.names?_chain (e : Expr) (words : List (List Char)) :
    (e.chain words).names? = e.names?.map (· ++ words.map String.ofList) := by
  induction words generalizing e with
  | nil => simp [chain]
  | cons word words ih =>
    have hchain : e.chain (word :: words) = (Expr.attribute e (String.ofList word)).chain words := rfl
    rw [hchain, ih, names?]
    simp [Function.comp_def]

theorem Expr.printAt_chain {e : Expr} {s : String} (hprint : ∀ place, e.printAt false place = .ok s)
    (hnumber : e.isWholeNumber = false) (words : List (List Char)) (place : Level) :
    (e.chain words).printAt false place = .ok (s ++ String.ofList (words.flatMap ('.' :: ·))) := by
  induction words generalizing e s with
  | nil => simpa [chain] using hprint place
  | cons word words ih =>
    have hattribute : ∀ place, (Expr.attribute e (String.ofList word)).printAt false place =
        .ok (s ++ "." ++ String.ofList word) := by
      intro place
      rw [printAt, hprint, hnumber]
      rfl
    have hchain := ih hattribute rfl
    have htext : s ++ "." ++ String.ofList word ++ String.ofList (words.flatMap ('.' :: ·)) =
        s ++ String.ofList ((word :: words).flatMap ('.' :: ·)) := by
      apply String.toList_injective
      simp
    rwa [htext] at hchain

namespace Parser

def isPlainStart : Tokens → Bool
  | .word .lambdaWord :: _ => false
  | .word .notWord :: _ => false
  | .word .awaitWord :: _ => false
  | .sign s :: _ => (unaryOp? s).isNone
  | _ => true

def Exhausts (r : Option (Expr × Tokens)) : Prop := ∀ e rest, r = some (e, rest) → rest = []

theorem Exhausts.bind_eq {r : Option (Expr × Tokens)} (hread : Exhausts r)
    {f : Expr × Tokens → Option (Expr × Tokens)} (hf : ∀ e, f (e, []) = some (e, [])) : r >>= f = r := by
  cases r with
  | none => rfl
  | some p =>
    obtain ⟨e, rest⟩ := p
    obtain rfl := hread e rest rfl
    exact hf e

section Descent

variable {fuel : Nat} {ts : Tokens}

theorem awaited_eq_primary (hstart : isPlainStart ts = true) : awaited (fuel + 1) ts = primary fuel ts := by
  rw [awaited]
  rintro rest rfl
  cases hstart

theorem power_eq_primary (hstart : isPlainStart ts = true) (hread : Exhausts (primary fuel ts)) :
    power (fuel + 2) ts = primary fuel ts := by
  rw [power, awaited_eq_primary hstart]
  exact hread.bind_eq fun e => rfl

theorem factor_eq_primary (hstart : isPlainStart ts = true) (hread : Exhausts (primary fuel ts)) :
    factor (fuel + 3) ts = primary fuel ts := by
  have hpower := power_eq_primary hstart hread
  unfold factor
  dsimp only
  split
  next s rest =>
    have hsign : unaryOp? s = none := by simpa [isPlainStart] using hstart
    rw [hsign]
    exact hpower
  next => exact hpower

theorem binary_eq_primary (hstart : isPlainStart ts = true) (hread : Exhausts (primary fuel ts)) (n : Nat)
    (hn : n ≤ binaryLevels) : binary (fuel + n + 4) (binaryLevels - n) ts = primary fuel ts := by
  -- From the innermost level outwards, with one unit of fuel for each.
  induction n with
  | zero => exact factor_eq_primary hstart hread
  | succ n ih =>
    have hlevel : binaryLevels - (n + 1) < binaryLevels := by omega
    have hnext : binaryLevels - (n + 1) + 1 = binaryLevels - n := by omega
    change binary (fuel + n + 4 + 1) _ ts = _
    rw [binary, if_pos hlevel, hnext, ih (by omega)]
    exact hread.bind_eq fun e => rfl

theorem comparison_eq_primary (hstart : isPlainStart ts = true) (hread : Exhausts (primary fuel ts)) :
    comparison (fuel + 11) ts = primary fuel ts := by
  have hbinary : binary (fuel + 10) 0 ts = primary fuel ts :=
    binary_eq_primary hstart hread binaryLevels (Nat.le_refl _)
  rw [comparison, hbinary]
  exact hread.bind_eq fun e => rfl

theorem disjunction_eq_primary (hstart : isPlainStart ts = true) (hread : Exhausts (primary fuel ts)) :
    disjunction (fuel + 14) ts = primary fuel ts := by
  have hinversion : inversion (fuel + 12) ts = primary fuel ts := by
    rw [inversion, comparison_eq_primary hstart hread]
    rintro rest rfl
    cases hstart
  have hconjunction : conjunction (fuel + 13) ts = primary fuel ts := by
    rw [conjunction, hinversion]
    exact hread.bind_eq fun e => rfl
  rw [disjunction, hconjunction]
  exact hread.bind_eq fun e => rfl

theorem expression_eq_primary (hstart : isPlainStart ts = true) (hread : Exhausts (primary fuel ts)) :
    expression (fuel + 15) ts = primary fuel ts := by
  rw [expression, disjunction_eq_primary hstart hread]
  · exact hread.bind_eq fun e => rfl
  · rintro rest rfl
    cases hstart

end Descent

theorem parseExpr_of_tokens {named : List Char → Option Char} {cs : List Char} {ts : Tokens}
    (htokens : Lexer.tokens cs = some ts) (hresolved : ts.map (resolve named) = ts)
    (hread : Exhausts (expression (fuelFor cs.length) ts)) :
    parseExpr named cs = (expression (fuelFor cs.length) ts).map Prod.fst := by
  rw [parseExpr, htokens]
  change (do
    let p ← bareExpressions (fuelFor cs.length) (ts.map (resolve named))
    if onlyBreaks p.2 then some p.1 else none) = _
  rw [hresolved, bareExpressions, commaList]
  cases h : expression (fuelFor cs.length) ts with
  | none => rfl
  | some p =>
    obtain ⟨e, rest⟩ := p
    obtain rfl := hread e rest h
    rfl

section Chains

theorem resolve_identifierToken (named : List Char → Option Char) (word : List Char) :
    resolve named (identifierToken word) = identifierToken word := by
  cases hfree : isFree word with
  | true =>
    rw [Lexer.identifierToken_of_free hfree]
    rfl
  | false =>
    obtain ⟨w, hw⟩ := Lexer.identifierToken_of_reserved hfree
    rw [hw]
    rfl

theorem map_resolve_chain (named : List Char → Option Char) (first : List Char) (words : List (List Char)) :
    (identifierToken first :: pointedTokens words).map (resolve named) =
      identifierToken first :: pointedTokens words := by
  rw [List.map_cons, resolve_identifierToken, pointedTokens, List.map_flatMap]
  simp only [List.map_cons, List.map_nil, resolve_identifierToken]
  rfl

theorem trailers_pointed (e : Expr) {words : List (List Char)} {fuel : Nat} (hfuel : words.length < fuel) :
    trailers fuel e (pointedTokens words) =
      if words.all isFree then some (e.chain (words.map compatible), []) else none := by
  induction words generalizing e fuel with
  | nil =>
    obtain ⟨fuel, rfl⟩ := Nat.exists_eq_add_one_of_ne_zero (Nat.ne_of_gt hfuel)
    rfl
  | cons word words ih =>
    obtain ⟨fuel, rfl⟩ := Nat.exists_eq_add_one_of_ne_zero (Nat.ne_zero_of_lt hfuel)
    have htokens : pointedTokens (word :: words) = .sign .dot :: identifierToken word :: pointedTokens words := rfl
    cases hfree : isFree word with
    | true =>
      rw [htokens, Lexer.identifierToken_of_free hfree, trailers, ih _ (Nat.lt_of_succ_lt_succ hfuel)]
      simp only [List.all_cons, hfree, Bool.true_and]
      rfl
    | false =>
      obtain ⟨w, hw⟩ := Lexer.identifierToken_of_reserved hfree
      rw [htokens, hw, List.all_cons, hfree]
      rfl

theorem exhausts_trailers (e : Expr) {words : List (List Char)} {fuel : Nat} (hfuel : words.length < fuel) :
    Exhausts (trailers fuel e (pointedTokens words)) := by
  intro e' rest h
  rw [trailers_pointed e hfuel] at h
  split at h
  · cases h
    rfl
  · cases h

theorem expression_of_atom {t : Token} {e : Expr} {words : List (List Char)} {fuel : Nat}
    (hstart : isPlainStart (t :: pointedTokens words) = true)
    (hatom : atom fuel (t :: pointedTokens words) = some (e, pointedTokens words)) (hfuel : words.length < fuel) :
    expression (fuel + 16) (t :: pointedTokens words) = trailers fuel e (pointedTokens words) := by
  have hprimary : primary (fuel + 1) (t :: pointedTokens words) = trailers fuel e (pointedTokens words) := by
    rw [primary, hatom]
    rfl
  have hread := exhausts_trailers e hfuel
  rw [← hprimary] at hread ⊢
  exact expression_eq_primary hstart hread

/-- A reserved word starts no reference: it is a constant, or what it opens cannot go on with a point. -/
theorem expression_word (w : Word) {words : List (List Char)} {fuel : Nat} (hfuel : words.length < fuel) :
    expression (fuel + 16) (.word w :: pointedTokens words) = none ∨
      ∃ c, expression (fuel + 16) (.word w :: pointedTokens words) =
        trailers fuel (.constant c) (pointedTokens words) := by
  obtain ⟨fuel, rfl⟩ := Nat.exists_eq_add_one_of_ne_zero (Nat.ne_zero_of_lt hfuel)
  cases w with
  | trueWord => exact .inr ⟨_, expression_of_atom rfl rfl hfuel⟩
  | falseWord => exact .inr ⟨_, expression_of_atom rfl rfl hfuel⟩
  | noneWord => exact .inr ⟨_, expression_of_atom rfl rfl hfuel⟩
  -- these three take an operand, and neither a point nor the end of the text begins one
  | lambdaWord => cases words <;> exact .inl rfl
  | notWord => cases words <;> cases fuel <;> exact .inl rfl
  | awaitWord => cases words <;> exact .inl rfl
  | _ => exact .inl rfl

variable {named : List Char → Option Char} {first : List Char} {words : List (List Char)}

theorem expression_of_free (hfirst : isFree first = true) {fuel : Nat} (hfuel : words.length + 17 ≤ fuel) :
    expression fuel (identifierToken first :: pointedTokens words) =
      if words.all isFree then
        some ((Expr.name (String.ofList (compatible first))).chain (words.map compatible), [])
      else none := by
  obtain ⟨fuel, rfl⟩ : ∃ n, fuel = n + 1 + 16 := ⟨fuel - 17, by omega⟩
  rw [Lexer.identifierToken_of_free hfirst, expression_of_atom rfl rfl (by omega), trailers_pointed _ (by omega)]

theorem expression_of_reserved (hfirst : isFree first = false) {fuel : Nat} (hfuel : words.length + 17 ≤ fuel)
    {e : Expr} {rest : Tokens}
    (h : expression fuel (identifierToken first :: pointedTokens words) = some (e, rest)) :
    e.names? = none ∧ rest = [] := by
  obtain ⟨w, hw⟩ := Lexer.identifierToken_of_reserved hfirst
  obtain ⟨fuel, rfl⟩ : ∃ n, fuel = n + 16 := ⟨fuel - 16, by omega⟩
  rw [hw] at h
  have hlength : words.length < fuel := by omega
  rcases expression_word w hlength with hnone | ⟨c, hconstant⟩
  · rw [hnone] at h
    cases h
  · rw [hconstant, trailers_pointed _ hlength] at h
    split at h
    · cases h
      exact ⟨Expr.names?_chain _ _, rfl⟩
    · cases h

theorem exhausts_chain {fuel : Nat} (hfuel : words.length + 17 ≤ fuel) :
    Exhausts (expression fuel (identifierToken first :: pointedTokens words)) := by
  intro e rest h
  cases hfirst : isFree first with
  | true =>
    rw [expression_of_free hfirst hfuel] at h
    split at h
    · cases h
      rfl
    · cases h
  | false => exact (expression_of_reserved hfirst hfuel h).2

theorem parseExpr_identifiers (hwords : ∀ word ∈ first :: words, isIdentifier word = true) :
    ∃ fuel, words.length + 17 ≤ fuel ∧ parseExpr named (first ++ words.flatMap ('.' :: ·)) =
      (expression fuel (identifierToken first :: pointedTokens words)).map Prod.fst := by
  have hlength := Text.length_le_flatMap_cons '.' words
  have hfuel : words.length + 17 ≤ fuelFor (first ++ words.flatMap ('.' :: ·)).length := by
    rw [fuelFor, List.length_append]
    omega
  exact ⟨_, hfuel,
    parseExpr_of_tokens (Lexer.tokens_chain hwords) (map_resolve_chain ..) (exhausts_chain hfuel)⟩

theorem parseExpr_of_free (hwords : ∀ word ∈ first :: words, isIdentifier word = true)
    (hfree : ∀ word ∈ first :: words, isFree word = true) :
    parseExpr named (first ++ words.flatMap ('.' :: ·)) =
      some ((Expr.name (String.ofList (compatible first))).chain (words.map compatible)) := by
  obtain ⟨hfirst, hrest⟩ := List.forall_mem_cons.mp hfree
  obtain ⟨fuel, hfuel, hparse⟩ := parseExpr_identifiers hwords
  rw [hparse, expression_of_free hfirst hfuel, if_pos (List.all_eq_true.mpr hrest)]
  rfl

theorem free_of_parseExpr (hwords : ∀ word ∈ first :: words, isIdentifier word = true) {e : Expr}
    (hparse : parseExpr named (first ++ words.flatMap ('.' :: ·)) = some e) (hnames : e.names? ≠ none) :
    ∀ word ∈ first :: words, isFree word = true := by
  obtain ⟨fuel, hfuel, hexpression⟩ := parseExpr_identifiers hwords
  obtain ⟨⟨e, rest⟩, hread, rfl⟩ := Option.map_eq_some_iff.mp (hexpression.symm.trans hparse)
  cases hfirst : isFree first with
  | false => exact absurd (expression_of_reserved hfirst hfuel hread).1 hnames
  | true =>
    rw [expression_of_free hfirst hfuel] at hread
    split at hread
    next hall => exact List.forall_mem_cons.mpr ⟨hfirst, List.all_eq_true.mp hall⟩
    next => cases hread

end Chains

end Parser

end SlotMarkup.Host

namespace SlotMarkup

open SlotMarkup.Host

/-- The reference to a component has the parts of its name as names, and is written as that name. Every part
is an identifier. The reference reads back, with its names in their compatibility form, just if no part is
reserved. -/
theorem componentReference_reads_back {place : Place} {tag : String} {e : Expr}
    (h : componentReference place tag = .ok e) (named : List Char → Option Char) :
    ∃ parts, List.intercalate ['.'] parts = tag.toList ∧
      (∀ part ∈ parts, '.' ∉ part ∧ Text.isIdentifier part = true) ∧
      e.names? = some (parts.map String.ofList) ∧ e.print = .ok tag ∧
      ((∃ back, Parser.parseExpr named tag.toList = some back ∧
          back.names? = some (parts.map fun part => String.ofList (Text.compatible part))) ↔
        ∀ part ∈ parts, Lexer.isFree part = true) := by
  obtain ⟨first, rest, hparts, hwords, rfl⟩ := componentReference_eq_ok h
  have htag := Text.eq_append_of_splitOn hparts
  refine ⟨first :: rest, ?_, ?_, ?_, ?_, ?_⟩
  · rw [Text.intercalate_cons, htag]
  · intro part hpart
    exact ⟨Lexer.not_mem_of_isIdentifier (hwords part hpart) rfl, hwords part hpart⟩
  · exact Expr.names?_chain (.name (String.ofList first)) rest
  · have hprint := Expr.printAt_chain (e := .name (String.ofList first)) (fun _ => rfl) rfl rest .test
    have htext : String.ofList first ++ String.ofList (rest.flatMap ('.' :: ·)) = tag := by
      apply String.toList_injective
      simp [htag]
    rwa [htext] at hprint
  · rw [htag]
    constructor
    · rintro ⟨back, hparse, hnames⟩
      exact Parser.free_of_parseExpr hwords hparse (by simp [hnames])
    · intro hfree
      refine ⟨_, Parser.parseExpr_of_free hwords hfree, ?_⟩
      rw [Expr.names?_chain]
      simp [Expr.names?, Function.comp_def]

theorem componentReference_reads_back_member :
    componentReference .unknown "ui.Button" = .ok (.attribute (.name "ui") "Button") ∧
      ∃ back, Parser.parseExpr (fun _ => none) "ui.Button".toList = some back ∧
        back.names? = some ["ui", "Button"] := by
  have hreference : componentReference .unknown "ui.Button" = .ok (.attribute (.name "ui") "Button") := rfl
  obtain ⟨parts, hjoined, hidentifiers, hnames, hprint, hback⟩ :=
    componentReference_reads_back hreference fun _ => none
  have hparts : parts = ["ui".toList, "Button".toList] := by
    have hmap : ["ui", "Button"] = parts.map String.ofList := Option.some.inj hnames
    calc parts = (parts.map String.ofList).map String.toList := by simp [Function.comp_def]
      _ = ["ui".toList, "Button".toList] := by rw [← hmap]; rfl
  subst hparts
  exact ⟨hreference, hback.mpr (by decide)⟩

theorem reserved_part_does_not_read_back :
    componentReference .unknown "ui.class" = .ok (.attribute (.name "ui") "class") ∧
      (Expr.attribute (.name "ui") "class").print = .ok "ui.class" ∧
      Word.ofString? "class" = some .otherWord ∧ Parser.parseExpr (fun _ => none) "ui.class".toList = none := by
  refine ⟨rfl, rfl, rfl, ?_⟩
  decide +kernel

end SlotMarkup
