import SlotMarkup.Host.Lexer
import SlotMarkup.Proofs.JoinedLines
import SlotMarkup.Proofs.Numerals

/-! The tokens of identifiers with points between them. Each identifier is one token, a reserved word or a
name in its compatibility form. -/

namespace SlotMarkup.Host.Lexer

open SlotMarkup.Text (isIdentifier isIdentifierStart isIdentifierRest compatible)
open SlotMarkup.Host.Numeral (isWordChar)
open SlotMarkup.Document (normalizeBreaks)

def isFree (word : List Char) : Bool := (Word.ofString? (String.ofList word)).isNone

def identifierToken (word : List Char) : Token :=
  match Word.ofString? (String.ofList word) with
  | some w => .word w
  | none => .name (String.ofList (compatible word))

theorem identifierToken_of_free {word : List Char} (h : isFree word = true) :
    identifierToken word = .name (String.ofList (compatible word)) := by
  have hnone : Word.ofString? (String.ofList word) = none := by simpa [isFree] using h
  rw [identifierToken, hnone]

theorem identifierToken_of_reserved {word : List Char} (h : isFree word = false) :
    ∃ w, identifierToken word = .word w := by
  unfold isFree at h
  cases hword : Word.ofString? (String.ofList word) with
  | none => simp [hword] at h
  | some w => exact ⟨w, by rw [identifierToken, hword]⟩

theorem wordToken_of_isIdentifier {word : List Char} (h : isIdentifier word = true) :
    wordToken word = some (identifierToken word) := by
  unfold wordToken identifierToken
  cases Word.ofString? (String.ofList word) with
  | some w => rfl
  | none =>
    dsimp only
    by_cases hascii : (word.all (·.toNat < 128)) = true
    · rw [if_pos hascii, compatible, if_pos hascii]
    · rw [if_neg hascii, if_pos h]

section Characters

variable {c : Char}

theorem isIdentifierRest_of_isIdentifierStart (h : isIdentifierStart c = true) : isIdentifierRest c = true := by
  simp [isIdentifierRest, h]

theorem isWordChar_of_isIdentifierRest (h : isIdentifierRest c = true) : isWordChar c = true := by
  simp only [isIdentifierRest, isIdentifierStart, Bool.or_eq_true, Bool.and_eq_true] at h
  simp only [isWordChar, Char.isAlphanum, Bool.or_eq_true]
  rcases h with (((halpha | hunderscore) | hletter) | hdigit) | hmark
  · exact .inl (.inl (.inl halpha))
  · exact .inl (.inr hunderscore)
  · exact .inr hletter.1
  · exact .inl (.inl (.inr hdigit))
  · exact .inr hmark.1

theorem le_toNat_of_isIdentifierStart (h : isIdentifierStart c = true) : 65 ≤ c.toNat := by
  simp only [isIdentifierStart, Bool.or_eq_true, Bool.and_eq_true] at h
  rcases h with (halpha | hunderscore) | hletter
  · have hletter : (decide (65 ≤ c.val ∧ c.val ≤ 90) || decide (97 ≤ c.val) && decide (c.val ≤ 122)) = true :=
      halpha
    have hbounds : (65 ≤ c.toNat ∧ c.toNat ≤ 90) ∨ (97 ≤ c.toNat ∧ c.toNat ≤ 122) := by
      simpa [UInt32.le_iff_toNat_le] using hletter
    omega
  · rw [beq_iff_eq.mp hunderscore]
    decide
  · have hlow : 128 ≤ c.toNat := by simpa using hletter.1
    omega

theorem isDigit_of_isIdentifierStart (h : isIdentifierStart c = true) : c.isDigit = false := by
  have hlow := le_toNat_of_isIdentifierStart h
  by_contra hdigit
  have hhigh := (Text.toNat_of_isDigit (Bool.not_eq_false _ ▸ hdigit)).2
  omega

theorem ne_of_isWordChar {d : Char} (h : isWordChar c = true) (hd : isWordChar d = false) : c ≠ d := by
  rintro rfl
  simp [hd] at h

end Characters

theorem isWordChar_of_isIdentifier {word : List Char} (h : isIdentifier word = true) :
    ∀ c ∈ word, isWordChar c = true := by
  cases word with
  | nil => cases h
  | cons c cs =>
    have hword : isIdentifierStart c = true ∧ ∀ d ∈ cs, isIdentifierRest d = true := by
      simpa [isIdentifier] using h
    intro d hd
    apply isWordChar_of_isIdentifierRest
    rcases List.mem_cons.mp hd with rfl | hd
    · exact isIdentifierRest_of_isIdentifierStart hword.1
    · exact hword.2 d hd

theorem not_mem_of_isIdentifier {word : List Char} {d : Char} (h : isIdentifier word = true)
    (hd : isWordChar d = false) : d ∉ word := by
  intro hmem
  exact ne_of_isWordChar (isWordChar_of_isIdentifier h d hmem) hd rfl

theorem isIdentifier_eq_cons {word : List Char} (h : isIdentifier word = true) :
    ∃ c cs, word = c :: cs ∧ isWordChar c = true ∧ c.isDigit = false := by
  cases word with
  | nil => cases h
  | cons c cs =>
    have hstart : isIdentifierStart c = true := (Bool.and_eq_true_iff.mp h).1
    have hc := isWordChar_of_isIdentifierRest (isIdentifierRest_of_isIdentifierStart hstart)
    exact ⟨c, cs, rfl, hc, isDigit_of_isIdentifierStart hstart⟩

theorem tokensFrom_identifier {word rest : List Char} (hword : isIdentifier word = true)
    (hrest : Text.Resumes '.' rest) (fuel : Nat) (opened : List Sign) :
    tokensFrom (fuel + 1) opened false (word ++ rest) =
      (tokensFrom fuel opened false rest).map (identifierToken word :: ·) := by
  have hstop : rest.takeWhile isWordChar = [] := hrest.takeWhile_eq_nil rfl
  have htake := Text.takeWhile_run (isWordChar_of_isIdentifier hword) hstop
  have hdrop := Text.dropWhile_run (isWordChar_of_isIdentifier hword) hstop
  have htoken := wordToken_of_isIdentifier hword
  obtain ⟨c, cs, rfl, hc, hdigit⟩ := isIdentifier_eq_cons hword
  have hblank : (c :: cs ++ rest).dropWhile isLineBlank = c :: (cs ++ rest) := by
    have hline : isLineBlank c = false := by
      simp [isLineBlank, ne_of_isWordChar hc (d := ' ') rfl, ne_of_isWordChar hc (d := '\t') rfl,
        ne_of_isWordChar hc (d := '\x0c') rfl]
    simp [hline]
  have hnumber : (c.isDigit || c == '.' && (cs ++ rest).head?.any Char.isDigit) = false := by
    simp [hdigit, ne_of_isWordChar hc (d := '.') rfl]
  rw [tokensFrom, hblank]
  split
  next heq => cases heq
  next heq => exact absurd (List.cons.inj heq).1 (ne_of_isWordChar hc rfl)
  next heq => exact absurd (List.cons.inj heq).1 (ne_of_isWordChar hc rfl)
  next heq => exact absurd (List.cons.inj heq).1 (ne_of_isWordChar hc rfl)
  next heq =>
    obtain ⟨rfl, rfl⟩ := List.cons.inj heq
    rw [List.cons_append] at htake hdrop
    rw [hnumber, if_neg Bool.false_ne_true]
    dsimp only
    rw [htake, hdrop, htoken]
    -- the letters may also be marks of a string, but no quote follows them
    rcases hrest with rfl | ⟨tail, rfl⟩
    · rfl
    · cases marks? (c :: cs) <;> rfl

theorem sign?_point {c : Char} (h : c ≠ '.') (rest : List Char) :
    sign? ('.' :: c :: rest) = some (.dot, c :: rest) := by
  have hc : ('.' == c) = false := by simpa using h.symm
  simp [sign?, signs, List.find?, List.isPrefixOf, hc]

theorem tokensFrom_point {word : List Char} (hword : isIdentifier word = true) (rest : List Char) (fuel : Nat)
    (opened : List Sign) :
    tokensFrom (fuel + 1) opened false ('.' :: (word ++ rest)) =
      (tokensFrom fuel opened false (word ++ rest)).map (.sign .dot :: ·) := by
  obtain ⟨c, cs, rfl, hc, hdigit⟩ := isIdentifier_eq_cons hword
  rw [List.cons_append, tokensFrom]
  -- a point before a digit would start a number
  change (if c.isDigit then _ else (sign? ('.' :: c :: (cs ++ rest))).bind _) = _
  rw [hdigit, if_neg Bool.false_ne_true, sign?_point (ne_of_isWordChar hc rfl)]
  rfl

def pointedTokens (words : List (List Char)) : List Token :=
  words.flatMap fun word => [.sign .dot, identifierToken word]

theorem tokensFrom_chain {first : List Char} {words : List (List Char)}
    (h : ∀ word ∈ first :: words, isIdentifier word = true) {fuel : Nat} (hfuel : 2 * words.length + 2 ≤ fuel) :
    tokensFrom fuel [] false (first ++ words.flatMap ('.' :: ·)) =
      some (identifierToken first :: pointedTokens words) := by
  induction words generalizing first fuel with
  | nil =>
    obtain ⟨fuel, rfl⟩ := Nat.exists_eq_add_of_le' hfuel
    have hfirst := h first List.mem_cons_self
    change tokensFrom (fuel + 1 + 1) [] false (first ++ []) = _
    rw [tokensFrom_identifier hfirst (.inl rfl)]
    rfl
  | cons word words ih =>
    obtain ⟨hfirst, hrest⟩ := List.forall_mem_cons.mp h
    rw [List.length_cons] at hfuel
    obtain ⟨fuel, rfl⟩ : ∃ n, fuel = n + 1 + 1 := ⟨fuel - 2, by omega⟩
    have htail : tokensFrom fuel [] false (word ++ words.flatMap ('.' :: ·)) =
        some (identifierToken word :: pointedTokens words) := ih hrest (by omega)
    rw [List.flatMap_cons, List.cons_append, tokensFrom_identifier hfirst (.inr ⟨_, rfl⟩),
      tokensFrom_point (hrest word List.mem_cons_self), htail]
    rfl

theorem indentation_identifier {word : List Char} (hword : isIdentifier word = true) (rest : List Char) :
    indentation false false (word ++ rest) = (false, word ++ rest) := by
  obtain ⟨c, cs, rfl, hc, -⟩ := isIdentifier_eq_cons hword
  rw [List.cons_append, indentation]
  · simp [ne_of_isWordChar hc (d := ' ') rfl, ne_of_isWordChar hc (d := '\t') rfl,
      ne_of_isWordChar hc (d := '\x0c') rfl]
  · intro tail hslash
    exact absurd hslash (ne_of_isWordChar hc rfl)

theorem tokensFrom_start {word : List Char} (hword : isIdentifier word = true) (rest : List Char) (fuel : Nat)
    (opened : List Sign) :
    tokensFrom (fuel + 1) opened true (word ++ rest) = tokensFrom fuel opened false (word ++ rest) := by
  have hindentation := indentation_identifier hword rest
  obtain ⟨c, cs, rfl, hc, -⟩ := isIdentifier_eq_cons hword
  rw [tokensFrom, hindentation]
  dsimp only
  split
  next heq => cases heq
  next heq => exact absurd (List.cons.inj heq).1 (ne_of_isWordChar hc rfl)
  next heq => exact absurd (List.cons.inj heq).1 (ne_of_isWordChar hc rfl)
  next => rfl

theorem tokens_chain {first : List Char} {words : List (List Char)}
    (h : ∀ word ∈ first :: words, isIdentifier word = true) :
    tokens (first ++ words.flatMap ('.' :: ·)) = some (identifierToken first :: pointedTokens words) := by
  have hfirst := h first List.mem_cons_self
  have hcr : '\r' ∉ first ++ words.flatMap ('.' :: ·) := by
    intro hmem
    rw [← Text.intercalate_cons] at hmem
    rcases Text.mem_intercalate hmem with hpoint | ⟨word, hword, hmem⟩
    · simp at hpoint
    · exact not_mem_of_isIdentifier (h word hword) rfl hmem
  have hlength := Text.length_le_flatMap_cons '.' words
  rw [tokens, Text.normalizeBreaks_of_not_mem hcr, tokensFrom_start hfirst, tokensFrom_chain h]
  rw [List.length_append]
  obtain ⟨c, cs, rfl, -⟩ := isIdentifier_eq_cons hfirst
  rw [List.length_cons]
  omega

end SlotMarkup.Host.Lexer
