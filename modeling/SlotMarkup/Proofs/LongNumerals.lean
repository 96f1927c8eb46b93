import Mathlib.Data.List.Infix
import Mathlib.Data.List.TakeWhile
import SlotMarkup.Proofs.JoinedLines

/-! Reading goes through a document from its start. It fails for the length of a number only if more
digits than are allowed stand in a row in the text, and it does so if they are all of the text. -/

namespace SlotMarkup.Document

def HoldsDigits (n : Nat) (cs : List Char) : Prop :=
  ∃ digits, digits <:+: cs ∧ digits.length = n ∧ ∀ c ∈ digits, c.isDigit = true

namespace HoldsDigits

variable {n : Nat} {rest cs : List Char}

theorem mono (h : HoldsDigits n rest) (hrest : rest <:+ cs) : HoldsDigits n cs := by
  obtain ⟨digits, hdigits, hn, hall⟩ := h
  exact ⟨digits, hdigits.trans hrest.isInfix, hn, hall⟩

theorem le_length (h : HoldsDigits n cs) : n ≤ cs.length := by
  obtain ⟨digits, hdigits, rfl, _⟩ := h
  exact hdigits.length_le

end HoldsDigits

namespace Reader

/-- What a reader may answer: a value with an end of the text, an expectation that is not met, or the
length of a number that is too long. -/
def Reads {α : Type} (cs : List Char) : Except ReadError (α × List Char) → Prop
  | .ok (_, rest) => rest <:+ cs
  | .error (.numeralTooLong n) => maxDigits < n ∧ HoldsDigits n cs
  | .error (.unmet _ _) => True
  | .error .loneSurrogate => False

namespace Reads

variable {α β : Type} {cs rest : List Char} {x : Except ReadError (α × List Char)}

theorem ok (a : α) (h : rest <:+ cs) : Reads cs (.ok (a, rest)) := h

theorem unmet (what : Expectation) (left : Nat) :
    Reads cs (.error (.unmet what left) : Except ReadError (α × List Char)) := trivial

theorem error {problem : ReadError}
    (h : Reads cs (.error problem : Except ReadError (α × List Char))) :
    Reads cs (.error problem : Except ReadError (β × List Char)) := by
  cases problem with
  | unmet => trivial
  | numeralTooLong => exact h
  | loneSurrogate => exact h

theorem mono (h : Reads rest x) (hrest : rest <:+ cs) : Reads cs x := by
  match x, h with
  | .ok (a, after), h => exact List.IsSuffix.trans h hrest
  | .error (.numeralTooLong n), h => exact ⟨h.1, h.2.mono hrest⟩
  | .error (.unmet _ _), _ => trivial
  | .error .loneSurrogate, h => exact h

theorem bind {f : α × List Char → Except ReadError (β × List Char)} (h : Reads cs x)
    (hf : ∀ a rest, rest <:+ cs → Reads cs (f (a, rest))) : Reads cs (x >>= f) := by
  match x, h with
  | .ok (a, after), h => exact hf a after h
  | .error _, h => exact h.error

end Reads

section Texts

theorem skipSpace_suffix (cs : List Char) : skipSpace cs <:+ cs := List.dropWhile_suffix _

theorem codeUnit_reads (rest : List Char) : Reads rest (codeUnit rest) := by
  unfold codeUnit
  dsimp only
  split
  · exact .unmet ..
  · split
    · exact .ok _ ((List.drop_suffix _ _).trans (List.drop_suffix _ _))
    · exact .unmet ..

theorem unicodeEscape_reads (rest : List Char) : Reads rest (unicodeEscape rest) := by
  unfold unicodeEscape
  refine (codeUnit_reads rest).bind fun n after hafter => ?_
  dsimp only
  split
  · have hlow := (codeUnit_reads (after.drop 1)).mono ((List.drop_suffix _ _).trans hafter)
    refine hlow.bind fun low beyond hbeyond => ?_
    dsimp only
    split
    · exact .ok _ hbeyond
    · exact .ok _ hafter
  · exact .ok _ hafter

theorem stringBody_reads (opening fuel : Nat) (done cs : List Char) :
    Reads cs (stringBody opening fuel done cs) := by
  fun_induction stringBody opening fuel done cs with
  | case1 | case2 | case4 | case7 | case9 => exact .unmet ..
  | case3 => exact .ok _ (List.suffix_cons _ _)
  | case5 fuel done c _ _ e after _ problem hescape =>
    have hreads := unicodeEscape_reads (e :: after)
    rw [hescape] at hreads ⊢
    exact (hreads.mono (List.suffix_cons _ _)).error
  | case6 fuel done c _ _ e after _ d beyond hescape ih =>
    have hreads := unicodeEscape_reads (e :: after)
    rw [hescape] at hreads ⊢
    exact ih.mono (List.IsSuffix.trans hreads (List.suffix_cons _ _))
  | case8 fuel done c _ _ e after _ d _ ih =>
    exact ih.mono ((List.suffix_cons _ _).trans (List.suffix_cons _ _))
  | case10 fuel done c rest _ _ _ ih => exact ih.mono (List.suffix_cons _ _)

theorem string_reads (rest : List Char) : Reads rest (string rest) :=
  (stringBody_reads ..).bind fun _ _ hafter => .ok _ hafter

end Texts

section Numbers

theorem fraction_suffix (cs : List Char) : (fraction cs).2 <:+ cs := by
  unfold fraction
  split
  · dsimp only
    split
    · exact List.suffix_rfl
    · exact (List.dropWhile_suffix _).trans (List.suffix_cons _ _)
  · exact List.suffix_rfl

theorem exponentPart_suffix (cs : List Char) : (exponentPart cs).2 <:+ cs := by
  unfold exponentPart
  split
  next e rest =>
    split
    · split
      next negative digits hsign =>
        have hdigits : digits <:+ rest := by
          split at hsign
          all_goals cases hsign
          · exact List.suffix_cons _ _
          · exact List.suffix_cons _ _
          · exact List.suffix_rfl
        dsimp only
        split
        · exact List.suffix_rfl
        · exact ((List.dropWhile_suffix _).trans hdigits).trans (List.suffix_cons _ _)
    · exact List.suffix_rfl
  · exact List.suffix_rfl

theorem wholePart_append (cs : List Char) : (wholePart cs).1 ++ (wholePart cs).2 = cs := by
  unfold wholePart
  split
  · rfl
  · exact List.takeWhile_append_dropWhile

theorem wholePart_holdsDigits (cs : List Char) : HoldsDigits (wholePart cs).1.length cs := by
  refine ⟨(wholePart cs).1, ?_, rfl, ?_⟩
  · exact (List.prefix_iff_exists_append_eq.2 ⟨_, wholePart_append cs⟩).isInfix
  · unfold wholePart
    split
    · intro c hc
      rw [List.mem_singleton.1 hc]
      rfl
    · intro c hc
      exact List.mem_takeWhile_imp hc

theorem number_reads (cs : List Char) : Reads cs (number cs) := by
  unfold number
  split
  next negative body hsign =>
    have hbody : body <:+ cs := by
      split at hsign
      all_goals cases hsign
      · exact List.suffix_cons _ _
      · exact List.suffix_rfl
    have hafter : (wholePart body).2 <:+ cs := List.IsSuffix.trans ⟨_, wholePart_append body⟩ hbody
    have hrest : (exponentPart (fraction (wholePart body).2).2).2 <:+ cs :=
      ((exponentPart_suffix _).trans (fraction_suffix _)).trans hafter
    dsimp only
    split
    · exact .unmet ..
    · split
      · split
        · next hlong => exact ⟨hlong, (wholePart_holdsDigits body).mono hbody⟩
        · exact .ok _ hrest
      · exact .ok _ hrest

end Numbers

section Documents

theorem literal_suffix {cs rest : List Char} {v : Value} (h : literal? cs = some (v, rest)) :
    rest <:+ cs := by
  obtain ⟨l, _, hl⟩ := Option.map_eq_some_iff.1 h
  cases hl
  exact List.drop_suffix _ _

-- The three readers call each other with less fuel, so that their lemmas go by one induction on it.
mutual
theorem value_reads (fuel : Nat) (cs : List Char) : Reads cs (value fuel cs) := by
  match fuel with
  | 0 => exact .unmet ..
  | fuel + 1 =>
    unfold value
    split
    next rest =>
      refine ((string_reads rest).mono (List.suffix_cons _ _)).bind fun s after hafter => ?_
      exact .ok _ hafter
    next rest =>
      have hrest := (skipSpace_suffix rest).trans (List.suffix_cons '[' rest)
      dsimp only
      split
      next after hclose =>
        exact .ok _ ((List.suffix_cons _ _).trans (hclose ▸ hrest))
      · refine ((items_reads fuel _).mono hrest).bind fun vs after hafter => ?_
        exact .ok _ hafter
    next rest =>
      have hrest := (skipSpace_suffix rest).trans (List.suffix_cons '\x7b' rest)
      dsimp only
      split
      next after hclose =>
        exact .ok _ ((List.suffix_cons _ _).trans (hclose ▸ hrest))
      · refine ((fields_reads fuel [] _).mono hrest).bind fun fs after hafter => ?_
        exact .ok _ hafter
    · split
      next v after hliteral => exact .ok _ (literal_suffix hliteral)
      · exact number_reads _

theorem items_reads (fuel : Nat) (cs : List Char) : Reads cs (items fuel cs) := by
  match fuel with
  | 0 => exact .unmet ..
  | fuel + 1 =>
    rw [items]
    refine (value_reads fuel cs).bind fun v rest hrest => ?_
    have hspace := (skipSpace_suffix rest).trans hrest
    dsimp only
    split
    next after hclose => exact .ok _ ((List.suffix_cons _ _).trans (hclose ▸ hspace))
    next after hcomma =>
      have hafter := (List.suffix_cons _ _).trans (hcomma ▸ hspace)
      have hitems := (items_reads fuel (skipSpace after)).mono ((skipSpace_suffix _).trans hafter)
      exact hitems.bind fun vs beyond hbeyond => .ok _ hbeyond
    · exact .unmet ..

theorem fields_reads (fuel : Nat) (known : Fields) (cs : List Char) :
    Reads cs (fields fuel known cs) := by
  match fuel with
  | 0 => exact .unmet ..
  | fuel + 1 =>
    unfold fields
    split
    next rest =>
      refine ((string_reads rest).mono (List.suffix_cons _ _)).bind fun key rest hrest => ?_
      have hspace := (skipSpace_suffix rest).trans hrest
      dsimp only
      split
      next rest hcolon =>
        have hrest := (List.suffix_cons _ _).trans (hcolon ▸ hspace)
        have hvalue := (value_reads fuel (skipSpace rest)).mono ((skipSpace_suffix _).trans hrest)
        refine hvalue.bind fun v rest hrest => ?_
        have hspace := (skipSpace_suffix rest).trans hrest
        dsimp only
        split
        next after hclose => exact .ok _ ((List.suffix_cons _ _).trans (hclose ▸ hspace))
        next after hcomma =>
          have hafter := (List.suffix_cons _ _).trans (hcomma ▸ hspace)
          exact (fields_reads fuel _ _).mono ((skipSpace_suffix _).trans hafter)
        · exact .unmet ..
      · exact .unmet ..
    · exact .unmet ..
end

/-- A document is refused for the length of a number only when the text holds that many digits in a
row. -/
theorem document_numeralTooLong {cs : List Char} {n : Nat}
    (h : document cs = .error (.numeralTooLong n)) : maxDigits < n ∧ HoldsDigits n cs := by
  have hvalue := (value_reads (2 * cs.length + 2) (skipSpace cs)).mono (skipSpace_suffix cs)
  unfold document at h
  split at h
  · cases h
  · match hread : value (2 * cs.length + 2) (skipSpace cs), hvalue with
    | .ok (v, rest), _ =>
      -- After a value no number is read any more.
      rw [hread] at h
      change (if _ then _ else if _ then _ else _) = _ at h
      split at h
      · cases h
      · split at h <;> cases h
    | .error problem, hvalue =>
      rw [hread] at h
      cases h
      exact hvalue

end Documents

end Reader

section Breaks

variable {digits cs : List Char}

theorem nil_of_prefix_newline (hdigits : ∀ c ∈ digits, c.isDigit = true) (h : digits <+: '\n' :: cs) :
    digits = [] := by
  cases digits with
  | nil => rfl
  | cons d ds =>
    obtain ⟨rfl, _⟩ := List.cons_prefix_cons.1 h
    exact absurd (hdigits '\n' List.mem_cons_self) (by decide)

theorem prefix_of_normalizeBreaks (hdigits : ∀ c ∈ digits, c.isDigit = true)
    (h : digits <+: normalizeBreaks cs) : digits <+: cs := by
  fun_induction normalizeBreaks cs generalizing digits with
  | case1 => exact h
  | case2 rest ih =>
    rw [nil_of_prefix_newline hdigits h]
    exact List.nil_prefix
  | case3 c rest _ ih =>
    split at h
    · rw [nil_of_prefix_newline hdigits h]
      exact List.nil_prefix
    · rcases List.prefix_cons_iff.1 h with rfl | ⟨ds, rfl, hds⟩
      · exact List.nil_prefix
      · exact List.cons_prefix_cons.2 ⟨rfl, ih (fun d hd => hdigits d (List.mem_cons_of_mem _ hd)) hds⟩

theorem normalizeBreaks_suffix {later : List Char} (h : later <:+ normalizeBreaks cs) :
    ∃ rest, rest <:+ cs ∧ normalizeBreaks rest = later := by
  fun_induction normalizeBreaks cs with
  | case1 => exact ⟨[], List.nil_suffix, (List.suffix_nil.1 h).symm⟩
  | case2 rest ih =>
    rcases List.suffix_cons_iff.1 h with rfl | hlater
    · exact ⟨'\r' :: '\n' :: rest, List.suffix_rfl, rfl⟩
    · obtain ⟨ending, hend, rfl⟩ := ih hlater
      exact ⟨ending, hend.trans ((List.suffix_cons _ _).trans (List.suffix_cons _ _)), rfl⟩
  | case3 c rest hnot ih =>
    rcases List.suffix_cons_iff.1 h with rfl | hlater
    · exact ⟨c :: rest, List.suffix_rfl, normalizeBreaks.eq_3 c rest hnot⟩
    · obtain ⟨ending, hend, rfl⟩ := ih hlater
      exact ⟨ending, hend.trans (List.suffix_cons _ _), rfl⟩

theorem HoldsDigits.of_normalizeBreaks {n : Nat} (h : HoldsDigits n (normalizeBreaks cs)) :
    HoldsDigits n cs := by
  obtain ⟨digits, hinside, hn, hdigits⟩ := h
  obtain ⟨later, hstart, hlater⟩ := List.infix_iff_prefix_suffix.1 hinside
  obtain ⟨rest, hrest, rfl⟩ := normalizeBreaks_suffix hlater
  have hbegins : digits <+: rest := prefix_of_normalizeBreaks hdigits hstart
  exact ⟨digits, hbegins.isInfix.trans hrest.isInfix, hn, hdigits⟩

end Breaks

section Digits

variable {c : Char} {cs : List Char}

theorem ne_of_isDigit {d : Char} (hc : c.isDigit = true) (hd : d.isDigit = false) : c ≠ d := by
  rintro rfl
  cases hc.symm.trans hd

namespace Reader

theorem literal_digit (hc : c.isDigit = true) (cs : List Char) : literal? (c :: cs) = none := by
  have hne (l : Char) (hl : l.isDigit = false) : (l == c) = false :=
    beq_eq_false_iff_ne.mpr (ne_of_isDigit hc hl).symm
  simp [literal?, literals, List.isPrefixOf, hne]

theorem value_digit (hc : c.isDigit = true) (cs : List Char) (fuel : Nat) :
    value (fuel + 1) (c :: cs) = number (c :: cs) := by
  unfold value
  split
  next h =>
    cases h
    exact absurd hc (by decide)
  next h =>
    cases h
    exact absurd hc (by decide)
  next h =>
    cases h
    exact absurd hc (by decide)
  · rw [literal_digit hc]

theorem number_digits (hdigits : ∀ d ∈ c :: cs, d.isDigit = true) (hzero : c ≠ '0')
    (hlong : maxDigits < (c :: cs).length) :
    number (c :: cs) = .error (.numeralTooLong (c :: cs).length) := by
  have hc : c.isDigit = true := hdigits c List.mem_cons_self
  have hwhole : wholePart (c :: cs) = (c :: cs, []) := by
    unfold wholePart
    split
    next h =>
      cases h
      exact absurd rfl hzero
    · rw [List.takeWhile_eq_self_iff.2 hdigits, List.dropWhile_eq_nil_iff.2 hdigits]
  unfold number
  split
  next negative body hsign =>
    split at hsign
    next h =>
      cases h
      exact absurd hc (by decide)
    · cases hsign
      rw [hwhole]
      exact if_pos hlong

end Reader

theorem document_digits (hdigits : ∀ d ∈ c :: cs, d.isDigit = true) (hzero : c ≠ '0')
    (hlong : Reader.maxDigits < (c :: cs).length) :
    Reader.document (normalizeBreaks (c :: cs)) = .error (.numeralTooLong (c :: cs).length) := by
  have hc : c.isDigit = true := hdigits c List.mem_cons_self
  have hspace : Reader.skipSpace (c :: cs) = c :: cs := by
    have hne (space : Char) (h : space.isDigit = false) : (c == space) = false :=
      beq_eq_false_iff_ne.mpr (ne_of_isDigit hc h)
    simp [Reader.skipSpace, Reader.isSpace, hne]
  have hmark : ((c :: cs).head? == some (Char.ofNat 0xFEFF)) = false := by
    simpa using ne_of_isDigit hc (by decide)
  have hbreaks : '\r' ∉ c :: cs := fun h => absurd (hdigits '\r' h) (by decide)
  rw [Text.normalizeBreaks_of_not_mem hbreaks, Reader.document, hmark, hspace, Reader.value_digit hc,
    Reader.number_digits hdigits hzero hlong]
  rfl

end Digits

end SlotMarkup.Document
