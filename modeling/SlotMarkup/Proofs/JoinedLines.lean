import SlotMarkup.Document.Reader
import SlotMarkup.Proofs.CollapsedText
import SlotMarkup.Proofs.SplitText
import SlotMarkup.Tree.Node

/-! The normal form of text. The lines that still hold something once the spaces next to the line breaks
are gone are joined by single spaces; the place of the last such line, which one scan finds, decides where
another scan adds no space. -/

namespace SlotMarkup.Text

open SlotMarkup.Document (normalizeBreaks)

/-- Cutting at all kinds of line breaks is cutting at line feeds once all breaks are line feeds. -/
theorem lines_eq_splitOn (cs : List Char) : lines cs = List.splitOn '\n' (normalizeBreaks cs) := by
  fun_induction normalizeBreaks cs with
  | case1 => rfl
  | case2 cs ih => rw [lines, ih, List.splitOn_cons_eq_if_modifyHead, if_pos (beq_self_eq_true _)]
  | case3 c cs hpair ih =>
    obtain ⟨l, ls, hsplit⟩ := splitOn_eq_cons '\n' (normalizeBreaks cs)
    rw [lines, List.splitOn_cons_eq_if_modifyHead, ih, hsplit]
    · by_cases hlf : c = '\n'
      · simp [hlf]
      · by_cases hcr : c = '\r'
        · simp [hcr]
        · simp [hlf, hcr]
    · exact hpair

theorem lines_eq_cons (cs : List Char) : ∃ l ls, lines cs = l :: ls := by
  rw [lines_eq_splitOn]
  exact splitOn_eq_cons _ _

theorem cr_not_mem_normalizeBreaks (cs : List Char) : '\r' ∉ normalizeBreaks cs := by
  fun_induction normalizeBreaks cs with
  | case1 => simp
  | case2 cs ih => simpa using ih
  | case3 c cs hpair ih =>
    by_cases hcr : c = '\r'
    · simpa [hcr] using ih
    · simpa [hcr, Ne.symm hcr] using ih

theorem normalizeBreaks_of_not_mem {cs : List Char} (h : '\r' ∉ cs) : normalizeBreaks cs = cs := by
  fun_induction normalizeBreaks cs with
  | case1 => rfl
  | case2 cs ih => simp at h
  | case3 c cs hpair ih =>
    have hc : c ≠ '\r' := fun heq => h (heq ▸ List.mem_cons_self)
    rw [ih fun hcs => h (List.mem_cons_of_mem c hcs)]
    simp [hc]

theorem lines_normalizeBreaks (cs : List Char) : lines (normalizeBreaks cs) = lines cs := by
  rw [lines_eq_splitOn, lines_eq_splitOn, normalizeBreaks_of_not_mem (cr_not_mem_normalizeBreaks cs)]

theorem intercalate_lines (cs : List Char) : List.intercalate ['\n'] (lines cs) = normalizeBreaks cs := by
  rw [lines_eq_splitOn, List.intercalate_splitOn]

def isInked (line : List Char) : Bool := line.any isInk

section Trimming

variable {p : Char → Bool}

theorem filter_dropWhile_space (hspace : p ' ' = false) (cs : List Char) :
    (cs.dropWhile (· == ' ')).filter p = cs.filter p := by
  induction cs with
  | nil => rfl
  | cons c cs ih =>
    by_cases hc : c = ' '
    · simp [hc, hspace, ih]
    · simp [hc]

theorem filter_rdropWhile_space (hspace : p ' ' = false) (cs : List Char) :
    (List.rdropWhile (· == ' ') cs).filter p = cs.filter p := by
  rw [List.rdropWhile, List.filter_reverse, filter_dropWhile_space hspace, List.filter_reverse, List.reverse_reverse]

theorem filter_spaced (hspace : p ' ' = false) (htab : p '\t' = false) (line : List Char) :
    (spaced line).filter p = line.filter p := by
  induction line with
  | nil => rfl
  | cons c cs ih =>
    change List.filter p ((if c == '\t' then ' ' else c) :: spaced cs) = _
    by_cases hc : c = '\t'
    · simp [hc, hspace, htab, ih]
    · simp [hc, List.filter_cons, ih]

theorem trim_eq (p : Char → Bool) (cs : List Char) : trim p cs = List.rdropWhile p (cs.dropWhile p) := rfl

theorem trimLine_first (line : List Char) :
    trimLine true false line = List.rdropWhile (· == ' ') (spaced line) := rfl

theorem trimLine_middle (line : List Char) : trimLine false false line = trim (· == ' ') (spaced line) := rfl

theorem trimLine_last (line : List Char) :
    trimLine false true line = (spaced line).dropWhile (· == ' ') := rfl

theorem filter_trimLine (hspace : p ' ' = false) (htab : p '\t' = false) (first last : Bool)
    (line : List Char) : (trimLine first last line).filter p = line.filter p := by
  rw [← filter_spaced hspace htab line]
  cases first <;> cases last
  · rw [trimLine_middle, trim_eq, filter_rdropWhile_space hspace, filter_dropWhile_space hspace]
  · rw [trimLine_last, filter_dropWhile_space hspace]
  · rw [trimLine_first, filter_rdropWhile_space hspace]
  · rfl

theorem eq_space_of_mem_spaced {line : List Char} (h : isInked line = false) :
    ∀ c ∈ spaced line, (c == ' ') = true := by
  intro c hc
  rcases mem_spaced hc with rfl | ⟨hmem, htab⟩
  · rfl
  · have hblank : isInk c = false := by
      simpa using List.any_eq_false.mp h c hmem
    simpa [isInk, htab] using hblank

theorem trimLine_eq_nil_iff {first last : Bool} (hbreak : first = false ∨ last = false) (line : List Char) :
    trimLine first last line = [] ↔ isInked line = false := by
  constructor
  · intro hnil
    have hfilter := filter_trimLine (p := isInk) rfl rfl first last line
    rw [hnil] at hfilter
    simpa [isInked] using hfilter.symm
  · intro hblank
    have hspaces := eq_space_of_mem_spaced hblank
    have hdrop : (spaced line).dropWhile (· == ' ') = [] := List.dropWhile_eq_nil_iff.mpr hspaces
    have hdropRight : List.rdropWhile (· == ' ') (spaced line) = [] := List.rdropWhile_eq_nil_iff.mpr hspaces
    cases first <;> cases last
    · rw [trimLine_middle, trim_eq, hdrop]
      rfl
    · rw [trimLine_last, hdrop]
    · rw [trimLine_first, hdropRight]
    · simp at hbreak

theorem trimLine_ne_nil {first last : Bool} (hbreak : first = false ∨ last = false) {line : List Char}
    (h : isInked line = true) : trimLine first last line ≠ [] := by
  intro hnil
  have hblank := (trimLine_eq_nil_iff hbreak line).mp hnil
  simp [h] at hblank

end Trimming

def trimmed (first : Bool) : List (List Char) → List (List Char)
  | [] => []
  | l :: ls => trimLine first ls.isEmpty l :: trimmed false ls

theorem trimmed_concat (middle : List (List Char)) (last : List Char) :
    trimmed false (middle ++ [last]) =
      (middle.map fun l => trim (· == ' ') (spaced l)) ++ [(spaced last).dropWhile (· == ' ')] := by
  induction middle with
  | nil => rfl
  | cons l ls ih =>
    have hmore : (ls ++ [last]).isEmpty = false := by simp
    rw [List.cons_append, trimmed, ih, hmore, trimLine_middle, List.map_cons, List.cons_append]

def kept (first : Bool) (ls : List (List Char)) : List (List Char) :=
  (trimmed first ls).filter (!·.isEmpty)

section Kept

variable {first : Bool} {l : List Char} {ls : List (List Char)}

theorem kept_cons_of_blank (hbreak : first = false ∨ ls.isEmpty = false) (h : isInked l = false) :
    kept first (l :: ls) = kept false ls := by
  rw [kept, trimmed, (trimLine_eq_nil_iff hbreak l).mpr h]
  rfl

theorem kept_cons_of_inked (hbreak : first = false ∨ ls.isEmpty = false) (h : isInked l = true) :
    kept first (l :: ls) = trimLine first ls.isEmpty l :: kept false ls := by
  have hne := trimLine_ne_nil hbreak h
  rw [kept, trimmed, List.filter_cons_of_pos (by simpa using hne)]
  rfl

theorem kept_eq_nil_iff : kept false ls = [] ↔ ∀ l ∈ ls, isInked l = false := by
  induction ls with
  | nil => simp [kept, trimmed]
  | cons l ls ih =>
    cases hink : isInked l with
    | true => simp [kept_cons_of_inked (.inl rfl) hink, hink]
    | false => simp [kept_cons_of_blank (.inl rfl) hink, ih, hink]

theorem lastInked_cons (i best : Nat) (l : List Char) (ls : List (List Char)) :
    lastInked i best (l :: ls) = lastInked (i + 1) (if isInked l then i else best) ls := rfl

theorem lastInked_of_blank (h : ∀ l ∈ ls, isInked l = false) (i best : Nat) : lastInked i best ls = best := by
  induction ls generalizing i with
  | nil => rfl
  | cons l ls ih =>
    obtain ⟨hl, hls⟩ := List.forall_mem_cons.mp h
    rw [lastInked_cons, hl]
    exact ih hls (i + 1)

theorem le_lastInked (h : ∃ l ∈ ls, isInked l = true) (i best : Nat) : i ≤ lastInked i best ls := by
  induction ls generalizing i best with
  | nil => simp at h
  | cons l ls ih =>
    by_cases hlater : ∃ l ∈ ls, isInked l = true
    · exact Nat.le_of_succ_le (ih hlater (i + 1) _)
    · have hblank : ∀ l ∈ ls, isInked l = false := by simpa using hlater
      have hl : isInked l = true := by simpa [hlater] using h
      rw [lastInked_cons, lastInked_of_blank hblank, hl]
      exact le_rfl

/-- The two scans agree: the place that the first one finds is that of the last line which is kept, so
spaces stand between the kept lines and nowhere else. -/
theorem joinLines_lastInked (i best : Nat) (hbreak : 0 < i ∨ 1 < ls.length) :
    joinLines (lastInked i best ls) i ls = List.intercalate [' '] (kept (i == 0) ls) := by
  induction ls generalizing i best with
  | nil => rfl
  | cons l ls ih =>
    have hsides : (i == 0) = false ∨ ls.isEmpty = false := by
      rcases hbreak with hi | hlength
      · exact .inl (by simpa using Nat.ne_of_gt hi)
      · have hmore : ls ≠ [] := by
          rintro rfl
          simp at hlength
        exact .inr (by simpa using hmore)
    have hrest : ∀ best, joinLines (lastInked (i + 1) best ls) (i + 1) ls = List.intercalate [' '] (kept false ls) :=
      fun best => ih (i + 1) best (.inl (Nat.succ_pos i))
    rw [lastInked_cons, joinLines, hrest]
    cases hink : isInked l with
    | false =>
      rw [(trimLine_eq_nil_iff hsides l).mpr hink, kept_cons_of_blank hsides hink]
      rfl
    | true =>
      have hfull : (trimLine (i == 0) ls.isEmpty l).isEmpty = false := by
        simpa using trimLine_ne_nil hsides hink
      rw [kept_cons_of_inked hsides hink, hfull]
      -- A blank is put after this line just if another one with ink follows, and then this line is not
      -- the last that has some.
      by_cases hlater : ∃ l ∈ ls, isInked l = true
      · have hplace : i ≠ lastInked (i + 1) i ls := Nat.ne_of_lt (le_lastInked hlater (i + 1) i)
        have hkept : kept false ls ≠ [] := by
          obtain ⟨l', hl', hink'⟩ := hlater
          intro hnil
          simp [kept_eq_nil_iff.mp hnil l' hl'] at hink'
        obtain ⟨q, qs, hkept⟩ := List.exists_cons_of_ne_nil hkept
        simp [hplace, hkept, List.intercalate_cons_cons]
      · have hblank : ∀ l ∈ ls, isInked l = false := by simpa using hlater
        simp [lastInked_of_blank hblank, kept_eq_nil_iff.mpr hblank, List.intercalate_singleton]

end Kept

theorem collapseChars_of_lines {cs : List Char} (h : 1 < (lines cs).length) :
    collapseChars cs = List.intercalate [' '] (kept true (lines cs)) :=
  joinLines_lastInked 0 0 (.inr h)

/-- The lines of a text with a line break as they are shown: spaces next to a break are gone, and so are
the lines that are empty then. -/
def shownLines (first : List Char) (middle : List (List Char)) (last : List Char) : List (List Char) :=
  (List.rdropWhile (· == ' ') (spaced first) ::
    ((middle.map fun l => trim (· == ' ') (spaced l)) ++ [(spaced last).dropWhile (· == ' ')])).filter
      (!·.isEmpty)

theorem kept_eq_shownLines (first : List Char) (middle : List (List Char)) (last : List Char) :
    kept true (first :: (middle ++ [last])) = shownLines first middle last := by
  have hmore : (middle ++ [last]).isEmpty = false := by simp
  rw [kept, trimmed, trimmed_concat, hmore, trimLine_first, shownLines]

theorem ne_nil_of_mem_shownLines {first last : List Char} {middle : List (List Char)} :
    ∀ l ∈ shownLines first middle last, l ≠ [] := by
  intro l hl
  simpa using (List.mem_filter.mp hl).2

/-- Text is its only line with spaces for tabs, or else its lines without the spaces next to breaks, joined
by single spaces where there is anything to join: it starts as the first line that is left and ends as the
last one. -/
theorem collapse_joins_lines (raw : String) :
    List.intercalate ['\n'] (lines raw.toList) = normalizeBreaks raw.toList ∧
    (∀ l ∈ lines raw.toList, ∀ c ∈ l, c ≠ '\n' ∧ c ≠ '\r') ∧
    ((∃ line, lines raw.toList = [line] ∧ (collapse raw).toList = spaced line) ∨
      ∃ first middle last, lines raw.toList = first :: (middle ++ [last]) ∧
        (collapse raw).toList = List.intercalate [' '] (shownLines first middle last) ∧
        (collapse raw).toList.head? = (shownLines first middle last).head?.bind List.head? ∧
        (collapse raw).toList.getLast? = (shownLines first middle last).getLast?.bind List.getLast?) := by
  refine ⟨intercalate_lines _, lines_unbroken _, ?_⟩
  rw [collapse, String.toList_ofList]
  obtain ⟨first, rest, hlines⟩ := lines_eq_cons raw.toList
  rcases List.eq_nil_or_concat rest with rfl | ⟨middle, last, hrest⟩
  · exact .inl ⟨first, hlines, collapseChars_of_line hlines⟩
  · rw [List.concat_eq_append] at hrest
    subst hrest
    have hjoined : collapseChars raw.toList = List.intercalate [' '] (shownLines first middle last) := by
      rw [collapseChars_of_lines (by simp [hlines]), hlines, kept_eq_shownLines]
    refine .inr ⟨first, middle, last, hlines, hjoined, ?_, ?_⟩
    · rw [hjoined, head?_intercalate ne_nil_of_mem_shownLines]
    · rw [hjoined, getLast?_intercalate ne_nil_of_mem_shownLines]

def isSolid (c : Char) : Bool := c != ' ' && c != '\t' && c != '\r' && c != '\n'

theorem flatMap_filter_lines (cs : List Char) : (lines cs).flatMap (·.filter isSolid) = cs.filter isSolid := by
  fun_induction lines cs with
  | case1 => rfl
  | case2 cs ih => simpa [isSolid] using ih
  | case3 c cs hpair hbreak ih =>
    have hc : isSolid c = false := by
      rcases (by simpa using hbreak : c = '\n' ∨ c = '\r') with rfl | rfl <;> rfl
    simpa [hc] using ih
  | case4 c cs hpair hbreak hlines ih =>
    rw [hlines] at ih
    simp [List.filter_cons, ← ih]
  | case5 c cs hpair hbreak l ls hlines ih =>
    rw [hlines] at ih
    by_cases hc : isSolid c = true
    · simpa [hc] using ih
    · simpa [hc] using ih

theorem filter_joinLines (inked i : Nat) (ls : List (List Char)) :
    (joinLines inked i ls).filter isSolid = ls.flatMap (·.filter isSolid) := by
  induction ls generalizing i with
  | nil => rfl
  | cons l ls ih =>
    have hline := filter_trimLine (p := isSolid) rfl rfl (i == 0) ls.isEmpty l
    rw [joinLines, List.filter_append, ih, List.flatMap_cons, ← hline]
    congr 1
    split
    next hempty => rw [List.isEmpty_iff.mp hempty]
    next =>
      split
      · rfl
      · rw [List.filter_append]
        exact List.append_nil _

theorem filter_collapseChars (cs : List Char) : (collapseChars cs).filter isSolid = cs.filter isSolid := by
  rw [collapseChars, filter_joinLines, flatMap_filter_lines]

theorem lf_mem_normalizeBreaks {cs : List Char} (h : '\r' ∈ cs ∨ '\n' ∈ cs) : '\n' ∈ normalizeBreaks cs := by
  fun_induction normalizeBreaks cs with
  | case1 => simp at h
  | case2 cs ih => exact List.mem_cons_self
  | case3 c cs hpair ih =>
    by_cases hc : c = '\n' ∨ c = '\r'
    · rcases hc with rfl | rfl <;> simp
    · apply List.mem_cons_of_mem
      apply ih
      obtain ⟨hlf, hcr⟩ := not_or.mp hc
      simpa [Ne.symm hlf, Ne.symm hcr] using h

theorem one_lt_length_lines {cs : List Char} (h : '\r' ∈ cs ∨ '\n' ∈ cs) : 1 < (lines cs).length := by
  have hlf := lf_mem_normalizeBreaks h
  by_contra hlength
  obtain ⟨line, rest, hlines⟩ := lines_eq_cons cs
  have hjoined := intercalate_lines cs
  have hunbroken := lines_unbroken cs
  rw [hlines] at hlength hjoined hunbroken
  have hrest : rest = [] := by simpa using hlength
  subst hrest
  rw [← hjoined, List.intercalate_singleton] at hlf
  exact (hunbroken line List.mem_cons_self _ hlf).1 rfl

theorem isInked_of_mem_lines {cs : List Char} (h : ∀ c ∈ cs, isSolid c = false) :
    ∀ l ∈ lines cs, isInked l = false := by
  intro l hl
  have hsolid : (lines cs).flatMap (·.filter isSolid) = [] := by
    rw [flatMap_filter_lines]
    exact List.filter_eq_nil_iff.mpr (by simpa using h)
  apply List.any_eq_false.mpr
  intro c hc
  have hline := List.filter_eq_nil_iff.mp (List.flatMap_eq_nil_iff.mp hsolid l hl) c hc
  obtain ⟨hlf, hcr⟩ := lines_unbroken cs l hl c hc
  simpa [isSolid, isInk, hlf, hcr] using hline

/-- Text that is empty, or blank with a line break. -/
def Vanishes (cs : List Char) : Prop :=
  (∀ c ∈ cs, isSolid c = false) ∧ (cs = [] ∨ '\r' ∈ cs ∨ '\n' ∈ cs)

theorem collapseChars_eq_nil_iff (cs : List Char) : collapseChars cs = [] ↔ Vanishes cs := by
  constructor
  · intro hnil
    have hfilter := filter_collapseChars cs
    rw [hnil] at hfilter
    refine ⟨by simpa using List.filter_eq_nil_iff.mp hfilter.symm, ?_⟩
    by_cases hbreak : '\r' ∈ cs ∨ '\n' ∈ cs
    · exact .inr hbreak
    · have hunbroken : ∀ c ∈ cs, c ≠ '\n' ∧ c ≠ '\r' := by
        intro c hc
        constructor
        · rintro rfl
          exact hbreak (.inr hc)
        · rintro rfl
          exact hbreak (.inl hc)
      rw [collapseChars_of_line (lines_of_unbroken hunbroken)] at hnil
      exact .inl (List.map_eq_nil_iff.mp hnil)
  · rintro ⟨hblank, rfl | hbreak⟩
    · rfl
    · have hlength := one_lt_length_lines hbreak
      have hlines := isInked_of_mem_lines hblank
      obtain ⟨line, rest, hsplit⟩ := lines_eq_cons cs
      rw [collapseChars_of_lines hlength]
      rw [hsplit] at hlength hlines ⊢
      have hmore : rest.isEmpty = false := by
        rw [List.isEmpty_eq_false_iff]
        rintro rfl
        simp at hlength
      obtain ⟨hline, hrest⟩ := List.forall_mem_cons.mp hlines
      rw [kept_cons_of_blank (.inr hmore) hline, kept_eq_nil_iff.mpr hrest]
      rfl

/-- Joining lines a second time changes nothing. No tab and no line break is left, and all characters but
these and spaces are, in their order. Nothing is left just of text that vanishes, so just that gives no
output. The kinds of line breaks do not matter. -/
theorem collapse_laws (raw : String) :
    collapse (collapse raw) = collapse raw ∧
    (∀ c ∈ (collapse raw).toList, c ≠ '\t' ∧ c ≠ '\r' ∧ c ≠ '\n') ∧
    (collapse raw).toList.filter isSolid = raw.toList.filter isSolid ∧
    (collapse raw = "" ↔ Vanishes raw.toList) ∧
    (∀ label place, (Node.text label raw place).givesOutput = false ↔ Vanishes raw.toList) ∧
    collapse (String.ofList (normalizeBreaks raw.toList)) = collapse raw := by
  have hplain : ∀ c ∈ collapseChars raw.toList, isPlain c = true := fun c => isPlain_of_mem_collapseChars
  have hvanishes := collapseChars_eq_nil_iff raw.toList
  refine ⟨?_, ?_, ?_, ?_, ?_, ?_⟩
  · simp only [collapse, String.toList_ofList, collapseChars_of_isPlain hplain]
  · intro c hc
    rw [collapse, String.toList_ofList] at hc
    have hc := hplain c hc
    simp only [isPlain, Bool.and_eq_true, bne_iff_ne] at hc
    exact ⟨hc.2, hc.1.2, hc.1.1⟩
  · rw [collapse, String.toList_ofList, filter_collapseChars]
  · rw [← hvanishes, ← String.toList_eq_nil_iff, collapse, String.toList_ofList]
  · intro label place
    rw [← hvanishes]
    simp [Node.givesOutput]
  · rw [collapse, collapse, String.toList_ofList, collapseChars, lines_normalizeBreaks, collapseChars]

end SlotMarkup.Text
