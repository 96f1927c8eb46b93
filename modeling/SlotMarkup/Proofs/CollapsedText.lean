import Mathlib.Data.List.DropRight
import SlotMarkup.Text.Collapse

/-! Text after its lines are joined. No tab and no line break is left in it, and text without them stays
as it is, so joining lines once more changes nothing, not even across two texts. -/

namespace SlotMarkup.Text

def isPlain (c : Char) : Bool := c != '\n' && c != '\r' && c != '\t'

theorem lines_unbroken (cs : List Char) : ∀ l ∈ lines cs, ∀ c ∈ l, c ≠ '\n' ∧ c ≠ '\r' := by
  fun_induction lines cs with
  | case1 => simp
  | case2 cs ih => simpa using ih
  | case3 c cs _ hbreak ih => simpa using ih
  | case4 c cs _ hbreak hlines ih =>
    have hc : c ≠ '\n' ∧ c ≠ '\r' := by simpa using hbreak
    simpa using hc
  | case5 c cs _ hbreak l ls hlines ih =>
    have hc : c ≠ '\n' ∧ c ≠ '\r' := by simpa using hbreak
    rw [hlines] at ih
    obtain ⟨hl, hls⟩ := List.forall_mem_cons.mp ih
    exact List.forall_mem_cons.mpr ⟨List.forall_mem_cons.mpr ⟨hc, hl⟩, hls⟩

theorem lines_of_unbroken {cs : List Char} (h : ∀ c ∈ cs, c ≠ '\n' ∧ c ≠ '\r') : lines cs = [cs] := by
  fun_induction lines cs with
  | case1 => rfl
  | case2 cs ih => simp at h
  | case3 c cs _ hbreak ih =>
    have hc := (List.forall_mem_cons.mp h).1
    simp [hc.1, hc.2] at hbreak
  | case4 c cs _ hbreak hlines ih =>
    rw [ih (List.forall_mem_cons.mp h).2] at hlines
    cases hlines
  | case5 c cs _ hbreak l ls hlines ih =>
    rw [ih (List.forall_mem_cons.mp h).2] at hlines
    cases hlines
    rfl

def spaced (line : List Char) : List Char := line.map fun c => if c == '\t' then ' ' else c

theorem trimLine_sublist (first last : Bool) (line : List Char) :
    (trimLine first last line).Sublist (spaced line) := by
  have hleft : (if first then spaced line else (spaced line).dropWhile (· == ' ')).Sublist (spaced line) := by
    split
    · exact List.Sublist.refl _
    · exact List.dropWhile_sublist _
  change (if last then if first then spaced line else (spaced line).dropWhile (· == ' ')
    else List.rdropWhile (· == ' ') (if first then spaced line else (spaced line).dropWhile (· == ' '))).Sublist
      (spaced line)
  split
  · exact hleft
  · exact (List.rdropWhile_prefix _ _).sublist.trans hleft

theorem mem_spaced {line : List Char} {c : Char} (h : c ∈ spaced line) : c = ' ' ∨ (c ∈ line ∧ c ≠ '\t') := by
  obtain ⟨d, hd, rfl⟩ := List.mem_map.mp h
  by_cases htab : d = '\t'
  · exact .inl (by simp [htab])
  · exact .inr (by simpa [htab] using hd)

theorem spaced_eq_self {line : List Char} (h : '\t' ∉ line) : spaced line = line := by
  have hself : ∀ c ∈ line, (if c == '\t' then ' ' else c) = c := by
    intro c hc
    have htab : c ≠ '\t' := fun heq => h (heq ▸ hc)
    simp [htab]
  exact (List.map_congr_left hself).trans (List.map_id _)

theorem mem_joinLines {inked i : Nat} {ls : List (List Char)} {c : Char} (h : c ∈ joinLines inked i ls) :
    c = ' ' ∨ ∃ l ∈ ls, c ∈ l ∧ c ≠ '\t' := by
  induction ls generalizing i with
  | nil => cases h
  | cons l ls ih =>
    rcases List.mem_append.mp h with hhere | hlater
    · have htrimmed : c = ' ' ∨ c ∈ trimLine (i == 0) ls.isEmpty l := by
        split at hhere
        · cases hhere
        · split at hhere
          · exact .inr hhere
          · exact (List.mem_append.mp hhere).symm.imp_left List.mem_singleton.mp
      rcases htrimmed with hspace | hmem
      · exact .inl hspace
      · have hspaced := mem_spaced ((trimLine_sublist _ _ _).subset hmem)
        exact hspaced.imp_right fun hl => ⟨l, List.mem_cons_self, hl⟩
    · rcases ih hlater with hspace | ⟨l', hl', hc⟩
      · exact .inl hspace
      · exact .inr ⟨l', List.mem_cons_of_mem l hl', hc⟩

theorem isPlain_of_mem_collapseChars {cs : List Char} {c : Char} (h : c ∈ collapseChars cs) :
    isPlain c = true := by
  rcases mem_joinLines h with rfl | ⟨l, hl, hc, htab⟩
  · rfl
  · have hbreak := lines_unbroken cs l hl c hc
    simp [isPlain, hbreak.1, hbreak.2, htab]

theorem collapseChars_of_line {cs line : List Char} (h : lines cs = [line]) : collapseChars cs = spaced line := by
  have htrim : trimLine true true line = spaced line := rfl
  have hinked : lastInked 0 0 [line] = 0 := by
    simp [lastInked]
  rw [collapseChars, h, hinked, joinLines, joinLines, List.append_nil]
  change (if (trimLine true true line).isEmpty then [] else trimLine true true line) = spaced line
  rw [htrim]
  split
  next hempty => exact (List.isEmpty_iff.mp hempty).symm
  next => rfl

theorem collapseChars_of_isPlain {cs : List Char} (h : ∀ c ∈ cs, isPlain c = true) :
    collapseChars cs = cs := by
  have hplain : ∀ c ∈ cs, (c ≠ '\n' ∧ c ≠ '\r') ∧ c ≠ '\t' := by
    simpa [isPlain] using h
  rw [collapseChars_of_line (lines_of_unbroken fun c hc => (hplain c hc).1)]
  exact spaced_eq_self fun htab => (hplain _ htab).2 rfl

theorem collapse_collapse_append (v w : String) :
    collapse (collapse v ++ collapse w) = collapse v ++ collapse w := by
  have hplain : ∀ c ∈ (collapse v ++ collapse w).toList, isPlain c = true := by
    intro c hc
    rw [String.toList_append, collapse, collapse, String.toList_ofList, String.toList_ofList] at hc
    rcases List.mem_append.mp hc with hc | hc
    · exact isPlain_of_mem_collapseChars hc
    · exact isPlain_of_mem_collapseChars hc
  rw [collapse, collapseChars_of_isPlain hplain, String.ofList_toList]

end SlotMarkup.Text
