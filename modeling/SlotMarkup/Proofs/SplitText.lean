import Mathlib.Data.List.Basic

/-! Texts cut at a character and joined with one. A run of characters ends where the text does, or at
the first character of another kind. -/

namespace SlotMarkup.Text

section Cuts

variable {sep : Char} {cs p : List Char} {ps : List (List Char)}

theorem splitOn_eq_cons (sep : Char) (cs : List Char) : ∃ p ps, List.splitOn sep cs = p :: ps :=
  List.exists_cons_of_ne_nil (List.splitOn_ne_nil sep cs)

theorem intercalate_cons (sep : Char) (p : List Char) (ps : List (List Char)) :
    List.intercalate [sep] (p :: ps) = p ++ ps.flatMap (sep :: ·) := by
  induction ps generalizing p with
  | nil => rw [List.intercalate_singleton, List.flatMap_nil, List.append_nil]
  | cons q qs ih =>
    rw [List.intercalate_cons_cons, ih, List.flatMap_cons, List.append_assoc]
    rfl

theorem eq_append_of_splitOn (h : List.splitOn sep cs = p :: ps) : cs = p ++ ps.flatMap (sep :: ·) := by
  rw [← intercalate_cons, ← h, List.intercalate_splitOn]

theorem length_le_flatMap_cons (sep : Char) (ps : List (List Char)) :
    ps.length ≤ (ps.flatMap (sep :: ·)).length := by
  induction ps with
  | nil => simp
  | cons p ps ih =>
    simp only [List.flatMap_cons, List.length_append, List.length_cons]
    omega

theorem mem_intercalate {c : Char} (h : c ∈ List.intercalate [sep] ps) : c = sep ∨ ∃ p ∈ ps, c ∈ p := by
  cases ps with
  | nil => cases h
  | cons p ps =>
    rw [intercalate_cons, List.mem_append, List.mem_flatMap] at h
    rcases h with hp | ⟨q, hq, hc⟩
    · exact .inr ⟨p, List.mem_cons_self, hp⟩
    · rcases List.mem_cons.mp hc with hsep | hc
      · exact .inl hsep
      · exact .inr ⟨q, List.mem_cons_of_mem p hq, hc⟩

theorem head?_intercalate (h : ∀ p ∈ ps, p ≠ []) :
    (List.intercalate [sep] ps).head? = ps.head?.bind List.head? := by
  cases ps with
  | nil => rfl
  | cons p ps =>
    obtain ⟨c, cs, rfl⟩ := List.exists_cons_of_ne_nil (h p List.mem_cons_self)
    simp [intercalate_cons]

theorem getLast?_intercalate (h : ∀ p ∈ ps, p ≠ []) :
    (List.intercalate [sep] ps).getLast? = ps.getLast?.bind List.getLast? := by
  induction ps with
  | nil => rfl
  | cons p ps ih =>
    cases ps with
    | nil => rw [List.intercalate_singleton]; rfl
    | cons q qs =>
      have hrest := ih fun r hr => h r (List.mem_cons_of_mem p hr)
      have hne : List.intercalate [sep] (q :: qs) ≠ [] := by
        have hq := h q (List.mem_cons_of_mem p List.mem_cons_self)
        simp [intercalate_cons, hq]
      obtain ⟨c, cs, hcons⟩ := List.exists_cons_of_ne_nil hne
      rw [List.intercalate_cons_cons, hcons, List.getLast?_append_cons, ← hcons, hrest,
        List.getLast?_cons_cons]

end Cuts

section Runs

variable {p : Char → Bool} {run rest : List Char}

theorem takeWhile_run (hrun : ∀ c ∈ run, p c = true) (hrest : rest.takeWhile p = []) :
    (run ++ rest).takeWhile p = run := by
  rw [List.takeWhile_append_of_pos hrun, hrest, List.append_nil]

theorem dropWhile_run (hrun : ∀ c ∈ run, p c = true) (hrest : rest.takeWhile p = []) :
    (run ++ rest).dropWhile p = rest := by
  have hsplit : rest.takeWhile p ++ rest.dropWhile p = rest := List.takeWhile_append_dropWhile
  rwa [hrest, List.nil_append, ← List.dropWhile_append_of_pos hrun] at hsplit

def Resumes (sep : Char) (rest : List Char) : Prop := rest = [] ∨ ∃ tail, rest = sep :: tail

theorem Resumes.takeWhile_eq_nil {sep : Char} (h : Resumes sep rest) (hsep : p sep = false) :
    rest.takeWhile p = [] := by
  rcases h with rfl | ⟨tail, rfl⟩
  · rfl
  · simp [hsep]

end Runs

end SlotMarkup.Text
