import SlotMarkup.Proofs.Numerals
import SlotMarkup.Proofs.SplitText
import SlotMarkup.Template.Part

/-! Written part descriptors read back as the parts they were written from, up to the indices that
are written as nothing. -/

namespace SlotMarkup

open SlotMarkup.Text (mem_intercalate isDigit_of_isDigit)

namespace Part

/-- What is left of a part once it is written: an index of `-1` is no index. -/
def slim (p : Part) : Part where
  kind := p.kind
  element := p.element.filter (· ≠ -1)
  index := p.index.filter (· ≠ -1)

/-- An index that is absent, or is no less than `-1` and can be read back. -/
def Legible (i : Option Int) : Prop :=
  ∀ n ∈ i, -1 ≤ n ∧ n < Decimal.tenPower Decimal.maxIntegerLength

structure Valid (count : Option Int) (p : Part) : Prop where
  element_ge : ∀ n ∈ p.element, -1 ≤ n
  index_ge : ∀ n ∈ p.index, -1 ≤ n
  element_lt : ∀ c ∈ count, ∀ n ∈ p.element, n < c
  element_of_attribute : p.kind = .attribute → ∃ n ∈ p.element, n ≠ -1

theorem belowMinusOne_eq_none_iff {i : Option Int} : belowMinusOne i = none ↔ ∀ n ∈ i, -1 ≤ n := by
  cases i with
  | none => simp [belowMinusOne]
  | some n => simp [belowMinusOne]

theorem valid_iff {count : Option Int} {p : Part} :
    p.Valid count ↔ belowMinusOne p.element = none ∧ belowMinusOne p.index = none ∧
      (∀ c ∈ count, ∀ n ∈ p.element, n < c) ∧
        (p.kind = .attribute → ∃ n ∈ p.element, n ≠ -1) := by
  rw [belowMinusOne_eq_none_iff, belowMinusOne_eq_none_iff]
  exact ⟨fun h => ⟨h.1, h.2, h.3, h.4⟩, fun ⟨h₁, h₂, h₃, h₄⟩ => ⟨h₁, h₂, h₃, h₄⟩⟩

theorem fault?_eq_none_iff {count : Option Int} {i : Nat} {p : Part} :
    p.fault? count i = none ↔ p.Valid count := by
  obtain ⟨kind, element, index⟩ := p
  rw [valid_iff]
  unfold fault?
  cases belowMinusOne element with
  | some n => simp
  | none =>
    cases belowMinusOne index with
    | some n => simp
    | none =>
      cases element with
      | none => cases count <;> simp [isAttribute]
      | some n =>
        cases count with
        | none => by_cases hn : n = -1 <;> simp [isAttribute, hn]
        | some c =>
          by_cases hc : n < c
          · obtain rfl | hn := Decidable.em (n = -1)
            · simp [isAttribute, hc, Int.not_le.mpr hc]
            · simp [hc, hn, Int.not_le.mpr hc]
          · simp [hc, Int.not_lt.mp hc]

end Part

namespace Parts

open SlotMarkup.Part

theorem encodeFrom_eq_ok {count : Option Int} {i : Nat} {parts : List Part}
    (h : ∀ p ∈ parts, p.Valid count) : encodeFrom count i parts = .ok (parts.map Part.encode) := by
  induction parts generalizing i with
  | nil => rfl
  | cons p ps ih =>
    rw [encodeFrom, fault?_eq_none_iff.mpr (h p (List.mem_cons_self ..)),
      ih fun q hq => h q (List.mem_cons_of_mem _ hq)]
    rfl

theorem encode_eq_ok {count : Option Int} {parts : List Part} (h : ∀ p ∈ parts, p.Valid count) :
    encode parts count = .ok (String.ofList (List.intercalate [','] (parts.map Part.encode))) := by
  rw [encode, encodeFrom_eq_ok h]

theorem toList_natCast (n : Nat) : (toString (n : Int)).toList = Nat.toDigits 10 n :=
  Nat.toList_repr

theorem slimIndex_chars {i : Option Int} (h : Legible i) : ∀ c ∈ slimIndex i, c.isDigit = true := by
  intro c hc
  match i with
  | none => cases hc
  | some n =>
    rw [slimIndex] at hc
    split at hc
    · cases hc
    · obtain ⟨m, rfl⟩ := Int.eq_ofNat_of_zero_le (show 0 ≤ n by have := (h n rfl).1; omega)
      rw [toList_natCast] at hc
      exact Decimal.isDigit_toDigits m c hc

theorem decodeIndex_slimIndex (codes : String) {i : Option Int} (h : Legible i) :
    decodeIndex codes (slimIndex i) = .ok (i.filter (· ≠ -1)) := by
  match i with
  | none => rfl
  | some n =>
    by_cases hn : n = -1
    · rw [slimIndex, if_pos hn, hn]
      rfl
    · obtain ⟨m, rfl⟩ := Int.eq_ofNat_of_zero_le (show 0 ≤ n by have := (h n rfl).1; omega)
      have hdigits : (Nat.toDigits 10 m).all Text.isDigit = true :=
        List.all_eq_true.mpr fun c hc => isDigit_of_isDigit (Decimal.isDigit_toDigits m c hc)
      have hread : Decimal.readInteger (Nat.toDigits 10 m) = .ok (m : Int) :=
        Decimal.readInteger_toDigits (Int.ofNat_lt.mp (h m rfl).2)
      have hfilter : (some (m : Int)).filter (· ≠ -1) = some (m : Int) := by
        rw [Option.filter, if_pos (decide_eq_true hn)]
      rw [slimIndex, if_neg hn, toList_natCast, decodeIndex, hdigits, hread, hfilter,
        if_neg (by simp [Nat.toDigits_ne_nil])]
      rfl

theorem decodeKind?_code (k : PartKind) : decodeKind? (toString k.code).toList = some k := by
  cases k <;> decide

theorem fields_chars {p : Part} (he : Legible p.element) (hi : Legible p.index) :
    ∀ q ∈ [(toString p.kind.code).toList, slimIndex p.element, slimIndex p.index],
      ∀ c ∈ q, c.isDigit = true := by
  have hcode : (toString p.kind.code).toList.all Char.isDigit = true := by
    cases p.kind <;> decide
  intro q hq
  simp only [List.mem_cons, List.not_mem_nil, or_false] at hq
  rcases hq with rfl | rfl | rfl
  · exact List.all_eq_true.mp hcode
  · exact slimIndex_chars he
  · exact slimIndex_chars hi

theorem encode_ne_nil (p : Part) : p.encode ≠ [] :=
  List.append_ne_nil_of_right_ne_nil _ (List.cons_ne_nil _ _)

theorem comma_not_mem_encode {p : Part} (he : Legible p.element) (hi : Legible p.index) :
    ',' ∉ p.encode := by
  intro hcomma
  obtain h | ⟨q, hq, h⟩ := mem_intercalate hcomma
  · exact absurd h (by decide)
  · exact absurd (fields_chars he hi q hq _ h) (by decide)

theorem comma_not_mem_map_encode {parts : List Part}
    (h : ∀ p ∈ parts, Legible p.element ∧ Legible p.index) : ∀ q ∈ parts.map Part.encode, ',' ∉ q := by
  intro q hq
  obtain ⟨p, hp, rfl⟩ := List.mem_map.mp hq
  exact comma_not_mem_encode (h p hp).1 (h p hp).2

theorem decodePart_encode (codes : String) {p : Part} (he : Legible p.element)
    (hi : Legible p.index) : decodePart codes p.encode = .ok p.slim := by
  have hfields : ∀ q ∈ [(toString p.kind.code).toList, slimIndex p.element, slimIndex p.index],
      '|' ∉ q := fun q hq hbar => absurd (fields_chars he hi q hq _ hbar) (by decide)
  rw [decodePart, Part.encode, List.splitOn_intercalate _ hfields (List.cons_ne_nil _ _)]
  simp only [decodeKind?_code, decodeIndex_slimIndex codes he, decodeIndex_slimIndex codes hi]
  rfl

theorem decodeChunks_map_encode (codes : String) {parts : List Part}
    (h : ∀ p ∈ parts, Legible p.element ∧ Legible p.index) :
    decodeChunks codes (parts.map Part.encode) = .ok (parts.map Part.slim) := by
  induction parts with
  | nil => rfl
  | cons p ps ih =>
    obtain ⟨he, hi⟩ := h p (List.mem_cons_self ..)
    rw [List.map_cons, decodeChunks, decodePart_encode codes he hi,
      ih fun q hq => h q (List.mem_cons_of_mem _ hq)]
    rfl

theorem decode_intercalate {parts : List Part}
    (h : ∀ p ∈ parts, Legible p.element ∧ Legible p.index) :
    decode (String.ofList (List.intercalate [','] (parts.map Part.encode))) = .ok (parts.map Part.slim) := by
  cases parts with
  | nil => rfl
  | cons p ps =>
    have hchunks : ∀ q ∈ p.encode :: ps.map Part.encode, ',' ∉ q := comma_not_mem_map_encode h
    have hsplit := List.splitOn_intercalate _ hchunks (List.cons_ne_nil _ _)
    have hempty : (String.ofList (List.intercalate [','] (p.encode :: ps.map Part.encode))).isEmpty = false := by
      rw [String.isEmpty_eq_false_iff, ne_eq, ← String.toList_eq_nil_iff, String.toList_ofList]
      intro hnil
      rw [hnil] at hsplit
      exact encode_ne_nil p (List.cons.inj hsplit).1.symm
    rw [List.map_cons, decode, hempty, String.toList_ofList, hsplit, ← List.map_cons]
    exact decodeChunks_map_encode _ h

end Parts

end SlotMarkup
