import SlotMarkup.Proofs.PartReading
import SlotMarkup.Proofs.PartRoundTrip

/-! The spellings of part descriptors. Signs, blanks, underscores, zeros in front and the digits of any
script are read alike; one spelling of each list of parts is the written one. -/

namespace SlotMarkup.Parts

open SlotMarkup.Decimal (IsNumeral IsPlain numeralValue tenPower maxIntegerLength)
open SlotMarkup.Part (slimIndex Legible)

/-- A part as it is written: a code of one digit, and for each index nothing or a plain number. -/
inductive IsCanonical : List Char → Prop
  | fields {code : Char} {element index : List Char} (known : code ∈ ['0', '1', '2'])
      (helement : element = [] ∨ IsPlain element) (hindex : index = [] ∨ IsPlain index) :
      IsCanonical (code :: '|' :: (element ++ '|' :: index))

def respell (codes : String) : Except Error String := do
  let parts ← decode codes
  encode parts none

variable {cs chunk : List Char} {chunks : List (List Char)} {parts : List Part} {p : Part} {codes : String}

theorem nonneg_indexOf (cs : List Char) : ∀ n ∈ indexOf cs, 0 ≤ n := by
  intro n hn
  rw [indexOf] at hn
  split at hn
  · cases hn
  · cases hn
    exact Int.natCast_nonneg _

theorem indexOf_lt (h : IsNumeral cs) : ∀ n ∈ indexOf cs, n < tenPower maxIntegerLength := by
  intro n hn
  rw [indexOf] at hn
  split at hn
  · cases hn
  · cases hn
    exact Int.ofNat_lt.mpr
      (Nat.lt_of_lt_of_le (Decimal.numeralValue_lt cs) (Decimal.tenPower_le h.length_le))

theorem slimIndex_cases {i : Option Int} (h : ∀ n ∈ i, 0 ≤ n) : slimIndex i = [] ∨ IsPlain (slimIndex i) := by
  match i with
  | none => exact .inl rfl
  | some n =>
    obtain ⟨m, rfl⟩ := Int.eq_ofNat_of_zero_le (h n rfl)
    have hne : (m : Int) ≠ -1 := by omega
    rw [slimIndex, if_neg hne, toList_natCast]
    exact .inr (Decimal.isPlain_toDigits m)

theorem slimIndex_indexOf (h : cs = [] ∨ IsPlain cs) : slimIndex (indexOf cs) = cs := by
  rcases h with rfl | hplain
  · rfl
  · have hempty : cs.isEmpty = false := List.isEmpty_eq_false_iff.mpr hplain.ne_nil
    have hne : (numeralValue cs : Int) ≠ -1 := by omega
    rw [indexOf, hempty, if_neg Bool.false_ne_true, slimIndex, if_neg hne, toList_natCast,
      Decimal.toDigits_numeralValue hplain]

theorem code_cases (kind : PartKind) : ∃ code ∈ ['0', '1', '2'], (toString kind.code).toList = [code] := by
  match kind with
  | .attribute => exact ⟨'0', by simp, rfl⟩
  | .node => exact ⟨'1', by simp, rfl⟩
  | .nodeAfterDynamic => exact ⟨'2', by simp, rfl⟩

theorem code_of_decodeKind? {code : Char} {kind : PartKind} (hcode : code ∈ ['0', '1', '2'])
    (h : decodeKind? [code] = some kind) : (toString kind.code).toList = [code] := by
  simp only [List.mem_cons, List.not_mem_nil, or_false] at hcode
  rcases hcode with rfl | rfl | rfl
  · cases h.symm.trans (decodeKind?_code .attribute)
    rfl
  · cases h.symm.trans (decodeKind?_code .node)
    rfl
  · cases h.symm.trans (decodeKind?_code .nodeAfterDynamic)
    rfl

theorem bar_not_mem (h : cs = [] ∨ IsPlain cs) : '|' ∉ cs := by
  intro hbar
  rcases h with rfl | hplain
  · cases hbar
  · exact absurd (hplain.ascii _ hbar) (by decide)

namespace Spells

theorem nonneg (h : Spells chunk p) : (∀ n ∈ p.element, 0 ≤ n) ∧ ∀ n ∈ p.index, 0 ≤ n := by
  cases h with
  | fields => exact ⟨nonneg_indexOf _, nonneg_indexOf _⟩

theorem readable (h : Spells chunk p) : p.Readable := by
  cases h with
  | fields split known helement hindex => exact ⟨indexOf_lt helement, indexOf_lt hindex⟩

theorem legible (h : Spells chunk p) : Legible p.element ∧ Legible p.index := by
  refine ⟨fun n hn => ⟨?_, h.readable.1 n hn⟩, fun n hn => ⟨?_, h.readable.2 n hn⟩⟩
  · have := h.nonneg.1 n hn
    omega
  · have := h.nonneg.2 n hn
    omega

theorem slim_eq (h : Spells chunk p) : p.slim = p := by
  have hkeep : ∀ i : Option Int, (∀ n ∈ i, 0 ≤ n) → i.filter (· ≠ -1) = i := by
    intro i hi
    cases i with
    | none => rfl
    | some n =>
      have hn := hi n rfl
      rw [Option.filter, if_pos (decide_eq_true (by omega))]
  rw [Part.slim, hkeep _ h.nonneg.1, hkeep _ h.nonneg.2]

theorem valid_iff (h : Spells chunk p) :
    p.Valid none ↔ (p.kind = .attribute → p.element ≠ none) := by
  constructor
  · intro hvalid hkind hnone
    obtain ⟨n, hn, -⟩ := hvalid.element_of_attribute hkind
    rw [hnone] at hn
    cases hn
  · intro helement
    refine ⟨fun n hn => (h.legible.1 n hn).1, fun n hn => (h.legible.2 n hn).1, ?_, fun hkind => ?_⟩
    · intro c hc
      cases hc
    · obtain ⟨n, hn⟩ := Option.ne_none_iff_exists'.mp (helement hkind)
      have := h.nonneg.1 n hn
      exact ⟨n, hn, by omega⟩

theorem intercalate_fields (code : Char) (element index : List Char) :
    List.intercalate ['|'] [[code], element, index] = code :: '|' :: (element ++ '|' :: index) := by
  simp [List.intercalate_cons_cons, List.intercalate_singleton]

theorem encode_eq_iff (h : Spells chunk p) : p.encode = chunk ↔ IsCanonical chunk := by
  constructor
  · rintro rfl
    obtain ⟨code, hcode, hchars⟩ := code_cases p.kind
    rw [Part.encode, hchars, intercalate_fields]
    exact .fields hcode (slimIndex_cases h.nonneg.1) (slimIndex_cases h.nonneg.2)
  · intro hcanonical
    cases hcanonical with
    | @fields code element index hcode helement hindex =>
      have hbar : '|' ≠ code := by
        rintro rfl
        exact absurd hcode (by decide)
      have hfields : List.splitOn '|' (code :: '|' :: (element ++ '|' :: index)) = [[code], element, index] := by
        rw [← intercalate_fields]
        refine List.splitOn_intercalate '|' ?_ (List.cons_ne_nil _ _)
        simpa using ⟨hbar, bar_not_mem helement, bar_not_mem hindex⟩
      cases h with
      | fields split known =>
        rw [hfields] at split
        cases split
        rw [Part.encode, code_of_decodeKind? hcode known, slimIndex_indexOf helement,
          slimIndex_indexOf hindex, intercalate_fields]

end Spells

theorem map_encode_eq_iff (h : List.Forall₂ Spells chunks parts) :
    parts.map Part.encode = chunks ↔ ∀ chunk ∈ chunks, IsCanonical chunk := by
  induction h with
  | nil => simp
  | cons hpart _ ih => rw [List.map_cons, List.cons.injEq, List.forall_mem_cons, hpart.encode_eq_iff, ih]

theorem exists_spells (h : List.Forall₂ Spells chunks parts) : ∀ p ∈ parts, ∃ chunk, Spells chunk p := by
  induction h with
  | nil => exact List.forall_mem_nil _
  | cons hpart _ ih => exact List.forall_mem_cons.mpr ⟨⟨_, hpart⟩, ih⟩

theorem spells_of_decode (h : decode codes = .ok parts) : ∀ p ∈ parts, ∃ chunk, Spells chunk p := by
  rcases decode_eq_ok h with ⟨-, rfl⟩ | ⟨-, hspells⟩
  · exact List.forall_mem_nil _
  · exact exists_spells hspells

theorem encode_eq_error {count : Option Int} {e : Error} (h : encode parts count = .error e) :
    ∃ fault, e = .part fault := by
  rw [encode] at h
  split at h
  next fault _ =>
    cases h
    exact ⟨fault, rfl⟩
  next => cases h

section Decoded

variable {written : String} (hparts : ∀ p ∈ parts, ∃ chunk, Spells chunk p)

include hparts

theorem encode_ok_of_elements (helements : ∀ p ∈ parts, p.kind = .attribute → p.element ≠ none) :
    ∃ written, encode parts none = .ok written := by
  refine ⟨_, encode_eq_ok fun p hp => ?_⟩
  obtain ⟨chunk, hchunk⟩ := hparts p hp
  exact hchunk.valid_iff.mpr (helements p hp)

theorem encode_error_iff :
    (∃ fault, encode parts none = .error (.part fault)) ↔
      ∃ p ∈ parts, p.kind = .attribute ∧ p.element = none := by
  constructor
  · rintro ⟨fault, hfault⟩
    by_contra hnone
    obtain ⟨written, hwritten⟩ := encode_ok_of_elements hparts
      fun p hp hkind helement => hnone ⟨p, hp, hkind, helement⟩
    rw [hwritten] at hfault
    cases hfault
  · rintro ⟨p, hp, hkind, helement⟩
    cases hencode : encode parts none with
    | error e =>
      obtain ⟨fault, rfl⟩ := encode_eq_error hencode
      exact ⟨fault, rfl⟩
    | ok written =>
      obtain ⟨chunk, hchunk⟩ := hparts p hp
      have hvalid := (encode_eq_ok_iff.mp hencode).1 p hp
      exact absurd helement (hchunk.valid_iff.mp hvalid hkind)

theorem decode_written (h : encode parts none = .ok written) : decode written = .ok parts := by
  have hreadable : ∀ p ∈ parts, p.Readable := by
    intro p hp
    obtain ⟨chunk, hchunk⟩ := hparts p hp
    exact hchunk.readable
  have hslim : parts.map Part.slim = parts.map id := by
    refine List.map_congr_left fun p hp => ?_
    obtain ⟨chunk, hchunk⟩ := hparts p hp
    exact hchunk.slim_eq
  rw [decode_of_encode h hreadable, hslim, List.map_id]

theorem comma_not_mem : ∀ chunk ∈ parts.map Part.encode, ',' ∉ chunk := by
  refine comma_not_mem_map_encode fun p hp => ?_
  obtain ⟨chunk, hchunk⟩ := hparts p hp
  exact hchunk.legible

end Decoded

theorem written_eq_iff {written : String} (h : decode codes = .ok parts)
    (hencode : encode parts none = .ok written) :
    written = codes ↔ codes = "" ∨ ∀ chunk ∈ List.splitOn ',' codes.toList, IsCanonical chunk := by
  have hwritten := (encode_eq_ok_iff.mp hencode).2
  rcases decode_eq_ok h with ⟨rfl, rfl⟩ | ⟨hne, hspells⟩
  · exact ⟨fun _ => .inl rfl, fun _ => hwritten⟩
  · rw [← map_encode_eq_iff hspells, or_iff_right hne, hwritten]
    constructor
    · intro heq
      obtain ⟨chunk, chunks, hchunks⟩ := Text.splitOn_eq_cons ',' codes.toList
      rw [hchunks] at hspells
      cases hspells with
      | cons hpart hrest =>
        -- no part is written with a comma, so the text that was written falls into the same parts
        rw [← heq, String.toList_ofList, List.map_cons, List.splitOn_intercalate _ ?_ (List.cons_ne_nil _ _)]
        rw [← List.map_cons]
        exact comma_not_mem (List.forall_mem_cons.mpr ⟨⟨_, hpart⟩, exists_spells hrest⟩)
    · intro hmap
      rw [hmap, List.intercalate_splitOn, String.ofList_toList]

/-- Parts that were read have no negative index, and can be written unless an attribute has no element.
What is written reads as the same parts and is written again as it is; it is the text that was read
just if that was empty or canonical throughout. -/
theorem decode_then_encode (h : decode codes = .ok parts) :
    (∀ p ∈ parts, (∀ n ∈ p.element, 0 ≤ n) ∧ ∀ n ∈ p.index, 0 ≤ n) ∧
    ((∃ fault, encode parts none = .error (.part fault)) ↔
      ∃ p ∈ parts, p.kind = .attribute ∧ p.element = none) ∧
    ((∀ p ∈ parts, p.kind = .attribute → p.element ≠ none) →
      ∃ written, encode parts none = .ok written ∧ decode written = .ok parts ∧
        respell codes = .ok written ∧ respell written = .ok written ∧
        (written = codes ↔ codes = "" ∨ ∀ chunk ∈ List.splitOn ',' codes.toList, IsCanonical chunk)) := by
  have hparts := spells_of_decode h
  refine ⟨fun p hp => ?_, encode_error_iff hparts, fun helements => ?_⟩
  · obtain ⟨chunk, hchunk⟩ := hparts p hp
    exact hchunk.nonneg
  · obtain ⟨written, hencode⟩ := encode_ok_of_elements hparts helements
    have hdecode := decode_written hparts hencode
    have hrespell : ∀ spelling, decode spelling = .ok parts → respell spelling = .ok written := by
      intro spelling hspelling
      rw [respell, hspelling]
      exact hencode
    exact ⟨written, hencode, hdecode, hrespell codes h, hrespell written hdecode, written_eq_iff h hencode⟩

theorem decode_then_encode_spelled :
    let parts : List Part := [⟨.node, some 7, none⟩, ⟨.attribute, some 0, some 3⟩]
    decode "+1|007|, 0|0|٣" = .ok parts ∧
      (∃ written, encode parts none = .ok written ∧ decode written = .ok parts ∧
        respell written = .ok written) ∧
      decode "-0||1" = .ok [⟨.attribute, none, some 1⟩] ∧
      ∃ fault, encode [⟨.attribute, none, some 1⟩] none = .error (.part fault) := by
  intro parts
  have hdecode : decode "+1|007|, 0|0|٣" = .ok parts := rfl
  have hmissing : decode "-0||1" = .ok [⟨.attribute, none, some 1⟩] := rfl
  obtain ⟨written, hencode, hread, -, hrespell, -⟩ := (decode_then_encode hdecode).2.2 (by decide)
  exact ⟨hdecode, ⟨written, hencode, hread, hrespell⟩, hmissing,
    (decode_then_encode hmissing).2.1.mpr ⟨_, List.mem_cons_self, rfl, rfl⟩⟩

end SlotMarkup.Parts
