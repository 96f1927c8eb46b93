import SlotMarkup.Proofs.PartCodec

/-! The written form of part descriptors: which lists have one, which part is blamed where a list has
none, and what two lists with the same written form have in common. -/

namespace SlotMarkup

namespace Part

inductive Offends (count : Option Int) (i : Nat) (p : Part) : PartFault → Prop
  | elementIndex {n : Int} (he : p.element = some n) (hn : n < -1) :
      Offends count i p (.elementIndex i n)
  | secondaryIndex {n : Int} (hi : p.index = some n) (hn : n < -1) :
      Offends count i p (.secondaryIndex i n)
  | noSuchElement {n c : Int} (he : p.element = some n) (hc : count = some c) (hn : c ≤ n) :
      Offends count i p (.noSuchElement i n c)
  | noElement (hkind : p.kind = .attribute) (he : p.element = none ∨ p.element = some (-1)) :
      Offends count i p (.noElement i)

def Readable (p : Part) : Prop :=
  (∀ n ∈ p.element, n < Decimal.tenPower Decimal.maxIntegerLength) ∧
    ∀ n ∈ p.index, n < Decimal.tenPower Decimal.maxIntegerLength

theorem Valid.legible {count : Option Int} {p : Part} (h : p.Valid count) (hp : p.Readable) :
    Legible p.element ∧ Legible p.index :=
  ⟨fun n hn => ⟨h.element_ge n hn, hp.1 n hn⟩, fun n hn => ⟨h.index_ge n hn, hp.2 n hn⟩⟩

theorem belowMinusOne_eq_some {i : Option Int} {n : Int} (h : belowMinusOne i = some n) :
    i = some n ∧ n < -1 := by
  cases i with
  | none => cases h
  | some m =>
    rw [belowMinusOne] at h
    split at h
    next hm =>
      cases h
      exact ⟨rfl, hm⟩
    next => cases h

theorem offends_of_fault? {count : Option Int} {i : Nat} {p : Part} {fault : PartFault}
    (h : p.fault? count i = some fault) : p.Offends count i fault := by
  unfold fault? at h
  split at h
  next n hn =>
    cases h
    exact .elementIndex (belowMinusOne_eq_some hn).1 (belowMinusOne_eq_some hn).2
  next n _ hn =>
    cases h
    exact .secondaryIndex (belowMinusOne_eq_some hn).1 (belowMinusOne_eq_some hn).2
  next =>
    -- no index is too small: what is left is an element beyond the count, or none for an attribute
    split at h
    next c n he =>
      split at h
      next hc =>
        cases h
        exact .noSuchElement he rfl hc
      next =>
        split at h
        next hn =>
          cases h
          simp only [isAttribute, Bool.and_eq_true, decide_eq_true_eq] at hn
          exact .noElement hn.1 (.inr (hn.2 ▸ he))
        next => cases h
    next n he =>
      split at h
      next hn =>
        cases h
        simp only [isAttribute, Bool.and_eq_true, decide_eq_true_eq] at hn
        exact .noElement hn.1 (.inr (hn.2 ▸ he))
      next => cases h
    next he =>
      split at h
      next hkind =>
        cases h
        exact .noElement (of_decide_eq_true hkind) (.inl he)
      next => cases h

theorem slimIndex_filter (i : Option Int) : slimIndex (i.filter (· ≠ -1)) = slimIndex i := by
  cases i with
  | none => rfl
  | some n => by_cases hn : n = -1 <;> simp [slimIndex, Option.filter, hn]

theorem encode_slim (p : Part) : p.slim.encode = p.encode := by
  rw [Part.encode, Part.encode, slim, slimIndex_filter, slimIndex_filter]

end Part

namespace Parts

open SlotMarkup.Part

variable {count : Option Int} {parts : List Part} {codes : String}

theorem encodeFrom_append_cons {i : Nat} {front back : List Part} {p : Part} {fault : PartFault}
    (hfront : ∀ q ∈ front, q.Valid count) (hp : p.fault? count (i + front.length) = some fault) :
    encodeFrom count i (front ++ p :: back) = .error fault := by
  induction front generalizing i with
  | nil =>
    rw [List.length_nil, Nat.add_zero] at hp
    rw [List.nil_append, encodeFrom, hp]
  | cons q qs ih =>
    rw [List.forall_mem_cons] at hfront
    rw [List.length_cons, Nat.add_comm qs.length, ← Nat.add_assoc] at hp
    rw [List.cons_append, encodeFrom, fault?_eq_none_iff.mpr hfront.1, ih hfront.2 hp]
    rfl

theorem encode_append_cons {front back : List Part} {p : Part}
    (hfront : ∀ q ∈ front, q.Valid count) (hp : ¬ p.Valid count) :
    ∃ fault, encode (front ++ p :: back) count = .error (.part fault) ∧
      p.Offends count front.length fault := by
  rw [← fault?_eq_none_iff (i := front.length), ← ne_eq, Option.ne_none_iff_exists'] at hp
  obtain ⟨fault, hfault⟩ := hp
  refine ⟨fault, ?_, offends_of_fault? hfault⟩
  rw [encode, encodeFrom_append_cons hfront (by rwa [Nat.zero_add])]

theorem valid_of_encodeFrom {i : Nat} {chunks : List (List Char)}
    (h : encodeFrom count i parts = .ok chunks) : ∀ p ∈ parts, p.Valid count := by
  induction parts generalizing i chunks with
  | nil => exact fun p hp => absurd hp List.not_mem_nil
  | cons p ps ih =>
    rw [encodeFrom] at h
    split at h
    next => cases h
    next hp =>
      cases hps : encodeFrom count (i + 1) ps with
      | error fault =>
        rw [hps] at h
        cases h
      | ok rest => exact List.forall_mem_cons.mpr ⟨fault?_eq_none_iff.mp hp, ih hps⟩

theorem encode_eq_ok_iff :
    encode parts count = .ok codes ↔ (∀ p ∈ parts, p.Valid count) ∧
      codes = String.ofList (List.intercalate [','] (parts.map Part.encode)) := by
  constructor
  · intro h
    have hvalid : ∀ p ∈ parts, p.Valid count := by
      cases hfrom : encodeFrom count 0 parts with
      | error fault =>
        rw [encode, hfrom] at h
        cases h
      | ok chunks => exact valid_of_encodeFrom hfrom
    rw [encode_eq_ok hvalid] at h
    exact ⟨hvalid, (Except.ok.inj h).symm⟩
  · rintro ⟨hvalid, rfl⟩
    exact encode_eq_ok hvalid

theorem decode_of_encode (h : encode parts count = .ok codes) (hshort : ∀ p ∈ parts, p.Readable) :
    decode codes = .ok (parts.map Part.slim) := by
  obtain ⟨hvalid, rfl⟩ := encode_eq_ok_iff.mp h
  exact decode_intercalate fun p hp => (hvalid p hp).legible (hshort p hp)

theorem encode_eq_encode_iff {parts' : List Part} {count' : Option Int} {codes' : String}
    (h : encode parts count = .ok codes) (h' : encode parts' count' = .ok codes')
    (hshort : ∀ p ∈ parts, p.Readable) (hshort' : ∀ p ∈ parts', p.Readable) :
    codes = codes' ↔ parts.map Part.slim = parts'.map Part.slim := by
  constructor
  · rintro rfl
    exact Except.ok.inj ((decode_of_encode h hshort).symm.trans (decode_of_encode h' hshort'))
  · intro hslim
    have hchunks := congrArg (List.map Part.encode) hslim
    rw [List.map_map, List.map_map, show Part.encode ∘ slim = Part.encode from funext encode_slim]
      at hchunks
    rw [(encode_eq_ok_iff.mp h).2, (encode_eq_ok_iff.mp h').2, hchunks]

/-- Parts can be written just if each of them is valid, and else the first one that is not is blamed.
What is written reads back as the same parts, with no index where `-1` was written, provided that
the indices have few enough digits to be read; so parts are written alike just if they agree up to
that, and only the empty list is written as nothing. -/
theorem encode_then_decode (parts : List Part) (count : Option Int) :
    ((∃ codes, encode parts count = .ok codes) ↔ ∀ p ∈ parts, p.Valid count) ∧
    (∀ front p back, parts = front ++ p :: back → (∀ q ∈ front, q.Valid count) → ¬ p.Valid count →
      ∃ fault, encode parts count = .error (.part fault) ∧ p.Offends count front.length fault) ∧
    ∀ codes, encode parts count = .ok codes → (∀ p ∈ parts, p.Readable) →
      decode codes = .ok (parts.map Part.slim) ∧ (codes = "" ↔ parts = []) ∧
      ∀ parts' count' codes', encode parts' count' = .ok codes' → (∀ p ∈ parts', p.Readable) →
        (codes = codes' ↔ parts.map Part.slim = parts'.map Part.slim) := by
  refine ⟨⟨fun ⟨codes, h⟩ => (encode_eq_ok_iff.mp h).1, fun h => ⟨_, encode_eq_ok h⟩⟩, ?_, ?_⟩
  · rintro front p back rfl hfront hp
    exact encode_append_cons hfront hp
  · intro codes h hshort
    have halike := fun {parts' count' codes'} h' hshort' =>
      @encode_eq_encode_iff count parts codes parts' count' codes' h h' hshort hshort'
    refine ⟨decode_of_encode h hshort, ?_, fun parts' count' codes' => halike⟩
    -- the empty list is written as the empty text, whatever the count
    have hempty := @halike [] none "" rfl (fun p hp => absurd hp List.not_mem_nil)
    rwa [List.map_nil, List.map_eq_nil_iff] at hempty

theorem encode_then_decode_three :
    let parts : List Part :=
      [⟨.attribute, some 1, some 7⟩, ⟨.node, some (-1), none⟩, ⟨.nodeAfterDynamic, none, some (-1)⟩]
    let beyond : Part := ⟨.node, some 2, some 0⟩
    (∀ p ∈ parts, p.Readable) ∧ encode parts (some 2) = .ok "0|1|7,1||,2||" ∧
      decode "0|1|7,1||,2||" =
        .ok [⟨.attribute, some 1, some 7⟩, ⟨.node, none, none⟩, ⟨.nodeAfterDynamic, none, none⟩] ∧
      ∃ fault, encode (⟨.attribute, some 1, some 7⟩ :: beyond :: parts) (some 2) = .error (.part fault) ∧
        beyond.Offends (some 2) 1 fault := by
  intro parts beyond
  have hcodes : encode parts (some 2) = .ok "0|1|7,1||,2||" := rfl
  have hseven : (7 : Int) < Decimal.tenPower Decimal.maxIntegerLength :=
    Int.ofNat_lt.mpr (Nat.lt_of_lt_of_le (show 7 < Decimal.tenPower 1 by decide)
      (Decimal.tenPower_le (by decide)))
  have hsmall : ∀ p ∈ parts, (∀ n ∈ p.element, n ≤ 7) ∧ ∀ n ∈ p.index, n ≤ 7 := by decide
  have hreadable : ∀ p ∈ parts, p.Readable := fun p hp =>
    ⟨fun n hn => Int.lt_of_le_of_lt ((hsmall p hp).1 n hn) hseven,
      fun n hn => Int.lt_of_le_of_lt ((hsmall p hp).2 n hn) hseven⟩
  have hvalid : ∀ p ∈ parts, p.Valid (some 2) := (encode_then_decode parts (some 2)).1.mp ⟨_, hcodes⟩
  refine ⟨hreadable, hcodes, ((encode_then_decode parts (some 2)).2.2 _ hcodes hreadable).1, ?_⟩
  refine (encode_then_decode _ (some 2)).2.1 [⟨.attribute, some 1, some 7⟩] beyond parts rfl ?_ ?_
  · exact List.forall_mem_singleton.mpr (hvalid _ List.mem_cons_self)
  · intro hbeyond
    exact absurd (hbeyond.element_lt 2 rfl 2 rfl) (by decide)

end Parts

end SlotMarkup
