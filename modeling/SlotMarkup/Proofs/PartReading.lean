import SlotMarkup.Command.Run
import SlotMarkup.Proofs.PartCodec

/-! Reading part descriptors: which texts stand for parts, and how the others are refused. An index of
digits that make no number is not refused as a part; the reading of the number fails instead. -/

namespace SlotMarkup.Parts

open SlotMarkup.Decimal (IsNumeral numeralValue)
open SlotMarkup.Text (isDigit isDigit_of_isDecimal)

def indexOf (cs : List Char) : Option Int := if cs.isEmpty then none else some (numeralValue cs : Int)

/-- A field that passes for an index, since it holds digits only, and is none. -/
def Deceptive (cs : List Char) : Prop := (∀ c ∈ cs, isDigit c = true) ∧ ¬ IsNumeral cs

inductive Spells (chunk : List Char) : Part → Prop
  | fields {code element index : List Char} {kind : PartKind}
      (split : List.splitOn '|' chunk = [code, element, index]) (known : decodeKind? code = some kind)
      (helement : IsNumeral element) (hindex : IsNumeral index) :
      Spells chunk ⟨kind, indexOf element, indexOf index⟩

/-- A text between commas that has a known code, and after it a deceptive field that no other fault
precedes. -/
inductive Trips (chunk : List Char) : Prop
  | element {code element index : List Char} {kind : PartKind}
      (split : List.splitOn '|' chunk = [code, element, index]) (known : decodeKind? code = some kind)
      (deceptive : Deceptive element)
  | index {code element index : List Char} {kind : PartKind}
      (split : List.splitOn '|' chunk = [code, element, index]) (known : decodeKind? code = some kind)
      (helement : IsNumeral element) (deceptive : Deceptive index)

/-- Of the texts between the commas, the first that is no part holds a deceptive field. -/
def TripsFirst (codes : String) : Prop :=
  ∃ front chunk back, List.splitOn ',' codes.toList = front ++ chunk :: back ∧
    (∀ c ∈ front, ∃ p, Spells c p) ∧ Trips chunk

variable {codes : String} {cs chunk : List Char} {chunks : List (List Char)} {parts : List Part}
  {p : Part}

theorem decodeIndex_of_isNumeral (h : IsNumeral cs) : decodeIndex codes cs = .ok (indexOf cs) := by
  cases cs with
  | nil => rfl
  | cons c cs =>
    have hdigits : (c :: cs).all isDigit = true :=
      List.all_eq_true.mpr fun d hd => isDigit_of_isDecimal (h.decimal d hd)
    rw [decodeIndex, hdigits, Decimal.readInteger_of_isNumeral h (List.cons_ne_nil c cs)]
    rfl

theorem decodeIndex_of_deceptive (codes : String) (h : Deceptive cs) :
    ∃ fault, decodeIndex codes cs = .error (.value fault) := by
  obtain ⟨hdigits, hnone⟩ := h
  have hne : cs ≠ [] := by
    rintro rfl
    exact hnone Decimal.isNumeral_nil
  obtain ⟨fault, hfault⟩ := Decimal.readMagnitude_of_not_isNumeral hdigits hnone
  rw [decodeIndex, List.all_eq_true.mpr hdigits, Decimal.readInteger_of_isDigit hdigits, hfault,
    if_neg (by simpa using hne)]
  cases fault with
  | invalid => exact ⟨_, rfl⟩
  | tooLong digits => exact ⟨_, rfl⟩

theorem decodeIndex_cases (codes : String) (cs : List Char) :
    IsNumeral cs ∨ Deceptive cs ∨
      decodeIndex codes cs = .error (.part (.index (String.ofList cs) codes)) := by
  by_cases hnumeral : IsNumeral cs
  · exact .inl hnumeral
  · by_cases hdigits : ∀ c ∈ cs, isDigit c = true
    · exact .inr (.inl ⟨hdigits, hnumeral⟩)
    · have hall : cs.all isDigit = false := by simpa using hdigits
      have hempty : cs.isEmpty = false := by
        cases cs with
        | nil => exact absurd (fun c hc => absurd hc List.not_mem_nil) hdigits
        | cons c cs => rfl
      exact .inr (.inr (by rw [decodeIndex, hall, hempty]; rfl))

theorem decodePart_of_spells (h : Spells chunk p) : decodePart codes chunk = .ok p := by
  cases h with
  | fields split known helement hindex =>
    rw [decodePart, split]
    simp only [known, decodeIndex_of_isNumeral helement, decodeIndex_of_isNumeral hindex]
    rfl

theorem decodePart_of_trips (codes : String) (h : Trips chunk) :
    ∃ fault, decodePart codes chunk = .error (.value fault) := by
  cases h with
  | element split known deceptive =>
    obtain ⟨fault, hfault⟩ := decodeIndex_of_deceptive codes deceptive
    rw [decodePart, split]
    simp only [known, hfault]
    exact ⟨fault, rfl⟩
  | index split known helement deceptive =>
    obtain ⟨fault, hfault⟩ := decodeIndex_of_deceptive codes deceptive
    rw [decodePart, split]
    simp only [known, decodeIndex_of_isNumeral helement, hfault]
    exact ⟨fault, rfl⟩

theorem decodePart_cases (codes : String) (chunk : List Char) :
    (∃ p, Spells chunk p) ∨ Trips chunk ∨
      ∃ fault, decodePart codes chunk = .error (.part fault) := by
  rw [decodePart]
  split
  next code element index split =>
    split
    next => exact .inr (.inr ⟨_, rfl⟩)
    next kind known =>
      rcases decodeIndex_cases codes element with helement | deceptive | hrefused
      · rcases decodeIndex_cases codes index with hindex | deceptive | hrefused
        · exact .inl ⟨_, .fields split known helement hindex⟩
        · exact .inr (.inl (.index split known helement deceptive))
        · rw [decodeIndex_of_isNumeral helement, hrefused]
          exact .inr (.inr ⟨_, rfl⟩)
      · exact .inr (.inl (.element split known deceptive))
      · rw [hrefused]
        exact .inr (.inr ⟨_, rfl⟩)
  next => exact .inr (.inr ⟨_, rfl⟩)

theorem spells_of_decodePart (h : decodePart codes chunk = .ok p) : Spells chunk p := by
  rcases decodePart_cases codes chunk with ⟨q, hq⟩ | htrips | ⟨fault, hfault⟩
  · rw [decodePart_of_spells hq] at h
    cases h
    exact hq
  · obtain ⟨fault, hfault⟩ := decodePart_of_trips codes htrips
    cases h.symm.trans hfault
  · cases h.symm.trans hfault

theorem decodeChunks_cons_ok (h : Spells chunk p) (chunks : List (List Char)) :
    decodeChunks codes (chunk :: chunks) = (decodeChunks codes chunks).map (p :: ·) := by
  rw [decodeChunks, decodePart_of_spells h]
  cases decodeChunks codes chunks <;> rfl

theorem decodeChunks_cons_error {e : Error} (h : decodePart codes chunk = .error e)
    (chunks : List (List Char)) : decodeChunks codes (chunk :: chunks) = .error e := by
  rw [decodeChunks, h]
  rfl

theorem decodeChunks_eq_ok (h : decodeChunks codes chunks = .ok parts) :
    List.Forall₂ Spells chunks parts := by
  induction chunks generalizing parts with
  | nil =>
    cases h
    exact .nil
  | cons chunk chunks ih =>
    cases hpart : decodePart codes chunk with
    | error e =>
      rw [decodeChunks_cons_error hpart] at h
      cases h
    | ok p =>
      have hspells := spells_of_decodePart hpart
      rw [decodeChunks_cons_ok hspells] at h
      cases hrest : decodeChunks codes chunks with
      | error e =>
        rw [hrest] at h
        cases h
      | ok rest =>
        rw [hrest] at h
        cases h
        exact .cons hspells (ih hrest)

theorem decodeChunks_append_error {front : List (List Char)} {e : Error}
    (hfront : ∀ c ∈ front, ∃ p, Spells c p) (he : decodePart codes chunk = .error e)
    (back : List (List Char)) : decodeChunks codes (front ++ chunk :: back) = .error e := by
  induction front with
  | nil => exact decodeChunks_cons_error he back
  | cons c front ih =>
    rw [List.forall_mem_cons] at hfront
    obtain ⟨⟨p, hp⟩, hfront⟩ := hfront
    rw [List.cons_append, decodeChunks_cons_ok hp, ih hfront]
    rfl

theorem decodeChunks_cases (codes : String) (chunks : List (List Char)) :
    (∃ parts, decodeChunks codes chunks = .ok parts) ∨
    (∃ fault, decodeChunks codes chunks = .error (.part fault)) ∨
      ∃ front chunk back, chunks = front ++ chunk :: back ∧
        (∀ c ∈ front, ∃ p, Spells c p) ∧ Trips chunk := by
  -- The first chunk that is not read decides, whatever stands behind it.
  induction chunks with
  | nil => exact .inl ⟨[], rfl⟩
  | cons chunk chunks ih =>
    rcases decodePart_cases codes chunk with ⟨p, hp⟩ | htrips | ⟨fault, hfault⟩
    · rw [decodeChunks_cons_ok hp]
      rcases ih with ⟨parts, hparts⟩ | ⟨fault, hfault⟩ | ⟨front, c, back, rfl, hfront, hc⟩
      · exact .inl ⟨p :: parts, by rw [hparts]; rfl⟩
      · exact .inr (.inl ⟨fault, by rw [hfault]; rfl⟩)
      · exact .inr (.inr ⟨chunk :: front, c, back, rfl, List.forall_mem_cons.mpr ⟨⟨p, hp⟩, hfront⟩, hc⟩)
    · exact .inr (.inr ⟨[], chunk, chunks, rfl, fun c hc => absurd hc List.not_mem_nil, htrips⟩)
    · exact .inr (.inl ⟨fault, decodeChunks_cons_error hfault chunks⟩)

theorem not_tripsFirst_empty : ¬ TripsFirst "" := by
  rintro ⟨front, chunk, back, hsplit, -, htrips⟩
  have hchunk : chunk = [] := by
    have hmem : chunk ∈ List.splitOn ',' "".toList := hsplit ▸ List.mem_append_right _ List.mem_cons_self
    simpa [List.splitOn_nil] using hmem
  subst hchunk
  cases htrips with
  | element split => cases split
  | index split => cases split

theorem decode_cases (codes : String) :
    (∃ parts, decode codes = .ok parts) ∨ (∃ fault, decode codes = .error (.part fault)) ∨
      TripsFirst codes := by
  rw [decode]
  split
  · exact .inl ⟨[], rfl⟩
  · exact decodeChunks_cases codes _

theorem decode_eq_ok (h : decode codes = .ok parts) :
    codes = "" ∧ parts = [] ∨ codes ≠ "" ∧ List.Forall₂ Spells (List.splitOn ',' codes.toList) parts := by
  rw [decode] at h
  split at h
  next hempty =>
    cases h
    exact .inl ⟨String.isEmpty_iff.mp hempty, rfl⟩
  next hempty => exact .inr ⟨fun hnil => hempty (String.isEmpty_iff.mpr hnil), decodeChunks_eq_ok h⟩

theorem decode_of_tripsFirst (h : TripsFirst codes) :
    ∃ fault, decode codes = .error (.value fault) := by
  have hne : codes.isEmpty = false := by
    rw [String.isEmpty_eq_false_iff]
    rintro rfl
    exact not_tripsFirst_empty h
  obtain ⟨front, chunk, back, hsplit, hfront, htrips⟩ := h
  obtain ⟨fault, hfault⟩ := decodePart_of_trips codes htrips
  refine ⟨fault, ?_⟩
  rw [decode, hne, hsplit]
  exact decodeChunks_append_error hfront hfault back

theorem tripsFirst_of_decode {fault : ValueFault} (h : decode codes = .error (.value fault)) :
    TripsFirst codes := by
  rcases decode_cases codes with ⟨parts, hparts⟩ | ⟨fault', hfault⟩ | htrips
  · cases h.symm.trans hparts
  · cases h.symm.trans hfault
  · exact htrips

end SlotMarkup.Parts

namespace SlotMarkup.Command

theorem switch_none {arg : String} (hstart : arg.startsWith "-" = true) (hne : arg ≠ "-")
    (args : List String) : switch [] arg args = none := by
  obtain ⟨rest, hrest⟩ := String.startsWith_string_iff.mp hstart
  have hchars : arg.toList = '-' :: rest := hrest.symm
  cases rest with
  | nil => exact absurd (String.toList_inj.mp hchars) hne
  | cons c cs =>
    simp only [switch, List.find?_nil, hchars]
    split
    · rfl
    next h =>
      cases h
      rfl
    next h => cases h

theorem partsRequest_eq (codes : String) :
    partsRequest [codes] = if codes.startsWith "-" && codes != "-" then none else some (.parts codes) := by
  by_cases hdashes : codes = "--"
  · subst hdashes
    simp [partsRequest, read, readFrom]
  · have hdashes' : (codes == "--") = false := beq_eq_false_iff_ne.mpr hdashes
    cases hswitch : codes.startsWith "-" && codes != "-" with
    | false => simp [partsRequest, read, readFrom, hdashes', hswitch]
    | true =>
      obtain ⟨hstart, hne⟩ := Bool.and_eq_true_iff.mp hswitch
      have hnone := switch_none hstart (bne_iff_ne.mp hne) []
      simp [partsRequest, read, readFrom, hdashes', hswitch, hnone]

theorem generalRequest_parts (args : List String) :
    generalRequest ("parts" :: args) = some (none, "parts" :: args) := by
  simp [generalRequest, read, readFrom, Given.last?]

theorem run_parts (m : Machine) (d : Directory) (codes : String) :
    run m d ["parts", codes] =
      if codes.startsWith "-" && codes != "-" then .usage else runParts codes := by
  have hrequest : Request.ofArguments? ["parts", codes] = partsRequest [codes] := by
    simp [Request.ofArguments?, generalRequest_parts]
  rw [run, hrequest, partsRequest_eq]
  cases codes.startsWith "-" && codes != "-" <;> rfl

end SlotMarkup.Command

namespace SlotMarkup.Parts

open SlotMarkup.Command (runParts partTable)

variable {codes : String}

theorem runParts_of_ok {parts : List Part} (h : decode codes = .ok parts) :
    runParts codes = .done (partTable parts) none := by
  rw [runParts, h]

theorem runParts_of_part {fault : PartFault} (h : decode codes = .error (.part fault)) :
    runParts codes = .refused fault.message := by
  rw [runParts, h]
  rfl

theorem runParts_of_value {fault : ValueFault} (h : decode codes = .error (.value fault)) :
    runParts codes = .failed (.value fault) := by
  rw [runParts, h]
  rfl

/-- Every text is read as parts or refused as none, and the command shows the parts or reports the
refusal, unless the first text between commas that is no part holds a deceptive field. Just then the
reading of a number fails, and so does the command. -/
theorem decode_reported_iff (m : Command.Machine) (d : Command.Directory) (codes : String) :
    (((∃ parts, decode codes = .ok parts ∧ runParts codes = .done (partTable parts) none) ∨
      ∃ fault, decode codes = .error (.part fault) ∧ runParts codes = .refused fault.message) ↔
        ¬ TripsFirst codes) ∧
    ((∃ fault, decode codes = .error (.value fault) ∧ runParts codes = .failed (.value fault)) ↔
      TripsFirst codes) ∧
    Command.run m d ["parts", codes] =
      if codes.startsWith "-" && codes != "-" then .usage else runParts codes := by
  refine ⟨⟨?_, ?_⟩, ⟨?_, ?_⟩, Command.run_parts m d codes⟩
  · intro hreported htrips
    obtain ⟨fault, hfault⟩ := decode_of_tripsFirst htrips
    rcases hreported with ⟨parts, hparts, -⟩ | ⟨fault', hfault', -⟩
    · cases hfault.symm.trans hparts
    · cases hfault.symm.trans hfault'
  · intro hsound
    rcases decode_cases codes with ⟨parts, hparts⟩ | ⟨fault, hfault⟩ | htrips
    · exact .inl ⟨parts, hparts, runParts_of_ok hparts⟩
    · exact .inr ⟨fault, hfault, runParts_of_part hfault⟩
    · exact absurd htrips hsound
  · rintro ⟨fault, hfault, -⟩
    exact tripsFirst_of_decode hfault
  · intro htrips
    obtain ⟨fault, hfault⟩ := decode_of_tripsFirst htrips
    exact ⟨fault, hfault, runParts_of_value hfault⟩

/-- A superscript two is a digit, and no number is read from it. -/
theorem superscript_is_no_part_error :
    decode "1|²|" = .error (.value (.numeral "²")) ∧
      runParts "1|²|" = .failed (.value (.numeral "²")) ∧
      ¬ ((∃ parts, decode "1|²|" = .ok parts) ∨ ∃ fault, decode "1|²|" = .error (.part fault)) := by
  have hvalue : decode "1|²|" = .error (.value (.numeral "²")) := rfl
  refine ⟨hvalue, runParts_of_value hvalue, ?_⟩
  rw [hvalue]
  rintro (⟨parts, hparts⟩ | ⟨fault, hfault⟩)
  · cases hparts
  · cases hfault

end SlotMarkup.Parts
