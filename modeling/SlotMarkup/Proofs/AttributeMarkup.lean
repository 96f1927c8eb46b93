import Mathlib.Data.List.TakeWhile
import SlotMarkup.Attribute.Name
import SlotMarkup.Proofs.SplitText
import SlotMarkup.Text.Blank

/-! Literal attributes in markup, and how markup is read there: a value ends at the next quote of the kind
that opened it, whatever the value was meant to hold. -/

namespace SlotMarkup

def isNameChar (c : Char) : Bool :=
  !Text.isAsciiBlank c && c != '"' && c != '\'' && c != '=' && c != '/' && c != '>'

def isMarkupName (name : String) : Bool := !name.toList.isEmpty && name.toList.all isNameChar

def readQuoted (quote : Char) (cs : List Char) : Option (List Char × List Char) :=
  match cs.dropWhile (· != quote) with
  | [] => none
  | _ :: rest => some (cs.takeWhile (· != quote), rest)

def readValue : List Char → Option (Option String × List Char)
  | '=' :: quote :: rest =>
    if quote == '"' || quote == '\'' then
      (readQuoted quote rest).map fun (value, rest) => (some (String.ofList value), rest)
    else none
  | rest => some (none, rest)

def readAttribute : List Char → Option ((String × Option String) × List Char)
  | ' ' :: cs =>
    if (cs.takeWhile isNameChar).isEmpty then none
    else (readValue (cs.dropWhile isNameChar)).map fun (value, rest) =>
      ((String.ofList (cs.takeWhile isNameChar), value), rest)
  | _ => none

theorem length_of_readQuoted {quote : Char} {cs value rest : List Char}
    (h : readQuoted quote cs = some (value, rest)) : rest.length < cs.length := by
  have hle : (cs.dropWhile (· != quote)).length ≤ cs.length := List.length_dropWhile_le _ _
  unfold readQuoted at h
  split at h
  next => cases h
  next c tail htail =>
    cases h
    rw [htail, List.length_cons] at hle
    exact hle

theorem length_of_readValue {cs rest : List Char} {value : Option String}
    (h : readValue cs = some (value, rest)) : rest.length ≤ cs.length := by
  unfold readValue at h
  split at h
  next quote tail =>
    split at h
    next =>
      obtain ⟨⟨read, after⟩, hread, hpair⟩ := Option.map_eq_some_iff.mp h
      cases hpair
      have hlt := length_of_readQuoted hread
      simp only [List.length_cons]
      omega
    next => cases h
  next =>
    cases h
    exact Nat.le_refl _

theorem length_of_readAttribute {cs rest : List Char} {a : String × Option String}
    (h : readAttribute cs = some (a, rest)) : rest.length < cs.length := by
  unfold readAttribute at h
  split at h
  next cs =>
    have hle : (cs.dropWhile isNameChar).length ≤ cs.length := List.length_dropWhile_le _ _
    split at h
    next => cases h
    next =>
      obtain ⟨⟨value, after⟩, hread, hpair⟩ := Option.map_eq_some_iff.mp h
      cases hpair
      exact Nat.lt_succ_of_le ((length_of_readValue hread).trans hle)
  next => cases h

def readAttributes (cs : List Char) : Option (List (String × Option String)) :=
  if cs.isEmpty then some []
  else
    match h : readAttribute cs with
    | none => none
    | some (a, rest) =>
      have : rest.length < cs.length := length_of_readAttribute h
      (readAttributes rest).map (a :: ·)
termination_by cs.length

theorem readAttributes_nil : readAttributes [] = some [] := by
  rw [readAttributes]
  rfl

theorem readAttributes_of_read {cs rest : List Char} {a : String × Option String}
    (h : readAttribute cs = some (a, rest)) : readAttributes cs = (readAttributes rest).map (a :: ·) := by
  have hne : cs ≠ [] := by
    rintro rfl
    cases h
  rw [readAttributes, if_neg (by simpa using hne)]
  split
  next hnone => simp [h] at hnone
  next a' rest' hsome =>
    rw [h] at hsome
    cases hsome
    rfl

def quoteFor (value : String) : Char := if value.toList.contains '"' then '\'' else '"'

theorem toList_attributeMarkup (name value : String) :
    (attributeMarkup name (some value)).toList =
      ' ' :: ((markupName name).toList ++ '=' :: quoteFor value :: (value.toList ++ [quoteFor value])) := by
  unfold attributeMarkup quoteFor
  dsimp only
  split <;> simp

/-- A value that does not hold both kinds of quotes. -/
def IsDelimited (value : Option String) : Prop :=
  ∀ v ∈ value, ¬ ('"' ∈ v.toList ∧ '\'' ∈ v.toList)

instance : DecidablePred IsDelimited := fun value =>
  inferInstanceAs (Decidable (∀ v ∈ value, ¬ ('"' ∈ v.toList ∧ '\'' ∈ v.toList)))

theorem isDelimited_some_iff (value : String) : IsDelimited (some value) ↔ quoteFor value ∉ value.toList := by
  unfold IsDelimited quoteFor
  by_cases hdouble : '"' ∈ value.toList
  · simp [hdouble]
  · simp [hdouble]

theorem readQuoted_run {quote : Char} {run : List Char} (h : quote ∉ run) (rest : List Char) :
    readQuoted quote (run ++ quote :: rest) = some (run, rest) := by
  have hrun : ∀ c ∈ run, (c != quote) = true := by
    intro c hc
    simpa using fun heq : c = quote => h (heq ▸ hc)
  have hrest : (quote :: rest).takeWhile (· != quote) = [] := by simp
  rw [readQuoted, Text.takeWhile_run hrun hrest, Text.dropWhile_run hrun hrest]

theorem readQuoted_value (quote : Char) (value rest : List Char) :
    ∃ read tail, readQuoted quote (value ++ quote :: rest) = some (read, tail) ∧
      (read = value ↔ quote ∉ value) ∧ (quote ∉ value → tail = rest) := by
  by_cases hmem : quote ∈ value
  · obtain ⟨before, after, rfl, hbefore⟩ := List.eq_append_cons_of_mem hmem
    refine ⟨before, after ++ quote :: rest, ?_, by simp, fun hnot => absurd hmem hnot⟩
    rw [List.append_assoc]
    exact readQuoted_run hbefore _
  · exact ⟨value, rest, readQuoted_run hmem rest, by simp [hmem], fun _ => rfl⟩

theorem readAttribute_name {name rest : List Char} (hne : name ≠ []) (hname : ∀ c ∈ name, isNameChar c = true)
    (hrest : rest.takeWhile isNameChar = []) :
    readAttribute (' ' :: (name ++ rest)) =
      (readValue rest).map fun (value, rest) => ((String.ofList name, value), rest) := by
  rw [readAttribute, Text.takeWhile_run hname hrest, Text.dropWhile_run hname hrest,
    if_neg (by simpa using hne)]

theorem readAttribute_markup {name : String} (hname : isMarkupName (markupName name) = true)
    (value : Option String) {rest : List Char} (hrest : Text.Resumes ' ' rest) :
    ∃ read tail, readAttribute ((attributeMarkup name value).toList ++ rest) =
        some ((markupName name, read), tail) ∧
      (read = value ↔ IsDelimited value) ∧ (IsDelimited value → tail = rest) := by
  have hchars : (markupName name).toList ≠ [] ∧ ∀ c ∈ (markupName name).toList, isNameChar c = true := by
    simpa [isMarkupName] using hname
  cases value with
  | none =>
    have hmarkup : (attributeMarkup name none).toList ++ rest = ' ' :: ((markupName name).toList ++ rest) := by
      simp [attributeMarkup]
    refine ⟨none, rest, ?_, by simp [IsDelimited], fun _ => rfl⟩
    rw [hmarkup, readAttribute_name hchars.1 hchars.2 (hrest.takeWhile_eq_nil rfl), String.ofList_toList]
    rcases hrest with rfl | ⟨tail, rfl⟩ <;> rfl
  | some v =>
    obtain ⟨read, tail, hread, hvalue, htail⟩ := readQuoted_value (quoteFor v) v.toList rest
    have hquote : (quoteFor v == '"' || quoteFor v == '\'') = true := by
      unfold quoteFor
      split <;> rfl
    have hmarkup : (attributeMarkup name (some v)).toList ++ rest =
        ' ' :: ((markupName name).toList ++ '=' :: quoteFor v :: (v.toList ++ quoteFor v :: rest)) := by
      simp [toList_attributeMarkup]
    rw [isDelimited_some_iff]
    refine ⟨some (String.ofList read), tail, ?_, ?_, htail⟩
    · rw [hmarkup, readAttribute_name hchars.1 hchars.2 rfl, readValue, if_pos hquote, hread,
        String.ofList_toList]
      rfl
    · rw [Option.some.injEq, ← String.toList_inj, String.toList_ofList, hvalue]

def attributesMarkup (attributes : List (String × Option String)) : List Char :=
  attributes.flatMap fun a => (attributeMarkup a.1 a.2).toList

theorem attributesMarkup_cons (a : String × Option String) (as : List (String × Option String)) :
    attributesMarkup (a :: as) = (attributeMarkup a.1 a.2).toList ++ attributesMarkup as := by
  simp [attributesMarkup]

theorem resumes_attributesMarkup (attributes : List (String × Option String)) :
    Text.Resumes ' ' (attributesMarkup attributes) := by
  cases attributes with
  | nil => exact .inl rfl
  | cons a as =>
    obtain ⟨cs, hspace⟩ : ∃ cs, (attributeMarkup a.1 a.2).toList = ' ' :: cs := by
      cases a.2 with
      | none => exact ⟨(markupName a.1).toList, by simp [attributeMarkup]⟩
      | some v => exact ⟨_, toList_attributeMarkup a.1 v⟩
    exact .inr ⟨cs ++ attributesMarkup as, by rw [attributesMarkup_cons, hspace, List.cons_append]⟩

/-- Literal attributes are read back from their markup, names as markup has them and values as they are,
just if no value holds both kinds of quotes. -/
theorem readAttributes_markup_iff (attributes : List (String × Option String))
    (hnames : ∀ a ∈ attributes, isMarkupName (markupName a.1) = true) :
    readAttributes (attributesMarkup attributes) = some (attributes.map fun a => (markupName a.1, a.2)) ↔
      ∀ a ∈ attributes, IsDelimited a.2 := by
  induction attributes with
  | nil => simp [attributesMarkup, readAttributes_nil]
  | cons a as ih =>
    obtain ⟨hname, hnames⟩ := List.forall_mem_cons.mp hnames
    obtain ⟨read, tail, hread, hvalue, htail⟩ :=
      readAttribute_markup hname a.2 (resumes_attributesMarkup as)
    rw [attributesMarkup_cons, readAttributes_of_read hread, List.forall_mem_cons, List.map_cons, ← ih hnames]
    constructor
    · intro h
      obtain ⟨more, hmore, hcons⟩ := Option.map_eq_some_iff.mp h
      obtain ⟨hhead, rfl⟩ := List.cons.inj hcons
      have hdelimited := hvalue.mp (Prod.mk.inj hhead).2
      exact ⟨hdelimited, htail hdelimited ▸ hmore⟩
    · rintro ⟨hdelimited, hmore⟩
      rw [htail hdelimited, hmore, hvalue.mpr hdelimited]
      rfl

theorem readAttributes_markup_four :
    readAttributes " class=\"a b\" title='x \"y\"' hidden alt=\"\"".toList =
      some [("class", some "a b"), ("title", some "x \"y\""), ("hidden", none), ("alt", some "")] :=
  (readAttributes_markup_iff
    [("className", some "a b"), ("title", some "x \"y\""), ("hidden", none), ("alt", some "")]
    (by decide)).mpr (by decide)

theorem both_quotes_are_not_read_back :
    readAttributes (attributesMarkup [("title", some "\"'")]) ≠ some [("title", some "\"'")] := by
  have hread : readAttribute (attributesMarkup [("title", some "\"'")]) =
      some (("title", some "\""), ['\'']) := by decide
  rw [readAttributes_of_read hread, readAttributes]
  decide

end SlotMarkup
