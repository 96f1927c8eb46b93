import Mathlib.Data.List.Basic
import Mathlib.Data.List.Induction
import Mathlib.Data.List.TakeWhile
import SlotMarkup.Decimal.Integer

/-! Whole numbers in digits alone. Digits of any script are read if each has a decimal value and they
are not too many; one way to write a number is without a zero in front, in the digits of ASCII. -/

namespace SlotMarkup.Text

def isDecimal (c : Char) : Bool := (decimalValue? c).isSome

theorem decimalValue?_of_isDigit {c : Char} (h : c.isDigit = true) :
    decimalValue? c = some (c.toNat - 48) := by
  rw [decimalValue?, if_pos h]

theorem isDecimal_of_isDigit {c : Char} (h : c.isDigit = true) : isDecimal c = true := by
  rw [isDecimal, decimalValue?_of_isDigit h]
  rfl

theorem isDigit_of_isDecimal {c : Char} (h : isDecimal c = true) : isDigit c = true := by
  rw [isDigit, Bool.or_eq_true]
  exact .inl h

theorem isDigit_of_isDigit {c : Char} (h : c.isDigit = true) : isDigit c = true :=
  isDigit_of_isDecimal (isDecimal_of_isDigit h)

theorem toNat_of_isDigit {c : Char} (h : c.isDigit = true) : 48 ≤ c.toNat ∧ c.toNat ≤ 57 := by
  simpa [Char.isDigit, UInt32.le_iff_toNat_le] using h

theorem decimalValue?_lt {c : Char} {d : Nat} (h : decimalValue? c = some d) : d < 10 := by
  rw [decimalValue?] at h
  split at h
  next hc =>
    have hhigh := (toNat_of_isDigit hc).2
    cases h
    omega
  next =>
    obtain ⟨z, hz, rfl⟩ := Option.map_eq_some_iff.mp h
    have hrange := List.find?_some hz
    simp only [Bool.and_eq_true, decide_eq_true_eq] at hrange
    omega

end SlotMarkup.Text

namespace SlotMarkup.Decimal

open SlotMarkup.Text

def numeralValue (cs : List Char) : Nat := digitsNumber (cs.filterMap decimalValue?)

structure IsNumeral (cs : List Char) : Prop where
  decimal : ∀ c ∈ cs, isDecimal c = true
  length_le : cs.length ≤ maxIntegerLength

theorem isNumeral_nil : IsNumeral [] := ⟨fun _ hc => absurd hc List.not_mem_nil, Nat.zero_le _⟩

def tenPower (k : Nat) : Nat := Nat.pow 10 k

theorem length_toDigits_le {n k : Nat} (hk : 0 < k) (h : n < tenPower k) :
    (Nat.toDigits 10 n).length ≤ k := (Nat.length_toDigits_le_iff (by decide) hk).mpr h

theorem tenPower_le {j k : Nat} (h : j ≤ k) : tenPower j ≤ tenPower k :=
  Nat.pow_le_pow_right (by decide) h

theorem tenPower_succ (k : Nat) : tenPower (k + 1) = tenPower k * 10 := rfl

section Value

variable {cs : List Char}

theorem digitsNumber_concat (ds : List Nat) (d : Nat) :
    digitsNumber (ds ++ [d]) = 10 * digitsNumber ds + d := by
  rw [digitsNumber, List.foldl_append]
  rfl

theorem digitsNumber_lt {ds : List Nat} (h : ∀ d ∈ ds, d < 10) : digitsNumber ds < tenPower ds.length := by
  induction ds using List.reverseRecOn with
  | nil => decide
  | append_singleton ds d ih =>
    rw [List.forall_mem_append, List.forall_mem_singleton] at h
    have hds := ih h.1
    rw [digitsNumber_concat, List.length_append, List.length_singleton, tenPower_succ]
    omega

theorem numeralValue_lt (cs : List Char) : numeralValue cs < tenPower cs.length := by
  have hdigits : ∀ d ∈ cs.filterMap decimalValue?, d < 10 := by
    intro d hd
    obtain ⟨c, -, hc⟩ := List.mem_filterMap.mp hd
    exact decimalValue?_lt hc
  exact Nat.lt_of_lt_of_le (digitsNumber_lt hdigits) (tenPower_le (List.length_filterMap_le _ _))

theorem numeralValue_ascii (h : ∀ c ∈ cs, c.isDigit = true) :
    numeralValue cs = Nat.ofDigitChars 10 cs 0 := by
  have hvalues : cs.filterMap decimalValue? = cs.map (·.toNat - 48) := by
    induction cs with
    | nil => rfl
    | cons c cs ih =>
      rw [List.forall_mem_cons] at h
      rw [List.filterMap_cons, decimalValue?_of_isDigit h.1, ih h.2, List.map_cons]
  rw [numeralValue, hvalues, digitsNumber, List.foldl_map, Nat.ofDigitChars_eq_foldl]
  rfl

theorem isDigit_toDigits (n : Nat) : ∀ c ∈ Nat.toDigits 10 n, c.isDigit = true :=
  fun _ hc => Nat.isDigit_of_mem_toDigits (by decide) (by decide) hc

theorem numeralValue_toDigits (n : Nat) : numeralValue (Nat.toDigits 10 n) = n := by
  rw [numeralValue_ascii (isDigit_toDigits n), Nat.ofDigitChars_ten_toDigits]

theorem isNumeral_toDigits {n : Nat} (h : n < tenPower maxIntegerLength) :
    IsNumeral (Nat.toDigits 10 n) :=
  ⟨fun c hc => isDecimal_of_isDigit (isDigit_toDigits n c hc), length_toDigits_le (by decide) h⟩

theorem numeralValue_concat {c : Char} (hc : c.isDigit = true) :
    numeralValue (cs ++ [c]) = 10 * numeralValue cs + (c.toNat - 48) := by
  rw [numeralValue, List.filterMap_append, List.filterMap_cons, decimalValue?_of_isDigit hc]
  exact digitsNumber_concat _ _

structure IsPlain (cs : List Char) : Prop where
  ne_nil : cs ≠ []
  ascii : ∀ c ∈ cs, c.isDigit = true
  no_zero : cs.head? = some '0' → cs = ['0']

theorem toDigits_of_isDigit {c : Char} (h : c.isDigit = true) : Nat.toDigits 10 (c.toNat - 48) = [c] := by
  obtain ⟨hlow, hhigh⟩ := toNat_of_isDigit h
  have hdigit : c.toNat - 48 < 10 := by omega
  have hchar : (c.toNat - 48).digitChar = c := by
    apply Char.toNat_inj.mp
    rw [Nat.toNat_digitChar_of_lt_ten hdigit]
    omega
  rw [Nat.toDigits_of_lt_base hdigit, hchar]

theorem toDigits_numeralValue (h : IsPlain cs) : Nat.toDigits 10 (numeralValue cs) = cs := by
  induction cs using List.reverseRecOn with
  | nil => exact absurd rfl h.ne_nil
  | append_singleton cs c ih =>
    obtain ⟨hcs, hc⟩ := List.forall_mem_append.mp h.ascii
    have hc := List.forall_mem_singleton.mp hc
    rw [numeralValue_concat hc]
    by_cases hnil : cs = []
    · have hnone : numeralValue [] = 0 := by decide
      rw [hnil, hnone, Nat.mul_zero, Nat.zero_add, toDigits_of_isDigit hc, List.nil_append]
    · have hhead : cs.head? ≠ some '0' := by
        intro hzero
        have hone := h.no_zero (by rw [List.head?_append, hzero, Option.some_or])
        have hlength := congrArg List.length hone
        simp [hnil] at hlength
      have hdigits := ih ⟨hnil, hcs, fun hzero => absurd hzero hhead⟩
      have hpos : 0 < numeralValue cs := by
        refine Nat.pos_of_ne_zero fun hzero => hhead ?_
        rw [← hdigits, hzero]
        rfl
      have hlt := (toNat_of_isDigit hc).2
      rw [← Nat.toDigits_append_toDigits (by decide) hpos (by omega), hdigits, toDigits_of_isDigit hc]

theorem isPlain_toDigits (n : Nat) : IsPlain (Nat.toDigits 10 n) := by
  refine ⟨Nat.toDigits_ne_nil, isDigit_toDigits n, ?_⟩
  induction n using Nat.strongRecOn with
  | ind n ih =>
    intro hzero
    by_cases hn : n < 10
    · rw [Nat.toDigits_of_lt_base hn] at hzero ⊢
      exact congrArg ([·]) (Option.some.inj hzero)
    · -- a first digit zero would be that of a smaller number, which is not zero
      have hsplit : Nat.toDigits 10 n = Nat.toDigits 10 (n / 10) ++ Nat.toDigits 10 (n % 10) := by
        rw [Nat.toDigits_append_toDigits (by decide) (by omega) (Nat.mod_lt _ (by decide)),
          Nat.div_add_mod]
      rw [hsplit, List.head?_append_of_ne_nil _ Nat.toDigits_ne_nil] at hzero
      have hvalue := numeralValue_toDigits (n / 10)
      rw [ih (n / 10) (by omega) hzero] at hvalue
      have hnone : numeralValue ['0'] = 0 := by decide
      omega

end Value

section Reading

variable {cs : List Char}

def marginCodes : List Nat := [
  9, 10, 11, 12, 13, 32, 0x85, 0xA0, 0x1680, 0x2000, 0x2001, 0x2002, 0x2003, 0x2004, 0x2005, 0x2006,
  0x2007, 0x2008, 0x2009, 0x200A, 0x2028, 0x2029, 0x202F, 0x205F, 0x3000]

theorem mem_marginCodes {c : Char} (h : isMargin c = true) : c.toNat ∈ marginCodes := by
  by_cases hspace : c = ' '
  · rw [hspace]
    decide
  · simp only [isMargin, isAsciiBlank, isWideBlank, Bool.or_eq_true, Bool.and_eq_true, beq_iff_eq,
      decide_eq_true_eq, hspace, false_or] at h
    simp only [marginCodes, List.mem_cons, List.not_mem_nil, or_false]
    omega

theorem isMargin_of_isDigit {c : Char} (h : Text.isDigit c = true) : isMargin c = false := by
  have hcodes : (marginCodes.all fun n => !Text.isDigit (Char.ofNat n)) = true := by decide
  cases hmargin : isMargin c with
  | false => rfl
  | true =>
    have hcode := List.all_eq_true.mp hcodes _ (mem_marginCodes hmargin)
    rw [Char.ofNat_toNat, h] at hcode
    cases hcode

theorem digitRun_of_isDigit {joined : Bool} (h : ∀ c ∈ cs, Text.isDigit c = true) :
    digitRun joined cs =
      some ((cs.takeWhile isDecimal).filterMap decimalValue?, cs.dropWhile isDecimal) := by
  induction cs generalizing joined with
  | nil => rfl
  | cons c cs ih =>
    rw [List.forall_mem_cons] at h
    rw [digitRun]
    cases hc : decimalValue? c with
    | some d =>
      have hdecimal : isDecimal c = true := by rw [isDecimal, hc]; rfl
      simp only [ih h.2, Option.map_some, List.takeWhile_cons_of_pos hdecimal,
        List.dropWhile_cons_of_pos hdecimal, List.filterMap_cons, hc]
    | none =>
      have hdecimal : ¬ isDecimal c = true := by rw [isDecimal, hc]; exact Bool.false_ne_true
      have hunderscore : (c == '_') = false := by
        refine beq_eq_false_iff_ne.mpr ?_
        rintro rfl
        exact absurd h.1 (by decide)
      simp only [hunderscore, Bool.false_and, Bool.false_eq_true, if_false,
        List.takeWhile_cons_of_neg hdecimal, List.dropWhile_cons_of_neg hdecimal, List.filterMap_nil]

theorem length_filterMap_decimal (h : ∀ c ∈ cs, isDecimal c = true) :
    (cs.filterMap decimalValue?).length = cs.length := by
  induction cs with
  | nil => rfl
  | cons c cs ih =>
    rw [List.forall_mem_cons] at h
    obtain ⟨d, hd⟩ := Option.isSome_iff_exists.mp h.1
    rw [List.filterMap_cons, hd, List.length_cons, ih h.2, List.length_cons]

theorem readMagnitude_of_isNumeral (h : IsNumeral cs) (hne : cs ≠ []) :
    readMagnitude cs = .ok (numeralValue cs) := by
  have htake : cs.takeWhile isDecimal = cs := List.takeWhile_eq_self_iff.mpr h.decimal
  have hdrop : cs.dropWhile isDecimal = [] := List.dropWhile_eq_nil_iff.mpr h.decimal
  have hlength := length_filterMap_decimal h.decimal
  have hempty : (cs.filterMap decimalValue?).isEmpty = false := by
    rw [List.isEmpty_eq_false_iff, ← List.length_pos_iff, hlength]
    exact List.length_pos_iff.mpr hne
  rw [readMagnitude, digitRun_of_isDigit fun c hc => isDigit_of_isDecimal (h.decimal c hc), htake, hdrop]
  simp only [hlength, Nat.not_lt.mpr h.length_le, if_false, hempty, List.all_nil, Bool.not_true,
    Bool.or_false, Bool.false_eq_true]
  rfl

theorem readMagnitude_of_not_isNumeral (hdigits : ∀ c ∈ cs, Text.isDigit c = true)
    (h : ¬ IsNumeral cs) : ∃ fault, readMagnitude cs = .error fault := by
  rw [readMagnitude, digitRun_of_isDigit hdigits]
  cases hrest : cs.dropWhile isDecimal with
  | nil =>
    have hdecimal := List.dropWhile_eq_nil_iff.mp hrest
    have hlong : maxIntegerLength < cs.length :=
      Nat.lt_of_not_le fun hlength => h ⟨hdecimal, hlength⟩
    have htake : cs.takeWhile isDecimal = cs := List.takeWhile_eq_self_iff.mpr hdecimal
    rw [htake]
    simp only [length_filterMap_decimal hdecimal, hlong, if_true]
    exact ⟨_, rfl⟩
  | cons c rest =>
    -- the first digit without a value is no blank
    have hc : c ∈ cs := (List.dropWhile_sublist _).subset (hrest ▸ List.mem_cons_self)
    have hall : (c :: rest).all isMargin = false := by
      rw [List.all_cons, isMargin_of_isDigit (hdigits c hc), Bool.false_and]
    simp only [hall, Bool.not_false, Bool.or_true, if_true]
    split
    · exact ⟨_, rfl⟩
    · exact ⟨_, rfl⟩

theorem readInteger_of_isDigit (h : ∀ c ∈ cs, Text.isDigit c = true) :
    readInteger cs = (readMagnitude cs).map fun n => (n : Int) := by
  have hdrop : cs.dropWhile isMargin = cs := by
    cases cs with
    | nil => rfl
    | cons c cs =>
      exact List.dropWhile_cons_of_neg (by simp [isMargin_of_isDigit (h c List.mem_cons_self)])
  rw [readInteger, hdrop]
  -- a sign is no digit
  split
  · exact absurd (h '-' List.mem_cons_self) (by decide)
  · exact absurd (h '+' List.mem_cons_self) (by decide)
  · rfl

theorem readInteger_of_isNumeral (h : IsNumeral cs) (hne : cs ≠ []) :
    readInteger cs = .ok (numeralValue cs : Int) := by
  rw [readInteger_of_isDigit fun c hc => isDigit_of_isDecimal (h.decimal c hc),
    readMagnitude_of_isNumeral h hne]
  rfl

theorem readInteger_toDigits {n : Nat} (h : n < tenPower maxIntegerLength) :
    readInteger (Nat.toDigits 10 n) = .ok (n : Int) := by
  rw [readInteger_of_isNumeral (isNumeral_toDigits h) Nat.toDigits_ne_nil, numeralValue_toDigits]

end Reading

end SlotMarkup.Decimal
