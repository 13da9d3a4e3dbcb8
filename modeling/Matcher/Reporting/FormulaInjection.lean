import Matcher.Foundation.ByteText
import Matcher.Foundation.Digits

/-!
# Formula injection

A cell whose text a spreadsheet would take for a formula is exported behind a quote.
A signed number is left alone, and the scanner that recognises numbers accepts exactly
the texts of a grammar.  Positions in a text are modelled by what remains from there.
-/

namespace Matcher.Reporting

open Foundation

/-! ## The scanner -/

def isSign (char : UInt8) : Bool := char ∈ ascii "+-"

def skipSign : Bytes → Bytes
  | [] => []
  | char :: rest => if isSign char then rest else char :: rest

def consumeDigits (hasDigit : Bool) : Bytes → Bool
  | [] => hasDigit
  | char :: rest => if char < 48 ∨ 57 < char then false else consumeDigits true rest

def consumeExponent (rest : Bytes) : Bool := consumeDigits false (skipSign rest)

def scanMantissa (hasDigit hasDot : Bool) : Bytes → Bool
  | [] => hasDigit
  | char :: rest =>
    if IsDigit char then scanMantissa true hasDot rest
    else if char = 46 ∧ hasDot = false then scanMantissa hasDigit true rest
    else if char ∈ ascii "eE" ∧ hasDigit = true then consumeExponent rest
    else false

def isNumericString (value : Bytes) : Bool :=
  if value.length = 0 then false
  else if (skipSign value).length = 0 then false
  else scanMantissa false false (skipSign value)

def sanitizeFormulaInjection : Bytes → Bytes
  | [] => []
  | char :: rest =>
    if char ∈ ascii "=@\t\r" then 39 :: char :: rest
    else if isSign char then
      if isNumericString (char :: rest) then char :: rest else 39 :: char :: rest
    else char :: rest

/-! ## The grammar -/

def OptionalSign (sign : Bytes) : Prop := sign = [] ∨ ∃ char, isSign char = true ∧ sign = [char]

def Digits (digits : Bytes) : Prop := digits ≠ [] ∧ ∀ char ∈ digits, IsDigit char

/-- The flags say what came before: a digit, and the dot. -/
structure Mantissa (hasDigit hasDot : Bool) (mantissa : Bytes) : Prop where
  chars : ∀ char ∈ mantissa, IsDigit char ∨ char = 46
  dots : mantissa.count 46 + hasDot.toNat ≤ 1
  digit : hasDigit = true ∨ ∃ char ∈ mantissa, IsDigit char

def Exponent (exponent : Bytes) : Prop :=
  exponent = [] ∨ ∃ mark ∈ ascii "eE", ∃ sign digits,
    OptionalSign sign ∧ Digits digits ∧ exponent = mark :: (sign ++ digits)

def Unsigned (hasDigit hasDot : Bool) (value : Bytes) : Prop :=
  ∃ mantissa exponent, Mantissa hasDigit hasDot mantissa ∧ Exponent exponent ∧
    value = mantissa ++ exponent

def Numeric (value : Bytes) : Prop :=
  ∃ sign rest, OptionalSign sign ∧ Unsigned false false rest ∧ value = sign ++ rest

variable {char : UInt8} {hasDigit hasDot : Bool} {value rest : Bytes}

/-! ## The scanner accepts the grammar -/

theorem isSign_iff : isSign char = true ↔ char = 43 ∨ char = 45 := by
  simp [isSign, ascii]

theorem isSign_of_isDigit (h : IsDigit char) : isSign char = false := by
  rw [Bool.eq_false_iff, ne_eq, isSign_iff]
  rintro (rfl | rfl)
  all_goals exact absurd h (by decide)

theorem skipSign_iff {accepts : Bytes → Prop}
    (h : ∀ char rest, accepts (char :: rest) → isSign char = false) : accepts (skipSign value) ↔
      ∃ sign rest, OptionalSign sign ∧ accepts rest ∧ value = sign ++ rest := by
  constructor
  · intro haccepts
    cases value with
    | nil => exact ⟨[], [], .inl rfl, haccepts, rfl⟩
    | cons char rest =>
      rw [skipSign] at haccepts
      split at haccepts
      next hsign => exact ⟨[char], rest, .inr ⟨char, hsign, rfl⟩, haccepts, rfl⟩
      next => exact ⟨[], char :: rest, .inl rfl, haccepts, rfl⟩
  · rintro ⟨sign, rest, hsign, haccepts, rfl⟩
    rcases hsign with rfl | ⟨char, hsign, rfl⟩
    · cases rest with
      | nil => exact haccepts
      | cons char rest => simpa [skipSign, h char rest haccepts] using haccepts
    · simpa [skipSign, hsign] using haccepts

theorem consumeDigits_iff (digits : Bytes) : consumeDigits hasDigit digits = true ↔
    (hasDigit = true ∨ digits ≠ []) ∧ ∀ char ∈ digits, IsDigit char := by
  induction digits generalizing hasDigit with
  | nil => simp [consumeDigits]
  | cons char _ ih =>
    have hdigit : char < 48 ∨ 57 < char ↔ ¬ IsDigit char := by
      rw [IsDigit, not_and_or, UInt8.not_le, UInt8.not_le]
    simp only [consumeDigits, hdigit, List.forall_mem_cons]
    split_ifs with hchar
    · simp [hchar, ih]
    · simp [hchar]

theorem consumeExponent_iff : consumeExponent value = true ↔
    ∃ sign digits, OptionalSign sign ∧ Digits digits ∧ value = sign ++ digits := by
  have hdigits : consumeExponent value = true ↔ Digits (skipSign value) := by
    rw [consumeExponent, consumeDigits_iff, Digits]
    simp
  rw [hdigits]
  exact skipSign_iff fun char rest h => isSign_of_isDigit (h.2 char List.mem_cons_self)

theorem mantissa_nil : Mantissa hasDigit hasDot [] ↔ hasDigit = true := by
  constructor
  · intro h
    simpa using h.digit
  · intro h
    exact ⟨by simp, by simp [Bool.toNat_le], .inl h⟩

theorem mantissa_cons : Mantissa hasDigit hasDot (char :: rest) ↔
    IsDigit char ∧ Mantissa true hasDot rest ∨
      char = 46 ∧ hasDot = false ∧ Mantissa hasDigit true rest := by
  have hdot : ¬ IsDigit 46 := by decide
  constructor
  · rintro ⟨hchars, hdots, hdigit⟩
    obtain ⟨hchar | rfl, htail⟩ := List.forall_mem_cons.mp hchars
    · have hne : char ≠ 46 := fun h => hdot (h ▸ hchar)
      rw [List.count_cons_of_ne hne] at hdots
      exact .inl ⟨hchar, htail, hdots, .inl rfl⟩
    · rw [List.count_cons_self] at hdots
      simp only [List.exists_mem_cons_iff, hdot, false_or] at hdigit
      cases hasDot
      · exact .inr ⟨rfl, rfl, htail, hdots, hdigit⟩
      · simp at hdots
  · rintro (⟨hchar, hchars, hdots, -⟩ | ⟨rfl, rfl, hchars, hdots, hdigit⟩)
    · have hne : char ≠ 46 := fun h => hdot (h ▸ hchar)
      refine ⟨List.forall_mem_cons.mpr ⟨.inl hchar, hchars⟩, ?_, .inr ⟨char, by simp, hchar⟩⟩
      rwa [List.count_cons_of_ne hne]
    · refine ⟨List.forall_mem_cons.mpr ⟨.inr rfl, hchars⟩, ?_, ?_⟩
      · rwa [List.count_cons_self]
      · simpa [hdot] using hdigit

theorem exponent_cons :
    Exponent (char :: rest) ↔ char ∈ ascii "eE" ∧ consumeExponent rest = true := by
  rw [consumeExponent_iff]
  constructor
  · rintro (h | ⟨mark, hmark, sign, digits, hsign, hdigits, h⟩)
    · cases h
    · cases h
      exact ⟨hmark, sign, digits, hsign, hdigits, rfl⟩
  · rintro ⟨hmark, sign, digits, hsign, hdigits, rfl⟩
    exact .inr ⟨char, hmark, sign, digits, hsign, hdigits, rfl⟩

theorem unsigned_cons : Unsigned hasDigit hasDot (char :: rest) ↔
    IsDigit char ∧ Unsigned true hasDot rest ∨
      char = 46 ∧ hasDot = false ∧ Unsigned hasDigit true rest ∨
      hasDigit = true ∧ char ∈ ascii "eE" ∧ consumeExponent rest = true := by
  rw [← exponent_cons]
  constructor
  · rintro ⟨mantissa, exponent, hmantissa, hexponent, h⟩
    cases mantissa with
    | nil => exact .inr (.inr ⟨mantissa_nil.mp hmantissa, h ▸ hexponent⟩)
    | cons _ mantissa =>
      obtain ⟨rfl, rfl⟩ := List.cons.inj h
      rcases mantissa_cons.mp hmantissa with ⟨hchar, htail⟩ | ⟨hchar, hdot, htail⟩
      · exact .inl ⟨hchar, mantissa, exponent, htail, hexponent, rfl⟩
      · exact .inr (.inl ⟨hchar, hdot, mantissa, exponent, htail, hexponent, rfl⟩)
  · rintro (⟨hchar, mantissa, exponent, hmantissa, hexponent, rfl⟩ |
      ⟨hchar, hdot, mantissa, exponent, hmantissa, hexponent, rfl⟩ | ⟨hdigit, hexponent⟩)
    · exact ⟨_, exponent, mantissa_cons.mpr (.inl ⟨hchar, hmantissa⟩), hexponent, rfl⟩
    · exact ⟨_, exponent, mantissa_cons.mpr (.inr ⟨hchar, hdot, hmantissa⟩), hexponent, rfl⟩
    · exact ⟨[], _, mantissa_nil.mpr hdigit, hexponent, rfl⟩

theorem scanMantissa_iff :
    scanMantissa hasDigit hasDot value = true ↔ Unsigned hasDigit hasDot value := by
  have hmarks : ∀ mark ∈ ascii "eE", ¬ IsDigit mark ∧ mark ≠ 46 := by decide +kernel
  induction value generalizing hasDigit hasDot with
  | nil => simp [scanMantissa, Unsigned, mantissa_nil, Exponent]
  | cons char _ ih =>
    have hmark := hmarks char
    have hdot : IsDigit char → char ≠ 46 := by
      rintro h rfl
      exact absurd h (by decide)
    simp only [unsigned_cons, ← ih, scanMantissa]
    grind

theorem isNumericString_iff : isNumericString value = true ↔ Numeric value := by
  have hscan : isNumericString value = scanMantissa false false (skipSign value) := by
    cases value with
    | nil => rfl
    | cons char rest =>
      cases hrest : skipSign (char :: rest) with
      | nil => simp [isNumericString, hrest, scanMantissa]
      | cons => simp [isNumericString, hrest]
  rw [hscan, scanMantissa_iff]
  apply skipSign_iff
  intro char rest h
  rcases unsigned_cons.mp h with ⟨hchar, -⟩ | ⟨rfl, -⟩ | ⟨hdigit, -⟩
  · exact isSign_of_isDigit hchar
  · decide
  · cases hdigit

/-! ## Sanitized cells -/

def Harmless (value : Bytes) : Prop :=
  ∀ char rest, value = char :: rest → char ∉ ascii "=@\t\r" ∧ (char ∈ ascii "+-" → Numeric value)

theorem sanitizeFormulaInjection_outcome (value : Bytes) :
    sanitizeFormulaInjection value = value ∧ Harmless value ∨
      sanitizeFormulaInjection value = 39 :: value := by
  cases value with
  | nil => exact .inl ⟨rfl, fun char rest h => by cases h⟩
  | cons =>
    simp only [sanitizeFormulaInjection, isSign, decide_eq_true_eq]
    split_ifs with hformula hsign hnumeric
    · exact .inr rfl
    · refine .inl ⟨rfl, ?_⟩
      rintro first tail ⟨⟩
      exact ⟨hformula, fun _ => isNumericString_iff.mp hnumeric⟩
    · exact .inr rfl
    · refine .inl ⟨rfl, ?_⟩
      rintro first tail ⟨⟩
      exact ⟨hformula, fun hfirst => absurd hfirst hsign⟩

theorem sanitizeFormulaInjection_safe (value : Bytes) :
    (isNumericString value = true ↔ Numeric value) ∧
      sanitizeFormulaInjection (sanitizeFormulaInjection value) = sanitizeFormulaInjection value ∧
      (sanitizeFormulaInjection value = value ∨ sanitizeFormulaInjection value = 39 :: value) ∧
      Harmless (sanitizeFormulaInjection value) := by
  refine ⟨isNumericString_iff, ?_⟩
  rcases sanitizeFormulaInjection_outcome value with ⟨hsame, hharmless⟩ | hquoted
  · rw [hsame, hsame]
    exact ⟨rfl, .inl rfl, hharmless⟩
  · rw [hquoted]
    refine ⟨rfl, .inr rfl, ?_⟩
    rintro char rest ⟨⟩
    exact ⟨by decide, fun hsign => absurd hsign (by decide)⟩

end Matcher.Reporting
