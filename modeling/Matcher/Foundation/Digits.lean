import Matcher.Foundation.Delimited
import Matcher.Foundation.Text
import Mathlib.Data.Nat.Digits.Lemmas

/-!
# Numbers in decimal digits

The digits of a number, padded with zeros to a least width, with a sign in front
of a negative one.  They end where a byte follows that is no digit.
-/

namespace Matcher.Foundation

variable {byte : UInt8} {width : ℕ} {digit : ℕ}

def IsDigit (byte : UInt8) : Prop := 48 ≤ byte ∧ byte ≤ 57

instance (byte : UInt8) : Decidable (IsDigit byte) :=
  inferInstanceAs (Decidable (_ ∧ _))

def digitByte (digit : ℕ) : UInt8 := UInt8.ofNat (48 + digit)

def digitOfByte (byte : UInt8) : ℕ := byte.toNat - 48

theorem IsDigit.bounds (h : IsDigit byte) : 32 ≤ byte.toNat ∧ byte.toNat < 128 := by
  have hlow : 48 ≤ byte.toNat := h.1
  have hhigh : byte.toNat ≤ 57 := h.2
  omega

theorem isDigit_digitByte (h : digit < 10) : IsDigit (digitByte digit) := by
  interval_cases digit <;> decide

theorem digitOfByte_digitByte (h : digit < 10) :
    digitOfByte (digitByte digit) = digit := by
  interval_cases digit <;> decide

def paddedDigits (width value : ℕ) : List ℕ :=
  let digits := Nat.digits 10 value
  digits ++ List.replicate (width - digits.length) 0

def decimal (width value : ℕ) : Bytes :=
  ((paddedDigits width value).map digitByte).reverse

example : decimal 2 7 = [48, 55] ∧ decimal 1 0 = [48] ∧
    decimal 4 12345 = [49, 50, 51, 52, 53] := by decide +kernel

theorem lt_of_mem_paddedDigits {value : ℕ} (h : digit ∈ paddedDigits width value) :
    digit < 10 := by
  rcases List.mem_append.mp h with hdigit | hzero
  · exact Nat.digits_lt_base (by decide) hdigit
  · rw [List.eq_of_mem_replicate hzero]
    decide

theorem ofDigits_paddedDigits (width value : ℕ) :
    Nat.ofDigits 10 (paddedDigits width value) = value := by
  simp [paddedDigits, Nat.ofDigits_append, Nat.ofDigits_digits, Nat.ofDigits_replicate_zero]

theorem paddedDigits_injective (width : ℕ) : Function.Injective (paddedDigits width) := by
  intro value other h
  rw [← ofDigits_paddedDigits width value, h, ofDigits_paddedDigits]

theorem isDigit_of_mem_decimal {value : ℕ} (h : byte ∈ decimal width value) : IsDigit byte := by
  obtain ⟨digit, hdigit, rfl⟩ := List.mem_map.mp (List.mem_reverse.mp h)
  exact isDigit_digitByte (lt_of_mem_paddedDigits hdigit)

theorem map_digitOfByte {digits : List ℕ} (h : ∀ digit ∈ digits, digit < 10) :
    (digits.map digitByte).map digitOfByte = digits := by
  calc (digits.map digitByte).map digitOfByte = digits.map (digitOfByte ∘ digitByte) := List.map_map
    _ = digits.map id := by
        apply List.map_congr_left
        intro digit hdigit
        exact digitOfByte_digitByte (h digit hdigit)
    _ = digits := List.map_id digits

theorem map_digitByte_inj {digits others : List ℕ} (hdigits : ∀ digit ∈ digits, digit < 10)
    (hothers : ∀ digit ∈ others, digit < 10) (h : digits.map digitByte = others.map digitByte) :
    digits = others := by
  rw [← map_digitOfByte hdigits, h, map_digitOfByte hothers]

theorem decimal_injective (width : ℕ) : Function.Injective (decimal width) := by
  intro value other h
  apply paddedDigits_injective width
  exact map_digitByte_inj (fun _ => lt_of_mem_paddedDigits)
    (fun _ => lt_of_mem_paddedDigits) (List.reverse_inj.mp h)

def NoDigit (rest : Bytes) : Prop := ∀ byte ∈ rest.head?, ¬ IsDigit byte

theorem noDigit_cons (h : ¬ IsDigit byte) (rest : Bytes) : NoDigit (byte :: rest) := by
  simpa [NoDigit] using h

theorem decimal_delimited (width : ℕ) : Delimited NoDigit (decimal width) := by
  intro value other rest rest' hrest hrest' h
  obtain ⟨hdigits, htail⟩ := append_inj_of_all
    (fun byte => isDigit_of_mem_decimal) (fun byte => isDigit_of_mem_decimal)
    hrest hrest' h
  exact ⟨decimal_injective width hdigits, htail⟩

/-! ## Signs -/

def minus : UInt8 := 45

def signedDecimal (width : ℕ) (value : ℤ) : Bytes :=
  if value < 0 then minus :: decimal width value.natAbs
  else decimal width value.natAbs

theorem mem_signedDecimal {value : ℤ} (h : byte ∈ signedDecimal width value) :
    IsDigit byte ∨ byte = minus := by
  unfold signedDecimal at h
  split at h
  · rcases List.mem_cons.mp h with hminus | hdigit
    · exact .inr hminus
    · exact .inl (isDigit_of_mem_decimal hdigit)
  · exact .inl (isDigit_of_mem_decimal h)

theorem decimal_ne_nil (hwidth : 0 < width) (value : ℕ) : decimal width value ≠ [] := by
  intro h
  have hlength := congrArg List.length h
  simp only [decimal, paddedDigits, List.length_reverse, List.length_map,
    List.length_append, List.length_replicate, List.length_nil] at hlength
  omega

theorem decimal_ne_cons (hwidth : 0 < width) {value : ℕ}
    (hbyte : ¬ IsDigit byte) {rest tail : Bytes} :
    decimal width value ++ rest ≠ byte :: tail := by
  intro h
  cases hdecimal : decimal width value with
  | nil => exact decimal_ne_nil hwidth value hdecimal
  | cons =>
    rw [hdecimal] at h
    apply hbyte
    rw [← (List.cons.inj h).1]
    apply isDigit_of_mem_decimal
    rw [hdecimal]
    exact List.mem_cons_self

theorem signedDecimal_ne_cons (hwidth : 0 < width) {value : ℤ}
    (hbyte : ¬ IsDigit byte) (hminus : byte ≠ minus) {rest tail : Bytes} :
    signedDecimal width value ++ rest ≠ byte :: tail := by
  intro h
  unfold signedDecimal at h
  split at h
  · exact hminus (List.cons.inj h).1.symm
  · exact decimal_ne_cons hwidth hbyte h

theorem signedDecimal_delimited (hwidth : 0 < width) : Delimited NoDigit (signedDecimal width) := by
  intro value other rest rest' hrest hrest' h
  unfold signedDecimal at h
  split at h
  next hvalue =>
    split at h
    next hother =>
      obtain ⟨habs, htail⟩ := decimal_delimited width hrest hrest' (List.cons.inj h).2
      exact ⟨by omega, htail⟩
    next => exact absurd h.symm (decimal_ne_cons hwidth (by decide))
  next hvalue =>
    split at h
    next => exact absurd h (decimal_ne_cons hwidth (by decide))
    next hother =>
      obtain ⟨habs, htail⟩ := decimal_delimited width hrest hrest' h
      exact ⟨by omega, htail⟩

end Matcher.Foundation
