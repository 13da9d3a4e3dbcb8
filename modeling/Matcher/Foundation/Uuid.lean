import Mathlib.Data.List.Basic
import Mathlib.Data.Nat.Basic
import Mathlib.Tactic.Ring

/-!
# Identifiers

A universally unique identifier is sixteen bytes.  Its text is the usual form of
thirty-two hexadecimal digits in five groups, and distinct identifiers have
distinct texts.
-/

namespace Matcher.Foundation

structure UUID where
  value : BitVec 128
deriving DecidableEq, Repr

namespace UUID

/-- The zero identifier, `uuid.Nil`. -/
def zero : UUID := ⟨0⟩

def nibble (id : UUID) (position : Nat) : Nat :=
  id.value.toNat / 16 ^ position % 16

def hexGroup (id : UUID) (high width : Nat) : List Char :=
  (List.range width).map fun offset => Nat.digitChar (id.nibble (high - offset))

def toText (id : UUID) : String :=
  String.ofList
    (id.hexGroup 31 8 ++ '-' :: (id.hexGroup 23 4 ++ '-' ::
      (id.hexGroup 19 4 ++ '-' :: (id.hexGroup 15 4 ++ '-' :: id.hexGroup 11 12))))

example : toText ⟨0x10⟩ = "00000000-0000-0000-0000-000000000010" := by
  decide +kernel

@[simp] theorem hexGroup_length (id : UUID) (high width : Nat) :
    (id.hexGroup high width).length = width := by
  simp [hexGroup]

private theorem digitChar_injective :
    ∀ first < 16, ∀ second < 16, Nat.digitChar first = Nat.digitChar second → first = second := by
  decide

theorem nibble_lt (id : UUID) (position : Nat) : id.nibble position < 16 :=
  Nat.mod_lt _ (by decide)

theorem nibble_eq_of_hexGroup_eq {first second : UUID} {high width : Nat}
    (h : first.hexGroup high width = second.hexGroup high width) {position : Nat}
    (hhigh : position ≤ high) (hlow : high < position + width) :
    first.nibble position = second.nibble position := by
  have hdigit := List.map_inj_left.mp h (high - position) (List.mem_range.mpr (by omega))
  rw [show high - (high - position) = position by omega] at hdigit
  exact digitChar_injective _ (nibble_lt first _) _ (nibble_lt second _) hdigit

private theorem eq_of_nibbles (width : Nat) :
    ∀ first second : Nat, first < 16 ^ width → second < 16 ^ width →
      (∀ position < width,
        first / 16 ^ position % 16 = second / 16 ^ position % 16) →
      first = second := by
  induction width with
  | zero =>
    intro first second hfirst hsecond _
    omega
  | succ _ ih =>
    intro first second hfirst hsecond hnibbles
    have hhigh : first / 16 = second / 16 := by
      refine ih (first / 16) (second / 16) ?_ ?_ ?_
      · rw [pow_succ] at hfirst
        exact Nat.div_lt_of_lt_mul (by omega)
      · rw [pow_succ] at hsecond
        exact Nat.div_lt_of_lt_mul (by omega)
      · intro position hposition
        have h := hnibbles (position + 1) (by omega)
        rwa [pow_succ', ← Nat.div_div_eq_div_mul, ← Nat.div_div_eq_div_mul] at h
    have hlow : first % 16 = second % 16 := by simpa using hnibbles 0 (by omega)
    omega

theorem toText_injective : Function.Injective toText := by
  intro first second h
  have hlist := String.ofList_injective h
  obtain ⟨h31, hlist⟩ := List.append_inj hlist (by simp)
  obtain ⟨h23, hlist⟩ := List.append_inj (List.cons.inj hlist).2 (by simp)
  obtain ⟨h19, hlist⟩ := List.append_inj (List.cons.inj hlist).2 (by simp)
  obtain ⟨h15, hlist⟩ := List.append_inj (List.cons.inj hlist).2 (by simp)
  have h11 := (List.cons.inj hlist).2
  have hnibbles : ∀ position < 32, first.nibble position = second.nibble position := by
    intro position hposition
    rcases Nat.lt_or_ge position 12 with hbound | hbound
    · exact nibble_eq_of_hexGroup_eq h11 (by omega) (by omega)
    rcases Nat.lt_or_ge position 16 with hbound | hbound
    · exact nibble_eq_of_hexGroup_eq h15 (by omega) (by omega)
    rcases Nat.lt_or_ge position 20 with hbound | hbound
    · exact nibble_eq_of_hexGroup_eq h19 (by omega) (by omega)
    rcases Nat.lt_or_ge position 24 with hbound | hbound
    · exact nibble_eq_of_hexGroup_eq h23 (by omega) (by omega)
    · exact nibble_eq_of_hexGroup_eq h31 (by omega) (by omega)
  have hvalue : first.value.toNat = second.value.toNat :=
    eq_of_nibbles 32 _ _ first.value.isLt second.value.isLt hnibbles
  cases first
  cases second
  exact congrArg UUID.mk (BitVec.eq_of_toNat_eq hvalue)

end UUID

end Matcher.Foundation
