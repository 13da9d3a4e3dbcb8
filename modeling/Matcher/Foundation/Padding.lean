import Mathlib.Data.List.DropRight
import Mathlib.Data.List.TakeWhile
import Matcher.Foundation.Text

/-!
# Surrounding white space

A text is its leading white space, its trimmed text and its trailing white
space.  Lower-casing the ASCII letters leaves all three parts in place, so two
texts agree up to the case of these letters exactly when the parts do.
-/

namespace Matcher.Foundation

def leadingSpace (input : String) : List Char :=
  input.toList.takeWhile isSpace

def trailingSpace (input : String) : List Char :=
  ((trimLeft input.toList).reverse.takeWhile isSpace).reverse

def SamePadding (first second : String) : Prop :=
  leadingSpace first = leadingSpace second ∧ trailingSpace first = trailingSpace second

instance (first second : String) : Decidable (SamePadding first second) :=
  inferInstanceAs (Decidable (_ ∧ _))

theorem toList_trimSpace (input : String) :
    (trimSpace input).toList = (trimLeft (trimLeft input.toList).reverse).reverse := by
  simp [trimSpace]

theorem toList_eq_padded (input : String) :
    input.toList = leadingSpace input ++ ((trimSpace input).toList ++ trailingSpace input) := by
  rw [toList_trimSpace, trailingSpace, ← List.reverse_append]
  simp only [leadingSpace, trimLeft]
  rw [List.takeWhile_append_dropWhile, List.reverse_reverse, List.takeWhile_append_dropWhile]

theorem dropWhile_of_isPrefix {α : Type} {p : α → Bool} {items rest : List α}
    (hstarts : items <+: rest) (h : rest.dropWhile p = rest) : items.dropWhile p = items := by
  cases items with
  | nil => rfl
  | cons _ others =>
    obtain ⟨more, rfl⟩ := hstarts
    apply List.dropWhile_cons_of_neg
    intro hitem
    have hshorter := (List.dropWhile_suffix (l := others ++ more) p).length_le
    rw [List.cons_append, List.dropWhile_cons_of_pos hitem] at h
    rw [h, List.length_cons] at hshorter
    omega

@[simp] theorem trimSpace_trimSpace (input : String) :
    trimSpace (trimSpace input) = trimSpace input := by
  have hright : (trimLeft (trimLeft input.toList).reverse).reverse =
      (trimLeft input.toList).rdropWhile isSpace := rfl
  have hleft : trimLeft ((trimLeft input.toList).rdropWhile isSpace) =
      (trimLeft input.toList).rdropWhile isSpace :=
    dropWhile_of_isPrefix (List.rdropWhile_prefix isSpace _) (List.dropWhile_idempotent isSpace _)
  rw [trimSpace, toList_trimSpace, hright, hleft]
  change String.ofList (((trimLeft input.toList).rdropWhile isSpace).rdropWhile isSpace) = _
  rw [List.rdropWhile_idempotent]
  rfl

theorem trimSpace_trimSpace_ne_empty {input : String} (h : trimSpace input ≠ "") :
    trimSpace (trimSpace input) ≠ "" := by
  rw [trimSpace_trimSpace]
  exact h

/-! ## Lower-casing -/

theorem isSpace_lowerAscii (character : Char) :
    isSpace (lowerAscii character) = isSpace character := by
  by_cases hletter : 65 ≤ character.toNat ∧ character.toNat ≤ 90
  · have hletters : ∀ offset : Fin 26,
        isSpace (lowerAscii (Char.ofNat (65 + offset))) = isSpace (Char.ofNat (65 + offset)) := by
      decide
    have hcode : 65 + (character.toNat - 65) = character.toNat := by omega
    have hcharacter := hletters ⟨character.toNat - 65, by omega⟩
    simpa only [hcode, Char.ofNat_toNat] using hcharacter
  · simp only [lowerAscii, if_neg hletter]

theorem lowerAscii_of_isSpace {character : Char} (h : isSpace character = true) :
    lowerAscii character = character := by
  unfold lowerAscii
  dsimp only
  split
  next hletter =>
    simp only [isSpace] at h
    grind
  next => rfl

theorem trimLeft_map_lowerAscii (characters : List Char) :
    trimLeft (characters.map lowerAscii) = (trimLeft characters).map lowerAscii := by
  have hsame : isSpace ∘ lowerAscii = isSpace := funext isSpace_lowerAscii
  rw [trimLeft, List.dropWhile_map, hsame]
  rfl

theorem takeWhile_isSpace_map_lowerAscii (characters : List Char) :
    (characters.map lowerAscii).takeWhile isSpace = characters.takeWhile isSpace := by
  have hsame : isSpace ∘ lowerAscii = isSpace := funext isSpace_lowerAscii
  rw [List.takeWhile_map, hsame]
  refine (List.map_congr_left fun character hmem => ?_).trans (List.map_id _)
  exact lowerAscii_of_isSpace (List.mem_takeWhile_imp hmem)

/-- Equal up to the case of ASCII letters: padded alike around texts that are. -/
theorem map_lowerAscii_eq_iff (first second : String) :
    first.toList.map lowerAscii = second.toList.map lowerAscii ↔
      SamePadding first second ∧
        (trimSpace first).toList.map lowerAscii = (trimSpace second).toList.map lowerAscii := by
  constructor
  · intro h
    have hleft : ∀ input : String, leadingSpace input =
        (input.toList.map lowerAscii).takeWhile isSpace :=
      fun input => (takeWhile_isSpace_map_lowerAscii _).symm
    have hright : ∀ input : String, trailingSpace input =
        ((trimLeft (input.toList.map lowerAscii)).reverse.takeWhile isSpace).reverse := by
      intro input
      rw [trimLeft_map_lowerAscii, ← List.map_reverse, takeWhile_isSpace_map_lowerAscii]
      rfl
    have hinner : ∀ input : String, (trimSpace input).toList.map lowerAscii =
        (trimLeft (trimLeft (input.toList.map lowerAscii)).reverse).reverse := by
      intro input
      rw [toList_trimSpace, trimLeft_map_lowerAscii, ← List.map_reverse,
        trimLeft_map_lowerAscii, ← List.map_reverse]
    refine ⟨⟨?_, ?_⟩, ?_⟩
    · rw [hleft, hleft, h]
    · rw [hright, hright, h]
    · rw [hinner, hinner, h]
  · rintro ⟨⟨hleading, htrailing⟩, hinner⟩
    rw [toList_eq_padded first, toList_eq_padded second, hleading, htrailing]
    simp only [List.map_append, hinner]

theorem eq_iff_samePadding (first second : String) :
    first = second ↔ SamePadding first second ∧ trimSpace first = trimSpace second := by
  constructor
  · rintro rfl
    exact ⟨⟨rfl, rfl⟩, rfl⟩
  · rintro ⟨⟨hleading, htrailing⟩, hinner⟩
    apply String.toList_injective
    rw [toList_eq_padded first, toList_eq_padded second, hleading, hinner, htrailing]

end Matcher.Foundation
